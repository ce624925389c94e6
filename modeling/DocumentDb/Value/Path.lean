import DocumentDb.Numeric.Decimal
import DocumentDb.Value.Basic

/-!
# Embedded paths

A dotted path such as `address.city` or `tags.0` reaches into embedded documents and arrays. A
segment that is a number picks an element of an array; any other segment is looked up in every
element, and the results are collected into one array.
-/

set_option autoImplicit false

namespace DocumentDb

/-- The separator of path segments. -/
def pathSeparator : Char := '.'

/-- The pieces of a list between the separators. -/
def splitAtSeparator : List Char → List (List Char)
  | [] => [[]]
  | c :: rest =>
    if c = pathSeparator then [] :: splitAtSeparator rest
    else
      match splitAtSeparator rest with
      | piece :: pieces => (c :: piece) :: pieces
      | [] => [[c]]

/-- The segments of a path. -/
def pathSegments (path : String) : List String :=
  (splitAtSeparator path.toList).map String.ofList

/-- The position in an array that a segment names. -/
def positionOf? (segment : String) : Option Nat := readUnsigned? (Nat.pow 2 64 - 1) segment

namespace Value

/-- What one element contributes to a collected array. -/
def collected : Option Value → List Value
  | some (.array nested) => nested
  | some v => [v]
  | none => []

mutual

/-- The value that the segments lead to. -/
def resolve (segments : List String) (v : Value) : Option Value :=
  match segments, v with
  | [], v => some v
  | name :: rest, .document fields => resolveField name rest fields
  | name :: rest, .array items =>
    match positionOf? name with
    | some i => resolveAt rest i items
    | none =>
      match resolveEach (name :: rest) items with
      | [] => none
      | found => some (.array found)
  | _ :: _, _ => none

/-- Continues in the field `name`. -/
def resolveField (name : String) (rest : List String) : List (String × Value) → Option Value
  | [] => none
  | (n, v) :: fields =>
    if compare name n = .eq then resolve rest v else resolveField name rest fields

/-- Continues in the element at a position. -/
def resolveAt (rest : List String) : Nat → List Value → Option Value
  | _, [] => none
  | 0, v :: _ => resolve rest v
  | i + 1, _ :: items => resolveAt rest i items

/-- Follows the segments in every element. -/
def resolveEach (segments : List String) : List Value → List Value
  | [] => []
  | v :: items => collected (resolve segments v) ++ resolveEach segments items

end

end Value

namespace Document

/-- The value at a path: the top-level field of that very name if there is one, else what the
segments of a dotted path lead to. -/
def getPath? (d : Document) (path : String) : Option Value :=
  match d.get? path with
  | some v => some v
  | none =>
    match pathSegments path with
    | name :: next :: rest => (d.get? name).bind (Value.resolve (next :: rest))
    | _ => none

/-- The value at a path, null if there is none. -/
def valueAt (d : Document) (path : String) : Value := (d.getPath? path).getD .null

end Document

end DocumentDb
