import DocumentDb.Json.Reader
import DocumentDb.Value.Basic

/-!
# Values as JSON

`Value.toJson` writes points in time as RFC 3339 text and NaNs and infinities as null;
`Value.ofJson` reads integers that fit 64 bits with a sign as integers and all other numbers as
floats.
-/

set_option autoImplicit false

namespace DocumentDb

namespace Value

mutual

/-- The JSON form of a value. -/
def toJson : Value → Json
  | .null => .null
  | .bool b => .bool b
  | .int n => .integer n.toInt
  | .float x => if x.isFinite then .float x else .null
  | .string s => .string s
  | .dateTime t => .string t.render
  | .array items => .array (itemsToJson items)
  | .document fields => .object (fieldsToJson fields)

/-- Items as JSON values. -/
def itemsToJson : List Value → List Json
  | [] => []
  | v :: rest => toJson v :: itemsToJson rest

/-- Fields as JSON members. -/
def fieldsToJson : List (String × Value) → List (String × Json)
  | [] => []
  | (name, v) :: rest => (name, toJson v) :: fieldsToJson rest

end

/-- Whether an integer fits 64 bits with a sign. -/
def fitsInt64 (n : Int) : Bool := -(Nat.pow 2 63 : Int) ≤ n && n < (Nat.pow 2 63 : Int)

mutual

/-- The value of a JSON value. -/
def ofJson : Json → Value
  | .null => .null
  | .bool b => .bool b
  | .integer n => if fitsInt64 n then .int (Int64.ofInt n) else .float (Binary64.ofInt n)
  | .float x => .float x
  | .string s => .string s
  | .array items => .array (itemsOfJson items)
  | .object members => .document (fieldsOfJson members)

/-- JSON values as items. -/
def itemsOfJson : List Json → List Value
  | [] => []
  | j :: rest => ofJson j :: itemsOfJson rest

/-- JSON members as fields. -/
def fieldsOfJson : List (String × Json) → List (String × Value)
  | [] => []
  | (name, j) :: rest => (name, ofJson j) :: fieldsOfJson rest

end

/-- The compact JSON text of a value. -/
def render (v : Value) : String := v.toJson.render

end Value

namespace Document

/-- A document as a JSON object. -/
def toJson (d : Document) : Json := .object (Value.fieldsToJson d.fields)

/-- The document of a JSON object; any other JSON value gives the empty document. -/
def ofJson (j : Json) : Document :=
  match Value.ofJson j with
  | .document fields => ⟨fields⟩
  | _ => empty

/-- Reads a document from JSON text. -/
def ofJsonText? (text : String) : Option Document := (Json.read? text).map ofJson

end Document

end DocumentDb
