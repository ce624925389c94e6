import DocumentDb.Serial.Shape
import DocumentDb.Value.Json

/-!
# Typed form of values and documents

Unlike plain JSON, this form names the type of every value, so that integers, floats, texts and
points in time are told apart when it is read again. A document is a record with the one field
`fields`.
-/

set_option autoImplicit false

namespace DocumentDb.Serial

open Json (Tree TextPart)

/-! ### Writing -/

mutual

/-- The typed text of a value. -/
def value : Value → String
  | .null => Json.quote "Null"
  | .bool b => variant "Bool" (Json.bool b).render
  | .int n => variant "Int64" (Json.integer n.toInt).render
  | .float x => variant "Float64" (Json.float x).render
  | .string s => variant "String" (Json.quote s)
  | .dateTime t => variant "DateTime" (Json.quote t.renderZulu)
  | .array items => variant "Array" (list (values items))
  | .document fields => variant "Document" (record [("fields", record (members fields))])

def values : List Value → List String
  | [] => []
  | v :: rest => value v :: values rest

def members : List (String × Value) → List (String × String)
  | [] => []
  | (name, v) :: rest => (name, value v) :: members rest

end

/-- The typed text of a document. -/
def document (d : Document) : String := record [("fields", record (members d.fields))]

/-! ### Reading -/

/-- A scalar value or null, from the name of its type and its content. -/
def scalar? : (name : String) → (content : Option Tree) → Option Value
  | "Null", none | "Null", some .null => some .null
  | "Bool", some t => (bool? t).map .bool
  | "Int64", some t =>
    (integer? (-(Nat.pow 2 63 : Int)) ((Nat.pow 2 63 : Int) - 1) t).map fun i =>
      .int (Int64.ofInt i)
  | "Float64", some t => (float? t).map .float
  | "String", some t => (text? t).map .string
  | "DateTime", some t => ((text? t).bind DateTime.read?).map .dateTime
  | _, _ => none

mutual

/-- The value of a typed tree. -/
def value? : (depth : Nat) → Tree → Option Value
  | 0, t => (variant? 0 t).bind fun (name, content) => scalar? name content
  | depth + 1, t =>
    (variant? (depth + 1) t).bind fun
      | ("Array", some items) => (items? depth items).map .array
      | ("Document", some d) =>
        (fields? depth d).map fun fields => (Document.ofFields fields).toValue
      | (name, content) => scalar? name content

def items? : (depth : Nat) → Tree → Option (List Value)
  | 0, _ => none
  | depth + 1, t => list? (value? depth) (depth + 1) t

/-- The fields of a document, in the order in which they stand. -/
def fields? : (depth : Nat) → Tree → Option (List (String × Value))
  | depth + 2, t =>
    match record? ["fields"] (depth + 2) t with
    | some [some (.object members)] =>
      (membersOf? members).bind fun ms => ms.mapM fun (name, t) => (value? depth t).map (name, ·)
    | _ => none
  | _, _ => none

end

/-- The document of a typed tree; of fields with one name the last counts. -/
def document? (depth : Nat) (t : Tree) : Option Document := (fields? depth t).map Document.ofFields

end DocumentDb.Serial
