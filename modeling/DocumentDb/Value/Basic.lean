import DocumentDb.DateTime
import DocumentDb.Numeric.Shortest
import DocumentDb.SortedEntries

/-!
# Values and documents

A document is a record of named fields, sorted by name, whose values are null, scalars, arrays of
values, or documents again. `Value.same` is the equality of content: numbers compare as numbers, so
a NaN is not even the same as itself.
-/

set_option autoImplicit false

namespace DocumentDb

/-- A value stored in a document field. The fields of an embedded document are sorted by name. -/
inductive Value
  | null
  | bool (b : Bool)
  | int (n : Int64)
  | float (x : Binary64)
  | string (s : String)
  | dateTime (t : DateTime)
  | array (items : List Value)
  | document (fields : List (String × Value))
deriving Inhabited

/-- A record: named fields, sorted by name. -/
structure Document where
  fields : List (String × Value)
deriving Inhabited

namespace Value

/-- The type of a value as messages name it. -/
def typeName : Value → String
  | .null => "null"
  | .bool _ => "bool"
  | .int _ => "int64"
  | .float _ => "float64"
  | .string _ => "string"
  | .dateTime _ => "datetime"
  | .array _ => "array"
  | .document _ => "document"

def isNull : Value → Bool
  | .null => true
  | _ => false

/-- Scalars are the values that can be ordered and used as index keys. -/
def isScalar : Value → Bool
  | .bool _ | .int _ | .float _ | .string _ | .dateTime _ => true
  | _ => false

def isArray : Value → Bool
  | .array _ => true
  | _ => false

def isDocument : Value → Bool
  | .document _ => true
  | _ => false

def asString? : Value → Option String
  | .string s => some s
  | _ => none

def asInt? : Value → Option Int64
  | .int n => some n
  | _ => none

/-- A number as a float; integers are rounded. -/
def asFloat? : Value → Option Binary64
  | .float x => some x
  | .int n => some (Binary64.ofInt n.toInt)
  | _ => none

def asBool? : Value → Option Bool
  | .bool b => some b
  | _ => none

def asDateTime? : Value → Option DateTime
  | .dateTime t => some t
  | _ => none

def asArray? : Value → Option (List Value)
  | .array items => some items
  | _ => none

def asDocument? : Value → Option Document
  | .document fields => some ⟨fields⟩
  | _ => none

/-- The values that a condition on a field looks at: the elements of an array, or the value
itself. -/
def elements : Value → List Value
  | .array items => items
  | v => [v]

mutual

/-- Whether two values have the same content. -/
def same : Value → Value → Bool
  | .null, .null => true
  | .bool a, .bool b => a == b
  | .int a, .int b => a == b
  | .float a, .float b => a.sameNumber b
  | .string a, .string b => a == b
  | .dateTime a, .dateTime b => a == b
  | .array as, .array bs => sameItems as bs
  | .document as, .document bs => sameFields as bs
  | _, _ => false

/-- Structural equality of lists of values. -/
def sameItems : List Value → List Value → Bool
  | [], [] => true
  | a :: as, b :: bs => same a b && sameItems as bs
  | _, _ => false

/-- Structural equality of lists of fields. -/
def sameFields : List (String × Value) → List (String × Value) → Bool
  | [], [] => true
  | (m, a) :: as, (n, b) :: bs => m == n && same a b && sameFields as bs
  | _, _ => false

end

end Value

namespace Document

def empty : Document := ⟨[]⟩

/-- The value of a top-level field. -/
def get? (d : Document) (name : String) : Option Value := SortedEntries.get? name d.fields

/-- Whether a document has a field, whatever its value. -/
def hasField (d : Document) (name : String) : Bool := SortedEntries.contains name d.fields

/-- The document with a top-level field set. -/
def put (d : Document) (name : String) (v : Value) : Document :=
  ⟨SortedEntries.insert name v d.fields⟩

/-- The document without a top-level field. -/
def erase (d : Document) (name : String) : Document := ⟨SortedEntries.erase name d.fields⟩

def names (d : Document) : List String := d.fields.map (·.1)

def size (d : Document) : Nat := d.fields.length

/-- A document as a value. -/
def toValue (d : Document) : Value := .document d.fields

/-- The document with the given fields; of fields with one name the last counts. -/
def ofFields (fields : List (String × Value)) : Document :=
  fields.foldl (fun d (name, v) => d.put name v) empty

/-- Structural equality of documents. -/
def same (a b : Document) : Bool := Value.sameFields a.fields b.fields

end Document

end DocumentDb
