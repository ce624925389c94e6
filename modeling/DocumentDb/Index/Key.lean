import DocumentDb.Value.Json
import DocumentDb.Value.Order

/-!
# Index keys

A key is null or a scalar value. Null is below every scalar, and scalars order by class first:
booleans, numbers, texts, points in time. Numbers compare across integers and floats, so `1` and
`1.0` are one key.
-/

set_option autoImplicit false

namespace DocumentDb

/-- The classes of keys, lowest first. -/
inductive KeyClass
  | null
  | bool
  | number
  | string
  | dateTime
deriving DecidableEq, Repr

namespace KeyClass

/-- The place of a class in the order of keys. -/
def rank : KeyClass → Nat
  | .null => 0
  | .bool => 1
  | .number => 2
  | .string => 3
  | .dateTime => 4

def name : KeyClass → String
  | .null => "Null"
  | .bool => "Bool"
  | .number => "Number"
  | .string => "String"
  | .dateTime => "DateTime"

instance : Ord KeyClass := ⟨fun a b => compare a.rank b.rank⟩

end KeyClass

/-- The class of a value as a key. Values that are no keys count as null. -/
def Value.keyClass : Value → KeyClass
  | .bool _ => .bool
  | .int _ | .float _ => .number
  | .string _ => .string
  | .dateTime _ => .dateTime
  | .null | .array _ | .document _ => .null

/-- Whether a value can be a key: null or a scalar. -/
def Value.isKey (v : Value) : Bool := v.isNull || v.isScalar

/-- A value that can be ordered: null or a scalar. -/
def Key : Type := { v : Value // v.isKey = true }

namespace Key

/-- The key of a value, if it has one. -/
def ofValue? (v : Value) : Option Key := if h : v.isKey = true then some ⟨v, h⟩ else none

/-- The value that a key is made of. -/
def value (k : Key) : Value := k.1

/-- The class of a key. -/
def keyClass (k : Key) : KeyClass := k.value.keyClass

/-- Keys of different classes order by class, keys of one class by value. -/
def compare (a b : Key) : Ordering :=
  match Ord.compare a.keyClass b.keyClass with
  | .eq => (Value.compareScalars a.value b.value).getD .eq
  | unequal => unequal

instance : Ord Key := ⟨Key.compare⟩

/-- Whether two keys are one key. -/
def same (a b : Key) : Bool := a.compare b == .eq

/-- Compact JSON text of a key. -/
def render (k : Key) : String := k.value.render

instance : Inhabited Key := ⟨⟨.null, rfl⟩⟩

end Key

end DocumentDb
