import DocumentDb.Numeric.Decimal
import DocumentDb.Text.Blank

/-!
# Field paths

The ordered list of field names that an index covers. A list given by a user is checked: it names at
least one field, and no name is blank.
-/

set_option autoImplicit false

namespace DocumentDb

/-- Ordered field names. -/
structure FieldPath where
  fields : List String
deriving DecidableEq, Inhabited, Repr

namespace FieldPath

/-- Lexicographic order of two lists of names. -/
def compareFields : List String → List String → Ordering
  | [], [] => .eq
  | [], _ :: _ => .lt
  | _ :: _, [] => .gt
  | a :: as, b :: bs => (compare a b).then (compareFields as bs)

instance : Ord FieldPath := ⟨fun a b => compareFields a.fields b.fields⟩

/-- The path that names one field. -/
def single (field : String) : FieldPath := ⟨[field]⟩

/-- The first field. -/
def first (p : FieldPath) : String := p.fields.headD ""

def length (p : FieldPath) : Nat := p.fields.length

def isCompound (p : FieldPath) : Bool := 1 < p.fields.length

/-- Whether `p` begins with the fields of `start`, in order. -/
def startsWith (p start : FieldPath) : Bool := start.fields.isPrefixOf p.fields

/-- The names joined by commas, as they stand in the name of a backing map. -/
def encoded (p : FieldPath) : String := ",".intercalate p.fields

def render (p : FieldPath) : String := "[" ++ ", ".intercalate p.fields ++ "]"

end FieldPath

end DocumentDb
