import DocumentDb.Value.Basic

/-!
# Order of scalar values

Scalars of one class are ordered: booleans, numbers across integers and floats, texts by code point,
and points in time. `Value.equal` is the equality that filters use, under which `1` equals `1.0`.
-/

set_option autoImplicit false

namespace DocumentDb.Value

/-- The order of two scalars of one class; nothing for any other pair. -/
def compareScalars : Value → Value → Option Ordering
  | .bool a, .bool b => some (compare a b)
  | .int a, .int b => some (compare a.toInt b.toInt)
  | .float a, .float b => some (Binary64.compareFloats a b)
  | .int a, .float b => some (Binary64.compareIntFloat a b)
  | .float a, .int b => some (Binary64.compareIntFloat b a).swap
  | .string a, .string b => some (compare a b)
  | .dateTime a, .dateTime b => some (a.compare b)
  | _, _ => none

/-- Equality in filters: scalars of one class by their order, all else by content. -/
def equal (a b : Value) : Bool :=
  match compareScalars a b with
  | some o => o == .eq
  | none => a.same b

end DocumentDb.Value
