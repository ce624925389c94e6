import DocumentDb.FieldPath

/-!
# Running builds

At most one build runs for a list of fields at a time. To begin one is to take the flag of the
fields, for which a guard is given; the flag is free again once its guard is released. Flags can be
forgotten while they are held. Their guards then release nothing, not even a flag that was taken
anew since.
-/

set_option autoImplicit false

namespace DocumentDb

/-- What the holder of a flag gives back. -/
structure Guard where
  number : Nat
deriving DecidableEq, Inhabited, Repr

/-- The flags that are held, each with its guard, and the number of guards given so far. -/
structure Builds where
  held : List (FieldPath × Guard) := []
  issued : Nat := 0
deriving Inhabited, Repr

namespace Builds

/-- Whether a build of exactly these fields is running. -/
def isBuilding (b : Builds) (fields : FieldPath) : Bool := b.held.any (·.1 == fields)

/-- Whether some index is being built. -/
def anyBuilding (b : Builds) : Bool := !b.held.isEmpty

/-- Takes the flag of the fields, unless it is held. -/
def tryBegin (b : Builds) (fields : FieldPath) : Option (Guard × Builds) :=
  if b.isBuilding fields then none
  else
    let guard : Guard := ⟨b.issued⟩
    some (guard, ⟨b.held ++ [(fields, guard)], b.issued + 1⟩)

/-- Frees the flag that a guard stands for. -/
def release (b : Builds) (guard : Guard) : Builds :=
  { b with held := b.held.filter (·.2 != guard) }

/-- Forgets the flag of the fields. -/
def forget (b : Builds) (fields : FieldPath) : Builds :=
  { b with held := b.held.filter (·.1 != fields) }

/-- Forgets all flags. -/
def forgetAll (b : Builds) : Builds := { b with held := [] }

end Builds

end DocumentDb
