import DocumentDb.Error
import DocumentDb.Stream.Cursor

/-!
# Projections

A projection is a document that names the fields to keep. Null keeps a field as it is. A document
keeps the field too, and if the field holds a document, only what it names inside. Fields that a
record lacks are not added.
-/

set_option autoImplicit false

namespace DocumentDb

namespace Projection

mutual

/-- A projection holds nothing but null and documents, at every depth. `path` leads to the value,
`outer` to the document that holds it. -/
def checkValue (path : String) : Value → Result Unit
  | .null => .ok ()
  | .document fields => checkFields (path ++ ".") fields
  | v => .error (.badProjection path v.typeName)

/-- Checks the fields of a projection, each at its path. -/
def checkFields (outer : String) : List (String × Value) → Result Unit
  | [] => .ok ()
  | (name, v) :: rest => (checkValue (outer ++ name) v).bind fun _ => checkFields outer rest

end

/-- Whether a document is a projection. -/
def check (projection : Document) : Result Unit := checkFields "" projection.fields

mutual

/-- What a projection keeps of the value of a field. -/
def projectValue (v : Value) : (spec : Value) → Value
  | .document specs =>
    match v with
    | .document fields => .document (projectFields fields specs)
    | v => v
  | _ => v

/-- The fields that a projection names, in its order. -/
def projectFields (fields : List (String × Value)) : (specs : List (String × Value)) →
    List (String × Value)
  | [] => []
  | (name, spec) :: rest =>
    match SortedEntries.get? name fields with
    | some v => (name, projectValue v spec) :: projectFields fields rest
    | none => projectFields fields rest

end

/-- The document reduced to the fields of a projection. -/
def project (projection d : Document) : Document := ⟨projectFields d.fields projection.fields⟩

end Projection

/-- A cursor whose documents are reduced to the fields of a projection. -/
structure ProjectedCursor where
  inner : Cursor
  projection : Document

namespace ProjectedCursor

/-- Puts a projection on a cursor. -/
def make (inner : Cursor) (projection : Document) : Result ProjectedCursor :=
  (Projection.check projection).map fun _ => ⟨inner, projection⟩

/-- What the cursor yields on a store that does not change, with the cursor as it is after each
item. -/
def run (s : Store) (c : ProjectedCursor) : List (Result Document × ProjectedCursor) :=
  (c.inner.run s).map fun (item, inner) =>
    (item.map (Projection.project c.projection), ⟨inner, c.projection⟩)

/-- The next document, and the cursor after it. -/
def pull (s : Store) (c : ProjectedCursor) : Option (Result Document) × ProjectedCursor :=
  match c.run s with
  | [] => (none, ⟨.ended, c.projection⟩)
  | (item, c') :: _ => (some item, c')

/-- All documents, or the error that ends the cursor. -/
def toList (s : Store) (c : ProjectedCursor) : Result (List Document) :=
  ((c.run s).map (·.1)).mapM id

end ProjectedCursor

end DocumentDb
