import DocumentDb.Error
import DocumentDb.Value.Path
import DocumentDb.Value.RecordId

/-!
# From documents to index entries

An index takes the values of its fields from a document and makes keys of them. The first field may
hold an array: it fans out into one key per distinct element. Every later field holds a single
value.
-/

set_option autoImplicit false

namespace DocumentDb

/-- The values of an index's fields in one record, in the order of the fields. -/
structure FieldValues where
  id : RecordId
  fields : FieldPath
  values : List (String × Value)
deriving Inhabited

namespace FieldValues

/-- The value of a field. -/
def get? (vs : FieldValues) (field : String) : Option Value := vs.values.lookup field

/-- The value of the first field, null if there is none. -/
def firstValue (vs : FieldValues) : Value :=
  match vs.values with
  | (_, v) :: _ => v
  | [] => .null

end FieldValues

/-- Takes the values of an index's fields from a document. -/
abbrev Extractor : Type := Document → FieldPath → Result FieldValues

namespace Extractor

/-- Reads every field as a path into the document. A missing field counts as null. -/
def byPath : Extractor := fun d fields =>
  d.id.bind fun id =>
    match id with
    | none => .error .noRecordId
    | some id => .ok ⟨id, fields, fields.fields.map fun f => (f, d.valueAt f)⟩

/-- Like `byPath`, but refuses documents that have a certain top-level field. -/
def refusing (field : String) : Extractor := fun d fields =>
  if d.hasField field then .error (.reported .validation ("extractor refused: " ++ field))
  else byPath d fields

end Extractor

namespace FanOut

/-- The key of a field that holds a single value. -/
def keyOf (field : String) (v : Value) : Result Key :=
  match Key.ofValue? v with
  | some k => .ok k
  | none => .error (.unindexable v.typeName field)

/-- The key of an array element. -/
def elementKey (field : String) (v : Value) : Result Key :=
  if v.isArray then .error (.nestedArray field) else keyOf field v

/-- The keys without repetition, each where it occurs first. -/
def distinct (ks : List Key) : List Key :=
  ks.foldl (fun found k => if found.any (·.same k) then found else found ++ [k]) []

/-- The keys of the first field: one per distinct element of an array, or the key of a single
value. -/
def firstKeys (field : String) : Value → Result (List Key)
  | .array items => (items.mapM (elementKey field)).map distinct
  | v => (keyOf field v).map ([·])

/-- The key of a field after the first one. -/
def laterKey (vs : FieldValues) (fields : FieldPath) (field : String) : Result Key :=
  let v := (vs.get? field).getD .null
  if v.isArray then .error (.arrayBeyondFirst field fields) else keyOf field v

/-- The keys of the first field and the path below each of them. -/
def keyPaths (fields : FieldPath) (vs : FieldValues) : Result (List Key × List Key) :=
  (firstKeys fields.first vs.firstValue).bind fun ks =>
    (fields.fields.tail.mapM (laterKey vs fields)).map fun rest => (ks, rest)

end FanOut

end DocumentDb
