import DocumentDb.Error

/-!
# Record ids of documents

The id of a record stands in the field `_id` of its document, as decimal text. `Document.id` reads
it and `Document.setId` writes it.
-/

set_option autoImplicit false

namespace DocumentDb

/-- The field that holds the record id of a document. -/
def idField : String := Error.idFieldText

/-- Reads the decimal text of a record id. -/
def RecordId.parse (text : String) : Result RecordId :=
  match RecordId.read? text with
  | some id => .ok id
  | none => .error (.badIdText text)

/-- The record id that a value names: decimal text or an integer that is not negative. Null names
none. -/
def Value.recordId : Value → Result (Option RecordId)
  | .null => .ok none
  | .string text => (RecordId.parse text).map some
  | .int n =>
    if 0 ≤ n.toInt then .ok (some ⟨n.toUInt64⟩) else .error (.badIdValue (Value.int n).typeName)
  | v => .error (.badIdValue v.typeName)

namespace Document

/-- The record id of a document, if it has one. -/
def id (d : Document) : Result (Option RecordId) := ((d.get? idField).getD .null).recordId

/-- The document with a record id. -/
def setId (d : Document) (id : RecordId) : Document := d.put idField (.string id.render)

end Document

/-- A field path given by a user: at least one name, and no blank one. -/
def FieldPath.parse (fields : List String) : Result FieldPath :=
  if fields.isEmpty then .error .noField
  else
    match fields.find? fun name => Text.allBlank name.toList with
    | some name => .error (.blankField name)
    | none => .ok ⟨fields⟩

end DocumentDb
