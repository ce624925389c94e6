import DocumentDb.Value.Path
import DocumentDb.Error

/-!
# Processors

Processors change documents on their way into a collection and out of it. Writes pass through them
in the order in which they were added, reads in the opposite order, so that a read can undo what a
write did.
-/

set_option autoImplicit false

namespace DocumentDb

/-- What happens to a document before it is written and after it is read. -/
structure Processor where
  beforeWrite : Document → Result Document := .ok
  afterRead : Document → Result Document := .ok

namespace Processor

/-- A document on its way into a collection. -/
def writeAll : List Processor → Document → Result Document
  | [], d => .ok d
  | p :: rest, d => (p.beforeWrite d).bind (writeAll rest)

/-- A document on its way out of a collection. -/
def readAll : List Processor → Document → Result Document
  | [], d => .ok d
  | p :: rest, d => (readAll rest d).bind p.afterRead

/-! ### Some processors -/

/-- Leaves documents as they are. -/
def nothing : Processor := {}

/-- A list without the copies of `run` it begins with. -/
def dropRuns (run cs : List Char) : List Char :=
  if h : 0 < run.length ∧ run.isPrefixOf cs then
    have : (cs.drop run.length).length < cs.length := by
      have := (List.isPrefixOf_iff_prefix.mp h.2).length_le
      simp only [List.length_drop]
      omega
    dropRuns run (cs.drop run.length)
  else cs
termination_by cs.length

/-- A text without the copies of `tail` it ends with. -/
def dropTail (tail text : String) : String :=
  String.ofList (dropRuns tail.toList.reverse text.toList.reverse).reverse

/-- The text of a field. A field that is missing or holds no text counts as the empty text. -/
def textOf (d : Document) (field : String) : String := ((d.get? field).bind Value.asString?).getD ""

/-- Writes the text of a field followed by `tail`, and takes the tail away again after a read. -/
def suffix (field tail : String) : Processor where
  beforeWrite d := .ok (d.put field (.string (textOf d field ++ tail)))
  afterRead d := .ok (d.put field (.string (dropTail tail (textOf d field))))

/-- Sets a field before every write. -/
def putOnWrite (field : String) (v : Value) : Processor where
  beforeWrite d := .ok (d.put field v)

/-- Sets a field after every read. -/
def putOnRead (field : String) (v : Value) : Processor where
  afterRead d := .ok (d.put field v)

/-- Refuses to write documents that have a field. -/
def failWrite (field : String) : Processor where
  beforeWrite d :=
    if d.hasField field then .error (.reported .validation ("write refused: " ++ field)) else .ok d

/-- Refuses to read documents that have a field. -/
def failRead (field : String) : Processor where
  afterRead d :=
    if d.hasField field then .error (.reported .validation ("read refused: " ++ field)) else .ok d

end Processor

end DocumentDb
