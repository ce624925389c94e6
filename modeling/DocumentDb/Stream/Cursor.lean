import DocumentDb.Processor
import DocumentDb.Stream.Basic

/-!
# Cursors

A cursor hands out the documents of a stream after they have passed the processors of a read. It
ends after its first error.
-/

set_option autoImplicit false

namespace DocumentDb

/-- The documents of a stream. -/
structure Cursor where
  stream : RecordStream
  processors : List Processor := []

namespace Cursor

/-- The cursor that yields nothing more. -/
def ended : Cursor := ⟨.ended, []⟩

/-- What a cursor makes of the run of its stream. -/
def readRun (processors : List Processor) : RecordStream.Run → List (Result Document × Cursor)
  | [] => []
  | (.error e, _) :: _ => [(.error e, ended)]
  | (.ok entry, stream) :: rest =>
    match Processor.readAll processors entry.2 with
    | .error e => [(.error e, ended)]
    | .ok d => (.ok d, ⟨stream, processors⟩) :: readRun processors rest

/-- What a cursor yields on a store that does not change, with the cursor as it is after each
item. -/
def run (s : Store) (c : Cursor) : List (Result Document × Cursor) :=
  readRun c.processors (c.stream.run s)

/-- The next document, and the cursor after it. -/
def pull (s : Store) (c : Cursor) : Option (Result Document) × Cursor :=
  match c.run s with
  | [] => (none, ended)
  | (item, c') :: _ => (some item, c')

/-- All that a cursor yields on a store that does not change. -/
def drain (s : Store) (c : Cursor) : List (Result Document) := (c.run s).map (·.1)

/-- All documents, or the error that ends the cursor. -/
def toList (s : Store) (c : Cursor) : Result (List Document) := (c.drain s).mapM id

/-- The first document, if there is one. -/
def first? (s : Store) (c : Cursor) : Result (Option Document) :=
  match c.drain s with
  | [] => .ok none
  | item :: _ => item.map some

end Cursor

end DocumentDb
