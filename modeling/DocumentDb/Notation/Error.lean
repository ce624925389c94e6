import DocumentDb.Json.Parts

/-!
# Errors in JSON

An error is written as the name of its kind and its message. Malformed texts and patterns have no
message: what is wrong with them is not said.
-/

set_option autoImplicit false

namespace DocumentDb

/-- The name of a kind of errors. -/
def ErrorKind.name : ErrorKind → String
  | .indexing => "Indexing"
  | .validation => "Validation"
  | .uniqueConstraint => "UniqueConstraint"
  | .filter => "Filter"
  | .invalidOperation => "InvalidOperation"
  | .invalidId => "InvalidId"
  | .storage => "Storage"
  | .json => "Json"

namespace Notation

/-- The kinds whose errors a caller can report. -/
def reportedKinds : List ErrorKind :=
  [.indexing, .validation, .uniqueConstraint, .filter, .invalidOperation, .invalidId, .storage]

/-- An error that a caller reports: the name of its kind and its text. -/
def readError (j : Json) : Result Error := do
  let (name, text) ← Json.pairOf Json.asText Json.asText j
  let kind ← Json.expect (reportedKinds.find? (·.name == name))
  return .reported kind text

def ofError (e : Error) : Json :=
  let kind := ("error", Json.string e.kind.name)
  match e with
  | .badJson | .badPattern _ => .object [kind]
  | e => .object [kind, ("message", .string e.message)]

/-- A value, or the error in its place. -/
def ofResult {α : Type} (write : α → Json) : Result α → Json
  | .ok a => write a
  | .error e => ofError e

/-- A value under `ok`, or the error in place of the object. -/
def ofOutcome {α : Type} (write : α → Json) : Result α → Json :=
  ofResult fun a => .object [("ok", write a)]

end Notation

end DocumentDb
