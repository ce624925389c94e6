import DocumentDb.Json.Parts
import DocumentDb.Value.Basic
import DocumentDb.Value.RecordId

/-!
# Values in JSON

In this notation a value looks like the JSON value it resembles, so that it can be written by hand.
What JSON cannot tell apart is marked: a float is `$f64` with its text, and a point in time is
`$date` with seconds and nanoseconds. Unlike the plain JSON of a document, the notation loses
nothing, not even a NaN. Record ids are decimal texts.
-/

set_option autoImplicit false

namespace DocumentDb.Notation

open Json (asText asInt asNat unexpected expect listOf)

/-! ### Reading -/

mutual

def readValue : Json → Result Value
  | .null => .ok .null
  | .bool b => .ok (.bool b)
  | .integer n => .ok (.int (Int64.ofInt n))
  | .float _ => unexpected
  | .string s => .ok (.string s)
  | .array items => (readValues items).map .array
  | .object [("$f64", .string s)] => (expect (Binary64.ofText? s)).map .float
  | .object [("$date", .array [s, n])] => do return .dateTime ⟨← asInt s, ← asNat n⟩
  | .object members => (readFields members).map .document

def readValues : List Json → Result (List Value)
  | [] => .ok []
  | j :: rest => do return (← readValue j) :: (← readValues rest)

def readFields : List (String × Json) → Result (List (String × Value))
  | [] => .ok []
  | (name, j) :: rest => do return (name, ← readValue j) :: (← readFields rest)

end

def readDocument (j : Json) : Result Document := do expect (← readValue j).asDocument?

def readId (j : Json) : Result RecordId := do expect (RecordId.read? (← asText j))

def readIds : Json → Result (List RecordId) := listOf readId

/-- A value that can be a key. -/
def readKey (j : Json) : Result Key := do expect (Key.ofValue? (← readValue j))

/-! ### Writing -/

def ofFloat (x : Binary64) : Json := .object [("$f64", .string x.render)]

mutual

def ofValue : Value → Json
  | .null => .null
  | .bool b => .bool b
  | .int n => .integer n.toInt
  | .float x => ofFloat x
  | .string s => .string s
  | .dateTime t => .object [("$date", .array [.integer t.seconds, Json.ofNat t.nanos])]
  | .array items => .array (ofValues items)
  | .document fields => .object (ofFields fields)

def ofValues : List Value → List Json
  | [] => []
  | v :: rest => ofValue v :: ofValues rest

def ofFields : List (String × Value) → List (String × Json)
  | [] => []
  | (name, v) :: rest => (name, ofValue v) :: ofFields rest

end

def ofDocument (d : Document) : Json := ofValue d.toValue

def ofId (id : RecordId) : Json := .string id.render

def ofIds : List RecordId → Json := Json.ofList ofId

def ofKey (k : Key) : Json := ofValue k.value

/-- A record: its id and its document. -/
def ofEntry (e : RecordId × Document) : Json := .array [ofId e.1, ofDocument e.2]

/-- A value that may be missing, told apart from null. -/
def ofFound : Option Value → Json := Json.ofOption fun v => .object [("value", ofValue v)]

end DocumentDb.Notation
