import DocumentDb.Error
import DocumentDb.Json.Basic

/-!
# Taking JSON values apart

Readers of JSON in a known shape are built from the functions here. Each expects one shape and
answers `Error.badJson` for every other.
-/

set_option autoImplicit false

namespace DocumentDb.Json

variable {α : Type}

/-- The result for a value that has not the expected shape. -/
def unexpected : Result α := .error .badJson

/-- What a reader that may find nothing has found. -/
def expect (a : Option α) : Result α := a.elim unexpected .ok

def asText : Json → Result String
  | .string s => .ok s
  | _ => unexpected

def asInt : Json → Result Int
  | .integer n => .ok n
  | _ => unexpected

def asNat (j : Json) : Result Nat := (asInt j).map Int.toNat

def asBool : Json → Result Bool
  | .bool b => .ok b
  | _ => unexpected

def asItems : Json → Result (List Json)
  | .array items => .ok items
  | _ => unexpected

def asMembers : Json → Result (List (String × Json))
  | .object members => .ok members
  | _ => unexpected

/-- The items of an array, each read by `read`. -/
def listOf (read : Json → Result α) (j : Json) : Result (List α) := do (← asItems j).mapM read

/-- The two items of an array of two. -/
def pairOf {β : Type} (first : Json → Result α) (second : Json → Result β) : Json → Result (α × β)
  | .array [a, b] => do return (← first a, ← second b)
  | _ => unexpected

/-- The member of an object with a name, null included. -/
def find? (name : String) : Json → Option Json
  | .object members => members.lookup name
  | _ => none

/-- The member of an object with a name. Null counts as missing. -/
def member? (name : String) (j : Json) : Option Json :=
  match find? name j with
  | some .null => none
  | m => m

/-- A member that has to be there. -/
def required (name : String) (read : Json → Result α) (j : Json) : Result α := do
  read (← expect (find? name j))

/-- A member that may be missing. -/
def optional (name : String) (read : Json → Result α) (j : Json) : Result (Option α) :=
  match member? name j with
  | none => .ok none
  | some m => (read m).map some

/-- A member with a default. -/
def defaulted (name : String) (default : α) (read : Json → Result α) (j : Json) : Result α := do
  return (← optional name read j).getD default

/-! ### Writing -/

/-- A value that may be missing. -/
def ofOption (write : α → Json) (a : Option α) : Json := a.elim .null write

def ofList (write : α → Json) (as : List α) : Json := .array (as.map write)

def ofNat (n : Nat) : Json := .integer n

def ofTexts : List String → Json := ofList .string

end DocumentDb.Json
