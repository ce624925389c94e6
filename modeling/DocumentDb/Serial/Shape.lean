import DocumentDb.Json.Reader

/-!
# Records and variants as JSON

Typed data are written as JSON in two shapes. A record is an object with one member per field, or an
array of the fields in order. A variant is its name, or an object whose only member has that name
and the content. The readers here take a tree apart and leave the parts unread. `depth` is how deep
a tree may nest.
-/

set_option autoImplicit false

namespace DocumentDb.Serial

open Json (Tree TextPart)

/-! ### Writing -/

/-- The text of a record: names with the texts of their values. -/
def record (fields : List (String × String)) : String :=
  "\x7b" ++ ",".intercalate (fields.map fun (name, text) => Json.quote name ++ ":" ++ text)
    ++ "\x7d"

/-- The text of a variant with content. -/
def variant (name content : String) : String := record [(name, content)]

/-- The text of a list, given the texts of its items. -/
def list (items : List String) : String := "[" ++ ",".intercalate items ++ "]"

/-- The text of a value that may be missing. -/
def optional {α : Type} (write : α → String) : Option α → String
  | none => "null"
  | some a => write a

/-! ### Reading -/

/-- The members of an object with the texts of their names. -/
def membersOf? (members : List (List TextPart × Tree)) : Option (List (String × Tree)) :=
  members.mapM fun (name, t) => (TextPart.textOf? name).map (·, t)

/-- The member with a name, if there is one. Two of them are an error. -/
def member? (members : List (String × Tree)) (name : String) : Option (Option Tree) :=
  match members.filter (·.1 == name) with
  | [] => some none
  | [(_, t)] => some (some t)
  | _ => none

/-- The fields of a record under the given names. Members with other names are passed over. -/
def record? (names : List String) (depth : Nat) : Tree → Option (List (Option Tree))
  | .object members =>
    if depth = 0 then none else (membersOf? members).bind fun ms => names.mapM (member? ms)
  | .array items =>
    if depth = 0 || names.length < items.length then none
    else some (items.map some ++ List.replicate (names.length - items.length) none)
  | _ => none

/-- The name of a variant and its content. -/
def variant? (depth : Nat) : Tree → Option (String × Option Tree)
  | .string name => (TextPart.textOf? name).map (·, none)
  | .object [(name, t)] => if depth = 0 then none else (TextPart.textOf? name).map (·, some t)
  | _ => none

/-- The variant without content that a tree names, of those given. -/
def unit? {α : Type} (variants : List (String × α)) (depth : Nat) (t : Tree) : Option α :=
  match variant? depth t with
  | some (name, none) | some (name, some .null) => variants.lookup name
  | _ => none

def bool? : Tree → Option Bool
  | .bool b => some b
  | _ => none

def text? : Tree → Option String
  | .string parts => TextPart.textOf? parts
  | _ => none

/-- An integer in a range. A numeral with a fraction or an exponent is none. -/
def integer? (least greatest : Int) : Tree → Option Int
  | .number n =>
    match n.toJson? with
    | some (.integer i) => if least ≤ i && i ≤ greatest then some i else none
    | _ => none
  | _ => none

/-- A number as a float. -/
def float? : Tree → Option Binary64
  | .number n =>
    match n.toJson? with
    | some (.integer i) => some (Binary64.ofInt i)
    | some (.float x) => some x
    | _ => none
  | _ => none

/-- The items of an array, each read by `read`. -/
def list? {α : Type} (read : Tree → Option α) (depth : Nat) : Tree → Option (List α)
  | .array items => if depth = 0 then none else items.mapM read
  | _ => none

/-- A value that may be missing: null counts as missing. -/
def optional? {α : Type} (read : Tree → Option α) : Tree → Option (Option α)
  | .null => some none
  | t => (read t).map some

/-- A field that must be there. -/
def required? {α : Type} (read : Tree → Option α) (t : Option Tree) : Option α := t.bind read

/-- A field with a default. -/
def defaulted? {α : Type} (default : α) (read : Tree → Option α) : Option Tree → Option α
  | none => some default
  | some t => read t

end DocumentDb.Serial
