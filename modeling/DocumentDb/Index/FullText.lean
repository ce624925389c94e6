import DocumentDb.Index.FanOut
import DocumentDb.Query.Filter
import DocumentDb.Query.TextQuery
import DocumentDb.Store
import DocumentDb.Text.Tokenizer

/-!
# Full-text indexes

A full-text index maps each token to the ids of the records whose text holds it. A query of words
ranks records by the number of its tokens they hold; a query with a star collects the ids of all
tokens that fit, in the order of the tokens. Tokens that begin with a term stand next to each other,
so a search for them steps from one to the next and ends at the first that does not.
-/

set_option autoImplicit false

namespace DocumentDb.FullText

/-- The content of a full-text index: tokens in ascending order with their record ids. -/
abbrev Postings : Type := List (String × List RecordId)

/-! ### Tokens of a record -/

/-- The tokens of an array element. Only texts have any, and null is skipped. -/
def elementTokens (tokenizer : Text.Tokenizer) (field : String) : Value → Result (List String)
  | .string text => .ok (tokenizer text)
  | .null => .ok []
  | v => .error (.unindexableElement field v.typeName)

/-- The tokens of a value, each where it occurs first. -/
def tokens (tokenizer : Text.Tokenizer) (field : String) (v : Value) : Result (List String) :=
  let all : Result (List String) := match v with
    | .null => .ok []
    | .string text => .ok (tokenizer text)
    | .array items => (items.mapM (elementTokens tokenizer field)).map List.flatten
    | v => .error (.textRequired field v.typeName)
  all.map fun ts => ts.foldl Text.Tokenizer.addToken []

/-! ### Changes -/

/-- Adds an id under every token. -/
def addTokens (id : RecordId) : List String → Postings → Postings
  | [], ps => ps
  | t :: rest, ps =>
    let ids := (SortedEntries.get? t ps).getD []
    addTokens id rest (if ids.contains id then ps else SortedEntries.insert t (ids ++ [id]) ps)

/-- Removes an id under every token, and the tokens that this leaves without ids. -/
def dropTokens (id : RecordId) : List String → Postings → Postings
  | [], ps => ps
  | t :: rest, ps =>
    match SortedEntries.get? t ps with
    | none => dropTokens id rest ps
    | some ids =>
      let left := dropId id ids
      dropTokens id rest
        (if left.isEmpty then SortedEntries.erase t ps else SortedEntries.insert t left ps)

/-- Adds the entries of a record. A record without tokens leaves the map alone. -/
def write (tokenizer : Text.Tokenizer) (d : IndexDescriptor) (map : MapRef String)
    (vs : FieldValues) : StoreM Unit := do
  let ts ← Action.ofResult (tokens tokenizer d.fields.first vs.firstValue)
  if !ts.isEmpty then map.setEntries (addTokens vs.id ts)

/-- Removes the entries of a record. -/
def erase (tokenizer : Text.Tokenizer) (d : IndexDescriptor) (map : MapRef String)
    (vs : FieldValues) : StoreM Unit := do
  let ts ← Action.ofResult (tokens tokenizer d.fields.first vs.firstValue)
  if !ts.isEmpty then map.setEntries (dropTokens vs.id ts)

/-! ### Queries -/

/-- The ids found so far, each with the number of times that it was found, in order of first
occurrence. The positions say where in this list an id stands. -/
structure Scores where
  rows : List (RecordId × Nat) := []
  positions : List (RecordId × Nat) := []

/-- One more occurrence of an id. -/
def Scores.count (scores : Scores) (id : RecordId) : Scores :=
  match SortedEntries.get? id scores.positions with
  | some i => { scores with rows := scores.rows.modify i fun (id, n) => (id, n + 1) }
  | none =>
    { rows := scores.rows ++ [(id, 1)]
      positions := SortedEntries.insert id scores.rows.length scores.positions }

/-- Counts the ids in the postings of the query tokens, token by token. -/
def scores (queryTokens : List String) (ps : Postings) : Scores :=
  queryTokens.foldl
    (fun scores t => ((SortedEntries.get? t ps).getD []).foldl Scores.count scores) {}

/-- The ids held by some query token, those of more tokens first. -/
def rankWords (queryTokens : List String) (ps : Postings) : RecordIdSet :=
  let ranked := (scores queryTokens ps).rows.mergeSort fun a b => b.2 ≤ a.2
  RecordIdSet.addAll [] (ranked.map (·.1))

/-- The ids of all tokens with a property. -/
def collectTokens (p : String → Bool) (ps : Postings) : RecordIdSet :=
  (ps.filter fun e => p e.1).foldl (fun set e => RecordIdSet.addAll set e.2) []

/-- The tokens from `term` on, up to the first that does not begin with it, each found from the one
before. -/
def tokensFrom (term : String) (ps : Postings) : List String :=
  SortedEntries.follow (Text.startsWith · term) (fun t => (SortedEntries.above? t ps).map (·.1))
    ps.length ((SortedEntries.atOrAbove? term ps).map (·.1))

/-- The ids of the tokens that begin with a term. -/
def collectFrom (term : String) (ps : Postings) : RecordIdSet :=
  (tokensFrom term ps).foldl
    (fun set t => RecordIdSet.addAll set ((SortedEntries.get? t ps).getD [])) []

/-- The ids that a query selects. -/
def answer (tokenizer : Text.Tokenizer) (q : TextQuery) (ps : Postings) : RecordIdSet :=
  match q with
  | .words text => rankWords (tokenizer text) ps
  | .beginsWith term => collectFrom term ps
  | .endsWith term => collectTokens (Text.endsWith · term) ps
  | .contains term => collectTokens (Text.contains · term) ps

/-- Whether a query looks at the index at all: a query of words without tokens does not. -/
def looksAtPostings (tokenizer : Text.Tokenizer) : TextQuery → Bool
  | .words text => !(tokenizer text).isEmpty
  | _ => true

/-- Runs a text query. -/
def search (tokenizer : Text.Tokenizer) (map : MapRef String) (query : String) :
    StoreM RecordIdSet := do
  let q ← Action.ofResult (TextQuery.parse query)
  if looksAtPostings tokenizer q then return answer tokenizer q (← map.entries)
  else return []

/-- Answers the conditions of an index scan: exactly one text condition. -/
def scan (tokenizer : Text.Tokenizer) (map : MapRef String) (conditions : List Comparison) :
    StoreM RecordIdSet :=
  match conditions with
  | [⟨_, .text query⟩] => search tokenizer map query
  | [c] => throw (.onlyText c.field)
  | cs => throw (.oneTextCondition cs.length)

end DocumentDb.FullText
