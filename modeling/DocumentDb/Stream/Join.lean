import DocumentDb.Stream.Cursor
import DocumentDb.Value.Order

/-!
# Joins

A join adds to every local document the foreign documents whose field equals one of its own. Local
documents without a value in their field, or without a match, stay as they are. The foreign
documents are read once, when the first document is asked for.
-/

set_option autoImplicit false

namespace DocumentDb

/-- The fields that a join compares, and the field that takes the matches. -/
structure Lookup where
  localField : String
  foreignField : String
  target : String
deriving DecidableEq, Repr, Inhabited

namespace Lookup

/-- Whether a foreign document has the value in its field. Null equals nothing. -/
def isMatch (l : Lookup) (v : Value) (foreign : Document) : Bool :=
  match foreign.getPath? l.foreignField with
  | none => false
  | some w => !w.isNull && w.equal v

/-- A list of documents with one more, unless one of the same content is there already. -/
def addNew (found : List Document) (d : Document) : List Document :=
  if found.any (·.same d) then found else found ++ [d]

/-- The foreign documents that match a value, copies left out. -/
def foreignMatches (l : Lookup) (foreign : List Document) (v : Value) : List Document :=
  (foreign.filter (l.isMatch v)).foldl addNew []

/-- A local document with its matches. -/
def join (l : Lookup) (foreign : List Document) (d : Document) : Document :=
  match d.getPath? l.localField with
  | none | some .null => d
  | some v =>
    match l.foreignMatches foreign v with
    | [] => d
    | found => d.put l.target (.array (found.map Document.toValue))

end Lookup

/-- The foreign side of a join. -/
inductive Foreign
  | unread (c : Cursor)
  | read (ds : List Document)

/-- A cursor whose documents carry their matches. -/
structure JoinedCursor where
  inner : Cursor
  foreign : Foreign
  lookup : Lookup

namespace JoinedCursor

/-- The join of two cursors. -/
def make (inner foreign : Cursor) (lookup : Lookup) : JoinedCursor :=
  ⟨inner, .unread foreign, lookup⟩

/-- The cursor that yields nothing more. -/
def finish (c : JoinedCursor) : JoinedCursor := ⟨.ended, .read [], c.lookup⟩

/-- The foreign documents. -/
def foreignDocuments (s : Store) (c : JoinedCursor) : Result (List Document) :=
  match c.foreign with
  | .unread cursor => cursor.toList s
  | .read ds => .ok ds

/-- What the cursor yields on a store that does not change, with the cursor as it is after each
item. -/
def run (s : Store) (c : JoinedCursor) : List (Result Document × JoinedCursor) :=
  match c.foreignDocuments s with
  | .error e => [(.error e, c.finish)]
  | .ok ds =>
    (c.inner.run s).map fun (item, inner) =>
      (item.map (c.lookup.join ds), ⟨inner, .read ds, c.lookup⟩)

/-- The next document, and the cursor after it. -/
def pull (s : Store) (c : JoinedCursor) : Option (Result Document) × JoinedCursor :=
  match c.run s with
  | [] => (none, c.finish)
  | (item, c') :: _ => (some item, c')

/-- All documents, or the error that ends the cursor. -/
def toList (s : Store) (c : JoinedCursor) : Result (List Document) :=
  ((c.run s).map (·.1)).mapM id

end JoinedCursor

end DocumentDb
