import DocumentDb.Config
import DocumentDb.Index.Builds
import DocumentDb.Index.Catalog
import DocumentDb.Index.Handle
import DocumentDb.Processor

/-!
# Sessions

A collection is opened on a store. A session holds both, a clock, and a state of the caller's own,
the observer. Operations on a collection are actions on a session. Builds of indexes are announced
to a listener when they start and when they have ended; the listener may change the whole session,
so that what happens while a build runs can be said by a listener that does it.
-/

set_option autoImplicit false

namespace DocumentDb

/-- A collection opened on a store. -/
structure Collection where
  name : String
  config : Config
  records : MapRef RecordId
  catalog : Catalog
  /-- The builds that run on this collection. -/
  builds : Builds := {}
  /-- The indexes that have been opened, by the names of their backing maps. -/
  handles : List (String × IndexHandle) := []
  generator : IdGenerator
  processors : List Processor := []
  dropped : Bool := false

/-- A collection on its store, with the last reading of the clock and the caller's own state. -/
structure Session (σ : Type) where
  store : Store
  clock : UInt64
  collection : Collection
  observer : σ

/-- Actions on a session. -/
abbrev SessionM (σ α : Type) : Type := Action (Session σ) α

/-- What a listener is told. -/
inductive IndexEvent
  | buildStart (fields : FieldPath)
  | buildEnd (fields : FieldPath)
deriving DecidableEq, Repr

def IndexEvent.render : IndexEvent → String
  | .buildStart fields => "start " ++ fields.render
  | .buildEnd fields => "end " ++ fields.render

/-- What happens when a build starts or ends. -/
abbrev Listener (σ : Type) : Type := IndexEvent → Session σ → Session σ

/-- The listener that does nothing. -/
def Listener.silent {σ : Type} : Listener σ := fun _ s => s

namespace Session

variable {σ α : Type}

/-- Runs an action on the store. -/
def onStore (x : StoreM α) : SessionM σ α := x.within (·.store) fun s store => { s with store }

/-- Runs an action on the store and the catalog of the collection. -/
def onCatalog (x : CatalogM α) : SessionM σ α :=
  x.within (fun s => (s.store, s.collection.catalog)) fun s p =>
    { s with store := p.1, collection := { s.collection with catalog := p.2 } }

/-- The collection as it is now. -/
def here : SessionM σ Collection := do return (← get).collection

/-- Changes the collection. -/
def change (f : Collection → Collection) : SessionM σ Unit :=
  modify fun s => { s with collection := f s.collection }

/-- Tells a listener what happens. -/
def publish (listener : Listener σ) (event : IndexEvent) : SessionM σ Unit :=
  modify (listener event)

end Session

end DocumentDb
