import DocumentDb.Proofs.Index.Names
import DocumentDb.Proofs.KeyOrder
import DocumentDb.Proofs.SortedEntries
import DocumentDb.Proofs.Store
import DocumentDb.Proofs.View

/-!
# `DocumentDb.Proofs.Session`: sound sessions and what they show

`Session.view` reads the view of a collection off the store. `Session.Sound` is what every
operation keeps up between the collection and its store: the references are good, the maps
of the indexes have names of their own that no other map has, the cache of the catalog is
current, the handles lead to the maps they are kept for, and no guard is given twice.

An operation is described by `Does`: it gives a result, the session stays sound, shows a
certain view, and every handle that led to an index still does. `Does.bind_ok` and
`Does.bind_error` chain such descriptions in the order of a `do` block. That handles stay
good is part of the description because a write that is refused goes back to the handles of
the indexes it has written already.
-/

set_option autoImplicit false

namespace DocumentDb

open SortedEntries (Sorted)

/-! ### Contents in a store -/

namespace Store

/-- The content of an index with the given backing map. A map that has not been opened yet
counts as empty. -/
def content (s : Store) (d : IndexDescriptor) (mapName : String) : Content :=
  if d.isFullText then .fullText (entriesOf mapName s.texts)
  else .ordered (entriesOf mapName s.indexes)

/-- Whether the name of a backing map is not taken by a map of the wrong kind. -/
def Suits (s : Store) (d : IndexDescriptor) (mapName : String) : Prop :=
  lookup mapName s.records = none ∧ lookup mapName s.metas = none ∧
    (d.isFullText = true → lookup mapName s.indexes = none) ∧
    (d.isFullText = false → lookup mapName s.texts = none)

/-- Which maps suit an index depends on the places of maps only, not on what they hold. -/
theorem SamePlaces.suits_iff {s s' : Store} (h : s.SamePlaces s') (d : IndexDescriptor)
    (mapName : String) : s'.Suits d mapName ↔ s.Suits d mapName := by
  simp only [Suits, lookup_eq_none_iff, h.records, h.metas, h.indexes, h.texts]

end Store

/-- An index as it stands in a store. -/
def IndexMeta.state (store : Store) (m : IndexMeta) : IndexState :=
  ⟨m.descriptor, m.dirty, store.content m.descriptor m.mapName⟩

namespace Session

open Store (Refers entriesOf lookup)

variable {σ α β : Type}

/-! ### Views -/

/-- The records of the collection. -/
def recordEntries (s : Session σ) : List (RecordId × Document) :=
  entriesOf s.collection.name s.store.records

/-- The metadata of the indexes of the collection. -/
def metaEntries (s : Session σ) : List (FieldPath × IndexMeta) :=
  entriesOf (metaMapName s.collection.name) s.store.metas

/-- What the collection shows of itself. -/
def view (s : Session σ) : View where
  name := s.collection.name
  config := s.collection.config
  processors := s.collection.processors
  recordMap := s.collection.records
  held := s.collection.builds.held
  records := s.recordEntries
  indexes := s.metaEntries.map fun e => e.2.state s.store

/-! ### Soundness -/

/-- Whether a handle leads to the backing map of an index. -/
def Backed (s : Session σ) (h : IndexHandle) (d : IndexDescriptor) (mapName : String) : Prop :=
  h.descriptor = d ∧ h.mapName = mapName ∧
    match h.backing with
    | .ordered map => d.isFullText = false ∧ Refers s.store.indexes map mapName
    | .fullText map tokenizer =>
      d.isFullText = true ∧ tokenizer = s.collection.config.tokenizer ∧
        Refers s.store.texts map mapName

/-- A handle does not depend on what the maps hold. -/
theorem Backed.of_samePlaces {s : Session σ} {store : Store} (hplaces : s.store.SamePlaces store)
    {h : IndexHandle} {d : IndexDescriptor} {mapName : String} (hb : s.Backed h d mapName) :
    Backed { s with store } h d mapName := by
  obtain ⟨d', n', backing⟩ := h
  obtain ⟨hd, hn, hb⟩ := hb
  refine ⟨hd, hn, ?_⟩
  cases backing with
  | ordered map => exact ⟨hb.1, (hplaces.indexes mapName).trans hb.2⟩
  | fullText map tokenizer => exact ⟨hb.1, hb.2.1, (hplaces.texts mapName).trans hb.2.2⟩

/-- Whether a handle serves the index with a descriptor. -/
def Serves (s : Session σ) (h : IndexHandle) (d : IndexDescriptor) : Prop :=
  ∃ e ∈ s.metaEntries, e.2.descriptor = d ∧ s.Backed h d e.2.mapName

/-- What every operation keeps up between a collection and its store. -/
structure Sound (s : Session σ) : Prop where
  named : Collection.isName s.collection.name = true
  undropped : s.collection.dropped = false
  catalog : s.collection.catalog.collection = s.collection.name
  records : Refers s.store.records s.collection.records s.collection.name
  metas : Refers s.store.metas s.collection.catalog.metaMap (metaMapName s.collection.name)
  recordsSorted : Sorted s.recordEntries
  metasSorted : Sorted s.metaEntries
  metasOwn : ∀ e ∈ s.metaEntries, e.2.descriptor.fields = e.1
  /-- Backing maps have names that were issued for them. -/
  issued : ∀ e ∈ s.metaEntries,
    ∃ g < s.store.generation, e.2.mapName = indexMapName e.2.descriptor g
  unshared : (s.metaEntries.map fun e => e.2.mapName).Nodup
  /-- No map has a name that is still to be issued. -/
  fresh : ∀ d g, s.store.generation ≤ g → s.store.hasMap (indexMapName d g) = false
  suited : ∀ e ∈ s.metaEntries, s.store.Suits e.2.descriptor e.2.mapName
  cache : ∀ ds, s.collection.catalog.cache = some ds →
    ds = s.metaEntries.map fun e => e.2.descriptor
  handlesSorted : Sorted s.collection.handles
  handles : ∀ mapName h, SortedEntries.get? mapName s.collection.handles = some h →
    ∃ e ∈ s.metaEntries, e.2.mapName = mapName ∧ s.Backed h e.2.descriptor mapName
  guards : ∀ p ∈ s.collection.builds.held, p.2.number < s.collection.builds.issued

/-- A session that came of another one: sound, with a certain view, and with the handles of
the other one still good. -/
structure Reaches (s s' : Session σ) (v : View) : Prop where
  sound : s'.Sound
  view : s'.view = v
  serves : ∀ h d, s.Serves h d → s'.Serves h d

/-- A session comes of itself. -/
theorem Reaches.refl {s : Session σ} (h : s.Sound) : Reaches s s s.view :=
  ⟨h, rfl, fun _ _ hs => hs⟩

/-- What comes of a session that came of another one comes of that one. -/
theorem Reaches.trans {s s' s'' : Session σ} {v v' : View} (h : Reaches s s' v)
    (h' : Reaches s' s'' v') : Reaches s s'' v' :=
  ⟨h'.sound, h'.view, fun x d hx => h'.serves x d (h.serves x d hx)⟩

/-- Changing what maps other than that of the metadata hold keeps a session sound and its handles
good, if the records stay sorted. -/
theorem Sound.reaches_samePlaces {s : Session σ} (h : s.Sound) {store : Store}
    (hplaces : s.store.SamePlaces store) (hgeneration : store.generation = s.store.generation)
    (hsorted : Sorted (recordEntries { s with store }))
    (hmetas : metaEntries { s with store } = s.metaEntries) :
    Reaches s { s with store } (view { s with store }) where
  sound := { h with
    records := (hplaces.records _).trans h.records
    metas := (hplaces.metas _).trans h.metas
    recordsSorted := hsorted
    metasSorted := hmetas ▸ h.metasSorted
    metasOwn := hmetas ▸ h.metasOwn
    issued := by
      rw [hmetas, hgeneration]
      exact h.issued
    unshared := hmetas ▸ h.unshared
    -- no map has come or gone, so the names that are free are the same
    fresh := fun d g hg => (hplaces.hasMap_eq _).trans (h.fresh d g (hgeneration ▸ hg))
    suited := by
      rw [hmetas]
      exact fun e he => (hplaces.suits_iff _ _).mpr (h.suited e he)
    cache := by
      rw [hmetas]
      exact h.cache
    handles := by
      intro mapName x hx
      rw [hmetas]
      obtain ⟨e, he, hname, hb⟩ := h.handles mapName x hx
      exact ⟨e, he, hname, hb.of_samePlaces hplaces⟩ }
  view := rfl
  serves := by
    rintro x d ⟨e, he, hd, hb⟩
    unfold Serves
    rw [hmetas]
    exact ⟨e, he, hd, hb.of_samePlaces hplaces⟩

/-- What an operation does: its result, and the view of the session it leaves. -/
def Does (x : SessionM σ α) (s : Session σ) (r : Result α) (v : View) : Prop :=
  ∃ s', x.perform s = (r, s') ∧ Reaches s s' v

/-- Like `Does`, for operations that drop maps: the handles of these lead nowhere afterwards. -/
def Ends (x : SessionM σ α) (s : Session σ) (r : Result α) (v : View) : Prop :=
  ∃ s', x.perform s = (r, s') ∧ s'.Sound ∧ s'.view = v

/-- An operation that keeps all handles good keeps the session sound. -/
theorem Does.ends {x : SessionM σ α} {s : Session σ} {r : Result α} {v : View}
    (h : Does x s r v) : Ends x s r v := by
  obtain ⟨s', hs', hreach⟩ := h
  exact ⟨s', hs', hreach.sound, hreach.view⟩

section chains

variable {x : SessionM σ α} {f : α → SessionM σ β} {s : Session σ} {v v' : View} {a : α}
  {r : Result β} {e : Error}

/-- A value leaves a sound session as it is. -/
theorem does_pure (h : s.Sound) (a : α) : Does (pure a : SessionM σ α) s (.ok a) s.view :=
  ⟨s, rfl, Reaches.refl h⟩

/-- So does an error. -/
theorem does_throw (h : s.Sound) (e : Error) :
    Does (throw e : SessionM σ α) s (.error e) s.view :=
  ⟨s, rfl, Reaches.refl h⟩

/-- So does a result that was computed beforehand. -/
theorem does_ofResult (h : s.Sound) (r : Result α) :
    Does (Action.ofResult r : SessionM σ α) s r s.view :=
  ⟨s, rfl, Reaches.refl h⟩

/-- The session reached goes no further. -/
theorem Reaches.pure {s s' : Session σ} (h : Reaches s s' v) (a : α) :
    Does (Pure.pure a : SessionM σ α) s' (.ok a) v :=
  h.view ▸ does_pure h.sound a

/-- An error that is raised after some steps keeps what they have done. -/
theorem Reaches.throw {s s' : Session σ} (h : Reaches s s' v) (e : Error) :
    Does (MonadExcept.throw e : SessionM σ α) s' (.error e) v :=
  h.view ▸ does_throw h.sound e

/-- If the first of two actions gives a value, the second one goes on from any session that shows
what it left. -/
theorem Does.bind_ok (hx : Does x s (.ok a) v)
    (hf : ∀ s', Reaches s s' v → Does (f a) s' r v') : Does (x >>= f) s r v' := by
  obtain ⟨s', hs', hreach⟩ := hx
  obtain ⟨s'', hs'', hreach'⟩ := hf s' hreach
  exact ⟨s'', by simp only [Action.perform_bind, hs', hs''], hreach.trans hreach'⟩

/-- An operation that goes on from a session that has been reached. -/
theorem Does.bind_from {s₁ : Session σ} (hx : x.perform s = (.ok a, s₁)) (hreach : Reaches s s₁ v)
    (hf : Does (f a) s₁ r v') : Does (x >>= f) s r v' := by
  obtain ⟨s₂, hs₂, hreach'⟩ := hf
  exact ⟨s₂, by simp only [Action.perform_bind, hx, hs₂], hreach.trans hreach'⟩

/-- If the first of two actions fails, that is all. -/
theorem Does.bind_error (hx : Does x s (.error e) v) : Does (x >>= f) s (.error e) v := by
  obtain ⟨s', hs', hreach⟩ := hx
  exact ⟨s', by simp only [Action.perform_bind, hs'], hreach⟩

/-- An operation whose value is changed in the end. -/
theorem Does.then_map {r : Result α} (hx : Does x s r v) (g : α → β) :
    Does (x >>= fun a => pure (g a)) s (r.map g) v := by
  obtain ⟨s', hs', hreach⟩ := hx
  refine ⟨s', ?_, hreach⟩
  rw [Action.perform_bind, hs']
  cases r <;> rfl

/-- An attempt gives the result of what is attempted as a value. -/
theorem Does.attempt {r : Result α} (hx : Does x s r v) : Does x.attempt s (.ok r) v := by
  obtain ⟨s', hs', hreach⟩ := hx
  exact ⟨s', by simp only [Action.perform_attempt, hs'], hreach⟩

/-- The result of an operation and the view it leaves are settled. -/
theorem Does.elim {r : Result α} {r' : Result α} {s' : Session σ} (hx : Does x s r v)
    (h : x.perform s = (r', s')) : r' = r ∧ Reaches s s' v := by
  obtain ⟨s'', hs'', hreach⟩ := hx
  rw [h] at hs''
  cases hs''
  exact ⟨rfl, hreach⟩

end chains

/-! ### Properties that operations keep up -/

section upholding

variable {I : View → Prop}

/-- Whether an operation keeps a property of views up, be it that it succeeds or fails. -/
def Upholds (I : View → Prop) (x : SessionM σ α) : Prop :=
  ∀ s : Session σ, s.Sound → I s.view → ∃ r v, Does x s r v ∧ I v

/-- A value upholds anything. -/
theorem upholds_pure (a : α) : Upholds I (pure a : SessionM σ α) :=
  fun _ h hI => ⟨_, _, does_pure h a, hI⟩

/-- So does a result that was computed beforehand. -/
theorem upholds_ofResult (r : Result α) : Upholds I (Action.ofResult r : SessionM σ α) :=
  fun _ h hI => ⟨_, _, does_ofResult h r, hI⟩

/-- A look at the session upholds what goes on from there. -/
theorem upholds_get_bind {f : Session σ → SessionM σ α} (hf : ∀ s, Upholds I (f s)) :
    Upholds I (get >>= f) :=
  fun s h hI => hf s s h hI

/-- Two actions in turn uphold what each of them does. -/
theorem Upholds.bind {x : SessionM σ α} {f : α → SessionM σ β} (hx : Upholds I x)
    (hf : ∀ a, Upholds I (f a)) : Upholds I (x >>= f) := by
  intro s h hI
  obtain ⟨r, v, hdoes, hv⟩ := hx s h hI
  cases r with
  | error e => exact ⟨_, v, hdoes.bind_error, hv⟩
  | ok a =>
    obtain ⟨s₁, hs₁, hreach₁⟩ := hdoes
    obtain ⟨r', v', hrest, hv'⟩ := hf a s₁ hreach₁.sound (hreach₁.view ▸ hv)
    exact ⟨r', v', Does.bind_from hs₁ hreach₁ hrest, hv'⟩

end upholding

/-! ### Running the parts of a session -/

/-- An action on the store leaves the rest of the session alone. -/
@[simp] theorem perform_onStore (x : StoreM α) (s : Session σ) :
    (onStore x).perform s = ((x.perform s.store).1, { s with store := (x.perform s.store).2 }) :=
  rfl

/-- An action on the catalog leaves all but store and catalog alone. -/
@[simp] theorem perform_onCatalog (x : CatalogM α) (s : Session σ) :
    (onCatalog x).perform s
      = ((x.perform (s.store, s.collection.catalog)).1,
          { s with
            store := (x.perform (s.store, s.collection.catalog)).2.1
            collection := { s.collection with
              catalog := (x.perform (s.store, s.collection.catalog)).2.2 } }) := rfl

/-- A look at the collection changes nothing. -/
@[simp] theorem perform_here (s : Session σ) :
    (here : SessionM σ Collection).perform s = (.ok s.collection, s) := rfl

/-- A change of the collection leaves the rest of the session alone. -/
@[simp] theorem perform_change (f : Collection → Collection) (s : Session σ) :
    (change f : SessionM σ Unit).perform s = (.ok (), { s with collection := f s.collection }) :=
  rfl

/-! ### Indexes of a sound session -/

namespace Sound

variable {s : Session σ}

/-- The metadata of a sound session have one entry for each path of fields. -/
theorem entry_eq_of_key (h : s.Sound) {e e' : FieldPath × IndexMeta} (he : e ∈ s.metaEntries)
    (he' : e' ∈ s.metaEntries) (hkey : e.1 = e'.1) : e = e' :=
  List.inj_on_of_nodup_map h.metasSorted.nodup_keys he he' hkey

/-- No two indexes of a sound session share a backing map. -/
theorem entry_eq_of_mapName (h : s.Sound) {e e' : FieldPath × IndexMeta}
    (he : e ∈ s.metaEntries) (he' : e' ∈ s.metaEntries) (hname : e.2.mapName = e'.2.mapName) :
    e = e' :=
  List.inj_on_of_nodup_map h.unshared he he' hname

/-- No two indexes of a collection cover the same fields. -/
theorem nodup_fields (h : s.Sound) :
    (s.view.indexes.map fun i => i.descriptor.fields).Nodup := by
  have hkeys : (s.view.indexes.map fun i => i.descriptor.fields) = s.metaEntries.map (·.1) := by
    rw [view, List.map_map]
    exact List.map_congr_left fun e he => h.metasOwn e he
  rw [hkeys]
  exact h.metasSorted.nodup_keys

/-- The indexes of the view are what the metadata and the backing maps say. -/
theorem mem_indexes {i : IndexState} :
    i ∈ s.view.indexes ↔ ∃ e ∈ s.metaEntries, e.2.state s.store = i := by
  rw [view, List.mem_map]

/-- A lookup in the catalog finds the metadata of the index on exactly the fields. -/
theorem get?_eq_some_iff (h : s.Sound) {fields : FieldPath} {m : IndexMeta} :
    SortedEntries.get? fields s.metaEntries = some m ↔ (fields, m) ∈ s.metaEntries :=
  h.metasSorted.get?_eq_some_iff_mem

end Sound

end Session

/-! ### Replacing an index of a view -/

namespace View

variable {v : View} {i i' : IndexState}

/-- Putting an index in the place of another one changes nothing besides. -/
@[simp] theorem put_records : (v.put i).records = v.records := rfl
@[simp] theorem put_config : (v.put i).config = v.config := rfl
@[simp] theorem put_held : (v.put i).held = v.held := rfl
@[simp] theorem put_processors : (v.put i).processors = v.processors := rfl
@[simp] theorem put_documents : (v.put i).documents = v.documents := rfl
@[simp] theorem put_isBuilding : (v.put i).isBuilding = v.isBuilding := rfl
@[simp] theorem put_atRest : (v.put i).atRest = v.atRest := rfl

/-- An index that takes the place of one with its fields is there. -/
theorem mem_put (hi : i ∈ v.indexes) (hfields : i'.descriptor.fields = i.descriptor.fields) :
    i' ∈ (v.put i').indexes :=
  List.mem_map.mpr ⟨i, hi, if_pos hfields.symm⟩

/-- An index on other fields is not replaced. -/
theorem mem_put_of_ne {j : IndexState} (hfields : j.descriptor.fields ≠ i.descriptor.fields) :
    j ∈ (v.put i).indexes ↔ j ∈ v.indexes := by
  unfold put
  rw [List.mem_map]
  constructor
  · rintro ⟨j', hj', rfl⟩
    split at hfields
    · exact absurd rfl hfields
    · rwa [if_neg ‹_›]
  · intro hj
    exact ⟨j, hj, if_neg hfields⟩

/-- Nothing but the new index is on its fields. -/
theorem eq_of_mem_put {j : IndexState} (hj : j ∈ (v.put i).indexes)
    (hfields : j.descriptor.fields = i.descriptor.fields) : j = i := by
  obtain ⟨j', -, rfl⟩ := List.mem_map.mp hj
  by_cases hsame : j'.descriptor.fields = i.descriptor.fields
  · rw [if_pos hsame]
  · rw [if_neg hsame] at hfields
    exact absurd hfields hsame

/-- Putting an index in the place of one with the same descriptor keeps the list of descriptors. -/
theorem put_descriptors (hd : (v.indexes.map fun i => i.descriptor.fields).Nodup)
    (hi : i ∈ v.indexes) (hsame : i'.descriptor = i.descriptor) :
    (v.put i').indexes.map (·.descriptor) = v.indexes.map (·.descriptor) := by
  unfold put
  rw [List.map_map]
  refine List.map_congr_left fun j hj => ?_
  by_cases hfields : j.descriptor.fields = i'.descriptor.fields
  · obtain rfl := List.inj_on_of_nodup_map hd hj hi (hsame ▸ hfields)
    simp [hsame]
  · simp [hfields]

/-- Of two replacements of one index the later one counts. -/
theorem put_put (hfields : i'.descriptor.fields = i.descriptor.fields) :
    (v.put i).put i' = v.put i' := by
  unfold put
  rw [View.mk.injEq]
  refine ⟨rfl, rfl, rfl, rfl, rfl, rfl, ?_⟩
  rw [List.map_map]
  refine List.map_congr_left fun j _ => ?_
  by_cases hj : j.descriptor.fields = i.descriptor.fields
  · simp [hj, hfields]
  · simp [hj, hfields]

/-- Replacing an index by itself changes nothing. -/
theorem put_self (hd : (v.indexes.map fun i => i.descriptor.fields).Nodup) (hi : i ∈ v.indexes) :
    v.put i = v := by
  have hsame : (v.indexes.map fun j => if j.descriptor.fields = i.descriptor.fields then i else j)
      = v.indexes := by
    rw [List.map_congr_left (g := id), List.map_id]
    intro j hj
    by_cases hfields : j.descriptor.fields = i.descriptor.fields
    · rw [if_pos hfields, List.inj_on_of_nodup_map hd hj hi hfields]
      rfl
    · rw [if_neg hfields]
      rfl
  rw [put, hsame]

/-- Replacing an index leaves the others where they are. -/
theorem put_append (i' : IndexState) {before after : List IndexState}
    (hd : (v.indexes.map fun i => i.descriptor.fields).Nodup)
    (hv : v.indexes = before ++ i :: after)
    (hfields : i'.descriptor.fields = i.descriptor.fields) :
    (v.put i').indexes = before ++ i' :: after := by
  rw [hv, List.map_append, List.map_cons, List.nodup_append, List.nodup_cons] at hd
  obtain ⟨-, ⟨hafter, -⟩, hbefore⟩ := hd
  unfold put
  simp only [hv, List.map_append, List.map_cons, hfields, if_true]
  congr 1
  · rw [List.map_congr_left (g := id), List.map_id]
    intro j hj
    exact if_neg (hbefore _ (List.mem_map_of_mem hj) _ List.mem_cons_self)
  · congr 1
    rw [List.map_congr_left (g := id), List.map_id]
    intro j hj
    refine if_neg fun heq => hafter ?_
    rw [← heq]
    exact List.mem_map_of_mem hj

end View

end DocumentDb
