import DocumentDb.Proofs.Index.Handle
import DocumentDb.Proofs.Session

/-!
# `DocumentDb.Proofs.Backing`: what a handle does to a session

A handle writes to the backing map of one index. Seen from the session, that replaces the
content of this index and nothing else, because no other index has a map of the same name.

* `Sound.reaches_ordered` and `Sound.reaches_fullText` are the two places where this is
  proved, one for each kind of backing map, and `Sound.holds` puts them together.
* `does_write`, `does_erase` and `does_clear` describe the actions of handles by the change
  of the content.
-/

set_option autoImplicit false

namespace DocumentDb

open SortedEntries (Sorted)

namespace Session

open Store (Refers entriesOf openPosition?)

variable {σ : Type} {s : Session σ}

namespace Sound

/-- Changing entries of backing maps, while every name keeps its position, keeps a session
sound and its handles good. -/
theorem reaches_of_positions (h : s.Sound) (indexes : List (NamedMap Key Node))
    (texts : List (NamedMap String (List RecordId)))
    (hindexes : ∀ name, openPosition? indexes name = openPosition? s.store.indexes name)
    (htexts : ∀ name, openPosition? texts name = openPosition? s.store.texts name) :
    Reaches s { s with store := { s.store with indexes, texts } }
      (view { s with store := { s.store with indexes, texts } }) :=
  h.reaches_samePlaces ⟨fun _ => rfl, fun _ => rfl, hindexes, htexts⟩ rfl h.recordsSorted rfl

/-- Other indexes have other backing maps. -/
theorem mapName_eq_iff (h : s.Sound) {e e' : FieldPath × IndexMeta} (he : e ∈ s.metaEntries)
    (he' : e' ∈ s.metaEntries) :
    e'.2.mapName = e.2.mapName ↔ e'.2.descriptor.fields = e.2.descriptor.fields := by
  constructor
  · intro hname
    rw [h.entry_eq_of_mapName he' he hname]
  · intro hfields
    rw [h.metasOwn e he, h.metasOwn e' he'] at hfields
    rw [h.entry_eq_of_key he' he hfields]

/-- The view shows of the backing maps only the content of each index. If that of one index alone
is another, the view has another state in its place. -/
theorem view_eq_put (h : s.Sound) {e : FieldPath × IndexMeta} (he : e ∈ s.metaEntries)
    (indexes : List (NamedMap Key Node)) (texts : List (NamedMap String (List RecordId)))
    {c : Content}
    (hown : Store.content { s.store with indexes, texts } e.2.descriptor e.2.mapName = c)
    (hother : ∀ d name, name ≠ e.2.mapName →
      Store.content { s.store with indexes, texts } d name = s.store.content d name) :
    view { s with store := { s.store with indexes, texts } }
      = s.view.put ⟨e.2.descriptor, e.2.dirty, c⟩ := by
  unfold view View.put
  rw [View.mk.injEq]
  refine ⟨rfl, rfl, rfl, rfl, rfl, rfl, ?_⟩
  dsimp only
  rw [List.map_map]
  refine List.map_congr_left fun e' he' => ?_
  dsimp only [Function.comp_apply, IndexMeta.state]
  have hname := h.mapName_eq_iff he he'
  by_cases hfields : e'.2.descriptor.fields = e.2.descriptor.fields
  · have hsame : e' = e := h.entry_eq_of_mapName he' he (hname.mpr hfields)
    rw [if_pos hfields, hsame, hown]
  · rw [if_neg hfields, hother _ _ (mt hname.mp hfields)]

/-- Changing the entries of an ordered backing map replaces the content of its index. -/
theorem reaches_ordered (h : s.Sound) {e : FieldPath × IndexMeta} (he : e ∈ s.metaEntries)
    (hkind : e.2.descriptor.isFullText = false) {map : MapRef Key}
    (hmap : Refers s.store.indexes map e.2.mapName) (level : Level) :
    Reaches s { s with store := s.store.setEntries map level }
      (s.view.put ⟨e.2.descriptor, e.2.dirty, .ordered level⟩) := by
  have hreach := h.reaches_of_positions _ s.store.texts
    (fun name => Store.openPosition?_modify s.store.indexes map.position level name)
    (fun _ => rfl)
  refine ⟨hreach.sound, h.view_eq_put he _ s.store.texts ?_ fun d name hne => ?_, hreach.serves⟩
  · rw [Store.content, if_neg (Bool.eq_false_iff.mp hkind)]
    exact congrArg Content.ordered ((Store.entriesOf_modify hmap level _).trans (if_pos rfl))
  · unfold Store.content
    split
    · rfl
    · exact congrArg Content.ordered ((Store.entriesOf_modify hmap level _).trans (if_neg hne))

/-- Changing the entries of a full-text backing map replaces the content of its index. -/
theorem reaches_fullText (h : s.Sound) {e : FieldPath × IndexMeta} (he : e ∈ s.metaEntries)
    (hkind : e.2.descriptor.isFullText = true) {map : MapRef String}
    (hmap : Refers s.store.texts map e.2.mapName) (postings : FullText.Postings) :
    Reaches s { s with store := s.store.setEntries map postings }
      (s.view.put ⟨e.2.descriptor, e.2.dirty, .fullText postings⟩) := by
  have hreach := h.reaches_of_positions s.store.indexes _ (fun _ => rfl)
    (fun name => Store.openPosition?_modify s.store.texts map.position postings name)
  refine ⟨hreach.sound, h.view_eq_put he s.store.indexes _ ?_ fun d name hne => ?_, hreach.serves⟩
  · rw [Store.content, if_pos hkind]
    exact congrArg Content.fullText ((Store.entriesOf_modify hmap postings _).trans (if_pos rfl))
  · unfold Store.content
    split
    · exact congrArg Content.fullText ((Store.entriesOf_modify hmap postings _).trans (if_neg hne))
    · rfl

/-- An index is determined by the descriptor that its handle serves. -/
theorem exists_entry (h : s.Sound) {x : IndexHandle} {i : IndexState} (hi : i ∈ s.view.indexes)
    (hx : s.Serves x i.descriptor) :
    ∃ e ∈ s.metaEntries, i = e.2.state s.store ∧ s.Backed x e.2.descriptor e.2.mapName := by
  obtain ⟨e, he, rfl⟩ := mem_indexes.mp hi
  obtain ⟨e', he', hd, hb⟩ := hx
  have hsame : e' = e := by
    refine h.entry_eq_of_key he' he ?_
    rw [← h.metasOwn e' he', ← h.metasOwn e he, hd]
    rfl
  subst hsame
  exact ⟨e', he', rfl, hb⟩

end Sound

/-- A change through any handle, even one that leads nowhere, keeps a session sound: names keep
their positions. -/
theorem Sound.sound_change (h : s.Sound) (x : IndexHandle) (vs : FieldValues)
    (onKeys : List Key → List Key → Action Level Unit)
    (onTokens : List String → FullText.Postings → FullText.Postings) :
    Sound { s with store := ((x.change vs onKeys onTokens).perform s.store).2 } := by
  obtain ⟨d, mapName, backing⟩ := x
  unfold IndexHandle.change
  cases backing with
  | ordered map =>
    simp only [Action.perform_bind, Action.perform_ofResult]
    -- an error, of the values or of the map, leaves the store as it is
    cases OrderedIndex.paths d vs with
    | error e => exact h
    | ok p =>
      dsimp only
      split
      · unfold MapRef.onEntries Action.perform
        dsimp only
        split
        · exact h
        · exact (h.reaches_of_positions _ s.store.texts (fun name =>
            Store.openPosition?_modify s.store.indexes map.position _ name) fun _ => rfl).sound
      · exact h
  | fullText map tokenizer =>
    simp only [Action.perform_bind, Action.perform_ofResult]
    cases FullText.tokens tokenizer d.fields.first vs.firstValue with
    | error e => exact h
    | ok ts =>
      dsimp only
      split
      · have hread : map.entries.perform s.store = ((s.store.map map).read, s.store) := rfl
        rw [MapRef.setEntries, Action.perform_bind, hread]
        cases (s.store.map map).read with
        | error e => exact h
        | ok es =>
          exact (h.reaches_of_positions s.store.indexes _ (fun _ => rfl) fun name =>
            Store.openPosition?_modify s.store.texts map.position _ name).sound
      · exact h

/-! ### The actions of a handle -/

section actions

variable {i : IndexState} {x : IndexHandle}

/-- A handle that serves an index has its descriptor. -/
theorem Serves.descriptor_eq {d : IndexDescriptor} (hx : s.Serves x d) : x.descriptor = d := by
  obtain ⟨e, -, -, hb⟩ := hx
  exact hb.1

/-- A handle leads to the content of its index, and replacing what it leads to replaces the content
of this index in the view. -/
theorem Sound.holds (h : s.Sound) (hi : i ∈ s.view.indexes) (hx : s.Serves x i.descriptor) :
    x.Holds s.view.config.tokenizer s.store i.content ∧
      ∀ c : Content, c.isFullText = i.content.isFullText →
        Reaches s { s with store := x.withContent s.store c }
          (s.view.put { i with content := c }) := by
  obtain ⟨e, he, rfl, hd, -, hb⟩ := h.exists_entry hi hx
  obtain ⟨d, mapName, backing⟩ := x
  dsimp only at hd
  subst hd
  cases backing with
  -- the handle says which of the two maps its content is in, and so do the metadata
  | ordered map =>
    obtain ⟨hkind, hmap⟩ := hb
    have hcontent : (e.2.state s.store).content
        = .ordered (entriesOf e.2.mapName s.store.indexes) := if_neg (by simp [hkind])
    rw [hcontent]
    refine ⟨.ordered (Store.read_of_refers hmap), fun c hc => ?_⟩
    cases c with
    | ordered level => exact h.reaches_ordered he hkind hmap level
    | fullText postings => cases hc
  | fullText map tokenizer =>
    obtain ⟨hkind, rfl, hmap⟩ := hb
    have hcontent : (e.2.state s.store).content
        = .fullText (entriesOf e.2.mapName s.store.texts) := if_pos hkind
    rw [hcontent]
    refine ⟨.fullText (Store.read_of_refers hmap), fun c hc => ?_⟩
    cases c with
    | ordered level => cases hc
    | fullText postings => exact h.reaches_fullText he hkind hmap postings

/-- Writing through a handle writes to the content of its index. -/
theorem does_write (h : s.Sound) (hi : i ∈ s.view.indexes) (hx : s.Serves x i.descriptor)
    (vs : FieldValues) :
    Does (onStore (x.write vs)) s
      ((Content.write s.view.config.tokenizer i.descriptor vs).perform i.content).1
      (s.view.put { i with content :=
        ((Content.write s.view.config.tokenizer i.descriptor vs).perform i.content).2 }) := by
  obtain ⟨hholds, hreach⟩ := h.holds hi hx
  have hperform := hholds.perform_write vs
  rw [hx.descriptor_eq] at hperform
  refine ⟨_, ?_, hreach _ (Content.isFullText_change _ _ _)⟩
  simp only [perform_onStore, hperform]

/-- Erasing through a handle erases from the content of its index. -/
theorem does_erase (h : s.Sound) (hi : i ∈ s.view.indexes) (hx : s.Serves x i.descriptor)
    (vs : FieldValues) :
    Does (onStore (x.erase vs)) s
      ((Content.erase s.view.config.tokenizer i.descriptor vs).perform i.content).1
      (s.view.put { i with content :=
        ((Content.erase s.view.config.tokenizer i.descriptor vs).perform i.content).2 }) := by
  obtain ⟨hholds, hreach⟩ := h.holds hi hx
  have hperform := hholds.perform_erase vs
  rw [hx.descriptor_eq] at hperform
  refine ⟨_, ?_, hreach _ (Content.isFullText_change _ _ _)⟩
  simp only [perform_onStore, hperform]

/-- Clearing through a handle empties the content of its index. -/
theorem does_clear (h : s.Sound) (hi : i ∈ s.view.indexes) (hx : s.Serves x i.descriptor) :
    Does (onStore x.clear) s (.ok ()) (s.view.put { i with content := i.content.cleared }) := by
  obtain ⟨hholds, hreach⟩ := h.holds hi hx
  refine ⟨_, ?_, hreach _ (Content.isFullText_cleared _)⟩
  simp only [perform_onStore, hholds.perform_clear]

end actions

end Session

end DocumentDb
