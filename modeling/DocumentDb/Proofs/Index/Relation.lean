import DocumentDb.Proofs.Backing
import DocumentDb.Proofs.Index.Admission
import Mathlib.Data.Set.Prod

/-!
# `DocumentDb.Proofs.Index.Relation`: an index as a relation

An index of any kind stands for a relation between places and record ids. Three calls change it: a
write, an erasure and a clear, with whatever values and ids. What they do to the relation is said
without keys, levels and postings, on the values of the fields alone.

* `FieldValues.indexable` and `FieldValues.fanOut` describe the values: whether they can be indexed,
  and the places that they fan out to. Numbers that are equal in a filter fan out to one place.
* `IndexCall.Accepted` and `IndexCall.applied` describe the calls: when one is taken, and the
  relation that it leaves then.
* `IndexHandle.Represents` is the invariant. `represents_step` says that a call preserves it, and
  that a call that fails changes nothing in the store. `index_refines_relation` follows by induction
  over any list of calls on a new index.
-/

set_option autoImplicit false

namespace DocumentDb

open FanOut

/-! ### What values fan out to -/

namespace FieldValues

/-- Whether an index can hold the values. Of an ordered index, every element of the first field has
to be null or a scalar, and so do the later values. Of a full-text index, every element has to be
null or a text. -/
def indexable (d : IndexDescriptor) (vs : FieldValues) : Bool :=
  if d.isFullText then vs.firstValue.elements.all (·.isWording)
  else vs.firstValue.elements.all (·.isKey) && (vs.laterValues d.fields).all (·.isKey)

/-- The places that the values fan out to. In an ordered index, they are the paths that begin with a
key equal to an element of the first field and go on with keys equal to the later values. In a
full-text index, they are the tokens of the texts. -/
def fanOut (tokenizer : Text.Tokenizer) (d : IndexDescriptor) (vs : FieldValues) : Set Place :=
  {p | match p with
    | .path keys =>
      d.isFullText = false ∧ ∃ v ∈ vs.firstValue.elements,
        List.Forall₂ (fun (v : Value) (k : Key) => v.equal k.value = true)
          (v :: vs.laterValues d.fields) keys
    | .token t =>
      d.isFullText = true ∧ ∃ text, .string text ∈ vs.firstValue.elements ∧ t ∈ tokenizer text}

end FieldValues

/-- Two paths are one place when the values of the one equal the keys of the other in turn. -/
theorem samePath_iff_forall₂ {p q : List Key} :
    samePath p q = true ↔
      List.Forall₂ (fun (v : Value) (k : Key) => v.equal k.value = true) (p.map Key.value) q := by
  induction p generalizing q with
  | nil => cases q <;> simp [samePath]
  | cons a p ih =>
    cases q with
    | nil => simp [samePath]
    | cons b q => simp [samePath, ih, Key.equal_eq_same]

/-- Dropping keys that have occurred loses none of them as a key. -/
theorem exists_same_distinct {ks : List Key} {k' : Key} :
    (∃ k ∈ distinct ks, k.same k' = true) ↔ ∃ k ∈ ks, k.same k' = true := by
  have htakes : (Scan.Selection.these [k']).takes = (·.same k') := by
    funext k
    simp [Scan.Selection.takes, Key.same_comm k']
  have hany := any_distinct ks (.these [k'])
  rw [htakes] at hany
  rw [← List.any_eq_true, ← List.any_eq_true, hany]

namespace FieldValues

variable {tokenizer : Text.Tokenizer} {d : IndexDescriptor} {vs : FieldValues}

/-- Values have places in an index exactly if it can hold them. -/
theorem indexable_iff (tokenizer : Text.Tokenizer) :
    vs.indexable d = true ↔ ∃ ps, placesOf tokenizer d vs = .ok ps := by
  rw [indexable]
  cases hkind : d.isFullText with
  | true =>
    rw [if_pos rfl, List.all_eq_true, placesOf, if_pos hkind, Result.exists_map_eq_ok_iff]
    exact exists_tokens_iff.symm
  | false =>
    have hfirst : (∃ keys, firstKeys d.fields.first vs.firstValue = .ok keys) ↔
        ∀ v ∈ vs.firstValue.elements, v.isKey = true := exists_firstKeys_iff
    have hlater : (∃ path : List Key, vs.laterValues d.fields = path.map Key.value) ↔
        ∀ v ∈ vs.laterValues d.fields, v.isKey = true := exists_keys_iff
    rw [if_neg (by simp), Bool.and_eq_true, List.all_eq_true, List.all_eq_true, ← hlater, ← hfirst]
    simp only [placesOf_ordered hkind]
    constructor
    · rintro ⟨⟨keys, hkeys⟩, path, hpath⟩
      exact ⟨_, keys, path, hkeys, hpath, rfl⟩
    · rintro ⟨-, keys, path, hkeys, hpath, -⟩
      exact ⟨⟨keys, hkeys⟩, path, hpath⟩

/-- The places of values are those that they fan out to. -/
theorem mem_fanOut_iff {ps : List Place} (hps : placesOf tokenizer d vs = .ok ps) (p : Place) :
    p ∈ vs.fanOut tokenizer d ↔ p.among ps = true := by
  cases hkind : d.isFullText with
  | true =>
    rw [placesOf, if_pos hkind] at hps
    obtain ⟨ts, hts, rfl⟩ := Result.map_eq_ok_iff.mp hps
    cases p with
    | path keys => simp [fanOut, hkind, Place.among, Place.same]
    | token t =>
      have hmem := FullText.mem_tokens_iff hts t
      simp [fanOut, hkind, Place.among, Place.same, ← hmem]
  | false =>
    obtain ⟨keys, path, hkeys, hpath, rfl⟩ := (placesOf_ordered hkind).mp hps
    obtain ⟨all, hall, rfl⟩ := firstKeys_eq_ok.mp hkeys
    cases p with
    | token t => simp [fanOut, hkind, Place.among, Place.same]
    | path q =>
      have hamong : (Place.path q).among ((distinct all).map fun k => .path (k :: path)) = true ↔
          ∃ k ∈ distinct all, samePath q (k :: path) = true := by
        simp [Place.among, Place.same]
      rw [hamong]
      show d.isFullText = false ∧ (∃ v ∈ vs.firstValue.elements,
        List.Forall₂ (fun (v : Value) (k : Key) => v.equal k.value = true)
          (v :: vs.laterValues d.fields) q) ↔ _
      rw [hall, hpath]
      cases q with
      | nil => simp [samePath]
      | cons k' q =>
        -- the first key is that of some element, the keys after it are the same for all elements
        have hsame : ∀ k : Key, samePath (k' :: q) (k :: path) = true ↔
            k.same k' = true ∧ samePath path q = true := by
          intro k
          rw [samePath, Bool.and_eq_true, Key.same_comm]
          exact and_congr_right fun _ => ⟨samePath_symm, samePath_symm⟩
        simp only [hsame, ← and_assoc, exists_and_right, exists_same_distinct]
        simp [hkind, Key.equal_eq_same, samePath_iff_forall₂, ← and_assoc]

end FieldValues

/-! ### Calls -/

/-- The calls that change an index. -/
inductive IndexCall
  | write (vs : FieldValues)
  | erase (vs : FieldValues)
  | clear

/-- The entries of a content: an id stands at a place. -/
def Content.relation (c : Content) : Set (Place × RecordId) := {e | e.2 ∈ c.idsAt e.1}

namespace IndexCall

/-- The call on an index. -/
def action (x : IndexHandle) : IndexCall → StoreM Unit
  | .write vs => x.write vs
  | .erase vs => x.erase vs
  | .clear => x.clear

/-- The store after some calls on an index, of which any may have failed. -/
def after (x : IndexHandle) (s : Store) (history : List IndexCall) : Store :=
  history.foldl (fun s call => ((call.action x).perform s).2) s

/-- The call on the content of an index. -/
def onContent (tokenizer : Text.Tokenizer) (d : IndexDescriptor) : IndexCall → Action Content Unit
  | .write vs => Content.write tokenizer d vs
  | .erase vs => Content.erase tokenizer d vs
  | .clear => modify Content.cleared

/-- Whether an index that stands for a relation takes a call. The values have to be indexable, and
a unique index takes a record only where no other record stands. -/
def Accepted (tokenizer : Text.Tokenizer) (d : IndexDescriptor) (R : Set (Place × RecordId)) :
    IndexCall → Prop
  | .write vs => vs.indexable d = true ∧
      (d.isUnique = true → ∀ p ∈ vs.fanOut tokenizer d, ∀ id, (p, id) ∈ R → id = vs.id)
  | .erase vs => vs.indexable d = true
  | .clear => True

/-- The relation that a call leaves when it is taken. -/
def applied (tokenizer : Text.Tokenizer) (d : IndexDescriptor) (R : Set (Place × RecordId)) :
    IndexCall → Set (Place × RecordId)
  | .write vs => R ∪ vs.fanOut tokenizer d ×ˢ {vs.id}
  | .erase vs => R \ vs.fanOut tokenizer d ×ˢ {vs.id}
  | .clear => ∅

open Classical in
/-- The relation that a call leaves. One that is not taken leaves it as it is. -/
noncomputable def effect (tokenizer : Text.Tokenizer) (d : IndexDescriptor)
    (R : Set (Place × RecordId)) (call : IndexCall) : Set (Place × RecordId) :=
  if call.Accepted tokenizer d R then call.applied tokenizer d R else R

/-- The relation that some calls on an empty index leave. -/
noncomputable def relationAfter (tokenizer : Text.Tokenizer) (d : IndexDescriptor)
    (history : List IndexCall) : Set (Place × RecordId) :=
  history.foldl (effect tokenizer d) ∅

end IndexCall

/-! ### One call on a content -/

namespace Content

variable {tokenizer : Text.Tokenizer} {d : IndexDescriptor} {vs : FieldValues} {c c' : Content}

/-- An empty index relates nothing. -/
theorem relation_empty (d : IndexDescriptor) : (empty d).relation = ∅ := by
  ext e
  simp [relation]

/-- Adding an id at places is adding its pairs with them. -/
theorem Adds.relation_eq {ps : List Place} (h : Adds vs.id ps c c')
    (hps : placesOf tokenizer d vs = .ok ps) :
    c'.relation = c.relation ∪ vs.fanOut tokenizer d ×ˢ {vs.id} := by
  ext ⟨p, id⟩
  show id ∈ c'.idsAt p ↔ id ∈ c.idsAt p ∨ p ∈ vs.fanOut tokenizer d ∧ id = vs.id
  rw [h.mem_iff, FieldValues.mem_fanOut_iff hps, and_comm (a := id = vs.id)]

/-- Taking an id away at places is taking its pairs with them away. -/
theorem Drops.relation_eq {ps : List Place} (h : Drops vs.id ps c c')
    (hps : placesOf tokenizer d vs = .ok ps) :
    c'.relation = c.relation \ vs.fanOut tokenizer d ×ˢ {vs.id} := by
  ext ⟨p, id⟩
  show id ∈ c'.idsAt p ↔ id ∈ c.idsAt p ∧ ¬(p ∈ vs.fanOut tokenizer d ∧ id = vs.id)
  rw [h.mem_iff, FieldValues.mem_fanOut_iff hps, and_comm (a := id = vs.id)]

/-- A content takes the entries of a record when its relation allows it. -/
theorem accepts_iff_accepted :
    c.Accepts tokenizer d vs ↔ (IndexCall.write vs).Accepted tokenizer d c.relation := by
  rw [Accepts, IndexCall.Accepted, FieldValues.indexable_iff tokenizer]
  have hfree : ∀ ps, placesOf tokenizer d vs = .ok ps →
      (Free vs.id ps c ↔
        ∀ p ∈ vs.fanOut tokenizer d, ∀ id, (p, id) ∈ c.relation → id = vs.id) := by
    intro ps hps
    simp only [FieldValues.mem_fanOut_iff hps]
    constructor
    · intro h p hp id hid
      obtain ⟨q, hq, hsame⟩ := List.any_eq_true.mp hp
      have hid' : id ∈ c.idsAt q := idsAt_congr hsame c ▸ hid
      exact h q hq id hid'
    · intro h p hp id hid
      exact h p (Place.among_of_mem hp) id hid
  constructor
  · rintro ⟨ps, hps, h⟩
    exact ⟨⟨ps, hps⟩, fun hu => (hfree ps hps).mp (h hu)⟩
  · rintro ⟨⟨ps, hps⟩, h⟩
    exact ⟨ps, hps, fun hu => (hfree ps hps).mpr (h hu)⟩

/-- A call that the relation allows changes the content as it changes the relation. Any other call
is an error and changes nothing. -/
theorem WellFormed.call_spec (h : c.WellFormed d) (tokenizer : Text.Tokenizer) (call : IndexCall) :
    (call.Accepted tokenizer d c.relation ∧
        ∃ c', (call.onContent tokenizer d).perform c = (.ok (), c') ∧ c'.WellFormed d ∧
          c'.relation = call.applied tokenizer d c.relation) ∨
      (¬ call.Accepted tokenizer d c.relation ∧
        ∃ e, (call.onContent tokenizer d).perform c = (.error e, c)) := by
  cases call with
  | write vs =>
    rw [← accepts_iff_accepted]
    rcases h.write_spec tokenizer vs with ⟨hnot, e, he⟩ | ⟨ps, c', hacc, hps, hw, hwf, hadds⟩
    · exact Or.inr ⟨hnot, e, he⟩
    · exact Or.inl ⟨hacc, c', hw, hwf, hadds.relation_eq hps⟩
  | erase vs =>
    show (vs.indexable d = true ∧ _) ∨ (¬ vs.indexable d = true ∧ _)
    rw [FieldValues.indexable_iff tokenizer]
    rcases h.erase_spec tokenizer vs with ⟨e, hnone, he⟩ | ⟨ps, c', hps, hw, hwf, hdrops⟩
    · refine Or.inr ⟨?_, e, he⟩
      rintro ⟨ps, hps⟩
      rw [hnone] at hps
      cases hps
    · exact Or.inl ⟨⟨ps, hps⟩, c', hw, hwf, hdrops.relation_eq hps⟩
  -- clearing an index is always accepted
  | clear =>
    refine Or.inl ⟨trivial, c.cleared, rfl, ?_, ?_⟩
    · rw [h.cleared_eq]
      exact wellFormed_empty d
    · rw [h.cleared_eq]
      exact relation_empty d

end Content

/-! ### Calls on a store -/

/-- An index stands for a relation: it holds a well-formed content with these entries. -/
def IndexHandle.Represents (tokenizer : Text.Tokenizer) (s : Store) (x : IndexHandle)
    (R : Set (Place × RecordId)) : Prop :=
  ∃ c, x.Holds tokenizer s c ∧ c.WellFormed x.descriptor ∧ c.relation = R

variable {tokenizer : Text.Tokenizer} {s : Store} {x : IndexHandle} {c : Content}
  {R : Set (Place × RecordId)}

/-- A call on an index is the call on the content that it leads to. -/
theorem IndexHandle.Holds.perform_call (h : x.Holds tokenizer s c) (call : IndexCall) :
    (call.action x).perform s
      = (((call.onContent tokenizer x.descriptor).perform c).1,
          x.withContent s ((call.onContent tokenizer x.descriptor).perform c).2) := by
  cases call with
  | write vs => exact h.perform_write vs
  | erase vs => exact h.perform_erase vs
  | clear => exact h.perform_clear

/-- One call on an index that stands for a relation. If the relation allows the call, it succeeds
and the index stands for the changed relation. Otherwise the call is an error, and the store is the
same. -/
theorem represents_step (h : x.Represents tokenizer s R) (call : IndexCall) :
    (call.Accepted tokenizer x.descriptor R ∧
        ∃ s', (call.action x).perform s = (.ok (), s') ∧
          x.Represents tokenizer s' (call.applied tokenizer x.descriptor R)) ∨
      (¬ call.Accepted tokenizer x.descriptor R ∧
        ∃ e, (call.action x).perform s = (.error e, s)) := by
  obtain ⟨c, hholds, hwf, rfl⟩ := h
  have hperform := hholds.perform_call call
  rcases hwf.call_spec tokenizer call with ⟨hacc, c', hc', hwf', hrel⟩ | ⟨hnot, e, he⟩
  · rw [hc'] at hperform
    have hkind : c'.isFullText = c.isFullText := hwf'.isFullText_eq.trans hwf.isFullText_eq.symm
    exact Or.inl ⟨hacc, _, hperform, c', hholds.withContent hkind, hwf', hrel⟩
  · rw [he, hholds.withContent_self] at hperform
    exact Or.inr ⟨hnot, e, hperform⟩

/-- A call that the relation allows. -/
theorem IndexHandle.Represents.taken (h : x.Represents tokenizer s R) {call : IndexCall}
    (hacc : call.Accepted tokenizer x.descriptor R) :
    ∃ s', (call.action x).perform s = (.ok (), s') ∧
      x.Represents tokenizer s' (call.applied tokenizer x.descriptor R) := by
  rcases represents_step h call with ⟨-, htaken⟩ | ⟨hnot, -⟩
  · exact htaken
  · exact absurd hacc hnot

/-- A new index stands for the relation without entries. -/
theorem exists_represents (d : IndexDescriptor) {mapName : String} (tokenizer : Text.Tokenizer)
    (hfree : s.hasMap mapName = false) :
    ∃ x s₁, (IndexHandle.openMap d mapName tokenizer).perform s = (.ok x, s₁) ∧
      x.descriptor = d ∧ x.Represents tokenizer s₁ ∅ := by
  obtain ⟨x, s₁, hopen, rfl, hempty⟩ := IndexHandle.exists_openMap d tokenizer hfree
  exact ⟨x, s₁, hopen, rfl, _, hempty, Content.wellFormed_empty _, Content.relation_empty _⟩

/-- After any calls, the index stands for the relation that they leave. -/
theorem represents_after (h : x.Represents tokenizer s R) (history : List IndexCall) :
    x.Represents tokenizer (IndexCall.after x s history)
      (history.foldl (IndexCall.effect tokenizer x.descriptor) R) := by
  induction history generalizing s R with
  | nil => exact h
  | cons call history ih =>
    rw [IndexCall.after, List.foldl_cons, List.foldl_cons]
    apply ih
    rcases represents_step h call with ⟨hacc, s', hs', hrep⟩ | ⟨hnot, e, he⟩
    · rw [hs', IndexCall.effect, if_pos hacc]
      exact hrep
    · rw [he, IndexCall.effect, if_neg hnot]
      exact h

/-- A new index, and any calls on it with any values and ids. The index always stands for the
relation that the calls before leave. The next call succeeds exactly if this relation allows it: its
values can be indexed, and a unique index has no other id at a place that they fan out to. Then it
adds the id at exactly these places, takes it away at exactly these places, or leaves no entry at
all. A call that fails leaves the store as it is. -/
theorem index_refines_relation (d : IndexDescriptor) (mapName : String)
    (tokenizer : Text.Tokenizer) {s : Store} (hfree : s.hasMap mapName = false) :
    ∃ x s₁, (IndexHandle.openMap d mapName tokenizer).perform s = (.ok x, s₁) ∧
      x.descriptor = d ∧
      ∀ history : List IndexCall,
        x.Represents tokenizer (IndexCall.after x s₁ history)
          (IndexCall.relationAfter tokenizer d history) ∧
        ∀ call : IndexCall,
          (call.Accepted tokenizer d (IndexCall.relationAfter tokenizer d history) ∧
            ∃ s₂, (call.action x).perform (IndexCall.after x s₁ history) = (.ok (), s₂) ∧
              x.Represents tokenizer s₂
                (call.applied tokenizer d (IndexCall.relationAfter tokenizer d history))) ∨
          (¬ call.Accepted tokenizer d (IndexCall.relationAfter tokenizer d history) ∧
            ∃ e, (call.action x).perform (IndexCall.after x s₁ history)
              = (.error e, IndexCall.after x s₁ history)) := by
  obtain ⟨x, s₁, hopen, rfl, hnew⟩ := exists_represents d tokenizer hfree
  refine ⟨x, s₁, hopen, rfl, fun history => ?_⟩
  have hrep := represents_after hnew history
  exact ⟨hrep, fun call => represents_step hrep call⟩

/-- A unique index on two fields. -/
def pairIndex : IndexDescriptor := ⟨.unique, ⟨["a", "b"]⟩, "c"⟩

/-- Values of a record: an array in the first field, with the same number as an integer and as a
float, and a text in the second. -/
def arrayValues : FieldValues :=
  ⟨⟨1⟩, pairIndex.fields,
    [("a", .array [.int 1, .float ⟨0x3FF0000000000000⟩, .int 2]), ("b", .string "x")]⟩

/-- Values of another record that meet those of the first one in `2`, given as a float. -/
def rivalValues : FieldValues :=
  ⟨⟨2⟩, pairIndex.fields, [("a", .float ⟨0x4000000000000000⟩), ("b", .string "x")]⟩

/-- A new unique index takes the first record, and then stands for the places of this record. It
refuses the second record, and nothing changes. -/
theorem index_refines_relation_rival_values :
    ({} : Store).hasMap "m" = false ∧
    ∃ x s₁ s₂, (IndexHandle.openMap pairIndex "m" fun _ => []).perform {} = (.ok x, s₁) ∧
      (x.write arrayValues).perform s₁ = (.ok (), s₂) ∧
      x.Represents (fun _ => []) s₂ (arrayValues.fanOut (fun _ => []) pairIndex ×ˢ {⟨1⟩}) ∧
      ∃ e, (x.write rivalValues).perform s₂ = (.error e, s₂) := by
  have hfree := Store.hasMap_new "m"
  obtain ⟨x, s₁, hopen, -, hcalls⟩ := index_refines_relation pairIndex "m" (fun _ => []) hfree
  have hfirst : (IndexCall.write arrayValues).Accepted (fun _ => []) pairIndex ∅ :=
    ⟨by decide, fun _ p _ id hid => hid.elim⟩
  have hrelation : IndexCall.relationAfter (fun _ => []) pairIndex [.write arrayValues]
      = arrayValues.fanOut (fun _ => []) pairIndex ×ˢ {⟨1⟩} :=
    (if_pos hfirst).trans (Set.empty_union _)
  obtain ⟨hrep, hnext⟩ := hcalls [.write arrayValues]
  rw [hrelation] at hrep hnext
  rcases (hcalls []).2 (.write arrayValues) with ⟨-, s₂, hs₂, -⟩ | ⟨hnot, -⟩
  · have hafter : IndexCall.after x s₁ [.write arrayValues] = s₂ := congrArg Prod.snd hs₂
    rw [hafter] at hrep hnext
    refine ⟨hfree, x, s₁, s₂, hopen, hs₂, hrep, ?_⟩
    rcases hnext (.write rivalValues) with ⟨⟨-, hown⟩, -⟩ | ⟨-, hrefused⟩
    · -- both records fan out to the path of `2` and `x`
      let two : Key := ⟨.int 2, rfl⟩
      let text : Key := ⟨.string "x", rfl⟩
      have hplace : Place.path [two, text] ∈ rivalValues.fanOut (fun _ => []) pairIndex :=
        ⟨rfl, _, List.mem_singleton_self _, .cons (by decide +kernel) (.cons (by decide) .nil)⟩
      have htaken : Place.path [two, text] ∈ arrayValues.fanOut (fun _ => []) pairIndex :=
        ⟨rfl, .int 2, .tail _ (.tail _ (.head _)), .cons (by decide) (.cons (by decide) .nil)⟩
      exact absurd (hown rfl _ hplace ⟨1⟩ ⟨htaken, rfl⟩) (by decide)
    · exact hrefused
  · exact absurd hfirst hnot

end DocumentDb
