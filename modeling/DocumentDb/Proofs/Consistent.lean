import DocumentDb.Proofs.KeyOrder
import DocumentDb.Proofs.Loops
import DocumentDb.Proofs.SortedEntries

/-!
# `DocumentDb.Proofs.Consistent`: indexes and records agree

`View.Consistent` is the invariant of a collection. Every record stands under the id that
its document names, every index is well formed, and every index that is clean and not being
built is exact.

`Consistent.insert`, `Consistent.update` and `Consistent.remove` show that writes keep it.
A write that succeeds keeps it whatever the flags of the indexes are. An insert that is
refused keeps it too; for a refused update or removal every index has to be clean and at
rest when the write begins. `DocumentDb.Proofs.FailedWrites` says what such a write leaves
behind otherwise.
-/

set_option autoImplicit false

namespace DocumentDb

open SortedEntries (Sorted)

namespace View

variable {v o w u : View} {id : RecordId} {doc old new : Document} {i i' : IndexState}

/-- An index that is well formed, and exact if it is to be relied on. -/
structure Keeps (v : View) (i : IndexState) : Prop where
  wellFormed : i.WellFormed
  exact : v.trusts i = true → i.Exact v.config v.records

/-- Indexes and records agree. -/
structure Consistent (v : View) : Prop where
  sorted : Sorted v.records
  distinct : (v.indexes.map fun i => i.descriptor.fields).Nodup
  own : ∀ e ∈ v.records, e.2.id = .ok (some e.1)
  keeps : ∀ i ∈ v.indexes, v.Keeps i

/-- Agreement with other indexes on the same fields. -/
theorem consistent_withIndexes {is is' : List IndexState} (hsorted : Sorted v.records)
    (hown : ∀ e ∈ v.records, e.2.id = .ok (some e.1)) (hkeeps : ∀ i ∈ is', v.Keeps i)
    (hdistinct : (is.map fun i => i.descriptor.fields).Nodup)
    (hsame : is'.map (·.descriptor) = is.map (·.descriptor)) :
    (v.withIndexes is').Consistent where
  sorted := hsorted
  own := hown
  keeps i hi := ⟨(hkeeps i hi).wellFormed, (hkeeps i hi).exact⟩
  distinct := by
    have hfields :
        (is'.map fun i => i.descriptor.fields) = is.map fun i => i.descriptor.fields := by
      have hmap := congrArg (List.map fun d : IndexDescriptor => d.fields) hsame
      rwa [List.map_map, List.map_map] at hmap
    rw [withIndexes_indexes, hfields]
    exact hdistinct

/-! ### Records -/

/-- The second view has the flags of the first, and its records with one more document. -/
structure Extends (o w : View) (id : RecordId) (doc : Document) : Prop where
  config_eq : w.config = o.config
  held_eq : w.held = o.held
  own : doc.id = .ok (some id)
  mem_iff : ∀ e, e ∈ w.records ↔ e = (id, doc) ∨ e ∈ o.records

/-- The other records stay when one is taken out. -/
theorem mem_eraseRecord (h : Sorted v.records) {e : RecordId × Document} :
    e ∈ (v.eraseRecord id).records ↔ e ∈ v.records ∧ e.1 ≠ id :=
  h.mem_erase_iff

/-- No record with the id is left when it is taken out. -/
theorem apart_eraseRecord (h : Sorted v.records) (id : RecordId) :
    ∀ e ∈ (v.eraseRecord id).records, e.1 ≠ id :=
  fun _ he => (SortedEntries.Sorted.mem_erase_iff h |>.mp he).2

/-- A view has any of its records already. -/
theorem extends_of_mem (hown : ∀ e ∈ v.records, e.2.id = .ok (some e.1))
    (hmem : (id, doc) ∈ v.records) : Extends v v id doc where
  config_eq := rfl
  held_eq := rfl
  own := hown _ hmem
  mem_iff _ := ⟨Or.inr, fun he => he.elim (fun heq => heq ▸ hmem) fun he => he⟩

/-- A view with a record set extends the one without it. -/
theorem extends_setRecord (h : Sorted v.records) (hid : doc.id = .ok (some id)) :
    Extends (v.eraseRecord id) (v.setRecord id doc) id doc where
  config_eq := rfl
  held_eq := rfl
  own := hid
  mem_iff e := by
    rw [mem_eraseRecord h]
    exact h.mem_insert_iff

/-- Any record extends the others. -/
theorem extends_of_record (h : Sorted v.records) (hown : ∀ e ∈ v.records, e.2.id = .ok (some e.1))
    (hold : v.record id = some old) : Extends (v.eraseRecord id) v id old where
  config_eq := rfl
  held_eq := rfl
  own := hown (id, old) (h.get?_eq_some_iff_mem.mp hold)
  mem_iff e := by
    rw [mem_eraseRecord h]
    constructor
    · intro he
      by_cases hkey : e.1 = id
      · refine Or.inl (Prod.ext hkey ?_)
        have hget : SortedEntries.get? e.1 v.records = some e.2 := h.get?_eq_some_iff_mem.mpr he
        rw [hkey] at hget
        exact Option.some.inj (hget.symm.trans hold)
      · exact Or.inr ⟨he, hkey⟩
    · rintro (rfl | ⟨he, -⟩)
      · exact h.get?_eq_some_iff_mem.mp hold
      · exact he

/-- A consistent view extends itself without one of its records. -/
theorem Consistent.extends_self (h : v.Consistent) (hold : v.record id = some old) :
    Extends (v.eraseRecord id) v id old :=
  extends_of_record h.sorted h.own hold

/-- Taking out a record that is not there changes nothing. -/
theorem eraseRecord_eq_self (h : Sorted v.records) (hnew : v.record id = none) :
    v.eraseRecord id = v := by
  rw [eraseRecord, h.erase_eq_self hnew]

namespace Extends

variable (h : Extends o w id doc)

include h

/-- The same indexes are to be relied on. -/
theorem trusts_eq : w.trusts i = o.trusts i := by
  rw [trusts, trusts, isBuilding, isBuilding, h.held_eq]

/-- Records that are stored under their own ids stay so. -/
theorem own_of (ho : ∀ e ∈ o.records, e.2.id = .ok (some e.1)) :
    ∀ e ∈ w.records, e.2.id = .ok (some e.1) := by
  intro e he
  rcases (h.mem_iff e).mp he with rfl | he
  · exact h.own
  · exact ho e he

/-- Adding the entries of the further document makes an exact index exact again. -/
theorem exact_of_added (hexact : i.Exact o.config o.records) (hd : i'.descriptor = i.descriptor)
    (htakes : i.Takes w.config id doc) (hwf : i'.WellFormed)
    (hadd : ∀ p x, x ∈ i'.content.idsAt p ↔
      x ∈ i.content.idsAt p ∨ (x = id ∧ doc.BelongsAt w.config.tokenizer i.descriptor p)) :
    i'.Exact w.config w.records := by
  rw [← h.config_eq] at hexact
  exact hexact.of_added hd htakes hwf hadd h.mem_iff

/-- Removing them makes it exact for the other documents. -/
theorem exact_of_removed (hapart : ∀ e ∈ o.records, e.1 ≠ id) (hexact : i.Exact w.config w.records)
    (hd : i'.descriptor = i.descriptor) (hwf : i'.WellFormed)
    (hremove : ∀ p x, x ∈ i'.content.idsAt p ↔ x ∈ i.content.idsAt p ∧
      ¬(x = id ∧ doc.BelongsAt w.config.tokenizer i.descriptor p)) :
    i'.Exact o.config o.records := by
  rw [h.config_eq] at hexact hremove
  exact hexact.of_removed hd hwf hremove h.mem_iff hapart

/-- An exact index has the id of the further document where that document belongs. -/
theorem self_mem_iff (hapart : ∀ e ∈ o.records, e.1 ≠ id) (hexact : i.Exact w.config w.records)
    (p : Place) :
    id ∈ i.content.idsAt p ↔ doc.BelongsAt w.config.tokenizer i.descriptor p := by
  rw [hexact.mem_iff]
  constructor
  · rintro ⟨e, he, hkey, hp⟩
    rcases (h.mem_iff e).mp he with rfl | he
    · exact hp
    · exact absurd hkey (hapart e he)
  · exact fun hp => ⟨(id, doc), (h.mem_iff _).mpr (Or.inl rfl), rfl, hp⟩

/-- An index that is exact for all records takes any of them. -/
theorem takes_of_exact (hexact : i.Exact o.config o.records)
    (hbuild : i.descriptor.Buildable w.config.tokenizer w.records) :
    i.Takes w.config id doc := by
  rw [← h.config_eq] at hexact
  have hmem : (id, doc) ∈ w.records := (h.mem_iff _).mpr (Or.inl rfl)
  refine hexact.takes_iff.mpr ⟨hbuild.indexable _ hmem, fun hu p hp e he hp' => ?_⟩
  exact hbuild.unshared hu e ((h.mem_iff e).mpr (Or.inr he)) _ hmem p hp' hp

end Extends

/-! ### One index -/

/-- A dirty index need not be exact. -/
theorem keeps_of_dirty (hwf : i.WellFormed) (hdirty : i.dirty = true) : v.Keeps i :=
  ⟨hwf, fun htrusts => by simp [trusts, hdirty] at htrusts⟩

/-- An exact index is kept, whether it is dirty or not. -/
theorem keeps_of_exact (h : i.Exact v.config v.records) : v.Keeps i :=
  ⟨h.wellFormed, fun _ => h⟩

namespace Extends

variable (h : Extends o w id doc) (hplain : w.config.customExtractor = none)
  (hown : ∀ e ∈ w.records, e.2.id = .ok (some e.1))

include h hplain

/-- Taking the entries of the further document back. -/
theorem keeps_undone (hapart : ∀ e ∈ o.records, e.1 ≠ id) (hi : w.Keeps i) :
    o.Keeps (i.undone w.config doc) := by
  obtain ⟨hwf, hmem⟩ := hi.wellFormed.undone_spec hplain h.own
  have hd := i.undone_descriptor w.config doc
  refine ⟨hwf, fun htrusts => ?_⟩
  have hdirty : (i.undone w.config doc).dirty = i.dirty := IndexState.remove_dirty _ _ _
  rw [trusts_congr hd hdirty, ← h.trusts_eq] at htrusts
  exact h.exact_of_removed hapart (hi.exact htrusts) hd hwf hmem

include hown

/-- Bringing an index up to the further document. If the document is refused, the index is as
good for the other records as before. -/
theorem keeps_bringUp (hi : o.Keeps i) :
    (∃ has i', (w.bringUp doc).perform i = (.ok has, i') ∧ w.Keeps i' ∧
        (has = false → i' = i)) ∨
      ∃ e i', (w.bringUp doc).perform i = (.error e, i') ∧ o.Keeps i' := by
  cases hrest : w.atRest i with
  | true =>
    cases hrebuild : w.config.rebuildDirtyOnWrite with
    | true =>
      -- rebuilt from the records, which have the document by now
      rw [perform_bringUp_rest hrest hrebuild]
      rcases rebuild_spec hplain hown hi.wellFormed with
        ⟨-, i', hrun, -, hexact⟩ | ⟨-, e, i', hrun, hdirty, hwf⟩
      · rw [hrun]
        exact Or.inl ⟨true, i', rfl, keeps_of_exact hexact, nofun⟩
      · rw [hrun]
        exact Or.inr ⟨e, i', rfl, keeps_of_dirty hwf hdirty⟩
    | false =>
      -- passed by: nothing is promised of an index that is not to be relied on
      rw [perform_bringUp_stay hrest hrebuild]
      have htrusts : w.trusts i = false := trusts_of_atRest hrest
      exact Or.inl ⟨false, i, rfl, ⟨hi.wellFormed, fun ht => by simp [htrusts] at ht⟩,
        fun _ => rfl⟩
  | false =>
    -- written to: what was exact for the other records is exact with the document as well
    rw [perform_bringUp_add hrest]
    rcases hi.wellFormed.add_spec hplain h.own with
      ⟨-, e, hrun⟩ | ⟨i', htakes, hrun, hwf, hmem⟩
    · rw [hrun]
      exact Or.inr ⟨e, i, rfl, hi⟩
    · have hd : i'.descriptor = i.descriptor := by
        rw [← IndexState.add_descriptor w.config doc i, hrun]
      have hdirty : i'.dirty = i.dirty := by
        rw [← IndexState.add_dirty w.config doc i, hrun]
      rw [hrun]
      refine Or.inl ⟨true, i', rfl, ⟨hwf, fun htrusts => ?_⟩, nofun⟩
      rw [trusts_congr hd hdirty, h.trusts_eq] at htrusts
      exact h.exact_of_added (hi.exact htrusts) hd htakes hwf hmem

/-- An index that is brought up and then gone back over is as good for the other records as
before. -/
theorem keeps_retracted (hapart : ∀ e ∈ o.records, e.1 ≠ id) (hi : o.Keeps i) :
    o.Keeps (w.retracted doc i) := by
  unfold retracted
  rcases h.keeps_bringUp hplain hown hi with ⟨has, i', hrun, hkeeps, hsame⟩ | ⟨e, i', hrun, hkeeps⟩
  · rw [hrun]
    cases has with
    | true => exact h.keeps_undone hplain hapart hkeeps
    | false => exact hsame rfl ▸ hi
  · rw [hrun]
    exact hkeeps

/-- The loop that writes the further document to all indexes. -/
theorem keeps_writeEach {is is' : List IndexState}
    (his : ∀ i ∈ is, o.Keeps i ∨ w.Keeps i) (hrun : w.writeEach doc is = (.ok (), is')) :
    ∀ i ∈ is', w.Keeps i := by
  have hself : Extends w w id doc := extends_of_mem hown ((h.mem_iff _).mpr (Or.inl rfl))
  refine forall_writeEach (fun i hi has i' hone => ?_) hrun
  have hstep : ∀ {o' : View}, Extends o' w id doc → o'.Keeps i → w.Keeps i' := by
    intro o' h' hi'
    rcases h'.keeps_bringUp hplain hown hi' with ⟨_, i₁, hone₁, hkeeps, -⟩ | ⟨e, i₁, hone₁, -⟩
    · rw [hone] at hone₁
      obtain ⟨-, rfl⟩ := Prod.mk.inj hone₁
      exact hkeeps
    · rw [hone] at hone₁
      cases hone₁
  exact (his i hi).elim (hstep h) (hstep hself)

/-- The loop when an index refuses the document. -/
theorem keeps_writeEach_refused (hapart : ∀ e ∈ o.records, e.1 ≠ id) {is is' : List IndexState}
    {e : Error} (his : ∀ i ∈ is, o.Keeps i) (hrun : w.writeEach doc is = (.error e, is')) :
    ∀ i ∈ is', o.Keeps i := by
  refine forall_writeEach_refused (fun i hi => ?_) (fun i hi e' i' hone => ?_) his hrun
  · exact h.keeps_retracted hplain hown hapart (his i hi)
  · rcases h.keeps_bringUp hplain hown (his i hi) with ⟨has, i₁, hone₁, -⟩ | ⟨e₁, i₁, hone₁, hkeeps⟩
    · rw [hone] at hone₁
      cases hone₁
    · rw [hone] at hone₁
      obtain ⟨-, rfl⟩ := Prod.mk.inj hone₁
      exact hkeeps

omit hown in
/-- Making an index forget the further document, while the records of a third view count. -/
theorem keeps_forget (hconfig : u.config = w.config)
    (huown : ∀ e ∈ u.records, e.2.id = .ok (some e.1)) (hapart : ∀ e ∈ o.records, e.1 ≠ id)
    (hi : w.Keeps i) (hrun : (u.forget doc).perform i = (.ok (), i')) :
    o.Keeps i' ∨ u.Keeps i' := by
  rw [← hconfig] at hplain
  cases hrest : u.atRest i with
  | true =>
    cases hrebuild : u.config.rebuildDirtyOnWrite with
    | true =>
      -- rebuilt from the records as they are during the write
      rw [perform_forget_rest hrest hrebuild] at hrun
      rcases rebuild_spec hplain huown hi.wellFormed with
        ⟨-, i₁, hone, -, hexact⟩ | ⟨-, e, i₁, hone, -⟩
      · rw [hone] at hrun
        obtain ⟨-, rfl⟩ := Prod.mk.inj hrun
        exact Or.inr (keeps_of_exact hexact)
      · rw [hone] at hrun
        cases hrun
    | false =>
      -- passed by
      rw [perform_forget_stay hrest hrebuild] at hrun
      obtain ⟨-, rfl⟩ := Prod.mk.inj hrun
      have htrusts : u.trusts i = false := trusts_of_atRest hrest
      exact Or.inr ⟨hi.wellFormed, fun ht => by simp [htrusts] at ht⟩
  | false =>
    -- the entries are taken out, so it is exact for the records without the document
    rw [perform_forget_remove hrest] at hrun
    obtain ⟨r, i₁, hone, -, hwf, hmem⟩ := hi.wellFormed.remove_spec hplain h.own
    have hd := IndexState.remove_descriptor u.config doc i
    have hdirty := IndexState.remove_dirty u.config doc i
    rw [hone] at hd hdirty hrun
    obtain ⟨-, rfl⟩ := Prod.mk.inj hrun
    refine Or.inl ⟨hwf, fun htrusts => ?_⟩
    rw [trusts_congr hd hdirty, ← h.trusts_eq] at htrusts
    rw [hconfig] at hmem
    exact h.exact_of_removed hapart (hi.exact htrusts) hd hwf hmem

omit hown in
/-- The loop that makes all indexes forget the further document. -/
theorem keeps_forgetEach (hconfig : u.config = w.config)
    (huown : ∀ e ∈ u.records, e.2.id = .ok (some e.1)) (hapart : ∀ e ∈ o.records, e.1 ≠ id)
    {is is' : List IndexState} (his : ∀ i ∈ is, w.Keeps i)
    (hrun : u.forgetEach doc is = (.ok (), is')) : ∀ i ∈ is', o.Keeps i ∨ u.Keeps i :=
  forall_forgetEach
    (fun i hi _ hone => h.keeps_forget hplain hconfig huown hapart (his i hi) hone) hrun

omit hown in
/-- An exact index that is to be relied on forgets the document, and is exact for the others. -/
theorem forget_of_trusts (hconfig : u.config = w.config) (hheld : u.held = w.held)
    (hapart : ∀ e ∈ o.records, e.1 ≠ id) (hi : w.Keeps i) (htrusts : w.trusts i = true) :
    ((u.forget doc).perform i).1 = .ok () ∧ o.Keeps ((u.forget doc).perform i).2 := by
  have hrest : u.atRest i = false := by
    rw [← atRest_of_trusts htrusts, atRest, atRest, isBuilding, isBuilding, hheld]
  rw [← hconfig] at hplain
  rw [perform_forget_remove hrest]
  obtain ⟨r, i', hrun, hok, hwf, hmem⟩ := hi.wellFormed.remove_spec hplain h.own
  have hd := IndexState.remove_descriptor u.config doc i
  rw [hrun] at hd ⊢
  have hexact := hi.exact htrusts
  have hr : r = .ok () := by
    rw [hok, hconfig]
    exact hexact.indexable _ ((h.mem_iff _).mpr (Or.inl rfl))
  rw [hconfig] at hmem
  exact ⟨hr, keeps_of_exact (h.exact_of_removed hapart hexact hd hwf hmem)⟩

omit hown in
/-- The loop that makes such indexes forget the document comes to its end. -/
theorem forgetEach_of_trusts (hconfig : u.config = w.config) (hheld : u.held = w.held)
    (hapart : ∀ e ∈ o.records, e.1 ≠ id) {is : List IndexState} (his : ∀ i ∈ is, w.Keeps i)
    (htrusts : ∀ i ∈ is, w.trusts i = true) :
    (u.forgetEach doc is).1 = .ok () ∧ ∀ i ∈ (u.forgetEach doc is).2, o.Keeps i := by
  have hstep := fun i hi =>
    h.forget_of_trusts hplain hconfig hheld hapart (his i hi) (htrusts i hi)
  rcases u.forgetEach_cases doc is with ⟨-, hloop⟩ | ⟨before, k, after, e, rfl, -, hk, -⟩
  · rw [hloop]
    exact ⟨rfl, by simpa using fun i hi => (hstep i hi).2⟩
  · rw [(hstep k (by simp)).1] at hk
    cases hk

omit hown in
/-- The loop that writes the further document to indexes that could be built with it. -/
theorem writeEach_of_trusts {is : List IndexState} (his : ∀ i ∈ is, o.Keeps i)
    (htrusts : ∀ i ∈ is, w.trusts i = true)
    (hbuild : ∀ i ∈ is, i.descriptor.Buildable w.config.tokenizer w.records) :
    (w.writeEach doc is).1 = .ok () := by
  rcases w.writeEach_cases doc is with ⟨-, hloop⟩ | ⟨before, k, after, e, rfl, -, hk, -⟩
  · rw [hloop]
  · have hmem : k ∈ before ++ k :: after := by simp
    have hexact := (his k hmem).exact (h.trusts_eq ▸ htrusts k hmem)
    have htakes := h.takes_of_exact hexact (hbuild k hmem)
    rw [perform_bringUp_add (atRest_of_trusts (htrusts k hmem))] at hk
    rcases (his k hmem).wellFormed.add_spec hplain h.own with
      ⟨hnot, -⟩ | ⟨i', -, hrun, -⟩
    · exact absurd htakes hnot
    · rw [hrun] at hk
      cases hk

end Extends

/-! ### Writes -/

variable (hplain : v.config.customExtractor = none)

include hplain in
/-- An insert keeps indexes and records in agreement, whether an index refuses it or not. -/
theorem Consistent.insert (h : v.Consistent) (hid : doc.id = .ok (some id))
    (hnew : v.record id = none) : (v.insert id doc).2.Consistent := by
  have hext := extends_setRecord h.sorted hid
  have hapart := apart_eraseRecord h.sorted id
  rw [eraseRecord_eq_self h.sorted hnew] at hext hapart
  have hown := hext.own_of h.own
  have hsame := writeEach_descriptors (v.setRecord id doc) doc v.indexes
  unfold View.insert
  rcases hrun : (v.setRecord id doc).writeEach doc v.indexes with ⟨e | _, is⟩
  · rw [hrun] at hsame
    exact consistent_withIndexes h.sorted h.own
      (hext.keeps_writeEach_refused hplain hown hapart h.keeps hrun) h.distinct hsame
  · rw [hrun] at hsame
    exact consistent_withIndexes (v := v.setRecord id doc) h.sorted.insert hown
      (hext.keeps_writeEach hplain hown (fun i hi => Or.inl (h.keeps i hi)) hrun)
      h.distinct hsame

include hplain in
/-- A removal that succeeds keeps indexes and records in agreement. -/
theorem Consistent.remove (h : v.Consistent) (hold : v.record id = some old)
    (hok : (v.remove id old).1 = .ok ()) : (v.remove id old).2.Consistent := by
  have hext := h.extends_self hold
  have hapart := apart_eraseRecord h.sorted id
  have hown : ∀ e ∈ (v.eraseRecord id).records, e.2.id = .ok (some e.1) :=
    fun e he => h.own e ((mem_eraseRecord h.sorted).mp he).1
  have hsame := forgetEach_descriptors (v.eraseRecord id) old v.indexes
  unfold View.remove at hok ⊢
  rcases hrun : (v.eraseRecord id).forgetEach old v.indexes with ⟨e | _, is⟩
  · rw [hrun] at hok
    cases hok
  · rw [hrun] at hsame
    have hkeeps := hext.keeps_forgetEach (u := v.eraseRecord id) hplain rfl hown hapart h.keeps hrun
    exact consistent_withIndexes (v := v.eraseRecord id) h.sorted.erase hown
      (fun i hi => (hkeeps i hi).elim (fun hk => hk) fun hk => hk) h.distinct hsame

include hplain in
/-- An update that succeeds keeps indexes and records in agreement. -/
theorem Consistent.update (h : v.Consistent) (hold : v.record id = some old)
    (hnew : new.id = .ok (some id)) (hok : (v.update id old new).1 = .ok ()) :
    (v.update id old new).2.Consistent := by
  have hext := h.extends_self hold
  have hext' := extends_setRecord h.sorted hnew
  have hapart := apart_eraseRecord h.sorted id
  have hown := hext'.own_of fun e he => h.own e ((mem_eraseRecord h.sorted).mp he).1
  have hsame := replaceEach_descriptors (v.setRecord id new) old new v.indexes
  unfold View.update replaceEach at hok ⊢
  unfold replaceEach at hsame
  rcases hforget : (v.setRecord id new).forgetEach old v.indexes with ⟨e | _, is⟩
  · rw [hforget] at hok
    cases hok
  · rw [hforget] at hok hsame
    dsimp only at hok hsame ⊢
    rcases hwrite : (v.setRecord id new).writeEach new is with ⟨e | _, is'⟩
    · rw [hwrite] at hok
      cases hok
    · rw [hwrite] at hsame
      have hkeeps :=
        hext.keeps_forgetEach (u := v.setRecord id new) hplain rfl hown hapart h.keeps hforget
      exact consistent_withIndexes (v := v.setRecord id new) h.sorted.insert hown
        (hext'.keeps_writeEach hplain hown hkeeps hwrite) h.distinct hsame

/-! ### Writes while every index is to be relied on -/

include hplain in
/-- A removal does not fail while every index is clean and at rest. -/
theorem Consistent.remove_ok (h : v.Consistent) (hold : v.record id = some old)
    (htrusts : ∀ i ∈ v.indexes, v.trusts i = true) : (v.remove id old).1 = .ok () := by
  have hforget := (h.extends_self hold).forgetEach_of_trusts (u := v.eraseRecord id) hplain rfl
    rfl (apart_eraseRecord h.sorted id) h.keeps htrusts
  unfold View.remove
  rcases hrun : (v.eraseRecord id).forgetEach old v.indexes with ⟨e | _, is⟩
  · rw [hrun] at hforget
    cases hforget.1
  · rfl

include hplain in
/-- While every index is clean and at rest, an update stops nowhere but at an index that does not
take the new version. All indexes have forgotten the old version by then, the loop that was
stopped leaves them good for the other records, and none refuses to take the old version back. -/
theorem Consistent.update_refused_of_trusts (h : v.Consistent) (hold : v.record id = some old)
    (hnew : new.id = .ok (some id)) (htrusts : ∀ i ∈ v.indexes, v.trusts i = true) {e : Error}
    (herror : (v.update id old new).1 = .error e) :
    ∃ is₁ is₂ is₃, (v.setRecord id new).forgetEach old v.indexes = (.ok (), is₁) ∧
      (v.setRecord id new).writeEach new is₁ = (.error e, is₂) ∧
      v.writeEach old is₂ = (.ok (), is₃) ∧
      v.update id old new = (.error e, v.withIndexes is₃) ∧
      (∀ i ∈ is₁, (v.eraseRecord id).Keeps i ∧ v.trusts i = true) ∧
      ∀ i ∈ is₂, (v.eraseRecord id).Keeps i ∧ v.trusts i = true := by
  have hext := h.extends_self hold
  have hext' := extends_setRecord h.sorted hnew
  have hapart := apart_eraseRecord h.sorted id
  have hown := hext'.own_of fun e he => h.own e ((mem_eraseRecord h.sorted).mp he).1
  have hforgets := hext.forgetEach_of_trusts (u := v.setRecord id new) hplain rfl rfl hapart
    h.keeps htrusts
  have htrusts₁ := trusts_forgetEach (v := v.setRecord id new) old htrusts
  have hnames₁ := forgetEach_descriptors (v.setRecord id new) old v.indexes
  -- The first loop succeeds, so it is the second one that has failed.
  unfold View.update replaceEach at herror ⊢
  rcases hforget : (v.setRecord id new).forgetEach old v.indexes with ⟨e' | _, is₁⟩
  · rw [hforget] at hforgets
    cases hforgets.1
  rw [hforget] at herror hforgets htrusts₁ hnames₁
  dsimp only at herror hforgets htrusts₁ hnames₁ ⊢
  have htrusts₂ := trusts_writeEach (v := v.setRecord id new) new htrusts₁
  have hnames₂ := writeEach_descriptors (v.setRecord id new) new is₁
  rcases hwrite : (v.setRecord id new).writeEach new is₁ with ⟨e' | _, is₂⟩
  swap
  · rw [hwrite] at herror
    cases herror
  rw [hwrite] at herror htrusts₂ hnames₂
  obtain rfl := Except.error.inj herror
  dsimp only at htrusts₂ hnames₂ ⊢
  have hkeeps := hext'.keeps_writeEach_refused hplain hown hapart hforgets.2 hwrite
  have hcongr : (v.setRecord id new).writeEach old is₂ = v.writeEach old is₂ :=
    writeEach_congr rfl rfl htrusts₂
  -- The indexes were built from records with the old version, so all of them take it again.
  have hrestored : (v.writeEach old is₂).1 = .ok () := by
    refine hext.writeEach_of_trusts hplain hkeeps htrusts₂ fun i hi => ?_
    have hmem : i.descriptor ∈ v.indexes.map (·.descriptor) := by
      rw [← hnames₁, ← hnames₂]
      exact List.mem_map_of_mem hi
    obtain ⟨j, hj, hd⟩ := List.mem_map.mp hmem
    rw [← hd]
    exact ((h.keeps j hj).exact (htrusts j hj)).buildable
  refine ⟨is₁, is₂, (v.writeEach old is₂).2, rfl, hwrite, Prod.ext hrestored rfl, ?_,
    fun i hi => ⟨hforgets.2 i hi, htrusts₁ i hi⟩, fun i hi => ⟨hkeeps i hi, htrusts₂ i hi⟩⟩
  rw [hcongr]

include hplain in
/-- An update keeps indexes and records in agreement, even if an index refuses it, while every
index is clean and at rest. -/
theorem Consistent.update_of_trusts (h : v.Consistent) (hold : v.record id = some old)
    (hnew : new.id = .ok (some id)) (htrusts : ∀ i ∈ v.indexes, v.trusts i = true) :
    (v.update id old new).2.Consistent := by
  rcases hrun : (v.update id old new).1 with e | _
  · obtain ⟨is₁, is₂, is₃, hforget, hwrite, hrestore, hupdate, -, hkeeps⟩ :=
      h.update_refused_of_trusts hplain hold hnew htrusts hrun
    have hnames₁ := forgetEach_descriptors (v.setRecord id new) old v.indexes
    have hnames₂ := writeEach_descriptors (v.setRecord id new) new is₁
    have hnames₃ := writeEach_descriptors v old is₂
    rw [hforget] at hnames₁
    rw [hwrite] at hnames₂
    rw [hrestore] at hnames₃
    rw [hupdate]
    refine consistent_withIndexes h.sorted h.own ?_ h.distinct
      (hnames₃.trans (hnames₂.trans hnames₁))
    exact (h.extends_self hold).keeps_writeEach hplain h.own
      (fun i hi => Or.inl (hkeeps i hi).1) hrestore
  · exact h.update hplain hold hnew hrun

/-! ### Builds -/

/-- Replacing one index by a good one keeps indexes and records in agreement. -/
theorem Consistent.put (h : v.Consistent) (hi' : v.Keeps i') : (v.put i').Consistent where
  sorted := h.sorted
  own := h.own
  distinct := by
    have hsame : (v.put i').indexes.map (fun i => i.descriptor.fields)
        = v.indexes.map fun i => i.descriptor.fields := by
      rw [View.put, List.map_map]
      refine List.map_congr_left fun j _ => ?_
      dsimp only [Function.comp_apply]
      split
      · rename_i heq
        exact heq.symm
      · rfl
    rw [hsame]
    exact h.distinct
  keeps i hi := by
    obtain ⟨j, hj, rfl⟩ := List.mem_map.mp hi
    split
    · exact ⟨hi'.wellFormed, hi'.exact⟩
    · exact ⟨(h.keeps j hj).wellFormed, (h.keeps j hj).exact⟩

include hplain in
/-- A rebuild, whether it fails or not. -/
theorem Consistent.rebuild (h : v.Consistent) (hi : i ∈ v.indexes) :
    (v.put (v.rebuild.perform i).2).Consistent := by
  refine h.put ?_
  rcases rebuild_spec hplain h.own (h.keeps i hi).wellFormed with
    ⟨-, i', hrun, -, hexact⟩ | ⟨-, e, i', hrun, hdirty, hwf⟩
  · rw [hrun]
    exact keeps_of_exact hexact
  · rw [hrun]
    exact keeps_of_dirty hwf hdirty

include hplain in
/-- A new index that is filled, whether that fails or not. -/
theorem Consistent.create (h : v.Consistent) {d : IndexDescriptor}
    {before after is : List IndexState} (hindexes : v.indexes = before ++ after)
    (his : is = before ++ ((IndexState.fill v.config v.documents false).perform
      ⟨d, true, .empty d⟩).2 :: after)
    (hdistinct : (is.map fun i => i.descriptor.fields).Nodup) :
    (v.withIndexes is).Consistent where
  sorted := h.sorted
  own := h.own
  distinct := hdistinct
  keeps i hi := by
    have hkeeps : v.Keeps ((IndexState.fill v.config v.documents false).perform
        ⟨d, true, .empty d⟩).2 := by
      have hwf : IndexState.WellFormed ⟨d, true, .empty d⟩ := Content.wellFormed_empty d
      rcases hwf.fill_spec hplain h.own fun _ => IndexState.sourced_empty rfl _ _ with
        ⟨-, i', hrun, -, hexact⟩ | ⟨-, e, i', hrun, hdirty, hwf'⟩
      · rw [documents, hrun]
        exact keeps_of_exact hexact
      · rw [documents, hrun]
        exact keeps_of_dirty hwf' hdirty
    have hi' : i ∈ v.indexes ∨ i = ((IndexState.fill v.config v.documents false).perform
        ⟨d, true, .empty d⟩).2 := by
      rw [withIndexes_indexes, his] at hi
      rw [hindexes]
      simp only [List.mem_append, List.mem_cons] at hi ⊢
      tauto
    rcases hi' with hi' | rfl
    · exact ⟨(h.keeps i hi').wellFormed, (h.keeps i hi').exact⟩
    · exact ⟨hkeeps.wellFormed, hkeeps.exact⟩

/-- Indexes may be dropped. -/
theorem Consistent.dropped (h : v.Consistent) {is : List IndexState}
    (his : is.Sublist v.indexes) : (v.withIndexes is).Consistent where
  sorted := h.sorted
  own := h.own
  distinct := h.distinct.sublist (his.map _)
  keeps i hi := ⟨(h.keeps i (his.subset hi)).wellFormed, (h.keeps i (his.subset hi)).exact⟩

end View

end DocumentDb
