import DocumentDb.Proofs.Planning

/-!
# `DocumentDb.Proofs.Building`: what writes keep up while an index is being built

An index that is being built takes the entries of writes directly, and a write that fails takes
its entries out again. So the index may lack entries of any records, and agreement with the
records (`View.Consistent`) is not kept up. A build needs less of it: that the index is well
formed and, unless the build empties it first, that none of its entries is stale. This is
`View.Fillable`, and `IndexState.WellFormed.fill_spec` says that it is enough.

`View.Underway` is the invariant of a collection meanwhile. Every write keeps it, whether it
succeeds or fails and in whatever state the other indexes are, as `Underway.insert`,
`Underway.update` and `Underway.remove` show. It is a weaker form of agreement
(`Consistent.underway`). The steps follow the flow of a document through the loops: an index
without stale entries for the records other than the document's is one for all records, and it
becomes such again when it forgets the document.
-/

set_option autoImplicit false

namespace DocumentDb.View

open SortedEntries (Sorted)

variable {v o w u : View} {first : List FieldPath} {id : RecordId} {doc old new : Document}
  {i i' : IndexState}

/-- An index that a build can fill: it is well formed, and if it is on fields whose build does not
empty it first, it has no stale entries. -/
structure Fillable (v : View) (first : List FieldPath) (i : IndexState) : Prop where
  wellFormed : i.WellFormed
  sourced : i.descriptor.fields ∈ first → i.Sourced v.config.tokenizer v.records

/-- A collection while indexes are being built. The builds of `first` do not empty their
indexes. -/
structure Underway (v : View) (first : List FieldPath) : Prop where
  sorted : Sorted v.records
  own : ∀ e ∈ v.records, e.2.id = .ok (some e.1)
  building : ∀ fields ∈ first, v.isBuilding fields = true
  fillable : ∀ i ∈ v.indexes, v.Fillable first i

/-! ### One index -/

/-- An index that can be filled from some records can be filled from more of them. -/
theorem Fillable.mono (h : o.Fillable first i) (hconfig : w.config = o.config)
    (hsub : ∀ e ∈ o.records, e ∈ w.records) : w.Fillable first i := by
  refine ⟨h.wellFormed, fun hfirst => ?_⟩
  rw [hconfig]
  exact (h.sourced hfirst).mono hsub

section steps

variable (hbuilding : ∀ fields ∈ first, u.isBuilding fields = true)

include hbuilding

/-- Whatever a step makes of an index at rest, the index is not one of those. -/
theorem fillable_of_atRest (hrest : u.atRest i = true) (hd : i'.descriptor = i.descriptor)
    (hwf : i'.WellFormed) : v.Fillable first i' := by
  refine ⟨hwf, fun hfirst => ?_⟩
  rw [hd] at hfirst
  rw [atRest, hbuilding _ hfirst, Bool.not_true, Bool.and_false] at hrest
  cases hrest

-- The view `u` is the one that a rebuild in the loop would see. Its records are neither those
-- with the document nor those without it where an update writes the old version again.
variable (h : Extends o w id doc) (hplain : u.config.customExtractor = none)
  (hconfig : u.config = w.config) (hown : ∀ e ∈ u.records, e.2.id = .ok (some e.1))

include h hplain hconfig hown

/-- Bringing an index up to the further document. -/
theorem Extends.fillable_bringUp (hi : o.Fillable first i) {has : Bool}
    (hrun : (u.bringUp doc).perform i = (.ok has, i')) : w.Fillable first i' := by
  have hwf := wellFormed_bringUp hplain hown hi.wellFormed h.own
  have hd := bringUp_descriptor u doc i
  rw [hrun] at hwf hd
  dsimp only at hwf hd
  cases hrest : u.atRest i with
  | true => exact fillable_of_atRest hbuilding hrest hd hwf
  | false =>
    refine ⟨hwf, fun hfirst p x hx => ?_⟩
    have htakes : i.Takes u.config id doc := by
      by_contra hnot
      obtain ⟨e, hrefused⟩ := bringUp_refuses hplain hi.wellFormed h.own hrest hnot
      rw [hrun] at hrefused
      cases hrefused
    obtain ⟨i₁, hrun₁, hadds⟩ := bringUp_adds hplain hi.wellFormed h.own hrest htakes
    rw [hrun] at hrun₁
    obtain ⟨-, rfl⟩ := Prod.mk.inj hrun₁
    rw [hd] at hfirst ⊢
    rw [hconfig] at hadds
    -- an entry that was there before is one of another record
    have hbefore : x ∈ i.content.idsAt p →
        ∃ e ∈ w.records, e.1 = x ∧ e.2.BelongsAt w.config.tokenizer i.descriptor p := by
      intro hx
      rw [h.config_eq]
      obtain ⟨e, he, hp⟩ := hi.sourced hfirst p x hx
      exact ⟨e, (h.mem_iff e).mpr (Or.inr he), hp⟩
    rcases (hadds.mem_iff p x).mp hx with ⟨rfl, hx | hp⟩ | ⟨-, hx⟩
    · exact hbefore hx
    · exact ⟨(x, doc), (h.mem_iff _).mpr (Or.inl rfl), rfl, hp⟩
    · exact hbefore hx

omit hconfig in
/-- An index that refuses the document. -/
theorem Extends.fillable_bringUp_refused (hi : o.Fillable first i) {e : Error}
    (hrun : (u.bringUp doc).perform i = (.error e, i')) : o.Fillable first i' := by
  have hwf := wellFormed_bringUp hplain hown hi.wellFormed h.own
  have hd := bringUp_descriptor u doc i
  rw [hrun] at hwf hd
  cases hrest : u.atRest i with
  | true => exact fillable_of_atRest hbuilding hrest hd hwf
  | false =>
    rcases hi.wellFormed.add_spec hplain h.own with ⟨-, e', hadd⟩ | ⟨i₁, -, hadd, -⟩ <;>
      rw [perform_bringUp_add hrest, hadd] at hrun
    · obtain ⟨-, rfl⟩ := Prod.mk.inj hrun
      exact hi
    · cases hrun

omit hconfig in
/-- An index that is brought up and then gone back over. It may lack entries then that it had
before. -/
theorem Extends.fillable_retracted (hi : o.Fillable first i) :
    o.Fillable first (u.retracted doc i) := by
  have hwf := wellFormed_retracted hplain hown hi.wellFormed h.own
  have hd := retracted_descriptor u doc i
  cases hrest : u.atRest i with
  | true => exact fillable_of_atRest hbuilding hrest hd hwf
  | false =>
    refine ⟨hwf, fun hfirst => (hi.sourced (hd ▸ hfirst)).anti hd fun p x hx => ?_⟩
    by_cases htakes : i.Takes u.config id doc
    · have hremoves := retracted_removes hplain hi.wellFormed h.own hrest htakes
      rcases (hremoves.mem_iff p x).mp hx with ⟨rfl, hx, -⟩ | ⟨-, hx⟩
      · exact hx
      · exact hx
    · obtain ⟨e, hrefused⟩ := bringUp_refuses hplain hi.wellFormed h.own hrest htakes
      rwa [retracted, hrefused] at hx

/-- The loop that writes the further document to all indexes. -/
theorem Extends.fillable_writeEach {is is' : List IndexState} (his : ∀ i ∈ is, o.Fillable first i)
    (hrun : u.writeEach doc is = (.ok (), is')) : ∀ i ∈ is', w.Fillable first i :=
  forall_writeEach
    (fun i hi _ _ hone => h.fillable_bringUp hbuilding hplain hconfig hown (his i hi) hone) hrun

omit hconfig in
/-- The loop when an index refuses the document. -/
theorem Extends.fillable_writeEach_refused {is is' : List IndexState} {e : Error}
    (his : ∀ i ∈ is, o.Fillable first i) (hrun : u.writeEach doc is = (.error e, is')) :
    ∀ i ∈ is', o.Fillable first i := by
  refine forall_writeEach_refused (fun i hi => ?_) (fun i hi e' i' hone => ?_) his hrun
  · exact h.fillable_retracted hbuilding hplain hown (his i hi)
  · exact h.fillable_bringUp_refused hbuilding hplain hown (his i hi) hone

/-- The loop, however it ends. -/
theorem Extends.fillable_writeEach_any {is : List IndexState}
    (his : ∀ i ∈ is, o.Fillable first i) : ∀ i ∈ (u.writeEach doc is).2, w.Fillable first i := by
  intro i hi
  rcases hrun : u.writeEach doc is with ⟨e | _, is'⟩ <;> rw [hrun] at hi
  · refine (h.fillable_writeEach_refused hbuilding hplain hown his hrun i hi).mono h.config_eq ?_
    exact fun e he => (h.mem_iff e).mpr (Or.inr he)
  · exact h.fillable_writeEach hbuilding hplain hconfig hown his hrun i hi

variable (hapart : ∀ e ∈ o.records, e.1 ≠ id)

include hapart

/-- Making an index forget the further document. -/
theorem Extends.fillable_forget (hi : w.Fillable first i) :
    o.Fillable first ((u.forget doc).perform i).2 := by
  have hwf := wellFormed_forget hplain hown hi.wellFormed h.own
  have hd := forget_descriptor u doc i
  cases hrest : u.atRest i with
  | true => exact fillable_of_atRest hbuilding hrest hd hwf
  | false =>
    refine ⟨hwf, fun hfirst p x hx => ?_⟩
    have hremoves := (forget_removes hplain hi.wellFormed h.own hrest).2
    rw [hd] at hfirst ⊢
    rw [hconfig] at hremoves
    rw [← h.config_eq]
    rcases (hremoves.mem_iff p x).mp hx with ⟨rfl, hx, hnot⟩ | ⟨hne, hx⟩ <;>
      obtain ⟨e, he, hkey, hp⟩ := hi.sourced hfirst p x hx <;>
      rcases (h.mem_iff e).mp he with rfl | he
    · -- an entry of the document itself is one of those that go
      exact absurd hp hnot
    · exact absurd hkey (hapart e he)
    · exact absurd hkey.symm hne
    · exact ⟨e, he, hkey, hp⟩

/-- The loop that makes all indexes forget the further document. -/
theorem Extends.fillable_forgetEach {is is' : List IndexState}
    (his : ∀ i ∈ is, w.Fillable first i) (hrun : u.forgetEach doc is = (.ok (), is')) :
    ∀ i ∈ is', o.Fillable first i := by
  refine forall_forgetEach (fun i hi i' hone => ?_) hrun
  have hforgot := h.fillable_forget hbuilding hplain hconfig hown hapart (his i hi)
  rwa [hone] at hforgot

/-- The loop, however it ends. -/
theorem Extends.fillable_forgetEach_any {is : List IndexState}
    (his : ∀ i ∈ is, w.Fillable first i) :
    ∀ i ∈ (u.forgetEach doc is).2, w.Fillable first i := by
  refine forall_forgetEach_any (fun i hi => ?_) his
  refine (h.fillable_forget hbuilding hplain hconfig hown hapart (his i hi)).mono h.config_eq ?_
  exact fun e he => (h.mem_iff e).mpr (Or.inr he)

end steps

/-! ### Writes -/

/-- The same with other indexes. -/
theorem underway_withIndexes {is : List IndexState} (hsorted : Sorted v.records)
    (hown : ∀ e ∈ v.records, e.2.id = .ok (some e.1))
    (hbuilding : ∀ fields ∈ first, v.isBuilding fields = true)
    (his : ∀ i ∈ is, v.Fillable first i) : (v.withIndexes is).Underway first where
  sorted := hsorted
  own := hown
  building := hbuilding
  fillable i hi := ⟨(his i hi).wellFormed, (his i hi).sourced⟩

/-- Agreement is more than is needed while indexes are emptied first. -/
theorem Consistent.underway (h : v.Consistent) : v.Underway [] where
  sorted := h.sorted
  own := h.own
  building := nofun
  fillable i hi := ⟨(h.keeps i hi).wellFormed, nofun⟩

/-- A new index is empty, so the build of it need not empty it: there is nothing stale in it. -/
theorem Consistent.underway_created (h : v.Consistent) {d : IndexDescriptor}
    {before after : List IndexState} {held : List (FieldPath × Guard)}
    (hindexes : v.indexes = before ++ after)
    (hdistinct : ((before ++ ⟨d, true, .empty d⟩ :: after).map fun i => i.descriptor.fields).Nodup)
    (hheld : isBuilding { v with held } d.fields = true) :
    Underway { v with held, indexes := before ++ ⟨d, true, .empty d⟩ :: after } [d.fields] where
  sorted := h.sorted
  own := h.own
  building fields hmem := by
    rw [List.mem_singleton.mp hmem]
    exact hheld
  fillable i hi := by
    rw [List.map_append, List.map_cons, List.nodup_middle, ← List.map_append, ← hindexes,
      List.nodup_cons] at hdistinct
    have hcases : i = ⟨d, true, .empty d⟩ ∨ i ∈ v.indexes := by
      rw [List.mem_append, List.mem_cons] at hi
      rw [hindexes, List.mem_append]
      exact or_left_comm.mp hi
    rcases hcases with rfl | hold
    · exact ⟨Content.wellFormed_empty d, fun _ => IndexState.sourced_empty rfl _ _⟩
    · refine ⟨(h.keeps i hold).wellFormed, fun hmem => absurd ?_ hdistinct.1⟩
      rw [← List.mem_singleton.mp hmem]
      exact List.mem_map_of_mem hold

namespace Underway

variable (h : v.Underway first) (hplain : v.config.customExtractor = none)

include h hplain

/-- An insert while indexes are being built leaves them such that they can be filled. -/
theorem insert (hid : doc.id = .ok (some id)) (hnew : v.record id = none) :
    (v.insert id doc).2.Underway first := by
  have hext := extends_setRecord h.sorted hid
  rw [eraseRecord_eq_self h.sorted hnew] at hext
  have hown := hext.own_of h.own
  have hbuilding : ∀ fields ∈ first, (v.setRecord id doc).isBuilding fields = true := h.building
  unfold View.insert
  rcases hrun : (v.setRecord id doc).writeEach doc v.indexes with ⟨e | _, is⟩
  · exact underway_withIndexes h.sorted h.own h.building
      (hext.fillable_writeEach_refused hbuilding hplain hown h.fillable hrun)
  · exact underway_withIndexes (v := v.setRecord id doc) h.sorted.insert hown hbuilding
      (hext.fillable_writeEach hbuilding hplain rfl hown h.fillable hrun)

/-- A removal while indexes are being built leaves them such that they can be filled. -/
theorem remove (hold : v.record id = some old) : (v.remove id old).2.Underway first := by
  have hext := extends_of_record h.sorted h.own hold
  have hapart := apart_eraseRecord h.sorted id
  have hown : ∀ e ∈ (v.eraseRecord id).records, e.2.id = .ok (some e.1) :=
    fun e he => h.own e ((mem_eraseRecord h.sorted).mp he).1
  have hbuilding : ∀ fields ∈ first, (v.eraseRecord id).isBuilding fields = true := h.building
  unfold View.remove
  rcases hrun : (v.eraseRecord id).forgetEach old v.indexes with ⟨e | _, is⟩
  · have hany := hext.fillable_forgetEach_any hbuilding hplain rfl hown hapart h.fillable
    rw [hrun] at hany
    exact underway_withIndexes h.sorted h.own h.building hany
  · exact underway_withIndexes (v := v.eraseRecord id) h.sorted.erase hown hbuilding
      (hext.fillable_forgetEach hbuilding hplain rfl hown hapart h.fillable hrun)

/-- When an index refuses the new version, the old one is stored again. The first two loops have
left nothing of either version then that would be stale, and the third one writes the old
version, as far as it comes. -/
theorem update (hold : v.record id = some old) (hnew : new.id = .ok (some id)) :
    (v.update id old new).2.Underway first := by
  have hext := extends_of_record h.sorted h.own hold
  have hext' := extends_setRecord h.sorted hnew
  have hapart := apart_eraseRecord h.sorted id
  have hown := hext'.own_of fun e he => h.own e ((mem_eraseRecord h.sorted).mp he).1
  have hbuilding : ∀ fields ∈ first, (v.setRecord id new).isBuilding fields = true := h.building
  have hconfig : (v.setRecord id new).config = v.config := rfl
  unfold View.update replaceEach
  rcases hforget : (v.setRecord id new).forgetEach old v.indexes with ⟨e | _, is⟩
  · have hany := hext.fillable_forgetEach_any hbuilding hplain hconfig hown hapart h.fillable
    rw [hforget] at hany
    exact underway_withIndexes h.sorted h.own h.building hany
  · have hforgot :=
      hext.fillable_forgetEach hbuilding hplain hconfig hown hapart h.fillable hforget
    dsimp only
    rcases hwrite : (v.setRecord id new).writeEach new is with ⟨e | _, is'⟩
    · have hrefused := hext'.fillable_writeEach_refused hbuilding hplain hown hforgot hwrite
      exact underway_withIndexes h.sorted h.own h.building
        (hext.fillable_writeEach_any hbuilding hplain hconfig hown hrefused)
    · exact underway_withIndexes (v := v.setRecord id new) h.sorted.insert hown hbuilding
        (hext'.fillable_writeEach hbuilding hplain rfl hown hforgot hwrite)

/-- Rebuilding dirty indexes at rest. -/
theorem refreshes (hw : v.Refreshes w) : w.Underway first := by
  induction hw with
  | refl => exact h
  | rebuilt hw hi hrest ih =>
    rename_i w i
    have hplain' : w.config.customExtractor = none := by
      rw [hw.eq_withIndexes]
      exact hplain
    refine underway_withIndexes ih.sorted ih.own ih.building fun j hj => ?_
    obtain ⟨k, hk, rfl⟩ := List.mem_map.mp hj
    split
    · exact fillable_of_atRest ih.building hrest (rebuild_descriptor w i)
        (wellFormed_rebuild hplain' ih.own (ih.fillable i hi).wellFormed)
    · exact ih.fillable k hk

end Underway

end DocumentDb.View
