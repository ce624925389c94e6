import DocumentDb.Proofs.Query.Meaning

/-!
# `DocumentDb.Proofs.Query.BranchOrder`: which disjunctions are accepted

A text condition needs a full-text index on its field, and a conjunction that lacks one is refused
(`Filter.Refused`). The branches of a disjunction are planned in turn, but no further than the first
one that reads all records (`Filter.ReadsAll`): a branch behind it is not looked at, and is
evaluated without an index if it is one to be refused.

`ofConjunction_outcome` says of one branch how its planning ends, and `accepts_iff` of a list of
branches, by induction on the list, that each refused one stands behind one that reads all records.
So the order of the branches decides whether a disjunction with branches of both kinds is accepted,
and it decides nothing for any other disjunction (`or_accepted_in_any_order_iff`).
-/

set_option autoImplicit false

namespace DocumentDb

/-! ### Kinds of conjunctions -/

namespace Filter

/-- Whether some term of a conjunction is a text condition on a field that no full-text index
covers. -/
def LacksFullText (ds : List IndexDescriptor) (f : Filter) : Prop :=
  ∃ field query, compare ⟨field, .text query⟩ ∈ f.conjuncts ∧
    ∀ d ∈ ds, d.isFullText = true → d.fields ≠ FieldPath.single field

/-- Whether a conjunction is refused. A record id that a term fixes needs no index, so then the text
conditions are not looked at. -/
def Refused (ds : List IndexDescriptor) (f : Filter) : Prop := ¬ f.FixesId ∧ f.LacksFullText ds

/-- Whether a conjunction is answered by reading all records: no term fixes the record id or is a
text condition, and no ordered index begins with the field of a term that an index can answer. -/
def ReadsAll (ds : List IndexDescriptor) (f : Filter) : Prop :=
  ¬ f.FixesId ∧ (∀ field query, compare ⟨field, .text query⟩ ∉ f.conjuncts) ∧
    ∀ d ∈ ds, d.isFullText = false → ∀ c, compare c ∈ f.conjuncts → c.isIndexable = true →
      d.fields.fields.head? ≠ some c.field

/-- A refused conjunction has a text condition. -/
theorem Refused.not_readsAll {ds : List IndexDescriptor} {f : Filter} (h : f.Refused ds) :
    ¬ f.ReadsAll ds := by
  rintro ⟨-, hnone, -⟩
  obtain ⟨-, field, query, hmem, -⟩ := h
  exact hnone field query hmem

end Filter

namespace Plan

variable {f : Filter} {terms branches : List Filter} {ds : List IndexDescriptor}

/-! ### The sources of a conjunction -/

/-- Nothing is picked if no element can be. -/
theorem pick?_eq_none {α β : Type} {g : α → Option β} {xs : List α} :
    pick? g xs = none ↔ ∀ x ∈ xs, g x = none := by
  induction xs with
  | nil => simp [pick?]
  | cons x xs ih =>
    rw [pick?, List.forall_mem_cons, ← ih]
    cases g x <;> simp

/-- A filter fixes the id if a lookup of it is planned. -/
theorem fixesId_iff : f.FixesId ↔ ∃ v rest, pick? fixedId? f.conjuncts = some (v, rest) := by
  constructor
  · rintro ⟨v, hmem⟩
    cases hpick : pick? fixedId? f.conjuncts with
    | some found => exact ⟨found.1, found.2, rfl⟩
    | none =>
      have hnone := pick?_eq_none.mp hpick _ hmem
      rw [fixedId?_eq_some.mpr rfl] at hnone
      cases hnone
  · rintro ⟨v, rest, hpick⟩
    obtain ⟨before, g, after, hterms, hg, -⟩ := pick?_eq_some hpick
    obtain rfl := fixedId?_eq_some.mp hg
    exact ⟨v, by simp [hterms]⟩

/-- A text condition as a term. -/
theorem exists_textTerm {g : Filter} {c : Comparison} (h : textTerm? g = some c) :
    ∃ query, g = .compare ⟨c.field, .text query⟩ := by
  obtain ⟨rfl, htext⟩ := textTerm?_eq_some h
  obtain ⟨field, condition⟩ := c
  cases condition with
  | text query => exact ⟨query, rfl⟩
  | _ => cases htext

/-- No full-text index is found if none is on the field alone. -/
theorem fullTextIndex?_eq_none {field : String} :
    fullTextIndex? field ds = none ↔
      ∀ d ∈ ds, d.isFullText = true → d.fields ≠ FieldPath.single field := by
  simp [fullTextIndex?]

/-- Every text condition has its full-text index, or the first that has none is the error. -/
theorem requireFullText_eq (ds : List IndexDescriptor) (cs : List Comparison) :
    (∀ c ∈ cs, ∃ d, fullTextIndex? c.field ds = some d) ∧ requireFullText ds cs = .ok () ∨
      (∃ c ∈ cs, fullTextIndex? c.field ds = none) ∧ ∃ e, requireFullText ds cs = .error e := by
  induction cs with
  | nil => exact Or.inl ⟨nofun, rfl⟩
  | cons c cs ih =>
    rw [requireFullText]
    cases hindex : fullTextIndex? c.field ds with
    | none => exact Or.inr ⟨⟨c, List.mem_cons_self, hindex⟩, _, rfl⟩
    | some d =>
      rcases ih with ⟨hall, hok⟩ | ⟨⟨c', hc', hnone⟩, herror⟩
      · exact Or.inl ⟨List.forall_mem_cons.mpr ⟨⟨d, hindex⟩, hall⟩, hok⟩
      · exact Or.inr ⟨⟨c', List.mem_cons_of_mem _ hc', hnone⟩, herror⟩

/-- An index covers nothing if its first field is in no condition. -/
theorem covered_eq_zero {conditions : List Comparison} {d : IndexDescriptor} :
    covered conditions d = 0 ↔ ∀ c ∈ conditions, d.fields.fields.head? ≠ some c.field := by
  rw [covered]
  cases d.fields.fields with
  | nil => simp
  | cons field fields =>
    have hhead : (∀ c ∈ conditions, (field :: fields).head? ≠ some c.field) ↔
        conditions.any (·.field == field) = false := by
      simp [eq_comm (a := field)]
    rw [hhead, List.takeWhile_cons]
    cases conditions.any (·.field == field) <;> simp

/-- No ordered index covers a term of the conjunction. -/
theorem orderedPlan?_eq_none :
    orderedPlan? terms ds = none ↔
      ∀ d ∈ ds, d.isFullText = false → ∀ c, .compare c ∈ terms → c.isIndexable = true →
        c.isText = false → d.fields.fields.head? ≠ some c.field := by
  rw [orderedPlan?, Option.map_eq_none_iff, bestIndex?_eq_none]
  refine forall₂_congr fun d _ => forall_congr' fun _ => ?_
  simp only [covered_eq_zero, List.mem_filterMap, orderedTerm?_eq_some]
  constructor
  · intro h c hc hindexable htext
    exact h c ⟨_, hc, rfl, hindexable, htext⟩
  · rintro h c ⟨g, hg, rfl, hindexable, htext⟩
    exact h c hg hindexable htext

/-! ### One branch -/

/-- A scan of an ordered index is no collection scan. -/
theorem isCollectionScan_of_orderedPlan? {p : Plan} (h : orderedPlan? terms ds = some p) :
    p.isCollectionScan = false := by
  obtain ⟨d, -, rfl⟩ := Option.map_eq_some_iff.mp h
  rfl

/-- How the search for a text plan ends: a text condition lacks its index, or one of them is
answered by its index, or there are none. -/
theorem textPlan?_cases (ds : List IndexDescriptor) (f : Filter) :
    f.LacksFullText ds ∧ (∃ e, textPlan? f.conjuncts ds = .error e) ∨
      ¬ f.LacksFullText ds ∧ (∃ field query, .compare ⟨field, .text query⟩ ∈ f.conjuncts) ∧
        (∃ p, textPlan? f.conjuncts ds = .ok (some p) ∧ p.isCollectionScan = false) ∨
      ¬ f.LacksFullText ds ∧ (∀ field query, .compare ⟨field, .text query⟩ ∉ f.conjuncts) ∧
        textPlan? f.conjuncts ds = .ok none := by
  unfold textPlan?
  rcases requireFullText_eq ds (f.conjuncts.filterMap textTerm?) with
    ⟨hall, hok⟩ | ⟨⟨c, hc, hnone⟩, e, herror⟩
  · have hnot : ¬ f.LacksFullText ds := by
      rintro ⟨field, query, hmem, hlacks⟩
      obtain ⟨d, hd⟩ := hall ⟨field, .text query⟩ (List.mem_filterMap.mpr ⟨_, hmem, rfl⟩)
      rw [fullTextIndex?_eq_none.mpr hlacks] at hd
      cases hd
    rw [hok]
    cases hpick : pick? textTerm? f.conjuncts with
    | some found =>
      obtain ⟨c, rest⟩ := found
      obtain ⟨before, g, after, hterms, hg, -⟩ := pick?_eq_some hpick
      have hmem : g ∈ f.conjuncts := by simp [hterms]
      obtain ⟨d, hd⟩ := hall c (List.mem_filterMap.mpr ⟨g, hmem, hg⟩)
      obtain ⟨query, rfl⟩ := exists_textTerm hg
      refine Or.inr (Or.inl ⟨hnot, ⟨_, query, hmem⟩,
        { source := .index d [c], residual := residualOf rest }, ?_, rfl⟩)
      simp [hd, Except.map]
    | none =>
      refine Or.inr (Or.inr ⟨hnot, fun field query hmem => ?_, rfl⟩)
      cases pick?_eq_none.mp hpick _ hmem
  · -- the text condition that lacks its index refuses the conjunction
    obtain ⟨g, hg, hterm⟩ := List.mem_filterMap.mp hc
    obtain ⟨query, rfl⟩ := exists_textTerm hterm
    rw [herror]
    exact Or.inl ⟨⟨c.field, query, hg, fullTextIndex?_eq_none.mp hnone⟩, e, rfl⟩

/-- Without text conditions, all records are read if no ordered index covers a term. -/
theorem readsAll_iff_of_no_text (ds : List IndexDescriptor) (hfixes : ¬ f.FixesId)
    (htext : ∀ field query, .compare ⟨field, .text query⟩ ∉ f.conjuncts) :
    f.ReadsAll ds ↔ orderedPlan? f.conjuncts ds = none := by
  have hterm : ∀ c, .compare c ∈ f.conjuncts → c.isText = false := by
    rintro ⟨field, condition⟩ hmem
    cases condition with
    | text query => exact absurd hmem (htext field query)
    | _ => rfl
  rw [orderedPlan?_eq_none, Filter.ReadsAll, and_iff_right hfixes, and_iff_right htext]
  constructor
  · exact fun h d hd hkind c hc hindexable _ => h d hd hkind c hc hindexable
  · exact fun h d hd hkind c hc hindexable => h d hd hkind c hc hindexable (hterm c hc)

/-- How the planning of a conjunction ends: it is refused, it reads all records, or neither. -/
theorem ofConjunction_outcome (ds : List IndexDescriptor) (f : Filter) :
    f.Refused ds ∧ (∃ e, ofConjunction f ds = .error e) ∨
      f.ReadsAll ds ∧ (∃ p, ofConjunction f ds = .ok p ∧ p.isCollectionScan = true) ∨
      ¬ f.Refused ds ∧ ¬ f.ReadsAll ds ∧
        ∃ p, ofConjunction f ds = .ok p ∧ p.isCollectionScan = false := by
  by_cases hfixes : f.FixesId
  · obtain ⟨v, rest, hpick⟩ := fixesId_iff.mp hfixes
    exact Or.inr (Or.inr ⟨fun h => h.1 hfixes, fun h => h.1 hfixes, _,
      ofConjunction_of_fixed hpick, rfl⟩)
  have hbyId : byIdPlan? f.conjuncts = none := by
    cases hpick : pick? fixedId? f.conjuncts with
    | none => rw [byIdPlan?, hpick, Option.map_none]
    | some found => exact absurd (fixesId_iff.mpr ⟨found.1, found.2, hpick⟩) hfixes
  -- without a fixed id, text conditions come before ordered indexes
  unfold ofConjunction
  simp only [hbyId]
  rcases textPlan?_cases ds f with ⟨hlacks, e, herror⟩ |
    ⟨hnot, ⟨field, query, hmem⟩, p, hplan, hscan⟩ | ⟨hnot, htext, hplan⟩
  · rw [herror]
    exact Or.inl ⟨⟨hfixes, hlacks⟩, e, rfl⟩
  · rw [hplan]
    exact Or.inr (Or.inr ⟨fun h => hnot h.2, fun h => h.2.1 field query hmem, p, rfl, hscan⟩)
  · rw [hplan]
    have hreads := readsAll_iff_of_no_text ds hfixes htext
    cases hordered : orderedPlan? f.conjuncts ds with
    | none => exact Or.inr (Or.inl ⟨hreads.mpr hordered, _, rfl, rfl⟩)
    | some p =>
      refine Or.inr (Or.inr ⟨fun h => hnot h.2, fun h => ?_, p, rfl,
        isCollectionScan_of_orderedPlan? hordered⟩)
      rw [hreads.mp h] at hordered
      cases hordered

/-! ### All branches -/

/-- Whether a disjunction is accepted: its branches are planned without an error. -/
def Accepts (ds : List IndexDescriptor) (branches : List Filter) : Prop :=
  ∃ ps, ofBranches ds branches = .ok ps

/-- Every refused branch must stand behind one that reads all records. -/
theorem accepts_iff : Accepts ds branches ↔
    ∀ before f after, branches = before ++ f :: after → f.Refused ds →
      ∃ g ∈ before, g.ReadsAll ds := by
  induction branches with
  | nil =>
    refine iff_of_true ⟨_, rfl⟩ ?_
    intro before f after h
    simp at h
  | cons f rest ih =>
    unfold Accepts
    rw [ofBranches]
    rcases ofConjunction_outcome ds f with
      ⟨hrefused, e, hplan⟩ | ⟨hreads, p, hplan, hscan⟩ | ⟨hrefused, hreads, p, hplan, hscan⟩
    · rw [hplan]
      -- nothing stands before the first branch to keep it from being planned
      refine iff_of_false (by simp [Except.bind]) fun h => ?_
      obtain ⟨g, hg, -⟩ := h [] f rest rfl hrefused
      cases hg
    · -- this branch reads all records, so the later ones are not planned
      rw [hplan, Except.bind, hscan, if_pos rfl]
      refine iff_of_true ⟨none, rfl⟩ fun before g after hsplit hrefused => ?_
      cases before with
      | nil =>
        obtain ⟨rfl, -⟩ := List.cons.inj hsplit
        exact absurd hreads hrefused.not_readsAll
      | cons f' before =>
        obtain ⟨rfl, -⟩ := List.cons.inj hsplit
        exact ⟨f, List.mem_cons_self, hreads⟩
    · rw [hplan, Except.bind, hscan, if_neg Bool.false_ne_true, Result.exists_map_eq_ok_iff]
      -- this branch is planned and the next ones are, so the question is that of the rest
      refine ih.trans ⟨fun h before g after hsplit hg => ?_, fun h before g after hsplit hg => ?_⟩
      · cases before with
        | nil =>
          obtain ⟨rfl, -⟩ := List.cons.inj hsplit
          exact absurd hg hrefused
        | cons f' before =>
          obtain ⟨rfl, htail⟩ := List.cons.inj hsplit
          obtain ⟨x, hx, hxreads⟩ := h before g after htail hg
          exact ⟨x, List.mem_cons_of_mem _ hx, hxreads⟩
      · obtain ⟨x, hx, hxreads⟩ := h (f :: before) g after (congrArg (f :: ·) hsplit) hg
        rcases List.mem_cons.mp hx with rfl | hx
        · exact absurd hxreads hreads
        · exact ⟨x, hx, hxreads⟩

/-- Planning a disjunction fails nowhere but at its branches. -/
theorem exists_optimize_or_iff {collation : Text.Collation} {options : FindOptions} :
    (∃ p, optimize collation (.or branches) options ds = .ok p) ↔ Accepts ds branches := by
  rw [optimize, Result.exists_map_eq_ok_iff, ofFilter, Result.exists_map_eq_ok_iff]
  rfl

/-- Without a refused branch, or without one that reads all records, the order counts for
nothing. -/
theorem accepts_iff_of_one_kind
    (h : ¬((∃ f ∈ branches, f.Refused ds) ∧ ∃ g ∈ branches, g.ReadsAll ds)) :
    Accepts ds branches ↔ ∀ f ∈ branches, ¬ f.Refused ds := by
  rw [accepts_iff]
  constructor
  · intro haccepted f hf hrefused
    obtain ⟨before, after, hsplit⟩ := List.append_of_mem hf
    obtain ⟨g, hg, hreads⟩ := haccepted before f after hsplit hrefused
    exact h ⟨⟨f, hf, hrefused⟩, g, by simp [hsplit, hg], hreads⟩
  · rintro hnone before f after rfl hrefused
    exact absurd hrefused (hnone f (by simp))

/-- A disjunction is accepted if each branch that is refused alone stands behind one that reads all
records. So whether it is accepted is a matter of the order of its branches exactly if it has
branches of both kinds. -/
theorem or_accepted_in_any_order_iff (collation : Text.Collation) (options : FindOptions)
    (ds : List IndexDescriptor) (branches : List Filter) :
    ((∃ p, optimize collation (.or branches) options ds = .ok p) ↔
        ∀ before f after, branches = before ++ f :: after → f.Refused ds →
          ∃ g ∈ before, g.ReadsAll ds) ∧
      ((∀ branches', branches'.Perm branches →
          ((∃ p, optimize collation (.or branches') options ds = .ok p) ↔
            ∃ p, optimize collation (.or branches) options ds = .ok p)) ↔
        ¬((∃ f ∈ branches, f.Refused ds) ∧ ∃ g ∈ branches, g.ReadsAll ds)) := by
  simp only [exists_optimize_or_iff]
  refine ⟨accepts_iff, fun hsame => ?_, fun hkinds branches' hperm => ?_⟩
  · rintro ⟨⟨f, hf, hrefused⟩, g, hg, hreads⟩
    -- with the refused branch in front it is not accepted, with the other one in front it is
    have hfront : ∀ x ∈ branches, ∃ rest, (x :: rest).Perm branches := by
      intro x hx
      obtain ⟨before, after, rfl⟩ := List.append_of_mem hx
      exact ⟨before ++ after, List.perm_middle.symm⟩
    obtain ⟨rest, hperm⟩ := hfront f hf
    obtain ⟨rest', hperm'⟩ := hfront g hg
    have haccepted : Accepts ds (g :: rest') := by
      rw [accepts_iff]
      intro before x after hsplit hx
      cases before with
      | nil =>
        obtain ⟨rfl, -⟩ := List.cons.inj hsplit
        exact absurd hreads hx.not_readsAll
      | cons g' before =>
        obtain ⟨rfl, -⟩ := List.cons.inj hsplit
        exact ⟨g, List.mem_cons_self, hreads⟩
    have hfirst := (hsame _ hperm).mpr ((hsame _ hperm').mp haccepted)
    obtain ⟨x, hx, -⟩ := accepts_iff.mp hfirst [] f rest rfl hrefused
    cases hx
  · have hkinds' : ¬((∃ f ∈ branches', f.Refused ds) ∧ ∃ g ∈ branches', g.ReadsAll ds) := by
      simpa only [hperm.mem_iff] using hkinds
    rw [accepts_iff_of_one_kind hkinds, accepts_iff_of_one_kind hkinds']
    simp only [hperm.mem_iff]

/-- Without indexes, a text condition is refused unless a condition that reads all records stands
before it. -/
example :
    let text : Filter := .compare ⟨"body", .text "fox"⟩
    let reading : Filter := .compare ⟨"n", .eq (.int 2)⟩
    (optimize .binary (.or [reading, text]) {} []).isOk = true ∧
      (optimize .binary (.or [text, reading]) {} []).isOk = false := by
  decide

end Plan

end DocumentDb
