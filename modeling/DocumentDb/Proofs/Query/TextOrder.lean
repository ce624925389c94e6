import DocumentDb.Proofs.FailedWrites
import DocumentDb.Proofs.Index.Searching
import DocumentDb.Proofs.Query.Answers
import DocumentDb.Proofs.Text.Trim

/-!
# `DocumentDb.Proofs.Query.TextOrder`: two text conditions in either order

A conjunction of two text conditions searches the full-text index on the field of the first one,
and evaluates the second one on the documents that come out. A search looks at the tokens of a
field (`Document.Searched`); the evaluation looks for the term in the whole text, whatever stands
around it and wherever the star of the query is (`Document.Mentions`).

* `TextQuery.needle_eq`: what the evaluation looks for, read off the parsed query.
* `Session.finds_text_pair`: what the conjunction finds.
* `Session.text_order_agrees_iff`: when the two orders find the same records.
-/

set_option autoImplicit false

namespace DocumentDb

/-! ### Evaluation of a text condition -/

namespace TextQuery

variable {query : String} {q : TextQuery}

/-- What a text has to hold somewhere, in lower case. -/
def needle : TextQuery → List Char
  | .words text => Text.lowerChars text.toList
  | .beginsWith term | .endsWith term | .contains term => term.toList

/-- A query without stars is looked for as it is, and of one with stars the term. -/
theorem needle_eq (h : parse query = .ok q) : Condition.needle query = q.needle := by
  unfold Condition.needle
  unfold parse at h
  dsimp only at h
  split at h
  · rename_i hplain
    cases h
    have hstars : ∀ c ∈ Text.trim query.toList, (c == '*') = false := by
      intro c hc
      rw [beq_eq_false_iff_ne]
      rintro rfl
      rw [List.contains_iff_mem.mpr hc] at hplain
      cases hplain
    rw [Text.dropEnds_eq_self hstars, needle, String.toList_ofList]
  · split at h
    · cases h
    · split at h
      · cases h
      · split at h
        · cases h
        · split at h <;> cases h <;> rw [needle, String.toList_ofList]

end TextQuery

/-- The condition that a field meets a text query. -/
abbrev Filter.text (field query : String) : Filter := .compare ⟨field, .text query⟩

namespace Document

variable {field query : String} {q : TextQuery}

/-- Whether some text of a field holds what a query looks for. -/
def Mentions (field : String) (q : TextQuery) (doc : Document) : Prop :=
  ∃ text, .string text ∈ (doc.valueAt field).elements ∧
    Text.containsRun q.needle (Text.lowerChars text.toList) = true

/-- A text condition is decided on every document. -/
theorem apply_text_iff (hq : TextQuery.parse query = .ok q) (doc : Document) :
    (∃ b, (Filter.text field query).apply doc = .ok b) ∧
      ((Filter.text field query).apply doc = .ok true ↔ doc.Mentions field q) := by
  rw [Filter.apply, Comparison.holds, Condition.holds, TextQuery.needle_eq hq]
  refine ⟨⟨_, rfl⟩, ?_⟩
  rw [Except.ok.injEq, List.any_eq_true]
  constructor
  · rintro ⟨v, hv, hholds⟩
    cases v <;> try cases hholds
    rename_i text
    exact ⟨text, hv, hholds⟩
  · rintro ⟨text, hmem, hholds⟩
    exact ⟨.string text, hmem, hholds⟩

end Document

/-! ### Plans -/

/-- The plan for two text conditions searches for the first one and filters by the second one. -/
theorem Plan.optimize_text_pair {ds : List IndexDescriptor} {field field' : String}
    {d d' : IndexDescriptor} (hd : fullTextIndex? field ds = some d)
    (hd' : fullTextIndex? field' ds = some d') (query query' : String)
    (collation : Text.Collation) :
    optimize collation (.and [.text field query, .text field' query']) {} ds
      = .ok {
          source := .index d [⟨field, .text query⟩]
          residual := some (.text field' query')
          collation := some collation } := by
  have hrequired : requireFullText ds [⟨field, .text query⟩, ⟨field', .text query'⟩] = .ok () := by
    simp [requireFullText, hd, hd']
  have htext : textPlan? [.text field query, .text field' query'] ds
      = .ok (some {
          source := .index d [⟨field, .text query⟩]
          residual := some (.text field' query') }) := by
    unfold textPlan?
    show (requireFullText ds [⟨field, .text query⟩, ⟨field', .text query'⟩]).map _ = _
    rw [hrequired]
    show Except.ok ((fullTextIndex? field ds).map _) = _
    rw [hd]
    rfl
  have hterms : (Filter.and [.text field query, .text field' query']).conjuncts
      = [.text field query, .text field' query'] := by
    simp [Filter.conjuncts, Filter.conjunctsAll]
  have hplan : ofFilter (.and [.text field query, .text field' query']) ds
      = .ok {
          source := .index d [⟨field, .text query⟩]
          residual := some (.text field' query') } := by
    show ofConjunction (.and [.text field query, .text field' query']) ds = _
    rw [ofConjunction, hterms, htext]
    rfl
  rw [optimize, hplan]
  rfl

namespace View

/-- A search on a field finds an index that is to be relied on. -/
def SearchesOn (v : View) (field : String) : Prop :=
  ∃ i ∈ v.indexes, i.descriptor.isFullText = true ∧ i.descriptor.fields = FieldPath.single field ∧
    v.trusts i = true

/-- The full-text index on a field is the one that the optimizer takes. -/
theorem fullTextIndex?_offered {v : View} (hc : v.Consistent) {i : IndexState} {field : String}
    (hi : i ∈ v.indexes) (hkind : i.descriptor.isFullText = true)
    (hfields : i.descriptor.fields = FieldPath.single field) (htrusts : v.trusts i = true) :
    Plan.fullTextIndex? field v.offered = some i.descriptor := by
  have hfree : v.isBuilding i.descriptor.fields = false := by
    rw [trusts, Bool.and_eq_true, Bool.not_eq_true', Bool.not_eq_true'] at htrusts
    exact htrusts.2
  have hoffered : i.descriptor ∈ v.offered := mem_offered.mpr ⟨hfree, i, hi, rfl⟩
  cases hfound : Plan.fullTextIndex? field v.offered with
  | none =>
    have hnot := List.find?_eq_none.mp hfound _ hoffered
    simp [hkind, hfields] at hnot
  | some d =>
    obtain ⟨hd, -, hd'⟩ := Plan.fullTextIndex?_eq_some hfound
    obtain ⟨-, j, hj, rfl⟩ := mem_offered.mp hd
    rw [List.inj_on_of_nodup_map hc.distinct hj hi (hd'.trans hfields.symm)]

end View

/-! ### Queries -/

namespace Session

open RecordStream

variable {σ : Type} {s : Session σ} {field field' query query' : String} {q q' : TextQuery}

/-- A conjunction of two text conditions finds the records that a search for the first one finds
and whose documents mention the second one. -/
theorem finds_text_pair (h : s.Sound) (hp : s.view.Plain) (hc : s.view.Consistent)
    (hon : s.view.SearchesOn field) (hon' : s.view.SearchesOn field')
    (hq : TextQuery.parse query = .ok q) (hq' : TextQuery.parse query' = .ok q') :
    ∃ es, s.Finds (.and [.text field query, .text field' query']) {} (es.map Prod.snd) ∧
      HandsOut s.view.records (fun e =>
        e.2.Searched s.view.config.tokenizer field q ∧ e.2.Mentions field' q') es := by
  obtain ⟨i, hi, hkind, hfields, htrusts⟩ := hon
  obtain ⟨i', hi', hkind', hfields', htrusts'⟩ := hon'
  have hplan := Plan.optimize_text_pair (View.fullTextIndex?_offered hc hi hkind hfields htrusts)
    (View.fullTextIndex?_offered hc hi' hkind' hfields' htrusts') query query'
    s.view.config.collation
  -- the search
  have hexact := (hc.keeps i hi).exact htrusts
  obtain ⟨j, hj, hexact', hreads⟩ := View.scan_of_exact hc ⟨i, hi, rfl, hexact⟩
  rw [← hj] at hkind hfields hreads
  obtain ⟨ids, hids, hnodup, hmem⟩ := Content.search_spec hexact' hc.own hkind hfields hq []
  rw [← hreads, hj] at hids
  have hstream : s.view.streamOf {
      source := .index i.descriptor [⟨field, .text query⟩]
      residual := some (.text field' query')
      collation := some s.view.config.collation }
      = .ok (.filtered (.lookup s.view.recordMap ids) (.text field' query')) := by
    rw [View.streamOf, View.streamOfSource, hids]
    rfl
  -- the filter
  have hyields : ∀ store : Store, (store.map s.view.recordMap).read = .ok s.view.records →
      Yields store (.filtered (.lookup s.view.recordMap ids) (.text field' query'))
        ((lookedUp s.view.records ids).filter (lets (.text field' query'))) := by
    intro store hread
    exact (yields_lookup hread ids).filtered_of_decided
      fun e _ => (Document.apply_text_iff hq' e.2).1
  refine ⟨(lookedUp s.view.records ids).filter (lets (.text field' query')),
    finds_of_fit h hplan ?_ hstream fun store hread => ?_, ?_⟩
  · intro d hd
    rw [Plan.indexes_eq] at hd
    rw [List.mem_singleton.mp hd]
    exact ⟨i, hi, rfl, htrusts⟩
  · rw [hp.processors]
    exact Cursor.toList_of_yields (hyields store hread)
  · have hfound := Yields.lookup h.read_records hc.sorted hnodup (yields_lookup h.read_records ids)
    refine (hfound.filter _).congr fun e he => ?_
    rw [hmem, exists_entry_iff hc.sorted he, lets_eq_true_iff, (Document.apply_text_iff hq' e.2).2]

/-- Two text conditions in either order. Both conjunctions succeed, and find their records once
each: those that a search for the first condition finds and whose documents mention the second one.
So they find the same records if and only if, on every stored record, a search for the one and a
mention of the other come to the same as with the two exchanged. -/
theorem text_order_agrees_iff (h : s.Sound) (hp : s.view.Plain) (hc : s.view.Consistent)
    (hon : s.view.SearchesOn field) (hon' : s.view.SearchesOn field')
    (hq : TextQuery.parse query = .ok q) (hq' : TextQuery.parse query' = .ok q') :
    ∃ es es',
      s.Finds (.and [.text field query, .text field' query']) {} (es.map Prod.snd) ∧
      s.Finds (.and [.text field' query', .text field query]) {} (es'.map Prod.snd) ∧
      HandsOut s.view.records (fun e =>
        e.2.Searched s.view.config.tokenizer field q ∧ e.2.Mentions field' q') es ∧
      HandsOut s.view.records (fun e =>
        e.2.Searched s.view.config.tokenizer field' q' ∧ e.2.Mentions field q) es' ∧
      ((∀ e, e ∈ es ↔ e ∈ es') ↔ ∀ e ∈ s.view.records,
        (e.2.Searched s.view.config.tokenizer field q ∧ e.2.Mentions field' q' ↔
          e.2.Searched s.view.config.tokenizer field' q' ∧ e.2.Mentions field q)) := by
  obtain ⟨es, hfinds, hes⟩ := finds_text_pair h hp hc hon hon' hq hq'
  obtain ⟨es', hfinds', hes'⟩ := finds_text_pair h hp hc hon' hon hq' hq
  refine ⟨es, es', hfinds, hfinds', hes, hes', ?_⟩
  simp only [hes.2, hes'.2, and_congr_right_iff]

/-- One record with a text in which a term stands, but not at the beginning of a word. -/
def outfoxRecord : Entry := (⟨1⟩, ⟨[("_id", .string "1"), ("body", .string "arctic outfox")]⟩)

/-- The text of the record has two tokens. -/
theorem outfox_tokens :
    FullText.tokens (Config.tokenizer {}) "body" (outfoxRecord.2.valueAt "body")
      = .ok ["arctic", "outfox"] := by
  rfl

/-- The record is found if the word is searched for and the term looked for in the text, and not
if the term is searched for. -/
theorem text_order_agrees_iff_outfox :
    ∃ (s : Session Unit) (es es' : List Entry),
      s.Sound ∧ s.view.Plain ∧ s.view.Consistent ∧ s.view.SearchesOn "body" ∧
      TextQuery.parse "arctic" = .ok (.words "arctic") ∧
      TextQuery.parse "fox*" = .ok (.beginsWith "fox") ∧
      s.Finds (.and [.text "body" "arctic", .text "body" "fox*"]) {} (es.map Prod.snd) ∧
      s.Finds (.and [.text "body" "fox*", .text "body" "arctic"]) {} (es'.map Prod.snd) ∧
      outfoxRecord ∈ es ∧ es' = [] := by
  let v : View := .firstBuilt [outfoxRecord] ⟨.fullText, ⟨["body"]⟩, "c"⟩ []
  obtain ⟨s, h, hp, hc, hview⟩ : ∃ s : Session Unit, s.Sound ∧ s.view.Plain ∧ s.view.Consistent ∧
      s.view = v :=
    exists_first_built (List.pairwise_singleton _ _)
      (by rw [List.forall_mem_singleton]; rfl) (List.pairwise_singleton _ _)
  have hrecords : s.view.records = [outfoxRecord] := by
    rw [hview]
    rfl
  have htokenizer : s.view.config.tokenizer = Config.tokenizer {} := by
    rw [hview]
    rfl
  have hon : s.view.SearchesOn "body" := by
    rw [hview]
    exact ⟨_, List.mem_singleton_self _, rfl, rfl, rfl⟩
  have hword : TextQuery.parse "arctic" = .ok (.words "arctic") := rfl
  have hterm : TextQuery.parse "fox*" = .ok (.beginsWith "fox") := rfl
  obtain ⟨es, es', hfinds, hfinds', hes, hes', -⟩ :=
    text_order_agrees_iff h hp hc hon hon hword hterm
  rw [hrecords, htokenizer] at hes hes'
  refine ⟨s, es, es', h, hp, hc, hon, hword, hterm, hfinds, hfinds', ?_, ?_⟩
  · -- the word is a token of the record, and the term stands somewhere in its text
    have htaken : (TextQuery.words "arctic").takes (Config.tokenizer {}) "arctic" = true := by rfl
    have hmentioned : Text.containsRun (TextQuery.beginsWith "fox").needle
        (Text.lowerChars "arctic outfox".toList) = true := by rfl
    exact (hes.2 outfoxRecord).mpr ⟨List.mem_singleton_self _,
      ⟨_, outfox_tokens, "arctic", List.mem_cons_self, htaken⟩,
      "arctic outfox", List.mem_singleton_self _, hmentioned⟩
  · -- no token begins with the term, so the search finds nothing to look at
    have hnone : ∀ t ∈ ["arctic", "outfox"],
        (TextQuery.beginsWith "fox").takes (Config.tokenizer {}) t = false := by
      decide +kernel
    refine List.eq_nil_iff_forall_not_mem.mpr fun e he => ?_
    obtain ⟨hstored, ⟨ts, hts, t, ht, htakes⟩, -⟩ := (hes'.2 e).mp he
    obtain rfl := List.mem_singleton.mp hstored
    obtain rfl := Except.ok.inj (outfox_tokens.symm.trans hts)
    rw [hnone t ht] at htakes
    cases htakes

end Session

end DocumentDb
