import DocumentDb.Proofs.Index.Ranking
import DocumentDb.Proofs.Index.TokenOrder
import DocumentDb.Proofs.Steps
import Mathlib.Data.List.Infix

/-!
# `DocumentDb.Proofs.Index.TokenWalk`: searches with stars

A search with a star looks for tokens by a part of them. If the star is at the end, the search
starts at the first token that is not below the term, steps from one token to the next, and ends at
the first that does not begin with the term. The other searches go over all tokens.

`tokensFrom_eq` says that those steps come to all tokens that begin with the term, and
`collectFrom_eq` that they therefore find what going over all tokens would: tokens with a common
beginning are one run (`Runs.Ends`), and the term is not above any of them.
-/

set_option autoImplicit false

namespace DocumentDb

open SortedEntries (Sorted direction follow)

namespace FullText

open RecordIdSet (addAll)

variable {postings : Postings}

/-! ### Order of the tokens -/

/-- The tokens of a map ascend when their bytes do. -/
theorem sorted_iff_bytes :
    Sorted postings ↔ postings.Pairwise fun a b => Text.bytes a.1 < Text.bytes b.1 :=
  ⟨fun h => h.imp Text.compare_eq_lt_iff_bytes.mp, fun h => h.imp Text.compare_eq_lt_iff_bytes.mpr⟩

/-- From a term on, the tokens that begin with it come first. -/
theorem ends_startsWith (term : String) (tokens : List String) :
    Runs.Ends (fun a b : String => compare a b = .lt) (Text.startsWith · term)
      (tokens.filter fun t => compare term t != .gt) := by
  intro a ha b _ hab hb
  have hlow : ¬ a.toList < term.toList := by
    rw [← Text.compare_eq_lt_iff]
    intro hlt
    have hreach := (List.mem_filter.mp ha).2
    rw [Std.OrientedCmp.gt_of_lt hlt] at hreach
    cases hreach
  exact Text.startsWith_iff.mpr
    (Text.prefix_of_between hlow (Text.compare_eq_lt_iff.mp hab) (Text.startsWith_iff.mp hb))

/-- A token that begins with a term is not below it. -/
theorem not_gt_of_startsWith {term t : String} (h : Text.startsWith t term = true) :
    compare term t ≠ .gt := by
  intro hgt
  have hlt : compare t term = .lt := Std.OrientedCmp.lt_of_gt hgt
  exact Text.not_lt_of_prefix (Text.startsWith_iff.mp h) (Text.compare_eq_lt_iff.mp hlt)

/-- From the first token that is not below a term, steps that go on while a token begins with the
term come to all tokens that begin with it. They end there, so it makes no difference how many are
allowed for. -/
theorem follow_startsWith (h : Sorted postings) (term : String) {limit : Nat}
    (hlimit : postings.length ≤ limit) :
    follow (Text.startsWith · term) (fun t => (SortedEntries.above? t postings).map (·.1)) limit
        ((SortedEntries.atOrAbove? term postings).map (·.1))
      = (postings.map (·.1)).filter (Text.startsWith · term) := by
  -- a walk upwards does not come below the term again
  have hfrom : ∀ a b : String, compare a b = direction false →
      (compare term a != .gt) = true → (compare term b != .gt) = true := by
    intro a b hab ha
    rw [bne_iff_ne, ne_eq, ← Ordering.isLE_iff_ne_gt] at ha ⊢
    exact Std.TransCmp.isLE_trans ha (Ordering.isLE_of_eq_lt hab)
  have hsteps := h.follow_from (Text.startsWith · term) hfrom hlimit
  have hsorted : (postings.map (·.1)).Pairwise fun a b => compare a b = .lt :=
    List.pairwise_map.mpr h
  have htokens : (postings.filter fun e => compare term e.1 != .gt).map (·.1)
      = (postings.map (·.1)).filter fun t => compare term t != .gt := by
    rw [List.filter_map]
    rfl
  refine hsteps.trans ?_
  show ((postings.filter fun e => compare term e.1 != .gt).map (·.1)).takeWhile _ = _
  rw [htokens, (ends_startsWith term _).takeWhile_eq_filter (hsorted.filter _), List.filter_filter]
  -- what begins with the term was not left out in front of it
  refine List.filter_congr fun t _ => ?_
  cases hstarts : Text.startsWith t term with
  | false => rfl
  | true => simpa using not_gt_of_startsWith hstarts

/-! ### Ids -/

/-- The ids under the tokens with a property, in the order of the tokens, each where it stands
first. -/
theorem collectTokens_eq (p : String → Bool) (postings : Postings) :
    collectTokens p postings = ((postings.filter fun e => p e.1).flatMap (·.2)).eraseDups := by
  rw [← RecordIdSet.addAll_nil, RecordIdSet.addAll_flatMap]
  rfl

/-- The steps from a term on find what going over all tokens finds. -/
theorem collectFrom_eq (h : Sorted postings) (term : String) :
    collectFrom term postings = collectTokens (Text.startsWith · term) postings := by
  have hids : ∀ e ∈ postings.filter fun e => Text.startsWith e.1 term,
    idsUnder postings e.1 = e.2 := by
    intro e he
    rw [idsUnder, h.get?_eq_some_iff_mem.mpr (List.mem_filter.mp he).1]
    rfl
  have hcollect : collectFrom term postings
      = addAll [] ((tokensFrom term postings).flatMap (idsUnder postings)) :=
    (RecordIdSet.addAll_flatMap _ _ _).symm
  rw [hcollect, tokensFrom, follow_startsWith h term (Nat.le_refl _), List.filter_map,
    List.flatMap_map,
    collectTokens_eq, RecordIdSet.addAll_nil]
  exact congrArg List.eraseDups (List.flatMap_congr hids)

/-! ### Searches -/

/-- What going over all tokens finds under those with a property: their ids in the order of the
tokens, each where it stands first. -/
def idsOfTokens (p : String → Prop) [DecidablePred p] (postings : Postings) : RecordIdSet :=
  ((postings.filter fun e => decide (p e.1)).flatMap (·.2)).eraseDups

/-- Going over the tokens with a property finds the ids under them. -/
theorem collectTokens_eq_idsOfTokens {p : String → Bool} {q : String → Prop} [DecidablePred q]
    (hpq : ∀ t, p t = true ↔ q t) (postings : Postings) :
    collectTokens p postings = idsOfTokens q postings := by
  have hp : p = fun t => decide (q t) := funext fun t => by
    rw [Bool.eq_iff_iff, hpq, decide_eq_true_iff]
  rw [collectTokens_eq, hp]
  rfl

/-- Searches with stars of an index whose tokens ascend by their bytes. The walk for a star at the
end comes to all tokens that begin with the term and to no others, in the order of the tokens. The
three searches find the ids that going over all tokens would, under those that begin with the term,
end with it or contain it. -/
theorem search_stars_eq_full_walk (tokenizer : Text.Tokenizer) {s : Store} {map : MapRef String}
    (hread : (s.map map).read = .ok postings)
    (hascending : postings.Pairwise fun a b => Text.bytes a.1 < Text.bytes b.1) (term : String) :
    (∀ limit, postings.length ≤ limit →
      follow (Text.startsWith · term) (fun t => (SortedEntries.above? t postings).map (·.1)) limit
          ((SortedEntries.atOrAbove? term postings).map (·.1))
        = (postings.map (·.1)).filter fun t => term.toList <+: t.toList) ∧
    (∀ query, TextQuery.parse query = .ok (.beginsWith term) →
      (search tokenizer map query).perform s
        = (.ok (idsOfTokens (fun t => term.toList <+: t.toList) postings), s)) ∧
    (∀ query, TextQuery.parse query = .ok (.endsWith term) →
      (search tokenizer map query).perform s
        = (.ok (idsOfTokens (fun t => term.toList <:+ t.toList) postings), s)) ∧
    ∀ query, TextQuery.parse query = .ok (.contains term) →
      (search tokenizer map query).perform s
        = (.ok (idsOfTokens (fun t => term.toList <:+: t.toList) postings), s) := by
  have h := sorted_iff_bytes.mpr hascending
  refine ⟨fun limit hlimit => ?_, fun query hq => ?_, fun query hq => ?_, fun query hq => ?_⟩
  · rw [follow_startsWith h term hlimit]
    exact List.filter_congr fun t _ => by
      rw [Bool.eq_iff_iff, Text.startsWith_iff, decide_eq_true_iff]
  · rw [perform_search hread hq, answer, collectFrom_eq h,
      collectTokens_eq_idsOfTokens fun t => Text.startsWith_iff]
  · rw [perform_search hread hq, answer, collectTokens_eq_idsOfTokens fun t => Text.endsWith_iff]
  · rw [perform_search hread hq, answer, collectTokens_eq_idsOfTokens fun t => Text.contains_iff]

/-- Tokens on both sides of those that begin with `re`. The last one has a letter of two bytes. -/
def aroundRe : Postings :=
  [("are", [⟨1⟩]), ("r", [⟨2⟩]), ("re", [⟨3⟩, ⟨1⟩]), ("reel", [⟨1⟩, ⟨4⟩]), ("rf", [⟨5⟩]),
    ("ré", [⟨6⟩])]

/-- A store with their full-text index. -/
def aroundReStore : Store := { texts := [⟨"words", aroundRe, false⟩] }

/-- The walk for a star at the end takes the two tokens in the middle, and a record that both hold
is found once. With the star in front the tokens are others. -/
theorem search_stars_eq_full_walk_around_re :
    (search .atSpaces ⟨0⟩ "re*").perform aroundReStore = (.ok [⟨3⟩, ⟨1⟩, ⟨4⟩], aroundReStore) ∧
    (search .atSpaces ⟨0⟩ "*re").perform aroundReStore = (.ok [⟨1⟩, ⟨3⟩], aroundReStore) ∧
    (search .atSpaces ⟨0⟩ "*re*").perform aroundReStore = (.ok [⟨1⟩, ⟨3⟩, ⟨4⟩], aroundReStore) := by
  have hread : (aroundReStore.map (⟨0⟩ : MapRef String)).read = .ok aroundRe := rfl
  obtain ⟨-, hbegins, hends, hcontains⟩ :=
    search_stars_eq_full_walk .atSpaces hread (by decide) "re"
  refine ⟨(hbegins "re*" rfl).trans ?_, (hends "*re" rfl).trans ?_,
    (hcontains "*re*" rfl).trans ?_⟩ <;> rfl

end FullText

end DocumentDb
