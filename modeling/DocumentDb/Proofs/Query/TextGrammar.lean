import DocumentDb.Proofs.Text.Lowercase
import DocumentDb.Proofs.Text.Trim
import DocumentDb.Query.TextQuery

/-!
# `DocumentDb.Proofs.Query.TextGrammar`: what a text query is read as

A text query is read without the blanks around it. Without stars it is a list of words. With stars
it has to be a single term with stars at its ends only (`Starred`), and `Asks` is the query for such
a term.

The reader looks for one fault after the other and takes what is left for a term. The lemmas from
`parse_of_no_star` to `parse_of_term` are its outcomes, each under a condition on the text that does
not mention the reader. `parse_grammar` puts them together: the term of a query is never empty, and
neither a blank nor a star is left in it for the search to stumble over.
-/

set_option autoImplicit false

namespace DocumentDb

namespace TextQuery

open Text (Inside isBlank)

/-! ### Terms with stars at their ends -/

/-- A text as a term without stars, with a number of stars in front and at the end. -/
structure Starred (w : List Char) (front : Nat) (term : List Char) (back : Nat) : Prop where
  eq : w = List.replicate front '*' ++ term ++ List.replicate back '*'
  noStar : '*' ∉ term
  ne_nil : term ≠ []

/-- The query for a term, by the numbers of stars in front and at the end. -/
inductive Asks (term : String) : (front back : Nat) → TextQuery → Prop
  | contains {front back : Nat} (hfront : 0 < front) (hback : 0 < back) :
      Asks term front back (.contains term)
  | endsWith {front : Nat} (hfront : 0 < front) : Asks term front 0 (.endsWith term)
  | beginsWith {back : Nat} (hback : 0 < back) : Asks term 0 back (.beginsWith term)

variable {w term : List Char} {front back : Nat}

/-- The first character is a star if there is one in front. -/
theorem Starred.head?_eq (h : Starred w front term back) :
    (w.head? == some '*') = decide (0 < front) := by
  rw [h.eq, List.append_assoc]
  cases front with
  | zero =>
    obtain ⟨c, rest, rfl⟩ := List.exists_cons_of_ne_nil h.ne_nil
    have hc : c ≠ '*' := fun heq => h.noStar (heq ▸ List.mem_cons_self)
    simpa using hc
  | succ front => simp [List.replicate_succ]

/-- The last character is a star if there is one at the end. -/
theorem Starred.getLast?_eq (h : Starred w front term back) :
    (w.getLast? == some '*') = decide (0 < back) := by
  rw [h.eq]
  cases back with
  | zero =>
    obtain ⟨rest, c, rfl⟩ := (List.eq_nil_or_concat' term).resolve_left h.ne_nil
    have hc : c ≠ '*' := fun heq => h.noStar (heq ▸ List.mem_concat_self)
    rw [List.replicate_zero, List.append_nil, ← List.append_assoc, List.getLast?_concat]
    simpa using hc
  | succ back =>
    rw [List.replicate_succ', ← List.append_assoc, List.getLast?_concat]
    simp

/-- The term is what is left without the stars at the ends. -/
theorem Starred.term_eq (h : Starred w front term back) :
    term = Text.dropEnds (· == '*') w := by
  rw [h.eq, Text.dropEnds_append]
  · simp
  · intro c hc
    rw [beq_eq_false_iff_ne]
    rintro rfl
    exact h.noStar hc
  · simp

/-- What the reader makes of a term. There is a star at one of its ends if there is one at all. -/
theorem Starred.asks (h : Starred w front term back) (hstar : '*' ∈ w) (text : String) :
    Asks text front back (match w.head? == some '*', w.getLast? == some '*' with
      | true, true => .contains text
      | true, false => .endsWith text
      | false, _ => .beginsWith text) := by
  rw [h.head?_eq, h.getLast?_eq]
  rcases Nat.eq_zero_or_pos front with rfl | hfront
  · rcases Nat.eq_zero_or_pos back with rfl | hback
    · -- without any star around the term the text is the term
      rw [h.eq] at hstar
      simp [h.noStar] at hstar
    · exact .beginsWith hback
  · rcases Nat.eq_zero_or_pos back with rfl | hback
    · simpa [hfront] using Asks.endsWith hfront
    · simpa [hfront, hback] using Asks.contains hfront hback

/-- A text that has other characters than stars is a term with stars around it, if no star is
inside. -/
theorem exists_starred (hother : ¬ ∀ c ∈ w, c = '*') (hinside : ¬ Inside (· == '*') w) :
    ∃ front back, Starred w front (Text.dropEnds (· == '*') w) back := by
  obtain ⟨before, after, hw, hbefore, hafter⟩ := Text.exists_dropEnds (· == '*') w
  have hreplicate : ∀ part : List Char, (∀ c ∈ part, (c == '*') = true) →
      part = List.replicate part.length '*' := fun part hpart =>
    List.eq_replicate_of_mem fun c hc => beq_iff_eq.mp (hpart c hc)
  refine ⟨before.length, after.length, ?_, ?_, ?_⟩
  · rw [← hreplicate before hbefore, ← hreplicate after hafter]
    exact hw
  · intro hstar
    exact hinside (Text.exists_mem_dropEnds_iff.mp ⟨'*', hstar, rfl⟩)
  · intro hnil
    exact hother fun c hc => beq_iff_eq.mp (Text.dropEnds_eq_nil_iff.mp hnil c hc)

/-! ### The outcomes of the reader -/

variable {query : String}

/-- A query without stars is one for its words. -/
theorem parse_of_no_star (h : '*' ∉ Text.trim query.toList) :
    parse query = .ok (.words (String.ofList (Text.trim query.toList))) := by
  rw [parse]
  exact if_pos (by simpa using h)

/-- The search for an inner blank finds it wherever it is. -/
theorem hasInnerBlank_iff (cs : List Char) : hasInnerBlank cs = true ↔ Inside isBlank cs := by
  rw [hasInnerBlank, List.any_eq_true]
  exact Text.exists_mem_dropEnds_iff

/-- The check that there are only stars looks at each character. -/
theorem all_star_iff (cs : List Char) : cs.all (· == '*') = true ↔ ∀ c ∈ cs, c = '*' := by
  simp

/-- The stars of a term are those that stand inside the text. -/
theorem star_in_term_iff (cs : List Char) :
    (Text.lowerChars (Text.dropEnds (· == '*') cs)).contains '*' = true ↔ Inside (· == '*') cs := by
  rw [List.contains_iff_mem, Text.star_mem_lowerChars_iff, ← Text.exists_mem_dropEnds_iff]
  simp

section starred

variable (hstar : '*' ∈ Text.trim query.toList)

include hstar

/-- A query of stars alone is an error. -/
theorem parse_of_stars (h : ∀ c ∈ Text.trim query.toList, c = '*') :
    parse query = .error .wildcardOnly := by
  rw [parse]
  dsimp only
  rw [if_neg (by simpa using hstar), if_pos ((all_star_iff _).mpr h)]

variable (hother : ¬ ∀ c ∈ Text.trim query.toList, c = '*')

include hother

/-- A query with a star and with a blank inside is an error. -/
theorem parse_of_inner_blank (h : Inside isBlank (Text.trim query.toList)) :
    parse query = .error (.wildcardWords (String.ofList (Text.trim query.toList))) := by
  rw [parse]
  dsimp only
  rw [if_neg (by simpa using hstar), if_neg ((all_star_iff _).not.mpr hother),
    if_pos ((hasInnerBlank_iff _).mpr h)]

variable (hblank : ¬ Inside isBlank (Text.trim query.toList))

include hblank

/-- A query with a star inside is an error. -/
theorem parse_of_inner_star (h : Inside (· == '*') (Text.trim query.toList)) :
    parse query = .error (.wildcardInside (String.ofList (Text.trim query.toList))) := by
  rw [parse]
  dsimp only
  rw [if_neg (by simpa using hstar), if_neg ((all_star_iff _).not.mpr hother),
    if_neg ((hasInnerBlank_iff _).not.mpr hblank), if_pos ((star_in_term_iff _).mpr h)]

/-- What has none of the faults is a term with stars around it. -/
theorem parse_of_term (h : ¬ Inside (· == '*') (Text.trim query.toList)) :
    ∃ front term back q, Starred (Text.trim query.toList) front term back ∧
      (∀ c ∈ term, isBlank c = false) ∧
      Asks (Text.lower (String.ofList term)) front back q ∧ parse query = .ok q := by
  obtain ⟨front, back, hstarred⟩ := exists_starred hother h
  refine ⟨front, _, back, _, hstarred, ?_, hstarred.asks hstar _, ?_⟩
  · intro c hc
    rw [← Bool.not_eq_true]
    intro hbc
    exact hblank (Text.inside_dropEnds (Text.mem_of_mem_dropEnds hc) hbc)
  · rw [parse]
    dsimp only
    rw [if_neg (by simpa using hstar), if_neg ((all_star_iff _).not.mpr hother),
      if_neg ((hasInnerBlank_iff _).not.mpr hblank), if_neg ((star_in_term_iff _).not.mpr h),
      Text.lower, String.toList_ofList]
    cases (Text.trim query.toList).head? == some '*' <;>
      cases (Text.trim query.toList).getLast? == some '*' <;> rfl

omit hother hblank

/-- A query with a star is refused for one of three faults, or it is one for a term. -/
theorem parse_cases :
    ((∀ c ∈ Text.trim query.toList, c = '*') ∨ Inside isBlank (Text.trim query.toList) ∨
        Inside (· == '*') (Text.trim query.toList)) ∧
      (∃ e, parse query = .error e ∧ e.kind = .filter) ∨
    ¬ ((∀ c ∈ Text.trim query.toList, c = '*') ∨ Inside isBlank (Text.trim query.toList) ∨
        Inside (· == '*') (Text.trim query.toList)) ∧
      ∃ front term back q, Starred (Text.trim query.toList) front term back ∧
        (∀ c ∈ term, isBlank c = false) ∧
        Asks (Text.lower (String.ofList term)) front back q ∧ parse query = .ok q := by
  by_cases hall : ∀ c ∈ Text.trim query.toList, c = '*'
  · exact .inl ⟨.inl hall, _, parse_of_stars hstar hall, rfl⟩
  by_cases hblank : Inside isBlank (Text.trim query.toList)
  · exact .inl ⟨.inr (.inl hblank), _, parse_of_inner_blank hstar hall hblank, rfl⟩
  by_cases hinner : Inside (· == '*') (Text.trim query.toList)
  · exact .inl ⟨.inr (.inr hinner), _, parse_of_inner_star hstar hall hblank hinner, rfl⟩
  · refine .inr ⟨?_, parse_of_term hstar hall hblank hinner⟩
    rintro (h | h | h)
    · exact hall h
    · exact hblank h
    · exact hinner h

end starred

/-! ### The grammar -/

/-- In lower case a term is still not empty. -/
theorem lower_ne_empty (h : term ≠ []) : Text.lower (String.ofList term) ≠ "" := by
  intro hempty
  rw [Text.lower, String.toList_ofList, String.ofList_eq_empty_iff] at hempty
  exact Text.lowerChars_ne_nil h hempty

/-- A blank or a star of a text in lower case is one of the text. -/
theorem mem_of_mem_lower {c : Char} (hc : Text.isDivider c = true)
    (h : c ∈ (Text.lower (String.ofList term)).toList) : c ∈ term := by
  rw [Text.lower, String.toList_ofList, String.toList_ofList] at h
  exact Text.mem_of_mem_lowerChars hc h

/-- **What a text query is read as.** Let `w` be the query without the blanks around it. Without
stars `w` is taken for words. Otherwise the query is refused just if `w` consists of stars, or has a
blank between other characters, or a star between other characters, and always with a filter error.
If it is not refused, `w` is a term with stars around it, and the query asks for the term in lower
case, by the ends at which the stars stand. That term is not empty and holds neither a star nor a
blank. -/
theorem parse_grammar (query : String) {w : List Char} (hw : w = Text.trim query.toList) :
    (∃ before after, query.toList = before ++ w ++ after ∧
      (∀ c ∈ before ++ after, isBlank c = true) ∧
      (∀ c ∈ w.head?, isBlank c = false) ∧ ∀ c ∈ w.getLast?, isBlank c = false) ∧
    ('*' ∉ w → parse query = .ok (.words (String.ofList w))) ∧
    ('*' ∈ w →
      ((∃ e, parse query = .error e) ↔
        (∀ c ∈ w, c = '*') ∨ Inside isBlank w ∨ Inside (· == '*') w) ∧
      (∀ e, parse query = .error e → e.kind = .filter) ∧
      (¬ ((∀ c ∈ w, c = '*') ∨ Inside isBlank w ∨ Inside (· == '*') w) →
        ∃ front term back q, Starred w front term back ∧ parse query = .ok q ∧
          Asks (Text.lower (String.ofList term)) front back q ∧
          Text.lower (String.ofList term) ≠ "" ∧
          ∀ c ∈ (Text.lower (String.ofList term)).toList, c ≠ '*' ∧ isBlank c = false)) := by
  subst hw
  refine ⟨?_, parse_of_no_star, fun hstar => ?_⟩
  · -- what is trimmed are the blanks at the ends, up to the first character that is none
    obtain ⟨before, after, hquery, hbefore, hafter⟩ := Text.exists_dropEnds isBlank query.toList
    refine ⟨before, after, hquery, ?_, ?_, ?_⟩
    · intro c hc
      exact (List.mem_append.mp hc).elim (hbefore c) (hafter c)
    · intro c hc
      exact Text.not_of_mem_head?_dropEnds hc
    · intro c hc
      exact Text.not_of_mem_getLast?_dropEnds hc
  rcases parse_cases hstar with
    ⟨hfault, e, herror, hkind⟩ | ⟨hnone, front, term, back, q, hstarred, hterm, hasks, hok⟩
  · rw [herror]
    refine ⟨iff_of_true ⟨e, rfl⟩ hfault, ?_, fun hnone => absurd hfault hnone⟩
    rintro e' ⟨⟩
    exact hkind
  · rw [hok]
    refine ⟨iff_of_false nofun hnone, nofun, fun _ => ?_⟩
    refine ⟨front, term, back, q, hstarred, rfl, hasks, lower_ne_empty hstarred.ne_nil, ?_⟩
    intro c hc
    -- a star or a blank of the lower case would have been one of the term
    constructor
    · rintro rfl
      exact hstarred.noStar (mem_of_mem_lower Text.isDivider_star hc)
    · rw [← Bool.not_eq_true]
      intro hblank
      have hnot := hterm c (mem_of_mem_lower (Text.isDivider_of_isBlank hblank) hc)
      rw [hblank] at hnot
      cases hnot

/-- A term in capitals with two stars in front and one at the end, among blanks, and three queries
that are refused, each for another fault. -/
theorem parse_grammar_capitals :
    parse "\t**FOX* " = .ok (.contains "fox") ∧
      (∃ e, parse " ** " = .error e) ∧ (∃ e, parse "red fox*" = .error e) ∧
      ∃ e, parse "*f*x" = .error e := by
  refine ⟨?_, ?_, ?_, ?_⟩
  · obtain ⟨-, -, hstar⟩ := parse_grammar "\t**FOX* " (w := "**FOX*".toList) (by decide)
    have hnone : ¬ ((∀ c ∈ "**FOX*".toList, c = '*') ∨ Inside isBlank "**FOX*".toList ∨
        Inside (· == '*') "**FOX*".toList) := by
      rintro (hall | hblank | hinner)
      · exact absurd (hall 'F' (by decide)) (by decide)
      · exact absurd hblank (by decide)
      · exact absurd hinner (by decide)
    obtain ⟨front, term, back, q, hstarred, hok, hasks, -⟩ := (hstar (by decide)).2.2 hnone
    have hfront := hstarred.head?_eq
    have hback := hstarred.getLast?_eq
    -- the stars at the ends tell the form, and what is between them is the term
    obtain rfl : term = "FOX".toList := hstarred.term_eq.trans (by decide)
    rw [hok]
    cases hasks with
    | contains => rfl
    | endsWith => cases hback
    | beginsWith => cases hfront
  · obtain ⟨-, -, hstar⟩ := parse_grammar " ** " (w := ['*', '*']) rfl
    exact (hstar (by decide)).1.mpr (.inl (by simp))
  · exact ((parse_grammar "red fox*" rfl).2.2 (by decide)).1.mpr (.inr (.inl (by decide)))
  · exact ((parse_grammar "*f*x" rfl).2.2 (by decide)).1.mpr (.inr (.inr (by decide)))

end TextQuery

end DocumentDb
