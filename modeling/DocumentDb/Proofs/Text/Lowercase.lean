import DocumentDb.Text.Blank
import DocumentDb.Text.Lowercase
import Mathlib.Data.List.Basic

/-!
# `DocumentDb.Proofs.Text.Lowercase`: what lower case leaves alone

Blanks and stars divide a query into its parts. They have no case, and no other character becomes
one of them: what `lowerChar` makes of a character is the character itself or no blank and no star
(`eq_or_of_mem_lowerChar`). So a text in lower case has the blanks and stars that it had
(`mem_of_mem_lowerChars`, `star_mem_lowerChars_iff`).

For the ASCII characters and the runs of the case table this is a computation.
-/

set_option autoImplicit false

namespace DocumentDb.Text

variable {c x : Char} {before cs : List Char}

/-- Whether a character is a blank or a star. -/
def isDivider (c : Char) : Bool := isBlank c || c == '*'

/-- A blank is a divider. -/
theorem isDivider_of_isBlank (h : isBlank c = true) : isDivider c = true := by
  rw [isDivider, h, Bool.true_or]

/-- The star is a divider. -/
theorem isDivider_star : isDivider '*' = true := rfl

/-! ### The table -/

/-- Whether no character of a run becomes a divider. -/
def CaseRun.avoidsDividers (r : CaseRun) : Bool :=
  (List.range (r.last - r.first + 1)).all fun k => !isDivider (Char.ofNat (r.target + k))

/-- The runs of a table are read from its characters, piece by piece. -/
theorem caseRunsOfText_eq {text : String} (h : text = String.ofList cs) :
    caseRunsOfText text = (piecesBy isGap cs).map CaseRun.ofText := by
  rw [h, caseRunsOfText, String.toList_ofList]

/-- No run of the table makes a divider. -/
theorem lowerRuns_avoid_dividers : lowerRuns.all CaseRun.avoidsDividers = true := by
  -- the kernel is given the characters as a list: it is slow at taking them out of a text
  rw [lowerRuns, caseRunsOfText_eq rfl]
  decide +kernel

/-- What a run of the table maps a character to is no divider. -/
theorem isDivider_of_map? {r : CaseRun} (hr : r ∈ lowerRuns) (h : r.map? c = some x) :
    isDivider x = false := by
  have havoids := List.all_eq_true.mp lowerRuns_avoid_dividers r hr
  rw [CaseRun.avoidsDividers, List.all_eq_true] at havoids
  unfold CaseRun.map? at h
  dsimp only at h
  split at h
  · rename_i hin
    cases h
    have hlast : c.toNat ≤ r.last := by
      simp only [Bool.and_eq_true, decide_eq_true_eq] at hin
      exact hin.1.2
    have hmem : c.toNat - r.first ∈ List.range (r.last - r.first + 1) := by
      rw [List.mem_range]
      omega
    simpa using havoids _ hmem
  · cases h

/-- Lower case leaves an ASCII character as it is, or makes no divider of it. -/
theorem toLower_eq_or (h : c.toNat < 128) : c.toLower = c ∨ isDivider c.toLower = false := by
  have hall : ∀ n < 128, (Char.ofNat n).toLower = Char.ofNat n ∨
      isDivider (Char.ofNat n).toLower = false := by
    decide +kernel
  simpa using hall c.toNat h

/-! ### Characters and texts -/

/-- Lower case leaves a character as it is, or makes no divider of it. -/
theorem eq_or_of_mem_lowerChar (h : x ∈ lowerChar c) : x = c ∨ isDivider x = false := by
  unfold lowerChar at h
  split at h
  · rename_i hascii
    rw [List.mem_singleton.mp h]
    exact toLower_eq_or hascii
  · split at h
    · right
      simp only [List.mem_cons, List.not_mem_nil, or_false] at h
      rcases h with rfl | rfl <;> decide
    · rw [List.mem_singleton.mp h]
      cases hfind : lowerRuns.findSome? (·.map? c) with
      | none => exact Or.inl rfl
      | some y =>
        obtain ⟨r, hr, hy⟩ := List.exists_of_findSome?_eq_some hfind
        exact Or.inr (isDivider_of_map? hr hy)

/-- No character is without a lower case. -/
theorem lowerChar_ne_nil (c : Char) : lowerChar c ≠ [] := by
  unfold lowerChar
  split
  · exact List.cons_ne_nil _ _
  · split <;> exact List.cons_ne_nil _ _

/-- A divider in lower case was there before, wherever the text stands. -/
theorem mem_of_mem_lowerAfter (hx : isDivider x = true) (h : x ∈ lowerAfter before cs) :
    x ∈ cs := by
  induction cs generalizing before with
  | nil => cases h
  | cons c cs ih =>
    rw [lowerAfter, List.mem_append] at h
    rcases h with h | h
    · split at h
      · -- neither of the two small sigmas is a divider
        exfalso
        split at h <;>
        · rw [List.mem_singleton.mp h] at hx
          exact absurd hx (by decide)
      · rcases eq_or_of_mem_lowerChar h with rfl | hnot
        · exact List.mem_cons_self
        · rw [hx] at hnot
          cases hnot
    · exact List.mem_cons_of_mem _ (ih h)

/-- A divider in lower case was there before. -/
theorem mem_of_mem_lowerChars (hx : isDivider x = true) (h : x ∈ lowerChars cs) : x ∈ cs :=
  mem_of_mem_lowerAfter hx h

/-- A star stays a star in lower case. -/
theorem star_mem_lowerAfter (h : '*' ∈ cs) : '*' ∈ lowerAfter before cs := by
  induction cs generalizing before with
  | nil => cases h
  | cons c cs ih =>
    rw [lowerAfter, List.mem_append]
    rcases List.mem_cons.mp h with rfl | h
    · exact Or.inl List.mem_cons_self
    · exact Or.inr (ih h)

/-- Stars stay as they are, and there are no new ones. -/
theorem star_mem_lowerChars_iff : '*' ∈ lowerChars cs ↔ '*' ∈ cs :=
  ⟨mem_of_mem_lowerChars isDivider_star, star_mem_lowerAfter⟩

/-- No character disappears. -/
theorem lowerChars_ne_nil (h : cs ≠ []) : lowerChars cs ≠ [] := by
  cases cs with
  | nil => exact absurd rfl h
  | cons c cs =>
    rw [lowerChars, lowerAfter]
    intro hnil
    have hform := (List.append_eq_nil_iff.mp hnil).1
    split at hform
    · cases hform
    · exact lowerChar_ne_nil c hform

end DocumentDb.Text
