import DocumentDb.Text.Blank
import Mathlib.Data.List.DropRight

/-!
# `DocumentDb.Proofs.Text.Trim`: what is left without the ends

`Text.dropEnds` takes the characters with a property off both ends. What it leaves begins and ends
with characters without the property (`not_of_mem_head?_dropEnds`, `not_of_mem_getLast?_dropEnds`),
and what it takes off has the property (`exists_dropEnds`).

A character with the property that is left has others without it on both sides: it belongs neither
to the run at the front nor to the one at the end. `Text.Inside` says that without any dropping, and
`exists_mem_dropEnds_iff` is the equivalence.
-/

set_option autoImplicit false

namespace DocumentDb.Text

variable {p : Char → Bool} {cs : List Char}

/-- Whether a character with a property has characters without it on both sides. -/
def Inside (p : Char → Bool) (cs : List Char) : Prop :=
  ∃ before c after, cs = before ++ c :: after ∧ p c = true ∧
    (∃ a ∈ before, p a = false) ∧ ∃ a ∈ after, p a = false

/-- Dropping at both ends is dropping in front and then at the back. -/
theorem dropEnds_eq_rdropWhile (p : Char → Bool) (cs : List Char) :
    dropEnds p cs = (cs.dropWhile p).rdropWhile p := rfl

/-- What is dropped has the property. -/
theorem exists_dropEnds (p : Char → Bool) (cs : List Char) :
    ∃ before after, cs = before ++ dropEnds p cs ++ after ∧
      (∀ c ∈ before, p c = true) ∧ ∀ c ∈ after, p c = true := by
  refine ⟨cs.takeWhile p, (cs.dropWhile p).rtakeWhile p, ?_, ?_, ?_⟩
  · rw [dropEnds_eq_rdropWhile, List.append_assoc, List.rdropWhile_append_rtakeWhile,
      List.takeWhile_append_dropWhile]
  · intro c hc
    exact List.mem_takeWhile_imp hc
  · intro c hc
    exact List.mem_rtakeWhile_imp hc

/-- What is left was there before. -/
theorem mem_of_mem_dropEnds {c : Char} (h : c ∈ dropEnds p cs) : c ∈ cs := by
  rw [dropEnds_eq_rdropWhile] at h
  exact (List.dropWhile_sublist p).subset ((List.rdropWhile_prefix p _).subset h)

/-- Nothing is left when all characters have the property. -/
theorem dropEnds_eq_nil_iff : dropEnds p cs = [] ↔ ∀ c ∈ cs, p c = true := by
  rw [dropEnds_eq_rdropWhile, List.rdropWhile_eq_nil_iff]
  constructor
  · intro h c hc
    rw [← List.takeWhile_append_dropWhile (p := p) (l := cs), List.mem_append] at hc
    rcases hc with hc | hc
    · exact List.mem_takeWhile_imp hc
    · exact h c hc
  · intro h c hc
    exact h c ((List.dropWhile_sublist p).subset hc)

/-- The first character that is left does not have the property. -/
theorem not_of_mem_head?_dropEnds {c : Char} (h : c ∈ (dropEnds p cs).head?) : p c = false := by
  rw [dropEnds_eq_rdropWhile] at h
  -- the first character stays where it is when the end is dropped
  obtain ⟨after, hafter⟩ := List.rdropWhile_prefix p (cs.dropWhile p)
  have hhead : c ∈ (cs.dropWhile p).head? := by
    rw [← hafter, List.head?_append_of_ne_nil]
    · exact h
    · intro hnil
      rw [hnil] at h
      cases h
  have hne := List.head?_dropWhile_not p cs
  rw [hhead] at hne
  simpa using hne

/-- The last character that is left does not have the property. -/
theorem not_of_mem_getLast?_dropEnds {c : Char} (h : c ∈ (dropEnds p cs).getLast?) :
    p c = false := by
  rw [dropEnds_eq_rdropWhile] at h
  have hne : (cs.dropWhile p).rdropWhile p ≠ [] := by
    intro hnil
    rw [hnil] at h
    cases h
  rw [List.getLast?_eq_some_getLast hne, Option.mem_some_iff] at h
  have hnot := List.rdropWhile_last_not p (cs.dropWhile p) hne
  rw [h] at hnot
  simpa using hnot

/-- Between runs of characters with the property, the characters without it are left. -/
theorem dropEnds_append {before after : List Char} (hbefore : ∀ c ∈ before, p c = true)
    (h : ∀ c ∈ cs, p c = false) (hafter : ∀ c ∈ after, p c = true) :
    dropEnds p (before ++ cs ++ after) = cs := by
  have hkeep : ∀ part : List Char, (∀ c ∈ part, p c = false) → part.dropWhile p = part := by
    intro part hpart
    rw [List.dropWhile_eq_self_iff]
    intro hne
    simp [hpart _ (List.getElem_mem hne)]
  cases cs with
  | nil =>
    rw [dropEnds_eq_nil_iff]
    intro c hc
    simp only [List.append_nil, List.mem_append] at hc
    exact hc.elim (hbefore c) (hafter c)
  | cons c cs =>
    have hc : ¬ p c = true := by simp [h c List.mem_cons_self]
    rw [dropEnds, List.append_assoc, List.dropWhile_append_of_pos hbefore, List.cons_append,
      List.dropWhile_cons_of_neg hc, ← List.cons_append, List.reverse_append,
      List.dropWhile_append_of_pos fun a ha => hafter a (List.mem_reverse.mp ha),
      hkeep _ fun a ha => h a (List.mem_reverse.mp ha), List.reverse_reverse]

/-- Nothing is dropped at the ends of characters without the property. -/
theorem dropEnds_eq_self (h : ∀ c ∈ cs, p c = false) : dropEnds p cs = cs := by
  have hends := dropEnds_append (List.forall_mem_nil _) h (List.forall_mem_nil _)
  rwa [List.nil_append, List.append_nil] at hends

/-- Something is left if not all characters have the property. -/
theorem isEmpty_dropWhile_eq_false (h : ∃ a ∈ cs, p a = false) :
    (cs.dropWhile p).isEmpty = false := by
  obtain ⟨a, ha, hpa⟩ := h
  rw [List.isEmpty_eq_false_iff, Ne, List.dropWhile_eq_nil_iff]
  intro hall
  rw [hall a ha] at hpa
  cases hpa

/-- Dropping stops in front of a character without the property, on both sides. -/
theorem dropEnds_append_cons {before after : List Char} (c : Char)
    (hbefore : ∃ a ∈ before, p a = false) (hafter : ∃ a ∈ after, p a = false) :
    dropEnds p (before ++ c :: after) = before.dropWhile p ++ c :: after.rdropWhile p := by
  have hreverse : ∃ a ∈ after.reverse, p a = false := by simpa using hafter
  rw [dropEnds, List.dropWhile_append, isEmpty_dropWhile_eq_false hbefore]
  simp only [Bool.false_eq_true, if_false, List.reverse_append, List.reverse_cons,
    List.append_assoc]
  rw [List.dropWhile_append, isEmpty_dropWhile_eq_false hreverse]
  simp [List.rdropWhile]

/-- What is inside some characters is inside more of them. -/
theorem Inside.append (h : Inside p cs) (start finish : List Char) :
    Inside p (start ++ cs ++ finish) := by
  obtain ⟨before, c, after, rfl, hpc, ⟨a, ha, hpa⟩, b, hb, hpb⟩ := h
  refine ⟨start ++ before, c, after ++ finish, by simp, hpc, ?_, ?_⟩
  · exact ⟨a, List.mem_append_right start ha, hpa⟩
  · exact ⟨b, List.mem_append_left finish hb, hpb⟩

/-- A character with the property that is left is neither the first one nor the last one. -/
theorem inside_dropEnds {c : Char} (hc : c ∈ dropEnds p cs) (hpc : p c = true) :
    Inside p (dropEnds p cs) := by
  obtain ⟨before, after, hsplit⟩ := List.append_of_mem hc
  refine ⟨before, c, after, hsplit, hpc, ?_, ?_⟩
  · cases before with
    | nil =>
      have hhead : c ∈ (dropEnds p cs).head? := by
        rw [hsplit]
        exact Option.mem_some_self c
      rw [not_of_mem_head?_dropEnds hhead] at hpc
      cases hpc
    | cons a before =>
      have hhead : a ∈ (dropEnds p cs).head? := by
        rw [hsplit]
        exact Option.mem_some_self a
      exact ⟨a, List.mem_cons_self, not_of_mem_head?_dropEnds hhead⟩
  · rcases List.eq_nil_or_concat' after with rfl | ⟨after, a, rfl⟩
    · have hlast : c ∈ (dropEnds p cs).getLast? := by
        rw [hsplit, List.getLast?_concat]
        exact Option.mem_some_self c
      rw [not_of_mem_getLast?_dropEnds hlast] at hpc
      cases hpc
    · have hlast : a ∈ (dropEnds p cs).getLast? := by
        rw [hsplit, ← List.cons_append, ← List.append_assoc, List.getLast?_concat]
        exact Option.mem_some_self a
      exact ⟨a, List.mem_concat_self, not_of_mem_getLast?_dropEnds hlast⟩

/-- A character with the property is left just if there is one that has others without it on both
sides. -/
theorem exists_mem_dropEnds_iff : (∃ c ∈ dropEnds p cs, p c = true) ↔ Inside p cs := by
  constructor
  · rintro ⟨c, hc, hpc⟩
    obtain ⟨start, finish, hcs, -, -⟩ := exists_dropEnds p cs
    rw [hcs]
    exact (inside_dropEnds hc hpc).append start finish
  · rintro ⟨before, c, after, rfl, hpc, hbefore, hafter⟩
    refine ⟨c, ?_, hpc⟩
    rw [dropEnds_append_cons c hbefore hafter]
    exact List.mem_append_right _ List.mem_cons_self

instance (p : Char → Bool) (cs : List Char) : Decidable (Inside p cs) :=
  decidable_of_iff ((dropEnds p cs).any p = true) (List.any_eq_true.trans exists_mem_dropEnds_iff)

end DocumentDb.Text
