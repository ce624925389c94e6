import DocumentDb.Text.Substring
import Mathlib.Tactic.SplitIfs

/-!
# `DocumentDb.Proofs.Index.TokenOrder`: the order of tokens

A full-text index has its tokens in the order of their characters, which is the order of their bytes
(`compare_eq_lt_iff_bytes`): the encoding of a lesser character is less, whatever follows it
(`utf8EncodeChar_append_lt`), since the first byte tells how many there are and grows with their
number.

In this order the texts that begin with a term stand together, and the term is where they start
(`not_lt_of_prefix`, `prefix_of_between`).
-/

set_option autoImplicit false

namespace DocumentDb.Text

/-! ### Order by bytes -/

/-- Bytes are ordered as the numbers they are made of. -/
theorem byte_lt_iff {m n : Nat} (hm : m < 256) (hn : n < 256) :
    UInt8.ofNat m < UInt8.ofNat n ↔ m < n := by
  rw [UInt8.lt_iff_toNat_lt, UInt8.toNat_ofNat_of_lt' hm, UInt8.toNat_ofNat_of_lt' hn]

/-- Bytes are equal if the numbers they are made of are. -/
theorem byte_eq_iff {m n : Nat} (hm : m < 256) (hn : n < 256) :
    UInt8.ofNat m = UInt8.ofNat n ↔ m = n := by
  rw [← UInt8.toNat_inj, UInt8.toNat_ofNat_of_lt' hm, UInt8.toNat_ofNat_of_lt' hn]

/-- The encoding of a lesser character is less at a byte that both have. -/
theorem utf8EncodeChar_append_lt {c d : Char} (h : c < d) (xs ys : List UInt8) :
    String.utf8EncodeChar c ++ xs < String.utf8EncodeChar d ++ ys := by
  have hlt : c.val.toNat < d.val.toNat := h
  have hlimit : d.val.toNat < 0x110000 := by
    rcases d.valid with hvalid | hvalid
    · exact Nat.lt_trans hvalid (by decide)
    · exact hvalid.2
  simp only [String.utf8EncodeChar]
  generalize c.val.toNat = m at hlt
  generalize d.val.toNat = n at hlt hlimit
  -- one case for each pair of lengths; where they are the same, the bytes are digits to base 64
  split_ifs <;>
    simp (disch := omega) only [List.cons_append, List.nil_append, List.cons_lt_cons_iff,
      byte_lt_iff,
      byte_eq_iff, Nat.mod_eq_of_lt] <;>
    omega

/-- The bytes of a text. -/
def bytes (text : String) : List UInt8 := text.toUTF8.data.toList

/-- The bytes of a text are those of its characters. -/
theorem bytes_eq (text : String) : bytes text = text.toList.flatMap String.utf8EncodeChar := by
  rw [bytes, String.toUTF8, ← String.utf8Encode_toList]
  exact List.toList_data_toByteArray

/-- Lists of characters and their bytes are in the same order. -/
theorem flatMap_utf8EncodeChar_lt {a b : List Char} (h : a < b) :
    a.flatMap String.utf8EncodeChar < b.flatMap String.utf8EncodeChar := by
  induction a generalizing b with
  | nil =>
    cases b with
    | nil => exact absurd h (List.not_lt_nil _)
    | cons d b =>
      obtain ⟨byte, rest, hbytes⟩ :=
        List.exists_cons_of_ne_nil (String.utf8EncodeChar_ne_nil (c := d))
      rw [List.flatMap_cons, hbytes]
      exact List.nil_lt_cons _ _
  | cons c a ih =>
    cases b with
    | nil => exact absurd h (List.not_lt_nil _)
    | cons d b =>
      rw [List.flatMap_cons, List.flatMap_cons]
      rcases List.cons_lt_cons_iff.mp h with hlt | ⟨rfl, hlt⟩
      · exact utf8EncodeChar_append_lt hlt _ _
      · exact List.append_left_lt (ih hlt)

/-- Texts are in the order of their characters. -/
theorem compare_eq_lt_iff {s t : String} : compare s t = .lt ↔ s.toList < t.toList := by
  rw [← String.lt_iff]
  exact compareOfLessAndEq_eq_lt

/-- Texts are in the order of their bytes. -/
theorem bytes_lt {s t : String} (h : compare s t = .lt) : bytes s < bytes t := by
  rw [bytes_eq, bytes_eq]
  exact flatMap_utf8EncodeChar_lt (compare_eq_lt_iff.mp h)

/-- Texts are in the order of their bytes. -/
theorem compare_eq_lt_iff_bytes {s t : String} : compare s t = .lt ↔ bytes s < bytes t := by
  refine ⟨bytes_lt, fun hbytes => ?_⟩
  cases hcompare : compare s t with
  | lt => rfl
  | eq =>
    rw [Std.LawfulEqCmp.eq_of_compare hcompare] at hbytes
    exact absurd hbytes (List.lt_irrefl _)
  | gt => exact absurd hbytes (List.lt_asymm (bytes_lt (Std.OrientedCmp.lt_of_gt hcompare)))

/-! ### Texts that begin with a term -/

variable {term a b : List Char}

/-- A text is not below its beginning. -/
theorem not_lt_of_prefix (h : term <+: a) : ¬ a < term := by
  obtain ⟨rest, rfl⟩ := h
  induction term with
  | nil => exact List.not_lt_nil _
  | cons c term ih =>
    rw [List.cons_append, List.cons_lt_cons_iff]
    rintro (hlt | ⟨-, hlt⟩)
    · exact Char.lt_irrefl c hlt
    · exact ih hlt

/-- Between a term and a text that begins with it there are only texts that begin with it. -/
theorem prefix_of_between (hlow : ¬ a < term) (hab : a < b) (h : term <+: b) : term <+: a := by
  obtain ⟨rest, rfl⟩ := h
  induction term generalizing a with
  | nil => exact List.nil_prefix
  | cons c term ih =>
    cases a with
    | nil => exact absurd (List.nil_lt_cons _ _) hlow
    | cons d a =>
      rw [List.cons_lt_cons_iff, not_or, not_and] at hlow
      rw [List.cons_append, List.cons_lt_cons_iff] at hab
      rcases hab with hlt | ⟨rfl, hlt⟩
      · exact absurd hlt hlow.1
      · exact List.cons_prefix_cons.mpr ⟨rfl, ih (hlow.2 rfl) hlt⟩

/-! ### Parts of texts -/

/-- A text starts with another one if its characters do. -/
theorem startsWith_iff {s t : String} : startsWith s t = true ↔ t.toList <+: s.toList :=
  List.isPrefixOf_iff_prefix

/-- A text ends with another one if its characters do. -/
theorem endsWith_iff {s t : String} : endsWith s t = true ↔ t.toList <:+ s.toList :=
  List.isSuffixOf_iff_suffix

/-- The search for a run of characters finds it wherever it stands. -/
theorem containsRun_iff {part cs : List Char} : containsRun part cs = true ↔ part <:+: cs := by
  induction cs with
  | nil => rw [containsRun, List.isEmpty_iff, List.infix_nil]
  | cons c cs ih =>
    rw [containsRun, Bool.or_eq_true, List.isPrefixOf_iff_prefix, ih, List.infix_cons_iff]

/-- A text contains another one if its characters do. -/
theorem contains_iff {s t : String} : contains s t = true ↔ t.toList <:+: s.toList :=
  containsRun_iff

end DocumentDb.Text
