import DocumentDb.Proofs.SortedEntries
import DocumentDb.Value.RecordId

/-!
# `DocumentDb.Proofs.RecordId`: ids read back

An id is read from a numeral (`RecordId.parse_eq_ok_iff`), and the rest is refused
(`RecordId.parse_eq_error_iff`). Its own decimal text is one (`RecordId.read?_render`), so a
document names the id that was written to it (`Document.id_setId`).
-/

set_option autoImplicit false

namespace DocumentDb

open SortedEntries (get?_insert_self)

/-- The texts of a number: its digits, with any number of zeros before them, after a plus sign or
not. -/
def IsNumeral (text : String) (n : Nat) : Prop :=
  ∃ digits : List Char, (text.toList = digits ∨ text.toList = '+' :: digits) ∧ digits ≠ [] ∧
    (∀ c ∈ digits, c.isDigit = true) ∧ Nat.ofDigitChars 10 digits 0 = n

/-- A numeral has one run of digits, as a plus sign is no digit. -/
theorem isNumeral_iff {text : String} {n : Nat} {digits : List Char}
    (hdigits : text.toList = '+' :: digits ∨ text.toList = digits ∧ ∀ rest, digits ≠ '+' :: rest) :
    IsNumeral text n ↔ digits ≠ [] ∧ (∀ c ∈ digits, c.isDigit = true) ∧
      Nat.ofDigitChars 10 digits 0 = n := by
  constructor
  · rintro ⟨digits', hwritten, hne, hall, hvalue⟩
    have hsame : digits = digits' := by
      rcases hdigits with hplus | ⟨hplain, hsign⟩ <;> rcases hwritten with hplain' | hplus'
      · have hdigit := hall '+' (by rw [← hplain', hplus]; exact List.mem_cons_self)
        cases hdigit
      · exact (List.cons.inj (hplus.symm.trans hplus')).2
      · exact hplain.symm.trans hplain'
      · exact absurd (hplain.symm.trans hplus') (hsign digits')
    rw [hsame]
    exact ⟨hne, hall, hvalue⟩
  · rintro ⟨hne, hall, hvalue⟩
    exact ⟨digits, hdigits.symm.imp_left And.left, hne, hall, hvalue⟩

/-- What is read are the numerals up to a limit. -/
theorem readUnsigned?_eq_some_iff {limit n : Nat} {text : String} :
    readUnsigned? limit text = some n ↔ IsNumeral text n ∧ n ≤ limit := by
  -- the digits are what is left after a plus sign, or all of the text
  have hread : ∀ digits : List Char,
      (if digits.isEmpty || !digits.all Char.isDigit then none
        else if valueOfDigits 0 digits ≤ limit then some (valueOfDigits 0 digits) else none)
          = some n
      ↔ (digits ≠ [] ∧ (∀ c ∈ digits, c.isDigit = true) ∧ Nat.ofDigitChars 10 digits 0 = n) ∧
        n ≤ limit := by
    intro digits
    have hvalue : valueOfDigits 0 digits = Nat.ofDigitChars 10 digits 0 :=
      Nat.ofDigitChars_eq_foldl.symm
    rw [hvalue]
    constructor
    · intro h
      split at h
      · cases h
      · rename_i hgood
        rw [Bool.or_eq_true, not_or, List.isEmpty_iff, Bool.not_eq_true', Bool.not_eq_false,
          List.all_eq_true] at hgood
        obtain ⟨hle, hn⟩ := Option.ite_none_right_eq_some.mp h
        obtain rfl := Option.some.inj hn
        exact ⟨⟨hgood.1, hgood.2, rfl⟩, hle⟩
    · rintro ⟨⟨hne, hall, rfl⟩, hle⟩
      rw [if_neg (by simpa [hne] using hall), if_pos hle]
  unfold readUnsigned?
  split
  · rename_i hplus
    rw [isNumeral_iff (Or.inl hplus)]
    exact hread _
  · rename_i hplain
    rw [isNumeral_iff (Or.inr ⟨rfl, hplain⟩)]
    exact hread _

/-- A number is written as a numeral. -/
theorem isNumeral_toString (n : Nat) : IsNumeral (toString n) n := by
  refine ⟨Nat.toDigits 10 n, Or.inl Nat.toList_repr, Nat.toDigits_ne_nil, fun c hc => ?_,
    Nat.ofDigitChars_ten_toDigits⟩
  exact Nat.isDigit_of_mem_toDigits (by decide) (by decide) hc

namespace RecordId

/-- The texts of an id are the numerals of its number. -/
theorem read?_eq_some_iff {text : String} {id : RecordId} :
    read? text = some id ↔ IsNumeral text id.toUInt64.toNat := by
  have hbound := id.toUInt64.toNat_lt
  rw [read?, Option.map_eq_some_iff]
  constructor
  · rintro ⟨n, hn, rfl⟩
    obtain ⟨hnumeral, hle⟩ := readUnsigned?_eq_some_iff.mp hn
    rwa [UInt64.toNat_ofNat_of_lt' (Nat.lt_of_le_of_lt hle (by decide))]
  · intro h
    refine ⟨_, readUnsigned?_eq_some_iff.mpr ⟨h, Nat.le_sub_one_of_lt hbound⟩, ?_⟩
    rw [UInt64.ofNat_toNat]

/-- The text of an id reads back as the id. -/
theorem read?_render (id : RecordId) : read? id.render = some id :=
  read?_eq_some_iff.mpr (isNumeral_toString _)

/-- What is read as an id. -/
theorem parse_eq_ok_iff {text : String} {id : RecordId} :
    parse text = .ok id ↔ IsNumeral text id.toUInt64.toNat := by
  rw [← read?_eq_some_iff, parse]
  cases read? text with
  | none => simp
  | some id' => simp

/-- What is refused as an id: whatever is no numeral, and numerals above the greatest id. -/
theorem parse_eq_error_iff {text : String} :
    parse text = .error (.badIdText text) ↔ ∀ n, IsNumeral text n → UInt64.size ≤ n := by
  have hread : parse text = .error (.badIdText text) ↔ read? text = none := by
    rw [parse]
    cases read? text with
    | none => simp
    | some id => simp
  rw [hread, Option.eq_none_iff_forall_ne_some]
  simp only [ne_eq, read?_eq_some_iff]
  constructor
  · refine fun h n hn => Nat.not_lt.mp fun hlt => h ⟨UInt64.ofNat n⟩ ?_
    rwa [UInt64.toNat_ofNat_of_lt' hlt]
  · intro h id hid
    exact absurd id.toUInt64.toNat_lt (Nat.not_lt.mpr (h _ hid))

end RecordId

/-- A document names the id that was written to it. -/
theorem Document.id_setId (d : Document) (id : RecordId) :
    (d.setId id).id = .ok (some id) := by
  have hfield : (d.setId id).get? idField = some (.string id.render) :=
    get?_insert_self idField _ d.fields
  rw [Document.id, hfield, Option.getD_some, Value.recordId, RecordId.parse,
    RecordId.read?_render]
  rfl

end DocumentDb
