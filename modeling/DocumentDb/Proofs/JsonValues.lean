import DocumentDb.Proofs.SortedEntries
import DocumentDb.Value.Json
import Mathlib.Algebra.Group.Int.Defs

/-!
# `DocumentDb.Proofs.JsonValues`: values through JSON and back

JSON has no points in time, no NaN and no infinities. `Value.plain` puts in their place what is
written for them, and leaves everything else as it is. `json_round_trips` says that writing a value
and reading it again gives `Value.plain` of it, so that the values without these kinds, at any
depth, and no others come back as they were. In the other direction the JSON values come back whose
numbers are kept: an integer beyond 64 bits is read as a float.

An object is a map by names. Its members are converted where they stand, which is the same as
putting them into an empty document one by one (`ofJson_ofMembers`).
-/

set_option autoImplicit false

namespace DocumentDb

namespace Value

/-! ### What JSON can say -/

mutual

/-- A value as JSON has it: a point in time is its text, and a float that is not finite is null. -/
def plain : Value → Value
  | .null => .null
  | .bool b => .bool b
  | .int n => .int n
  | .float x => if x.isFinite then .float x else .null
  | .string s => .string s
  | .dateTime t => .string t.render
  | .array items => .array (plainItems items)
  | .document fields => .document (plainFields fields)

/-- What is left of items. -/
def plainItems : List Value → List Value
  | [] => []
  | v :: rest => plain v :: plainItems rest

/-- What is left of fields. -/
def plainFields : List (String × Value) → List (String × Value)
  | [] => []
  | (name, v) :: rest => (name, plain v) :: plainFields rest

end

mutual

/-- Whether there is neither a point in time nor a float that is not finite, at any depth. -/
def isPlain : Value → Bool
  | .float x => x.isFinite
  | .dateTime _ => false
  | .array items => allPlain items
  | .document fields => allFieldsPlain fields
  | _ => true

/-- Whether all items of a list are plain. -/
def allPlain : List Value → Bool
  | [] => true
  | v :: rest => isPlain v && allPlain rest

/-- Whether the values of all fields are plain. -/
def allFieldsPlain : List (String × Value) → Bool
  | [] => true
  | (_, v) :: rest => isPlain v && allFieldsPlain rest

end

end Value

mutual

/-- Whether all numbers of a JSON value are finite floats or integers of 64 bits. -/
def Json.numbersFit : Json → Bool
  | .integer n => Value.fitsInt64 n
  | .float x => x.isFinite
  | .array items => Json.allNumbersFit items
  | .object members => Json.membersNumbersFit members
  | _ => true

/-- Whether all numbers of a list of JSON values fit. -/
def Json.allNumbersFit : List Json → Bool
  | [] => true
  | j :: rest => Json.numbersFit j && Json.allNumbersFit rest

/-- Whether all numbers of JSON members fit. -/
def Json.membersNumbersFit : List (String × Json) → Bool
  | [] => true
  | (_, j) :: rest => Json.numbersFit j && Json.membersNumbersFit rest

end

namespace Value

/-! ### Integers -/

/-- The integers that fit are those of 64 bits. -/
theorem fitsInt64_iff {n : Int} : fitsInt64 n = true ↔ -2 ^ 63 ≤ n ∧ n < 2 ^ 63 := by
  simp [fitsInt64]

/-- An integer of 64 bits is read as itself. -/
theorem ofJson_integer (n : Int64) : ofJson (.integer n.toInt) = .int n := by
  have hfits : fitsInt64 n.toInt = true := fitsInt64_iff.mpr ⟨n.le_toInt, n.toInt_lt⟩
  rw [ofJson, if_pos hfits, Int64.ofInt_toInt]

/-- An integer comes back as it was if it fits 64 bits, and is a float otherwise. -/
theorem toJson_ofJson_integer (n : Int) :
    (ofJson (.integer n)).toJson = .integer n ↔ fitsInt64 n = true := by
  rw [ofJson]
  split
  · rename_i hfits
    obtain ⟨hlow, hhigh⟩ := fitsInt64_iff.mp hfits
    simp [toJson, Int64.toInt_ofInt_of_le hlow hhigh, hfits]
  · rename_i hbeyond
    rw [toJson]
    split <;> simp [hbeyond]

/-! ### Values -/

mutual

/-- Writing a value and reading it again gives the value as JSON has it. -/
theorem ofJson_toJson (v : Value) : ofJson v.toJson = v.plain := by
  cases v with
  | int n => rw [toJson, plain, ofJson_integer]
  | float x =>
    rw [toJson, plain]
    split <;> rw [ofJson]
  | array items => rw [toJson, ofJson, plain, itemsOfJson_itemsToJson]
  | document fields => rw [toJson, ofJson, plain, fieldsOfJson_fieldsToJson]
  | _ => rw [toJson, ofJson, plain]

/-- The same for lists of items. -/
theorem itemsOfJson_itemsToJson (items : List Value) :
    itemsOfJson (itemsToJson items) = plainItems items := by
  cases items with
  | nil => rfl
  | cons v rest => rw [itemsToJson, itemsOfJson, plainItems, ofJson_toJson, itemsOfJson_itemsToJson]

/-- The same for lists of fields. -/
theorem fieldsOfJson_fieldsToJson (fields : List (String × Value)) :
    fieldsOfJson (fieldsToJson fields) = plainFields fields := by
  cases fields with
  | nil => rfl
  | cons field rest =>
    rw [fieldsToJson, fieldsOfJson, plainFields, ofJson_toJson, fieldsOfJson_fieldsToJson]

end

mutual

/-- The values that JSON has are those without points in time, NaN and infinities. -/
theorem plain_eq_self_iff (v : Value) : v.plain = v ↔ v.isPlain = true := by
  cases v with
  | float x =>
    rw [plain, isPlain]
    split
    · rename_i hfinite
      exact iff_of_true rfl hfinite
    · rename_i hnot
      exact iff_of_false nofun hnot
  | dateTime t => exact iff_of_false nofun nofun
  | array items => rw [plain, isPlain, array.injEq, plainItems_eq_self_iff]
  | document fields => rw [plain, isPlain, document.injEq, plainFields_eq_self_iff]
  | _ => exact iff_of_true rfl rfl

/-- The same for lists of items. -/
theorem plainItems_eq_self_iff (items : List Value) :
    plainItems items = items ↔ allPlain items = true := by
  cases items with
  | nil => exact iff_of_true rfl rfl
  | cons v rest =>
    rw [plainItems, allPlain, List.cons.injEq, plain_eq_self_iff, plainItems_eq_self_iff,
      Bool.and_eq_true]

/-- The same for lists of fields. -/
theorem plainFields_eq_self_iff (fields : List (String × Value)) :
    plainFields fields = fields ↔ allFieldsPlain fields = true := by
  cases fields with
  | nil => exact iff_of_true rfl rfl
  | cons field rest =>
    rw [plainFields, allFieldsPlain, List.cons.injEq, Prod.ext_iff, plain_eq_self_iff,
      plainFields_eq_self_iff, Bool.and_eq_true]
    exact and_congr_left fun _ => and_iff_right rfl

end

mutual

/-- A JSON value comes back as it was if its numbers do. -/
theorem toJson_ofJson_iff (j : Json) : (ofJson j).toJson = j ↔ j.numbersFit = true := by
  cases j with
  | integer n => rw [toJson_ofJson_integer, Json.numbersFit]
  | float x =>
    rw [ofJson, toJson, Json.numbersFit]
    split
    · rename_i hfinite
      exact iff_of_true rfl hfinite
    · rename_i hnot
      exact iff_of_false nofun hnot
  | array items =>
    rw [ofJson, toJson, Json.numbersFit, Json.array.injEq, itemsToJson_itemsOfJson_iff]
  | object members =>
    rw [ofJson, toJson, Json.numbersFit, Json.object.injEq, fieldsToJson_fieldsOfJson_iff]
  | _ => exact iff_of_true rfl rfl

/-- The same for lists of items. -/
theorem itemsToJson_itemsOfJson_iff (items : List Json) :
    itemsToJson (itemsOfJson items) = items ↔ Json.allNumbersFit items = true := by
  cases items with
  | nil => exact iff_of_true rfl rfl
  | cons j rest =>
    rw [itemsOfJson, itemsToJson, Json.allNumbersFit, List.cons.injEq, toJson_ofJson_iff,
      itemsToJson_itemsOfJson_iff, Bool.and_eq_true]

/-- The same for lists of members. -/
theorem fieldsToJson_fieldsOfJson_iff (members : List (String × Json)) :
    fieldsToJson (fieldsOfJson members) = members ↔ Json.membersNumbersFit members = true := by
  cases members with
  | nil => exact iff_of_true rfl rfl
  | cons member rest =>
    rw [fieldsOfJson, fieldsToJson, Json.membersNumbersFit, List.cons.injEq, Prod.ext_iff,
      toJson_ofJson_iff, fieldsToJson_fieldsOfJson_iff, Bool.and_eq_true]
    exact and_congr_left fun _ => and_iff_right rfl

end

/-! ### Objects as maps -/

/-- Members that are inserted are read as fields that are. -/
theorem fieldsOfJson_insert (name : String) (j : Json) (members : List (String × Json)) :
    fieldsOfJson (SortedEntries.insert name j members)
      = SortedEntries.insert name (ofJson j) (fieldsOfJson members) := by
  induction members with
  | nil => rfl
  | cons member rest ih =>
    rw [SortedEntries.insert, fieldsOfJson, SortedEntries.insert]
    cases compare name member.1 with
    | lt => rfl
    | eq => rfl
    | gt => exact congrArg _ ih

/-- The object that some members make up is the document that their values make up, the last value
of a name in both. -/
theorem ofJson_ofMembers (members : List (String × Json)) :
    ofJson (Json.ofMembers members) = (Document.ofFields (fieldsOfJson members)).toValue := by
  have hfold : ∀ start : List (String × Json),
      fieldsOfJson (members.foldl (fun es m => SortedEntries.insert m.1 m.2 es) start)
        = ((fieldsOfJson members).foldl (fun d field => d.put field.1 field.2)
            (⟨fieldsOfJson start⟩ : Document)).fields := by
    induction members with
    | nil => exact fun start => rfl
    | cons member rest ih =>
      intro start
      rw [List.foldl_cons, ih, fieldsOfJson, List.foldl_cons, fieldsOfJson_insert]
      rfl
  rw [Json.ofMembers, ofJson]
  exact congrArg Value.document (hfold [])

end Value

/-- A document is written and read field by field. -/
theorem Document.ofJson_toJson (d : Document) :
    Document.ofJson d.toJson = ⟨Value.plainFields d.fields⟩ := by
  rw [Document.ofJson, Document.toJson, Value.ofJson, Value.fieldsOfJson_fieldsToJson]

/-- **Values through JSON and back.** A value that is written and read again is the value itself,
but for points in time, which are their texts, and NaNs and infinities, which are null; it is the
value itself just if it has none of these at any depth. A JSON value that is read and written again
is the same just if its numbers are integers of 64 bits and finite floats. Objects are maps by
names. -/
theorem json_round_trips :
    (∀ v : Value, Value.ofJson v.toJson = v.plain) ∧
    (∀ v : Value, Value.ofJson v.toJson = v ↔ v.isPlain = true) ∧
    (∀ d : Document, Document.ofJson d.toJson = ⟨Value.plainFields d.fields⟩) ∧
    (∀ j : Json, (Value.ofJson j).toJson = j ↔ j.numbersFit = true) ∧
    ∀ members : List (String × Json), Value.ofJson (Json.ofMembers members)
      = (Document.ofFields (Value.fieldsOfJson members)).toValue := by
  refine ⟨Value.ofJson_toJson, fun v => ?_, Document.ofJson_toJson, Value.toJson_ofJson_iff,
    Value.ofJson_ofMembers⟩
  rw [Value.ofJson_toJson, Value.plain_eq_self_iff]

end DocumentDb
