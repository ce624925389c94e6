import DocumentDb.Proofs.Query.Ending
import DocumentDb.Proofs.ValueEquality

/-!
# `DocumentDb.Proofs.Query.Joining`: a join is a left outer join

A join answers every pull with what its local cursor answers, and changes documents only
(`JoinedCursor.each_make`). The store may be another one at every pull. The foreign documents are
those of the first pull, and if there is an error in them it is the only answer.

`Lookup.join` changes one document. `Lookup.Matches` says when a foreign document belongs to a local
value, and `Document.firstCopies` leaves out the copies. The code compares a document with those it
has kept, and `foldl_addNew` shows that it may as well be compared with all before it: what a copy
was left out for is a copy of the later document too, because `Document.same` is transitive.

There are two equalities here. `Value.equal` decides what matches, and `1` equals `1.0` under it.
`Document.same` decides what a copy is, and under it they differ.
-/

set_option autoImplicit false

namespace DocumentDb

/-! ### Documents -/

namespace Document

/-- The documents that are the same as none before them. -/
def firstCopies (ds : List Document) : List Document :=
  (ds.zipIdx.filter fun (d, i) => !(ds.take i).any (·.same d)).map Prod.fst

/-- One more document is kept unless it equals one before it. -/
theorem firstCopies_concat (ds : List Document) (d : Document) :
    firstCopies (ds ++ [d])
      = if ds.any (·.same d) then firstCopies ds else firstCopies ds ++ [d] := by
  -- an earlier document has the same documents before it
  have hearlier : ds.zipIdx.filter (fun (d', i) => !((ds ++ [d]).take i).any (·.same d'))
      = ds.zipIdx.filter fun (d', i) => !(ds.take i).any (·.same d') := by
    apply List.filter_congr
    rintro ⟨d', i⟩ hmem
    have hi : i ≤ ds.length := (List.snd_lt_of_mem_zipIdx hmem).le
    show (!((ds ++ [d]).take i).any (·.same d')) = !(ds.take i).any (·.same d')
    rw [List.take_append_of_le_length hi]
  rw [firstCopies, List.zipIdx_append, List.filter_append, hearlier, List.map_append]
  cases hany : ds.any (·.same d) with
  | true => simp [firstCopies, hany]
  | false => simp [firstCopies, hany]

/-- Leaving out copies leaves something the same as what was left out. -/
theorem any_same_firstCopies (ds : List Document) (d : Document) :
    (firstCopies ds).any (·.same d) = ds.any (·.same d) := by
  induction ds using List.reverseRecOn with
  | nil => rfl
  | append_singleton ds last ih =>
    rw [firstCopies_concat]
    cases hany : ds.any (·.same last) with
    | false => rw [if_neg Bool.false_ne_true, List.any_append, List.any_append, ih]
    | true =>
      rw [if_pos rfl, ih, List.any_append]
      cases hlast : last.same d with
      | false => simp [hlast]
      | true =>
        -- what the last document is a copy of is the same as `d`
        obtain ⟨first, hmem, hfirst⟩ := List.any_eq_true.mp hany
        have hsame : first.same d = true := same_trans hfirst hlast
        rw [List.any_eq_true.mpr ⟨first, hmem, hsame⟩, Bool.true_or]

/-- Some copy of every document is kept, so nothing is left only of nothing. -/
theorem firstCopies_eq_nil_iff {ds : List Document} : firstCopies ds = [] ↔ ds = [] := by
  induction ds using List.reverseRecOn with
  | nil => simp [firstCopies]
  | append_singleton ds d ih =>
    rw [firstCopies_concat]
    cases ds with
    | nil => simp
    | cons d' ds =>
      -- a copy is left out, but not what it is a copy of
      split <;> simp [ih]

/-- Setting a field gives it the value and leaves the others. -/
theorem get?_put (d : Document) (name name' : String) (v : Value) :
    (d.put name v).get? name' = if name' = name then some v else d.get? name' := by
  rw [get?, put, SortedEntries.get?_insert]
  simp only [Std.LawfulEqOrd.compare_eq_iff_eq]
  rfl

end Document

/-! ### Matches -/

namespace Lookup

open Document (firstCopies)

variable {l : Lookup} {v : Value} {d f : Document} {foreign : List Document}

/-- Whether a foreign document has a value in its field other than null that equals a given one. -/
def Matches (l : Lookup) (v : Value) (f : Document) : Prop :=
  ∃ w, f.getPath? l.foreignField = some w ∧ w ≠ .null ∧ w.equal v = true

/-- The comparison that the join runs is the one that `Matches` names. -/
theorem isMatch_iff : l.isMatch v f = true ↔ l.Matches v f := by
  rw [isMatch, Matches]
  cases f.getPath? l.foreignField with
  | none => simp
  | some w => cases w <;> simp [Value.isNull]

instance (l : Lookup) (v : Value) (f : Document) : Decidable (l.Matches v f) :=
  decidable_of_iff _ isMatch_iff

/-- Adding documents one by one, except those already there, keeps the first copies. -/
theorem foldl_addNew (ds : List Document) : ds.foldl addNew [] = firstCopies ds := by
  induction ds using List.reverseRecOn with
  | nil => rfl
  | append_singleton ds d ih =>
    rw [List.foldl_append, ih, Document.firstCopies_concat, ← Document.any_same_firstCopies ds d]
    rfl

/-- The documents that match a value are the first copies of the foreign ones that do. -/
theorem foreignMatches_eq (l : Lookup) (foreign : List Document) (v : Value) :
    l.foreignMatches foreign v = firstCopies (foreign.filter (l.Matches v)) := by
  rw [foreignMatches, foldl_addNew]
  congr 2
  funext f
  rw [Bool.eq_iff_iff, isMatch_iff, decide_eq_true_iff]

/-- The value of a local field with matches. -/
def matched (l : Lookup) (foreign : List Document) (v : Value) : Value :=
  .array ((firstCopies (foreign.filter (l.Matches v))).map Document.toValue)

/-- What becomes of a local document: it gets its matches in one field if there are any. -/
structure Joins (l : Lookup) (foreign : List Document) (d joined : Document) : Prop where
  missing : d.getPath? l.localField = none ∨ d.getPath? l.localField = some .null → joined = d
  unmatched : ∀ v, d.getPath? l.localField = some v →
    (∀ f ∈ foreign, ¬ l.Matches v f) → joined = d
  matched : ∀ v, d.getPath? l.localField = some v → v ≠ .null →
    (∃ f ∈ foreign, l.Matches v f) → joined = d.put l.target (l.matched foreign v) ∧
      joined.get? l.target = some (l.matched foreign v)
  others : ∀ name, name ≠ l.target → joined.get? name = d.get? name

/-- Where the local field is missing or null, the document stays as it is. -/
theorem join_of_missing
    (h : d.getPath? l.localField = none ∨ d.getPath? l.localField = some .null) :
    l.join foreign d = d := by
  rw [join]
  obtain h | h := h <;> rw [h]

/-- Where the local field has a value, the target gets the matches, unless there are none. -/
theorem join_of_value (h : d.getPath? l.localField = some v) (hv : v ≠ .null) :
    l.join foreign d = if foreign.filter (l.Matches v) = [] then d
      else d.put l.target (l.matched foreign v) := by
  have hempty : foreign.filter (l.Matches v) = [] ↔ l.foreignMatches foreign v = [] := by
    rw [foreignMatches_eq, Document.firstCopies_eq_nil_iff]
  rw [join, h, matched, ← foreignMatches_eq]
  cases hfound : l.foreignMatches foreign v with
  | nil =>
    rw [if_pos (hempty.mpr hfound)]
    cases v <;> first | exact absurd rfl hv | simp only [hfound]
  | cons f found =>
    have hne : foreign.filter (l.Matches v) ≠ [] := by
      intro hnil
      rw [hempty.mp hnil] at hfound
      cases hfound
    rw [if_neg hne]
    cases v <;> first | exact absurd rfl hv | simp only [hfound]

/-- The join of a document meets its specification. -/
theorem joins_join (l : Lookup) (foreign : List Document) (d : Document) :
    l.Joins foreign d (l.join foreign d) where
  missing := join_of_missing
  unmatched v hv hnone := by
    by_cases hnull : v = .null
    · exact join_of_missing (.inr (hnull ▸ hv))
    · rw [join_of_value hv hnull, if_pos]
      simpa [List.filter_eq_nil_iff] using hnone
  matched v hv hnull hsome := by
    have hne : foreign.filter (l.Matches v) ≠ [] := by
      simpa [List.filter_eq_nil_iff] using hsome
    rw [join_of_value hv hnull, if_neg hne, Document.get?_put, if_pos rfl]
    exact ⟨rfl, rfl⟩
  others name hname := by
    cases hlocal : d.getPath? l.localField with
    | none => rw [join_of_missing (.inl hlocal)]
    | some v =>
      by_cases hnull : v = .null
      · rw [join_of_missing (.inr (hnull ▸ hlocal))]
      · rw [join_of_value hlocal hnull]
        split
        · rfl
        · rw [Document.get?_put, if_neg hname]

end Lookup

/-! ### Cursors -/

namespace Pullable

variable {C α : Type} {P : Pullable C α} {I : C → Prop} {c c' : C} {s : Store}

/-- One more pull: its answer, and then those of the cursor that is left. -/
theorem each_cons (P : Pullable C α) {answer : Option (Result α)} (h : P.pull s c = (answer, c'))
    (stores : List Store) : P.each c (s :: stores) = answer :: P.each c' stores := by
  rw [each, h]

/-- Every pull gives one answer. -/
theorem length_each (P : Pullable C α) (c : C) (stores : List Store) :
    (P.each c stores).length = stores.length := by
  induction stores generalizing c with
  | nil => rfl
  | cons s stores ih => rw [each, List.length_cons, ih, List.length_cons]

/-- A cursor that is silent answers none of the pulls. -/
theorem Ends.each_of_silent (h : P.Ends I) (hc : P.Silent c) (stores : List Store) :
    P.each c stores = List.replicate stores.length none :=
  List.eq_replicate_iff.mpr ⟨P.length_each c stores, h.eq_none hc (P.answers_each c stores)⟩

end Pullable

namespace Cursor

/-- An ended cursor answers none of the pulls. -/
theorem each_ended (stores : List Store) :
    pullable.each ended stores = List.replicate stores.length none :=
  ends_pullable.each_of_silent (silent_of_dry RecordStream.dry_ended) stores

end Cursor

namespace JoinedCursor

variable {s : Store} {inner foreign : Cursor} {l : Lookup} {ds : List Document} {e : Error}

/-- What a join makes of an answer of its local cursor. -/
def answer (l : Lookup) (ds : List Document) (item : Option (Result Document)) :
    Option (Result Document) :=
  item.map (Except.map (l.join ds))

/-- One pull when the foreign documents have been read. -/
theorem pull_read {item : Result Document} {inner' : Cursor}
    (h : inner.pull s = (some item, inner')) (ds : List Document) (l : Lookup) :
    pull s ⟨inner, .read ds, l⟩ = (answer l ds (some item), ⟨inner', .read ds, l⟩) := by
  rw [pull_eq, foreignDocuments, h]
  rfl

/-- The end of the local cursor is the end of the join, which forgets the foreign documents. -/
theorem pull_read_of_end {inner' : Cursor} (h : inner.pull s = (none, inner'))
    (ds : List Document) (l : Lookup) :
    pull s ⟨inner, .read ds, l⟩ = (answer l ds none, ⟨.ended, .read [], l⟩) := by
  rw [pull_eq, foreignDocuments, h]
  rfl

/-- A join whose local cursor has ended answers none of the pulls. -/
theorem each_ended (ds : List Document) (l : Lookup) (stores : List Store) :
    pullable.each ⟨.ended, .read ds, l⟩ stores = List.replicate stores.length none :=
  ends_pullable.each_of_silent
    (silent_of_inner (Cursor.silent_of_dry RecordStream.dry_ended) rfl) stores

/-- The run lemma: when the foreign documents have been read, the answers are those of the local
cursor. -/
theorem each_read (inner : Cursor) (ds : List Document) (l : Lookup) (stores : List Store) :
    pullable.each ⟨inner, .read ds, l⟩ stores
      = (Cursor.pullable.each inner stores).map (answer l ds) := by
  induction stores generalizing inner with
  | nil => rfl
  | cons s stores ih =>
    obtain ⟨-, hpull⟩ | ⟨e, hpull⟩ | ⟨d, stream, hpull⟩ := inner.pull_cases s
    · -- what is left is silent on both sides, so it does not matter what the join has forgotten
      rw [pullable.each_cons (pull_read_of_end hpull ds l), Cursor.pullable.each_cons hpull,
        each_ended, Cursor.each_ended, List.map_cons, List.map_replicate]
      rfl
    · rw [pullable.each_cons (pull_read hpull ds l), Cursor.pullable.each_cons hpull, ih,
        List.map_cons]
    · rw [pullable.each_cons (pull_read hpull ds l), Cursor.pullable.each_cons hpull, ih,
        List.map_cons]

/-- The first pull reads the foreign documents. -/
theorem each_make (h : foreign.toList s = .ok ds) (inner : Cursor) (l : Lookup)
    (stores : List Store) :
    pullable.each (make inner foreign l) (s :: stores)
      = (Cursor.pullable.each inner (s :: stores)).map (answer l ds) := by
  -- the first pull goes on as if they had been read before
  have hpull : (make inner foreign l).pull s = pull s ⟨inner, .read ds, l⟩ := by
    have hforeign : (make inner foreign l).foreignDocuments s = .ok ds := h
    rw [pull_eq, hforeign, pull_eq]
    rfl
  rw [← each_read, pullable.each_cons hpull]
  rfl

/-- An error in the foreign documents is the only answer. -/
theorem each_make_of_error (h : foreign.toList s = .error e) (inner : Cursor) (l : Lookup)
    (stores : List Store) :
    pullable.each (make inner foreign l) (s :: stores)
      = some (.error e) :: List.replicate stores.length none := by
  have hpull : (make inner foreign l).pull s = (some (.error e), ⟨.ended, .read [], l⟩) := by
    have hforeign : (make inner foreign l).foreignDocuments s = .error e := h
    rw [pull_eq, hforeign]
    rfl
  rw [pullable.each_cons hpull, each_ended]

/-- Read to its end, a join gives the local documents, each joined. -/
theorem toList_make {locals : List Document} (hforeign : foreign.toList s = .ok ds)
    (hinner : inner.toList s = .ok locals) (l : Lookup) :
    (make inner foreign l).toList s = .ok (locals.map (l.join ds)) := by
  have hdocs : (make inner foreign l).foreignDocuments s = .ok ds := hforeign
  have hitems : (inner.run s).map (·.1) = locals.map .ok := Result.mapM_id_eq_ok_iff.mp hinner
  rw [toList, Result.mapM_id_eq_ok_iff, run, hdocs]
  show ((inner.run s).map fun step => (step.1.map (l.join ds), _)).map (·.1) = _
  calc _ = ((inner.run s).map (·.1)).map (Except.map (l.join ds)) := by
        rw [List.map_map, List.map_map]
        rfl
    _ = (locals.map .ok).map (Except.map (l.join ds)) := by rw [hitems]
    _ = (locals.map (l.join ds)).map .ok := by
        rw [List.map_map, List.map_map]
        rfl

/-- **A join is a left outer join.** If both cursors come to their end without an error, there is
one document for every local one, in the same order. The answers to pulls in turn are those of the
local cursor, on whatever store each pull takes place, and no more than the error if there is one in
the foreign documents. What matches is decided by an equality that is symmetric and transitive, and
the equality of keys where there are keys. -/
theorem left_outer_join (inner foreign : Cursor) (l : Lookup) :
    (∀ s locals ds, inner.toList s = .ok locals → foreign.toList s = .ok ds →
      ∃ joined, (make inner foreign l).toList s = .ok joined ∧
        List.Forall₂ (l.Joins ds) locals joined) ∧
    (∀ s ds stores, foreign.toList s = .ok ds →
      pullable.each (make inner foreign l) (s :: stores)
        = (Cursor.pullable.each inner (s :: stores)).map (answer l ds)) ∧
    (∀ ds d, l.Joins ds d (l.join ds d)) ∧
    (∀ s e stores, foreign.toList s = .error e →
      pullable.each (make inner foreign l) (s :: stores)
        = some (.error e) :: List.replicate stores.length none) ∧
    (∀ a b : Value, a.equal b = b.equal a) ∧
    (∀ a b c : Value, a.equal b = true → b.equal c = true → a.equal c = true) ∧
    (∀ a b : Value, (a.isNull || a.isScalar) = true → (b.isNull || b.isScalar) = true →
      ∃ k k' : Key, Key.ofValue? a = some k ∧ Key.ofValue? b = some k' ∧
        (a.equal b = true ↔ k.compare k' = .eq)) := by
  refine ⟨?_, fun s ds stores hforeign => each_make hforeign inner l stores, l.joins_join,
    fun s e stores hforeign => each_make_of_error hforeign inner l stores, Value.equal_comm,
    fun a b c => Value.equal_trans, fun a b => Value.exists_keys_equal_iff⟩
  intro s locals ds hinner hforeign
  have hjoins : List.Forall₂ (l.Joins ds) locals (locals.map (l.join ds)) := by
    rw [List.forall₂_map_right_iff, List.forall₂_same]
    exact fun d _ => l.joins_join ds d
  exact ⟨_, toList_make hforeign hinner l, hjoins⟩

/-- Two teams have the number of the first user, as an integer and as a float, and the first team is
there twice. No team has the number of the second user, and the third user has none. -/
theorem left_outer_join_teams :
    let ada : Document := ⟨[("name", .string "ada"), ("team", .int 1)]⟩
    let bob : Document := ⟨[("name", .string "bob"), ("team", .int 2)]⟩
    let cy : Document := ⟨[("name", .string "cy")]⟩
    let core : Document := ⟨[("id", .int 1), ("label", .string "core")]⟩
    let float : Document := ⟨[("id", .float (.ofInt 1)), ("label", .string "core")]⟩
    let ops : Document := ⟨[("id", .int 3), ("label", .string "ops")]⟩
    let cursor (items : List (Result Document)) : Cursor :=
      ⟨.items (items.map (·.map (⟨0⟩, ·))), []⟩
    let users := cursor [.ok ada, .ok bob, .ok cy]
    let teams := cursor [.ok core, .ok float, .ok core, .ok ops]
    let broken := cursor [.ok core, .error (.mapDropped "teams")]
    let l : Lookup := ⟨"team", "id", "teams"⟩
    users.toList {} = .ok [ada, bob, cy] ∧ teams.toList {} = .ok [core, float, core, ops] ∧
      (make users teams l).toList {}
        = .ok [ada.put "teams" (.array [core.toValue, float.toValue]), bob, cy] ∧
      pullable.each (make users broken l) [{}, {}]
        = [some (.error (.mapDropped "teams")), none] := by
  intro ada bob cy core float ops cursor users teams broken l
  have husers : users.toList {} = .ok [ada, bob, cy] := rfl
  have hteams : teams.toList {} = .ok [core, float, core, ops] := rfl
  obtain ⟨joined, hjoined, hchanges⟩ := (left_outer_join users teams l).1 {} _ _ husers hteams
  obtain - | ⟨hada, - | ⟨hbob, - | ⟨hcy, - | -⟩⟩⟩ := hchanges
  -- the integer and the float are equal, and the repeated team is kept once
  have hmatches : [core, float, core, ops].filter (l.Matches (.int 1)) = [core, float, core] := by
    have hyes : l.Matches (.int 1) core ∧ l.Matches (.int 1) float := by decide +kernel
    have hno : ¬ l.Matches (.int 1) ops := by decide +kernel
    simp [hyes, hno]
  obtain ⟨rfl, -⟩ := hada.matched (.int 1) (by cbv) (by simp) (by decide +kernel)
  obtain rfl := hbob.unmatched (.int 2) (by cbv) (by decide +kernel)
  obtain rfl := hcy.missing (.inl (by cbv))
  have hbroken := (left_outer_join users broken l).2.2.2.1 {} (.mapDropped "teams") [{}] rfl
  refine ⟨husers, hteams, ?_, hbroken⟩
  rw [hjoined, Lookup.matched, hmatches]
  rfl

end JoinedCursor

end DocumentDb
