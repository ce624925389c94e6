import DocumentDb.Proofs.Index.Stepping
import Mathlib.Data.List.Perm.Basic

/-!
# `DocumentDb.Proofs.Index.Visiting`: the posting lists that a scan comes to

The content of an index tree is the list of its posting lists, each with the path that leads to
it (`Node.postings`). A scan visits some of them, and this module says which, and in which
order.

* `Scan.admits` says which paths the conditions let through, and `ScanOrder.comparePaths` in
  which order a walk comes to two paths: level by level, each in its direction.
* `scanNode_visits`: a scan succeeds, visits the posting lists under the paths that are let
  through, and comes to them strictly in the order of their paths. The proof is an induction on
  the depth of the tree. What one level does has been settled before (`taken_values`), and below
  each key the walk of the next level decides.
* `Node.Uniform` is all that this takes: ascending levels, and paths of one length. Nothing
  depends on whether posting lists are empty or hold an id twice.
-/

set_option autoImplicit false

namespace DocumentDb

open SortedEntries (Sorted walk)

/-- The order in which a walk comes to two paths: level by level, each in its direction. -/
def ScanOrder.comparePaths (order : ScanOrder) : List String → List Key → List Key → Ordering
  | fields, a :: p, b :: q =>
    (directed (fields.head?.any order.isReverse) (a.compare b)).then
      (comparePaths order fields.tail p q)
  | _, _, _ => .eq

/-- A path is level with itself. -/
theorem ScanOrder.comparePaths_self (order : ScanOrder) (fields : List String) (path : List Key) :
    order.comparePaths fields path path = .eq := by
  induction path generalizing fields with
  | nil => rw [comparePaths]; nofun
  | cons k path ih =>
    rw [comparePaths, Key.compare_self, ih]
    cases fields.head?.any order.isReverse <;> rfl

/-! ### Posting lists and their paths -/

namespace Node

mutual

/-- The posting lists of a tree, each with its path. -/
def postings : Node → List (List Key × List RecordId)
  | .terminal ids => [([], ids)]
  | .inner level => postingsBelow level

/-- The posting lists below the entries of a level, each with its path. -/
def postingsBelow : Level → List (List Key × List RecordId)
  | [] => []
  | (k, node) :: rest => (postings node).map (fun v => (k :: v.1, v.2)) ++ postingsBelow rest

end

/-- The posting lists of a level are those below its entries. -/
theorem postings_inner (level : Level) :
    postings (.inner level)
      = level.flatMap fun e => (postings e.2).map fun v => (e.1 :: v.1, v.2) := by
  rw [postings]
  induction level with
  | nil => rw [postingsBelow, List.flatMap_nil]
  | cons e level ih => rw [postingsBelow, ih, List.flatMap_cons]

/-- A tree whose levels ascend and whose paths have `depth` keys. -/
def Uniform : (depth : Nat) → Node → Prop
  | 0, .terminal _ => True
  | depth + 1, .inner level => Sorted level ∧ ∀ e ∈ level, Uniform depth e.2
  | _, _ => False

variable {unique : Bool} {depth : Nat} {node : Node} {path : List Key} {id : RecordId}
  {v : List Key × List RecordId}

/-- A tree of the right shape is uniform. -/
theorem Shaped.uniform (h : Shaped unique depth node) : Uniform depth node := by
  induction depth generalizing node with
  | zero =>
    cases node with
    | terminal ids => trivial
    | inner level => exact h.elim
  | succ depth ih =>
    cases node with
    | terminal ids => exact h.elim
    | inner level => exact ⟨h.1, fun e he => ih (h.2 e he).2⟩

/-- The ids at the end of paths through a sorted level are those below its entries. -/
theorem mem_idsAt_inner {level : Level} (h : Sorted level) :
    id ∈ idsAt path (.inner level) ↔
      ∃ e ∈ level, ∃ k rest, path = k :: rest ∧ k.same e.1 = true ∧ id ∈ idsAt rest e.2 := by
  cases path with
  | nil => simp
  | cons k rest =>
    rw [idsAt_cons_inner]
    constructor
    · intro hid
      cases hk : SortedEntries.get? k level with
      | none => simp [hk] at hid
      | some child =>
        rw [hk] at hid
        obtain ⟨k', hmem, hsame⟩ := SortedEntries.exists_mem_of_get?_eq_some hk
        exact ⟨(k', child), hmem, k, rest, rfl, Key.same_iff.mpr hsame, hid⟩
    · rintro ⟨⟨k', child⟩, hmem, _, _, hpath, hsame, hid⟩
      cases hpath
      rw [h.get?_of_mem hmem (Key.same_iff.mp hsame)]
      exact hid

/-- A posting list is what stands at its path. -/
theorem Uniform.idsAt_eq (h : Uniform depth node) (hv : v ∈ postings node) :
    idsAt v.1 node = v.2 := by
  induction depth generalizing node v with
  | zero =>
    cases node with
    | inner level => exact h.elim
    | terminal ids =>
      rw [postings, List.mem_singleton] at hv
      rw [hv, idsAt_nil_terminal]
  | succ depth ih =>
    cases node with
    | terminal ids => exact h.elim
    | inner level =>
      rw [postings_inner, List.mem_flatMap] at hv
      obtain ⟨e, he, hv⟩ := hv
      obtain ⟨w, hw, rfl⟩ := List.mem_map.mp hv
      rw [idsAt_cons_inner, h.1.get?_of_mem he Std.ReflOrd.compare_self]
      exact ih (h.2 e he) hw

/-- Every id of a tree stands in a posting list. -/
theorem Uniform.exists_posting (h : Uniform depth node) (hid : id ∈ idsAt path node) :
    ∃ v ∈ postings node, samePath path v.1 = true ∧ id ∈ v.2 := by
  induction depth generalizing node path with
  | zero =>
    cases node with
    | inner level => exact h.elim
    | terminal ids =>
      cases path with
      | nil => exact ⟨([], ids), by rw [postings]; exact List.mem_singleton.mpr rfl, rfl, hid⟩
      | cons k path => cases hid
  | succ depth ih =>
    cases node with
    | terminal ids => exact h.elim
    | inner level =>
      obtain ⟨e, he, k, rest, rfl, hsame, hid⟩ := (mem_idsAt_inner h.1).mp hid
      obtain ⟨v, hv, hpath, hid⟩ := ih (h.2 e he) hid
      refine ⟨(e.1 :: v.1, v.2), ?_, ?_, hid⟩
      · rw [postings_inner, List.mem_flatMap]
        exact ⟨e, he, List.mem_map.mpr ⟨v, hv, rfl⟩⟩
      · rw [samePath, hsame, hpath]
        rfl

end Node

namespace Scan

/-! ### Conditions and paths -/

/-- The selections that conditions make. -/
def Selects (conditions : List Comparison) (ss : List Selection) : Prop :=
  List.Forall₂ (fun c s => selection c = .ok s) conditions ss

/-- Conditions that an ordered index can answer make selections. -/
theorem exists_selects {conditions : List Comparison}
    (h : ∀ c ∈ conditions, c.isIndexable = true ∧ c.isText = false) :
    ∃ ss, Selects conditions ss := by
  induction conditions with
  | nil => exact ⟨[], List.Forall₂.nil⟩
  | cons c conditions ih =>
    rw [List.forall_mem_cons] at h
    obtain ⟨s, hs⟩ := exists_selection h.1.1 h.1.2
    obtain ⟨ss, hss⟩ := ih h.2
    exact ⟨s :: ss, hss.cons hs⟩

/-- The conditions after the first make the selections after the first. -/
theorem Selects.tail {conditions : List Comparison} {ss : List Selection}
    (h : Selects conditions ss) : Selects conditions.tail ss.tail := by
  cases h with
  | nil => exact List.Forall₂.nil
  | cons _ hrest => exact hrest

/-- Whether a path goes through keys that the selections take, level by level. Below the last
selection every key is taken. -/
def admits : List Selection → List Key → Bool
  | s :: ss, k :: path => s.takes k && admits ss path
  | _, _ => true

/-- Whether the selection of the uppermost level takes a key, if there is one. -/
def takesFirst (ss : List Selection) (k : Key) : Bool := ss.head?.all (·.takes k)

/-- Without selections, every path is admitted. -/
theorem admits_nil_left (path : List Key) : admits [] path = true := by
  cases path <;> rfl

/-- The empty path is admitted. -/
theorem admits_nil_right (ss : List Selection) : admits ss [] = true := by
  cases ss <;> rfl

/-- A path is admitted if its first key is taken and the rest is admitted. -/
theorem admits_cons (ss : List Selection) (k : Key) (path : List Key) :
    admits ss (k :: path) = (takesFirst ss k && admits ss.tail path) := by
  cases ss with
  | nil => cases path <;> rfl
  | cons s ss => simp [admits, takesFirst]

/-- Equal keys are taken alike. -/
theorem takesFirst_congr (ss : List Selection) {a b : Key} (h : a.same b = true) :
    takesFirst ss a = takesFirst ss b := by
  cases ss with
  | nil => rfl
  | cons s ss => simp [takesFirst, s.takes_congr h]

/-- Paths with equal keys are admitted alike. -/
theorem admits_congr (ss : List Selection) {p q : List Key} (h : samePath p q = true) :
    admits ss p = admits ss q := by
  induction p generalizing q ss with
  | nil =>
    cases q with
    | nil => rfl
    | cons b q => cases h
  | cons a p ih =>
    cases q with
    | nil => cases h
    | cons b q =>
      rw [samePath, Bool.and_eq_true] at h
      rw [admits_cons, admits_cons, takesFirst_congr ss h.1, ih ss.tail h.2]

/-! ### The walk of a tree -/

variable {order : ScanOrder} {conditions : List Comparison} {ss : List Selection} {depth : Nat}
  {node : Node}

/-- What a level gives for its condition, if there is one. -/
theorem taken_values {V : Type} (h : Selects conditions ss) {level : List (Key × V)}
    (hsorted : Sorted level) (reverse : Bool) :
    ∃ es, taken reverse conditions.head? level = .ok es ∧
      es.map (·.2) = (walk reverse (level.filter fun e => takesFirst ss e.1)).map (·.2) := by
  cases h with
  | nil =>
    refine ⟨_, rfl, ?_⟩
    have hall : (level.filter fun e => takesFirst [] e.1) = level :=
      List.filter_eq_self.mpr fun _ _ => rfl
    rw [allKeys_eq hsorted, entriesAt_keys hsorted fun e he => SortedEntries.mem_walk.mp he, hall]
  | @cons c s conditions ss hc hrest =>
    refine ⟨select reverse level s, ?_, select_values hsorted reverse (selection_ascending hc)⟩
    show (selection c).map (select reverse level) = _
    rw [hc]
    rfl

/-- The scans below a level, one for each of its entries. -/
theorem scanEntries_eq_map (order : ScanOrder) (fields : List String)
    (conditions : List Comparison) (level : Level) :
    scanEntries order fields conditions level
      = level.map fun e => (e.1, scanNode order fields conditions e.2) := by
  induction level with
  | nil => rw [scanEntries, List.map_nil]
  | cons e level ih => rw [scanEntries, List.map_cons, ih]

/-- Scans that all succeed are joined to what they find, one after the other. -/
theorem joined_eq {α : Type} {es : List (Key × Result (List RecordId))} {xs : List α}
    {found : α → List RecordId} (h : es.map (·.2) = xs.map fun x => .ok (found x)) :
    joined es = .ok (xs.flatMap found) := by
  induction xs generalizing es with
  | nil =>
    rw [List.map_nil, List.map_eq_nil_iff] at h
    rw [h]
    rfl
  | cons x xs ih =>
    rw [List.map_cons] at h
    obtain ⟨⟨k, r⟩, rest, rfl, hr, hrest⟩ := List.map_eq_cons_iff.mp h
    obtain rfl : r = .ok (found x) := hr
    rw [joined, ih hrest]
    rfl

/-- The posting lists under the paths with a property, each once, in the order of the walk. -/
structure Visits (order : ScanOrder) (fields : List String) (p : List Key → Bool) (node : Node)
    (visits : List (List Key × List RecordId)) : Prop where
  perm : visits.Perm (node.postings.filter fun v => p v.1)
  ordered : visits.Pairwise fun v w => order.comparePaths fields v.1 w.1 = .lt

variable {fields : List String}

/-- The ids that are visited are those at the end of paths with the property, if that does not
tell equal keys apart. -/
theorem Visits.mem_iff {p : List Key → Bool} {visits : List (List Key × List RecordId)}
    (h : Visits order fields p node visits) (hnode : node.Uniform depth)
    (hcongr : ∀ path path', samePath path path' = true → p path = p path') (id : RecordId) :
    id ∈ visits.flatMap (·.2) ↔ ∃ path, id ∈ node.idsAt path ∧ p path = true := by
  rw [List.mem_flatMap]
  constructor
  · rintro ⟨v, hv, hid⟩
    obtain ⟨hposting, hpath⟩ := List.mem_filter.mp (h.perm.mem_iff.mp hv)
    exact ⟨v.1, hnode.idsAt_eq hposting ▸ hid, hpath⟩
  · rintro ⟨path, hid, hpath⟩
    obtain ⟨v, hv, hsame, hid⟩ := hnode.exists_posting hid
    rw [hcongr _ _ hsame] at hpath
    exact ⟨v, h.perm.mem_iff.mpr (List.mem_filter.mpr ⟨hv, hpath⟩), hid⟩

/-- A posting list is visited once, whatever is selected. -/
theorem visits_terminal (ids : List RecordId) :
    Visits order fields (admits ss) (.terminal ids) [([], ids)] where
  perm := by
    have hall : (Node.postings (.terminal ids)).filter (fun v => admits ss v.1) = [([], ids)] := by
      rw [Node.postings]
      exact List.filter_eq_self.mpr fun v hv => by
        rw [List.mem_singleton.mp hv]
        exact admits_nil_right ss
    rw [hall]
  ordered := List.pairwise_singleton _ _

/-- Below a level the paths are let through that begin with a key taken and are let through
further on. -/
theorem filter_postings_inner (ss : List Selection) (level : Level) :
    ((Node.postings (.inner level)).filter fun v => admits ss v.1)
      = (level.filter fun e => takesFirst ss e.1).flatMap fun e =>
          ((Node.postings e.2).filter fun v => admits ss.tail v.1).map fun v =>
            (e.1 :: v.1, v.2) := by
  rw [Node.postings_inner]
  induction level with
  | nil => rfl
  | cons e level ih =>
    rw [List.flatMap_cons, List.filter_append, ih, List.filter_map]
    have hpaths : (fun v : List Key × List RecordId => admits ss v.1) ∘
        (fun v : List Key × List RecordId => (e.1 :: v.1, v.2))
          = fun v => takesFirst ss e.1 && admits ss.tail v.1 := by
      funext v
      exact admits_cons ss e.1 v.1
    rw [hpaths]
    cases htakes : takesFirst ss e.1 with
    | true => simp [htakes]
    | false => simp [htakes]

/-- What is visited below the keys of a level that are taken, key by key. -/
theorem visits_inner {level : Level} (hsorted : Sorted level)
    {below : Key × Node → List (List Key × List RecordId)}
    (hbelow : ∀ e ∈ level, Visits order fields.tail (admits ss.tail) e.2 (below e)) :
    Visits order fields (admits ss) (.inner level)
      ((walk (fields.head?.any order.isReverse) (level.filter fun e => takesFirst ss e.1)).flatMap
        fun e => (below e).map fun v => (e.1 :: v.1, v.2)) where
  perm := by
    have hwalk : (walk (fields.head?.any order.isReverse)
        (level.filter fun e => takesFirst ss e.1)).Perm
          (level.filter fun e => takesFirst ss e.1) := by
      unfold walk
      split
      · exact List.reverse_perm _
      · exact List.Perm.refl _
    rw [filter_postings_inner]
    refine hwalk.flatMap fun e he => (hbelow e ?_).perm.map _
    exact (List.mem_filter.mp (hwalk.mem_iff.mp he)).1
  ordered := by
    rw [List.pairwise_flatMap]
    constructor
    · -- below one key the walk of the next level decides
      intro e he
      have hmem := (List.mem_filter.mp (SortedEntries.mem_walk.mp he)).1
      refine List.pairwise_map.mpr ((hbelow e hmem).ordered.imp fun {v w} hvw => ?_)
      rw [ScanOrder.comparePaths, Key.compare_self]
      cases fields.head?.any order.isReverse <;> exact hvw
    · -- the keys are strictly apart
      refine (walk_ahead (hsorted.filter _)).imp fun {a b} hab v hv w hw => ?_
      obtain ⟨v', -, rfl⟩ := List.mem_map.mp hv
      obtain ⟨w', -, rfl⟩ := List.mem_map.mp hw
      rw [ScanOrder.comparePaths, ahead_iff.mp hab]
      rfl

/-- A scan visits the posting lists under the paths that the conditions let through. -/
theorem scanNode_visits (hnode : node.Uniform depth) (fields : List String)
    (h : Selects conditions ss) :
    ∃ visits, Visits order fields (admits ss) node visits ∧
      scanNode order fields conditions node = .ok (visits.flatMap (·.2)) := by
  induction depth generalizing node fields conditions ss with
  | zero =>
    cases node with
    | inner level => exact hnode.elim
    | terminal ids => exact ⟨_, visits_terminal ids, by rw [scanNode, List.flatMap_singleton]⟩
  | succ depth ih =>
    cases node with
    | terminal ids => exact hnode.elim
    | inner level =>
      obtain ⟨hsorted, hchildren⟩ := hnode
      -- what is visited below each entry, whether or not its key is taken
      have hbelow : ∀ e ∈ level, ∃ visits, Visits order fields.tail (admits ss.tail) e.2 visits ∧
          scanNode order fields.tail conditions.tail e.2 = .ok (visits.flatMap (·.2)) :=
        fun e he => ih (hchildren e he) fields.tail h.tail
      choose! below hvisits hscan using hbelow
      refine ⟨_, visits_inner hsorted hvisits, ?_⟩
      have hscans : Sorted (scanEntries order fields.tail conditions.tail level) := by
        rw [scanEntries_eq_map]
        exact List.pairwise_map.mpr hsorted
      obtain ⟨es, htaken, hvalues⟩ := taken_values h hscans (fields.head?.any order.isReverse)
      have hfound : es.map (·.2)
          = (walk (fields.head?.any order.isReverse) (level.filter fun e => takesFirst ss e.1)).map
            fun e => .ok ((below e).flatMap (·.2)) := by
        rw [hvalues, scanEntries_eq_map, List.filter_map, ← SortedEntries.walk_map, List.map_map]
        refine List.map_congr_left fun e he => hscan e ?_
        exact (List.mem_filter.mp (SortedEntries.mem_walk.mp he)).1
      rw [scanNode, htaken]
      refine (joined_eq hfound).trans ?_
      rw [List.flatMap_assoc]
      refine congrArg _ (List.flatMap_congr fun e _ => ?_)
      rw [List.flatMap_map]

end Scan

end DocumentDb
