import DocumentDb.Index.Ordered
import DocumentDb.Proofs.Action
import DocumentDb.Proofs.Index.Scanning

/-!
# `DocumentDb.Proofs.Index.ScanResult`: what a scan hands out, and in which order

The result of a scan, stated without any of its walks. A key meets a condition by the order of
keys alone (`Comparison.meets`), a path meets conditions key by key (`Comparison.allMeet`), and
`Scan.Finds` reads the ids off the paths that meet the conditions, in the order of these paths,
each id where it stands first.

The six kinds of conditions walk a level in four different ways. The selection that a condition
makes is the meeting point: it takes just the keys that meet the condition (`takes_eq_meets`),
and what the walks take of a level are the keys that the selection takes (`scanNode_visits`).

`Scan.scan_finds_paths_in_order` puts this together, for the level at the root of any tree and for
a map of the store with the same entries.
-/

set_option autoImplicit false

namespace DocumentDb

open SortedEntries (Sorted)

/-! ### Conditions on paths -/

namespace Comparison

/-- Whether a value denotes a key. -/
def denotes (v : Value) (k : Key) : Bool := (Key.ofValue? v).any (·.same k)

/-- Whether a key meets a condition, by the order of keys. A range does not leave the class of its
bound, and no key meets a condition on a text. -/
def meets (c : Comparison) (k : Key) : Bool :=
  match c.condition with
  | .eq v => denotes v k
  | .isIn vs => vs.any (denotes · k)
  | .range op v => (Key.ofValue? v).any fun bound =>
      k.keyClass == bound.keyClass && op.accepts (k.compare bound)
  | .ne v => !denotes v k
  | .notIn vs => !vs.any (denotes · k)
  | .text _ => false

/-- Whether the first keys of a path meet the conditions, one by one. -/
def allMeet (conditions : List Comparison) (path : List Key) : Bool :=
  (conditions.zip path).all fun e => e.1.meets e.2

/-- The value of a key denotes the keys that are the same. -/
theorem denotes_value (a k : Key) : denotes a.value k = a.same k := by
  rw [denotes, Key.ofValue?_eq_some.mpr rfl, Option.any_some]

end Comparison

open Comparison

namespace Scan

variable {order : ScanOrder} {fields : List String} {conditions : List Comparison}
  {ss : List Selection} {root : Level} {ids : RecordIdSet}

/-- The selection of a condition takes the keys that meet it. -/
theorem takes_eq_meets {c : Comparison} {s : Selection} (h : selection c = .ok s) (k : Key) :
    s.takes k = c.meets k := by
  obtain ⟨field, condition⟩ := c
  cases condition with
  | eq v =>
    obtain ⟨a, ha, rfl⟩ := Result.map_eq_ok_iff.mp h
    obtain rfl := operandKey_eq_ok.mp ha
    simp [Selection.takes, meets, denotes_value]
  | isIn vs =>
    obtain ⟨as, has, rfl⟩ := Result.map_eq_ok_iff.mp h
    obtain rfl := operandKeys_eq_ok.mp has
    simp [Selection.takes, meets, any_sortedKeys, denotes_value, Function.comp_def]
  | range op v =>
    obtain ⟨a, ha, rfl⟩ := Result.map_eq_ok_iff.mp h
    obtain rfl := operandKey_eq_ok.mp ha
    simp [Selection.takes, meets, inRange, Key.ofValue?_eq_some.mpr rfl]
  | ne v =>
    obtain ⟨a, ha, rfl⟩ := Result.map_eq_ok_iff.mp h
    obtain rfl := operandKey_eq_ok.mp ha
    simp [Selection.takes, meets, denotes_value]
  | notIn vs =>
    obtain ⟨as, has, rfl⟩ := Result.map_eq_ok_iff.mp h
    obtain rfl := operandKeys_eq_ok.mp has
    simp [Selection.takes, meets, denotes_value, Function.comp_def]
  | text query => cases h

/-- The paths that the selections admit are those that meet the conditions. -/
theorem admits_eq_allMeet (h : Selects conditions ss) (path : List Key) :
    admits ss path = allMeet conditions path := by
  induction h generalizing path with
  | nil => exact admits_nil_left path
  | @cons c s conditions ss hc _ ih =>
    cases path with
    | nil => rfl
    | cons k path =>
      rw [admits, takes_eq_meets hc, ih path]
      rfl

/-- Conditions on the leading fields of an index pass its check. -/
theorem check_of_prefix (h : conditions.map (·.field) <+: fields) :
    check fields conditions = .ok () := by
  have hlength : ¬ fields.length < conditions.length := by
    have hle := h.length_le
    rw [List.length_map] at hle
    omega
  rw [check, if_neg hlength]
  obtain ⟨rest, rfl⟩ := h
  clear hlength
  induction conditions with
  | nil => rfl
  | cons c conditions ih =>
    rw [List.map_cons, List.cons_append, checkFields, if_pos rfl]
    exact ih

end Scan

/-! ### Levels -/

namespace Node

mutual

/-- The levels of a tree. -/
def levels : Node → List Level
  | .terminal _ => []
  | .inner level => level :: levelsBelow level

/-- The levels below the entries of a level. -/
def levelsBelow : Level → List Level
  | [] => []
  | (_, node) :: rest => levels node ++ levelsBelow rest

end

/-- A level below the entries of a level is below one of them. -/
theorem mem_levelsBelow {level level' : Level} (h : level' ∈ levelsBelow level) :
    ∃ e ∈ level, level' ∈ levels e.2 := by
  induction level with
  | nil =>
    rw [levelsBelow] at h
    cases h
  | cons e level ih =>
    rw [levelsBelow, List.mem_append] at h
    rcases h with h | h
    · exact ⟨e, List.mem_cons_self, h⟩
    · obtain ⟨e', he', h⟩ := ih h
      exact ⟨e', List.mem_cons_of_mem _ he', h⟩

/-- All levels of a uniform tree ascend. -/
theorem Uniform.sorted_levels {depth : Nat} {node : Node} (h : Uniform depth node) :
    ∀ level ∈ node.levels, Sorted level := by
  induction depth generalizing node with
  | zero =>
    cases node with
    | inner level => exact h.elim
    | terminal ids => exact List.forall_mem_nil _
  | succ depth ih =>
    cases node with
    | terminal ids => exact h.elim
    | inner level =>
      rw [levels, List.forall_mem_cons]
      refine ⟨h.1, fun level' hlevel' => ?_⟩
      obtain ⟨e, he, hlevel'⟩ := mem_levelsBelow hlevel'
      exact ih (h.2 e he) level' hlevel'

end Node

namespace Scan

variable {order : ScanOrder} {fields : List String} {conditions : List Comparison}
  {root : Level} {ids : RecordIdSet}

/-! ### Results -/

/-- What a scan has to find: the ids of the posting lists under the paths that meet the
conditions, in the order in which a walk comes to these paths and as they stand in the lists. An
id that occurs again is left out. -/
def Finds (order : ScanOrder) (fields : List String) (conditions : List Comparison) (root : Level)
    (ids : RecordIdSet) : Prop :=
  ∃ visits, Visits order fields (allMeet conditions) (.inner root) visits ∧
    ids = (visits.flatMap (·.2)).eraseDups

/-- A scan succeeds and finds what it has to. -/
theorem exists_finds {depth : Nat} (htree : (Node.inner root).Uniform depth)
    (hcheck : check fields conditions = .ok ())
    (hfit : ∀ c ∈ conditions, c.isIndexable = true ∧ c.isText = false) (order : ScanOrder) :
    ∃ ids, scan order fields conditions root = .ok ids ∧
      Finds order fields conditions root ids := by
  obtain ⟨ss, hss⟩ := exists_selects hfit
  obtain ⟨visits, hvisits, hscan⟩ := scanNode_visits htree fields hss
  rw [funext (admits_eq_allMeet hss)] at hvisits
  refine ⟨_, ?_, visits, hvisits, rfl⟩
  rw [scan, hcheck, hscan, ← RecordIdSet.addAll_nil]
  rfl

/-- A scan does not find an id twice. -/
theorem Finds.nodup (h : Finds order fields conditions root ids) : ids.Nodup := by
  obtain ⟨visits, -, rfl⟩ := h
  exact RecordIdSet.nodup_eraseDups _

/-- The ids found are those that stand at the end of paths that meet the conditions. -/
theorem Finds.mem_iff {depth : Nat} (htree : (Node.inner root).Uniform depth)
    (hfit : ∀ c ∈ conditions, c.isIndexable = true ∧ c.isText = false)
    (h : Finds order fields conditions root ids) (id : RecordId) :
    id ∈ ids ↔ ∃ path, id ∈ Node.idsAt path (.inner root) ∧ allMeet conditions path = true := by
  obtain ⟨visits, hvisits, rfl⟩ := h
  obtain ⟨ss, hss⟩ := exists_selects hfit
  rw [List.mem_eraseDups]
  refine hvisits.mem_iff htree (fun path path' hsame => ?_) id
  rw [← admits_eq_allMeet hss, ← admits_eq_allMeet hss, admits_congr ss hsame]

/-! ### Maps of the store -/

/-- Without a key wanted at the first level there is nothing to find. -/
theorem scan_of_not_looksAtTree (hcheck : check fields conditions = .ok ())
    (h : looksAtTree conditions = .ok false) : scan order fields conditions root = .ok [] := by
  cases conditions with
  | nil => cases h
  | cons c conditions =>
    obtain ⟨s, hs, hlooks⟩ := Result.map_eq_ok_iff.mp h
    cases s with
    | range op bound => cases hlooks
    | allBut ks => cases hlooks
    | these ks =>
      obtain rfl : ks = [] := by simpa using hlooks
      have htaken : ∀ (reverse : Bool) (level : List (Key × Result (List RecordId))),
          taken reverse (some c) level = .ok [] := by
        intro reverse level
        rw [taken, hs]
        cases reverse <;> rfl
      rw [scan, hcheck, scanNode, List.head?_cons, htaken]
      rfl

/-- Conditions that an ordered index can answer are fit to look at a tree. -/
theorem exists_looksAtTree (hfit : ∀ c ∈ conditions, c.isIndexable = true ∧ c.isText = false) :
    ∃ looks, looksAtTree conditions = .ok looks := by
  cases conditions with
  | nil => exact ⟨true, rfl⟩
  | cons c conditions =>
    obtain ⟨hindexable, htext⟩ := hfit c List.mem_cons_self
    obtain ⟨s, hs⟩ := exists_selection hindexable htext
    exact ⟨_, congrArg (Except.map _) hs⟩

end Scan

/-- A scan of a map of the store finds what the level with the entries of the map gives. -/
theorem OrderedIndex.perform_scan {d : IndexDescriptor} {m : MapRef Key} {s : Store}
    {order : ScanOrder} {conditions : List Comparison} {root : Level} {ids : RecordIdSet}
    (hread : (s.map m).read = .ok root)
    (hcheck : Scan.check d.fields.fields conditions = .ok ())
    (hfit : ∀ c ∈ conditions, c.isIndexable = true ∧ c.isText = false)
    (hscan : Scan.scan order d.fields.fields conditions root = .ok ids) :
    (scan d m order conditions).perform s = (.ok ids, s) := by
  obtain ⟨looks, hlooks⟩ := Scan.exists_looksAtTree hfit
  have hentries : m.entries.perform s = (.ok root, s) := by
    rw [← hread]
    rfl
  cases looks with
  | true => simp [scan, hcheck, hlooks, hentries, hscan]
  | false =>
    rw [Scan.scan_of_not_looksAtTree hcheck hlooks] at hscan
    cases hscan
    simp [scan, hcheck, hlooks]

namespace Scan

variable {order : ScanOrder} {fields : List String} {conditions : List Comparison} {root : Level}

/-- Conditions on the leading fields of an index are answered by any tree over its fields, whatever
the directions of its levels. All walks of levels end by themselves, the scan succeeds, and it
finds the ids at the end of the paths that meet the conditions, each once, in the order of these
paths. Another order finds the same ids, and a map of the store gives what the level with its
entries gives. -/
theorem scan_finds_paths_in_order (htree : (Node.inner root).Uniform fields.length)
    (hnames : conditions.map (·.field) <+: fields)
    (hfit : ∀ c ∈ conditions, c.isIndexable = true ∧ c.isText = false) (order : ScanOrder) :
    (∀ level ∈ (Node.inner root).levels, WalksEnd level) ∧
    ∃ ids, scan order fields conditions root = .ok ids ∧
      Finds order fields conditions root ids ∧ ids.Nodup ∧
      (∀ id, id ∈ ids ↔
        ∃ path, id ∈ Node.idsAt path (.inner root) ∧ allMeet conditions path = true) ∧
      (∀ order', ∃ ids', scan order' fields conditions root = .ok ids' ∧ ids'.Perm ids) ∧
      ∀ (d : IndexDescriptor) (m : MapRef Key) (s : Store), d.fields.fields = fields →
        (s.map m).read = .ok root →
        (OrderedIndex.scan d m order conditions).perform s = (.ok ids, s) := by
  have hcheck := check_of_prefix hnames
  obtain ⟨ids, hscan, hfinds⟩ := exists_finds htree hcheck hfit order
  have hmem := hfinds.mem_iff htree hfit
  refine ⟨fun level hlevel => walksEnd (htree.sorted_levels level hlevel),
    ids, hscan, hfinds, hfinds.nodup, hmem, ?_, ?_⟩
  · intro order'
    obtain ⟨ids', hscan', hfinds'⟩ := exists_finds htree hcheck hfit order'
    refine ⟨ids', hscan', (List.perm_ext_iff_of_nodup hfinds'.nodup hfinds.nodup).mpr fun id => ?_⟩
    rw [hmem, hfinds'.mem_iff htree hfit]
  · rintro d m s rfl hread
    exact OrderedIndex.perform_scan hread hcheck hfit hscan

/-- A tree over two fields. Its second key leads to two posting lists, and one id stands in two
lists. -/
def twoFields : Level :=
  let one : Key := ⟨.int 1, rfl⟩
  let two : Key := ⟨.int 2, rfl⟩
  [(one, .inner [(one, .terminal [⟨1⟩])]),
    (two, .inner [(one, .terminal [⟨2⟩, ⟨1⟩]), (two, .terminal [⟨3⟩, ⟨2⟩])])]

/-- A range on the first field, with the second level walked downward: the ids under the higher
key come first, and the id that occurs again is left out. -/
theorem scan_finds_paths_in_order_two_fields :
    (Node.inner twoFields).Uniform 2 ∧
    Finds [("b", true)] ["a", "b"] [⟨"a", .range .gte (.int 2)⟩] twoFields [⟨3⟩, ⟨2⟩, ⟨1⟩] ∧
    ∀ id, id ∈ [⟨3⟩, ⟨2⟩, ⟨1⟩] ↔ ∃ path, id ∈ Node.idsAt path (.inner twoFields) ∧
      allMeet [⟨"a", .range .gte (.int 2)⟩] path = true := by
  have htree : (Node.inner twoFields).Uniform ["a", "b"].length := by
    rw [List.length_cons, List.length_singleton]
    simp only [Node.Uniform, twoFields, Sorted, List.pairwise_cons, List.forall_mem_cons]
    exact ⟨⟨⟨rfl, nofun⟩, nofun, .nil⟩, ⟨⟨nofun, .nil⟩, trivial, nofun⟩,
      ⟨⟨⟨rfl, nofun⟩, nofun, .nil⟩, trivial, trivial, nofun⟩, nofun⟩
  have hfit : ∀ c ∈ [(⟨"a", .range .gte (.int 2)⟩ : Comparison)],
      c.isIndexable = true ∧ c.isText = false := List.forall_mem_singleton.mpr ⟨rfl, rfl⟩
  have hnames : [(⟨"a", .range .gte (.int 2)⟩ : Comparison)].map (·.field) <+: ["a", "b"] := by
    decide
  obtain ⟨-, ids, hscan, hfinds, -, hmem, -⟩ :=
    scan_finds_paths_in_order htree hnames hfit [("b", true)]
  have hids : scan [("b", true)] ["a", "b"] [⟨"a", .range .gte (.int 2)⟩] twoFields
      = .ok [⟨3⟩, ⟨2⟩, ⟨1⟩] := rfl
  obtain rfl : ids = [⟨3⟩, ⟨2⟩, ⟨1⟩] := Except.ok.inj (hscan.symm.trans hids)
  exact ⟨htree, hfinds, hmem⟩

end Scan

end DocumentDb
