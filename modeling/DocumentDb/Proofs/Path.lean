import DocumentDb.Value.Path
import Mathlib.Data.List.Basic

/-!
# `DocumentDb.Proofs.Path`: values at embedded paths

The segments of a path lead through documents by the names of fields, and through an array into
every element. `Value.leaves` lists what they come to in the end, in order, and `Value.crosses` says
whether there is an array on the way.

The lookup does not list the leaves and put them together at the end. It collects at every array, so
that what has been collected in an array within is taken apart again. `Value.collected_resolve` is
what holds at every depth: the part of a value in such a collection are the elements of its leaves.
`Document.getPath?_eq_leaves` is what follows for a whole path.
-/

set_option autoImplicit false

namespace DocumentDb

/-! ### Segments -/

/-- The pieces are those between the separators. -/
theorem splitAtSeparator_eq (cs : List Char) : splitAtSeparator cs = cs.splitOn pathSeparator := by
  induction cs with
  | nil => rfl
  | cons c cs ih =>
    rw [splitAtSeparator, ih, List.splitOn_cons_eq_if_modifyHead]
    by_cases hc : c = pathSeparator
    · rw [if_pos hc, if_pos (beq_iff_eq.mpr hc)]
    · rw [if_neg hc, if_neg (by simpa using hc)]
      cases hsplit : cs.splitOn pathSeparator with
      | nil => exact absurd hsplit (List.splitOn_ne_nil _ _)
      | cons piece pieces => rfl

/-- There is no separator in a piece. -/
theorem not_mem_of_mem_splitAtSeparator {cs piece : List Char} (h : piece ∈ splitAtSeparator cs) :
    pathSeparator ∉ piece := by
  induction cs generalizing piece with
  | nil =>
    rw [List.mem_singleton.mp h]
    exact List.not_mem_nil
  | cons c cs ih =>
    rw [splitAtSeparator] at h
    split at h
    · rcases List.mem_cons.mp h with rfl | h
      · exact List.not_mem_nil
      · exact ih h
    · rename_i hc
      split at h
      · rename_i first pieces hpieces
        rw [hpieces] at ih
        rcases List.mem_cons.mp h with rfl | h
        · rw [List.mem_cons, not_or]
          exact ⟨Ne.symm hc, ih List.mem_cons_self⟩
        · exact ih (List.mem_cons_of_mem _ h)
      · rw [List.mem_singleton.mp h, List.mem_singleton]
        exact Ne.symm hc

/-- The segments are the parts between the dots. -/
theorem intercalate_pathSegments (path : String) : ".".intercalate (pathSegments path) = path := by
  have htexts : (pathSegments path).map String.toList = path.toList.splitOn pathSeparator := by
    rw [pathSegments, List.map_map, ← splitAtSeparator_eq]
    exact (List.map_congr_left fun cs _ => String.toList_ofList).trans (List.map_id _)
  apply String.toList_inj.mp
  rw [String.toList_intercalate, htexts]
  exact List.intercalate_splitOn pathSeparator

/-- There is no dot in a segment. -/
theorem not_mem_pathSegment {path segment : String} (h : segment ∈ pathSegments path) :
    '.' ∉ segment.toList := by
  obtain ⟨piece, hpiece, rfl⟩ := List.mem_map.mp h
  rw [String.toList_ofList]
  exact not_mem_of_mem_splitAtSeparator hpiece

/-- A path with a dot has two segments at least. -/
theorem pathSegments_of_dotted {path : String} (h : '.' ∈ path.toList) :
    ∃ name next rest, pathSegments path = name :: next :: rest := by
  have hjoin := intercalate_pathSegments path
  match hsegments : pathSegments path with
  | [] =>
    rw [hsegments] at hjoin
    rw [← hjoin] at h
    simp at h
  | [segment] =>
    rw [hsegments, String.intercalate_singleton] at hjoin
    rw [← hjoin] at h
    exact absurd h (not_mem_pathSegment (hsegments ▸ List.mem_singleton_self segment))
  | name :: next :: rest => exact ⟨name, next, rest, rfl⟩

namespace Value

variable {name : String} {segments rest : List String} {fields : List (String × Value)}
  {items : List Value} {v : Value}

/-! ### Leaves -/

/-- The values that segments lead to, in order: through a document by the name of a field, and
through an array into all its elements, with the same segments. -/
def leaves (segments : List String) (v : Value) : List Value :=
  match segments, v with
  | [], v => [v]
  | name :: rest, .document fields => ((SortedEntries.get? name fields).map (leaves rest)).getD []
  | name :: rest, .array items => items.flatMap (leaves (name :: rest))
  | _ :: _, _ => []
termination_by (segments.length, sizeOf v)

/-- Whether there is an array before the segments end. -/
def crosses (segments : List String) (v : Value) : Bool :=
  match segments, v with
  | _ :: _, .array _ => true
  | name :: rest, .document fields => (SortedEntries.get? name fields).any (crosses rest)
  | _, _ => false

/-- What has been collected, as one array, unless there is nothing. -/
def gathered : List Value → Option Value
  | [] => none
  | found => some (.array found)

/-! ### Lookups -/

/-- In a document, the field of the first segment is followed with the others. -/
theorem resolve_document (name : String) (rest : List String) (fields : List (String × Value)) :
    resolve (name :: rest) (.document fields)
      = (SortedEntries.get? name fields).bind (resolve rest) := by
  rw [resolve]
  induction fields with
  | nil => rfl
  | cons field fields ih =>
    rw [resolveField, SortedEntries.get?]
    split
    · rfl
    · exact ih

/-- In an array, all that its elements lead to is collected. -/
theorem resolveEach_eq (segments : List String) (items : List Value) :
    resolveEach segments items = items.flatMap fun v => collected (resolve segments v) := by
  induction items with
  | nil => rfl
  | cons v items ih => rw [resolveEach, ih, List.flatMap_cons]

/-- A segment that is no position is followed in every element of an array. -/
theorem resolve_array (h : positionOf? name = none) (rest : List String) (items : List Value) :
    resolve (name :: rest) (.array items)
      = gathered (items.flatMap fun v => collected (resolve (name :: rest) v)) := by
  rw [resolve, h, ← resolveEach_eq]
  rfl

/-- What has been gathered is collected as it was. -/
theorem collected_gathered (found : List Value) : collected (gathered found) = found := by
  cases found <;> rfl

/-- What is collected of a value is its elements. -/
theorem collected_some (v : Value) : collected (some v) = v.elements := by
  cases v <;> rfl

/-- What a value contributes to a collection are the elements of its leaves. -/
theorem collected_resolve (hnames : ∀ s ∈ segments, positionOf? s = none) (v : Value) :
    collected (resolve segments v) = (leaves segments v).flatMap elements := by
  induction segments, v using leaves.induct with
  | case1 v => rw [leaves, List.flatMap_singleton, resolve, collected_some]
  | case2 name rest fields ih =>
    rw [resolve_document, leaves]
    cases SortedEntries.get? name fields with
    | none => rfl
    | some v => exact ih v fun s hs => hnames s (List.mem_cons_of_mem _ hs)
  | case3 name rest items ih =>
    -- the array that is collected here is taken apart where it is collected again
    rw [resolve_array (hnames name List.mem_cons_self), collected_gathered, leaves,
      List.flatMap_assoc]
    exact List.flatMap_congr fun v hv => ih v hv hnames
  | case4 v name rest hdocument harray =>
    -- nothing is found below a value of any other kind
    rw [leaves, resolve]
    · rfl
    all_goals assumption

/-- Without an array on the way there is one leaf at most, and it is what the lookup finds. -/
theorem resolve_of_not_crosses (h : crosses segments v = false) :
    (leaves segments v = [] ∧ resolve segments v = none) ∨
      ∃ leaf, leaves segments v = [leaf] ∧ resolve segments v = some leaf := by
  induction segments generalizing v with
  | nil => exact Or.inr ⟨v, by rw [leaves], by rw [resolve]⟩
  | cons name rest ih =>
    cases v with
    | array items => cases h
    | document fields =>
      rw [crosses] at h
      rw [leaves, resolve_document]
      cases hget : SortedEntries.get? name fields with
      | none => exact Or.inl ⟨rfl, rfl⟩
      | some v =>
        rw [hget] at h
        exact ih h
    | _ => exact Or.inl ⟨by simp [leaves], rfl⟩

/-- An array on the way from a document is on the way from one of its fields. -/
theorem resolve_document_of_crosses
    (hfield : ∀ v, crosses rest v = true →
      resolve rest v = gathered ((leaves rest v).flatMap elements))
    (h : crosses (name :: rest) (.document fields) = true) :
    resolve (name :: rest) (.document fields)
      = gathered ((leaves (name :: rest) (.document fields)).flatMap elements) := by
  rw [crosses] at h
  rw [leaves, resolve_document]
  cases hget : SortedEntries.get? name fields with
  | none =>
    rw [hget] at h
    cases h
  | some v =>
    rw [hget] at h
    exact hfield v h

/-- With an array on the way the lookup finds the elements of all leaves in one array. -/
theorem resolve_of_crosses (hnames : ∀ s ∈ segments, positionOf? s = none)
    (h : crosses segments v = true) :
    resolve segments v = gathered ((leaves segments v).flatMap elements) := by
  induction segments generalizing v with
  | nil => cases h
  | cons name rest ih =>
    cases v with
    | array items =>
      rw [← collected_resolve hnames, resolve_array (hnames name List.mem_cons_self),
        collected_gathered]
    | document fields =>
      exact resolve_document_of_crosses
        (fun v => ih fun s hs => hnames s (List.mem_cons_of_mem _ hs)) h
    | _ => cases h

end Value

namespace Document

/-- A dotted path that is no name of a field at the top leads into the field that its first segment
names. -/
theorem getPath?_of_dotted {d : Document} {path : String} {name next : String} {rest : List String}
    (htop : d.get? path = none) (hsegments : pathSegments path = name :: next :: rest) :
    d.getPath? path = Value.resolve (name :: next :: rest) (.document d.fields) := by
  rw [getPath?, htop, hsegments, Value.resolve_document]
  rfl

/-- The values that a path leads to. -/
def leaves (d : Document) (path : String) : List Value :=
  Value.leaves (pathSegments path) (.document d.fields)

/-- Whether there is an array on the way along a path. -/
def crosses (d : Document) (path : String) : Bool :=
  Value.crosses (pathSegments path) (.document d.fields)

/-- What is found at a dotted path that is no name of a field at the top, when none of its segments
after the first is a position. The segments are the parts between the dots, and the leaves are the
values that they lead to, through documents by name and through arrays into all elements. Without an
array on the way the one leaf is found, if there is one. With an array, the elements of all leaves
are found as one array, unless there are none. -/
theorem getPath?_eq_leaves (d : Document) {path : String} (hdotted : '.' ∈ path.toList)
    (htop : d.get? path = none) (hnames : ∀ s ∈ (pathSegments path).tail, positionOf? s = none) :
    (".".intercalate (pathSegments path) = path ∧ ∀ s ∈ pathSegments path, '.' ∉ s.toList) ∧
    (d.crosses path = false →
      (d.leaves path = [] ∧ d.getPath? path = none) ∨
        ∃ leaf, d.leaves path = [leaf] ∧ d.getPath? path = some leaf) ∧
    (d.crosses path = true →
      ((d.leaves path).flatMap Value.elements = [] ∧ d.getPath? path = none) ∨
        ((d.leaves path).flatMap Value.elements ≠ [] ∧
          d.getPath? path = some (.array ((d.leaves path).flatMap Value.elements)))) := by
  refine ⟨⟨intercalate_pathSegments path, fun s hs => not_mem_pathSegment hs⟩, ?_⟩
  obtain ⟨name, next, rest, hsegments⟩ := pathSegments_of_dotted hdotted
  rw [hsegments, List.tail_cons] at hnames
  rw [crosses, leaves, hsegments, getPath?_of_dotted htop hsegments]
  refine ⟨Value.resolve_of_not_crosses, fun hcrosses => ?_⟩
  rw [Value.resolve_document_of_crosses (fun v => Value.resolve_of_crosses hnames) hcrosses]
  cases (Value.leaves (name :: next :: rest) (.document d.fields)).flatMap Value.elements with
  | nil => exact Or.inl ⟨rfl, rfl⟩
  | cons found others => exact Or.inr ⟨List.cons_ne_nil _ _, rfl⟩

/-- A document with fields of one name in an array, in an array within it and in a field beside
it. -/
def nestedOrders : Document :=
  ⟨[("first", .document [("sku", .string "x0")]),
    ("orders", .array [
      .document [("sku", .array [.string "x1", .array [.string "x2"]])],
      .array [.document [("sku", .array [])], .document [("sku", .string "x3")]],
      .string "x4"])]⟩

/-- The leaves in the two arrays are an array, an empty one and a text, of which the elements are
found. -/
theorem getPath?_eq_leaves_nested :
    nestedOrders.getPath? "orders.sku"
        = some (.array [.string "x1", .array [.string "x2"], .string "x3"]) ∧
      nestedOrders.getPath? "first.sku" = some (.string "x0") := by
  have horders : nestedOrders.leaves "orders.sku"
      = [.array [.string "x1", .array [.string "x2"]], .array [], .string "x3"] := by
    cbv
  have hfirst : nestedOrders.leaves "first.sku" = [.string "x0"] := by cbv
  obtain ⟨-, -, hcrosses⟩ := getPath?_eq_leaves nestedOrders (by decide : '.' ∈ "orders.sku".toList)
    rfl (by decide)
  obtain ⟨-, hsingle, -⟩ := getPath?_eq_leaves nestedOrders (by decide : '.' ∈ "first.sku".toList)
    rfl (by decide)
  rw [horders] at hcrosses
  rw [hfirst] at hsingle
  constructor
  · rcases hcrosses rfl with ⟨hnone, -⟩ | ⟨-, hfound⟩
    · cases hnone
    · exact hfound
  · rcases hsingle rfl with ⟨hnone, -⟩ | ⟨leaf, hleaf, hfound⟩
    · cases hnone
    · cases hleaf
      exact hfound

end Document

end DocumentDb
