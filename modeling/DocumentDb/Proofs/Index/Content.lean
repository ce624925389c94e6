import DocumentDb.Index.Descriptor
import DocumentDb.Index.FullText
import DocumentDb.Proofs.Index.Tree

/-!
# `DocumentDb.Proofs.Index.Content`: what an index holds

An index holds record ids at places: at key paths if it is ordered, at tokens if it is a
full-text index. `Content.idsAt` reads the ids at a place for both kinds.

* `Content.WellFormed` is what every index keeps up, whatever its flags say.
* `Content.Adds` and `Content.Drops` say that one content is another with an id added, or
  taken away, at some places and nowhere else. Both compose over a list of places, so each
  kind of index owes the statement about a single place only.
* `Content.Free` says that no other id stands at some places. A unique index asks for it.
-/

set_option autoImplicit false

namespace DocumentDb

open SortedEntries (Sorted)

/-! ### Places -/

/-- Where an index can hold record ids. -/
inductive Place
  | path (keys : List Key)
  | token (text : String)

namespace Place

/-- Whether two places are one place of an index. -/
def same : Place → Place → Bool
  | .path p, .path q => samePath p q
  | .token t, .token u => t == u
  | _, _ => false

/-- A place is the same as itself. -/
@[simp] theorem same_refl (p : Place) : p.same p = true := by
  cases p with
  | path p => exact samePath_refl p
  | token t => exact beq_self_eq_true t

/-- Sameness of places goes both ways. -/
theorem same_symm {p q : Place} (h : p.same q = true) : q.same p = true := by
  cases p <;> cases q
  case path.path p q => exact samePath_symm (p := p) h
  case token.token t u =>
    have htu : t = u := beq_iff_eq.mp h
    exact beq_iff_eq.mpr htu.symm
  all_goals cases h

/-- Places that are the same as one place are the same. -/
theorem same_trans {p q r : Place} (hpq : p.same q = true) (hqr : q.same r = true) :
    p.same r = true := by
  cases p <;> cases q <;> cases r
  case path.path.path p q r => exact samePath_trans (p := p) hpq hqr
  case token.token.token t u v =>
    have htu : t = u := beq_iff_eq.mp hpq
    exact htu ▸ hqr
  all_goals first | cases hpq | cases hqr

/-- Whether a place is among some places. -/
def among (p : Place) (ps : List Place) : Bool := ps.any p.same

/-- A place in a list is among the places of the list. -/
theorem among_of_mem {p : Place} {ps : List Place} (h : p ∈ ps) : p.among ps = true :=
  List.any_eq_true.mpr ⟨p, h, p.same_refl⟩

end Place

/-! ### Contents -/

/-- What the backing map of an index holds. -/
inductive Content
  | ordered (level : Level)
  | fullText (postings : FullText.Postings)

namespace Content

/-- The record ids at a place. -/
def idsAt (p : Place) (c : Content) : List RecordId :=
  match p, c with
  | .path p, .ordered level => Node.idsAt p (.inner level)
  | .token t, .fullText postings => (SortedEntries.get? t postings).getD []
  | _, _ => []

/-- Whether a content is that of a full-text index. -/
def isFullText : Content → Bool
  | .ordered _ => false
  | .fullText _ => true

/-- What every index keeps up. In an ordered index the levels ascend, no level and no
posting list is empty, no id stands twice in a posting list, and one id at most stands in
a posting list of a unique index. In a full-text index the tokens ascend, and no posting
list is empty or holds an id twice. -/
def WellFormed (d : IndexDescriptor) : Content → Prop
  | .ordered level =>
    d.isFullText = false ∧
      (Node.inner level).Shaped d.isUnique (d.fields.fields.tail.length + 1)
  | .fullText postings =>
    d.isFullText = true ∧ Sorted postings ∧ ∀ e ∈ postings, e.2 ≠ [] ∧ e.2.Nodup

/-- The content of a new index. -/
def empty (d : IndexDescriptor) : Content := if d.isFullText then .fullText [] else .ordered []

/-- The content after the backing map has been emptied. -/
def cleared : Content → Content
  | .ordered _ => .ordered []
  | .fullText _ => .fullText []

/-! ### Reading -/

/-- Places that are the same have the same ids. -/
theorem idsAt_congr {p q : Place} (h : p.same q = true) (c : Content) :
    c.idsAt p = c.idsAt q := by
  cases p <;> cases q
  case path.path p q =>
    cases c with
    | ordered level => exact Node.idsAt_congr h _
    | fullText postings => rfl
  case token.token t u =>
    have htu : t = u := beq_iff_eq.mp h
    rw [htu]
  all_goals cases h

/-- There are no ids in an empty content. -/
@[simp] theorem idsAt_empty (p : Place) (d : IndexDescriptor) : (empty d).idsAt p = [] := by
  unfold empty
  split <;> cases p <;> simp [idsAt]

/-- An empty content is well formed for its index. -/
theorem wellFormed_empty (d : IndexDescriptor) : (empty d).WellFormed d := by
  unfold empty
  split
  · rename_i h
    exact ⟨h, SortedEntries.sorted_nil, by simp⟩
  · rename_i h
    exact ⟨Bool.eq_false_iff.mpr h, Node.shaped_inner_nil⟩

variable {d : IndexDescriptor} {c c' : Content}

/-- The content of an index is of the kind that the index is. -/
theorem WellFormed.isFullText_eq (h : c.WellFormed d) : c.isFullText = d.isFullText := by
  cases c with
  | ordered level => exact h.1.symm
  | fullText postings => exact h.1.symm

/-- Clearing keeps the kind of a content. -/
theorem isFullText_cleared (c : Content) : c.cleared.isFullText = c.isFullText := by
  cases c <;> rfl

/-- A content that is cleared is the empty one of its index. -/
theorem WellFormed.cleared_eq (h : c.WellFormed d) : c.cleared = empty d := by
  cases c with
  | ordered level => simp [cleared, empty, h.1]
  | fullText postings => simp [cleared, empty, h.1]

/-- No id stands twice at a place, and a unique index has one id at most at a place. -/
theorem WellFormed.idsAt_nodup (h : c.WellFormed d) (p : Place) :
    (c.idsAt p).Nodup ∧ (d.isUnique = true → (c.idsAt p).length ≤ 1) := by
  cases p <;> cases c
  case path.ordered p level => exact h.2.idsAt_nodup p
  case token.fullText t postings =>
    have hkind : d.isUnique = false := by
      have hk : d.kind = .fullText := beq_iff_eq.mp h.1
      rw [IndexDescriptor.isUnique, hk]
      rfl
    rw [idsAt]
    refine ⟨?_, by simp [hkind]⟩
    cases ht : SortedEntries.get? t postings with
    | none => exact List.nodup_nil
    | some ids =>
      obtain ⟨t', hmem, -⟩ := SortedEntries.exists_mem_of_get?_eq_some ht
      exact (h.2.2 _ hmem).2
  all_goals simp [idsAt]

/-! ### Changes at places -/

/-- The second content is the first with an id added at some places. -/
def Adds (id : RecordId) (ps : List Place) (c c' : Content) : Prop :=
  ∀ q, c'.idsAt q = if q.among ps then addId id (c.idsAt q) else c.idsAt q

/-- The second content is the first without an id at some places. -/
def Drops (id : RecordId) (ps : List Place) (c c' : Content) : Prop :=
  ∀ q, c'.idsAt q = if q.among ps then dropId id (c.idsAt q) else c.idsAt q

/-- No id but the given one stands at the places. -/
def Free (id : RecordId) (ps : List Place) (c : Content) : Prop :=
  ∀ p ∈ ps, ∀ x ∈ c.idsAt p, x = id

variable {id : RecordId} {ps : List Place} {p : Place} {c₁ : Content}

/-- Places are free if the first of them is and the rest are. -/
theorem free_cons : Free id (p :: ps) c ↔ Free id [p] c ∧ Free id ps c := by
  simp [Free]

/-- Adding an id at no place changes nothing. -/
theorem adds_nil : Adds id [] c c := fun q => by simp [Place.among]

/-- Nor does dropping it at none. -/
theorem drops_nil : Drops id [] c c := fun q => by simp [Place.among]

/-- An id can be added at one place after the other, though the places may be the same. -/
theorem Adds.cons (h₁ : Adds id [p] c c₁) (h : Adds id ps c₁ c') : Adds id (p :: ps) c c' := by
  intro q
  rw [h q, h₁ q]
  have hid : ∀ ids, addId id (addId id ids) = addId id ids := fun ids =>
    addId_of_mem (mem_addId.mpr (Or.inl rfl))
  cases hp : q.same p <;> cases hps : q.among ps <;> simp_all [Place.among]

/-- So it can be dropped. -/
theorem Drops.cons (h₁ : Drops id [p] c c₁) (h : Drops id ps c₁ c') :
    Drops id (p :: ps) c c' := by
  intro q
  rw [h q, h₁ q]
  have hid : ∀ ids, dropId id (dropId id ids) = dropId id ids := fun ids => by
    simp [dropId, List.filter_filter]
  cases hp : q.same p <;> cases hps : q.among ps <;> simp_all [Place.among]

/-- After an addition at some places the id is there, and the others are where they were. -/
theorem Adds.mem_iff (h : Adds id ps c c') {q : Place} {x : RecordId} :
    x ∈ c'.idsAt q ↔ x ∈ c.idsAt q ∨ (x = id ∧ q.among ps = true) := by
  rw [h q]
  split
  · rename_i hq
    rw [mem_addId, or_comm]
    simp [hq]
  · rename_i hq
    simp [hq]

/-- After a drop at some places the id is not there, and the others are where they were. -/
theorem Drops.mem_iff (h : Drops id ps c c') {q : Place} {x : RecordId} :
    x ∈ c'.idsAt q ↔ x ∈ c.idsAt q ∧ ¬(x = id ∧ q.among ps = true) := by
  rw [h q]
  split
  · rename_i hq
    simp [hq]
  · rename_i hq
    simp [hq]

/-- Adding an id leaves places free for this id. -/
theorem Adds.free (h : Adds id [p] c c₁) (hfree : Free id ps c) : Free id ps c₁ := by
  intro q hq x hx
  rcases h.mem_iff.mp hx with hx | hx
  · exact hfree q hq x hx
  · exact hx.1

end Content

end DocumentDb
