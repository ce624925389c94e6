import DocumentDb.Index.Handle
import DocumentDb.Proofs.Index.Entries
import DocumentDb.Proofs.Store

/-!
# `DocumentDb.Proofs.Index.Handle`: handles and the contents they lead to

A handle leads to one map of the store, and the map holds the content of the index
(`IndexHandle.Holds`). Writing, erasing and clearing through the handle do to the store what the
same change does to the content alone: the content is replaced (`IndexHandle.withContent`), and
nothing else in the store changes.

`Holds.perform_change` is the one place where this is shown. A record without keys or tokens is left
out of the store before the map is even read, which comes to the same because the changes do nothing
on no keys.
-/

set_option autoImplicit false

namespace DocumentDb

namespace IndexHandle

/-- Changes an index through its handle where the values of a record belong. An index without
such places is left alone. -/
def change (x : IndexHandle) (vs : FieldValues)
    (onKeys : List Key → List Key → Action Level Unit)
    (onTokens : List String → FullText.Postings → FullText.Postings) : StoreM Unit :=
  match x.backing with
  | .ordered map => do
    let (keys, path) ← Action.ofResult (OrderedIndex.paths x.descriptor vs)
    if !keys.isEmpty then map.onEntries (onKeys keys path)
  | .fullText map tokenizer => do
    let ts ← Action.ofResult (FullText.tokens tokenizer x.descriptor.fields.first vs.firstValue)
    if !ts.isEmpty then map.setEntries (onTokens ts)

/-- Writing entries is a change that adds them. -/
theorem write_eq_change (x : IndexHandle) (vs : FieldValues) :
    x.write vs = x.change vs (OrderedIndex.writeKeys x.descriptor vs.id)
      (FullText.addTokens vs.id) := by
  unfold write change
  cases x.backing <;> rfl

/-- Erasing entries is a change that takes them out. -/
theorem erase_eq_change (x : IndexHandle) (vs : FieldValues) :
    x.erase vs = x.change vs (OrderedIndex.eraseKeys x.descriptor vs.id)
      (FullText.dropTokens vs.id) := by
  unfold erase change
  cases x.backing <;> rfl

/-- The content that a handle leads to. A full-text index has its tokenizer in the handle. -/
inductive Holds (tokenizer : Text.Tokenizer) (s : Store) : IndexHandle → Content → Prop
  | ordered {d : IndexDescriptor} {mapName : String} {map : MapRef Key} {level : Level}
      (read : (s.map map).read = .ok level) :
      Holds tokenizer s ⟨d, mapName, .ordered map⟩ (.ordered level)
  | fullText {d : IndexDescriptor} {mapName : String} {map : MapRef String}
      {postings : FullText.Postings} (read : (s.map map).read = .ok postings) :
      Holds tokenizer s ⟨d, mapName, .fullText map tokenizer⟩ (.fullText postings)

/-- The store with another content for an index. -/
def withContent (x : IndexHandle) (s : Store) (c : Content) : Store :=
  match x.backing, c with
  | .ordered map, .ordered level => s.setEntries map level
  | .fullText map _, .fullText postings => s.setEntries map postings
  | _, _ => s

variable {tokenizer : Text.Tokenizer} {s : Store} {x : IndexHandle} {c c' : Content}

namespace Holds

/-- Replacing the content by itself changes nothing. -/
theorem withContent_self (h : x.Holds tokenizer s c) : x.withContent s c = s := by
  cases h with
  | ordered hread => exact Store.setEntries_self hread
  | fullText hread => exact Store.setEntries_self hread

/-- After a content of the same kind has been put in place, the handle leads to it. -/
theorem withContent (h : x.Holds tokenizer s c) (hkind : c'.isFullText = c.isFullText) :
    x.Holds tokenizer (x.withContent s c') c' := by
  cases h with
  | ordered hread =>
    cases c' with
    | ordered level' => exact .ordered (Store.read_setEntries hread level')
    | fullText postings' => cases hkind
  | fullText hread =>
    cases c' with
    | ordered level' => cases hkind
    | fullText postings' => exact .fullText (Store.read_setEntries hread postings')

/-- A content that was replaced can be put back. -/
theorem withContent_withContent (h : x.Holds tokenizer s c) (c' : Content) :
    x.withContent (x.withContent s c') c = s := by
  refine Eq.trans ?_ h.withContent_self
  cases h with
  | ordered hread =>
    cases c' with
    | ordered level' => exact Store.setEntries_setEntries s _ level' _
    | fullText postings' => rfl
  | fullText hread =>
    cases c' with
    | ordered level' => rfl
    | fullText postings' => exact Store.setEntries_setEntries s _ postings' _

/-- A change through a handle is the change of the content that it leads to. -/
theorem perform_change (h : x.Holds tokenizer s c) (vs : FieldValues)
    {onKeys : List Key → List Key → Action Level Unit}
    {onTokens : List String → FullText.Postings → FullText.Postings}
    (hkeys : ∀ path level, (onKeys [] path).perform level = (.ok (), level))
    (htokens : ∀ postings, onTokens [] postings = postings) :
    (x.change vs onKeys onTokens).perform s
      = (((Content.change tokenizer x.descriptor vs onKeys onTokens).perform c).1,
          x.withContent s
            ((Content.change tokenizer x.descriptor vs onKeys onTokens).perform c).2) := by
  have hself := h.withContent_self
  cases h with
  | @ordered d mapName map level hread =>
    rw [Content.perform_change_ordered]
    simp only [change, Action.perform_bind, Action.perform_ofResult]
    cases hpaths : OrderedIndex.paths d vs with
    | error e => exact congrArg (Prod.mk _) hself.symm
    | ok kp =>
      obtain ⟨keys, path⟩ := kp
      -- without keys the map is not read, and the content would stay as it is
      cases keys with
      | nil =>
        dsimp only
        rw [hkeys, hself]
        rfl
      | cons k keys => exact MapRef.perform_onEntries_of_read hread (onKeys (k :: keys) path)
  | @fullText d mapName map postings hread =>
    rw [Content.perform_change_fullText]
    simp only [change, Action.perform_bind, Action.perform_ofResult]
    cases hts : FullText.tokens tokenizer d.fields.first vs.firstValue with
    | error e => exact congrArg (Prod.mk _) hself.symm
    | ok ts =>
      cases ts with
      | nil =>
        dsimp only
        rw [htokens, hself]
        rfl
      | cons t ts => exact MapRef.perform_setEntries_of_read hread (onTokens (t :: ts))

/-- Writing through a handle writes to the content. -/
theorem perform_write (h : x.Holds tokenizer s c) (vs : FieldValues) :
    (x.write vs).perform s
      = (((Content.write tokenizer x.descriptor vs).perform c).1,
          x.withContent s ((Content.write tokenizer x.descriptor vs).perform c).2) := by
  rw [write_eq_change]
  refine h.perform_change vs (fun path level => ?_) fun _ => rfl
  unfold OrderedIndex.writeKeys Compound.write SingleField.write
  cases x.descriptor.isCompound <;> cases x.descriptor.isUnique <;> rfl

/-- Erasing through a handle erases from the content. -/
theorem perform_erase (h : x.Holds tokenizer s c) (vs : FieldValues) :
    (x.erase vs).perform s
      = (((Content.erase tokenizer x.descriptor vs).perform c).1,
          x.withContent s ((Content.erase tokenizer x.descriptor vs).perform c).2) := by
  rw [erase_eq_change]
  refine h.perform_change vs (fun path level => ?_) fun _ => rfl
  unfold OrderedIndex.eraseKeys
  cases x.descriptor.isCompound <;> rfl

/-- Clearing through a handle empties the content. -/
theorem perform_clear (h : x.Holds tokenizer s c) :
    x.clear.perform s = (.ok (), x.withContent s c.cleared) := by
  cases h with
  | ordered hread => exact MapRef.perform_setEntries_of_read hread fun _ => []
  | fullText hread => exact MapRef.perform_setEntries_of_read hread fun _ => []

end Holds

/-- A handle that is opened under a free name leads to an empty content. -/
theorem exists_openMap (d : IndexDescriptor) {mapName : String} (tokenizer : Text.Tokenizer)
    (hfree : s.hasMap mapName = false) :
    ∃ x s', (openMap d mapName tokenizer).perform s = (.ok x, s') ∧ x.descriptor = d ∧
      x.Holds tokenizer s' (Content.empty d) := by
  obtain ⟨-, -, hindexes, htexts⟩ := Store.hasMap_eq_false_iff.mp hfree
  unfold openMap Content.empty
  cases hkind : d.isFullText with
  | true =>
    obtain ⟨r, s', hopen, hread⟩ := Store.exists_openMap_new (K := String) htexts hfree
    refine ⟨⟨d, mapName, .fullText r tokenizer⟩, s', ?_, rfl, .fullText hread⟩
    simp only [if_true, Action.perform_bind, hopen, Action.perform_pure]
  | false =>
    obtain ⟨r, s', hopen, hread⟩ := Store.exists_openMap_new (K := Key) hindexes hfree
    refine ⟨⟨d, mapName, .ordered r⟩, s', ?_, rfl, .ordered hread⟩
    simp only [Bool.false_eq_true, if_false, Action.perform_bind, hopen, Action.perform_pure]

end IndexHandle

end DocumentDb
