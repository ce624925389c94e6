import DocumentDb.Proofs.Result
import DocumentDb.Proofs.SortedEntries
import DocumentDb.Index.Key
import DocumentDb.Stream.Projection

/-!
# `DocumentDb.Proofs.Query.Projection`: projections only remove

A projection reduces a document field by field, and goes into a field where both hold documents. At
every depth the outcome is fixed by one equation, `get?_projectFields`: under each name there is
what the projection's value leaves of the document's value, if both have the name.

Documents are maps by name, at every depth. `Value.Ordered` says so of the lists that stand for
them, and the proofs go by induction on it: the fields of two maps are the same when their lookups
are (`SortedEntries.Sorted.ext`), and an inner document is one of the fields.

* `Projection.check_eq_ok_iff` and `Projection.check_eq_error` say which documents are projections,
  and which value a refusal is about.
* `Projection.projection_removes_and_composes` is the main result.
-/

set_option autoImplicit false

namespace DocumentDb

open SortedEntries (get? Sorted)

/-! ### Documents as maps -/

/-- Values in which the fields of documents are sorted by name, at every depth. -/
inductive Value.Ordered : Value → Prop
  | key {v : Value} (h : v.isKey = true) : Ordered v
  | array {items : List Value} (h : ∀ v ∈ items, Ordered v) : Ordered (.array items)
  | document {fields : List (String × Value)} (hsorted : Sorted fields)
      (h : ∀ e ∈ fields, Ordered e.2) : Ordered (.document fields)

namespace Document

/-- A document is a map when its fields are sorted by name, at every depth. -/
def Ordered (d : Document) : Prop := d.toValue.Ordered

variable {d : Document}

/-- A document is determined by its value. -/
theorem toValue_injective : Function.Injective toValue := by
  rintro ⟨fields⟩ ⟨fields'⟩ h
  cases h
  rfl

/-- A document is a map if its fields ascend and their values are maps. -/
theorem ordered_iff : d.Ordered ↔ Sorted d.fields ∧ ∀ e ∈ d.fields, e.2.Ordered := by
  constructor
  · intro h
    cases h with
    | key h => cases h
    | document hsorted h => exact ⟨hsorted, h⟩
  · rintro ⟨hsorted, h⟩
    exact .document hsorted h

/-- The empty document is a map. -/
theorem ordered_empty : empty.Ordered :=
  .document SortedEntries.sorted_nil fun _ he => absurd he List.not_mem_nil

/-- Setting a field keeps a document a map. -/
theorem Ordered.put (h : d.Ordered) (name : String) {v : Value} (hv : v.Ordered) :
    (d.put name v).Ordered := by
  obtain ⟨hsorted, hfields⟩ := ordered_iff.mp h
  refine ordered_iff.mpr ⟨hsorted.insert, ?_⟩
  intro e he
  rcases hsorted.mem_insert_iff.mp he with rfl | ⟨he, -⟩
  · exact hv
  · exact hfields e he

/-- Whatever fields are given, they make up a map. -/
theorem ordered_ofFields {fields : List (String × Value)} (h : ∀ field ∈ fields, field.2.Ordered) :
    (ofFields fields).Ordered := by
  have hfold : ∀ start : Document, start.Ordered →
      (fields.foldl (fun d field => d.put field.1 field.2) start).Ordered := by
    induction fields with
    | nil => exact fun start hstart => hstart
    | cons field rest ih =>
      rw [List.forall_mem_cons] at h
      exact fun start hstart => ih h.2 _ (hstart.put field.1 h.1)
  exact hfold empty ordered_empty

/-- Removing a field keeps a document a map. -/
theorem Ordered.erase (h : d.Ordered) (name : String) : (d.erase name).Ordered := by
  obtain ⟨hsorted, hfields⟩ := ordered_iff.mp h
  refine ordered_iff.mpr ⟨hsorted.erase, ?_⟩
  intro e he
  exact hfields e (hsorted.mem_erase_iff.mp he).1

end Document

namespace Projection

/-! ### Which documents are projections -/

/-- Values that hold nothing but null and documents, at every depth. -/
inductive IsProjection : Value → Prop
  | null : IsProjection .null
  | document {fields : List (String × Value)} (h : ∀ e ∈ fields, IsProjection e.2) :
      IsProjection (.document fields)

mutual

/-- The values that pass the check are those that hold nothing but null and documents. -/
theorem checkValue_eq_ok_iff (path : String) (v : Value) :
    checkValue path v = .ok () ↔ IsProjection v := by
  cases v with
  | null => exact iff_of_true rfl .null
  | document fields =>
    rw [checkValue, checkFields_eq_ok_iff]
    constructor
    · exact .document
    · rintro ⟨⟩
      assumption
  | _ => exact iff_of_false nofun nofun

/-- Fields pass the check if all their values do. -/
theorem checkFields_eq_ok_iff (outer : String) (fields : List (String × Value)) :
    checkFields outer fields = .ok () ↔ ∀ e ∈ fields, IsProjection e.2 := by
  cases fields with
  | nil => exact iff_of_true rfl (List.forall_mem_nil _)
  | cons field rest =>
    rw [checkFields, Result.bind_eq_ok_iff, List.forall_mem_cons,
      ← checkFields_eq_ok_iff outer rest,
      ← checkValue_eq_ok_iff (outer ++ field.1) field.2]
    exact ⟨fun ⟨(), h⟩ => h, fun h => ⟨(), h⟩⟩

end

/-- The documents that pass the check are those that hold nothing but null and documents. -/
theorem check_eq_ok_iff (p : Document) : check p = .ok () ↔ IsProjection p.toValue := by
  rw [check, checkFields_eq_ok_iff, Document.toValue]
  constructor
  · exact .document
  · rintro ⟨⟩
    assumption

/-- The value that names lead to, one document in the other. -/
inductive Leads : Value → List String → Value → Prop
  | here {v : Value} : Leads v [] v
  | field {fields : List (String × Value)} {name : String} {v w : Value} {names : List String}
      (hmem : (name, v) ∈ fields) (h : Leads v names w) : Leads (.document fields) (name :: names) w

/-- Whether an error refuses a value below the one at `path`. -/
def Refuses (path : String) (v : Value) (e : Error) : Prop :=
  ∃ names w, Leads v names w ∧ w.isNull = false ∧ w.isDocument = false ∧
    e = .badProjection (".".intercalate (path :: names)) w.typeName

mutual

/-- A value that does not pass the check is refused at the path of the error. -/
theorem checkValue_eq_error {path : String} {v : Value} {e : Error}
    (h : checkValue path v = .error e) : Refuses path v e := by
  cases v with
  | null => cases h
  | document fields =>
    rw [checkValue] at h
    obtain ⟨name, v, hmem, names, w, hleads, hnull, hdocument, rfl⟩ := checkFields_eq_error h
    refine ⟨name :: names, w, .field hmem hleads, hnull, hdocument, ?_⟩
    rw [String.intercalate_cons_append, String.intercalate_cons_cons]
  | _ =>
    cases h
    exact ⟨[], _, .here, rfl, rfl, by rw [String.intercalate_singleton]⟩

/-- Fields that do not pass the check have one that is refused. -/
theorem checkFields_eq_error {outer : String} {fields : List (String × Value)} {e : Error}
    (h : checkFields outer fields = .error e) :
    ∃ name v, (name, v) ∈ fields ∧ Refuses (outer ++ name) v e := by
  cases fields with
  | nil => cases h
  | cons field rest =>
    obtain ⟨name, v⟩ := field
    rw [checkFields] at h
    cases hv : checkValue (outer ++ name) v with
    | error e' =>
      rw [hv] at h
      cases h
      exact ⟨name, v, List.mem_cons_self, checkValue_eq_error hv⟩
    | ok u =>
      rw [hv] at h
      have hrest : checkFields outer rest = .error e := h
      obtain ⟨name', v', hmem, hrefuses⟩ := checkFields_eq_error hrest
      exact ⟨name', v', List.mem_cons_of_mem _ hmem, hrefuses⟩

end

/-- A refusal names a value that is neither null nor a document, by the fields that lead to it. -/
theorem check_eq_error {p : Document} {e : Error} (h : check p = .error e) :
    ∃ names w, Leads p.toValue names w ∧ w.isNull = false ∧ w.isDocument = false ∧
      e = .badProjection (".".intercalate names) w.typeName := by
  obtain ⟨name, v, hmem, names, w, hleads, hnull, hdocument, rfl⟩ := checkFields_eq_error h
  exact ⟨name :: names, w, .field hmem hleads, hnull, hdocument, by rw [String.empty_append]⟩

/-! ### What a projection keeps -/

variable {specs fields : List (String × Value)} {spec v : Value}

/-- A projection that goes no further keeps a value as it is. -/
theorem projectValue_of_isKey (h : spec.isKey = true) (v : Value) : projectValue v spec = v := by
  cases spec <;> first | rfl | cases h

/-- Under each name there is what the projection leaves of the document's value, if both have
one. -/
theorem get?_projectFields (name : String) (fields specs : List (String × Value)) :
    get? name (projectFields fields specs)
      = (get? name specs).bind fun spec => (get? name fields).map (projectValue · spec) := by
  induction specs with
  | nil => rfl
  | cons field rest ih =>
    obtain ⟨name', spec⟩ := field
    rw [projectFields, SortedEntries.get?_cons]
    by_cases hname : compare name name' = .eq
    · rw [if_pos hname, SortedEntries.get?_congr hname fields]
      cases hget : get? name' fields with
      | none =>
        -- a name that the document lacks is not found further on either
        dsimp only
        rw [ih, SortedEntries.get?_congr hname fields, hget]
        simp
      | some v =>
        dsimp only
        rw [SortedEntries.get?_cons, if_pos hname]
        rfl
    · rw [if_neg hname]
      cases hget : get? name' fields with
      | none => exact ih
      | some v =>
        dsimp only
        rw [SortedEntries.get?_cons, if_neg hname, ih]

/-- A field of the projection is the projection of the field, where both documents have it. -/
theorem get?_project (name : String) (p d : Document) :
    (project p d).get? name
      = (p.get? name).bind fun spec => (d.get? name).map (projectValue · spec) :=
  get?_projectFields name d.fields p.fields

/-- What is kept stands under a name of the projection. -/
theorem mem_projectFields {e : String × Value} (h : e ∈ projectFields fields specs) :
    ∃ spec v, (e.1, spec) ∈ specs ∧ get? e.1 fields = some v ∧ e.2 = projectValue v spec := by
  induction specs with
  | nil => cases h
  | cons field rest ih =>
    obtain ⟨name, spec⟩ := field
    rw [projectFields] at h
    have hlater : e ∈ projectFields fields rest →
        ∃ spec' v, (e.1, spec') ∈ (name, spec) :: rest ∧ get? e.1 fields = some v ∧
          e.2 = projectValue v spec' := by
      intro hrest
      obtain ⟨spec', v, hmem, hget, heq⟩ := ih hrest
      exact ⟨spec', v, List.mem_cons_of_mem _ hmem, hget, heq⟩
    split at h
    · rename_i v hget
      rcases List.mem_cons.mp h with rfl | h
      · exact ⟨spec, v, List.mem_cons_self, hget, rfl⟩
      · exact hlater h
    · exact hlater h

/-- The fields that are kept are in the order of the projection. -/
theorem sorted_projectFields (h : Sorted specs) : Sorted (projectFields fields specs) := by
  induction specs with
  | nil => exact SortedEntries.sorted_nil
  | cons field rest ih =>
    obtain ⟨name, spec⟩ := field
    obtain ⟨hhead, hrest⟩ := SortedEntries.sorted_cons.mp h
    rw [projectFields]
    split
    · refine SortedEntries.sorted_cons.mpr ⟨?_, ih hrest⟩
      intro e he
      obtain ⟨spec', v, hmem, -, -⟩ := mem_projectFields he
      exact hhead (e.1, spec') hmem
    · exact ih hrest

/-- Two projected documents are the same if they are looked up alike. -/
theorem projectFields_ext {fields' specs' : List (String × Value)} (h : Sorted specs)
    (h' : Sorted specs')
    (hget : ∀ name,
      get? name (projectFields fields specs) = get? name (projectFields fields' specs')) :
    projectFields fields specs = projectFields fields' specs' :=
  (sorted_projectFields h).ext (sorted_projectFields h') hget

/-- Projecting again changes nothing. -/
theorem projectValue_projectValue (h : spec.Ordered) (v : Value) :
    projectValue (projectValue v spec) spec = projectValue v spec := by
  induction h generalizing v with
  | @key spec hkey =>
    rw [projectValue_of_isKey hkey, projectValue_of_isKey hkey]
  | array h ih => rfl
  | @document specs hsorted h ih =>
    cases v with
    | document fields =>
      rw [projectValue, projectValue, Value.document.injEq]
      refine projectFields_ext hsorted hsorted fun name => ?_
      rw [get?_projectFields, get?_projectFields]
      cases hspec : get? name specs with
      | none => rfl
      | some spec =>
        cases hfield : get? name fields with
        | none => rfl
        | some v =>
          exact congrArg some (ih (name, spec) (hsorted.get?_eq_some_iff_mem.mp hspec) v)
    | _ => rfl

/-- Two projections leave the same in either order. -/
theorem projectValue_comm {spec' : Value} (h : spec.Ordered) (h' : spec'.Ordered) (v : Value) :
    projectValue (projectValue v spec) spec' = projectValue (projectValue v spec') spec := by
  induction h generalizing v spec' with
  | @key spec hkey =>
    rw [projectValue_of_isKey hkey, projectValue_of_isKey hkey]
  | array h ih => rfl
  | @document specs hsorted h ih =>
    cases h' with
    | @key spec' hkey =>
      -- the second projection keeps the value whole, before the first one and after it
      rw [projectValue_of_isKey hkey, projectValue_of_isKey hkey]
    | array h' => rfl
    | @document specs' hsorted' h' =>
      cases v with
      | document fields =>
        rw [projectValue, projectValue, projectValue, projectValue, Value.document.injEq]
        refine projectFields_ext hsorted' hsorted fun name => ?_
        rw [get?_projectFields, get?_projectFields, get?_projectFields, get?_projectFields]
        cases hspec : get? name specs with
        | none => cases get? name specs' <;> rfl
        | some spec =>
          cases hspec' : get? name specs' with
          | none => rfl
          | some spec' =>
            cases hfield : get? name fields with
            | none => rfl
            | some v =>
              have hmem := hsorted.get?_eq_some_iff_mem.mp hspec
              have hmem' := hsorted'.get?_eq_some_iff_mem.mp hspec'
              exact congrArg some (ih (name, spec) hmem (h' (name, spec') hmem') v)
      | _ => rfl

/-- Whether a value is what a projection keeps of another: the same value, or, where the projection
and both values are documents, one whose fields are under names of both, each with what is kept of
the value there. -/
inductive Kept : (spec v w : Value) → Prop
  | whole {spec v : Value} : Kept spec v v
  | part {specs fields kept : List (String × Value)}
      (hnames : ∀ name w, get? name kept = some w →
        ∃ spec v, get? name specs = some spec ∧ get? name fields = some v)
      (hvalues : ∀ name spec v w, get? name specs = some spec → get? name fields = some v →
        get? name kept = some w → Kept spec v w) :
      Kept (.document specs) (.document fields) (.document kept)

/-- The projection of a value keeps what the projection names and nothing else. -/
theorem kept_projectValue (h : spec.Ordered) (v : Value) : Kept spec v (projectValue v spec) := by
  induction h generalizing v with
  | @key spec hkey =>
    rw [projectValue_of_isKey hkey]
    exact .whole
  | array h ih => exact .whole
  | @document specs hsorted h ih =>
    cases v with
    | document fields =>
      rw [projectValue]
      refine .part ?_ ?_
      · intro name w hw
        rw [get?_projectFields, Option.bind_eq_some_iff] at hw
        obtain ⟨spec, hspec, hw⟩ := hw
        obtain ⟨v, hv, -⟩ := Option.map_eq_some_iff.mp hw
        exact ⟨spec, v, hspec, hv⟩
      · intro name spec v w hspec hv hw
        rw [get?_projectFields, hspec, hv] at hw
        cases hw
        exact ih (name, spec) (hsorted.get?_eq_some_iff_mem.mp hspec) v
    | _ => exact .whole

/-- What is kept of a map is a map. -/
theorem ordered_projectValue (h : spec.Ordered) (hv : v.Ordered) :
    (projectValue v spec).Ordered := by
  induction h generalizing v with
  | @key spec hkey =>
    rw [projectValue_of_isKey hkey]
    exact hv
  | array h ih => exact hv
  | @document specs hsorted h ih =>
    cases hv with
    | key hkey => cases v <;> exact .key hkey
    | array h => exact .array h
    | @document fields hfields hv =>
      rw [projectValue]
      refine .document (sorted_projectFields hsorted) fun e he => ?_
      obtain ⟨spec, v, hspec, hget, heq⟩ := mem_projectFields he
      rw [heq]
      exact ih (e.1, spec) hspec (hv (e.1, v) (hfields.get?_eq_some_iff_mem.mp hget))

/-- Documents are projected as their values are. -/
theorem toValue_project (p d : Document) :
    (project p d).toValue = projectValue d.toValue p.toValue := by
  rw [Document.toValue, Document.toValue, Document.toValue, projectValue, project]

/-- **Projections only remove, and compose.** Let `p` and `q` be maps, as all documents are.
Projecting twice by `p` is projecting once, and `p` and `q` may be applied in either order. What is
left of a document is what `p` keeps of it: the fields that both have, each with the value of the
document or, where both hold documents, with what is kept of that value. A document passes the check
of projections just if it holds nothing but null and documents, at every depth. -/
theorem projection_removes_and_composes {p q : Document} (hp : p.Ordered) (hq : q.Ordered)
    (d : Document) :
    project p (project p d) = project p d ∧
    project q (project p d) = project p (project q d) ∧
    Kept p.toValue d.toValue (project p d).toValue ∧
    (∀ name, (project p d).hasField name = (p.hasField name && d.hasField name)) ∧
    (d.Ordered → (project p d).Ordered) ∧
    (check p = .ok () ↔ IsProjection p.toValue) := by
  refine ⟨?_, ?_, ?_, ?_, ?_, check_eq_ok_iff p⟩
  · apply Document.toValue_injective
    rw [toValue_project, toValue_project, projectValue_projectValue hp]
  · apply Document.toValue_injective
    rw [toValue_project, toValue_project, toValue_project, toValue_project,
      projectValue_comm hp hq]
  · rw [toValue_project]
    exact kept_projectValue hp d.toValue
  · intro name
    show ((project p d).get? name).isSome = ((p.get? name).isSome && (d.get? name).isSome)
    rw [get?_project]
    cases p.get? name <;> cases d.get? name <;> rfl
  · intro hd
    show (project p d).toValue.Ordered
    rw [toValue_project]
    exact ordered_projectValue hp hd

/-- A person, with an address in a document of its own. -/
def ada : Document :=
  let address := Document.ofFields [("city", .string "London"), ("zip", .string "N1")]
  Document.ofFields [("name", .string "ada"), ("age", .int 36), ("address", address.toValue)]

/-- The document is a map. -/
theorem ordered_ada : ada.Ordered := by
  have haddress : Value.Ordered
      (Document.ofFields [("city", .string "London"), ("zip", .string "N1")]).toValue :=
    Document.ordered_ofFields (by simp [Value.Ordered.key, Value.isKey, Value.isScalar])
  refine Document.ordered_ofFields ?_
  simp [haddress, Value.Ordered.key, Value.isKey, Value.isScalar]

/-- The city of the address and the name, and the whole address and the age: what both keep is the
city. -/
theorem projection_removes_and_composes_address :
    let city := Document.ofFields [("city", .null)]
    let p := Document.ofFields [("name", .null), ("address", city.toValue)]
    let q := Document.ofFields [("address", .null), ("age", .null)]
    IsProjection p.toValue ∧ (project p ada).Ordered ∧
      project p ada = Document.ofFields
        [("name", .string "ada"), ("address", .document [("city", .string "London")])] ∧
      project p (project p ada) = project p ada ∧
      project q (project p ada) = Document.ofFields
        [("address", .document [("city", .string "London")])] ∧
      project q (project p ada) = project p (project q ada) := by
  intro city p q
  have hnull : Value.Ordered .null := .key rfl
  have hcity : city.toValue.Ordered := Document.ordered_ofFields (by simpa using hnull)
  have hp : p.Ordered := Document.ordered_ofFields (by simp [hnull, hcity])
  have hq : q.Ordered := Document.ordered_ofFields (by simp [hnull])
  obtain ⟨hagain, heither, -, -, hordered, hcheck⟩ := projection_removes_and_composes hp hq ada
  exact ⟨hcheck.mp rfl, hordered ordered_ada, rfl, hagain, rfl, heither⟩

end Projection

end DocumentDb
