import AgentSpec.Proofs.Json.Sorted
import AgentSpec.Proofs.Rule.Accounts
import AgentSpec.Proofs.Rule.Findings

/-! What can be wrong with a schema or with a part of it, keyword by keyword. -/
namespace AgentSpec

/-- What can be wrong with a part of a document that has to be a schema. -/
inductive Fault where
  | notObject (value : Json)
  | type (value : Json)
  /-- A keyword that has to hold an object of schemas holds something else. -/
  | table (keyword : String) (value : Json)
  | notList (value : Json)
  /-- The required property at an index has no name. -/
  | unnamed (index : Nat) (value : Json)
  /-- The required property at an index is none of those that are declared. -/
  | undeclared (index : Nat) (name : String)
  | notReference (value : Json)
  | dangling (target : String)
deriving DecidableEq

namespace Fault

/-- The step to the culprit from the part that has the fault. -/
def steps : Fault → Place
  | notObject _ => []
  | type _ => [.field "type"]
  | table keyword _ => [.field keyword]
  | notList _ | unnamed _ _ | undeclared _ _ => [.field "required"]
  | notReference _ | dangling _ => [.field "$ref"]

def defect : Fault → Defect
  | notObject value => .invalidFormat "schema" (Rule.excerpt value) "a JSON Schema object"
  | type value =>
    .invalidFormat "schema type" (Rule.excerpt value) "a JSON Schema type name or a list of them"
  | table keyword value =>
    if keyword = "properties" then
      .invalidFormat "schema properties" (Rule.excerpt value) "an object of property schemas"
    else .invalidFormat "schema definitions" (Rule.excerpt value) "an object of named schemas"
  | notList value =>
    .invalidFormat "schema required" (Rule.excerpt value) "a list of property names"
  | unnamed _ value =>
    .invalidFormat "required property" (Rule.excerpt value) "a property name string"
  | undeclared _ name =>
    .invalidFormat "required property" (Rule.excerpt (.string name)) "a declared property"
  | notReference value => .invalidFormat "schema $ref" (Rule.excerpt value) "a reference string"
  | dangling target =>
    .invalidFormat "schema $ref" (Rule.excerpt (.string target)) "a pointer into this schema"

end Fault

/-- A part of the document `root` that has to be a schema has that fault. -/
inductive Json.HasFault (root : Json) : Json → Fault → Prop
  | notObject {value : Json} (h : ∀ fields, value ≠ .object fields) :
      HasFault root value (.notObject value)
  | type {fields : List (String × Json)} {value : Json} (hf : field? "type" fields = some value)
      (hn : ¬ value.NamesType)
      (hl : ¬ ∃ names, value = .array names ∧ names ≠ [] ∧ ∀ name ∈ names, name.NamesType) :
      HasFault root (.object fields) (.type value)
  | table {fields : List (String × Json)} {keyword : String} {value : Json}
      (hk : keyword ∈ tableKeywords) (hf : field? keyword fields = some value)
      (h : ∀ schemas, value ≠ .object schemas) :
      HasFault root (.object fields) (.table keyword value)
  | notList {fields : List (String × Json)} {value : Json}
      (hf : field? "required" fields = some value) (h : ∀ names, value ≠ .array names) :
      HasFault root (.object fields) (.notList value)
  | unnamed {fields : List (String × Json)} {names : List Json} {k : Nat} {value : Json}
      (hf : field? "required" fields = some (.array names)) (hk : names[k]? = some value)
      (h : ∀ name, value ≠ .string name) : HasFault root (.object fields) (.unnamed k value)
  | undeclared {fields properties : List (String × Json)} {names : List Json} {k : Nat}
      {name : String} (hf : field? "required" fields = some (.array names))
      (hk : names[k]? = some (.string name))
      (hp : field? "properties" fields = some (.object properties))
      (h : name ∉ properties.map (·.1)) : HasFault root (.object fields) (.undeclared k name)
  | notReference {fields : List (String × Json)} {value : Json}
      (hf : field? "$ref" fields = some value) (h : ∀ target, value ≠ .string target) :
      HasFault root (.object fields) (.notReference value)
  | dangling {fields : List (String × Json)} {target : String} {pointer : List Char}
      (hf : field? "$ref" fields = some (.string target)) (ht : target.toList = '#' :: pointer)
      (h : ∀ part, ¬ root.Follows pointer part) :
      HasFault root (.object fields) (.dangling target)

/-- A fault of a part of a schema, with the route from the schema to the part. -/
structure Violation where
  route : Place
  fault : Fault
deriving DecidableEq

namespace Violation

/-- The route to the culprit. -/
def steps (v : Violation) : Place := v.route ++ v.fault.steps

/-- What is reported if the schema stands at a place. -/
def finding (place : Place) (v : Violation) : Finding := .error (place ++ v.steps) v.fault.defect

/-- The violation as one of a schema that has the first as its part at a route. -/
def under (first : Place) (v : Violation) : Violation := ⟨first ++ v.route, v.fault⟩

theorem under_injective (first : Place) : Function.Injective (under first) := by
  intro v w h
  cases v
  cases w
  simpa [under] using h

theorem steps_under (first : Place) (v : Violation) : (v.under first).steps = first ++ v.steps :=
  List.append_assoc ..

theorem finding_under (place first : Place) (v : Violation) :
    (v.under first).finding place = v.finding (place ++ first) := by
  rw [finding, steps_under, ← List.append_assoc]
  rfl

theorem finding_notObject (place : Place) (value : Json) :
    (⟨[], .notObject value⟩ : Violation).finding place =
      Rule.invalid place "schema" value "a JSON Schema object" := by
  rw [finding, steps, Fault.steps, List.append_nil, List.append_nil]
  rfl

end Violation

namespace Json

variable {root : Json} {fields : List (String × Json)} {keyword : String} {v : Violation}

/-- The violation is one of a part of the value, which is itself part of the document `root`. -/
def Violates (root value : Json) (v : Violation) : Prop :=
  ∃ part, value.SchemaPart v.route part ∧ root.HasFault part v.fault

/-- A violation of an object whose culprit stands at a keyword of it or behind that. -/
def ViolatesBehind (root : Json) (fields : List (String × Json)) (keyword : String)
    (v : Violation) : Prop :=
  root.Violates (.object fields) v ∧ v.steps.head? = some (.field keyword)

theorem violates_object_iff : root.Violates (.object fields) v ↔
    (v.route = [] ∧ root.HasFault (.object fields) v.fault) ∨
      ∃ first inner, SchemaBelow fields first inner ∧
        ∃ w, root.Violates inner w ∧ w.under first = v := by
  obtain ⟨route, fault⟩ := v
  constructor
  · intro h
    obtain ⟨part, hp, hf⟩ := h
    cases hp with
    | self => exact .inl ⟨rfl, hf⟩
    | step hb hp => exact .inr ⟨_, _, hb, ⟨_, fault⟩, ⟨part, hp, hf⟩, rfl⟩
  · intro h
    rcases h with ⟨rfl, hf⟩ | ⟨first, inner, hb, w, ⟨part, hp, hf⟩, he⟩
    · exact ⟨_, .self, hf⟩
    · cases he
      exact ⟨part, .step hb hp, hf⟩

/-- The keywords at which a part of a schema begins. -/
def partKeywords : List String := "items" :: tableKeywords

theorem SchemaBelow.head? {first : Place} {inner : Json} (h : SchemaBelow fields first inner) :
    ∃ keyword ∈ partKeywords, first.head? = some (.field keyword) := by
  cases h with
  | entry hk hf hm => exact ⟨_, List.mem_cons_of_mem _ hk, rfl⟩
  | items hf hn => exact ⟨_, List.mem_cons_self, rfl⟩
  | position hf hi => exact ⟨_, List.mem_cons_self, rfl⟩

theorem SchemaBelow.head?_steps {first : Place} {inner : Json} (h : SchemaBelow fields first inner)
    (w : Violation) : (w.under first).steps.head? = first.head? := by
  obtain ⟨keyword, -, he⟩ := h.head?
  rw [Violation.steps_under, List.head?_append, he]
  rfl

theorem HasFault.steps_eq {fault : Fault} (h : root.HasFault (.object fields) fault) :
    ∃ keyword ∈ Rule.schemaKeywords, fault.steps = [.field keyword] := by
  cases h with
  | notObject h => exact (h fields rfl).elim
  | type => exact ⟨"type", by decide, rfl⟩
  | table hk => exact ⟨_, (by decide : tableKeywords ⊆ Rule.schemaKeywords) hk, rfl⟩
  | notList | unnamed | undeclared => exact ⟨"required", by decide, rfl⟩
  | notReference | dangling => exact ⟨"$ref", by decide, rfl⟩

/-- At a keyword that holds no schemas only the object itself has faults. -/
theorem violatesBehind_iff (hk : keyword ∉ partKeywords) : root.ViolatesBehind fields keyword v ↔
    v.route = [] ∧ root.HasFault (.object fields) v.fault ∧
      v.fault.steps = [.field keyword] := by
  unfold ViolatesBehind
  rw [violates_object_iff]
  constructor
  · intro h
    obtain ⟨⟨hr, hf⟩ | ⟨first, inner, hb, w, -, rfl⟩, hh⟩ := h
    · obtain ⟨other, -, hs⟩ := hf.steps_eq
      rw [Violation.steps, hr, hs] at hh
      cases hh
      exact ⟨hr, hf, hs⟩
    · obtain ⟨other, ho, he⟩ := hb.head?
      rw [hb.head?_steps, he] at hh
      cases hh
      exact (hk ho).elim
  · intro h
    obtain ⟨hr, hf, hs⟩ := h
    exact ⟨.inl ⟨hr, hf⟩, by rw [Violation.steps, hr, hs]; rfl⟩

/-- Every violation of an object is at or behind one of the keywords that are looked at. -/
theorem Violates.exists_behind (h : root.Violates (.object fields) v) :
    ∃ keyword ∈ "items" :: Rule.schemaKeywords, root.ViolatesBehind fields keyword v := by
  rcases violates_object_iff.1 h with ⟨hr, hf⟩ | ⟨first, inner, hb, w, -, rfl⟩
  · obtain ⟨keyword, hk, hs⟩ := hf.steps_eq
    exact ⟨keyword, List.mem_cons_of_mem _ hk, h, by rw [Violation.steps, hr, hs]; rfl⟩
  · obtain ⟨keyword, hk, he⟩ := hb.head?
    exact ⟨keyword, (by decide : partKeywords ⊆ "items" :: Rule.schemaKeywords) hk, h,
      by rw [hb.head?_steps, he]⟩

theorem mem_of_field? {value : Json} (h : field? keyword fields = some value) :
    (keyword, value) ∈ fields := by
  induction fields with
  | nil => cases h
  | cons first rest ih =>
    obtain ⟨name, found⟩ := first
    rw [field?] at h
    split at h
    · rename_i he
      cases h
      exact he ▸ List.mem_cons_self
    · exact List.mem_cons_of_mem _ (ih h)

theorem Sorted.of_field? {value : Json} (hs : (object fields).Sorted)
    (hf : field? keyword fields = some value) : value.Sorted := by
  have hv : ∀ field ∈ fields, field.2.Sorted := sortedFields_iff.1 hs.2
  exact hv _ (mem_of_field? hf)

theorem SchemaBelow.sorted {first : Place} {inner : Json} (h : SchemaBelow fields first inner)
    (hs : (object fields).Sorted) : inner.Sorted := by
  cases h with
  | entry hk hf hm => exact sortedFields_iff.1 (hs.of_field? hf).2 _ hm
  | items hf hn => exact hs.of_field? hf
  | position hf hi => exact sortedItems_iff.1 (hs.of_field? hf) _ (List.mem_of_getElem? hi)

/-- A value that is no object has no parts and one violation. -/
theorem violates_iff_of_ne {value : Json} (h : ∀ fields, value ≠ .object fields) :
    root.Violates value v ↔ v = ⟨[], .notObject value⟩ := by
  obtain ⟨route, fault⟩ := v
  constructor
  · intro hv
    obtain ⟨part, hp, hf⟩ := hv
    cases hp with
    | self =>
      cases hf with
      | notObject => rfl
      | _ => exact (h _ rfl).elim
    | step => exact (h _ rfl).elim
  · rintro he
    cases he
    exact ⟨value, .self, .notObject h⟩

end Json

namespace Rule

variable {root : Json} {fields : List (String × Json)}

/-- The one violation at the keyword for the type. -/
theorem violatesBehind_type_iff {v : Violation} : root.ViolatesBehind fields "type" v ↔
    ∃ value, Json.field? "type" fields = some value ∧ isType value = false ∧
      v = ⟨[], .type value⟩ := by
  obtain ⟨route, fault⟩ := v
  rw [Json.violatesBehind_iff (by decide)]
  constructor
  · intro h
    obtain ⟨rfl, hf, hs⟩ := h
    cases hf with
    | type hf hn hl => exact ⟨_, hf, by simp [← Bool.not_eq_true, isType_iff, hn, hl], rfl⟩
    | table hk =>
      cases hs
      exact absurd hk (by decide)
    | _ => simp [Fault.steps] at hs
  · intro h
    obtain ⟨value, hf, ht, he⟩ := h
    cases he
    rw [← Bool.not_eq_true, isType_iff, not_or] at ht
    exact ⟨rfl, .type hf ht.1 ht.2, rfl⟩

/-- The violations at the keyword for references. -/
theorem violatesBehind_reference_iff {v : Violation} : root.ViolatesBehind fields "$ref" v ↔
    (∃ value, Json.field? "$ref" fields = some value ∧ (∀ target, value ≠ .string target) ∧
      v = ⟨[], .notReference value⟩) ∨
    ∃ target pointer, Json.field? "$ref" fields = some (.string target) ∧
      target.toList = '#' :: pointer ∧ (∀ part, ¬ root.Follows pointer part) ∧
      v = ⟨[], .dangling target⟩ := by
  obtain ⟨route, fault⟩ := v
  rw [Json.violatesBehind_iff (by decide)]
  constructor
  · intro h
    obtain ⟨rfl, hf, hs⟩ := h
    cases hf with
    | notReference hf h => exact .inl ⟨_, hf, h, rfl⟩
    | dangling hf ht h => exact .inr ⟨_, _, hf, ht, h, rfl⟩
    | table hk =>
      cases hs
      exact absurd hk (by decide)
    | _ => simp [Fault.steps] at hs
  · intro h
    rcases h with ⟨value, hf, h, he⟩ | ⟨target, pointer, hf, ht, h, he⟩
    · cases he
      exact ⟨rfl, .notReference hf h, rfl⟩
    · cases he
      exact ⟨rfl, .dangling hf ht h, rfl⟩

/-- A required property as it stands at an index is a violation. -/
inductive RequiredFault (fields : List (String × Json)) : Json × Nat → Violation → Prop
  | unnamed {value : Json} {k : Nat} (h : ∀ name, value ≠ .string name) :
      RequiredFault fields (value, k) ⟨[], .unnamed k value⟩
  | undeclared {properties : List (String × Json)} {name : String} {k : Nat}
      (hp : Json.field? "properties" fields = some (.object properties))
      (h : name ∉ properties.map (·.1)) :
      RequiredFault fields (.string name, k) ⟨[], .undeclared k name⟩

theorem violatesBehind_required_iff {v : Violation} : root.ViolatesBehind fields "required" v ↔
    (∃ value, Json.field? "required" fields = some value ∧ (∀ names, value ≠ .array names) ∧
      v = ⟨[], .notList value⟩) ∨
    ∃ names, Json.field? "required" fields = some (.array names) ∧
      ∃ p ∈ names.zipIdx, RequiredFault fields p v := by
  obtain ⟨route, fault⟩ := v
  rw [Json.violatesBehind_iff (by decide)]
  constructor
  · intro h
    obtain ⟨rfl, hf, hs⟩ := h
    cases hf with
    | notList hf h => exact .inl ⟨_, hf, h, rfl⟩
    | unnamed hf hk h =>
      exact .inr ⟨_, hf, (_, _), List.mem_zipIdx_iff_getElem?.2 hk, .unnamed h⟩
    | undeclared hf hk hp h =>
      exact .inr ⟨_, hf, (_, _), List.mem_zipIdx_iff_getElem?.2 hk, .undeclared hp h⟩
    | table hk =>
      cases hs
      exact absurd hk (by decide)
    | _ => simp [Fault.steps] at hs
  · intro h
    rcases h with ⟨value, hf, h, he⟩ | ⟨names, hf, p, hp, h⟩
    · cases he
      exact ⟨rfl, .notList hf h, rfl⟩
    · have hk := List.mem_zipIdx_iff_getElem?.1 hp
      cases h with
      | unnamed h => exact ⟨rfl, .unnamed hf hk h, rfl⟩
      | undeclared hd h => exact ⟨rfl, .undeclared hf hk hd h, rfl⟩

theorem requiredFault_iff_of_ne {value : Json} {k : Nat} {v : Violation}
    (h : ∀ name, value ≠ .string name) :
    RequiredFault fields (value, k) v ↔ v = ⟨[], .unnamed k value⟩ := by
  constructor
  · intro hv
    cases hv with
    | unnamed => rfl
    | undeclared => exact (h _ rfl).elim
  · rintro rfl
    exact .unnamed h

theorem requiredFault_string_iff {name : String} {k : Nat} {v : Violation} :
    RequiredFault fields (.string name, k) v ↔ ∃ declared, propertyNames? fields = some declared ∧
      name ∉ declared ∧ v = ⟨[], .undeclared k name⟩ := by
  constructor
  · intro h
    cases h with
    | unnamed h => exact (h name rfl).elim
    | undeclared hp h => exact ⟨_, propertyNames?_eq_some.2 ⟨_, hp, rfl⟩, h, rfl⟩
  · intro h
    obtain ⟨declared, hd, h, rfl⟩ := h
    obtain ⟨properties, hp, rfl⟩ := propertyNames?_eq_some.1 hd
    exact .undeclared hp h

theorem violatesBehind_table_iff {keyword : String} {v : Violation} (hk : keyword ∈ tableKeywords) :
    root.ViolatesBehind fields keyword v ↔
      (∃ value, Json.field? keyword fields = some value ∧ (∀ schemas, value ≠ .object schemas) ∧
        v = ⟨[], .table keyword value⟩) ∨
      ∃ schemas, Json.field? keyword fields = some (.object schemas) ∧ ∃ p ∈ schemas,
        ∃ w, root.Violates p.2 w ∧ w.under [.field keyword, .field p.1] = v := by
  unfold Json.ViolatesBehind
  rw [Json.violates_object_iff]
  constructor
  · intro h
    obtain ⟨⟨hr, hf⟩ | ⟨first, inner, hb, w, hw, rfl⟩, hh⟩ := h
    · obtain ⟨route, fault⟩ := v
      subst hr
      cases hf with
      | table hk' hf h =>
        cases hh
        exact .inl ⟨_, hf, h, rfl⟩
      | notObject h => exact (h fields rfl).elim
      | _ =>
        cases hh
        exact absurd hk (by decide)
    · rw [hb.head?_steps] at hh
      cases hb with
      | entry hk' hf hm =>
        cases hh
        exact .inr ⟨_, hf, (_, _), hm, w, hw, rfl⟩
      | items | position =>
        cases hh
        exact absurd hk (by decide)
  · intro h
    rcases h with ⟨value, hf, h, rfl⟩ | ⟨schemas, hf, p, hp, w, hw, rfl⟩
    · exact ⟨.inl ⟨rfl, .table hk hf h⟩, rfl⟩
    · exact ⟨.inr ⟨_, _, .entry hk hf hp, w, hw, rfl⟩, rfl⟩

theorem violatesBehind_items_iff {v : Violation} : root.ViolatesBehind fields "items" v ↔
    (∃ inner, Json.field? "items" fields = some inner ∧ (∀ schemas, inner ≠ .array schemas) ∧
      ∃ w, root.Violates inner w ∧ w.under [.field "items"] = v) ∨
    ∃ schemas, Json.field? "items" fields = some (.array schemas) ∧ ∃ p ∈ schemas.zipIdx,
      ∃ w, root.Violates p.1 w ∧ w.under [.field "items", .item p.2] = v := by
  unfold Json.ViolatesBehind
  rw [Json.violates_object_iff]
  constructor
  · intro h
    obtain ⟨⟨hr, hf⟩ | ⟨first, inner, hb, w, hw, rfl⟩, hh⟩ := h
    · obtain ⟨keyword, hk, hs⟩ := hf.steps_eq
      rw [Violation.steps, hr, hs] at hh
      cases hh
      exact absurd hk (by decide)
    · rw [hb.head?_steps] at hh
      cases hb with
      | entry hk hf hm =>
        cases hh
        exact absurd hk (by decide)
      | items hf hn => exact .inl ⟨inner, hf, hn, w, hw, rfl⟩
      | position hf hi =>
        exact .inr ⟨_, hf, (inner, _), List.mem_zipIdx_iff_getElem?.2 hi, w, hw, rfl⟩
  · intro h
    rcases h with ⟨inner, hf, hn, w, hw, rfl⟩ | ⟨schemas, hf, p, hp, w, hw, rfl⟩
    · exact ⟨.inr ⟨_, _, .items hf hn, w, hw, rfl⟩, rfl⟩
    · have hi := List.mem_zipIdx_iff_getElem?.1 hp
      exact ⟨.inr ⟨_, _, .position hf hi, w, hw, rfl⟩, rfl⟩

end Rule

end AgentSpec
