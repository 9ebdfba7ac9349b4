import AgentSpec.Proofs.Rule.Emission
import Mathlib.Tactic.Tauto

/-! What is found in a schema is found in one of its parts. -/
namespace AgentSpec

/-- The keywords that hold an object of schemas. -/
def tableKeywords : List String := ["properties", "definitions", "$defs"]

/-- A direct part of a schema that has to be a schema too, with the route to it. -/
inductive Json.SchemaBelow (fields : List (String × Json)) : Place → Json → Prop
  | entry {keyword name : String} {schemas : List (String × Json)} {inner : Json}
      (hk : keyword ∈ tableKeywords) (hf : field? keyword fields = some (.object schemas))
      (hm : (name, inner) ∈ schemas) : SchemaBelow fields [.field keyword, .field name] inner
  | items {inner : Json} (hf : field? "items" fields = some inner)
      (hn : ∀ schemas, inner ≠ .array schemas) : SchemaBelow fields [.field "items"] inner
  | position {schemas : List Json} {i : Nat} {inner : Json}
      (hf : field? "items" fields = some (.array schemas)) (hi : schemas[i]? = some inner) :
      SchemaBelow fields [.field "items", .item i] inner

/-- A part of a schema at any depth that has to be a schema, with the route to it. -/
inductive Json.SchemaPart : Json → Place → Json → Prop
  | self {value : Json} : SchemaPart value [] value
  | step {fields : List (String × Json)} {inner part : Json} {first rest : Place}
      (hb : SchemaBelow fields first inner) (h : SchemaPart inner rest part) :
      SchemaPart (.object fields) (first ++ rest) part

theorem Json.SchemaBelow.sizeOf_lt {fields : List (String × Json)} {route : Place} {inner : Json}
    (h : SchemaBelow fields route inner) : sizeOf inner < sizeOf fields := by
  cases h with
  | entry hk hf hm =>
    have hfield := Rule.sizeOf_field?_lt hf
    have hmem := List.sizeOf_lt_of_mem hm
    simp only [object.sizeOf_spec, Prod.mk.sizeOf_spec] at hfield hmem
    omega
  | items hf hn => exact Rule.sizeOf_field?_lt hf
  | position hf hi =>
    have hfield := Rule.sizeOf_field?_lt hf
    have hmem := List.sizeOf_lt_of_mem (List.mem_of_getElem? hi)
    simp only [array.sizeOf_spec] at hfield
    omega

namespace Rule

variable {root : Json} {place : Place} {fields schemas : List (String × Json)} {f : Finding}

/-- Checks that a keyword holds an object, if it is there. -/
def checkShape (place : Place) (fields : List (String × Json)) (keyword field expected : String) :
    List Finding :=
  match Json.field? keyword fields with
  | some (.object _) => []
  | some other => [invalid (place.field keyword) field other expected]
  | none => []

/-- What is found in a schema whatever its parts. -/
def ownFindings (root : Json) (place : Place) : Json → List Finding
  | .object fields =>
    (checkType place fields).alone ++ (checkRequired place fields).alone ++
      (checkReference root place fields).alone ++
      checkShape place fields "properties" "schema properties" "an object of property schemas" ++
      checkShape place fields "definitions" "schema definitions" "an object of named schemas" ++
      checkShape place fields "$defs" "schema definitions" "an object of named schemas"
  | other => [invalid place "schema" other "a JSON Schema object"]

/-- The finding is about a schema in the object under a keyword. -/
def FoundInTable (root : Json) (place : Place) (fields : List (String × Json)) (keyword : String)
    (f : Finding) : Prop :=
  ∃ schemas name inner, Json.field? keyword fields = some (.object schemas) ∧
    (name, inner) ∈ schemas ∧ f ∈ (checkSchema root ((place.field keyword).field name) inner).alone

/-- The finding is about a schema of items. -/
def FoundInItems (root : Json) (place : Place) (fields : List (String × Json)) (f : Finding) :
    Prop :=
  (∃ inner, Json.field? "items" fields = some inner ∧ (∀ schemas, inner ≠ .array schemas) ∧
    f ∈ (checkSchema root (place.field "items") inner).alone) ∨
  ∃ schemas i inner, Json.field? "items" fields = some (.array schemas) ∧
    schemas[i]? = some inner ∧ f ∈ (checkSchema root ((place.field "items").item i) inner).alone

/-- The schemas of an object only add to what has been found if each of them does. -/
theorem emits_checkEntries (h : ∀ p ∈ schemas, ∀ place, (checkSchema root place p.2).Appends) :
    (checkEntries root place schemas).Emits
      (schemas.flatMap fun p => (checkSchema root (place.field p.1) p.2).alone) := by
  induction schemas with
  | nil => exact Check.Emits.nothing.congr fun found => by rw [checkEntries]
  | cons first rest ih =>
    have hfirst := h first List.mem_cons_self
    have hrest := ih fun p hp => h p (List.mem_cons_of_mem first hp)
    intro found
    rw [checkEntries, List.flatMap_cons]
    exact hrest.after (hfirst (place.field first.1) found)

theorem emits_checkPositions {schemas : List Json} {index : Nat}
    (h : ∀ schema ∈ schemas, ∀ place, (checkSchema root place schema).Appends) :
    (checkPositions root place index schemas).Emits
      ((schemas.zipIdx index).flatMap fun p => (checkSchema root (place.item p.2) p.1).alone) := by
  induction schemas generalizing index with
  | nil => exact Check.Emits.nothing.congr fun found => by rw [checkPositions]
  | cons first rest ih =>
    have hfirst := h first List.mem_cons_self
    have hrest := @ih (index + 1) fun schema hs => h schema (List.mem_cons_of_mem first hs)
    intro found
    rw [checkPositions, List.zipIdx_cons, List.flatMap_cons]
    exact hrest.after (hfirst (place.item index) found)

/-- What is found in the direct parts of a schema is appended. -/
def AppendsBelow (root : Json) (fields : List (String × Json)) : Prop :=
  ∀ route inner, Json.SchemaBelow fields route inner →
    ∀ place, (checkSchema root place inner).Appends

theorem emits_checkTable {keyword field expected : String} (hk : keyword ∈ tableKeywords)
    (h : AppendsBelow root fields) :
    (checkTable root place fields keyword field expected).Emits
      (match Json.field? keyword fields with
      | some (.object schemas) =>
        schemas.flatMap fun p => (checkSchema root ((place.field keyword).field p.1) p.2).alone
      | some other => [invalid (place.field keyword) field other expected]
      | none => []) := by
  intro found
  rw [checkTable]
  split
  · rename_i schemas hf
    simp only [hf]
    exact emits_checkEntries (fun p hp => h _ p.2 (.entry hk hf hp)) found
  · rename_i value hno hf
    simp only [hf]
    cases value with
    | object schemas => exact (hno schemas rfl).elim
    | _ => exact Check.Emits.push _ found
  · rename_i hf
    simp only [hf]
    exact Check.Emits.nothing found

theorem emits_checkItems (h : AppendsBelow root fields) : (checkItems root place fields).Emits
    (match Json.field? "items" fields with
    | some (.array schemas) =>
      schemas.zipIdx.flatMap fun p => (checkSchema root ((place.field "items").item p.2) p.1).alone
    | some schema => (checkSchema root (place.field "items") schema).alone
    | none => []) := by
  intro found
  rw [checkItems]
  split
  · rename_i schemas hf
    simp only [hf]
    refine emits_checkPositions (fun schema hs => ?_) found
    obtain ⟨i, hi⟩ := List.getElem?_of_mem hs
    exact h _ schema (.position hf hi)
  · rename_i inner hno hf
    simp only [hf]
    have hinner := h _ inner (.items hf hno) (place.field "items") found
    cases inner with
    | array schemas => exact (hno schemas rfl).elim
    | _ => exact hinner
  · rename_i hf
    simp only [hf]
    exact Check.Emits.nothing found

/-- The findings in an object stand keyword by keyword. -/
theorem emits_checkObject (h : AppendsBelow root fields) :
    (checkSchema root place (.object fields)).Emits ((checkType place fields).alone ++
      (checkTable root place fields "properties" "schema properties"
        "an object of property schemas").alone ++
      (checkRequired place fields).alone ++ (checkItems root place fields).alone ++
      (checkReference root place fields).alone ++
      (checkTable root place fields "definitions" "schema definitions"
        "an object of named schemas").alone ++
      (checkTable root place fields "$defs" "schema definitions"
        "an object of named schemas").alone) := by
  have htype := (emits_checkType place fields).appends
  have hrequired := (emits_checkRequired place fields).appends
  have hreference := (emits_checkReference root place fields).appends
  have hitems : (checkItems root place fields).Appends := (emits_checkItems h).appends
  have htable : ∀ keyword ∈ tableKeywords, ∀ field expected,
      (checkTable root place fields keyword field expected).Appends :=
    fun keyword hk field expected => (emits_checkTable hk h).appends
  intro found
  rw [checkSchema]
  refine Check.Emits.after (htable "$defs" (by decide) _ _) ?_
  refine Check.Emits.after (htable "definitions" (by decide) _ _) ?_
  refine Check.Emits.after hreference (Check.Emits.after hitems (Check.Emits.after hrequired ?_))
  exact Check.Emits.after (htable "properties" (by decide) _ _) (htype found)

theorem emits_checkSchema_of_ne {value : Json} (h : ∀ fields, value ≠ .object fields) :
    (checkSchema root place value).Emits
      [invalid place "schema" value "a JSON Schema object"] :=
  Check.Emits.congr (.push _) fun found => by rw [checkSchema.eq_2 root place value found h]

/-- What is found in a schema, at any depth, is appended to what has been found. -/
theorem appends_checkSchema (root : Json) (place : Place) (value : Json) :
    (checkSchema root place value).Appends := by
  cases value with
  | object fields =>
    refine (emits_checkObject fun route inner hb there => ?_).appends
    have := hb.sizeOf_lt
    exact appends_checkSchema root there inner
  | _ => exact (emits_checkSchema_of_ne (by simp)).appends
termination_by sizeOf value
decreasing_by
  subst_vars
  simp only [Json.object.sizeOf_spec]
  omega

theorem appendsBelow (root : Json) (fields : List (String × Json)) : AppendsBelow root fields :=
  fun _ inner _ place => appends_checkSchema root place inner

theorem emits_checkOptional (place : Place) (schema : Option Schema) :
    (checkOptional place schema).Emits
      (match schema with
      | some schema => (checkSchema schema.value place schema.value).alone
      | none => []) := by
  unfold checkOptional
  cases schema with
  | none => exact .nothing
  | some schema => exact appends_checkSchema schema.value place schema.value

theorem emits_checkBoth (place : Place) (input output : Option Schema) :
    (checkBoth place input output).Emits
      ((checkOptional (place.field "input_schema") input).alone ++
        (checkOptional (place.field "output_schema") output).alone) := by
  intro found
  unfold checkBoth
  exact (emits_checkOptional _ output).appends.after ((emits_checkOptional _ input).appends found)

theorem emits_checkSchemas (agent : Agent) : (checkSchemas agent).Emits
    ((checkBoth [] agent.inputSchema agent.outputSchema).alone ++
      (agent.modules.zipIdx.flatMap fun (module, i) =>
        (checkBoth (Place.entry "modules" i) module.inputSchema module.outputSchema).alone) ++
      agent.tools.zipIdx.flatMap fun (tool, i) =>
        (checkBoth (Place.entry "tools" i) tool.inputSchema tool.outputSchema).alone) := by
  have h : ∀ place input output, (checkBoth place input output).Appends :=
    fun place input output => (emits_checkBoth place input output).appends
  intro found
  unfold checkSchemas
  refine Check.Emits.after (.eachAt agent.tools fun tool i => ?_)
    (Check.Emits.after (.eachAt agent.modules fun module i => ?_) (h _ _ _ found))
  · exact h _ _ _
  · exact h _ _ _

theorem mem_checkTable {keyword field expected : String} (hk : keyword ∈ tableKeywords) :
    f ∈ (checkTable root place fields keyword field expected).alone ↔
      f ∈ checkShape place fields keyword field expected ∨
        FoundInTable root place fields keyword f := by
  rw [(emits_checkTable hk (appendsBelow root fields)).alone_eq]
  unfold checkShape FoundInTable
  split
  · rename_i schemas h
    simp [h]
  · rename_i value hno h
    have hne : ∀ schemas, value ≠ .object schemas := fun schemas he => hno schemas he
    simp [h, hne]
  · rename_i h
    simp [h]

theorem mem_checkItems :
    f ∈ (checkItems root place fields).alone ↔ FoundInItems root place fields f := by
  rw [(emits_checkItems (appendsBelow root fields)).alone_eq]
  unfold FoundInItems
  split
  · rename_i schemas h
    simp only [h, List.mem_flatMap, Prod.exists, List.mem_zipIdx_iff_getElem?, Option.some.injEq,
      Json.array.injEq, exists_eq_left', exists_and_left, ne_eq, forall_eq',
      false_and, false_or]
    exact exists_comm
  · rename_i value hno h
    have hne : ∀ schemas, value ≠ .array schemas := fun schemas he => hno schemas he
    simp [h, hne]
  · rename_i h
    simp [h]

theorem exists_below_iff : (∃ route inner, Json.SchemaBelow fields route inner ∧
      f ∈ (checkSchema root (place ++ route) inner).alone) ↔
    (∃ keyword ∈ tableKeywords, FoundInTable root place fields keyword f) ∨
      FoundInItems root place fields f := by
  constructor
  · intro h
    obtain ⟨route, inner, hb, h⟩ := h
    cases hb with
    | entry hk hf hm => exact .inl ⟨_, hk, _, _, inner, hf, hm, by simpa [Place.field] using h⟩
    | items hf hn => exact .inr (.inl ⟨inner, hf, hn, h⟩)
    | position hf hi =>
      exact .inr (.inr ⟨_, _, inner, hf, hi, by simpa [Place.field, Place.item] using h⟩)
  · intro h
    rcases h with ⟨keyword, hk, schemas, name, inner, hf, hm, h⟩ | ⟨inner, hf, hn, h⟩ |
      ⟨schemas, i, inner, hf, hi, h⟩
    · exact ⟨_, inner, .entry hk hf hm, by simpa [Place.field] using h⟩
    · exact ⟨_, inner, .items hf hn, h⟩
    · exact ⟨_, inner, .position hf hi, by simpa [Place.field, Place.item] using h⟩

/-- What is found in an object is found in it alone or in a direct part of it. -/
theorem mem_checkObject : f ∈ (checkSchema root place (.object fields)).alone ↔
    f ∈ ownFindings root place (.object fields) ∨ ∃ route inner,
      Json.SchemaBelow fields route inner ∧
        f ∈ (checkSchema root (place ++ route) inner).alone := by
  rw [(emits_checkObject (appendsBelow root fields)).alone_eq, exists_below_iff]
  simp only [ownFindings, List.mem_append, mem_checkItems, tableKeywords,
    mem_checkTable (by decide : "properties" ∈ tableKeywords),
    mem_checkTable (by decide : "definitions" ∈ tableKeywords),
    mem_checkTable (by decide : "$defs" ∈ tableKeywords),
    List.mem_cons, List.not_mem_nil, or_false, exists_eq_or_imp, exists_eq_left]
  tauto

/-- What is found in a value is found in one of the parts that have to be schemas. -/
theorem mem_checkSchema (root : Json) (place : Place) (value : Json) :
    f ∈ (checkSchema root place value).alone ↔ ∃ route part, value.SchemaPart route part ∧
      f ∈ ownFindings root (place ++ route) part := by
  cases value with
  | object fields =>
    have ih : ∀ route inner, Json.SchemaBelow fields route inner →
        (f ∈ (checkSchema root (place ++ route) inner).alone ↔ ∃ rest part,
          inner.SchemaPart rest part ∧ f ∈ ownFindings root (place ++ route ++ rest) part) := by
      intro route inner hb
      have := hb.sizeOf_lt
      exact mem_checkSchema root (place ++ route) inner
    rw [mem_checkObject]
    constructor
    · intro h
      rcases h with h | ⟨route, inner, hb, h⟩
      · exact ⟨[], _, .self, by simpa using h⟩
      · obtain ⟨rest, part, hp, h⟩ := (ih route inner hb).1 h
        exact ⟨_, part, .step hb hp, by simpa using h⟩
    · intro h
      obtain ⟨route, part, hp, h⟩ := h
      cases hp with
      | self => exact .inl (by simpa using h)
      | step hb hp =>
        refine .inr ⟨_, _, hb, (ih _ _ hb).2 ⟨_, part, hp, ?_⟩⟩
        simpa using h
  | _ =>
    constructor
    · rw [(emits_checkSchema_of_ne (by simp)).alone_eq]
      exact fun h => ⟨[], _, .self, by simpa [ownFindings] using h⟩
    · intro h
      obtain ⟨route, part, hp, h⟩ := h
      cases hp
      rw [(emits_checkSchema_of_ne (by simp)).alone_eq]
      simpa [ownFindings] using h
termination_by sizeOf value
decreasing_by
  subst_vars
  simp only [Json.object.sizeOf_spec]
  omega

end Rule

end AgentSpec
