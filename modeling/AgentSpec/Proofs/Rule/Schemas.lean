import AgentSpec.Proofs.Json.Pointer
import AgentSpec.Proofs.Rule.SchemaParts
import AgentSpec.Proofs.Rule.Severity

/-! When the schemas of an agent have the shape of schemas. -/
namespace AgentSpec

/-- The value is the name of a type. -/
def Json.NamesType (value : Json) : Prop := ∃ name ∈ Rule.typeNames, value = .string name

/-- The keywords of an object are used as in a schema that is a part of `root`. -/
structure Json.SchemaObject (root : Json) (fields : List (String × Json)) : Prop where
  type : ∀ value, field? "type" fields = some value → value.NamesType ∨
    ∃ names, value = .array names ∧ names ≠ [] ∧ ∀ name ∈ names, name.NamesType
  table : ∀ keyword ∈ tableKeywords, ∀ value, field? keyword fields = some value →
    ∃ schemas, value = .object schemas
  required : ∀ value, field? "required" fields = some value →
    ∃ names, value = .array names ∧ ∀ name ∈ names, ∃ key, name = .string key ∧
      ∀ properties, field? "properties" fields = some (.object properties) →
        key ∈ properties.map (·.1)
  reference : ∀ value, field? "$ref" fields = some value → ∃ target, value = .string target ∧
    ∀ pointer, target.toList = '#' :: pointer → ∃ part, root.Follows pointer part

/-- Every part of the value that has to be a schema is one. -/
def Json.IsSchema (root value : Json) : Prop :=
  ∀ route part, SchemaPart value route part → ∃ fields, part = .object fields ∧
    SchemaObject root fields

/-- The schema is one of the agent itself, of a module or of a tool. -/
inductive Agent.HoldsSchema (agent : Agent) (schema : Schema) : Prop
  | input (h : agent.inputSchema = some schema)
  | output (h : agent.outputSchema = some schema)
  | partInput {part : Capability} (hp : part ∈ agent.modules ∨ part ∈ agent.tools)
      (h : part.inputSchema = some schema)
  | partOutput {part : Capability} (hp : part ∈ agent.modules ∨ part ∈ agent.tools)
      (h : part.outputSchema = some schema)

/-- What the agent holds as schemas are schemas. -/
def Agent.HasSchemas (agent : Agent) : Prop :=
  ∀ schema : Schema, agent.HoldsSchema schema → schema.value.IsSchema schema.value

namespace Rule

variable {root : Json} {place : Place} {fields schemas : List (String × Json)}

theorem invalid_not_lacks {field expected : String} {value : Json} :
    Lacks .error [invalid place field value expected] ↔ False := by
  rw [Lacks.singleton_iff]
  simp [invalid, Finding.error]

theorem invalid_no_warning {field expected : String} {value : Json} :
    Lacks .warning [invalid place field value expected] := by
  rw [Lacks.singleton_iff]
  simp [invalid, Finding.error]

theorem isTypeName_iff {value : Json} : isTypeName value = true ↔ value.NamesType := by
  cases value <;> simp [isTypeName, Json.NamesType]

theorem isType_iff {value : Json} : isType value = true ↔ value.NamesType ∨
    ∃ names, value = .array names ∧ names ≠ [] ∧ ∀ name ∈ names, name.NamesType := by
  cases value with
  | array names => simp [isType, isTypeName_iff, Json.NamesType]
  | _ => simp [isType, isTypeName_iff]

theorem checkType_iff : Lacks .error (checkType place fields).alone ↔
    ∀ value, Json.field? "type" fields = some value → value.NamesType ∨
      ∃ names, value = .array names ∧ names ≠ [] ∧ ∀ name ∈ names, name.NamesType := by
  rw [(emits_checkType place fields).alone_eq]
  cases Json.field? "type" fields with
  | none => simp [Lacks.nil_iff]
  | some value =>
    simp only [Lacks.ite_iff, Lacks.nil_iff, invalid_not_lacks, isType_iff, Option.some.injEq,
      forall_eq', imp_true_iff, true_and, imp_false, not_not]

theorem propertyNames?_eq_some {declared : List String} :
    propertyNames? fields = some declared ↔ ∃ properties,
      Json.field? "properties" fields = some (.object properties) ∧
        properties.map (·.1) = declared := by
  unfold propertyNames?
  split
  · rename_i properties h
    simp [h]
  · rename_i hno
    simp only [reduceCtorEq, false_iff, not_exists, not_and]
    exact fun properties h => (hno properties h).elim

theorem checkRequired_iff : Lacks .error (checkRequired place fields).alone ↔
    ∀ value, Json.field? "required" fields = some value →
      ∃ names, value = .array names ∧ ∀ name ∈ names, ∃ key, name = .string key ∧
        ∀ properties, Json.field? "properties" fields = some (.object properties) →
          key ∈ properties.map (·.1) := by
  rw [(emits_checkRequired place fields).alone_eq]
  cases Json.field? "required" fields with
  | none => simp [Lacks.nil_iff]
  | some value =>
    cases value with
    | array names =>
      simp only [Lacks.filterMap_iff, Option.some.injEq, forall_eq', Json.array.injEq,
        exists_eq_left']
      refine forall₂_congr fun name _ => ?_
      cases name with
      | string key =>
        simp only [Json.string.injEq, exists_eq_left']
        cases hd : propertyNames? fields with
        | none =>
          refine iff_of_true (by simp) fun properties hp => ?_
          rw [propertyNames?_eq_some.2 ⟨properties, hp, rfl⟩] at hd
          cases hd
        | some declared =>
          obtain ⟨properties, hp, rfl⟩ := propertyNames?_eq_some.1 hd
          simp [hp, invalid, Finding.error]
      | _ => simp [invalid, Finding.error]
    | _ => simp [invalid_not_lacks]

theorem checkReference_iff : Lacks .error (checkReference root place fields).alone ↔
    ∀ value, Json.field? "$ref" fields = some value → ∃ target, value = .string target ∧
      ∀ pointer, target.toList = '#' :: pointer → ∃ part, root.Follows pointer part := by
  rw [(emits_checkReference root place fields).alone_eq]
  cases Json.field? "$ref" fields with
  | none => simp [Lacks.nil_iff]
  | some value =>
    cases value with
    | string target =>
      simp only [Option.some.injEq, forall_eq', Json.string.injEq, exists_eq_left']
      split
      · rename_i pointer hp
        simp [hp, Lacks.ite_iff, Lacks.nil_iff, invalid_not_lacks, Option.isSome_iff_exists,
          Json.pointer?_eq_some_iff]
      · rename_i hno
        exact iff_of_true (Lacks.nil_iff.2 trivial) fun pointer hp => (hno pointer hp).elim
    | _ => simp [invalid_not_lacks]

theorem checkShape_iff {keyword field expected : String} :
    Lacks .error (checkShape place fields keyword field expected) ↔
      ∀ value, Json.field? keyword fields = some value → ∃ schemas, value = .object schemas := by
  unfold checkShape
  cases Json.field? keyword fields with
  | none => simp [Lacks.nil_iff]
  | some value => cases value <;> simp [Lacks.nil_iff, invalid_not_lacks]

theorem ownFindings_iff {value : Json} : Lacks .error (ownFindings root place value) ↔
    ∃ fields, value = .object fields ∧ Json.SchemaObject root fields := by
  cases value with
  | object fields =>
    simp only [ownFindings, Lacks.append_iff, checkType_iff, checkRequired_iff,
      checkReference_iff, checkShape_iff, Json.object.injEq, exists_eq_left']
    constructor
    · intro h
      obtain ⟨⟨⟨⟨⟨hty, hreq⟩, href⟩, hp⟩, hd⟩, hs⟩ := h
      refine ⟨hty, ?_, hreq, href⟩
      simpa [tableKeywords] using ⟨hp, hd, hs⟩
    · intro h
      have ht := h.table
      simp only [tableKeywords, List.forall_mem_cons] at ht
      exact ⟨⟨⟨⟨⟨h.type, h.required⟩, h.reference⟩, ht.1⟩, ht.2.1⟩, ht.2.2.1⟩
  | _ => simp [ownFindings, invalid_not_lacks]

theorem checkSchema_lacks_iff {s : Severity} {value : Json} :
    Lacks s (checkSchema root place value).alone ↔ ∀ route part, value.SchemaPart route part →
      Lacks s (ownFindings root (place ++ route) part) := by
  constructor
  · intro h route part hp f hf
    exact h f ((mem_checkSchema root place value).2 ⟨route, part, hp, hf⟩)
  · intro h f hf
    obtain ⟨route, part, hp, hf⟩ := (mem_checkSchema root place value).1 hf
    exact h route part hp f hf

/-- A value is found to be a schema exactly if it is one. -/
theorem checkSchema_iff {value : Json} :
    Lacks .error (checkSchema root place value).alone ↔ root.IsSchema value := by
  rw [checkSchema_lacks_iff]
  simp only [ownFindings_iff, Json.IsSchema]

theorem checkType_no_warning : Lacks .warning (checkType place fields).alone := by
  rw [(emits_checkType place fields).alone_eq]
  split
  · split
    · exact Lacks.nil_iff.2 trivial
    · exact invalid_no_warning
  · exact Lacks.nil_iff.2 trivial

theorem checkRequired_no_warning : Lacks .warning (checkRequired place fields).alone := by
  rw [(emits_checkRequired place fields).alone_eq]
  split
  · rw [Lacks.filterMap_iff]
    intro name _ f hf
    split at hf
    · split at hf
      · split at hf
        · cases hf
        · cases hf
          exact invalid_no_warning _ (List.mem_singleton_self _)
      · cases hf
    · cases hf
      exact invalid_no_warning _ (List.mem_singleton_self _)
  · exact invalid_no_warning
  · exact Lacks.nil_iff.2 trivial

theorem checkReference_no_warning : Lacks .warning (checkReference root place fields).alone := by
  rw [(emits_checkReference root place fields).alone_eq]
  split
  · split
    · split
      · exact Lacks.nil_iff.2 trivial
      · exact invalid_no_warning
    · exact Lacks.nil_iff.2 trivial
  · exact invalid_no_warning
  · exact Lacks.nil_iff.2 trivial

theorem checkShape_no_warning {keyword field expected : String} :
    Lacks .warning (checkShape place fields keyword field expected) := by
  unfold checkShape
  split
  · exact Lacks.nil_iff.2 trivial
  · exact invalid_no_warning
  · exact Lacks.nil_iff.2 trivial

theorem checkSchema_no_warning {value : Json} :
    Lacks .warning (checkSchema root place value).alone := by
  rw [checkSchema_lacks_iff]
  intro route part _
  cases part with
  | object fields =>
    simp only [ownFindings, Lacks.append_iff]
    exact ⟨⟨⟨⟨⟨checkType_no_warning, checkRequired_no_warning⟩, checkReference_no_warning⟩,
      checkShape_no_warning⟩, checkShape_no_warning⟩, checkShape_no_warning⟩
  | _ => exact invalid_no_warning

variable {agent : Agent}

/-- What stands in place of a schema is one, if there is something. -/
def Proper (schema : Option Schema) : Prop :=
  ∀ found : Schema, schema = some found → found.value.IsSchema found.value

theorem checkOptional_iff {schema : Option Schema} :
    Lacks .error (checkOptional place schema).alone ↔ Proper schema := by
  cases schema with
  | none => simp [(emits_checkOptional place none).alone_eq, Lacks.nil_iff, Proper]
  | some schema =>
    simp [(emits_checkOptional place (some schema)).alone_eq, checkSchema_iff, Proper]

theorem schemas_error_iff : Lacks .error (schemaFindings agent) ↔ agent.HasSchemas := by
  simp only [schemaFindings, (emits_checkSchemas agent).alone_eq, (emits_checkBoth _ _ _).alone_eq,
    Lacks.append_iff, Lacks.flatMap_iff, checkOptional_iff]
  rw [forall_mem_zipIdx (P := fun part : Capability =>
    Proper part.inputSchema ∧ Proper part.outputSchema)]
  rw [forall_mem_zipIdx (P := fun part : Capability =>
    Proper part.inputSchema ∧ Proper part.outputSchema)]
  constructor
  · intro hh schema h
    obtain ⟨⟨⟨hi, ho⟩, hm⟩, ht⟩ := hh
    have hc : ∀ part : Capability, part ∈ agent.modules ∨ part ∈ agent.tools →
        Proper part.inputSchema ∧ Proper part.outputSchema :=
      fun part hp => hp.elim (hm part) (ht part)
    cases h with
    | input h => exact hi schema h
    | output h => exact ho schema h
    | partInput hp h => exact (hc _ hp).1 schema h
    | partOutput hp h => exact (hc _ hp).2 schema h
  · intro h
    have hc : ∀ part : Capability, part ∈ agent.modules ∨ part ∈ agent.tools →
        Proper part.inputSchema ∧ Proper part.outputSchema := fun part hp =>
      ⟨fun schema hs => h schema (.partInput hp hs), fun schema hs => h schema (.partOutput hp hs)⟩
    exact ⟨⟨⟨fun schema hs => h schema (.input hs), fun schema hs => h schema (.output hs)⟩,
      fun part hm => hc part (.inl hm)⟩, fun part ht => hc part (.inr ht)⟩

theorem checkBoth_no_warning {input output : Option Schema} :
    Lacks .warning (checkBoth place input output).alone := by
  have h : ∀ (place : Place) (schema : Option Schema),
      Lacks .warning (checkOptional place schema).alone := by
    intro place schema
    rw [(emits_checkOptional place schema).alone_eq]
    cases schema with
    | none => exact Lacks.nil_iff.2 trivial
    | some schema => exact checkSchema_no_warning
  rw [(emits_checkBoth place input output).alone_eq, Lacks.append_iff]
  exact ⟨h _ _, h _ _⟩

theorem schemas_no_warning : Lacks .warning (schemaFindings agent) := by
  rw [schemaFindings, (emits_checkSchemas agent).alone_eq]
  rw [Lacks.append_iff, Lacks.append_iff, Lacks.flatMap_iff, Lacks.flatMap_iff]
  exact ⟨⟨checkBoth_no_warning, fun _ _ => checkBoth_no_warning⟩, fun _ _ => checkBoth_no_warning⟩

end Rule

end AgentSpec
