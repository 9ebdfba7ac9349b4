import AgentSpec.Proofs.Rule.Violations

/-! Everything that is wrong with the schemas of an agent is reported once, where it is. -/
namespace AgentSpec

namespace Rule

variable {root : Json} {place : Place} {fields : List (String × Json)}

theorem accounts_checkType :
    Accounts (root.ViolatesBehind fields "type") (Violation.finding place)
      (checkType place fields).alone := by
  refine .of_iff (fun v => violatesBehind_type_iff) ?_
  rw [(emits_checkType place fields).alone_eq]
  cases hf : Json.field? "type" fields with
  | none => exact .empty fun v => by simp
  | some value =>
    cases ht : isType value with
    | true =>
      simp only [ht, if_true]
      exact .empty fun v => by simp [ht]
    | false =>
      simp only [ht, Bool.false_eq_true, if_false]
      exact .single ⟨[], .type value⟩ (fun v => by simp [ht]) rfl

theorem accounts_checkReference :
    Accounts (root.ViolatesBehind fields "$ref") (Violation.finding place)
      (checkReference root place fields).alone := by
  refine .of_iff (fun v => violatesBehind_reference_iff) ?_
  rw [(emits_checkReference root place fields).alone_eq]
  split
  · rename_i target hf
    split
    · rename_i pointer ht
      have hnone : (∀ part, ¬ root.Follows pointer part) ↔ root.pointer? pointer = none :=
        Json.pointer?_eq_none_iff.symm
      cases hp : root.pointer? pointer with
      | some part => exact .empty fun v => by simp [hf, hnone, hp, ht]
      | none => exact .single ⟨[], .dangling target⟩ (fun v => by simp [hf, hnone, hp, ht]) rfl
    · rename_i hno
      refine .empty fun v h => ?_
      rcases h with ⟨value, hf', h, -⟩ | ⟨target', pointer, hf', ht, -⟩
      · cases hf.symm.trans hf'
        exact h target rfl
      · cases hf.symm.trans hf'
        exact hno pointer ht
  · rename_i value hno hf
    have hne : ∀ target, value ≠ .string target := fun target he => hno target he
    exact .single ⟨[], .notReference value⟩ (fun v => by simp [hf, hne]) rfl
  · rename_i hf
    exact .empty fun v => by simp [hf]

/-- The index of the required property that a violation is about. -/
def requiredIndex (v : Violation) : Nat :=
  match v.fault with
  | .unnamed k _ | .undeclared k _ => k
  | _ => 0

theorem accounts_checkRequired :
    Accounts (root.ViolatesBehind fields "required") (Violation.finding place)
      (checkRequired place fields).alone := by
  refine .of_iff (fun v => violatesBehind_required_iff) ?_
  rw [(emits_checkRequired place fields).alone_eq]
  split
  · rename_i names hf
    refine .of_iff (fun v => by simp [hf])
      (Accounts.filterMap (P := RequiredFault fields) requiredIndex (fun p _ => ?_)
        fun p v h => by cases h <;> rfl)
    obtain ⟨name, k⟩ := p
    dsimp only
    split
    · rename_i key _
      refine .of_iff (fun v => requiredFault_string_iff) ?_
      cases hd : propertyNames? fields with
      | none => exact .empty fun v => by simp
      | some declared =>
        by_cases hk : key ∈ declared
        · simp only [List.contains_iff_mem.2 hk, if_true]
          exact .empty fun v => by simp [hk]
        · simp only [List.contains_iff_mem, hk, if_false]
          exact .single ⟨[], .undeclared k key⟩ (fun v => by simp [hk]) rfl
    · rename_i hno
      exact .single ⟨[], .unnamed k name⟩ (fun v => requiredFault_iff_of_ne hno) rfl
  · rename_i value hno hf
    have hne : ∀ names, value ≠ .array names := fun names he => hno names he
    exact .single ⟨[], .notList value⟩ (fun v => by simp [hf, hne]) rfl
  · rename_i hf
    exact .empty fun v => by simp [hf]

/-- In every schema, wherever it stands, what is found accounts for its violations. -/
def Accounted (root value : Json) : Prop :=
  ∀ place, Accounts (root.Violates value) (Violation.finding place)
    (checkSchema root place value).alone

theorem Accounted.under {inner : Json} (h : Accounted root inner) (place first : Place) :
    Accounts (fun v => ∃ w, root.Violates inner w ∧ w.under first = v) (Violation.finding place)
      (checkSchema root (place ++ first) inner).alone :=
  .image (Violation.under_injective first)
    ((h (place ++ first)).of_report fun w => (w.finding_under place first).symm)

theorem accounts_checkTable {keyword field expected : String} (hk : keyword ∈ tableKeywords)
    (hd : ∀ value, (Fault.table keyword value).defect =
      .invalidFormat field (excerpt value) expected)
    (hs : (Json.object fields).Sorted)
    (ih : ∀ first inner, Json.SchemaBelow fields first inner → Accounted root inner) :
    Accounts (root.ViolatesBehind fields keyword) (Violation.finding place)
      (checkTable root place fields keyword field expected).alone := by
  refine .of_iff (fun v => violatesBehind_table_iff hk) ?_
  rw [(emits_checkTable hk (appendsBelow root fields)).alone_eq]
  split
  · rename_i schemas hf
    refine .of_iff (fun v => by simp [hf]) (Accounts.flatMap (P := fun p v =>
      ∃ w, root.Violates p.2 w ∧ w.under [.field keyword, .field p.1] = v) (fun p hp => ?_) ?_)
    · rw [show (place.field keyword).field p.1 = place ++ [.field keyword, .field p.1] by
        simp [Place.field]]
      exact (ih _ _ (.entry hk hf hp)).under place _
    · refine (hs.of_field? hf).1.imp fun {p q} hlt v h h' => ?_
      obtain ⟨w, -, rfl⟩ := h
      obtain ⟨w', -, he⟩ := h'
      have hpq : q.1 = p.1 ∧ w'.route = w.route := by
        simpa [Violation.under] using congrArg Violation.route he
      exact Std.lt_irrefl (hpq.1 ▸ hlt)
  · rename_i value hno hf
    have hne : ∀ schemas, value ≠ .object schemas := fun schemas he => hno schemas he
    refine .single ⟨[], .table keyword value⟩ (fun v => by simp [hf, hne]) ?_
    rw [Violation.finding, hd]
    rfl
  · rename_i hf
    exact .empty fun v => by simp [hf]

/-- The index of the item that a route leads into with its second step. -/
def secondIndex (route : Place) : Nat :=
  match route with
  | _ :: .item k :: _ => k
  | _ => 0

theorem accounts_checkItems
    (ih : ∀ first inner, Json.SchemaBelow fields first inner → Accounted root inner) :
    Accounts (root.ViolatesBehind fields "items") (Violation.finding place)
      (checkItems root place fields).alone := by
  refine .of_iff (fun v => violatesBehind_items_iff) ?_
  rw [(emits_checkItems (appendsBelow root fields)).alone_eq]
  split
  · rename_i schemas hf
    refine .of_iff (fun v => by simp [hf]) (Accounts.zipIdx (P := fun p v =>
      ∃ w, root.Violates p.1 w ∧ w.under [.field "items", .item p.2] = v)
        (fun v => secondIndex v.route) (fun p hp => ?_) ?_)
    · rw [show (place.field "items").item p.2 = place ++ [.field "items", .item p.2] by
        simp [Place.field, Place.item]]
      exact (ih _ _ (.position hf (List.mem_zipIdx_iff_getElem?.1 hp))).under place _
    · rintro p v ⟨w, -, rfl⟩
      rfl
  · rename_i inner hno hf
    have hne : ∀ schemas, inner ≠ .array schemas := fun schemas he => hno schemas he
    exact .of_iff (fun v => by simp [hf, hne])
      ((ih _ _ (.items hf hne)).under place _)
  · rename_i hf
    exact .empty fun v => by simp [hf]

/-- The findings in an object, keyword by keyword. -/
def keywordFindings (root : Json) (place : Place) (fields : List (String × Json)) :
    List (String × List Finding) :=
  [("type", (checkType place fields).alone),
   ("properties", (checkTable root place fields "properties" "schema properties"
     "an object of property schemas").alone),
   ("required", (checkRequired place fields).alone),
   ("items", (checkItems root place fields).alone),
   ("$ref", (checkReference root place fields).alone),
   ("definitions", (checkTable root place fields "definitions" "schema definitions"
     "an object of named schemas").alone),
   ("$defs", (checkTable root place fields "$defs" "schema definitions"
     "an object of named schemas").alone)]

theorem checkSchema_object : (checkSchema root place (.object fields)).alone =
    (keywordFindings root place fields).flatMap (·.2) := by
  rw [(emits_checkObject (appendsBelow root fields)).alone_eq]
  simp [keywordFindings]

theorem accounted_object (hs : (Json.object fields).Sorted)
    (ih : ∀ first inner, Json.SchemaBelow fields first inner → Accounted root inner) :
    Accounted root (.object fields) := by
  intro place
  have hkeys : (keywordFindings root place fields).map (·.1) =
    ["type", "properties", "required", "items", "$ref", "definitions", "$defs"] := rfl
  rw [checkSchema_object]
  refine .of_iff (fun v => ?_) (Accounts.flatMap
    (P := fun p v => root.ViolatesBehind fields p.1 v) ?_ ?_)
  · constructor
    · intro h
      obtain ⟨keyword, hk, hv⟩ := h.exists_behind
      have hk' : keyword ∈ (keywordFindings root place fields).map (·.1) := by
        rw [hkeys]
        exact (by decide : "items" :: schemaKeywords ⊆ _) hk
      obtain ⟨p, hp, rfl⟩ := List.mem_map.1 hk'
      exact ⟨p, hp, hv⟩
    · rintro ⟨p, -, hv⟩
      exact hv.1
  · simp only [keywordFindings, List.forall_mem_cons]
    exact ⟨accounts_checkType, accounts_checkTable (by decide) (fun _ => rfl) hs ih,
      accounts_checkRequired, accounts_checkItems ih, accounts_checkReference,
      accounts_checkTable (by decide) (fun _ => rfl) hs ih,
      accounts_checkTable (by decide) (fun _ => rfl) hs ih, nofun⟩
  · have hn : ((keywordFindings root place fields).map (·.1)).Nodup := by
      rw [hkeys]
      decide
    refine (List.pairwise_map.1 hn).imp fun {p q} hpq v h h' => ?_
    have he : some (Step.field p.1) = some (.field q.1) := h.2.symm.trans h'.2
    exact hpq (by simpa using he)

/-- What is found in a value accounts for its violations. -/
theorem accounted (root value : Json) (hs : value.Sorted) : Accounted root value := by
  cases value with
  | object fields =>
    refine accounted_object hs fun first inner hb => ?_
    have := hb.sizeOf_lt
    exact accounted root inner (hb.sorted hs)
  | _ =>
    intro place
    rw [(emits_checkSchema_of_ne (by simp)).alone_eq]
    exact .single ⟨[], .notObject _⟩ (fun v => Json.violates_iff_of_ne (by simp))
      (Violation.finding_notObject place _)
termination_by sizeOf value
decreasing_by
  subst_vars
  simp only [Json.object.sizeOf_spec]
  omega

/-- The violation is one of what stands as schemas of an entity at a place. -/
def HeldAt (place : Place) (input output : Option Schema) (p : Place × Violation) : Prop :=
  ∃ schema : Schema, ((p.1 = place.field "input_schema" ∧ input = some schema) ∨
    (p.1 = place.field "output_schema" ∧ output = some schema)) ∧
      schema.value.Violates schema.value p.2

/-- What is reported on a violation of the schema at a place. -/
def violationFinding (p : Place × Violation) : Finding := p.2.finding p.1

theorem accounts_checkOptional (place : Place) (schema : Option Schema) :
    Accounts (fun p => ∃ found : Schema, (p.1 = place ∧ schema = some found) ∧
      found.value.Violates found.value p.2) violationFinding
      (checkOptional place schema).alone := by
  rw [(emits_checkOptional place schema).alone_eq]
  cases schema with
  | none => exact .empty fun p hp => by simp at hp
  | some schema =>
    have hinj : Function.Injective fun v : Violation => (place, v) := fun v w h => by simpa using h
    refine .of_iff (fun p => ?_)
      (.image hinj (accounted schema.value schema.value schema.sorted place))
    obtain ⟨there, v⟩ := p
    simp only [Option.some.injEq, Prod.mk.injEq]
    constructor
    · rintro ⟨found, ⟨rfl, rfl⟩, hv⟩
      exact ⟨v, hv, rfl, rfl⟩
    · rintro ⟨w, hv, rfl, rfl⟩
      exact ⟨schema, ⟨rfl, rfl⟩, hv⟩

theorem accounts_checkBoth (place : Place) (input output : Option Schema) :
    Accounts (HeldAt place input output) violationFinding
      (checkBoth place input output).alone := by
  rw [(emits_checkBoth place input output).alone_eq]
  refine .of_iff (fun p => ?_)
    ((accounts_checkOptional (place.field "input_schema") input).append
      (accounts_checkOptional (place.field "output_schema") output) ?_)
  · simp only [HeldAt, or_and_right, exists_or]
  · rintro p ⟨schema, ⟨hi, -⟩, -⟩ ⟨schema', ⟨ho, -⟩, -⟩
    rw [hi] at ho
    simp [Place.field] at ho

/-- The violation is one of a schema of the modules or the tools in a list. -/
def HeldBy (list : String) (parts : List Capability) (p : Place × Violation) : Prop :=
  ∃ q ∈ parts.zipIdx, HeldAt (.entry list q.2) q.1.inputSchema q.1.outputSchema p

theorem HeldBy.head? {list : String} {parts : List Capability} {p : Place × Violation}
    (h : HeldBy list parts p) : p.1.head? = some (.field list) := by
  obtain ⟨q, -, schema, ⟨hp, -⟩ | ⟨hp, -⟩, -⟩ := h <;> rw [hp] <;> rfl

theorem accounts_capabilities (list : String) (parts : List Capability) :
    Accounts (HeldBy list parts) violationFinding (parts.zipIdx.flatMap fun (part, i) =>
      (checkBoth (.entry list i) part.inputSchema part.outputSchema).alone) := by
  refine Accounts.zipIdx (fun p => secondIndex p.1) (fun q _ => accounts_checkBoth _ _ _)
    fun q p h => ?_
  obtain ⟨schema, ⟨hp, -⟩ | ⟨hp, -⟩, -⟩ := h <;> rw [hp] <;> rfl

end Rule

/-- A violation of a schema of an agent, with the place of the schema. -/
def Agent.Violates (agent : Agent) (p : Place × Violation) : Prop :=
  ∃ schema, agent.SchemaAt p.1 schema ∧ schema.value.Violates schema.value p.2

namespace Rule

variable {agent : Agent}

theorem violates_iff {p : Place × Violation} : agent.Violates p ↔
    (HeldAt [] agent.inputSchema agent.outputSchema p ∨ HeldBy "modules" agent.modules p) ∨
      HeldBy "tools" agent.tools p := by
  obtain ⟨place, v⟩ := p
  constructor
  · intro h
    obtain ⟨schema, hs, hv⟩ := h
    cases hs with
    | input h => exact .inl (.inl ⟨schema, .inl ⟨rfl, h⟩, hv⟩)
    | output h => exact .inl (.inl ⟨schema, .inr ⟨rfl, h⟩, hv⟩)
    | partInput hc h =>
      cases hc with
      | module hm =>
        exact .inl (.inr ⟨(_, _), List.mem_zipIdx_iff_getElem?.2 hm, schema, .inl ⟨rfl, h⟩, hv⟩)
      | tool ht =>
        exact .inr ⟨(_, _), List.mem_zipIdx_iff_getElem?.2 ht, schema, .inl ⟨rfl, h⟩, hv⟩
    | partOutput hc h =>
      cases hc with
      | module hm =>
        exact .inl (.inr ⟨(_, _), List.mem_zipIdx_iff_getElem?.2 hm, schema, .inr ⟨rfl, h⟩, hv⟩)
      | tool ht =>
        exact .inr ⟨(_, _), List.mem_zipIdx_iff_getElem?.2 ht, schema, .inr ⟨rfl, h⟩, hv⟩
  · intro h
    rcases h with (⟨schema, ⟨rfl, h⟩ | ⟨rfl, h⟩, hv⟩ | ⟨q, hq, schema, ⟨rfl, h⟩ | ⟨rfl, h⟩, hv⟩) |
      ⟨q, hq, schema, ⟨rfl, h⟩ | ⟨rfl, h⟩, hv⟩
    · exact ⟨schema, .input h, hv⟩
    · exact ⟨schema, .output h, hv⟩
    · exact ⟨schema, .partInput (.module (List.mem_zipIdx_iff_getElem?.1 hq)) h, hv⟩
    · exact ⟨schema, .partOutput (.module (List.mem_zipIdx_iff_getElem?.1 hq)) h, hv⟩
    · exact ⟨schema, .partInput (.tool (List.mem_zipIdx_iff_getElem?.1 hq)) h, hv⟩
    · exact ⟨schema, .partOutput (.tool (List.mem_zipIdx_iff_getElem?.1 hq)) h, hv⟩

theorem HeldAt.head? {input output : Option Schema} {p : Place × Violation}
    (h : HeldAt [] input output p) :
    p.1.head? = some (.field "input_schema") ∨ p.1.head? = some (.field "output_schema") := by
  obtain ⟨schema, ⟨hp, -⟩ | ⟨hp, -⟩, -⟩ := h
  · exact .inl (by rw [hp]; rfl)
  · exact .inr (by rw [hp]; rfl)

theorem accounts_schemaFindings (agent : Agent) :
    Accounts agent.Violates violationFinding (schemaFindings agent) := by
  rw [schemaFindings, (emits_checkSchemas agent).alone_eq]
  refine .of_iff (fun p => violates_iff)
    (((accounts_checkBoth [] _ _).append (accounts_capabilities "modules" agent.modules) ?_).append
      (accounts_capabilities "tools" agent.tools) ?_)
  · intro p h hm
    have := h.head?
    simp [hm.head?] at this
  · intro p h ht
    rcases h with h | h
    · have := h.head?
      simp [ht.head?] at this
    · have := h.head?
      simp [ht.head?] at this

/-- No schema stands inside of another one. -/
theorem schemaAt_unique {place place' x y : Place} {schema schema' : Schema}
    (h : agent.SchemaAt place schema) (h' : agent.SchemaAt place' schema')
    (he : place ++ x = place' ++ y) : place = place' ∧ schema = schema' := by
  -- Two places of schemas differ in the first step, in the index or in the last field.
  rcases h with h | h | ⟨_ | _, h⟩ | ⟨_ | _, h⟩ <;>
  rcases h' with h' | h' | ⟨_ | _, h'⟩ | ⟨_ | _, h'⟩ <;>
  simp_all [Place.top, Place.entry, Place.field]

/-- The findings about the schemas of an agent correspond one to one to their violations. Each is
found at the end of the route to the culprit, and nothing is found in a schema without any. -/
theorem schemas_exact (terms : List String) (agent : Agent) :
    (∃ violations : List (Place × Violation), violations.Nodup ∧
      (∀ place v, (place, v) ∈ violations ↔ ∃ schema, agent.SchemaAt place schema ∧
        schema.value.Violates schema.value v) ∧
      Rule.schemas.check terms agent = violations.map fun p =>
        .error (p.1 ++ p.2.route ++ p.2.fault.steps) p.2.fault.defect) ∧
    ∀ place schema, agent.SchemaAt place schema →
      (∀ v, ¬ schema.value.Violates schema.value v) →
      ∀ f ∈ Rule.schemas.check terms agent, ¬ place <+: f.place := by
  obtain ⟨violations, hn, hm, hfound⟩ := accounts_schemaFindings agent
  have he : Rule.schemas.check terms agent = violations.map violationFinding := hfound
  refine ⟨⟨violations, hn, fun place v => hm (place, v), ?_⟩, fun place schema hs hno f hf hp => ?_⟩
  · rw [he]
    refine List.map_congr_left fun p _ => ?_
    rw [violationFinding, Violation.finding, Violation.steps, List.append_assoc]
  · rw [he] at hf
    obtain ⟨p, hp', rfl⟩ := List.mem_map.1 hf
    obtain ⟨schema', hs', hv⟩ := (hm p).1 hp'
    obtain ⟨x, hx⟩ := hp
    obtain ⟨-, rfl⟩ := schemaAt_unique hs hs' hx
    exact hno _ hv

end Rule

end AgentSpec
