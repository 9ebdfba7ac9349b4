import AgentSpec.Proofs.Json.Sorted
import AgentSpec.Proofs.Yaml.Tree
import Mathlib.Data.List.Forall2

/-! Reading plain nodes: what a shape makes of a node whose JSON value is known. -/
namespace AgentSpec.Yaml

variable {scope : Scope} {node : Node} {value : Json} {α : Type}

namespace Node

theorem scalar_of_tree? (h : node.tree? = some value) (hd : value.depth = 0) :
    ∃ style text meaning, node = .scalar none style text ∧
      scalarMeaning none style text = .ok meaning ∧ meaning.tree? text = some value := by
  unfold tree? at h
  split at h
  · rename_i style text
    split at h
    · rename_i meaning hm
      exact ⟨style, text, meaning, rfl, hm, h⟩
    · cases h
  · obtain ⟨values, -, rfl⟩ := Option.map_eq_some_iff.1 h
    simp [Json.depth] at hd
  · obtain ⟨fields, -, rfl⟩ := Option.map_eq_some_iff.1 h
    simp [Json.depth] at hd
  all_goals cases h

theorem sequence_of_tree? {values : List Json} (h : node.tree? = some (.array values)) :
    ∃ items, node = .sequence none items ∧ treeItems? items = some values := by
  unfold tree? at h
  split at h
  · split at h
    · rename_i meaning _
      cases meaning <;> simp [Meaning.tree?] at h
    · cases h
  · obtain ⟨values, hv, he⟩ := Option.map_eq_some_iff.1 h
    cases he
    exact ⟨_, rfl, hv⟩
  · obtain ⟨fields, -, he⟩ := Option.map_eq_some_iff.1 h
    cases he
  all_goals cases h

theorem mapping_of_tree? {fields : List (String × Json)} (h : node.tree? = some (.object fields)) :
    ∃ entries, node = .mapping none entries ∧ treeFields? entries = some fields := by
  unfold tree? at h
  split at h
  · split at h
    · rename_i meaning _
      cases meaning <;> simp [Meaning.tree?] at h
    · cases h
  · obtain ⟨values, -, he⟩ := Option.map_eq_some_iff.1 h
    cases he
  · obtain ⟨fields, hf, he⟩ := Option.map_eq_some_iff.1 h
    cases he
    exact ⟨_, rfl, hf⟩
  all_goals cases h

theorem treeItems?_cons {item : Node} {rest : List Node} {values : List Json}
    (h : treeItems? (item :: rest) = some values) :
    ∃ v vs, values = v :: vs ∧ item.tree? = some v ∧ treeItems? rest = some vs := by
  unfold treeItems? at h
  split at h
  · rename_i v vs hv hvs
    exact ⟨v, vs, (Option.some.inj h).symm, hv, hvs⟩
  · cases h

theorem treeFields?_cons {key val : Node} {rest : List (Node × Node)}
    {fields : List (String × Json)} (h : treeFields? ((key, val) :: rest) = some fields) :
    ∃ name v vs, fields = (name, v) :: vs ∧ key.tree? = some (.string name) ∧
      val.tree? = some v ∧ treeFields? rest = some vs := by
  unfold treeFields? at h
  split at h
  · rename_i name v vs hk hv hvs
    exact ⟨name, v, vs, (Option.some.inj h).symm, hk, hv, hvs⟩
  · cases h

end Node

theorem resolve_of_tree? (scope : Scope) (h : node.tree? = some value) :
    scope.resolve node = pure node := by
  unfold Scope.resolve
  split
  · cases h
  · rfl

theorem enter_of_lt {n : Nat} (h : n + 1 ≤ scope.depth) :
    ∃ inner : Scope, scope.enter = pure inner ∧ inner.depth + 1 = scope.depth := by
  obtain ⟨document, place, depth⟩ := scope
  cases depth with
  | zero => exact (Nat.not_succ_le_zero n h).elim
  | succ depth => exact ⟨⟨document, place, depth⟩, rfl, rfl⟩

namespace Shape

/-- Reading a node that stands for a JSON value gives `a`, wherever there is depth enough. -/
def Reads (shape : Shape α) (value : Json) (a : α) : Prop :=
  ∀ (scope : Scope) (node : Node), node.tree? = some value → value.depth ≤ scope.depth →
    shape scope node = pure a

theorem reads_textAs (wanted text : String) : (textAs wanted).Reads (.string text) text := by
  intro scope node h _
  have hr := resolve_of_tree? scope h
  obtain ⟨style, s, meaning, rfl, -, ht⟩ := Node.scalar_of_tree? h rfl
  have hs : s = text := by
    cases meaning <;> simp_all [Meaning.tree?]
  unfold textAs
  rw [hr, pure_bind, hs]

theorem ofTag?_none : StandardType.ofTag? none = none := by decide

theorem Reads.optional {shape : Shape α} {a : α} (hs : shape.Reads value a)
    (hv : value ≠ .null) : (optional shape).Reads value (some a) := by
  intro scope node h hd
  unfold Shape.optional
  rw [resolve_of_tree? scope h, pure_bind]
  split
  · rename_i tag text
    cases tag with
    | some tag => cases h
    | none =>
      have hn : ¬ (text.isEmpty || isNull text) = true := by
        intro hn
        have hm : meaning text = .null := by
          unfold meaning
          rw [if_pos hn]
        simp only [Node.tree?, scalarMeaning, ofTag?_none, hm] at h
        exact hv (Option.some.inj h).symm
      rw [ofTag?_none, if_neg (by simp), if_neg (by simpa using hn), hs scope _ h hd]
      rfl
  · cases h
  · rw [hs scope _ h hd]
    rfl

theorem Reads.map {β : Type} {shape : Shape α} {a : α} (hs : shape.Reads value a) (f : α → β) :
    Shape.Reads (fun scope node => f <$> shape scope node) value (f a) := by
  intro scope node h hd
  show f <$> shape scope node = _
  rw [hs scope node h hd, map_pure]

private theorem mapM_items {shape : Shape α} {values : List Json} {as : List α}
    (hs : List.Forall₂ shape.Reads values as) (inner : Scope)
    (hd : Json.itemsDepth values ≤ inner.depth) :
    ∀ {items : List Node}, Node.treeItems? items = some values → ∀ k,
      (items.zipIdx k).mapM (fun (item, index) => shape (inner.item index) item) = pure as := by
  induction hs with
  | nil =>
    intro items h k
    cases items with
    | nil => rfl
    | cons item rest =>
      obtain ⟨v, vs, he, -⟩ := Node.treeItems?_cons h
      cases he
  | cons hva _ ih =>
    intro items h k
    cases items with
    | nil => cases h
    | cons item rest =>
      obtain ⟨v, vs, he, hv, hvs⟩ := Node.treeItems?_cons h
      cases he
      unfold Json.itemsDepth at hd
      have hitem := hva (inner.item k) item hv (Nat.le_trans (Nat.le_max_left _ _) hd)
      have hrest := ih (Nat.le_trans (Nat.le_max_right _ _) hd) hvs (k + 1)
      rw [List.zipIdx_cons, List.mapM_cons]
      simp only [hitem, hrest, pure_bind]

theorem Reads.list {shape : Shape α} {values : List Json} {as : List α}
    (hs : List.Forall₂ shape.Reads values as) : (list shape).Reads (.array values) as := by
  intro scope node h hd
  obtain ⟨items, rfl, hi⟩ := Node.sequence_of_tree? h
  unfold Json.depth at hd
  obtain ⟨inner, he, hinner⟩ := enter_of_lt hd
  have hm := mapM_items hs inner (by omega) hi 0
  unfold Shape.list
  rw [resolve_of_tree? scope h, pure_bind]
  simp only [he, pure_bind]
  exact hm

theorem reads_choice {name : α → String} {all : List α} {a : α}
    (h : (all.map fun value => (name value, value)).lookup (name a) = some a) :
    (choice (all.map fun value => (name value, value))).Reads (.string (name a)) a := by
  intro scope node ht _
  have hr := resolve_of_tree? scope ht
  obtain ⟨style, s, meaning, rfl, -, hm⟩ := Node.scalar_of_tree? ht rfl
  have hs : s = name a := by
    cases meaning <;> simp_all [Meaning.tree?]
  subst hs
  unfold choice
  rw [hr, pure_bind]
  simp [h]

private theorem mapM_fields {part : Shape Json} (inner : Scope) :
    ∀ {fields : List (String × Json)} {entries : List (Node × Node)} (k : Nat),
      (∀ field ∈ fields, part.Reads field.2 field.2) →
      Json.fieldsDepth fields ≤ inner.depth → Node.treeFields? entries = some fields →
      (entries.zipIdx k).mapM (fun ((key, value), index) => do
        let name ← textAs (if index = 0 then "a string key" else "a string") inner key
        let value ← part (inner.field (keyStep key name)) value
        pure (name, value)) = pure fields := by
  intro fields entries
  induction entries generalizing fields with
  | nil =>
    intro k _ _ h
    cases h
    rfl
  | cons entry rest ih =>
    obtain ⟨key, val⟩ := entry
    intro k hp hd h
    obtain ⟨name, v, vs, rfl, hk, hv, hvs⟩ := Node.treeFields?_cons h
    unfold Json.fieldsDepth at hd
    have hkey := reads_textAs (if k = 0 then "a string key" else "a string") name inner key hk
      (Nat.zero_le _)
    have hval := hp (name, v) (by simp) (inner.field (keyStep key name)) val hv
      (Nat.le_trans (Nat.le_max_left _ _) hd)
    have hrest := ih (k + 1) (fun field hf => hp field (List.mem_cons_of_mem _ hf))
      (Nat.le_trans (Nat.le_max_right _ _) hd) hvs
    rw [List.zipIdx_cons, List.mapM_cons]
    simp only [hkey, hval, pure_bind, hrest]

theorem scalarJson_of_tree? {style : Style} {text : String} {meaning : Meaning}
    (hm : scalarMeaning none style text = .ok meaning) (ht : meaning.tree? text = some value) :
    scalarJson scope none style text = pure value := by
  unfold scalarJson
  rw [hm]
  cases meaning <;> simp_all [Meaning.tree?]

/-- Reading a list or an object as JSON reads its parts, which are less deep. -/
theorem Reads.json {part : Shape Json} (hs : value.Sorted)
    (hp : ∀ inner : Json, inner.Sorted → inner.depth < value.depth → part.Reads inner inner) :
    (jsonOf part).Reads value value := by
  intro scope node h hd
  unfold jsonOf
  rw [resolve_of_tree? scope h, pure_bind]
  cases value with
  | array items =>
    obtain ⟨nodes, rfl, hi⟩ := Node.sequence_of_tree? h
    unfold Json.depth at hd
    obtain ⟨inner, he, hinner⟩ := enter_of_lt hd
    have hparts : List.Forall₂ part.Reads items items := by
      refine List.forall₂_same.2 fun item hm => hp item ?_ ?_
      · exact Json.sortedItems_iff.1 hs item hm
      · exact Nat.lt_succ_of_le (Json.depth_le_itemsDepth hm)
    have hm := mapM_items hparts inner (by omega) hi 0
    simp only [Option.bind_none, Option.isSome_none, Bool.false_eq_true, if_false, he, pure_bind]
    rw [hm, pure_bind]
  | object fields =>
    obtain ⟨entries, rfl, hf⟩ := Node.mapping_of_tree? h
    unfold Json.depth at hd
    obtain ⟨inner, he, hinner⟩ := enter_of_lt hd
    have hparts : ∀ field ∈ fields, part.Reads field.2 field.2 := by
      intro field hm
      refine hp field.2 (Json.sortedFields_iff.1 hs.2 field hm) ?_
      exact Nat.lt_succ_of_le (Json.depth_le_fieldsDepth hm)
    have hm := mapM_fields inner 0 hparts (by omega) hf
    simp only [Option.bind_none, Option.isSome_none, Bool.false_eq_true, if_false, he, pure_bind]
    rw [hm, pure_bind, Json.sortFields_of_sorted hs.1]
  | _ =>
    obtain ⟨style, text, meaning, rfl, hm, ht⟩ := Node.scalar_of_tree? h rfl
    exact scalarJson_of_tree? hm ht

theorem reads_jsonWithin : ∀ (fuel : Nat) {value : Json}, value.Sorted → value.depth ≤ fuel →
    (jsonWithin fuel).Reads value value := by
  intro fuel
  induction fuel with
  | zero =>
    intro value hs hd
    exact Reads.json hs fun inner _ h => absurd h (by omega)
  | succ fuel ih =>
    intro value hs hd
    exact Reads.json hs fun inner hi h => ih hi (by omega)

theorem reads_json (hs : value.Sorted) : json.Reads value value := fun scope node h hd =>
  reads_jsonWithin scope.depth hs hd scope node h hd

end Shape

end AgentSpec.Yaml
