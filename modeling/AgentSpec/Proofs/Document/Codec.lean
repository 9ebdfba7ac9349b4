import AgentSpec.Document.Codec
import AgentSpec.Proofs.Yaml.Reading

/-! Codecs that read what they write, and the fields that make up such a codec for records. -/
namespace AgentSpec.Codec

variable {α σ : Type} {codec : Codec α} {record s t : σ}

/-- What is written for a value is read as that value. -/
def Restores (codec : Codec α) (a : α) : Prop := codec.read.Reads (codec.write a) a

theorem text_restores (a : String) : text.Restores a := Yaml.Shape.reads_textAs "a string" a

theorem list_restores {as : List α} (h : ∀ a ∈ as, codec.Restores a) :
    codec.list.Restores as := by
  refine Yaml.Shape.Reads.list ?_
  rw [List.forall₂_map_left_iff]
  exact List.forall₂_same.2 h

theorem choice_restores {name : α → String} {all : List α} {a : α}
    (h : (all.map fun value => (name value, value)).lookup (name a) = some a) :
    (choice name all).Restores a := Yaml.Shape.reads_choice h

theorem schema_restores (a : Schema) : schema.Restores a := by
  have h := (Yaml.Shape.reads_json a.sorted).map Schema.ofJson
  rwa [Schema.ofJson_value] at h

namespace Field

/-- A field of `record`, read into `s`, makes it `t`. An unwritten field changes nothing. -/
def Sets (field : Field σ) (record s t : σ) : Prop :=
  match field.write record with
  | none => s = t
  | some value => Yaml.Shape.Reads (fun scope node => field.reading.read scope node s) value t

theorem sets_unwritten {field : Field σ} (h : field.write record = none) (hs : s = t) :
    field.Sets record s t := by
  unfold Sets
  rw [h]
  exact hs

theorem sets_written {field : Field σ} {value : Json} (h : field.write record = some value)
    (hr : Yaml.Shape.Reads (fun scope node => field.reading.read scope node s) value t) :
    field.Sets record s t := by
  unfold Sets
  rw [h]
  exact hr

theorem always_sets {name : String} {get : σ → α} {put : α → σ → σ}
    (h : codec.Restores (get record)) :
    (always name codec get put).Sets record s (put (get record) s) :=
  sets_written rfl (h.map fun a => put a s)

theorem optional_sets {name : String} {get : σ → Option α} {put : Option α → σ → σ}
    (h : ∀ a ∈ get record, codec.Restores a) (hw : ∀ a, codec.write a ≠ .null)
    (hs : put none s = s) :
    (optional name codec get put).Sets record s (put (get record) s) := by
  cases hg : get record with
  | none => exact sets_unwritten (by simp [optional, hg]) hs.symm
  | some a =>
    have hr := ((h a (by simp [hg])).optional (hw a)).map fun a => put a s
    exact sets_written (by simp [optional, hg]) hr

theorem present_sets {name : String} {get : σ → Option α} {put : Option α → σ → σ}
    (h : ∀ a ∈ get record, codec.Restores a) (hs : put none s = s) :
    (present name codec get put).Sets record s (put (get record) s) := by
  cases hg : get record with
  | none => exact sets_unwritten (by simp [present, hg]) hs.symm
  | some a =>
    have hr := (h a (by simp [hg])).map fun a => put (some a) s
    exact sets_written (by simp [present, hg]) hr

theorem many_sets {name : String} {get : σ → List α} {put : List α → σ → σ}
    (h : ∀ a ∈ get record, codec.Restores a) (hs : put [] s = s) :
    (many name codec get put).Sets record s (put (get record) s) := by
  cases hg : get record with
  | nil => exact sets_unwritten (by simp [many, hg]) hs.symm
  | cons a as =>
    have hl : codec.list.Restores (a :: as) := list_restores (by rwa [hg] at h)
    exact sets_written (by simp [many, hg]) (hl.map fun a => put a s)

/-- The fields of `record`, read one after the other into a first state, make it the last. -/
inductive Fill (record : σ) : List (Field σ) → σ → σ → Prop
  | nil {s : σ} : Fill record [] s s
  | cons {field : Field σ} {rest : List (Field σ)} {s s' t : σ} (h : field.Sets record s s')
    (hr : Fill record rest s' t) : Fill record (field :: rest) s t

end Field

theorem find?_reading {fields : List (Field σ)} {field : Field σ}
    (hn : (fields.map (·.reading.name)).Nodup) (h : field ∈ fields) :
    (fields.map (·.reading)).find? (·.name == field.reading.name) = some field.reading := by
  induction fields with
  | nil => cases h
  | cons first rest ih =>
    rw [List.map_cons, List.nodup_cons] at hn
    rw [List.map_cons]
    rcases List.mem_cons.1 h with rfl | h
    · rw [List.find?_cons_of_pos (by simp)]
    · have hne : first.reading.name ≠ field.reading.name := by
        intro he
        exact hn.1 (he ▸ List.mem_map_of_mem h)
      rw [List.find?_cons_of_neg (by simpa using hne), ih hn.2 h]

theorem readFields_cons {fields : List (Field σ)} {field : Field σ} {scope : Yaml.Scope}
    {seen : List String} {key node : Yaml.Node} (rest : List (Yaml.Node × Yaml.Node))
    (hn : (fields.map (·.reading.name)).Nodup) (hf : field ∈ fields)
    (hs : field.reading.name ∉ seen) (hk : key.tree? = some (.string field.reading.name))
    (hr : ∀ scope' : Yaml.Scope, scope'.depth = scope.depth →
      field.reading.read scope' node s = pure t) :
    Yaml.Shape.readFields (fields.map (·.reading)) scope seen ((key, node) :: rest) s =
      Yaml.Shape.readFields (fields.map (·.reading)) scope (field.reading.name :: seen) rest t := by
  have ht := Yaml.Shape.reads_textAs "field identifier" _ scope key hk (Nat.zero_le _)
  have hc : ¬ seen.contains field.reading.name = true := by simpa using hs
  rw [Yaml.Shape.readFields, ht, pure_bind, find?_reading hn hf]
  simp only [if_neg hc, hr (scope.field _) rfl, pure_bind]

theorem readFields_of_fill {fields todo : List (Field σ)} (scope : Yaml.Scope)
    (hn : (fields.map (·.reading.name)).Nodup) (h : Field.Fill record todo s t) :
    ∀ (seen : List String) {entries : List (Yaml.Node × Yaml.Node)}, todo ⊆ fields →
      (todo.map (·.reading.name)).Nodup → (∀ field ∈ todo, field.reading.name ∉ seen) →
      Yaml.Node.treeFields? entries = some (todo.filterMap (·.entry record)) →
      Json.fieldsDepth (todo.filterMap (·.entry record)) ≤ scope.depth →
      Yaml.Shape.readFields (fields.map (·.reading)) scope seen entries s = pure t := by
  induction h with
  | nil =>
    intro seen entries _ _ _ ht _
    cases entries with
    | nil => rfl
    | cons entry rest =>
      obtain ⟨name, v, vs, he, -⟩ := Yaml.Node.treeFields?_cons ht
      cases he
  | @cons field rest s s' t hset _ ih =>
    intro seen entries hsub hnd hseen ht hd
    rw [List.map_cons, List.nodup_cons] at hnd
    rw [List.filterMap_cons] at ht hd
    have hsub' : rest ⊆ fields := fun f hf => hsub (List.mem_cons_of_mem _ hf)
    have hseen' : ∀ f ∈ rest, f.reading.name ∉ seen := fun f hf =>
      hseen f (List.mem_cons_of_mem _ hf)
    cases hw : field.write record with
    | none =>
      simp only [Field.entry, hw, Option.map_none] at ht hd
      unfold Field.Sets at hset
      rw [hw] at hset
      rw [hset]
      exact ih seen hsub' hnd.2 hseen' ht hd
    | some value =>
      simp only [Field.entry, hw, Option.map_some, Json.fieldsDepth] at ht hd
      unfold Field.Sets at hset
      rw [hw] at hset
      cases entries with
      | nil => cases ht
      | cons entry entries =>
        obtain ⟨key, node⟩ := entry
        obtain ⟨name, v, vs, hl, hkey, hval, hrest⟩ := Yaml.Node.treeFields?_cons ht
        cases hl
        rw [readFields_cons entries hn (hsub (by simp)) (hseen field (by simp)) hkey
          fun scope' hs => hset scope' node hval (hs ▸ Nat.le_trans (Nat.le_max_left _ _) hd)]
        have hrd := Nat.le_trans (Nat.le_max_right _ _) hd
        refine ih (field.reading.name :: seen) hsub' hnd.2 ?_ hrest hrd
        intro f hf hm
        rcases List.mem_cons.1 hm with hm | hm
        · exact hnd.1 (hm ▸ List.mem_map_of_mem hf)
        · exact hseen' f hf hm

/-- A record is restored if its fields have different names and fill the blank record. -/
theorem record_restores {name : String} {fields : List (Field σ)} {blank : σ}
    (hn : (fields.map (·.reading.name)).Nodup) (h : Field.Fill record fields blank record) :
    (Codec.record name fields blank).Restores record := by
  intro scope node ht hd
  obtain ⟨entries, rfl, hf⟩ := Yaml.Node.mapping_of_tree? ht
  simp only [Codec.record, Json.depth] at hd
  obtain ⟨inner, he, hinner⟩ := Yaml.enter_of_lt hd
  have hr := readFields_of_fill inner hn h [] (List.Subset.refl _) hn (by simp) hf (by omega)
  have hnode := Yaml.resolve_of_tree? scope ht
  simp only [Codec.record, Yaml.Shape.record, hnode, he, pure_bind]
  exact hr

end AgentSpec.Codec
