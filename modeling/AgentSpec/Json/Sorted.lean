import AgentSpec.Json.Value

/-! Values whose objects list every name once and in ascending order. -/
namespace AgentSpec.Json

mutual

/-- Whether the fields of every object are in ascending order, without repetition. -/
def Sorted : Json → Prop
  | .array items => SortedItems items
  | .object fields => fields.Pairwise (fun a b => a.1 < b.1) ∧ SortedFields fields
  | .null | .bool _ | .number _ | .string _ => True

def SortedItems : List Json → Prop
  | [] => True
  | item :: rest => item.Sorted ∧ SortedItems rest

def SortedFields : List (String × Json) → Prop
  | [] => True
  | (_, value) :: rest => value.Sorted ∧ SortedFields rest

end

mutual

/-- The value with the fields of every object sorted; of several with one name the last counts. -/
def sort : Json → Json
  | .array items => .array (sortItems items)
  | .object fields => .object (sortFields (sortValues fields))
  | .null => .null
  | .bool b => .bool b
  | .number n => .number n
  | .string s => .string s

def sortItems : List Json → List Json
  | [] => []
  | item :: rest => item.sort :: sortItems rest

def sortValues : List (String × Json) → List (String × Json)
  | [] => []
  | (name, value) :: rest => (name, value.sort) :: sortValues rest

end

theorem mem_setField {name : String} {value : Json} {fields : List (String × Json)}
    {field : String × Json} (h : field ∈ setField name value fields) :
    field = (name, value) ∨ field ∈ fields := by
  induction fields with
  | nil => simpa [setField] using h
  | cons first rest ih =>
    obtain ⟨key, old⟩ := first
    simp only [setField] at h
    split at h
    · rcases List.mem_cons.1 h with h | h
      · exact .inl h
      · exact .inr (List.mem_cons_of_mem _ h)
    · split at h
      · rcases List.mem_cons.1 h with h | h
        · exact .inl h
        · exact .inr h
      · rcases List.mem_cons.1 h with h | h
        · exact .inr (by simp [h])
        · rcases ih h with h | h
          · exact .inl h
          · exact .inr (List.mem_cons_of_mem _ h)

theorem pairwise_setField (name : String) (value : Json) {fields : List (String × Json)}
    (h : fields.Pairwise (fun a b => a.1 < b.1)) :
    (setField name value fields).Pairwise (fun a b => a.1 < b.1) := by
  induction fields with
  | nil => simp [setField]
  | cons first rest ih =>
    obtain ⟨key, old⟩ := first
    obtain ⟨hfirst, hrest⟩ := List.pairwise_cons.1 h
    simp only [setField]
    split
    · rename_i heq
      subst heq
      exact List.pairwise_cons.2 ⟨hfirst, hrest⟩
    · split
      · rename_i hlt
        refine List.pairwise_cons.2 ⟨fun field hfield => ?_, h⟩
        rcases List.mem_cons.1 hfield with rfl | hfield
        · exact hlt
        · exact Std.lt_trans hlt (hfirst field hfield)
      · rename_i hne hlt
        refine List.pairwise_cons.2 ⟨fun field hfield => ?_, ih hrest⟩
        rcases mem_setField hfield with rfl | hfield
        · exact Std.lt_of_le_of_ne hlt fun heq => hne heq.symm
        · exact hfirst field hfield

theorem sortedFields_iff {fields : List (String × Json)} :
    SortedFields fields ↔ ∀ field ∈ fields, field.2.Sorted := by
  induction fields with
  | nil => simp [SortedFields]
  | cons first rest ih => obtain ⟨_, _⟩ := first; simp [SortedFields, ih]

theorem sorted_sortFields {fields : List (String × Json)} (h : SortedFields fields) :
    (Json.object (sortFields fields)).Sorted := by
  suffices ∀ sorted : List (String × Json), (Json.object sorted).Sorted →
      (Json.object (fields.foldl (fun sorted field => setField field.1 field.2 sorted)
        sorted)).Sorted from this [] (by simp [Sorted, SortedFields])
  induction fields with
  | nil => exact fun _ hsorted => hsorted
  | cons first rest ih =>
    obtain ⟨name, value⟩ := first
    obtain ⟨hvalue, hrest⟩ := h
    intro sorted hsorted
    refine ih hrest _ ⟨pairwise_setField name value hsorted.1, sortedFields_iff.2 ?_⟩
    intro field hfield
    rcases mem_setField hfield with rfl | hfield
    · exact hvalue
    · exact sortedFields_iff.1 hsorted.2 field hfield

mutual

theorem sorted_sort : (value : Json) → value.sort.Sorted
  | .array items => by simpa [sort, Sorted] using sortedItems_sortItems items
  | .object fields => sorted_sortFields (sortedFields_sortValues fields)
  | .null | .bool _ | .number _ | .string _ => by simp [sort, Sorted]

theorem sortedItems_sortItems : (items : List Json) → SortedItems (sortItems items)
  | [] => by simp [sortItems, SortedItems]
  | item :: rest => by
    simpa [sortItems, SortedItems] using ⟨sorted_sort item, sortedItems_sortItems rest⟩

theorem sortedFields_sortValues : (fields : List (String × Json)) →
    SortedFields (sortValues fields)
  | [] => by simp [sortValues, SortedFields]
  | (_, value) :: rest => by
    simpa [sortValues, SortedFields] using ⟨sorted_sort value, sortedFields_sortValues rest⟩

end

end AgentSpec.Json
