import AgentSpec.Definition.Schema
import Mathlib.Data.List.Basic

/-! Sorting changes nothing in a value that is sorted. -/
namespace AgentSpec.Json

theorem setField_append {name : String} (value : Json) {fields : List (String × Json)}
    (h : ∀ field ∈ fields, field.1 < name) :
    setField name value fields = fields ++ [(name, value)] := by
  induction fields with
  | nil => rfl
  | cons first rest ih =>
    obtain ⟨key, old⟩ := first
    have hlt : key < name := h (key, old) (by simp)
    have hne : name ≠ key := fun he => Std.lt_irrefl (a := name) (by rwa [← he] at hlt)
    rw [setField, if_neg hne, if_neg (Std.not_gt_of_lt hlt),
      ih fun field hf => h field (List.mem_cons_of_mem _ hf), List.cons_append]

theorem foldl_setField_append {fields sorted : List (String × Json)}
    (h : (sorted ++ fields).Pairwise (fun a b => a.1 < b.1)) :
    fields.foldl (fun sorted (name, value) => setField name value sorted) sorted =
      sorted ++ fields := by
  induction fields generalizing sorted with
  | nil => simp
  | cons first rest ih =>
    obtain ⟨name, value⟩ := first
    have hlt : ∀ field ∈ sorted, field.1 < name := fun field hf =>
      (List.pairwise_append.1 h).2.2 field hf (name, value) (by simp)
    have hs := setField_append value hlt
    rw [List.foldl_cons]
    simp only [hs]
    rw [ih (by simpa using h)]
    simp

theorem sortFields_of_sorted {fields : List (String × Json)}
    (h : fields.Pairwise (fun a b => a.1 < b.1)) : sortFields fields = fields :=
  foldl_setField_append (by simpa using h)

theorem sortedItems_iff {items : List Json} : SortedItems items ↔ ∀ item ∈ items, item.Sorted := by
  induction items with
  | nil => simp [SortedItems]
  | cons first rest ih => simp [SortedItems, ih]

mutual

theorem sort_of_sorted : (value : Json) → value.Sorted → value.sort = value
  | .array items, h => by
    unfold sort
    rw [sortItems_of_sorted items h]
  | .object fields, h => by
    unfold sort
    rw [sortValues_of_sorted fields h.2, sortFields_of_sorted h.1]
  | .null, _ | .bool _, _ | .number _, _ | .string _, _ => by simp [sort]

theorem sortItems_of_sorted : (items : List Json) → SortedItems items → sortItems items = items
  | [], _ => rfl
  | item :: rest, h => by
    unfold sortItems
    rw [sort_of_sorted item h.1, sortItems_of_sorted rest h.2]

theorem sortValues_of_sorted : (fields : List (String × Json)) → SortedFields fields →
    sortValues fields = fields
  | [], _ => rfl
  | (_, value) :: rest, h => by
    unfold sortValues
    rw [sort_of_sorted value h.1, sortValues_of_sorted rest h.2]

end

end AgentSpec.Json

namespace AgentSpec.Schema

theorem ofJson_value (schema : Schema) : ofJson schema.value = schema := by
  cases schema with
  | mk value sorted => simp [ofJson, Json.sort_of_sorted value sorted]

end AgentSpec.Schema
