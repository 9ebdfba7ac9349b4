import AgentSpec.Graph.Names
import Std.Data.TreeMap.Lemmas

/-! Names and their numbers determine each other, and a table holds the names of its list. -/
namespace AgentSpec.NameTable

/-- The number of a name is its position among the names. -/
def Consistent (table : NameTable) : Prop :=
  ∀ name i, table.number? name = some i ↔ table.names[i]? = some name

theorem consistent_empty : Consistent empty := by
  intro name i
  simp [empty, number?]

theorem contains_eq_isSome (table : NameTable) (name : String) :
    table.contains name = (table.number? name).isSome :=
  Std.TreeMap.contains_eq_isSome_getElem?

theorem insert_of_contains {table : NameTable} {name : String} (h : table.contains name = true) :
    table.insert name = table := if_pos h

theorem insert_of_new {table : NameTable} {name : String} (h : ¬ table.contains name = true) :
    table.insert name =
      ⟨table.names.push name, table.numbers.insert name table.names.size⟩ := if_neg h

theorem number?_insert_of_new {table : NameTable} {name : String}
    (h : ¬ table.contains name = true) (other : String) :
    (table.insert name).number? other =
      if name = other then some table.names.size else table.number? other := by
  simp only [insert_of_new h, number?, Std.TreeMap.getElem?_insert,
    Std.LawfulEqCmp.compare_eq_iff_eq]

theorem Consistent.insert {table : NameTable} (h : table.Consistent) (name : String) :
    (table.insert name).Consistent := by
  intro other i
  by_cases hc : table.contains name
  · simpa [insert_of_contains hc] using h other i
  · have hnew : table.number? name = none := by
      rw [contains_eq_isSome] at hc
      simpa using hc
    rw [number?_insert_of_new hc, insert_of_new hc, Array.getElem?_push]
    by_cases ho : name = other
    · subst ho
      have hi : table.names[i]? ≠ some name := fun hi => by
        rw [(h name i).2 hi] at hnew
        cases hnew
      rw [if_pos rfl]
      by_cases hs : i = table.names.size
      · simp [hs]
      · simp only [if_neg hs, hi, iff_false, Option.some.injEq]
        exact fun he => hs he.symm
    · rw [if_neg ho, h other i]
      by_cases hs : i = table.names.size
      · simp [hs, ho]
      · rw [if_neg hs]

theorem consistent_foldl_insert (names : List String) {table : NameTable} (h : table.Consistent) :
    (names.foldl NameTable.insert table).Consistent := by
  induction names generalizing table with
  | nil => exact h
  | cons name rest ih => exact ih (h.insert name)

theorem consistent_ofList (names : List String) : (ofList names).Consistent :=
  consistent_foldl_insert names consistent_empty

theorem contains_insert (table : NameTable) (name other : String) :
    (table.insert name).contains other = true ↔ table.contains other = true ∨ name = other := by
  by_cases hc : table.contains name
  · rw [insert_of_contains hc]
    exact ⟨.inl, fun h => h.elim id fun he => he ▸ hc⟩
  · rw [contains_eq_isSome, number?_insert_of_new hc, contains_eq_isSome]
    by_cases ho : name = other <;> simp [ho]

theorem contains_foldl_insert (names : List String) (table : NameTable) (name : String) :
    (names.foldl NameTable.insert table).contains name = true ↔
      table.contains name = true ∨ name ∈ names := by
  induction names generalizing table with
  | nil => simp
  | cons first rest ih =>
    rw [List.foldl_cons, ih, contains_insert, List.mem_cons, eq_comm (a := first), or_assoc]

/-- A table holds the names of its list and no others. -/
theorem contains_ofList (names : List String) (name : String) :
    (ofList names).contains name = true ↔ name ∈ names := by
  unfold ofList
  rw [contains_foldl_insert]
  simp [empty, contains]

namespace Consistent

variable {table : NameTable} (h : table.Consistent)
include h

theorem lt_size {name : String} {i : Nat} (hn : table.number? name = some i) : i < table.size :=
  (Array.getElem?_eq_some_iff.1 ((h name i).1 hn)).1

theorem name_number? {name : String} {i : Nat} (hn : table.number? name = some i) :
    table.name i = name := by
  unfold NameTable.name
  rw [Array.getD_eq_getD_getElem?, (h _ i).1 hn, Option.getD_some]

theorem number?_name {i : Nat} (hi : i < table.size) : table.number? (table.name i) = some i := by
  have hg : table.names[i]? = some table.names[i] := Array.getElem?_eq_getElem hi
  have hn : table.name i = table.names[i] := by
    unfold NameTable.name
    rw [Array.getD_eq_getD_getElem?, hg, Option.getD_some]
  rw [h, hn, hg]

theorem name_inj {i j : Nat} (hi : i < table.size) (hj : j < table.size)
    (hn : table.name i = table.name j) : i = j := by
  have he := h.number?_name hi
  rw [hn, h.number?_name hj] at he
  exact (Option.some.inj he).symm

theorem number?_inj {a b : String} {i : Nat} (ha : table.number? a = some i)
    (hb : table.number? b = some i) : a = b := by
  rw [← h.name_number? ha, h.name_number? hb]

end Consistent

theorem exists_number?_iff (names : List String) (name : String) :
    (∃ i, (ofList names).number? name = some i) ↔ name ∈ names := by
  rw [← contains_ofList, contains_eq_isSome, Option.isSome_iff_exists]

end AgentSpec.NameTable
