import AgentSpec.Proofs.Text.Cut

/-! Texts without line breaks, and how a text is read line by line. -/
namespace AgentSpec.Text

/-- There is no line break in the text. -/
def SingleLine (s : String) : Prop := '\n' ∉ s.toList

instance (s : String) : Decidable (SingleLine s) := inferInstanceAs (Decidable ('\n' ∉ s.toList))

variable {s t : String} {texts : List String}

@[simp] theorem singleLine_append : SingleLine (s ++ t) ↔ SingleLine s ∧ SingleLine t := by
  simp [SingleLine]

@[simp] theorem singleLine_ofList {text : List Char} :
    SingleLine (.ofList text) ↔ '\n' ∉ text := by
  simp [SingleLine]

/-- Joined by a separator of one line, texts make one line if each of them does. -/
theorem singleLine_intercalate (hs : SingleLine s) :
    SingleLine (s.intercalate texts) ↔ ∀ text ∈ texts, SingleLine text := by
  induction texts with
  | nil => simp [SingleLine]
  | cons first rest ih =>
    cases rest with
    | nil => simp
    | cons second rest =>
      rw [String.intercalate_cons_cons, singleLine_append, singleLine_append, ih,
        and_iff_left hs, ← List.forall_mem_cons]

theorem not_mem_toDigits (n : Nat) : '\n' ∉ Nat.toDigits 10 n := fun h =>
  absurd (Nat.isDigit_of_mem_toDigits (by decide) (by decide) h) (by decide)

@[simp] theorem singleLine_repr (n : Nat) : SingleLine n.repr := by
  simp [SingleLine, not_mem_toDigits]

@[simp] theorem singleLine_repr_int (n : Int) : SingleLine n.repr := by
  rw [Int.repr_eq_if]
  split
  · exact singleLine_repr _
  · exact singleLine_append.2 ⟨by decide, singleLine_repr _⟩

/-- A text of lines is read as these lines exactly if none of them is more than one. -/
theorem cutAt_lines_iff : cutAt '\n' (String.join (texts.map (· ++ "\n"))).toList =
    texts.map String.toList ++ [[]] ↔ ∀ text ∈ texts, SingleLine text := by
  have hjoin : (String.join (texts.map (· ++ "\n"))).toList =
      ['\n'].intercalate (texts.map String.toList ++ [[]]) := by
    rw [String.toList_join]
    induction texts with
    | nil => rfl
    | cons first rest ih =>
      rw [List.map_cons, List.flatMap_cons, ih]
      cases rest <;> simp [List.intercalate]
  constructor
  · intro h text ht
    have hmem : text.toList ∈ texts.map String.toList ++ [[]] :=
      List.mem_append_left _ (List.mem_map_of_mem ht)
    rw [← h] at hmem
    exact not_mem_of_mem_cutAt hmem
  · intro h
    rw [hjoin]
    refine cutAt_intercalate (fun piece hp => ?_) (by simp)
    rcases List.mem_append.1 hp with hp | hp
    · obtain ⟨text, ht, rfl⟩ := List.mem_map.1 hp
      exact h text ht
    · rw [List.mem_singleton.1 hp]
      exact List.not_mem_nil

/-- The lines of a text that ends with a line break. -/
def linesOf (text : String) : List String :=
  (cutAt '\n' text.toList).dropLast.map String.ofList

theorem linesOf_ended (text : String) :
    linesOf (text ++ "\n") = (cutAt '\n' text.toList).map String.ofList := by
  have hcut : cutAt '\n' (text ++ "\n").toList = cutAt '\n' text.toList ++ [[]] := by
    rw [String.toList_append]
    exact cutAt_append_cons '\n' text.toList []
  rw [linesOf, hcut, List.dropLast_concat]

/-- The lines of two texts in turn, the first of which ends with a line break. -/
theorem linesOf_append (first rest : String) :
    linesOf (first ++ "\n" ++ rest) = linesOf (first ++ "\n") ++ linesOf rest := by
  have hcut : cutAt '\n' (first ++ "\n" ++ rest).toList =
      cutAt '\n' first.toList ++ cutAt '\n' rest.toList := by
    rw [String.toList_append, String.toList_append, List.append_assoc]
    exact cutAt_append_cons '\n' first.toList rest.toList
  rw [linesOf_ended, linesOf, hcut, List.dropLast_append_of_ne_nil (cutAt_ne_nil _ _),
    List.map_append, linesOf]

theorem linesOf_line (h : SingleLine s) : linesOf (s ++ "\n") = [s] := by
  rw [linesOf_ended, cutAt_of_notMem h, List.map_singleton, String.ofList_toList]

theorem linesOf_cons (h : SingleLine s) (rest : String) :
    linesOf (s ++ "\n" ++ rest) = s :: linesOf rest := by
  rw [linesOf_append, linesOf_line h, List.singleton_append]

/-- A text ends with its last line. -/
theorem suffix_of_getLast?_linesOf (h : (linesOf (s ++ "\n")).getLast? = some t) :
    t.toList <:+ s.toList := by
  rw [linesOf_ended, List.getLast?_map, Option.map_eq_some_iff] at h
  obtain ⟨last, hlast, rfl⟩ := h
  obtain ⟨earlier, hcut⟩ := List.getLast?_eq_some_iff.1 hlast
  rw [String.toList_ofList, ← intercalate_cutAt '\n' s.toList, hcut]
  exact suffix_intercalate _ _ _

end AgentSpec.Text
