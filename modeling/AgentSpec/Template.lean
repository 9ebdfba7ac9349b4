import AgentSpec.Text.Blank

/-! Placeholders of prompt templates: a name in double braces, with white space around it. -/
namespace AgentSpec.Template

/-- What a placeholder name is made of: anything but braces and white space. -/
def isNameChar (c : Char) : Bool := !(c == '\x7b' || c == '\x7d' || Text.isBlank c)

/-- The name of the placeholder whose opening braces have just been read, and the text after it. -/
def placeholder? (text : List Char) : Option (List Char × List Char) :=
  let text := text.dropWhile Text.isBlank
  let name := text.takeWhile isNameChar
  match (text.dropWhile isNameChar).dropWhile Text.isBlank with
  | '\x7d' :: '\x7d' :: rest => if name.isEmpty then none else some (name, rest)
  | _ => none

theorem length_dropWhile_le {α : Type} (p : α → Bool) (l : List α) :
    (l.dropWhile p).length ≤ l.length := (List.dropWhile_sublist p).length_le

theorem length_lt_of_placeholder? {text name rest : List Char}
    (h : placeholder? text = some (name, rest)) : rest.length < text.length := by
  have h₁ := length_dropWhile_le Text.isBlank text
  have h₂ := length_dropWhile_le isNameChar (text.dropWhile Text.isBlank)
  have h₃ := length_dropWhile_le Text.isBlank
    ((text.dropWhile Text.isBlank).dropWhile isNameChar)
  simp only [placeholder?] at h
  split at h
  · rename_i tail heq
    split at h
    · cases h
    · obtain ⟨rfl, rfl⟩ := by simpa using h
      rw [heq] at h₃
      simp only [List.length_cons] at h₃
      omega
  · cases h

/-- The names of all placeholders from left to right; one starts only after the last has ended. -/
def occurrences (text : List Char) : List (List Char) :=
  match text with
  | [] => []
  | '\x7b' :: '\x7b' :: rest =>
    match _h : placeholder? rest with
    | some (name, rest') => name :: occurrences rest'
    | none => occurrences ('\x7b' :: rest)
  | _ :: rest => occurrences rest
termination_by text.length
decreasing_by
  · have := length_lt_of_placeholder? _h
    simp only [List.length_cons]
    omega
  · simp
  · simp

/-- The elements of a list without repetition, in the order of their first occurrence. -/
def distinct {α : Type} [BEq α] (elements : List α) : List α :=
  elements.foldl (fun seen a => if seen.contains a then seen else seen ++ [a]) []

/-- The placeholder names of a template without repetition, in the order of first occurrence. -/
def placeholders (template : String) : List String :=
  distinct ((occurrences template.toList).map String.ofList)

end AgentSpec.Template
