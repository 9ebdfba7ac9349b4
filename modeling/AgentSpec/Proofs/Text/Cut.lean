import AgentSpec.Text.Cut
import Mathlib.Data.List.Basic
import Mathlib.Data.List.TakeWhile

/-! Cutting at a separator and joining with it are inverse to each other. Where the characters of
one kind end, a text is split in one way only. -/
namespace AgentSpec.Text

section

variable {p : Char → Bool} {body body' rest rest' : List Char}

theorem span_append (rest : List Char) (h : ∀ c ∈ body, p c = true)
    (hr : ∀ c ∈ rest.head?, ¬ p c = true) :
    (body ++ rest).takeWhile p = body ∧ (body ++ rest).dropWhile p = rest := by
  rw [List.takeWhile_append_of_pos h, List.dropWhile_append_of_pos h]
  cases rest with
  | nil => simp
  | cons c rest =>
    have hc : ¬ p c = true := hr c rfl
    simp [hc]

theorem append_inj_of_stop (h : ∀ c ∈ body, p c = true) (h' : ∀ c ∈ body', p c = true)
    (hr : ∀ c ∈ rest.head?, ¬ p c = true) (hr' : ∀ c ∈ rest'.head?, ¬ p c = true)
    (he : body ++ rest = body' ++ rest') : body = body' ∧ rest = rest' := by
  have hs := span_append rest h hr
  have hs' := span_append rest' h' hr'
  rw [he] at hs
  exact ⟨hs.1.symm.trans hs'.1, hs.2.symm.trans hs'.2⟩

end

theorem cutAt_eq_splitOn (separator : Char) (text : List Char) :
    cutAt separator text = text.splitOn separator := by
  induction text with
  | nil => rfl
  | cons c rest ih =>
    unfold cutAt
    rw [List.splitOn_cons_eq_if_modifyHead, ih]
    by_cases h : c = separator
    · simp [h]
    · cases hs : rest.splitOn separator with
      | nil => exact absurd hs (List.splitOn_ne_nil _ _)
      | cons piece later => simp [h]

theorem intercalate_cutAt (separator : Char) (text : List Char) :
    [separator].intercalate (cutAt separator text) = text := by
  rw [cutAt_eq_splitOn, List.intercalate_splitOn]

theorem cutAt_intercalate {separator : Char} {pieces : List (List Char)}
    (h : ∀ piece ∈ pieces, separator ∉ piece) (hne : pieces ≠ []) :
    cutAt separator ([separator].intercalate pieces) = pieces := by
  rw [cutAt_eq_splitOn, List.splitOn_intercalate _ h hne]

theorem cutAt_append_cons (separator : Char) (text rest : List Char) :
    cutAt separator (text ++ separator :: rest) = cutAt separator text ++ cutAt separator rest := by
  simp only [cutAt_eq_splitOn, List.splitOn_append_cons_self]

theorem cutAt_of_notMem {separator : Char} {text : List Char} (h : separator ∉ text) :
    cutAt separator text = [text] := by
  rw [cutAt_eq_splitOn, List.splitOn_eq_singleton h]

theorem suffix_intercalate (separator last : List Char) (pieces : List (List Char)) :
    last <:+ separator.intercalate (pieces ++ [last]) := by
  induction pieces with
  | nil => simp
  | cons first rest ih =>
    rw [List.cons_append, List.intercalate_cons_of_ne_nil (by simp)]
    exact ih.trans (List.suffix_append _ _)

theorem cutAt_ne_nil (separator : Char) (text : List Char) : cutAt separator text ≠ [] := by
  rw [cutAt_eq_splitOn]
  exact List.splitOn_ne_nil _ _

theorem not_mem_of_mem_cutAt {separator : Char} {text piece : List Char}
    (h : piece ∈ cutAt separator text) : separator ∉ piece := by
  induction text generalizing piece with
  | nil =>
    rw [List.mem_singleton.1 h]
    exact List.not_mem_nil
  | cons c rest ih =>
    unfold cutAt at h
    dsimp only at h
    split at h
    · rcases List.mem_cons.1 h with rfl | h
      · exact List.not_mem_nil
      · exact ih h
    · rename_i hc
      cases hr : cutAt separator rest with
      | nil => exact absurd hr (cutAt_ne_nil separator rest)
      | cons first later =>
        rw [hr] at h ih
        rcases List.mem_cons.1 h with rfl | h
        · simp [Ne.symm hc, ih List.mem_cons_self]
        · exact ih (List.mem_cons_of_mem first h)

end AgentSpec.Text
