import AgentSpec.Text.Words
import Mathlib.Data.List.Basic

/-! The words of a text as its maximal alphanumeric runs, and where a row of words stands in it. -/
namespace AgentSpec.Text

variable {text left right : List Char} {runs : List (List Char)}

/-- The text does not begin with an alphanumeric character. -/
def StartsApart (text : List Char) : Prop := ∀ c ∈ text.head?, ¬ isAlphanumeric c = true

/-- The text does not end with an alphanumeric character. -/
def EndsApart (text : List Char) : Prop := ∀ c ∈ text.getLast?, ¬ isAlphanumeric c = true

/-- The text begins and ends with alphanumeric characters. -/
def IsBounded (text : List Char) : Prop :=
  (∃ c ∈ text.head?, isAlphanumeric c = true) ∧ ∃ c ∈ text.getLast?, isAlphanumeric c = true

/-- The maximal alphanumeric runs of a text in order. -/
inductive Runs : List Char → List (List Char) → Prop
  | nil : Runs [] []
  | skip {c : Char} {rest : List Char} {runs : List (List Char)}
      (hc : ¬ isAlphanumeric c = true) (h : Runs rest runs) : Runs (c :: rest) runs
  | run {word rest : List Char} {runs : List (List Char)} (hne : word ≠ [])
      (hw : ∀ c ∈ word, isAlphanumeric c = true) (hr : StartsApart rest) (h : Runs rest runs) :
      Runs (word ++ rest) (word :: runs)

theorem startsApart_cons {c : Char} (hc : ¬ isAlphanumeric c = true) : StartsApart (c :: text) :=
  fun _ he => Option.some.inj he ▸ hc

theorem startsApart_append (h : StartsApart (left ++ right)) : StartsApart left := by
  cases left with
  | nil => nofun
  | cons c left => exact h

theorem endsApart_cons {c : Char} (hc : ¬ isAlphanumeric c = true) (h : EndsApart text) :
    EndsApart (c :: text) := by
  intro d hd
  cases text with
  | nil =>
    obtain rfl : c = d := by simpa using hd
    exact hc
  | cons e text =>
    rw [List.getLast?_cons_cons] at hd
    exact h d hd

theorem EndsApart.of_cons {c : Char} (h : EndsApart (c :: text)) : EndsApart text := by
  cases text with
  | nil => nofun
  | cons d text =>
    intro e he
    exact h e (by rwa [List.getLast?_cons_cons])

theorem endsApart_append (hne : right ≠ []) : EndsApart (left ++ right) ↔ EndsApart right := by
  rw [EndsApart, EndsApart, List.getLast?_append_of_ne_nil _ hne]

theorem IsBounded.ne_nil (h : IsBounded text) : text ≠ [] := by
  rintro rfl
  obtain ⟨c, hc, -⟩ := h.1
  cases hc

theorem IsBounded.not_startsApart (h : IsBounded left) : ¬ StartsApart (left ++ right) := by
  intro hs
  obtain ⟨c, hc, ha⟩ := h.1
  exact startsApart_append hs c hc ha

theorem isBounded_of_forall (hne : text ≠ []) (h : ∀ c ∈ text, isAlphanumeric c = true) :
    IsBounded text :=
  ⟨⟨text.head hne, List.head?_eq_some_head hne, h _ (List.head_mem hne)⟩,
    ⟨text.getLast hne, List.getLast?_eq_some_getLast hne, h _ (List.getLast_mem hne)⟩⟩

theorem splitWords_append {word : List Char} (h : ∀ c ∈ word, isAlphanumeric c = true)
    (rest : List Char) :
    splitWords (word ++ rest) = (word ++ (splitWords rest).1, (splitWords rest).2) := by
  induction word with
  | nil => rfl
  | cons c word ih =>
    rw [List.forall_mem_cons] at h
    simp [splitWords, ih h.2, h.1]

theorem splitWords_of_startsApart (h : StartsApart text) : splitWords text = ([], words text) := by
  cases text with
  | nil => rfl
  | cons c rest =>
    have hc : ¬ isAlphanumeric c = true := h c rfl
    simp [words, splitWords, hc]

theorem words_cons {c : Char} (hc : ¬ isAlphanumeric c = true) (rest : List Char) :
    words (c :: rest) = words rest := by
  simp [words, splitWords, hc]

theorem words_append {word : List Char} (hne : word ≠ [])
    (hw : ∀ c ∈ word, isAlphanumeric c = true) (hr : StartsApart text) :
    words (word ++ text) = word :: words text := by
  unfold words
  rw [splitWords_append hw, splitWords_of_startsApart hr]
  simp [hne]

theorem Runs.words_eq (h : Runs text runs) : words text = runs := by
  induction h with
  | nil => rfl
  | skip hc _ ih => rw [words_cons hc, ih]
  | run hne hw hr _ ih => rw [words_append hne hw hr, ih]

theorem exists_runs (text : List Char) : ∃ runs, Runs text runs := by
  induction text with
  | nil => exact ⟨[], .nil⟩
  | cons c rest ih =>
    obtain ⟨runs, h⟩ := ih
    by_cases hc : isAlphanumeric c = true
    · have hone : ∀ d ∈ [c], isAlphanumeric d = true := by simpa using hc
      cases h with
      | nil => exact ⟨[[c]], .run (by simp) hone nofun .nil⟩
      | skip hd h =>
        exact ⟨[c] :: runs, .run (by simp) hone (startsApart_cons hd) (.skip hd h)⟩
      | run hne hw hr h =>
        exact ⟨_, Runs.run (List.cons_ne_nil c _) (List.forall_mem_cons.2 ⟨hc, hw⟩) hr h⟩
    · exact ⟨runs, .skip hc h⟩

/-- The words of a text are its maximal alphanumeric runs. -/
theorem runs_iff : Runs text runs ↔ words text = runs := by
  constructor
  · exact Runs.words_eq
  · rintro rfl
    obtain ⟨runs, h⟩ := exists_runs text
    rwa [h.words_eq]

/-- No run goes across a place where one of the neighbours is not alphanumeric. -/
theorem Runs.append {later : List (List Char)} (h : Runs left runs) (hl : Runs right later)
    (hs : EndsApart left ∨ StartsApart right) : Runs (left ++ right) (runs ++ later) := by
  induction h with
  | nil => exact hl
  | skip hc _ ih => exact .skip hc (ih (hs.imp_left EndsApart.of_cons))
  | @run word rest runs hne hw hr _ ih =>
    rw [List.append_assoc]
    cases rest with
    | nil =>
      have hright : StartsApart right := by
        refine hs.resolve_left fun he => ?_
        obtain ⟨c, hc, ha⟩ := (isBounded_of_forall hne hw).2
        rw [List.append_nil] at he
        exact he c hc ha
      exact .run hne hw hright (ih (.inr hright))
    | cons c rest =>
      refine .run hne hw hr (ih (hs.imp_left fun he => ?_))
      rwa [endsApart_append (by simp)] at he

/-- Some of the runs in a row are the runs of a part of the text with nothing alphanumeric around
it. -/
theorem Runs.split (h : Runs text runs) {before row after : List (List Char)}
    (he : runs = before ++ row ++ after) (hne : row ≠ []) :
    ∃ u m v, text = u ++ m ++ v ∧ Runs u before ∧ Runs m row ∧ EndsApart u ∧ StartsApart v ∧
      IsBounded m := by
  induction h generalizing before row with
  | nil => simp_all
  | skip hc _ ih =>
    obtain ⟨u, m, v, rfl, hu, hm, hend, hstart, hb⟩ := ih he hne
    exact ⟨_ :: u, m, v, rfl, .skip hc hu, hm, endsApart_cons hc hend, hstart, hb⟩
  | @run word rest runs hword hw hr h ih =>
    cases before with
    | cons first before =>
      obtain ⟨rfl, hrest⟩ := List.cons.inj he
      obtain ⟨u, m, v, rfl, hu, hm, hend, hstart, hb⟩ := ih hrest hne
      -- A part that began right behind the word would belong to the same run.
      have hune : u ≠ [] := by
        rintro rfl
        exact hb.not_startsApart hr
      have hru : StartsApart u := by
        rw [List.append_assoc] at hr
        exact startsApart_append hr
      exact ⟨word ++ u, m, v, by simp, .run hword hw hru hu, hm, (endsApart_append hune).2 hend,
        hstart, hb⟩
    | nil =>
      cases row with
      | nil => exact absurd rfl hne
      | cons first row =>
        obtain ⟨rfl, hrest⟩ := List.cons.inj he
        cases row with
        | nil =>
          refine ⟨[], word, rest, rfl, .nil, ?_, nofun, hr, isBounded_of_forall hword hw⟩
          have hnil : StartsApart [] := nofun
          have hone := Runs.run hword hw hnil .nil
          rwa [List.append_nil] at hone
        | cons second row =>
          obtain ⟨u, m, v, rfl, hu, hm, hend, hstart, hb⟩ := @ih [] (second :: row) hrest (by simp)
          refine ⟨[], word ++ (u ++ m), v, by simp, .nil, ?_, nofun, hstart, ?_, ?_⟩
          · exact .run hword hw (startsApart_append hr) (hu.append hm (.inl hend))
          · rw [List.head?_append_of_ne_nil _ hword]
            exact (isBounded_of_forall hword hw).1
          · rw [← List.append_assoc, List.getLast?_append_of_ne_nil _ hb.ne_nil]
            exact hb.2

theorem hasWindow_iff {α : Type} [BEq α] [LawfulBEq α] {pattern sequence : List α} :
    hasWindow pattern sequence = true ↔ pattern <:+: sequence := by
  induction sequence with
  | nil => simp [hasWindow]
  | cons a rest ih =>
    unfold hasWindow
    rw [Bool.or_eq_true, List.isPrefixOf_iff_prefix, ih, List.infix_cons_iff]

/-- A part of the text with nothing alphanumeric around it has the words of the term in order, in
any case. -/
def Contains (text term : String) : Prop :=
  ∃ u m v runs words, text.toList = u ++ m ++ v ∧ EndsApart u ∧ StartsApart v ∧ IsBounded m ∧
    Runs m runs ∧ Runs term.toList words ∧ runs.map lower = words.map lower

theorem Runs.ne_nil (h : Runs text runs) (hb : IsBounded text) : runs ≠ [] := by
  cases h with
  | nil => exact absurd rfl hb.ne_nil
  | skip hc h =>
    obtain ⟨c, he, ha⟩ := hb.1
    exact absurd ha (startsApart_cons hc c he)
  | run => simp

/-- A term with words is contained in a text if its words are a window of those of the text. -/
theorem contains_iff {text term : String} :
    Contains text term ↔ tokens term ≠ [] ∧ hasWindow (tokens term) (tokens text) = true := by
  rw [hasWindow_iff]
  constructor
  · intro h
    obtain ⟨u, m, v, runs, termRuns, he, hu, hv, hb, hm, ht, hl⟩ := h
    have hterm : tokens term = runs.map lower := by rw [tokens, ht.words_eq, hl]
    obtain ⟨before, hbefore⟩ := exists_runs u
    obtain ⟨after, hafter⟩ := exists_runs v
    have hmid := (hbefore.append hm (.inl hu)).append hafter (.inr hv)
    have htext : tokens text = (before ++ runs ++ after).map lower := by
      unfold tokens
      rw [he, hmid.words_eq]
    refine ⟨?_, before.map lower, after.map lower, ?_⟩
    · rw [hterm]
      simpa using hm.ne_nil hb
    · rw [hterm, htext, List.map_append, List.map_append]
  · intro h
    obtain ⟨hne, pre, post, he⟩ := h
    unfold tokens at he
    obtain ⟨first, after, hwords, hfirst, -⟩ := List.map_eq_append_iff.1 he.symm
    obtain ⟨before, row, rfl, -, hrow⟩ := List.map_eq_append_iff.1 hfirst
    have hrne : row ≠ [] := by
      rintro rfl
      exact hne hrow.symm
    have hr := (@runs_iff text.toList _).2 rfl
    obtain ⟨u, m, v, hsplit, -, hm, hu, hv, hb⟩ := hr.split hwords hrne
    exact ⟨u, m, v, row, _, hsplit, hu, hv, hb, hm, runs_iff.2 rfl, hrow⟩

end AgentSpec.Text
