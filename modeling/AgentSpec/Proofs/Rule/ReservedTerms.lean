import AgentSpec.Proofs.Rule.Locations
import AgentSpec.Proofs.Text.Spelling

/-! The search for reserved terms finds a term in a text exactly if its words stand there, and it
never asks for windows without words. -/
namespace AgentSpec

namespace Text

variable {α : Type}

/-- The parts of a list that have a given length, in order. There is no answer for the length
zero. -/
def windows? (width : Nat) (sequence : List α) : Option (List (List α)) :=
  if width = 0 then none
  else some ((List.range (sequence.length + 1 - width)).map fun i => (sequence.drop i).take width)

theorem windows?_of_ne_nil {pattern : List α} (hne : pattern ≠ []) (sequence : List α) :
    ∃ windows, windows? pattern.length sequence = some windows ∧
      (pattern ∈ windows ↔ pattern <:+: sequence) := by
  have hlen : pattern.length ≠ 0 := fun h => hne (List.eq_nil_of_length_eq_zero h)
  refine ⟨_, if_neg hlen, ?_⟩
  rw [List.mem_map]
  constructor
  · intro h
    obtain ⟨i, -, he⟩ := h
    rw [← he]
    exact (List.take_prefix _ _).isInfix.trans (List.drop_suffix _ _).isInfix
  · intro h
    obtain ⟨before, after, rfl⟩ := h
    refine ⟨before.length, ?_, ?_⟩
    · rw [List.mem_range]
      simp only [List.length_append]
      omega
    · rw [List.append_assoc, List.drop_left, List.take_left]

theorem Contains.exists_alphanumeric {text term : String} (h : Contains text term) :
    ∃ c ∈ term.toList, isAlphanumeric c = true := by
  obtain ⟨hne, -⟩ := contains_iff.1 h
  by_contra hno
  have hgap : ∀ c ∈ term.toList, ¬ isAlphanumeric c = true := fun c hc ha => hno ⟨c, hc, ha⟩
  have hruns := Runs.gap_append hgap .nil
  rw [List.append_nil] at hruns
  exact hne (by rw [tokens, hruns.words_eq, List.map_nil])

end Text

namespace Rule

variable {agent : Agent} {terms : List String}

/-- What is found in a text, given the words of a term and those of the text. -/
def termFindings (there : Place) (words : List (List Char))
    (searched : String × List (List Char)) : List Finding :=
  if Text.hasWindow searched.2 words then
    [.warning there (.reservedTerm there.render searched.1)]
  else []

/-- The terms that have words are looked for in all texts, even if there are none of them. -/
theorem boundaryFindings_eq (terms : List String) (agent : Agent) :
    boundaryFindings terms agent = (scannedTexts agent).flatMap fun (there, text) =>
      (searchedTerms terms).flatMap (termFindings there (Text.tokens text)) := by
  rw [boundaryFindings, (emits_checkBoundary terms agent).alone_eq, ← searchedTerms]
  dsimp only
  split
  · rename_i hempty
    rw [List.isEmpty_iff.1 hempty]
    simp
  · refine List.flatMap_congr fun p _ => ?_
    rw [List.filterMap_eq_flatMap_toList]
    refine List.flatMap_congr fun q _ => ?_
    unfold termFindings
    split <;> rfl

/-- What is found for each element of a list, unless one of them fails. -/
def collect? {α : Type} (f : α → Option (List Finding)) : List α → Option (List Finding)
  | [] => some []
  | a :: rest => do
    let first ← f a
    let later ← collect? f rest
    pure (first ++ later)

theorem collect?_eq_some {α : Type} {f : α → Option (List Finding)} {g : α → List Finding}
    {l : List α} (h : ∀ a ∈ l, f a = some (g a)) : collect? f l = some (l.flatMap g) := by
  induction l with
  | nil => rfl
  | cons a rest ih =>
    rw [List.forall_mem_cons] at h
    simp [collect?, h.1, ih h.2]

/-- The search that compares the words of a term with every window of the text. -/
def windowFindings? (there : Place) (words : List (List Char))
    (searched : String × List (List Char)) : Option (List Finding) := do
  let windows ← Text.windows? searched.2.length words
  pure (if searched.2 ∈ windows then [.warning there (.reservedTerm there.render searched.1)]
    else [])

/-- The search through windows for all terms that have words. It fails with its first window of no
words. -/
def boundaryFindings? (terms : List String) (agent : Agent) : Option (List Finding) :=
  collect? (fun (there, text) =>
    collect? (windowFindings? there (Text.tokens text)) (searchedTerms terms)) (scannedTexts agent)

theorem windowFindings?_eq {there : Place} {words : List (List Char)}
    {searched : String × List (List Char)} (hs : searched ∈ searchedTerms terms) :
    windowFindings? there words searched = some (termFindings there words searched) := by
  have hne : searched.2 ≠ [] := by
    obtain ⟨-, hp, hne⟩ := mem_searchedTerms.1 (show (searched.1, searched.2) ∈ _ from hs)
    rwa [hp]
  obtain ⟨windows, hw, hmem⟩ := Text.windows?_of_ne_nil hne words
  rw [← Text.hasWindow_iff] at hmem
  rw [windowFindings?, hw, termFindings]
  simp only [hmem, Option.bind_eq_bind, Option.bind_some, Option.pure_def]

/-- The search through windows never fails and finds the same. -/
theorem boundaryFindings?_eq (terms : List String) (agent : Agent) :
    boundaryFindings? terms agent = some (boundaryFindings terms agent) := by
  rw [boundaryFindings_eq]
  exact collect?_eq_some fun p _ => collect?_eq_some fun q hq => windowFindings?_eq hq

/-- Some finding warns that the text at a location contains a term. -/
def Reports (findings : List Finding) (location term : String) : Prop :=
  ∃ f ∈ findings, f.severity = .warning ∧ f.path = location ∧
    f.defect = .reservedTerm location term

instance (findings : List Finding) (location term : String) :
    Decidable (Reports findings location term) :=
  inferInstanceAs (Decidable (∃ f ∈ findings, f.severity = .warning ∧ f.path = location ∧
    f.defect = .reservedTerm location term))

theorem reports_iff {there : Place} {text term : String} (ht : agent.TextAt there text)
    (hm : term ∈ terms) :
    Reports (boundaryFindings terms agent) there.render term ↔ Text.Contains text term := by
  constructor
  · intro h
    obtain ⟨f, hf, -, hpath, hdefect⟩ := h
    obtain ⟨other, text', term', ht', -, hc, rfl⟩ := mem_boundaryFindings.1 hf
    obtain ⟨-, rfl⟩ := ht.unique ht' hpath.symm
    obtain ⟨-, rfl⟩ := Defect.reservedTerm.inj hdefect
    exact hc
  · intro hc
    exact ⟨_, mem_boundaryFindings.2 ⟨there, text, term, ht, hm, hc, rfl⟩, rfl, rfl, rfl⟩

/-- A text with a term in it is reported whenever the term has words, and nothing else is. The
search never fails. Neither the case of ASCII letters nor the kind of separators matters, in the
text or in the term. -/
theorem boundary_exact (terms : List String) (agent : Agent) :
    (∀ there text, agent.TextAt there text → ∀ term ∈ terms,
      (Reports (boundaryFindings terms agent) there.render term ↔
        (∃ c ∈ term.toList, Text.isAlphanumeric c = true) ∧ Text.Contains text term)) ∧
    (∀ f ∈ boundaryFindings terms agent, ∃ there text term, agent.TextAt there text ∧
      term ∈ terms ∧ f = .warning there (.reservedTerm there.render term)) ∧
    boundaryFindings? terms agent = some (boundaryFindings terms agent) ∧
    ∀ (terms' : List String) (variant : Agent) (there there' : Place)
        (text text' term term' : String),
      agent.TextAt there text → variant.TextAt there' text' → term ∈ terms → term' ∈ terms' →
      Relation.ReflTransGen Text.Respelled text text' →
      Relation.ReflTransGen Text.Respelled term term' →
      (Reports (boundaryFindings terms agent) there.render term ↔
        Reports (boundaryFindings terms' variant) there'.render term') := by
  refine ⟨fun there text ht term hm => ?_, fun f hf => ?_, boundaryFindings?_eq terms agent, ?_⟩
  · rw [reports_iff ht hm]
    exact ⟨fun hc => ⟨hc.exists_alphanumeric, hc⟩, And.right⟩
  · obtain ⟨there, text, term, ht, hm, -, he⟩ := mem_boundaryFindings.1 hf
    exact ⟨there, text, term, ht, hm, he⟩
  · intro terms' variant there there' text text' term term' ht ht' hm hm' hs hs'
    rw [reports_iff ht hm, reports_iff ht' hm']
    exact Text.contains_congr hs hs'

/-- An agent that is described by a text. -/
def described (description : String) : Agent where
  name := "recorder"
  version := "1.0.0"
  description := description
  kind := .atomic
  goal := none
  criteria := none
  inputSchema := none
  outputSchema := none
  workflows := []
  modules := []
  prompts := []
  tools := []

theorem boundary_exact_described :
    (described "Stores the execution-id.").TextAt (.top "description") "Stores the execution-id." ∧
      Text.Contains "Stores the execution-id." "execution_id" ∧
      ¬ Text.Contains "Stores the execution-id." "--" ∧
      Relation.ReflTransGen Text.Respelled "Stores the execution-id." "STORES the Execution: ID." ∧
      Reports (boundaryFindings ["Execution\tId"] (described "STORES the Execution: ID."))
        (Place.top "description").render "Execution\tId" := by
  have ht : (described "Stores the execution-id.").TextAt (.top "description")
      "Stores the execution-id." := .description
  have ht' : (described "STORES the Execution: ID.").TextAt (.top "description")
      "STORES the Execution: ID." := .description
  have htext : Relation.ReflTransGen Text.Respelled "Stores the execution-id."
      "STORES the Execution: ID." := by
    have hgap : Text.Respelled (.ofList ("Stores the execution".toList ++ ['-'] ++ "id.".toList))
        (.ofList ("Stores the execution".toList ++ [':', ' '] ++ "id.".toList)) :=
      .separators (by decide) (by decide) (List.forall_iff_forall_mem.1 (by decide))
        (List.forall_iff_forall_mem.1 (by decide))
    have hcase : "Stores the execution: id.".toLower = "STORES the Execution: ID.".toLower := by
      rw [← String.toList_inj, Text.toList_toLower, Text.toList_toLower]
      decide
    exact .tail (.single (by simpa using hgap)) (.case hcase)
  have hterm : Relation.ReflTransGen Text.Respelled "execution_id" "Execution\tId" := by
    have hgap : Text.Respelled (.ofList ("execution".toList ++ ['_'] ++ "id".toList))
        (.ofList ("execution".toList ++ ['\t'] ++ "id".toList)) :=
      .separators (by decide) (by decide) (List.forall_iff_forall_mem.1 (by decide))
        (List.forall_iff_forall_mem.1 (by decide))
    have hcase : "execution\tid".toLower = "Execution\tId".toLower := by
      rw [← String.toList_inj, Text.toList_toLower, Text.toList_toLower]
      decide
    exact .tail (.single (by simpa using hgap)) (.case hcase)
  obtain ⟨hiff, -, -, hsame⟩ :=
    boundary_exact ["execution_id", "--"] (described "Stores the execution-id.")
  have hr : Reports (boundaryFindings ["execution_id", "--"] (described "Stores the execution-id."))
      (Place.top "description").render "execution_id" := by decide +kernel
  have hno : ¬ Reports (boundaryFindings ["execution_id", "--"]
      (described "Stores the execution-id.")) (Place.top "description").render "--" := by
    decide +kernel
  have hc := ((hiff _ _ ht "execution_id" (by decide)).1 hr).2
  have hsep : ¬ Text.Contains "Stores the execution-id." "--" := fun h =>
    hno ((hiff _ _ ht "--" (by decide)).2 ⟨h.exists_alphanumeric, h⟩)
  have hr' := (hsame ["Execution\tId"] _ _ _ _ _ _ "Execution\tId" ht ht' (by decide) (by decide)
    htext hterm).1 hr
  exact ⟨ht, hc, hsep, htext, hr'⟩

end Rule

end AgentSpec
