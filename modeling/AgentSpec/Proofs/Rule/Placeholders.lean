import AgentSpec.Proofs.Rule.Prompts
import AgentSpec.Proofs.Rule.Recounts

/-! What is wrong with prompts. Each flaw is reported once: first the placeholders that are no
identifiers, then those that are not declared, then the parameters without a placeholder. -/
namespace AgentSpec

/-- What can be wrong between the template of a prompt and its parameters. -/
inductive PromptFlaw where
  /-- A placeholder is no identifier. -/
  | misnamed (name : String)
  /-- A placeholder is none of the parameters. -/
  | undeclared (name : String)
  /-- The parameter at an index is none of the placeholders. -/
  | unmentioned (k : Nat) (name : String)
deriving DecidableEq

namespace PromptFlaw

/-- Flaws of a lower rank are reported first. -/
def rank : PromptFlaw → Nat
  | misnamed _ => 0
  | undeclared _ => 1
  | unmentioned _ _ => 2

/-- The report on a flaw of a prompt that stands at a place and has a name. -/
def finding (place : Place) (owner : String) : PromptFlaw → Finding
  | misnamed name =>
    .error (place.field "template") (.invalidFormat "placeholder" name identifierPattern)
  | undeclared name => .warning (place.field "template") (.unresolved owner name)
  | unmentioned k name =>
    .info ((place.field "variables").item k) (.unused ("prompt '" ++ owner ++ "'") name)

theorem severity_finding_eq_error_iff {place : Place} {owner : String} {flaw : PromptFlaw} :
    (flaw.finding place owner).severity = .error ↔ ∃ name, flaw = .misnamed name := by
  cases flaw <;> simp [finding, Finding.error, Finding.warning, Finding.info]

theorem take_place_finding {i : Nat} {owner : String} {flaw : PromptFlaw} :
    (flaw.finding (Place.entry "prompts" i) owner).place.take 2 = Place.entry "prompts" i := by
  cases flaw <;> rfl

theorem finding_injective (place : Place) (owner : String) :
    Function.Injective (finding place owner) := by
  intro f g h
  cases f <;> cases g <;>
    simp_all [finding, Finding.error, Finding.warning, Finding.info, Place.field, Place.item]

end PromptFlaw

namespace Prompt

/-- Parameters matter only if some are declared. -/
inductive HasFlaw (prompt : Prompt) : PromptFlaw → Prop
  | misnamed {name : String} (hm : prompt.Mentions name) (hi : ¬ Identifier name) :
      HasFlaw prompt (.misnamed name)
  | undeclared {name : String} (hp : prompt.parameters ≠ []) (hm : prompt.Mentions name)
      (hn : name ∉ prompt.parameters) : HasFlaw prompt (.undeclared name)
  | unmentioned {k : Nat} {name : String} (hk : prompt.parameters[k]? = some name)
      (hn : ¬ prompt.Mentions name) : HasFlaw prompt (.unmentioned k name)

/-- The first placeholder of the one name stands in front of all placeholders of the other. -/
def MentionsBefore (prompt : Prompt) (a b : String) : Prop :=
  ∃ i j, Template.FirstOccursAt prompt.template.toList i a.toList ∧
    Template.FirstOccursAt prompt.template.toList j b.toList ∧ i < j

/-- Flaws of one rank follow the template, or the list of parameters. -/
inductive FlawBefore (prompt : Prompt) : PromptFlaw → PromptFlaw → Prop
  | rank {f g : PromptFlaw} (h : f.rank < g.rank) : FlawBefore prompt f g
  | misnamed {a b : String} (h : prompt.MentionsBefore a b) :
      FlawBefore prompt (.misnamed a) (.misnamed b)
  | undeclared {a b : String} (h : prompt.MentionsBefore a b) :
      FlawBefore prompt (.undeclared a) (.undeclared b)
  | unmentioned {k l : Nat} {a b : String} (h : k < l) :
      FlawBefore prompt (.unmentioned k a) (.unmentioned l b)

variable {prompt : Prompt}

theorem not_mentionsBefore_self (name : String) : ¬ prompt.MentionsBefore name name := by
  intro h
  obtain ⟨i, j, hi, hj, hlt⟩ := h
  exact hj.first i hlt hi.here

theorem not_flawBefore_self (flaw : PromptFlaw) : ¬ prompt.FlawBefore flaw flaw := by
  intro h
  cases h with
  | rank h => exact Nat.lt_irrefl _ h
  | misnamed h => exact not_mentionsBefore_self _ h
  | undeclared h => exact not_mentionsBefore_self _ h
  | unmentioned h => exact Nat.lt_irrefl _ h

theorem hasFlaw_misnamed_iff {name : String} :
    prompt.HasFlaw (.misnamed name) ↔ prompt.Mentions name ∧ ¬ Identifier name := by
  constructor
  · intro h
    cases h with
    | misnamed hm hi => exact ⟨hm, hi⟩
  · exact fun h => .misnamed h.1 h.2

theorem hasFlaw_undeclared_iff {name : String} (hp : prompt.parameters ≠ []) :
    prompt.HasFlaw (.undeclared name) ↔ prompt.Mentions name ∧ name ∉ prompt.parameters := by
  constructor
  · intro h
    cases h with
    | undeclared _ hm hn => exact ⟨hm, hn⟩
  · exact fun h => .undeclared hp h.1 h.2

theorem hasFlaw_unmentioned_iff {k : Nat} {name : String} :
    prompt.HasFlaw (.unmentioned k name) ↔
      prompt.parameters[k]? = some name ∧ ¬ prompt.Mentions name := by
  constructor
  · intro h
    cases h with
    | unmentioned hk hn => exact ⟨hk, hn⟩
  · exact fun h => .unmentioned h.1 h.2

/-- There is no flaw but misnamed placeholders if the placeholders are the parameters. -/
theorem forall_hasFlaw_misnamed_iff (hp : prompt.parameters ≠ []) :
    (∀ flaw, prompt.HasFlaw flaw → ∃ name, flaw = .misnamed name) ↔
      ∀ name, prompt.Mentions name ↔ name ∈ prompt.parameters := by
  constructor
  · intro h name
    constructor
    · intro hm
      by_contra hn
      obtain ⟨other, ho⟩ := h _ (.undeclared hp hm hn)
      cases ho
    · intro hn
      by_contra hm
      obtain ⟨k, hk⟩ := List.getElem?_of_mem hn
      obtain ⟨other, ho⟩ := h _ (.unmentioned hk hm)
      cases ho
  · intro h flaw hf
    cases hf with
    | misnamed hm hi => exact ⟨_, rfl⟩
    | undeclared _ hm hn => exact (hn ((h _).1 hm)).elim
    | unmentioned hk hn => exact (hn ((h _).2 (List.mem_of_getElem? hk))).elim

end Prompt

namespace Rule

variable {prompt : Prompt} {i : Nat}

theorem pairwise_placeholders (prompt : Prompt) :
    (Template.placeholders prompt.template).Pairwise prompt.MentionsBefore := by
  obtain ⟨sites, hs, he⟩ := Template.exists_sites prompt.template.toList
  have hnames : Template.placeholders prompt.template =
      Template.distinct (sites.map fun site => String.ofList site.2) := by
    rw [Template.placeholders, ← he, List.map_map]
    rfl
  rw [hnames]
  exact hs.pairwise_distinct

/-- Placeholders that do not pass a test are flaws in the order of the template. -/
theorem recounts_placeholders (prompt : Prompt) (place : Place) (p : String → Bool)
    {g : String → PromptFlaw}
    (hg : ∀ a b, prompt.MentionsBefore a b → prompt.FlawBefore (g a) (g b)) :
    Recounts (fun flaw => ∃ name, (prompt.Mentions name ∧ ¬ p name = true) ∧ g name = flaw)
      prompt.FlawBefore (PromptFlaw.finding place prompt.name)
      ((Template.placeholders prompt.template).filterMap fun name =>
        if p name then none else some ((g name).finding place prompt.name)) := by
  have hnames := @Recounts.filterMap_unless _ _ (fun name => (g name).finding place prompt.name)
    _ p (pairwise_placeholders prompt)
  have hmentions := hnames.of_iff fun name =>
    and_congr_left fun _ => Template.mem_placeholders_iff.symm
  exact hmentions.image hg

/-- Parameters that are not mentioned are flaws in the order of the parameters. -/
theorem recounts_parameters (prompt : Prompt) (place : Place) :
    Recounts (fun flaw => ∃ q : String × Nat, (prompt.parameters[q.2]? = some q.1 ∧
        ¬ prompt.Mentions q.1) ∧ .unmentioned q.2 q.1 = flaw)
      prompt.FlawBefore (PromptFlaw.finding place prompt.name)
      (prompt.parameters.zipIdx.filterMap fun (name, k) =>
        if (Template.placeholders prompt.template).contains name then none
        else some ((PromptFlaw.unmentioned k name).finding place prompt.name)) := by
  have hparameters := @Recounts.filterMap_unless _ _
    (fun q => (PromptFlaw.unmentioned q.2 q.1).finding place prompt.name) _
    (fun q => (Template.placeholders prompt.template).contains q.1)
    (pairwise_zipIdx prompt.parameters)
  have hlisted := hparameters.of_iff fun q => and_congr List.mem_zipIdx_iff_getElem?.symm
    (not_congr (List.contains_iff_mem.trans Template.mem_placeholders_iff).symm)
  exact hlisted.image fun q r hlt => .unmentioned hlt

theorem recounts_checkPrompt (prompt : Prompt) (i : Nat) :
    Recounts prompt.HasFlaw prompt.FlawBefore
      (PromptFlaw.finding (Place.entry "prompts" i) prompt.name)
      (checkPrompt prompt i).alone := by
  have hmisnamed := recounts_placeholders prompt (Place.entry "prompts" i) isIdentifier
    fun a b => .misnamed
  have hundeclared := recounts_placeholders prompt (Place.entry "prompts" i)
    (prompt.parameters.contains ·) fun a b => .undeclared
  have hunmentioned := recounts_parameters prompt (Place.entry "prompts" i)
  rw [(emits_checkPrompt prompt i).alone_eq]
  dsimp only
  split
  · rename_i hempty
    rw [List.isEmpty_iff] at hempty
    refine hmisnamed.of_iff fun flaw => ?_
    cases flaw with
    | misnamed name => simp [Prompt.hasFlaw_misnamed_iff, isIdentifier_iff]
    | undeclared name =>
      refine iff_of_false (fun h => ?_) (by simp)
      cases h with
      | undeclared hp => exact hp hempty
    | unmentioned k name => simp [Prompt.hasFlaw_unmentioned_iff, hempty]
  · rename_i hempty
    rw [List.isEmpty_iff] at hempty
    have hnames := hmisnamed.append hundeclared fun f g hf hg => by
      obtain ⟨a, -, rfl⟩ := hf
      obtain ⟨b, -, rfl⟩ := hg
      exact .rank Nat.zero_lt_one
    have hall := hnames.append hunmentioned fun f g hf hg => by
      obtain ⟨q, -, rfl⟩ := hg
      rcases hf with ⟨a, -, rfl⟩ | ⟨a, -, rfl⟩
      · exact .rank Nat.zero_lt_two
      · exact .rank Nat.one_lt_two
    refine hall.of_iff fun flaw => ?_
    cases flaw with
    | misnamed name => simp [Prompt.hasFlaw_misnamed_iff, isIdentifier_iff]
    | undeclared name => simp [Prompt.hasFlaw_undeclared_iff hempty]
    | unmentioned k name => simp [Prompt.hasFlaw_unmentioned_iff]

end Rule

/-- A flaw of the prompt that stands at an index among the prompts of an agent. -/
structure LocatedFlaw where
  index : Nat
  prompt : Prompt
  flaw : PromptFlaw
deriving DecidableEq

namespace LocatedFlaw

def finding (l : LocatedFlaw) : Finding :=
  l.flaw.finding (Place.entry "prompts" l.index) l.prompt.name

/-- Flaws follow the prompts, and in a prompt its own order. -/
def Before (l m : LocatedFlaw) : Prop :=
  l.index < m.index ∨ l.index = m.index ∧ l.prompt.FlawBefore l.flaw m.flaw

theorem not_before_self (l : LocatedFlaw) : ¬ l.Before l := by
  intro h
  rcases h with h | ⟨-, h⟩
  · exact Nat.lt_irrefl _ h
  · exact Prompt.not_flawBefore_self _ h

theorem index_eq_of_place {l : LocatedFlaw} {i : Nat}
    (h : l.finding.place.take 2 = Place.entry "prompts" i) : l.index = i := by
  have htake := PromptFlaw.take_place_finding.symm.trans h
  simpa [Place.entry] using htake

end LocatedFlaw

/-- The prompt at the index has the flaw. -/
structure Agent.HasPromptFlaw (agent : Agent) (l : LocatedFlaw) : Prop where
  prompt : agent.prompts[l.index]? = some l.prompt
  flaw : l.prompt.HasFlaw l.flaw

namespace Rule

theorem recounts_promptFindings (agent : Agent) :
    Recounts agent.HasPromptFlaw LocatedFlaw.Before LocatedFlaw.finding
      (promptFindings agent) := by
  have hparts : ∀ p ∈ agent.prompts.zipIdx,
      Recounts (fun l => ∃ flaw, p.1.HasFlaw flaw ∧ ⟨p.2, p.1, flaw⟩ = l) LocatedFlaw.Before
        LocatedFlaw.finding (checkPrompt p.1 p.2).alone := fun p _ =>
    (recounts_checkPrompt p.1 p.2).image fun f g hfg => .inr ⟨rfl, hfg⟩
  have hall := Recounts.zipIdx hparts fun p q l m hlt hl hm => by
    obtain ⟨f, -, rfl⟩ := hl
    obtain ⟨g, -, rfl⟩ := hm
    exact .inl hlt
  rw [promptFindings, (emits_checkPrompts agent).alone_eq]
  refine hall.of_iff fun l => ?_
  constructor
  · intro h
    exact ⟨(l.prompt, l.index), List.mem_zipIdx_iff_getElem?.2 h.prompt, l.flaw, h.flaw, rfl⟩
  · intro h
    obtain ⟨p, hp, flaw, hf, rfl⟩ := h
    exact ⟨List.mem_zipIdx_iff_getElem?.1 hp, hf⟩

theorem nodup_promptFindings (agent : Agent) : (promptFindings agent).Nodup := by
  refine (recounts_promptFindings agent).nodup LocatedFlaw.not_before_self fun l m hl hm he => ?_
  obtain ⟨i, prompt, f⟩ := l
  obtain ⟨j, other, g⟩ := m
  have hplace : (LocatedFlaw.finding ⟨i, prompt, f⟩).place.take 2 = Place.entry "prompts" j := by
    rw [he]
    exact PromptFlaw.take_place_finding
  obtain rfl : i = j := LocatedFlaw.index_eq_of_place hplace
  obtain rfl : prompt = other := Option.some.inj (hl.prompt.symm.trans hm.prompt)
  have hflaw : f = g := PromptFlaw.finding_injective _ _ he
  rw [hflaw]

/-- Every flaw of a prompt is reported, each once and in order, and nothing else. If a prompt has
parameters, nothing but misnamed placeholders is reported of it exactly if the placeholders of its
template are its parameters. -/
theorem prompts_exact (agent : Agent) :
    Recounts agent.HasPromptFlaw LocatedFlaw.Before LocatedFlaw.finding (promptFindings agent) ∧
    (promptFindings agent).Nodup ∧
    ∀ i prompt, agent.prompts[i]? = some prompt → prompt.parameters ≠ [] →
      ((∀ f ∈ promptFindings agent, f.place.take 2 = Place.entry "prompts" i →
          f.severity = .error) ↔
        ∀ name, prompt.Mentions name ↔ name ∈ prompt.parameters) := by
  have hall := recounts_promptFindings agent
  refine ⟨hall, nodup_promptFindings agent, fun i prompt hi hp => ?_⟩
  rw [← Prompt.forall_hasFlaw_misnamed_iff hp]
  constructor
  · intro h flaw hf
    have hfound : (⟨i, prompt, flaw⟩ : LocatedFlaw).finding ∈ promptFindings agent :=
      hall.mem_iff.2 ⟨_, ⟨hi, hf⟩, rfl⟩
    exact PromptFlaw.severity_finding_eq_error_iff.1 (h _ hfound PromptFlaw.take_place_finding)
  · intro h f hf hplace
    obtain ⟨⟨k, other, flaw⟩, ⟨hk, hflaw⟩, rfl⟩ := hall.mem_iff.1 hf
    obtain rfl : k = i := LocatedFlaw.index_eq_of_place hplace
    obtain rfl : other = prompt := Option.some.inj (hk.symm.trans hi)
    exact PromptFlaw.severity_finding_eq_error_iff.2 (h flaw hflaw)

/-- A placeholder that is no identifier but declared, and one that is declared twice. -/
def letter : Prompt where
  name := "letter"
  description := ""
  template := "Dear \x7b\x7b name \x7d\x7d, for the \x7b\x7b1st\x7d\x7d: \x7b\x7bname\x7d\x7d"
  parameters := ["1st", "name", "name"]

/-- A prompt without parameters and the letter. -/
def writer : Agent where
  name := "writer"
  version := "1.0.0"
  description := ""
  kind := .atomic
  goal := none
  criteria := none
  inputSchema := none
  outputSchema := none
  workflows := []
  modules := []
  prompts := [{ letter with parameters := [] }, letter]
  tools := []

theorem prompts_exact_writer :
    writer.prompts[1]? = some letter ∧ letter.parameters ≠ [] ∧
      (∀ f ∈ promptFindings writer, f.place.take 2 = Place.entry "prompts" 1 →
        f.severity = .error) ∧
      ∀ name, letter.Mentions name ↔ name ∈ letter.parameters := by
  obtain ⟨-, -, hprompts⟩ := prompts_exact writer
  have herrors : ∀ f ∈ promptFindings writer, f.place.take 2 = Place.entry "prompts" 1 →
      f.severity = .error := by decide +kernel
  have hne : letter.parameters ≠ [] := by decide
  exact ⟨rfl, hne, herrors, (hprompts 1 letter rfl hne).1 herrors⟩

example : promptFindings { writer with prompts := [{ letter with parameters := ["to"] }] } =
    [.error [.field "prompts", .item 0, .field "template"]
      (.invalidFormat "placeholder" "1st" identifierPattern),
    .warning [.field "prompts", .item 0, .field "template"] (.unresolved "letter" "name"),
    .warning [.field "prompts", .item 0, .field "template"] (.unresolved "letter" "1st"),
    .info [.field "prompts", .item 0, .field "variables", .item 0]
      (.unused "prompt 'letter'" "to")] := by decide +kernel

end Rule

end AgentSpec
