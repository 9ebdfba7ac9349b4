import AgentSpec.Proofs.Compiler
import AgentSpec.Proofs.Rule.Findings

/-! How often a reserved term is reported at one place: as often as it stands in the list that was
chosen last. Terms that are added to a list never repeat what it has. -/
namespace AgentSpec

namespace Rule

/-- The texts stand behind some fields of a place, and no two of them at the same place. -/
structure Spread (place : Place) (fields : List String) (texts : List (Place × String)) : Prop where
  below : ∀ p ∈ texts, ∃ name ∈ fields, ∃ rest, p.1 = place ++ .field name :: rest
  apart : texts.Pairwise fun p q => p.1 ≠ q.1

namespace Spread

variable {place : Place} {name text : String} {fields fields' : List String}
  {texts texts' : List (Place × String)}

theorem nil : Spread place [] [] := ⟨nofun, .nil⟩

theorem append (h : Spread place fields texts) (h' : Spread place fields' texts')
    (hd : ∀ name ∈ fields, name ∉ fields') :
    Spread place (fields ++ fields') (texts ++ texts') where
  below := by
    intro p hp
    rcases List.mem_append.1 hp with hp | hp
    · obtain ⟨name, hn, rest, he⟩ := h.below p hp
      exact ⟨name, List.mem_append_left _ hn, rest, he⟩
    · obtain ⟨name, hn, rest, he⟩ := h'.below p hp
      exact ⟨name, List.mem_append_right _ hn, rest, he⟩
  apart := by
    refine List.pairwise_append.2 ⟨h.apart, h'.apart, fun p hp q hq he => ?_⟩
    obtain ⟨name, hn, rest, hpe⟩ := h.below p hp
    obtain ⟨other, ho, rest', hqe⟩ := h'.below q hq
    rw [hpe, hqe, List.append_cancel_left_eq, List.cons.injEq, Step.field.injEq] at he
    exact hd name hn (he.1 ▸ ho)

theorem single (place : Place) (name text : String) :
    Spread place [name] [(place.field name, text)] where
  below := by
    intro p hp
    rw [List.mem_singleton.1 hp]
    exact ⟨name, List.mem_singleton_self name, [], rfl⟩
  apart := List.pairwise_singleton _ _

theorem cons (h : Spread place fields texts) (hn : name ∉ fields) :
    Spread place (name :: fields) ((place.field name, text) :: texts) :=
  (single place name text).append h (List.forall_mem_singleton.2 hn)

theorem optional (place : Place) (name : String) (value : Option String) :
    Spread place [name] (optionalText (place.field name) value) := by
  cases value with
  | none => exact ⟨nofun, .nil⟩
  | some text => exact single place name text

/-- Behind the entries of a list the places differ by their indices. -/
theorem entries {α : Type} (l : List α) {f : α × Nat → List (Place × String)}
    (hb : ∀ p, ∀ q ∈ f p, ∃ rest, q.1 = place ++ .field name :: .item p.2 :: rest)
    (ha : ∀ p, (f p).Pairwise fun q r => q.1 ≠ r.1) :
    Spread place [name] (l.zipIdx.flatMap f) where
  below := by
    intro q hq
    obtain ⟨p, -, hq⟩ := List.mem_flatMap.1 hq
    obtain ⟨rest, he⟩ := hb p q hq
    exact ⟨name, List.mem_singleton_self name, _, he⟩
  apart := by
    refine List.pairwise_flatMap.2 ⟨fun p _ => ha p, (pairwise_zipIdx l).imp ?_⟩
    intro p p' hlt q hq r hr he
    obtain ⟨rest, hqe⟩ := hb p q hq
    obtain ⟨rest', hre⟩ := hb p' r hr
    rw [hqe, hre] at he
    have hindex : p.2 = p'.2 ∧ rest = rest' := by simpa using he
    omega

theorem listed (place : Place) (name : String) (values : List String) :
    Spread place [name] (listedTexts (place.field name) values) := by
  unfold listedTexts
  rw [List.map_eq_flatMap]
  refine entries values (fun p q hq => ?_) fun p => List.pairwise_singleton _ _
  rw [List.mem_singleton.1 hq]
  exact ⟨[], by simp [Place.field, Place.item]⟩

/-- What is spread behind the entries of a list is spread behind the list. -/
theorem ofEntries {α : Type} (l : List α) {f : α × Nat → List (Place × String)}
    (h : ∀ p, Spread (place ++ [.field name, .item p.2]) fields (f p)) :
    Spread place [name] (l.zipIdx.flatMap f) := by
  refine entries l (fun p q hq => ?_) fun p => (h p).apart
  obtain ⟨key, -, rest, he⟩ := (h p).below q hq
  exact ⟨.field key :: rest, by simpa using he⟩

theorem node (place : Place) (node : Node) :
    Spread place ["name", "goal", "description", "reference", "inputs", "outputs"]
      (nodeTexts place node) :=
  (((((single place "goal" node.goal).cons (by decide)).append
    (optional place "description" node.description) (by decide)).append
    (optional place "reference" node.reference) (by decide)).append
    (listed place "inputs" node.inputs) (by decide)).append
    (listed place "outputs" node.outputs) (by decide)

theorem workflow (i : Nat) (w : Workflow) :
    Spread (Place.entry "workflows" i) ["name", "description", "entry_node", "nodes"]
      (workflowTexts i w) :=
  (((single _ "entry_node" w.entryNode).cons (by decide)).cons (by decide)).append
    (ofEntries w.nodes fun p => node (Place.node i p.2) p.1) (by decide)

theorem capabilities (collection : String) (capabilities : List Capability) :
    Spread [] [collection] (capabilityTexts collection capabilities) :=
  have one (i : Nat) (c : Capability) : Spread (Place.entry collection i) ["name", "description"]
      [((Place.entry collection i).field "name", c.name),
        ((Place.entry collection i).field "description", c.description)] :=
    (single _ "description" c.description).cons (by decide)
  ofEntries capabilities fun p => one p.2 p.1

theorem prompt (i : Nat) (prompt : Prompt) :
    Spread (Place.entry "prompts" i) ["name", "description", "template", "variables"]
      (promptTexts i prompt) :=
  (((single _ "template" prompt.template).cons (by decide)).cons (by decide)).append
    (listed _ "variables" prompt.parameters) (by decide)

theorem criteria (criteria : Option Criteria) :
    Spread [] ["completion_criteria"] (criteriaTexts criteria) := by
  cases criteria with
  | none => exact ⟨nofun, .nil⟩
  | some criteria =>
    have h : Spread (Place.top "completion_criteria") ["success", "failure"]
        (criteriaTexts (some criteria)) :=
      (single _ "failure" criteria.failure).cons (by decide)
    refine ⟨fun p hp => ?_, h.apart⟩
    obtain ⟨name, -, rest, he⟩ := h.below p hp
    exact ⟨_, List.mem_singleton_self _, _, he⟩

/-- No two of the scanned texts stand at the same place. -/
theorem scanned (agent : Agent) :
    Spread [] ["name", "description", "task_goal", "completion_criteria", "workflows", "modules",
      "prompts", "tools"] (scannedTexts agent) :=
  ((((((((single [] "description" agent.description).cons (by decide)).append
    (optional [] "task_goal" agent.goal) (by decide)).append
    (criteria agent.criteria) (by decide)).append
    (ofEntries agent.workflows fun p => workflow p.2 p.1) (by decide)).append
    (capabilities "modules" agent.modules) (by decide)).append
    (ofEntries agent.prompts fun p => prompt p.2 p.1) (by decide)).append
    (capabilities "tools" agent.tools) (by decide))

end Spread

variable {terms : List String} {agent : Agent}

/-- The location and the term of a finding about a reserved term. -/
def reservedPair? (f : Finding) : Option (String × String) :=
  match f.defect with
  | .reservedTerm location term => some (location, term)
  | _ => none

/-- The locations and terms of all findings about reserved terms, in order. -/
def reservedPairs (findings : List Finding) : List (String × String) :=
  findings.filterMap reservedPair?

/-- The terms of a list that a text contains, as often as they are listed. -/
def foundTerms (terms : List String) (text : String) : List String :=
  terms.filter fun term =>
    !(Text.tokens term).isEmpty && Text.hasWindow (Text.tokens term) (Text.tokens text)

theorem reservedPairs_termFindings (there : Place) (words : List (List Char))
    (searched : String × List (List Char)) :
    reservedPairs (termFindings there words searched) =
      if Text.hasWindow searched.2 words then [(there.render, searched.1)] else [] := by
  unfold termFindings
  split <;> rfl

theorem reservedPairs_searchedTerms (terms : List String) (there : Place) (text : String) :
    reservedPairs ((searchedTerms terms).flatMap (termFindings there (Text.tokens text))) =
      (foundTerms terms text).map (there.render, ·) := by
  have hpairs := reservedPairs_termFindings there (Text.tokens text)
  unfold reservedPairs at hpairs
  rw [reservedPairs, List.filterMap_flatMap]
  simp only [hpairs]
  induction terms with
  | nil => rfl
  | cons term rest ih =>
    unfold searchedTerms foundTerms at ih ⊢
    rw [List.map_cons, List.filter_cons, List.filter_cons]
    by_cases hw : (Text.tokens term).isEmpty = true
    · simpa [hw] using ih
    · by_cases hm : Text.hasWindow (Text.tokens term) (Text.tokens text) = true
      · simpa [hw, hm] using ih
      · simpa [hw, hm] using ih

/-- Text by text, each term is reported as often as it is listed. -/
theorem reservedPairs_boundary (terms : List String) (agent : Agent) :
    reservedPairs (boundaryFindings terms agent) =
      (scannedTexts agent).flatMap fun p => (foundTerms terms p.2).map (p.1.render, ·) := by
  rw [boundaryFindings_eq, reservedPairs, List.filterMap_flatMap]
  exact List.flatMap_congr fun p _ => reservedPairs_searchedTerms terms p.1 p.2

/-- The other rules report no reserved terms. -/
theorem reservedPairs_check {rule : Rule} (h : rule ≠ .boundary) :
    reservedPairs (rule.check terms agent) = [] := by
  rw [reservedPairs, List.filterMap_eq_nil_iff]
  intro f hf
  cases mem_check_iff.1 hf with
  | malformed _ _ hf =>
    obtain ⟨there, field, value, expected, -, -, rfl⟩ := complainsOf_of_mem_ownFindings hf
    rfl
  | reservedTerm => exact absurd rfl h
  | _ => rfl

theorem nodup_foundTerms_iff {text : String} : (foundTerms terms text).Nodup ↔
    ∀ term ∈ foundTerms terms text, terms.count term ≤ 1 := by
  rw [List.nodup_iff_count_le_one]
  have hcount : ∀ term ∈ foundTerms terms text,
      (foundTerms terms text).count term = terms.count term := fun term hm =>
    List.count_filter (List.mem_filter.1 hm).2
  constructor
  · intro h term hm
    rw [← hcount term hm]
    exact h term
  · intro h term
    by_cases hm : term ∈ foundTerms terms text
    · rw [hcount term hm]
      exact h term hm
    · rw [List.count_eq_zero_of_not_mem hm]
      exact Nat.zero_le 1

/-- No place is scanned twice, so that only repeated terms lead to repeated reports. -/
theorem nodup_boundary_iff : (reservedPairs (boundaryFindings terms agent)).Nodup ↔
    ∀ pair ∈ reservedPairs (boundaryFindings terms agent), terms.count pair.2 ≤ 1 := by
  have hapart : (scannedTexts agent).Pairwise fun p q =>
      List.Disjoint ((foundTerms terms p.2).map (p.1.render, ·))
        ((foundTerms terms q.2).map (q.1.render, ·)) := by
    refine (Spread.scanned agent).apart.imp_of_mem ?_
    intro p q hp hq hne pair hpair hpair'
    obtain ⟨term, -, rfl⟩ := List.mem_map.1 hpair
    obtain ⟨term', -, he⟩ := List.mem_map.1 hpair'
    have hrender : q.1.render = p.1.render := congrArg Prod.fst he
    exact hne ((mem_scannedTexts.1 hp).unique (mem_scannedTexts.1 hq) hrender.symm).1
  have hinj : ∀ place : Place, Function.Injective fun term : String => (place.render, term) :=
    fun place term term' he => congrArg Prod.snd he
  rw [reservedPairs_boundary, List.nodup_flatMap, and_iff_left hapart]
  simp only [List.nodup_map_iff (hinj _), nodup_foundTerms_iff, List.forall_mem_flatMap,
    List.forall_mem_map]

theorem reservedPairs_validate {engine : RuleEngine} (hn : engine.rules.Nodup) :
    reservedPairs (engine.validate agent).findings =
      if .boundary ∈ engine.rules then reservedPairs (boundaryFindings engine.terms agent)
      else [] := by
  have hnone : ∀ rules : List Rule, .boundary ∉ rules →
      rules.flatMap (fun rule => reservedPairs (rule.check engine.terms agent)) = [] := by
    intro rules hb
    rw [List.flatMap_eq_nil_iff]
    exact fun rule hr => reservedPairs_check fun he => hb (he ▸ hr)
  have hflat : reservedPairs (engine.validate agent).findings =
      engine.rules.flatMap fun rule => reservedPairs (rule.check engine.terms agent) := by
    rw [engine.findings_validate agent]
    exact List.filterMap_flatMap
  rw [hflat]
  split
  · rename_i hb
    obtain ⟨before, after, hsplit⟩ := List.append_of_mem hb
    rw [hsplit] at hn ⊢
    have hnot := (List.nodup_middle.1 hn).notMem
    rw [List.mem_append, not_or] at hnot
    rw [List.flatMap_append, List.flatMap_cons, hnone before hnot.1, hnone after hnot.2,
      List.append_nil]
    rfl
  · rename_i hb
    exact hnone engine.rules hb

end Rule

namespace RuleEngine

variable {changes : List EngineChange} {engine : RuleEngine} {agent : Agent}

/-- The list of reserved terms that was chosen last. -/
def chosenTerms (changes : List EngineChange) : List String :=
  changes.foldl
    (fun chosen change =>
      match change with
      | .terms terms => terms
      | _ => chosen)
    Rule.defaultTerms

theorem count_appendNew_le_one_iff {old new : List String} {term : String} :
    (appendNew old new).count term ≤ 1 ↔ old.count term ≤ 1 := by
  unfold appendNew
  induction new generalizing old with
  | nil => rfl
  | cons first rest ih =>
    rw [List.foldl_cons, ih]
    split
    · rfl
    · rename_i hnew
      rw [List.contains_iff_mem] at hnew
      by_cases he : first = term
      · -- a term that is added was not there, and is there once now
        have hzero : old.count term = 0 := List.count_eq_zero_of_not_mem (he ▸ hnew)
        simp [he, hzero]
      · simp [he]

/-- Terms that are added never repeat, so that only the list chosen last can have repetitions. -/
theorem count_terms_le_one_iff {term : String} :
    (ofChanges changes).terms.count term ≤ 1 ↔ (chosenTerms changes).count term ≤ 1 := by
  induction changes using List.reverseRecOn with
  | nil => rfl
  | append_singleton changes e ih =>
    have hchosen : chosenTerms (changes ++ [e]) =
        match e with
        | .terms terms => terms
        | _ => chosenTerms changes := List.foldl_concat ..
    rw [ofChanges_concat, hchosen]
    cases e with
    | only rules => exact ih
    | without dropped => exact ih
    | terms terms => rfl
    | extraTerms terms => exact count_appendNew_le_one_iff.trans ih

theorem nodup_reservedPairs_iff (changes : List EngineChange) (agent : Agent) :
    (Rule.reservedPairs ((ofChanges changes).validate agent).findings).Nodup ↔
      ∀ pair ∈ Rule.reservedPairs ((ofChanges changes).validate agent).findings,
        (chosenTerms changes).count pair.2 ≤ 1 := by
  simp only [← count_terms_le_one_iff]
  rw [Rule.reservedPairs_validate (inOrder_ofChanges changes).nodup]
  split
  · exact Rule.nodup_boundary_iff
  · exact iff_of_true List.nodup_nil (by simp)

end RuleEngine

namespace Configuration

/-- The changes to the standard engine that a configuration stands for. -/
def engineChanges (c : Configuration) : List EngineChange :=
  [.terms (c.replacedTerms.getD Rule.defaultTerms), .extraTerms c.extraTerms] ++
    c.disabledRules.map .without

theorem engine_eq_ofChanges (c : Configuration) :
    c.engine = RuleEngine.ofChanges c.engineChanges := by
  unfold engine engineChanges RuleEngine.ofChanges
  rw [List.foldl_append, List.foldl_map]
  rfl

theorem chosenTerms_engineChanges (c : Configuration) :
    RuleEngine.chosenTerms c.engineChanges = c.replacedTerms.getD Rule.defaultTerms := by
  have hwithout : ∀ (rules : List Rule) (changes : List EngineChange),
      RuleEngine.chosenTerms (changes ++ rules.map .without) = RuleEngine.chosenTerms changes := by
    intro rules changes
    induction rules generalizing changes with
    | nil => simp
    | cons rule rest ih =>
      rw [List.map_cons, List.append_cons, ih]
      exact List.foldl_concat ..
  exact hwithout _ _

end Configuration

namespace Compiler

/-- However an engine or a configuration came about, a reserved term is reported twice at one place
exactly if a text contains a term that the list chosen last has more than once. -/
theorem nodup_reservedPairs (changes : List EngineChange) (c : Configuration) (agent : Agent) :
    ((Rule.reservedPairs ((RuleEngine.ofChanges changes).validate agent).findings).Nodup ↔
      ∀ pair ∈ Rule.reservedPairs ((RuleEngine.ofChanges changes).validate agent).findings,
        (RuleEngine.chosenTerms changes).count pair.2 ≤ 1) ∧
    ((Rule.reservedPairs ((ofConfiguration c).validate agent).findings).Nodup ↔
      ∀ pair ∈ Rule.reservedPairs ((ofConfiguration c).validate agent).findings,
        (c.replacedTerms.getD Rule.defaultTerms).count pair.2 ≤ 1) := by
  refine ⟨RuleEngine.nodup_reservedPairs_iff changes agent, ?_⟩
  have hc := RuleEngine.nodup_reservedPairs_iff c.engineChanges agent
  rwa [← c.engine_eq_ofChanges, c.chosenTerms_engineChanges] at hc

/-- A list that is chosen is taken as it is, and a term that it has twice is reported twice. -/
theorem reservedTerm_repeats :
    Rule.reservedPairs ((ofConfiguration { replacedTerms := some ["billing", "billing"] }).validate
        (Rule.described "Handles billing")).findings =
      [("description", "billing"), ("description", "billing")] ∧
    ¬ ∀ (c : Configuration) (agent : Agent),
      (Rule.reservedPairs ((ofConfiguration c).validate agent).findings).Nodup := by
  have htwice : Rule.reservedPairs ((ofConfiguration
      { replacedTerms := some ["billing", "billing"] }).validate
        (Rule.described "Handles billing")).findings =
      [("description", "billing"), ("description", "billing")] := by decide +kernel
  refine ⟨htwice, fun h => ?_⟩
  have hnodup := h { replacedTerms := some ["billing", "billing"] }
    (Rule.described "Handles billing")
  rw [htwice] at hnodup
  exact absurd hnodup (by decide)

end Compiler

end AgentSpec
