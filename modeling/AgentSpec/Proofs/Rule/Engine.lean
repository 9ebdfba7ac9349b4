import AgentSpec.Proofs.Rule.Laws
import AgentSpec.Proofs.Rule.ReservedTerms

/-! What a sequence of changes makes of the engine, and what one rule has to do with the others:
each adds its own block of findings, whatever the rest of them find. -/
namespace AgentSpec

namespace Rule

variable {rules rules' : List Rule}

theorem nodup_all : all.Nodup := by decide

/-- A choice of rules in the order of application. -/
def InOrder (rules : List Rule) : Prop := rules = all.filter (· ∈ rules)

theorem InOrder.sublist (h : InOrder rules) : rules.Sublist all := by
  rw [h]
  exact List.filter_sublist

theorem InOrder.nodup (h : InOrder rules) : rules.Nodup := nodup_all.sublist h.sublist

/-- Choices in order are the same if they have the same rules. -/
theorem InOrder.eq_of_mem_iff (h : InOrder rules) (h' : InOrder rules')
    (hm : ∀ rule, rule ∈ rules ↔ rule ∈ rules') : rules = rules' := by
  rw [h, h']
  refine List.filter_congr fun rule _ => ?_
  rw [decide_eq_decide]
  exact hm rule

theorem filter_bne_of_notMem {rule : Rule} (h : rule ∉ rules) :
    rules.filter (· != rule) = rules := by
  rw [List.filter_eq_self]
  intro other ho
  rw [bne_iff_ne]
  rintro rfl
  exact h ho

theorem inOrder_filter (p : Rule → Bool) : InOrder (all.filter p) := by
  refine List.filter_congr fun rule _ => ?_
  simp [mem_all]

theorem InOrder.filter (h : InOrder rules) (p : Rule → Bool) : InOrder (rules.filter p) := by
  rw [h, List.filter_filter]
  exact inOrder_filter _

end Rule

namespace EngineChange

/-- The change leaves the rule enabled, or enables it. -/
def Admits : EngineChange → Rule → Prop
  | .only rules, rule => rule ∈ rules
  | .without dropped, rule => rule ≠ dropped
  | .terms _, _ => True
  | .extraTerms _, _ => True

/-- The change is a new choice of rules, whatever they were before. -/
def Chooses (change : EngineChange) : Prop := ∃ rules, change = .only rules

/-- The change is about reserved terms. -/
def concernsTerms : EngineChange → Bool
  | .only _ => false
  | .without _ => false
  | .terms _ => true
  | .extraTerms _ => true

/-- No change from the last choice of rules onwards drops the rule. -/
def Enables (changes : List EngineChange) (rule : Rule) : Prop :=
  ∀ earlier change later, changes = earlier ++ change :: later →
    (∀ next ∈ later, ¬ next.Chooses) → change.Admits rule

variable {changes : List EngineChange} {change : EngineChange} {rule : Rule}

theorem enables_nil : Enables [] rule := by
  intro earlier change later h
  cases earlier <;> cases h

theorem enables_concat :
    Enables (changes ++ [change]) rule ↔
      change.Admits rule ∧ (change.Chooses ∨ Enables changes rule) := by
  constructor
  · intro h
    refine ⟨h changes change [] rfl (by simp), ?_⟩
    by_cases hc : change.Chooses
    · exact .inl hc
    · refine .inr fun earlier first later he hlater => ?_
      refine h earlier first (later ++ [change]) (by simp [he]) fun next hn => ?_
      rcases List.mem_append.1 hn with hn | hn
      · exact hlater next hn
      · rwa [List.mem_singleton.1 hn]
  · intro h earlier first later he hlater
    obtain ⟨ha, hrest⟩ := h
    -- the last change is either the one asked about or comes after it
    rcases List.eq_nil_or_concat' later with rfl | ⟨between, last, rfl⟩
    · obtain ⟨-, hfirst⟩ := List.append_inj' he rfl
      rwa [← (List.cons.inj hfirst).1]
    · rw [← List.cons_append, ← List.append_assoc] at he
      obtain ⟨hbefore, hlast⟩ := List.append_inj' he rfl
      obtain rfl := (List.cons.inj hlast).1
      rcases hrest with hc | hrest
      · exact absurd hc (hlater change (by simp))
      · exact hrest earlier first between hbefore fun next hn => hlater next (by simp [hn])

end EngineChange

namespace RuleEngine

variable {engine : RuleEngine} {changes : List EngineChange} {rule : Rule} {agent : Agent}

/-- The engine that results from changes to the standard one. -/
def ofChanges (changes : List EngineChange) : RuleEngine := changes.foldl change standard

theorem ofChanges_concat (e : EngineChange) :
    ofChanges (changes ++ [e]) = (ofChanges changes).change e := by
  rw [ofChanges, List.foldl_append]
  rfl

theorem inOrder_change (h : Rule.InOrder engine.rules) (e : EngineChange) :
    Rule.InOrder (engine.change e).rules := by
  cases e with
  | only rules => exact Rule.inOrder_filter _
  | without dropped => exact h.filter _
  | terms _ => exact h
  | extraTerms _ => exact h

theorem inOrder_ofChanges (changes : List EngineChange) :
    Rule.InOrder (ofChanges changes).rules := by
  induction changes using List.reverseRecOn with
  | nil => exact Rule.inOrder_filter fun _ => true
  | append_singleton changes e ih =>
    rw [ofChanges_concat]
    exact inOrder_change ih e

theorem mem_rules_change (e : EngineChange) :
    rule ∈ (engine.change e).rules ↔ e.Admits rule ∧ (e.Chooses ∨ rule ∈ engine.rules) := by
  cases e with
  | only rules => simp [change, EngineChange.Admits, EngineChange.Chooses, Rule.mem_all]
  | without dropped =>
    simp [change, EngineChange.Admits, EngineChange.Chooses, and_comm]
  | terms _ => simp [change, EngineChange.Admits, EngineChange.Chooses]
  | extraTerms _ => simp [change, EngineChange.Admits, EngineChange.Chooses]

theorem mem_rules_ofChanges :
    rule ∈ (ofChanges changes).rules ↔ EngineChange.Enables changes rule := by
  induction changes using List.reverseRecOn with
  | nil => exact iff_of_true (Rule.mem_all rule) EngineChange.enables_nil
  | append_singleton changes e ih =>
    rw [ofChanges_concat, mem_rules_change, EngineChange.enables_concat, ih]

/-- The reserved terms do not depend on the rules. -/
theorem terms_ofChanges :
    (ofChanges changes).terms = (ofChanges (changes.filter (·.concernsTerms))).terms := by
  induction changes using List.reverseRecOn with
  | nil => rfl
  | append_singleton changes e ih =>
    rw [ofChanges_concat, List.filter_append]
    cases e with
    | only rules => simpa [EngineChange.concernsTerms, change] using ih
    | without dropped => simpa [EngineChange.concernsTerms, change] using ih
    | terms terms => simp [EngineChange.concernsTerms, ofChanges_concat, change]
    | extraTerms terms => simp [EngineChange.concernsTerms, ofChanges_concat, change, ih]

theorem foldl_without (engine : RuleEngine) (rules : List Rule) :
    rules.foldl (fun engine rule => engine.change (.without rule)) engine =
      { engine with rules := engine.rules.filter (· ∉ rules) } := by
  induction rules generalizing engine with
  | nil => simp
  | cons first rest ih =>
    rw [List.foldl_cons, ih, change]
    congr 1
    rw [List.filter_filter]
    refine List.filter_congr fun rule _ => ?_
    by_cases hr : rule = first <;> simp [hr]

theorem ofChanges_without (rules : List Rule) :
    ofChanges (changes ++ rules.map .without) =
      { ofChanges changes with rules := (ofChanges changes).rules.filter (· ∉ rules) } := by
  rw [ofChanges, List.foldl_append, List.foldl_map, foldl_without]
  rfl

theorem ofChanges_without_congr {rules rules' : List Rule}
    (h : ∀ rule, rule ∈ rules ↔ rule ∈ rules') :
    ofChanges (changes ++ rules.map .without) = ofChanges (changes ++ rules'.map .without) := by
  rw [ofChanges_without, ofChanges_without]
  simp only [h]

/-- What the engine would find with one rule only. -/
def alone (engine : RuleEngine) (agent : Agent) (rule : Rule) : List Finding :=
  ((engine.change (.only [rule])).validate agent).findings

theorem alone_eq (engine : RuleEngine) (agent : Agent) (rule : Rule) :
    engine.alone agent rule = rule.check engine.terms agent := by
  have hrules : Rule.all.filter ([rule].contains ·) = [rule] := by cases rule <;> rfl
  rw [alone, findings_validate, change, hrules, List.flatMap_singleton]

theorem change_without (h : rule ∉ engine.rules) : engine.change (.without rule) = engine := by
  rw [change, Rule.filter_bne_of_notMem h]

/-- Without a rule its own findings are missing, and nothing else. -/
theorem findings_without (hn : engine.rules.Nodup) (h : rule ∈ engine.rules) (agent : Agent) :
    ∃ earlier later,
      (engine.validate agent).findings = earlier ++ engine.alone agent rule ++ later ∧
        ((engine.change (.without rule)).validate agent).findings = earlier ++ later := by
  obtain ⟨before, after, hsplit⟩ := List.append_of_mem h
  rw [hsplit] at hn
  -- the rule stands at one place only, so the filter drops nothing else
  have hnot : rule ∉ before ++ after := (List.nodup_middle.1 hn).notMem
  have hrest : engine.rules.filter (· != rule) = before ++ after := by
    rw [hsplit, List.filter_append, List.filter_cons_of_neg (by simp), ← List.filter_append]
    exact Rule.filter_bne_of_notMem hnot
  refine ⟨before.flatMap (Rule.check engine.terms agent),
    after.flatMap (Rule.check engine.terms agent), ?_, ?_⟩
  · rw [findings_validate, hsplit, List.flatMap_append, List.flatMap_cons, alone_eq,
      List.append_assoc]
  · rw [findings_validate, change, hrest, List.flatMap_append]

theorem change_only_congr {rules rules' : List Rule} (h : ∀ rule, rule ∈ rules ↔ rule ∈ rules') :
    engine.change (.only rules) = engine.change (.only rules') := by
  have hsame : Rule.all.filter (rules.contains ·) = Rule.all.filter (rules'.contains ·) := by
    refine List.filter_congr fun rule _ => ?_
    rw [Bool.eq_iff_iff, List.contains_iff_mem, List.contains_iff_mem]
    exact h rule
  rw [change, change, hsame]

/-- Engines whose changes enable the same rules and agree about the terms are the same. -/
theorem ofChanges_congr {variant : List EngineChange}
    (ht : variant.filter (·.concernsTerms) = changes.filter (·.concernsTerms))
    (h : ∀ rule, EngineChange.Enables variant rule ↔ EngineChange.Enables changes rule) :
    ofChanges variant = ofChanges changes := by
  have hrules : (ofChanges variant).rules = (ofChanges changes).rules := by
    refine (inOrder_ofChanges variant).eq_of_mem_iff (inOrder_ofChanges changes) fun rule => ?_
    rw [mem_rules_ofChanges, mem_rules_ofChanges, h rule]
  have hterms : (ofChanges variant).terms = (ofChanges changes).terms := by
    rw [terms_ofChanges, ht, ← terms_ofChanges]
  rcases hv : ofChanges variant with ⟨rules, terms⟩
  rcases hc : ofChanges changes with ⟨rules', terms'⟩
  rw [hv, hc] at hrules hterms
  exact congr_arg₂ RuleEngine.mk hrules hterms

/-- However an engine came about, it applies its rules in one order, each once. Whatever has been
found before a rule is left in place, and what the rule adds is what it finds with nothing found
before. So a rule that is dropped takes its own findings with it and no others. It is not important
in which order rules are chosen or dropped. -/
theorem validate_ofChanges (changes : List EngineChange) (agent : Agent) :
    (ofChanges changes).rules.Sublist Rule.all ∧ (ofChanges changes).rules.Nodup ∧
    (∀ rule, rule ∈ (ofChanges changes).rules ↔ EngineChange.Enables changes rule) ∧
    (∀ (rule : Rule) (found : Array Finding), rule.pass (ofChanges changes).terms agent found =
      found ++ rule.pass (ofChanges changes).terms agent #[]) ∧
    (∀ found, (ofChanges changes).pass agent found =
      found ++ (ofChanges changes).pass agent #[]) ∧
    ((ofChanges changes).validate agent).findings = ((ofChanges changes).rules.map fun rule =>
      (rule.pass (ofChanges changes).terms agent #[]).toList).flatten ∧
    (∀ rule : Rule, (ofChanges changes).alone agent rule =
      (rule.pass (ofChanges changes).terms agent #[]).toList) ∧
    (∀ rule, if rule ∈ (ofChanges changes).rules then
        ∃ earlier later, ((ofChanges changes).validate agent).findings =
            earlier ++ (ofChanges changes).alone agent rule ++ later ∧
          ((ofChanges (changes ++ [.without rule])).validate agent).findings = earlier ++ later
      else ofChanges (changes ++ [.without rule]) = ofChanges changes) ∧
    (∀ rules rules' : List Rule, (∀ rule, rule ∈ rules ↔ rule ∈ rules') →
      ofChanges (changes ++ [.only rules]) = ofChanges (changes ++ [.only rules']) ∧
        ofChanges (changes ++ rules.map .without) = ofChanges (changes ++ rules'.map .without)) ∧
    ∀ variant : List EngineChange,
      variant.filter (·.concernsTerms) = changes.filter (·.concernsTerms) →
      (∀ rule, EngineChange.Enables variant rule ↔ EngineChange.Enables changes rule) →
      ofChanges variant = ofChanges changes := by
  have hn : (ofChanges changes).rules.Nodup := (inOrder_ofChanges changes).nodup
  refine ⟨(inOrder_ofChanges changes).sublist, hn, fun _ => mem_rules_ofChanges,
    fun rule found => (Rule.appends_pass _ agent rule).eq found,
    fun found => (emits_pass _ agent).appends.eq found, ?_, fun rule => alone_eq _ agent rule,
    ?_, ?_, ?_⟩
  · rw [findings_validate, List.flatMap_def]
    rfl
  · intro rule
    rw [ofChanges_concat]
    split
    · rename_i h
      exact findings_without hn h agent
    · rename_i h
      exact change_without h
  · intro rules rules' h
    rw [ofChanges_concat, ofChanges_concat]
    exact ⟨change_only_congr h, ofChanges_without_congr h⟩
  · exact fun variant ht h => ofChanges_congr ht h

/-- Three rules and a term of its own, with a choice that comes too early to count. -/
def selection : List EngineChange :=
  [.without .naming, .terms ["daemon"], .only [.boundary, .version, .naming]]

/-- An agent with a wrong name, a wrong version and a reserved term. -/
def misnamed : Agent := { Rule.described "A daemon." with name := "bad recorder", version := "1.0" }

theorem validate_ofChanges_misnamed :
    (ofChanges selection).rules = [.naming, .version, .boundary] ∧
      ((ofChanges selection).validate misnamed).findings.length = 3 ∧
      Rule.version.pass ["daemon"] misnamed (Rule.naming.pass ["daemon"] misnamed #[]) =
        Rule.naming.pass ["daemon"] misnamed #[] ++ Rule.version.pass ["daemon"] misnamed #[] ∧
      (∃ earlier later, ((ofChanges selection).validate misnamed).findings =
          earlier ++ (ofChanges selection).alone misnamed .version ++ later ∧
        ((ofChanges (selection ++ [.without .version])).validate misnamed).findings =
          earlier ++ later) ∧
      ofChanges (selection ++ [.without .cycles]) = ofChanges selection ∧
      ofChanges (selection ++ [.without .version, .without .naming]) =
        ofChanges (selection ++ [.without .naming, .without .version, .without .naming]) ∧
      ofChanges [.terms ["daemon"], .only [.naming, .version, .naming, .boundary]] =
        ofChanges selection := by
  obtain ⟨-, -, hmem, hkept, -, -, -, hblock, hsame, hvariant⟩ :=
    validate_ofChanges selection misnamed
  have hrules : (ofChanges selection).rules = [.naming, .version, .boundary] := by decide
  have hversion := hblock .version
  rw [if_pos (by decide)] at hversion
  have hcycles := hblock .cycles
  rw [if_neg (by decide)] at hcycles
  have hswap := (hsame [.version, .naming] [.naming, .version, .naming] (by simp)).2
  have hlisted := hvariant [.terms ["daemon"], .only [.naming, .version, .naming, .boundary]] rfl
    fun rule => mem_rules_ofChanges.symm.trans (hmem rule)
  exact ⟨hrules, by decide +kernel, hkept .version _, hversion, hcycles, hswap, hlisted⟩

end RuleEngine

end AgentSpec
