import AgentSpec.Proofs.Compiler
import AgentSpec.Session

/-! A stricter configuration finds no less and lets no other agent pass. It never changes the
document of an agent. -/
namespace AgentSpec

theorem Lacks.of_subset {s : Severity} {fs gs : List Finding} (h : fs ⊆ gs) (hl : Lacks s gs) :
    Lacks s fs :=
  fun f hf => hl f (h hf)

theorem Verdict.isUsable_of_subset {v v' : Verdict} {strict strict' : Bool}
    (hf : v.findings ⊆ v'.findings) (hs : strict = true → strict' = true)
    (h : v'.isUsable strict' = true) : v.isUsable strict = true := by
  rw [Verdict.isUsable_iff] at h ⊢
  obtain ⟨herror, hwarning⟩ := h
  exact ⟨herror.of_subset hf, fun h => (hwarning (hs h)).of_subset hf⟩

/-- More terms never hide a finding. -/
theorem Rule.check_subset {terms terms' : List String} (h : terms ⊆ terms') (rule : Rule)
    (agent : Agent) : rule.check terms agent ⊆ rule.check terms' agent := by
  cases rule with
  | boundary =>
    intro f hf
    obtain ⟨there, text, term, ht, hm, hc, rfl⟩ := mem_boundaryFindings.1 hf
    exact mem_boundaryFindings.2 ⟨there, text, term, ht, h hm, hc, rfl⟩
  | _ => exact List.Subset.refl _

theorem RuleEngine.validate_subset {engine engine' : RuleEngine}
    (hr : engine.rules ⊆ engine'.rules) (ht : engine.terms ⊆ engine'.terms) (agent : Agent) :
    (engine.validate agent).findings ⊆ (engine'.validate agent).findings := by
  intro f hf
  rw [findings_validate, List.mem_flatMap] at hf ⊢
  obtain ⟨rule, hrule, hf⟩ := hf
  exact ⟨rule, hr hrule, Rule.check_subset ht rule agent hf⟩

/-- Whatever the first configuration asks for, the second asks for as well. -/
structure Configuration.IsMilder (c c' : Configuration) : Prop where
  strict : c.strict = true → c'.strict = true
  rules : ∀ rule ∈ c'.disabledRules, rule ∈ c.disabledRules
  terms : ∀ term, c.Reserves term → c'.Reserves term

/-- The first compilation has the document of the second if there is one, and no finding that the
second does not have. -/
structure Compilation.IsMilder (a b : Compilation) : Prop where
  output : ∀ document, b.output = some document → a.output = some document
  findings : ∀ f ∈ a.verdict.findings, f ∈ b.verdict.findings

namespace Configuration

variable {c c' : Configuration}

theorem isMilder_strict (c : Configuration) : c.IsMilder (c.change (.strict true)) where
  strict _ := rfl
  rules _ h := h
  terms _ h := h

theorem isMilder_extraTerms (c : Configuration) (terms : List String) :
    c.IsMilder (c.change (.extraTerms terms)) where
  strict h := h
  rules _ h := h
  terms _ h := h.imp_right (List.mem_append_left terms)

theorem isMilder_disable (c : Configuration) (rule : Rule) :
    (c.change (.disable rule)).IsMilder c := by
  simp only [change]
  split
  · exact ⟨id, fun _ h => h, fun _ h => h⟩
  · exact ⟨id, fun _ h => List.mem_append_left [rule] h, fun _ h => h⟩

/-- With the flag the same file is read, with the same failures, and the configuration is then
made strict. -/
theorem effective_strict {m : Type → Type} [Monad m] [LawfulMonad m] [Files m]
    (path : Option String) :
    (effective path true : m (Except CommandFailure Configuration)) =
      Except.map (·.change (.strict true)) <$> effective path false := by
  have hid : ∀ base : Except CommandFailure Configuration, base.map (fun c => c) = base := by
    intro base
    cases base <;> rfl
  cases path with
  | none => simp [effective, Except.map]
  | some path => simp [effective, hid]

end Configuration

namespace Compiler

theorem output_eq_some_iff {c : Configuration} {agent : Agent} {document : String} :
    ((ofConfiguration c).compile agent).output = some document ↔
      ((ofConfiguration c).validate agent).isUsable c.strict = true ∧ agent.render = document :=
  Option.ite_none_right_eq_some.trans (and_congr_right fun _ => Option.some_inj)

theorem compile_isMilder {c c' : Configuration} (h : c.IsMilder c') (agent : Agent) :
    ((ofConfiguration c).compile agent).IsMilder ((ofConfiguration c').compile agent) := by
  have hrules : c.engine.rules ⊆ c'.engine.rules := by
    intro rule hr
    rw [Configuration.mem_engine_rules] at hr ⊢
    exact fun hd => hr (h.rules rule hd)
  have hterms : c.engine.terms ⊆ c'.engine.terms := by
    intro term ht
    rw [Configuration.mem_engine_terms] at ht ⊢
    exact h.terms term ht
  have hfindings := RuleEngine.validate_subset hrules hterms agent
  refine ⟨fun document ho => ?_, hfindings⟩
  rw [output_eq_some_iff] at ho ⊢
  exact ⟨Verdict.isUsable_of_subset hfindings h.strict ho.1, ho.2⟩

/-- A stricter configuration blocks no less and changes no document. This holds of the flag that
makes a configuration strict, of terms that are added and of rules that are not disabled. -/
theorem compile_monotone (agent : Agent) :
    (∀ c c' : Configuration, c.IsMilder c' →
      ((ofConfiguration c).compile agent).IsMilder ((ofConfiguration c').compile agent)) ∧
    (∀ (m : Type → Type) [Monad m] [LawfulMonad m] [Files m] (path : Option String),
      (Configuration.effective path true : m (Except CommandFailure Configuration)) =
        Except.map (·.change (.strict true)) <$> Configuration.effective path false) ∧
    ∀ c : Configuration,
      ((ofConfiguration c).compile agent).IsMilder
        ((ofConfiguration (c.change (.strict true))).compile agent) ∧
      (∀ terms, ((ofConfiguration c).compile agent).IsMilder
        ((ofConfiguration (c.change (.extraTerms terms))).compile agent)) ∧
      ∀ rule, ((ofConfiguration (c.change (.disable rule))).compile agent).IsMilder
        ((ofConfiguration c).compile agent) := by
  refine ⟨fun c c' h => compile_isMilder h agent,
    fun m _ _ _ path => Configuration.effective_strict path, fun c => ⟨?_, ?_, ?_⟩⟩
  · exact compile_isMilder c.isMilder_strict agent
  · exact fun terms => compile_isMilder (c.isMilder_extraTerms terms) agent
  · exact fun rule => compile_isMilder (c.isMilder_disable rule) agent

/-- A configuration with fewer rules and with one reserved term only. -/
def mild : Configuration := { disabledRules := [.naming], replacedTerms := some ["work"] }

/-- A configuration with all rules and with one reserved term more than usual. -/
def usual : Configuration := { extraTerms := ["work"] }

theorem compile_monotone_daemon :
    mild.IsMilder usual ∧
      ((ofConfiguration usual).compile (Rule.described "Daemon work.")).output =
        some (Rule.described "Daemon work.").render ∧
      ((ofConfiguration mild).compile (Rule.described "Daemon work.")).output =
        some (Rule.described "Daemon work.").render ∧
      Finding.warning (.top "description") (.reservedTerm "description" "work") ∈
        ((ofConfiguration usual).compile (Rule.described "Daemon work.")).verdict.findings ∧
      ((ofConfiguration (usual.change (.strict true))).compile
        (Rule.described "Daemon work.")).output = none := by
  have hmilder : mild.IsMilder usual := by
    refine ⟨nofun, nofun, fun term ht => .inr ?_⟩
    rcases ht with ht | ht
    · exact ht
    · cases ht
  obtain ⟨hall, -, -⟩ := compile_monotone (Rule.described "Daemon work.")
  have husual : ((ofConfiguration usual).compile (Rule.described "Daemon work.")).output =
      some (Rule.described "Daemon work.").render :=
    output_eq_some_iff.2 ⟨by decide +kernel, rfl⟩
  have hwork : Finding.warning (.top "description") (.reservedTerm "description" "work") ∈
      ((ofConfiguration mild).compile (Rule.described "Daemon work.")).verdict.findings := by
    decide +kernel
  obtain ⟨houtput, hfindings⟩ := hall mild usual hmilder
  have hstrict : ((ofConfiguration (usual.change (.strict true))).compile
      (Rule.described "Daemon work.")).output = none := by
    rw [Option.eq_none_iff_forall_ne_some]
    intro document ho
    exact absurd (output_eq_some_iff.1 ho).1 (by decide +kernel)
  exact ⟨hmilder, husual, houtput _ husual, hfindings _ hwork, hstrict⟩

end Compiler

end AgentSpec
