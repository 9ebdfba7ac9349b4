import AgentSpec.Proofs.Compiler
import AgentSpec.Proofs.Rule.Shown
import AgentSpec.Proofs.Session

/-! Whether a report is read line by line as it was meant. -/
namespace AgentSpec

open Text

namespace Report

variable {report : Report}

/-- Read line by line, the text has one line for each finding, the summary, and one line more at
most. -/
def IsFaithful (report : Report) : Prop :=
  cutAt '\n' (report.render .text).toList =
    (report.findings.map Finding.line ++ report.summary :: report.outcome).map String.toList ++ [[]]

instance (report : Report) : Decidable report.IsFaithful :=
  inferInstanceAs (Decidable (_ = _))

theorem length_outcome_le (report : Report) : report.outcome.length ≤ 1 := by
  unfold outcome
  split
  · exact Nat.le_refl 1
  · split
    · exact Nat.le_refl 1
    · exact Nat.zero_le 1

theorem singleLine_summary : SingleLine report.summary ↔ SingleLine report.file := by
  simp +decide [summary]

theorem singleLine_outcome (h : ∀ path ∈ report.output, SingleLine path) :
    ∀ line ∈ report.outcome, SingleLine line := by
  unfold outcome
  split
  · rename_i path hp
    have hline : SingleLine ("wrote " ++ path) := singleLine_append.2 ⟨by decide, h path hp⟩
    simpa using hline
  · split <;> simp +decide

/-- A report is faithful exactly if none of its findings holds a text of more than one line. -/
theorem isFaithful_iff (hf : SingleLine report.file)
    (ho : ∀ path ∈ report.output, SingleLine path) :
    report.IsFaithful ↔ ∀ f ∈ report.findings, f.OneLine := by
  have hlines : report.IsFaithful ↔ ∀ line ∈ report.lines, SingleLine line := cutAt_lines_iff
  have hrest : ∀ line ∈ report.summary :: report.outcome, SingleLine line :=
    List.forall_mem_cons.2 ⟨singleLine_summary.2 hf, singleLine_outcome ho⟩
  rw [hlines, lines, List.forall_mem_append, and_iff_left hrest, List.forall_mem_map]
  simp only [Finding.singleLine_line]

end Report

namespace Session

variable {c : Configuration} {file : String} {agent : Agent} {output : Option String}

theorem mem_findings_report {f : Finding} :
    f ∈ (((ofConfiguration c .text).report file agent).withOutput output).findings ↔
      ∃ rule ∉ c.disabledRules, Rule.Finds c.engine.terms agent rule f := by
  change f ∈ (c.engine.validate agent).findings ↔ _
  simp only [RuleEngine.mem_validate, Configuration.mem_engine_rules]

theorem isFaithful_report_iff (hf : SingleLine file) (ho : ∀ path ∈ output, SingleLine path) :
    (((ofConfiguration c .text).report file agent).withOutput output).IsFaithful ↔
      ∀ rule ∉ c.disabledRules, ∀ f, Rule.Finds c.engine.terms agent rule f → f.OneLine := by
  rw [Report.isFaithful_iff hf ho]
  simp only [mem_findings_report]
  exact ⟨fun h rule hr f hm => h f ⟨rule, hr, hm⟩, fun h f ⟨rule, hr, hm⟩ => h rule hr f hm⟩

/-- A name with a line break is no identifier, and the finding that says so shows the name. -/
theorem singleLine_of_isFaithful (hf : SingleLine file) (ho : ∀ path ∈ output, SingleLine path)
    (h : (((ofConfiguration c .text).report file agent).withOutput output).IsFaithful)
    (hn : Rule.naming ∉ c.disabledRules) {place : Place} {field name : String}
    (hname : agent.NameAt place field name) : SingleLine name := by
  by_cases hi : Identifier name
  · exact hi.singleLine
  · have hm := (isFaithful_report_iff hf ho).1 h .naming hn _ (.misnamed hname hi)
    exact hm.texts name (by simp [Finding.error, Defect.texts])

/-- The report about an agent is faithful exactly if no finding holds a text of more than one line.
It is so if neither a text that findings show nor a reserved term has a line break, and it is not if
a name has one while names are checked. -/
theorem report_isFaithful_iff (hf : SingleLine file) (ho : ∀ path ∈ output, SingleLine path) :
    let report := ((ofConfiguration c .text).report file agent).withOutput output
    report.outcome.length ≤ 1 ∧
    (report.IsFaithful ↔ ∀ rule ∉ c.disabledRules, ∀ f,
      Rule.Finds c.engine.terms agent rule f → f.OneLine) ∧
    ((∀ text, agent.Shows text ∨ c.Reserves text → SingleLine text) → report.IsFaithful) ∧
    (report.IsFaithful → Rule.naming ∉ c.disabledRules →
      ∀ place field name, agent.NameAt place field name → SingleLine name) := by
  intro report
  have hiff : report.IsFaithful ↔ _ := isFaithful_report_iff hf ho
  refine ⟨report.length_outcome_le, hiff, fun h => hiff.2 fun rule _ f hm => ?_,
    fun h hn place field name => singleLine_of_isFaithful hf ho h hn⟩
  exact hm.oneLine (fun text ht => h text (.inl ht))
    fun term ht => h term (.inr (Configuration.mem_engine_terms.1 ht))

/-- An agent without workflows and the like shows no more than its name and its version. -/
theorem report_isFaithful_described :
    SingleLine "agent.yaml" ∧ SingleLine "out.yaml" ∧
      (((ofConfiguration {} .text).report "agent.yaml" (Rule.described "")).withOutput
        (some "out.yaml")).IsFaithful := by
  have hfile : SingleLine "agent.yaml" := by decide
  have hout : ∀ path ∈ some "out.yaml", SingleLine path := by simp +decide
  have hterms : ∀ term ∈ Rule.defaultTerms, SingleLine term := by decide
  have hshown : ∀ text, (Rule.described "").Shows text → SingleLine text := by
    intro text ht
    cases ht with
    | name h =>
      cases h with
      | agent => decide
      | _ => contradiction
    | version => decide
    | schemaKey hs =>
      cases hs with
      | partInput hc => cases hc <;> contradiction
      | partOutput hc => cases hc <;> contradiction
      | _ => contradiction
    | _ => contradiction
  obtain ⟨-, -, hfaithful, -⟩ :=
    @report_isFaithful_iff {} "agent.yaml" (Rule.described "") (some "out.yaml") hfile hout
  refine ⟨hfile, hout _ rfl, hfaithful fun text ht => ?_⟩
  rcases ht with ht | ht | ht
  · exact hshown text ht
  · exact hterms text ht
  · cases ht

/-- A name is shown as it stands, so that the line of a finding about it breaks in two. -/
theorem report_breaks :
    (Agent.load "name: \"greeter\\nblocked\"\nversion: 1.0.0\n").toOption =
      some { Rule.described "" with name := "greeter\nblocked" } ∧
    ¬ ((ofConfiguration {} .text).report "agent.yaml"
      { Rule.described "" with name := "greeter\nblocked" }).IsFaithful := by
  refine ⟨by decide +kernel, fun h => ?_⟩
  have hname : SingleLine "greeter\nblocked" :=
    @singleLine_of_isFaithful {} "agent.yaml" { Rule.described "" with name := "greeter\nblocked" }
      none (by decide) nofun h (by decide) _ _ _ .agent
  exact absurd hname (by decide)

end Session

end AgentSpec
