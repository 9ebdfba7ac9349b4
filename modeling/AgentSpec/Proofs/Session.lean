import AgentSpec.CommandLine
import AgentSpec.Proofs.Files
import AgentSpec.Proofs.ReportText
import AgentSpec.Proofs.Rule.ReservedTerms

/-! How the two commands agree about a file, what they leave behind, and how the program ends. -/
namespace AgentSpec

/-- Nothing could be read from a file, or nothing that is an agent. -/
def CommandFailure.IsLoad (file : String) : CommandFailure → Prop
  | .unreadableFile path _ => path = file
  | .load _ => True
  | _ => False

/-- A command ended with a report and an exit status. -/
def Ends (result : Except CommandFailure Outcome) (status : Nat) : Prop :=
  ∃ outcome, result = .ok outcome ∧ outcome.status = status

/-- A command ended with a report, whose text says that it is blocked exactly if the command failed.
A path of more than one line could end in any line. -/
structure Outcome.Presents (outcome : Outcome) (report : Report) (format : ReportFormat) :
    Prop where
  text : outcome.report = report.render format
  status : outcome.status = 0 ∨ outcome.status = 1
  blocked : report.blocked = true ↔ outcome.status = 1
  tells : report.Tells outcome.status outcome.report format
  saysBlocked : (∀ path ∈ report.output, Text.SingleLine path) →
    (format.SaysBlocked outcome.report ↔ outcome.status = 1)

/-- A chain goes on from what its first step leaves behind. -/
theorem run_bind_eq {σ α β : Type} {x : StateM σ α} {f : α → StateM σ β} {s s' : σ} {a : α}
    (h : x.run s = (a, s')) : (x >>= f).run s = (f a).run s' := by
  rw [StateT.run_bind, h]
  rfl

variable {σ : Type} [Files (StateM σ)]

/-- The agent in a file, and what loading it leaves behind. -/
def Agent.loaded (file : String) (s : σ) : Except CommandFailure Agent × σ :=
  (Agent.loadFile file : StateM σ (Except CommandFailure Agent)).run s

/-- The text in a file. -/
def readFrom (path : String) (s : σ) : Except FileError String :=
  ((Files.read path : StateM σ (Except FileError String)).run s).1

namespace Session

variable (session : Session) (file output : String) (s : σ)

/-- The end of the command that validates, and what it leaves behind. -/
def validated : Except CommandFailure Outcome × σ :=
  (session.validate file : StateM σ (Except CommandFailure Outcome)).run s

/-- The end of the command that compiles, and what it leaves behind. -/
def compiled : Except CommandFailure Outcome × σ :=
  (session.compile file output : StateM σ (Except CommandFailure Outcome)).run s

/-- What is reported about an agent in a file. -/
def report (agent : Agent) : Report :=
  .ofVerdict file (session.compiler.validate agent) session.strict

/-- The session and its compiler agree about warnings. -/
def Coherent : Prop := session.strict = session.compiler.strict

theorem coherent_ofConfiguration (c : Configuration) (format : ReportFormat) :
    (ofConfiguration c format).Coherent := rfl

/-- What is loaded from a file, given what has been read. -/
def loadedText : Except FileError String → Except CommandFailure Agent
  | .error error => .error (.unreadableFile file error)
  | .ok text => (Agent.load text).mapError .load

theorem isLoad_of_loadedText {result : Except FileError String} {failure : CommandFailure}
    (h : loadedText file result = .error failure) : failure.IsLoad file := by
  cases result with
  | error error =>
    cases h
    rfl
  | ok text =>
    change (Agent.load text).mapError .load = .error failure at h
    cases hload : Agent.load text with
    | error error =>
      rw [hload] at h
      cases h
      trivial
    | ok agent =>
      rw [hload] at h
      cases h

theorem exists_loaded_eq [LawfulFiles σ] :
    ∃ result, Agent.loaded file s = (loadedText file result, s) := by
  obtain ⟨result, hread⟩ := LawfulFiles.read_state file s
  refine ⟨result, ?_⟩
  refine (run_bind_eq hread).trans ?_
  cases result <;> rfl

variable {session file output s} {failure : CommandFailure} {agent : Agent}

theorem validated_of_error (h : Agent.loaded file s = (.error failure, s)) :
    session.validated file s = (.error failure, s) :=
  run_bind_eq h

theorem compiled_of_error (h : Agent.loaded file s = (.error failure, s)) :
    session.compiled file output s = (.error failure, s) :=
  run_bind_eq h

theorem validated_of_ok (h : Agent.loaded file s = (.ok agent, s)) :
    session.validated file s = (.ok (session.outcome file (session.compiler.validate agent) none
      ((session.compiler.validate agent).isUsable session.strict)), s) :=
  run_bind_eq h

/-- The verdict of the compiler decides how the command that validates ends, too. -/
theorem validated_of_isUsable (hs : session.Coherent) (h : Agent.loaded file s = (.ok agent, s))
    {success : Bool}
    (hu : (session.compiler.validate agent).isUsable session.compiler.strict = success) :
    session.validated file s =
      (.ok (session.outcome file (session.compiler.validate agent) none success), s) := by
  rw [validated_of_ok h, hs, hu]

variable {compiler : Compiler} {s' : σ} {error : FileError}

theorem run_compileToFile_of_blocked
    (hu : ¬ (compiler.validate agent).isUsable compiler.strict = true) :
    (compiler.compileToFile agent output : StateM σ (Except CommandFailure Compilation)).run s =
      (.ok (compiler.compile agent), s) := by
  have hnone : (compiler.compile agent).output = none := if_neg hu
  unfold Compiler.compileToFile
  dsimp only
  rw [hnone]
  rfl

theorem run_compileToFile_of_usable
    (hu : (compiler.validate agent).isUsable compiler.strict = true)
    {result : Except FileError Unit}
    (hw : (Files.write output agent.render : StateM σ (Except FileError Unit)).run s =
      (result, s')) :
    (compiler.compileToFile agent output : StateM σ (Except CommandFailure Compilation)).run s =
      ((result.mapError (.unwritableFile output)).map fun _ =>
        { compiler.compile agent with outputPath := some output }, s') := by
  have hsome : (compiler.compile agent).output = some agent.render := if_pos hu
  unfold Compiler.compileToFile
  dsimp only
  rw [hsome]
  exact run_bind_eq (run_bind_eq hw)

theorem compiled_of_ok (h : Agent.loaded file s = (.ok agent, s))
    {result : Except CommandFailure Compilation}
    (hrun : (session.compiler.compileToFile agent output :
      StateM σ (Except CommandFailure Compilation)).run s = (result, s')) :
    session.compiled file output s = (result.map fun compilation =>
      session.outcome file compilation.verdict compilation.outputPath compilation.isSuccessful,
      s') :=
  (run_bind_eq h).trans (run_bind_eq hrun)

theorem compiled_of_blocked (h : Agent.loaded file s = (.ok agent, s))
    (hu : (session.compiler.validate agent).isUsable session.compiler.strict = false) :
    session.compiled file output s =
      (.ok (session.outcome file (session.compiler.validate agent) none false), s) := by
  have hno : ¬ (session.compiler.validate agent).isUsable session.compiler.strict = true := by
    rw [hu]
    exact Bool.false_ne_true
  rw [compiled_of_ok h (run_compileToFile_of_blocked hno), Compiler.compile, if_neg hno]
  rfl

/-- The file is written, or the command fails with the reason why not. -/
theorem compiled_of_usable (h : Agent.loaded file s = (.ok agent, s))
    (hu : (session.compiler.validate agent).isUsable session.compiler.strict = true)
    {result : Except FileError Unit}
    (hw : (Files.write output agent.render : StateM σ (Except FileError Unit)).run s =
      (result, s')) :
    session.compiled file output s = ((result.mapError (.unwritableFile output)).map fun _ =>
      session.outcome file (session.compiler.validate agent) (some output) true, s') := by
  rw [compiled_of_ok h (run_compileToFile_of_usable hu hw), Compiler.compile, if_pos hu]
  cases result <;> rfl

theorem presents_outcome {verdict : Verdict} {success : Bool} {written : Option String}
    (hu : verdict.isUsable session.strict = success) (hw : success = false → written = none) :
    (session.outcome file verdict written success).Presents
      ((Report.ofVerdict file verdict session.strict).withOutput written) session.format := by
  have hblocked : ((Report.ofVerdict file verdict session.strict).withOutput written).blocked =
      !success := by
    rw [← hu]
    rfl
  have hstatus : ((Report.ofVerdict file verdict session.strict).withOutput written).blocked =
      true ↔ (session.outcome file verdict written success).status = 1 := by
    rw [hblocked]
    cases success <;> simp [outcome]
  have hwritten : ((Report.ofVerdict file verdict session.strict).withOutput written).blocked =
      true → written = none := by
    rw [hblocked, Bool.not_eq_true']
    exact hw
  have htells := Report.tells_render hstatus hwritten session.format
  refine ⟨rfl, ?_, hstatus, htells, fun ho => ?_⟩
  · cases success
    · exact .inr rfl
    · exact .inl rfl
  · exact (Report.saysBlocked_render_iff hwritten ho session.format).trans hstatus

/-- An agent that may be compiled is presented as such, with or without a document. -/
theorem presents_usable (hs : session.Coherent)
    (hu : (session.compiler.validate agent).isUsable session.compiler.strict = true)
    (file : String) (written : Option String) :
    (session.outcome file (session.compiler.validate agent) written true).Presents
      ((session.report file agent).withOutput written) session.format := by
  have husable : (session.compiler.validate agent).isUsable session.strict = true := by rw [hs, hu]
  exact presents_outcome husable nofun

/-- An agent is loaded, and both commands report about it. -/
structure Loads (session : Session) (file output : String) (s : σ) (agent : Agent) : Prop where
  loaded : Agent.loaded file s = (.ok agent, s)
  validated : ∃ outcome, session.validated file s = (.ok outcome, s) ∧
    outcome.Presents (session.report file agent) session.format
  /-- The report names a document exactly if it has been written as a whole. -/
  compiled : ∀ outcome, (session.compiled file output s).1 = .ok outcome → ∃ written,
    outcome.Presents ((session.report file agent).withOutput written) session.format ∧
      (outcome.status = 0 → written = some output ∧
        readFrom output (session.compiled file output s).2 = .ok agent.render) ∧
      (outcome.status = 1 → written = none) ∧
      (Text.SingleLine output → (session.format.Names outcome.report output ↔ outcome.status = 0))
  refused : ∀ failure, (session.compiled file output s).1 = .error failure →
    ∃ error, failure = .unwritableFile output error

/-- Both commands on one file come to the same conclusions, and a document is all that changes. -/
structure Agrees (session : Session) (file output : String) (s : σ) : Prop where
  load : (∃ failure, failure.IsLoad file ∧ session.validated file s = (.error failure, s) ∧
      session.compiled file output s = (.error failure, s)) ∨
    ∃ agent, session.Loads file output s agent
  valid : Ends (session.validated file s).1 0 ↔ Ends (session.compiled file output s).1 0 ∨
    ∃ error, (session.compiled file output s).1 = .error (.unwritableFile output error)
  invalid : Ends (session.validated file s).1 1 ↔ Ends (session.compiled file output s).1 1
  checked : (session.validated file s).2 = s
  unchanged : Ends (session.compiled file output s).1 1 ∨
      (∃ failure, failure.IsLoad file ∧ (session.compiled file output s).1 = .error failure) →
    (session.compiled file output s).2 = s

theorem ends_ok_iff {outcome : Outcome} {status : Nat} :
    Ends (.ok outcome) status ↔ outcome.status = status := by
  simp [Ends]

theorem not_ends_error {status : Nat} : ¬ Ends (.error failure) status := nofun

theorem agrees_of_error (hf : failure.IsLoad file)
    (h : Agent.loaded file s = (.error failure, s)) : session.Agrees file output s := by
  have hv : session.validated file s = (.error failure, s) := validated_of_error h
  have hc : session.compiled file output s = (.error failure, s) := compiled_of_error h
  have hno : ¬ ∃ error, failure = .unwritableFile output error := by
    rintro ⟨error, rfl⟩
    exact hf
  refine ⟨.inl ⟨failure, hf, hv, hc⟩, ?_, ?_, by rw [hv], fun _ => by rw [hc]⟩
  · rw [hv, hc]
    simp only [not_ends_error, Except.error.injEq, hno, or_self]
  · rw [hv, hc]

/-- An agent that is blocked is reported by both commands, and nothing is written. -/
theorem agrees_of_blocked (hs : session.Coherent) (h : Agent.loaded file s = (.ok agent, s))
    (hu : (session.compiler.validate agent).isUsable session.compiler.strict = false) :
    session.Agrees file output s := by
  have hv : session.validated file s =
      (.ok (session.outcome file (session.compiler.validate agent) none false), s) :=
    validated_of_isUsable hs h hu
  have hc : session.compiled file output s =
      (.ok (session.outcome file (session.compiler.validate agent) none false), s) :=
    compiled_of_blocked h hu
  have husable : (session.compiler.validate agent).isUsable session.strict = false := by
    rw [hs, hu]
  have hp : (session.outcome file (session.compiler.validate agent) none false).Presents
      (session.report file agent) session.format := presents_outcome husable fun _ => rfl
  have hblocked : (session.report file agent).blocked = true := hp.blocked.2 rfl
  refine ⟨.inr ⟨agent, h, ⟨_, hv, hp⟩, ?_, ?_⟩, ?_, ?_, by rw [hv], fun _ => by rw [hc]⟩
  · intro outcome ho
    rw [hc] at ho
    cases ho
    refine ⟨none, hp, nofun, fun _ => rfl, fun _ => iff_of_false ?_ nofun⟩
    exact Report.not_names_render_of_blocked rfl hblocked session.format
  · intro failure hf
    rw [hc] at hf
    cases hf
  · rw [hv, hc]
    simp
  · rw [hv, hc]

/-- An agent that may be compiled is valid, even if its document cannot be written. -/
theorem agrees_of_unwritable (hs : session.Coherent) (h : Agent.loaded file s = (.ok agent, s))
    (hu : (session.compiler.validate agent).isUsable session.compiler.strict = true)
    (hw : (Files.write output agent.render : StateM σ (Except FileError Unit)).run s =
      (.error error, s')) : session.Agrees file output s := by
  have hv : session.validated file s =
      (.ok (session.outcome file (session.compiler.validate agent) none true), s) :=
    validated_of_isUsable hs h hu
  have hc : session.compiled file output s = (.error (.unwritableFile output error), s') :=
    compiled_of_usable h hu hw
  have hp := presents_usable hs hu file none
  refine ⟨.inr ⟨agent, h, ⟨_, hv, hp⟩, ?_, ?_⟩, ?_, ?_, by rw [hv], ?_⟩
  · intro outcome ho
    rw [hc] at ho
    cases ho
  · intro failure hf
    rw [hc] at hf
    exact ⟨error, (Except.error.inj hf).symm⟩
  · rw [hv, hc]
    exact iff_of_true (ends_ok_iff.2 rfl) (.inr ⟨error, rfl⟩)
  · rw [hv, hc, ends_ok_iff]
    exact iff_of_false nofun not_ends_error
  · rw [hc]
    intro hend
    rcases hend with hend | ⟨failure, hf, he⟩
    · exact absurd hend not_ends_error
    · cases he
      exact hf.elim

/-- An agent that may be compiled is written, and the report names its document. -/
theorem agrees_of_written [LawfulFiles σ] (hs : session.Coherent)
    (h : Agent.loaded file s = (.ok agent, s))
    (hu : (session.compiler.validate agent).isUsable session.compiler.strict = true)
    (hw : (Files.write output agent.render : StateM σ (Except FileError Unit)).run s =
      (.ok (), s')) : session.Agrees file output s := by
  have hv : session.validated file s =
      (.ok (session.outcome file (session.compiler.validate agent) none true), s) :=
    validated_of_isUsable hs h hu
  have hc : session.compiled file output s =
      (.ok (session.outcome file (session.compiler.validate agent) (some output) true), s') :=
    compiled_of_usable h hu hw
  have hread : readFrom output s' = .ok agent.render := by
    unfold readFrom
    rw [LawfulFiles.read_write output agent.render s s' hw]
  have hp := presents_usable hs hu file none
  refine ⟨.inr ⟨agent, h, ⟨_, hv, hp⟩, ?_, ?_⟩, ?_, ?_, by rw [hv], ?_⟩
  · intro outcome ho
    rw [hc] at ho ⊢
    cases ho
    have hnamed : ((session.report file agent).withOutput (some output)).output = some output := rfl
    refine ⟨some output, presents_usable hs hu file _, fun _ => ⟨rfl, hread⟩, nofun, fun hl => ?_⟩
    exact iff_of_true (Report.names_render_of_some hnamed hl session.format) rfl
  · intro failure hf
    rw [hc] at hf
    cases hf
  · rw [hv, hc]
    exact iff_of_true (ends_ok_iff.2 rfl) (.inl (ends_ok_iff.2 rfl))
  · rw [hv, hc, ends_ok_iff, ends_ok_iff]
    exact Iff.rfl
  · rw [hc, ends_ok_iff]
    intro hend
    rcases hend with hend | ⟨failure, -, he⟩
    · cases hend
    · cases he

theorem agrees [LawfulFiles σ] (hs : session.Coherent) (file output : String) (s : σ) :
    session.Agrees file output s := by
  obtain ⟨read, hloaded⟩ := exists_loaded_eq file s
  cases hl : loadedText file read with
  | error failure =>
    rw [hl] at hloaded
    exact agrees_of_error (isLoad_of_loadedText file hl) hloaded
  | ok agent =>
    rw [hl] at hloaded
    cases hu : (session.compiler.validate agent).isUsable session.compiler.strict with
    | false => exact agrees_of_blocked hs hloaded hu
    | true =>
      rcases hw : (Files.write output agent.render : StateM σ (Except FileError Unit)).run s
        with ⟨error | _, s'⟩
      · exact agrees_of_unwritable hs hloaded hu hw
      · exact agrees_of_written hs hloaded hu hw

/-- The end of a command in a session, and what it leaves behind. -/
def ran (session : Session) : Command → σ → Except CommandFailure Outcome × σ
  | .validate file, s => session.validated file s
  | .compile file output, s => session.compiled file output s

/-- Failures that are no definitions lacking something are failures of files, and stay. -/
theorem recover_of_ne (session : Session) (file : String)
    (h : ∀ defect, failure ≠ .load (.definition defect)) :
    session.recover file (.error failure) = .error failure ∧ failure.status = 2 := by
  cases failure with
  | load error =>
    cases error with
    | parse reason => exact ⟨rfl, rfl⟩
    | definition defect => exact absurd rfl (h defect)
  | _ => exact ⟨rfl, rfl⟩

end Session

def Command.file : Command → String
  | .validate file => file
  | .compile file _ => file

/-- The configuration that is asked for, and what reading it leaves behind. -/
def Configuration.chosen (path : Option String) (strict : Bool) (s : σ) :
    Except CommandFailure Configuration × σ :=
  (Configuration.effective path strict : StateM σ (Except CommandFailure Configuration)).run s

/-- The end of a request, and what it leaves behind. -/
def Request.performed (request : Request) (s : σ) : Except CommandFailure Outcome × σ :=
  (request.perform : StateM σ (Except CommandFailure Outcome)).run s

/-- How the program ends if it is asked for a command. -/
structure Command.Exits (command : Command) (configuration : Option String) (strict : Bool)
    (format : ReportFormat) (s : σ) : Prop where
  misconfigured : ∀ failure, (Configuration.chosen configuration strict s).1 = .error failure →
    (Request.run command configuration strict format).performed s = (.error failure, s) ∧
      Request.exitStatus (.error failure) = 2
  /-- An agent that lacks something is reported with one error and fails. -/
  incomplete : ∀ c defect, (Configuration.chosen configuration strict s).1 = .ok c →
    ((Session.ofConfiguration c format).ran command s).1 = .error (.load (.definition defect)) →
    ∃ outcome, (Request.run command configuration strict format).performed s = (.ok outcome, s) ∧
      outcome.Presents (.ofVerdict command.file ⟨[Finding.error (.top "document") defect]⟩ c.strict)
        format ∧ Request.exitStatus (.ok outcome) = 1
  failed : ∀ c failure, (Configuration.chosen configuration strict s).1 = .ok c →
    ((Session.ofConfiguration c format).ran command s).1 = .error failure →
    (∀ defect, failure ≠ .load (.definition defect)) →
    (Request.run command configuration strict format).performed s =
        (Session.ofConfiguration c format).ran command s ∧
      Request.exitStatus (.error failure) = 2
  ended : ∀ c outcome, (Configuration.chosen configuration strict s).1 = .ok c →
    ((Session.ofConfiguration c format).ran command s).1 = .ok outcome →
    (Request.run command configuration strict format).performed s =
        (Session.ofConfiguration c format).ran command s ∧
      Request.exitStatus (.ok outcome) = outcome.status

namespace Command

variable {command : Command} {configuration : Option String} {strict : Bool}
  {format : ReportFormat} {s s' : σ}

/-- Reading a configuration leaves everything as it is, and its failures are failures of files. -/
theorem exists_chosen_eq [LawfulFiles σ] (path : Option String) (strict : Bool) (s : σ) :
    ∃ result, Configuration.chosen path strict s = (result, s) ∧
      ∀ failure, result = .error failure → failure.status = 2 := by
  cases path with
  | none => exact ⟨_, rfl, nofun⟩
  | some path =>
    obtain ⟨read, hread⟩ := LawfulFiles.read_state path s
    cases read with
    | error error =>
      refine ⟨_, run_bind_eq (run_bind_eq hread), fun failure hf => ?_⟩
      cases hf
      rfl
    | ok text =>
      refine ⟨_, run_bind_eq (run_bind_eq hread), fun failure hf => ?_⟩
      cases hload : Configuration.load text with
      | error error =>
        rw [hload] at hf
        cases hf
        rfl
      | ok c =>
        rw [hload] at hf
        cases hf

theorem performed_eq {c : Configuration}
    (h : Configuration.chosen configuration strict s = (.ok c, s)) :
    (Request.run command configuration strict format).performed s =
      ((Session.ofConfiguration c format).recover command.file
        ((Session.ofConfiguration c format).ran command s).1,
        ((Session.ofConfiguration c format).ran command s).2) := by
  refine (run_bind_eq h).trans ?_
  cases command with
  | validate file => rfl
  | compile file output => rfl

theorem ran_state_of_load [LawfulFiles σ] {session : Session} {error : LoadError}
    (hs : session.Coherent) (h : (session.ran command s).1 = .error (.load error)) :
    (session.ran command s).2 = s := by
  cases command with
  | validate file => exact (Session.agrees hs file "" s).checked
  | compile file output =>
    have hload : (CommandFailure.load error).IsLoad file := trivial
    exact (Session.agrees hs file output s).unchanged (.inr ⟨_, hload, h⟩)

theorem exits [LawfulFiles σ] (command : Command) (configuration : Option String) (strict : Bool)
    (format : ReportFormat) (s : σ) : command.Exits configuration strict format s := by
  obtain ⟨chosen, hchosen, hstatus⟩ := exists_chosen_eq configuration strict s
  refine ⟨fun failure hf => ?_, fun c defect hc hr => ?_, fun c failure hc hr hno => ?_,
    fun c outcome hc hr => ?_⟩
  · rw [hchosen] at hf
    obtain rfl : chosen = .error failure := hf
    exact ⟨run_bind_eq hchosen, hstatus failure rfl⟩
  · rw [hchosen] at hc
    obtain rfl : chosen = .ok c := hc
    have hperformed : (Request.run command configuration strict format).performed s =
        (.ok ((Session.ofConfiguration c format).outcome command.file
          ⟨[Finding.error (.top "document") defect]⟩ none false), s) := by
      have hs := Session.coherent_ofConfiguration c format
      rw [performed_eq hchosen, hr, ran_state_of_load hs hr]
      rfl
    exact ⟨_, hperformed, Session.presents_outcome rfl fun _ => rfl, rfl⟩
  · rw [hchosen] at hc
    obtain rfl : chosen = .ok c := hc
    obtain ⟨hrecover, hstatus⟩ :=
      (Session.ofConfiguration c format).recover_of_ne command.file hno
    refine ⟨?_, hstatus⟩
    rw [performed_eq hchosen, hr, hrecover, ← hr]
  · rw [hchosen] at hc
    obtain rfl : chosen = .ok c := hc
    refine ⟨?_, rfl⟩
    have hrecover : (Session.ofConfiguration c format).recover command.file (.ok outcome) =
        .ok outcome := rfl
    rw [performed_eq hchosen, hr, hrecover, ← hr]

end Command

/-- Both commands agree about every file, and only the one that compiles an agent that nothing
stands against writes anything. The program fails with one status for definitions and with another
for files. -/
theorem commands_agree {σ : Type} [Files (StateM σ)] [LawfulFiles σ] (s : σ) :
    (∀ (c : Configuration) (format : ReportFormat) (file output : String),
      (Session.ofConfiguration c format).Agrees file output s) ∧
    ∀ (command : Command) (configuration : Option String) (strict : Bool) (format : ReportFormat),
      command.Exits configuration strict format s :=
  ⟨fun c format file output =>
      Session.agrees (Session.coherent_ofConfiguration c format) file output s,
    fun command configuration strict format => command.exits configuration strict format s⟩

/-- A definition without workflows, and a document of an older one. -/
def workshop : FileStore :=
  ⟨[(["agent.yaml"], .text "name: recorder\nversion: 1.0.0\n"), (["out.yaml"], .text "older")]⟩

theorem isBare_agent : FileStore.IsBare "agent.yaml" :=
  ⟨rfl, rfl, by decide +kernel, by decide, by decide, by decide⟩

theorem isBare_out : FileStore.IsBare "out.yaml" :=
  ⟨rfl, rfl, by decide +kernel, by decide, by decide, by decide⟩

theorem loaded_workshop :
    Agent.loaded "agent.yaml" workshop = (.ok (Rule.described ""), workshop) := by
  have hread : (Files.read "agent.yaml" : StateM FileStore (Except FileError String)).run
      workshop = (.ok "name: recorder\nversion: 1.0.0\n", workshop) := by
    change (workshop.read "agent.yaml", workshop) = _
    rw [isBare_agent.read_eq rfl]
  have hload : (Agent.load "name: recorder\nversion: 1.0.0\n").toOption =
      some (Rule.described "") := by decide +kernel
  refine (run_bind_eq hread).trans ?_
  cases hl : Agent.load "name: recorder\nversion: 1.0.0\n" with
  | error error =>
    rw [hl] at hload
    cases hload
  | ok agent =>
    rw [hl] at hload
    obtain rfl : agent = Rule.described "" := Option.some.inj hload
    dsimp only
    rw [hl]
    rfl

/-- What is reported about the definition in the workshop, up to the last line. -/
def workshopFindings : String :=
  "WARNING EMPTY_COLLECTION workflows: agent 'recorder' has no workflows\n" ++
    "agent.yaml: 0 error(s), 1 warning(s), 0 info\n"

/-- A definition without workflows is written over an older document, unless warnings count. -/
theorem commands_agree_workshop :
    ((Session.ofConfiguration {} .text).compiled "agent.yaml" "out.yaml" workshop).1 =
        .ok ⟨0, workshopFindings ++ "wrote out.yaml\n"⟩ ∧
      ReportFormat.text.Names (workshopFindings ++ "wrote out.yaml\n") "out.yaml" ∧
      readFrom "out.yaml"
          ((Session.ofConfiguration {} .text).compiled "agent.yaml" "out.yaml" workshop).2 =
        .ok (Rule.described "").render ∧
      ((Session.ofConfiguration { strict := true } .text).compiled "agent.yaml" "out.yaml"
        workshop).1 = .ok ⟨1, workshopFindings ++ "blocked\n"⟩ ∧
      ReportFormat.text.SaysBlocked (workshopFindings ++ "blocked\n") ∧
      ((Session.ofConfiguration { strict := true } .text).compiled "agent.yaml" "out.yaml"
        workshop).2 = workshop := by
  obtain ⟨hagrees, -⟩ := commands_agree workshop
  have hlax := hagrees {} .text "agent.yaml" "out.yaml"
  have hstrict := hagrees { strict := true } .text "agent.yaml" "out.yaml"
  have hwritten : ((Session.ofConfiguration {} .text).compiled "agent.yaml" "out.yaml"
      workshop).1 = .ok ⟨0, workshopFindings ++ "wrote out.yaml\n"⟩ := by
    have hwrite : (Files.write "out.yaml" (Rule.described "").render :
        StateM FileStore (Except FileError Unit)).run workshop =
        (.ok (), workshop.put ["out.yaml"] (.text (Rule.described "").render)) :=
      isBare_out.write_eq (by decide)
    have houtcome : (Session.ofConfiguration {} .text).outcome "agent.yaml"
        ((Compiler.ofConfiguration {}).validate (Rule.described "")) (some "out.yaml") true =
          ⟨0, workshopFindings ++ "wrote out.yaml\n"⟩ := by decide +kernel
    rw [Session.compiled_of_usable loaded_workshop (by decide +kernel) hwrite, ← houtcome]
    rfl
  have hblocked : ((Session.ofConfiguration { strict := true } .text).compiled "agent.yaml"
      "out.yaml" workshop).1 = .ok ⟨1, workshopFindings ++ "blocked\n"⟩ := by
    have houtcome : (Session.ofConfiguration { strict := true } .text).outcome "agent.yaml"
        ((Compiler.ofConfiguration { strict := true }).validate (Rule.described "")) none false =
          ⟨1, workshopFindings ++ "blocked\n"⟩ := by decide +kernel
    rw [Session.compiled_of_blocked loaded_workshop (by decide +kernel), ← houtcome]
    rfl
  have hagent : ∀ agent, Agent.loaded "agent.yaml" workshop = (.ok agent, workshop) →
      agent = Rule.described "" := by
    intro agent h
    rw [loaded_workshop] at h
    cases h
    rfl
  rcases hlax.load with ⟨failure, -, -, hfailed⟩ | ⟨agent, hloads⟩
  · rw [hfailed] at hwritten
    cases hwritten
  · obtain rfl := hagent agent hloads.loaded
    obtain ⟨written, -, hdocument, -, hnames⟩ := hloads.compiled _ hwritten
    rcases hstrict.load with ⟨failure, -, -, hfailed⟩ | ⟨agent, hloads⟩
    · rw [hfailed] at hblocked
      cases hblocked
    · obtain rfl := hagent agent hloads.loaded
      obtain ⟨written, hpresents, -, hnone, -⟩ := hloads.compiled _ hblocked
      have hreads := hpresents.saysBlocked
      rw [hnone rfl] at hreads
      exact ⟨hwritten, (hnames (by decide)).2 rfl, (hdocument rfl).2, hblocked,
        (hreads nofun).2 rfl, hstrict.unchanged (.inl ⟨_, hblocked, rfl⟩)⟩

end AgentSpec
