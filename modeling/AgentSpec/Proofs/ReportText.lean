import AgentSpec.Report
import AgentSpec.Proofs.Json.Compact

/-! What the text of a report tells those who read it about the end of a command. -/
namespace AgentSpec

open Text

namespace ReportFormat

/-- A reader of the text learns that the command is blocked: people from the last line, programs
from a field. -/
def SaysBlocked (text : String) : ReportFormat → Prop
  | .text => (linesOf text).getLast? = some "blocked"
  | .json => (linesOf text)[3]? = some "  \"blocked\": true,"

/-- A reader of the text learns where the document is. -/
def Names (text path : String) : ReportFormat → Prop
  | .text => (linesOf text).getLast? = some ("wrote " ++ path)
  | .json => (linesOf text)[4]? = some ("  \"output\": " ++ Json.quote path ++ ",")

end ReportFormat

namespace Report

variable {report : Report} {status : Nat} {path : String}

/-- The lines about the findings, and the line that counts them. -/
def body (report : Report) : String :=
  String.join (report.findings.map fun f => f.line ++ "\n") ++ report.summary ++ "\n"

/-- The text of a report tells how the command ended: for people in what follows the count of
findings, for programs in two fields. -/
inductive Tells (report : Report) (status : Nat) (text : String) : ReportFormat → Prop
  | text {closing : String} (printed : text = report.body ++ closing)
      (blocked : closing = "blocked\n" ↔ status = 1)
      (wrote : ∀ path, closing = "wrote " ++ path ++ "\n" ↔ report.output = some path) :
      Tells report status text .text
  | json {fields : List (String × Json)} (printed : text = (Json.object fields).pretty 0 ++ "\n")
      (blocked : Json.field? "blocked" fields = some (.bool true) ↔ status = 1)
      (output : Json.field? "output" fields = report.output.map .string) :
      Tells report status text .json

/-- What follows the count of findings. -/
def closing (report : Report) : String :=
  match report.output with
  | some path => "wrote " ++ path ++ "\n"
  | none => if report.blocked then "blocked\n" else ""

theorem render_text (report : Report) : report.render .text = report.body ++ report.closing := by
  have hclosing : String.join (report.outcome.map (· ++ "\n")) = report.closing := by
    simp only [outcome, closing]
    cases report.output with
    | some path => simp
    | none => by_cases h : report.blocked = true <;> simp [h]
  rw [← hclosing, ← String.toList_inj]
  simp [render, lines, body, Function.comp_def]

theorem closing_of_some (h : report.output = some path) :
    report.closing = "wrote " ++ path ++ "\n" := by
  rw [closing, h]

theorem closing_of_blocked (h : report.output = none) (hb : report.blocked = true) :
    report.closing = "blocked\n" := by
  rw [closing, h]
  exact if_pos hb

theorem closing_of_none (h : report.output = none) (hb : ¬ report.blocked = true) :
    report.closing = "" := by
  rw [closing, h]
  exact if_neg hb

theorem wrote_ne_blocked (path : String) : "wrote " ++ path ≠ "blocked" := by
  intro h
  have hchars := congrArg String.toList h
  simp at hchars

theorem closing_eq_blocked_iff (ho : report.blocked = true → report.output = none) :
    report.closing = "blocked\n" ↔ report.blocked = true := by
  refine ⟨fun h => ?_, fun hb => closing_of_blocked (ho hb) hb⟩
  by_contra hb
  cases hout : report.output with
  | some path =>
    rw [closing_of_some hout] at h
    exact wrote_ne_blocked path (String.append_left_inj "\n" |>.1 h)
  | none =>
    rw [closing_of_none hout hb] at h
    exact absurd h (by decide)

theorem closing_eq_wrote_iff :
    report.closing = "wrote " ++ path ++ "\n" ↔ report.output = some path := by
  refine ⟨fun h => ?_, closing_of_some⟩
  cases hout : report.output with
  | some other =>
    rw [closing_of_some hout] at h
    simpa using h
  | none =>
    by_cases hb : report.blocked = true
    · have hline : "blocked" ++ "\n" = "wrote " ++ path ++ "\n" := by
        rw [← h, closing_of_blocked hout hb]
        rfl
      exact absurd ((String.append_left_inj "\n").1 hline).symm (wrote_ne_blocked path)
    · rw [closing_of_none hout hb] at h
      have hchars := congrArg String.toList h
      simp at hchars

theorem tells_render (hb : report.blocked = true ↔ status = 1)
    (ho : report.blocked = true → report.output = none) (format : ReportFormat) :
    report.Tells status (report.render format) format := by
  cases format with
  | text =>
    exact .text report.render_text ((closing_eq_blocked_iff ho).trans hb)
      fun _ => closing_eq_wrote_iff
  | json =>
    refine .json rfl ?_ ?_
    · rw [← hb]
      cases report.output <;> simp [Json.field?]
    · cases report.output <;> simp [Json.field?]

/-- The body ends with the line that counts the findings. -/
theorem getLast?_linesOf_body_ne : (linesOf report.body).getLast? ≠ some "blocked" := by
  intro h
  obtain ⟨before, hbefore⟩ := suffix_of_getLast?_linesOf h
  obtain ⟨front, hfront⟩ : ∃ front, report.summary = front ++ " info" := ⟨_, rfl⟩
  have hlast := congrArg List.getLast? hbefore
  simp [hfront] at hlast

theorem linesOf_text (report : Report) :
    linesOf (report.render .text) = linesOf report.body ++ linesOf report.closing := by
  rw [render_text, body, linesOf_append]

theorem getLast?_linesOf_text {line : String} (hc : report.closing = line ++ "\n")
    (hl : SingleLine line) : (linesOf (report.render .text)).getLast? = some line := by
  rw [linesOf_text, hc, linesOf_line hl, List.getLast?_concat]

/-- People read in the last line whether the command is blocked. -/
theorem saysBlocked_text_iff (hb : report.blocked = true → report.output = none)
    (ho : ∀ path ∈ report.output, SingleLine path) :
    ReportFormat.text.SaysBlocked (report.render .text) ↔ report.blocked = true := by
  unfold ReportFormat.SaysBlocked
  cases hout : report.output with
  | some path =>
    have hline : SingleLine ("wrote " ++ path) := singleLine_append.2 ⟨by decide, ho path hout⟩
    rw [getLast?_linesOf_text (closing_of_some hout) hline, Option.some.injEq]
    refine iff_of_false (wrote_ne_blocked path) fun h => ?_
    rw [hb h] at hout
    cases hout
  | none =>
    by_cases h : report.blocked = true
    · exact iff_of_true (getLast?_linesOf_text (closing_of_blocked hout h) (by decide)) h
    · have hnone : linesOf "" = [] := rfl
      rw [linesOf_text, closing_of_none hout h, hnone, List.append_nil]
      exact iff_of_false getLast?_linesOf_body_ne h

/-- What stands between two fields of an object that stands alone. -/
def fieldBreak : String := "," ++ Json.newline 1

/-- A field of one line that is not the last makes a line of its own. -/
theorem linesOf_fields {first : String} (h : SingleLine first) (second tail : String)
    (rest : List String) :
    linesOf ("  " ++ fieldBreak.intercalate (first :: second :: rest) ++ tail) =
      ("  " ++ first ++ ",") ::
        linesOf ("  " ++ fieldBreak.intercalate (second :: rest) ++ tail) := by
  have hbreak : fieldBreak = "," ++ "\n" ++ "  " := rfl
  have hline : SingleLine ("  " ++ first ++ ",") := by simp +decide [h]
  rw [String.intercalate_cons_cons, ← linesOf_cons hline, hbreak]
  simp only [String.append_assoc]

/-- The fields after those that every report has in front, as they are printed. -/
def lateFields (report : Report) : List String :=
  (report.output.toList.map fun path => "\"output\": " ++ Json.quote path) ++
    ["\"findings\": " ++ (Json.array (report.findings.map Finding.json)).pretty 1]

/-- The fields of a report as they are printed. -/
def printedFields (report : Report) : List String :=
  ("\"file\": " ++ Json.quote report.file) ::
    ("\"valid\": " ++ (Json.bool report.valid).compact) ::
    ("\"blocked\": " ++ (Json.bool report.blocked).compact) :: report.lateFields

theorem render_json (report : Report) : report.render .json =
    "\x7b" ++ "\n" ++ ("  " ++ fieldBreak.intercalate report.printedFields ++ "\n\x7d\n") := by
  have hquote : ∀ s, (Json.string s).compact = Json.quote s := fun s => by rw [Json.compact]
  have hfields : Json.prettyFields 1
      ([("file", .string report.file), ("valid", .bool report.valid),
        ("blocked", .bool report.blocked)] ++
        (report.output.toList.map fun path => ("output", Json.string path)) ++
        [("findings", .array (report.findings.map Finding.json))]) = report.printedFields := by
    cases h : report.output <;>
    · simp only [printedFields, lateFields, h, Option.toList, List.map_cons, List.map_nil,
        List.cons_append, List.nil_append, Json.prettyFields, Json.pretty, hquote]
      rfl
  have hopen : Json.newline (0 + 1) = "\n" ++ "  " := rfl
  have hclose : Json.newline 0 ++ "\x7d" ++ "\n" = "\n\x7d\n" := rfl
  rw [render, json, Json.pretty, hfields, Json.bracket, if_neg (by simp [printedFields]), ← hclose,
    hopen]
  simp only [String.append_assoc]
  rfl

/-- The lines in front of the fields that only some reports have. -/
theorem linesOf_json (report : Report) : ∃ file valid, linesOf (report.render .json) =
    "\x7b" :: file :: valid ::
      ("  " ++ ("\"blocked\": " ++ (Json.bool report.blocked).compact) ++ ",") ::
      linesOf ("  " ++ fieldBreak.intercalate report.lateFields ++ "\n\x7d\n") := by
  obtain ⟨first, rest, hlate⟩ := List.exists_cons_of_ne_nil
    (show report.lateFields ≠ [] by simp [lateFields])
  have hfile : SingleLine ("\"file\": " ++ Json.quote report.file) :=
    singleLine_append.2 ⟨by decide, Json.singleLine_quote _⟩
  have hvalid : SingleLine ("\"valid\": " ++ (Json.bool report.valid).compact) :=
    singleLine_append.2 ⟨by decide, Json.singleLine_compact _⟩
  have hblocked : SingleLine ("\"blocked\": " ++ (Json.bool report.blocked).compact) :=
    singleLine_append.2 ⟨by decide, Json.singleLine_compact _⟩
  rw [render_json, linesOf_cons (by decide), printedFields, hlate, linesOf_fields hfile,
    linesOf_fields hvalid, linesOf_fields hblocked]
  exact ⟨_, _, rfl⟩

theorem saysBlocked_json_iff :
    ReportFormat.json.SaysBlocked (report.render .json) ↔ report.blocked = true := by
  obtain ⟨file, valid, hlines⟩ := report.linesOf_json
  unfold ReportFormat.SaysBlocked
  rw [hlines]
  change some ("  " ++ ("\"blocked\": " ++ (Json.bool report.blocked).compact) ++ ",") =
    some _ ↔ _
  cases report.blocked <;> decide

/-- The path stands behind the fields that every report has, or the findings stand there. -/
theorem names_json_of_some (h : report.output = some path) :
    ReportFormat.json.Names (report.render .json) path := by
  obtain ⟨file, valid, hlines⟩ := report.linesOf_json
  have hpath : SingleLine ("\"output\": " ++ Json.quote path) :=
    singleLine_append.2 ⟨by decide, Json.singleLine_quote _⟩
  have hline : "  " ++ ("\"output\": " ++ Json.quote path) ++ "," =
      "  \"output\": " ++ Json.quote path ++ "," := by
    rw [← String.append_assoc]
    rfl
  unfold ReportFormat.Names
  rw [hlines, lateFields, h, Option.toList_some, List.map_singleton, List.singleton_append,
    linesOf_fields hpath, hline]
  rfl

/-- The list of findings starts on a line of its own. -/
theorem exists_linesOf_findings (findings : List Json) : ∃ start later,
    linesOf ("  " ++ ("\"findings\": " ++ (Json.array findings).pretty 1) ++ "\n\x7d\n") =
      ("  \"findings\": " ++ start) :: later := by
  cases findings with
  | nil => exact ⟨"[]", ["\x7d"], by decide⟩
  | cons first rest =>
    have hopen : ∀ rest : String,
        "  " ++ ("\"findings\": " ++ ("[" ++ (Json.newline (1 + 1) ++ rest))) =
          "  \"findings\": " ++ "[" ++ "\n" ++ ("    " ++ rest) := by
      intro rest
      simp only [← String.append_assoc]
      rfl
    rw [Json.pretty, Json.prettyItems, Json.bracket, if_neg (by simp)]
    simp only [String.append_assoc]
    rw [hopen]
    exact ⟨_, _, linesOf_cons (by decide) _⟩

theorem not_names_json_of_none (h : report.output = none) :
    ¬ ReportFormat.json.Names (report.render .json) path := by
  obtain ⟨file, valid, hlines⟩ := report.linesOf_json
  obtain ⟨start, later, hfindings⟩ := exists_linesOf_findings (report.findings.map Finding.json)
  intro hnames
  unfold ReportFormat.Names at hnames
  rw [hlines, lateFields, h, Option.toList_none, List.map_nil, List.nil_append,
    String.intercalate_singleton, hfindings] at hnames
  have hchars := congrArg String.toList (Option.some.inj hnames)
  simp at hchars

theorem saysBlocked_render_iff (hb : report.blocked = true → report.output = none)
    (ho : ∀ path ∈ report.output, SingleLine path) (format : ReportFormat) :
    format.SaysBlocked (report.render format) ↔ report.blocked = true := by
  cases format with
  | text => exact saysBlocked_text_iff hb ho
  | json => exact saysBlocked_json_iff

theorem names_render_of_some (h : report.output = some path) (hp : SingleLine path)
    (format : ReportFormat) : format.Names (report.render format) path := by
  cases format with
  | text =>
    have hline : SingleLine ("wrote " ++ path) := singleLine_append.2 ⟨by decide, hp⟩
    exact getLast?_linesOf_text (closing_of_some h) hline
  | json => exact names_json_of_some h

/-- The report of a command that is blocked names no document. -/
theorem not_names_render_of_blocked (h : report.output = none) (hb : report.blocked = true)
    (format : ReportFormat) : ¬ format.Names (report.render format) path := by
  cases format with
  | text =>
    intro hnames
    have hlast : (linesOf (report.render .text)).getLast? = some "blocked" :=
      getLast?_linesOf_text (closing_of_blocked h hb) (by decide)
    exact wrote_ne_blocked path (Option.some.inj (hnames.symm.trans hlast))
  | json => exact not_names_json_of_none h

end Report

end AgentSpec
