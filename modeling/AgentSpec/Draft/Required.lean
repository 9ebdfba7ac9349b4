import AgentSpec.Defect

/-! Fields that a draft cannot be finished without, and changes that depend on what there is. -/
namespace AgentSpec.Draft

variable {α β ε δ : Type}

/-- The value of a required field, or the report that it is missing. -/
def require (value : Option String) (field builder : String) : Except Defect String :=
  match value with
  | some text => .ok text
  | none => .error (.missingField field builder)

/-- A draft with a change for the value, if there is one. -/
def set (edit : δ → ε → δ) (change : α → ε) (value : Option α) (draft : δ) : δ :=
  match value with
  | some value => edit draft (change value)
  | none => draft

/-- A draft with a change for each part, as soon as the part is defined. -/
def addEach (edit : δ → ε → δ) (change : β → ε) (define : α → Except Defect β) (parts : List α)
    (draft : δ) : Except Defect δ :=
  parts.foldlM (fun draft part => return edit draft (change (← define part))) draft

end AgentSpec.Draft
