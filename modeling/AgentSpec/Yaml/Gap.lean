import AgentSpec.Yaml.Cursor

/-! The white space between two parts of a scalar, which may run over several lines. -/
namespace AgentSpec.Yaml

/-- Blanks on one line, or line breaks with the first one apart. -/
structure Gap where
  /-- The blanks, backwards. -/
  blanks : List Char
  firstBreak : List Char
  /-- The other breaks, backwards. -/
  laterBreaks : List Char
  /-- Whether the gap has a line break, or follows one that was escaped. -/
  wrapped : Bool

namespace Gap

def none : Gap := ⟨[], [], [], false⟩

/-- What a gap stands for: its blanks as they are, a single line feed as a space, and several line
feeds as one less. Other line breaks are kept. -/
def join (gap : Gap) : List Char :=
  if gap.wrapped then
    if gap.firstBreak == ['\n'] then
      if gap.laterBreaks.isEmpty then [' '] else gap.laterBreaks.reverse
    else gap.firstBreak ++ gap.laterBreaks.reverse
  else gap.blanks.reverse

/-- Reads blanks and line breaks. A tab that stands for indentation left of `indent` is refused. -/
def read (indent : Nat) : Nat → Gap → Cursor → Option (Gap × Cursor)
  | 0, gap, c => some (gap, c)
  | fuel + 1, gap, c =>
    match c.rest with
    | [] => some (gap, c)
    | b :: _ =>
      if isBlank b then
        if gap.wrapped then
          if c.column < indent && b == '\t' then Option.none
          else read indent fuel gap (c.skip 1)
        else read indent fuel { gap with blanks := b :: gap.blanks } (c.skip 1)
      else if isBreak b then
        let (text, c) := c.readBreak
        if gap.wrapped then
          read indent fuel { gap with laterBreaks := text ++ gap.laterBreaks } c
        else
          read indent fuel { gap with blanks := [], firstBreak := text, wrapped := true } c
      else some (gap, c)

end Gap

end AgentSpec.Yaml
