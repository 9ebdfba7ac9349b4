import AgentSpec.Yaml.Cursor

/-! Scalars in blocks of indented lines. -/
namespace AgentSpec.Yaml

/-- What becomes of the line breaks at the end of a block. -/
inductive Chomping where
  | strip
  | clip
  | keep
deriving DecidableEq

/-- The mark for the line breaks at the end. -/
def chomping? : List Char → Option Chomping
  | '+' :: _ => some .keep
  | '-' :: _ => some .strip
  | _ => none

/-- The marks behind the sign that opens a block: its chomping and its indentation, if they are
given. An indentation of zero is refused. -/
def blockHeader (c : Cursor) : Option (Chomping × Option Nat × Cursor) :=
  let digit? (c : Cursor) : Option (Option Nat × Cursor) :=
    match c.rest with
    | d :: _ =>
      if d == '0' then none
      else if d.isDigit then some (some (d.toNat - '0'.toNat), c.skip 1)
      else some (none, c)
    | [] => some (none, c)
  match chomping? c.rest with
  | some chomping => do
    let (indent, c) ← digit? (c.skip 1)
    pure (chomping, indent, c)
  | none => do
    let (indent, c) ← digit? c
    match indent, chomping? c.rest with
    | some _, some chomping => pure (chomping, indent, c.skip 1)
    | _, _ => pure (.clip, indent, c)

/-- The breaks of blank lines up to a line that is not blank, with the greatest column that they
reach; `breaks` are those before, backwards. Without an indentation, all leading spaces count as
such. Tabs for indentation are refused. -/
def blankLines (indent : Option Nat) : Nat → List Char → Nat → Cursor →
    Option (List Char × Nat × Cursor)
  | 0, _, _, _ => none
  | fuel + 1, breaks, reached, c =>
    let leading := (c.rest.takeWhile (· == ' ')).length
    let c := c.skip (match indent with
      | some indent => min leading (indent - c.column)
      | none => leading)
    let reached := max reached c.column
    let within := match indent with
      | some indent => c.column < indent
      | none => true
    if within && c.startsWith '\t' then none
    else if c.rest.head?.any isBreak then
      let (text, c) := c.readBreak
      blankLines indent fuel (text ++ breaks) reached c
    else some (breaks.reverse, reached, c)

/-- A block as far as it has been read. -/
structure BlockText where
  /-- The text, backwards. -/
  done : List Char
  /-- The break behind the last line. -/
  lineBreak : List Char
  /-- The breaks of the blank lines after it. -/
  blankBreaks : List Char
  /-- Whether the last line started with a blank. -/
  indented : Bool

/-- What comes between the last line and the next: a folded line break, or all breaks. -/
def BlockText.joint (text : BlockText) (folded blank : Bool) : List Char :=
  if folded && text.lineBreak == ['\n'] && !text.indented && !blank then
    (if text.blankBreaks.isEmpty then [' '] else []) ++ text.blankBreaks
  else text.lineBreak ++ text.blankBreaks

/-- The lines of a block at an indentation. -/
def blockLines (folded : Bool) (indent : Nat) : Nat → BlockText → Cursor →
    Option (BlockText × Cursor)
  | 0, _, _ => none
  | fuel + 1, text, c =>
    if c.column == indent && !c.rest.isEmpty then do
      let blank := c.rest.head?.any isBlank
      let (line, after) := c.takeWhile (!isBreak ·)
      let done := line.reverse ++ (text.joint folded blank).reverse ++ text.done
      let (lineBreak, after) := after.readBreak
      let (blankBreaks, _, after) ← blankLines (some indent) (after.size + 1) [] 0 after
      blockLines folded indent fuel ⟨done, lineBreak, blankBreaks, blank⟩ after
    else some (text, c)

/-- The text of a block whose opening sign stands here, below a level of that indentation (`-1`
outside all levels), and the position after it. -/
def block? (folded : Bool) (level : Int) (c : Cursor) : Option (String × Cursor) := do
  let (chomping, given, c) ← blockHeader (c.skip 1)
  let c ← c.endOfLine?
  let indent := given.map fun n => (max level 0).toNat + n
  let (breaks, reached, c) ← blankLines indent (c.size + 1) [] 0 c
  let indent := indent.getD (max reached (max (level + 1).toNat 1))
  let (text, c) ← blockLines folded indent (c.size + 1) ⟨[], [], breaks, false⟩ c
  let ending := match chomping with
    | .strip => []
    | .clip => text.lineBreak
    | .keep => text.lineBreak ++ text.blankBreaks
  pure (String.ofList (text.done.reverse ++ ending), c)

end AgentSpec.Yaml
