import AgentSpec.Yaml.Gap

/-! Scalars in quotes. -/
namespace AgentSpec.Yaml

def escapeLetter? : Char → Option Char
  | '0' => some '\x00'
  | 'a' => some '\x07'
  | 'b' => some '\x08'
  | 't' => some '\t'
  | '\t' => some '\t'
  | 'n' => some '\n'
  | 'v' => some '\x0b'
  | 'f' => some '\x0c'
  | 'r' => some '\r'
  | 'e' => some '\x1b'
  | ' ' => some ' '
  | '"' => some '"'
  | '/' => some '/'
  | '\\' => some '\\'
  | 'N' => some '\u0085'
  | '_' => some '\u00A0'
  | 'L' => some '\u2028'
  | 'P' => some '\u2029'
  | _ => none

/-- The number of hexadecimal digits that a letter after a backslash asks for. -/
def escapeWidth? : Char → Option Nat
  | 'x' => some 2
  | 'u' => some 4
  | 'U' => some 8
  | _ => none

/-- The character with a code; surrogates and codes beyond Unicode are refused. -/
def char? (code : Nat) : Option Char :=
  if (0xD800 ≤ code ∧ code ≤ 0xDFFF) ∨ 0x10FFFF < code then none else some (Char.ofNat code)

def hex? : List Char → Option Nat
  | digits => digits.foldlM (fun n c => (hexDigit? c).map (16 * n + ·)) 0

/-- The character of an escape whose backslash stands here, and the position after it. -/
def escape? (c : Cursor) : Option (Char × Cursor) :=
  match c.rest with
  | _ :: letter :: rest =>
    match escapeWidth? letter with
    | some width => do
      let digits := rest.take width
      if digits.length < width then none
      let char ← (hex? digits).bind char?
      pure (char, c.skip (2 + width))
    | none => (escapeLetter? letter).map (·, c.skip 2)
  | _ => none

inductive QuotedEnd where
  | quote
  | gap
  /-- An escaped line break, which joins two lines. -/
  | escapedBreak
deriving DecidableEq

/-- Characters up to the closing quote, to white space or to an escaped line break. The text is
collected backwards. -/
def quotedRun (double : Bool) : Nat → List Char → Cursor → Option (List Char × Cursor × QuotedEnd)
  | 0, _, _ => none
  | fuel + 1, done, c =>
    match c.rest with
    | [] => some (done, c, .gap)
    | char :: rest =>
      if isBlank char || isBreak char then some (done, c, .gap)
      else if double then
        if char == '"' then some (done, c, .quote)
        else if char == '\\' then
          if rest.head?.any isBreak then some (done, (c.skip 1).skipBreak, .escapedBreak)
          else
            match escape? c with
            | some (char, c) => quotedRun double fuel (char :: done) c
            | none => none
        else quotedRun double fuel (char :: done) (c.skip 1)
      else if char == '\'' then
        if rest.head? == some '\'' then quotedRun double fuel ('\'' :: done) (c.skip 2)
        else some (done, c, .quote)
      else quotedRun double fuel (char :: done) (c.skip 1)

def quotedText (double : Bool) : Nat → List Char → Cursor → Option (List Char × Cursor)
  | 0, _, _ => none
  | fuel + 1, done, c =>
    if c.atMarker || c.rest.isEmpty then none
    else do
      let (done, c, ending) ← quotedRun double (c.size + 1) done c
      if ending == .quote || c.startsWith (if double then '"' else '\'') then
        some (done.reverse, c.skip 1)
      else
        let wrapped := ending == QuotedEnd.escapedBreak
        let (gap, c) ← { Gap.none with wrapped }.read 0 (c.size + 1) c
        quotedText double fuel (gap.join.reverse ++ done) c

/-- The text of a scalar whose opening quote stands here, and the position after it. -/
def quoted? (double : Bool) (c : Cursor) : Option (String × Cursor) :=
  (quotedText double (c.size + 1) [] (c.skip 1)).map fun (text, c) => (String.ofList text, c)

end AgentSpec.Yaml
