import AgentSpec.Yaml.Gap

/-! Scalars without quotes. -/
namespace AgentSpec.Yaml

/-- A colon in a flow collection that does not belong to the scalar and ends nothing either. -/
def isStrayColon : List Char → Bool
  | ':' :: c :: _ => c == ',' || c == '?' || c == '[' || c == ']' || c == '\x7b' || c == '\x7d'
  | _ => false

def endsPlain (flow : Bool) : List Char → Bool
  | [] => true
  | c :: rest =>
    isBlank c || isBreak c || (c == ':' && atSpace rest) ||
      (flow && (c == ',' || c == '[' || c == ']' || c == '\x7b' || c == '\x7d'))

/-- The number of characters up to white space or an indicator. -/
def plainRun (flow : Bool) : List Char → Option Nat
  | [] => some 0
  | c :: rest =>
    if !(isBlank c || isBreak c) && flow && isStrayColon (c :: rest) then none
    else if endsPlain flow (c :: rest) then some 0
    else (plainRun flow rest).map (· + 1)

/-- Runs and gaps up to the end of the scalar, which lies in front of the last gap. The text is
collected backwards; the answer says whether the last gap has a line break. -/
def plainText (flow : Bool) (indent : Nat) : Nat → List Char → Gap → Cursor →
    Option (List Char × Bool × Cursor)
  | 0, _, _, _ => none
  | fuel + 1, done, gap, c =>
    if c.atMarker || c.startsWith '#' then some (done.reverse, gap.wrapped, c)
    else do
      let count ← plainRun flow c.rest
      if count = 0 then some (done.reverse, gap.wrapped, c)
      else
        let done := (c.rest.take count).reverse ++ gap.join.reverse ++ done
        let c := c.skip count
        if c.rest.head?.any fun b => isBlank b || isBreak b then
          let (gap, c) ← Gap.none.read indent (c.size + 1) c
          if !flow && c.column < indent then some (done.reverse, gap.wrapped, c)
          else plainText flow indent fuel done gap c
        else some (done.reverse, false, c)

/-- The text of a plain scalar that starts here, whether a line break follows it, and the position
after it. -/
def plain? (flow : Bool) (indent : Nat) (c : Cursor) : Option (String × Bool × Cursor) :=
  (plainText flow indent (c.size + 1) [] .none c).map fun (text, wrapped, c) =>
    (String.ofList text, wrapped, c)

end AgentSpec.Yaml
