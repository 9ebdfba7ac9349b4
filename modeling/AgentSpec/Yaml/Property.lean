import AgentSpec.Yaml.Quoted
import AgentSpec.Yaml.Tag

/-! The properties of nodes, which are tags and anchors, and the directives of documents. -/
namespace AgentSpec.Yaml

/-- Whether a character may stand in a tag; brackets and commas only in one given in full. -/
def isTagChar (full : Bool) (c : Char) : Bool :=
  isWordChar c || ";/?:@&=+$.%!~*'()".toList.contains c || (full && ",[]".toList.contains c)

/-- The octet of two hexadecimal digits after a percent sign. -/
def octet? : List Char → Option (Nat × List Char)
  | '%' :: a :: b :: rest => (hex? [a, b]).map (·, rest)
  | _ => none

/-- The number of octets that a character has by its first octet. -/
def octetCount? (octet : Nat) : Option Nat :=
  if octet < 0x80 then some 1
  else if 0xC0 ≤ octet && octet < 0xE0 then some 2
  else if 0xE0 ≤ octet && octet < 0xF0 then some 3
  else if 0xF0 ≤ octet && octet < 0xF8 then some 4
  else none

def laterOctets : Nat → List Char → Option (List UInt8 × List Char)
  | 0, text => some ([], text)
  | count + 1, text => do
    let (octet, rest) ← octet? text
    if octet < 0x80 ∨ 0xC0 ≤ octet then none
    else
      let (later, rest) ← laterOctets count rest
      pure (.ofNat octet :: later, rest)

/-- The escaped octets of one character. They count as one by their leading bits alone. -/
def escapedOctets? (text : List Char) : Option (List UInt8 × List Char) := do
  let (octet, rest) ← octet? text
  let count ← octetCount? octet
  let (later, rest) ← laterOctets (count - 1) rest
  pure (.ofNat octet :: later, rest)

/-- The octets of a tag from here on, collected backwards. -/
def tagOctets (full : Bool) : Nat → List UInt8 → Cursor → Option (List UInt8 × Cursor)
  | 0, _, _ => none
  | fuel + 1, done, c =>
    match c.rest with
    | [] => some (done.reverse, c)
    | char :: _ =>
      if !isTagChar full char then some (done.reverse, c)
      else if char == '%' then do
        let (octets, _) ← escapedOctets? c.rest
        tagOctets full fuel (octets.reverse ++ done) (c.skip (3 * octets.length))
      else tagOctets full fuel (.ofNat char.toNat :: done) (c.skip 1)

/-- The octets of a tag from here on, of which there must be one. -/
def someTagOctets? (full : Bool) (c : Cursor) : Option (List UInt8 × Cursor) := do
  let (octets, c) ← tagOctets full (c.size + 1) [] c
  if octets.isEmpty then none else some (octets, c)

/-- An exclamation mark with word characters, and a second mark if there is one. -/
def handle? (c : Cursor) : Option (List Char × Cursor) :=
  if c.startsWith '!' then
    let (word, after) := (c.skip 1).takeWhile isWordChar
    if after.startsWith '!' then some ('!' :: word ++ ['!'], after.skip 1)
    else some ('!' :: word, after)
  else none

/-- A tag as a handle and a suffix. A mark with nothing behind it is a suffix. -/
def tag? (c : Cursor) : Option (String × List UInt8 × Cursor) :=
  match c.rest with
  | '!' :: '<' :: _ => do
    let (suffix, c) ← someTagOctets? true (c.skip 2)
    if c.startsWith '>' then pure ("", Tag.cut suffix, c.skip 1) else none
  | _ => do
    let (handle, after) ← handle? c
    if handle.length > 1 && handle.getLast? == some '!' then
      let (suffix, after) ← someTagOctets? false after
      pure (String.ofList handle, Tag.cut suffix, after)
    else
      let (more, after) ← tagOctets false (after.size + 1) [] after
      let suffix := Tag.cut (Tag.octetsOf (String.ofList (handle.drop 1)) ++ more)
      if suffix.isEmpty then pure ("", Tag.octetsOf "!", after) else pure ("!", suffix, after)

/-- A tag that is properly followed by white space, or by a comma in a flow collection. -/
def wholeTag? (flow : Bool) (c : Cursor) : Option (String × List UInt8 × Cursor) := do
  let (handle, suffix, c) ← tag? c
  if atSpace c.rest || (flow && c.startsWith ',') then some (handle, suffix, c) else none

def anchorName? (c : Cursor) : Option (String × Cursor) :=
  let (name, c) := (c.skip 1).takeWhile isWordChar
  let proper := atSpace c.rest || c.rest.head?.any ("?:,]\x7d%@`".toList.contains ·)
  if !name.isEmpty && proper then some (String.ofList name, c) else none

/-- A number of one to nine digits in a version. -/
def versionNumber? (c : Cursor) : Option (Nat × Cursor) :=
  let (digits, c) := c.takeWhile Char.isDigit
  if digits.isEmpty || 9 < digits.length then none
  else some (digits.foldl (fun n d => 10 * n + (d.toNat - '0'.toNat)) 0, c)

def versionValue? (c : Cursor) : Option (Nat × Nat × Cursor) := do
  let (major, c) ← versionNumber? (c.skipWhile isBlank)
  if c.startsWith '.' then
    let (minor, c) ← versionNumber? (c.skip 1)
    pure (major, minor, c)
  else none

/-- The handle of a tag directive and what it stands for. -/
def tagDirectiveValue? (c : Cursor) : Option (String × List UInt8 × Cursor) := do
  let (handle, c) ← handle? (c.skipWhile isBlank)
  if handle != ['!'] && handle.getLast? != some '!' then none
  else if !c.rest.head?.any isBlank then none
  else
    let (lead, c) ← someTagOctets? true (c.skipWhile isBlank)
    if atSpace c.rest then some (String.ofList handle, Tag.cut lead, c) else none

end AgentSpec.Yaml
