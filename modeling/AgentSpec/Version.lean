import AgentSpec.Text.Cut

/-! Semantic versions: three numbers and an optional prerelease tag. -/
namespace AgentSpec

def versionPattern : String := "MAJOR.MINOR.PATCH[-PRERELEASE]"

/-- A version; the prerelease tag is kept without its leading hyphen. -/
structure Version where
  major : UInt64
  minor : UInt64
  patch : UInt64
  prerelease : Option String
deriving DecidableEq

inductive VersionError where
  /-- There are not exactly three parts before the first hyphen. -/
  | format (text : String)
  /-- A part is no number of sixty-four bits without leading zeros. -/
  | component (part : String)
  /-- The tag is not made of dot-separated runs of letters, digits and hyphens. -/
  | prerelease (tag : String)
deriving DecidableEq

namespace VersionError

def message : VersionError → String
  | format text => "Invalid version format: " ++ text
  | component part => "Invalid version component: " ++ part
  | prerelease tag => "Invalid prerelease tag: " ++ tag

end VersionError

namespace Version

def release (major minor patch : UInt64) : Version := ⟨major, minor, patch, none⟩

def isPrerelease (v : Version) : Bool := v.prerelease.isSome

def render (v : Version) : String :=
  toString v.major.toNat ++ "." ++ toString v.minor.toNat ++ "." ++ toString v.patch.toNat ++
    match v.prerelease with
    | some tag => "-" ++ tag
    | none => ""

def ofDigits (digits : List Char) : Nat :=
  digits.foldl (fun n c => 10 * n + (c.toNat - '0'.toNat)) 0

/-- A part of the version: decimal digits without needless zeros, below `2 ^ 64`. -/
def component (part : List Char) : Except VersionError UInt64 :=
  let wellFormed := !part.isEmpty && part.all Char.isDigit
    && !(part.length > 1 && part.head? == some '0')
  if wellFormed && ofDigits part < UInt64.size then .ok (UInt64.ofNat (ofDigits part))
  else .error (.component (String.ofList part))

/-- Whether a prerelease tag is made of dot-separated runs of letters, digits and hyphens. -/
def isTag (tag : List Char) : Bool :=
  (Text.cutAt '.' tag).all fun run => !run.isEmpty && run.all fun c => c.isAlphanum || c == '-'

/-- The prerelease tag after the first hyphen, if there is a hyphen. -/
def tag : Option (List Char) → Except VersionError (Option String)
  | none => .ok none
  | some text =>
    if isTag text then .ok (some (String.ofList text))
    else .error (.prerelease (String.ofList text))

/-- The version that a text stands for. The parts are checked from left to right. -/
def parse (s : String) : Except VersionError Version :=
  let text := s.toList
  let core := text.takeWhile (· != '-')
  match Text.cutAt '.' core with
  | [major, minor, patch] => do
    let major ← component major
    let minor ← component minor
    let patch ← component patch
    let prerelease ← tag
      (if core.length < text.length then some (text.drop (core.length + 1)) else none)
    pure ⟨major, minor, patch, prerelease⟩
  | _ => .error (.format s)

end Version

end AgentSpec
