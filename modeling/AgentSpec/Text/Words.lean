import AgentSpec.Text.LowerCase

/-! The words of a text: its maximal alphanumeric runs. -/
namespace AgentSpec.Text

/-- The word that a text starts with, which may be empty, and the words after it. -/
def splitWords : List Char → List Char × List (List Char)
  | [] => ([], [])
  | c :: rest =>
    let (word, later) := splitWords rest
    if isAlphanumeric c then (c :: word, later)
    else ([], if word.isEmpty then later else word :: later)

/-- The maximal alphanumeric runs of a text in order. -/
def words (text : List Char) : List (List Char) :=
  let (word, later) := splitWords text
  if word.isEmpty then later else word :: later

/-- The words of a text in lower case. -/
def tokens (text : String) : List (List Char) := (words text.toList).map lower

/-- Whether `pattern` stands somewhere in `sequence` without gaps. -/
def hasWindow {α : Type} [BEq α] (pattern : List α) : List α → Bool
  | [] => pattern.isEmpty
  | a :: rest => pattern.isPrefixOf (a :: rest) || hasWindow pattern rest

end AgentSpec.Text
