/-! Cutting a text at a separator. -/
namespace AgentSpec.Text

/-- A text cut at every occurrence of a character; there is always one piece at least. -/
def cutAt (separator : Char) : List Char → List (List Char)
  | [] => [[]]
  | c :: rest =>
    let pieces := cutAt separator rest
    if c = separator then [] :: pieces
    else
      match pieces with
      | piece :: later => (c :: piece) :: later
      | [] => [[c]]

end AgentSpec.Text
