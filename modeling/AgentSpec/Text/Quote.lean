import AgentSpec.Text.Unprintable

/-! Text in quotes, as messages show it. -/
namespace AgentSpec.Text

def hexDigits (code : Nat) : List Char := Nat.toDigits 16 code

/-- A character inside quotes. What could not be seen or told apart is written with a backslash. -/
def escape (c : Char) : List Char :=
  match c with
  | '\x00' => ['\\', '0']
  | '\t' => ['\\', 't']
  | '\n' => ['\\', 'n']
  | '\r' => ['\\', 'r']
  | '"' => ['\\', '"']
  | '\\' => ['\\', '\\']
  | c => if isUnprintable c then '\\' :: 'u' :: '\x7b' :: (hexDigits c.toNat ++ ['\x7d']) else [c]

def quote (s : String) : String := String.ofList ('"' :: (s.toList.flatMap escape ++ ['"']))

end AgentSpec.Text
