import AgentSpec.Identifier
import Mathlib.Data.List.Basic

/-! Identifiers by their grammar. -/
namespace AgentSpec

def IsLetter (c : Char) : Prop := ('A' ≤ c ∧ c ≤ 'Z') ∨ ('a' ≤ c ∧ c ≤ 'z')

def IsDigit (c : Char) : Prop := '0' ≤ c ∧ c ≤ '9'

theorem isAlpha_iff {c : Char} : c.isAlpha = true ↔ IsLetter c := by
  have hupper : c.isUpper = true ↔ 'A' ≤ c ∧ c ≤ 'Z' := decide_eq_true_iff
  have hlower : c.isLower = true ↔ 'a' ≤ c ∧ c ≤ 'z' := by
    change (decide ('a' ≤ c) && decide (c ≤ 'z')) = true ↔ _
    rw [Bool.and_eq_true, decide_eq_true_iff, decide_eq_true_iff]
  change (c.isUpper || c.isLower) = true ↔ _
  rw [Bool.or_eq_true, hupper, hlower]
  rfl

theorem isAlphanum_iff {c : Char} : c.isAlphanum = true ↔ IsLetter c ∨ IsDigit c := by
  rw [Char.isAlphanum, Bool.or_eq_true, isAlpha_iff]
  simp [Char.isDigit, IsDigit, Char.le_def]

/-- The text matches `[A-Za-z_][A-Za-z0-9_-]*`. -/
def Identifier (s : String) : Prop :=
  ∃ first rest, s.toList = first :: rest ∧ (IsLetter first ∨ first = '_') ∧
    ∀ c ∈ rest, IsLetter c ∨ IsDigit c ∨ c = '_' ∨ c = '-'

theorem isIdentifierStart_iff {c : Char} :
    isIdentifierStart c = true ↔ IsLetter c ∨ c = '_' := by
  unfold isIdentifierStart
  rw [Bool.or_eq_true, isAlpha_iff, beq_iff_eq]

theorem isIdentifierPart_iff {c : Char} :
    isIdentifierPart c = true ↔ IsLetter c ∨ IsDigit c ∨ c = '_' ∨ c = '-' := by
  rw [isIdentifierPart, Bool.or_eq_true, Bool.or_eq_true, isAlphanum_iff, beq_iff_eq, beq_iff_eq,
    or_assoc, or_assoc]

theorem isIdentifier_iff {s : String} : isIdentifier s = true ↔ Identifier s := by
  unfold isIdentifier
  rw [Identifier]
  cases s.toList with
  | nil => simp
  | cons first rest =>
    simp [isIdentifierStart_iff, isIdentifierPart_iff]

end AgentSpec
