import AgentSpec.Json.Printer
import AgentSpec.Proofs.Text.Lines

/-! The compact text of a value stands on one line, whatever texts the value holds. -/
namespace AgentSpec

open Text

theorem NumberLayout.singleLine_renderDecimal {layout : NumberLayout}
    (h : SingleLine layout.positiveMark) (d : Decimal) :
    SingleLine (layout.renderDecimal d) := by
  have hdigits := not_mem_toDigits d.digits
  have htake : ∀ n, '\n' ∉ (Nat.toDigits 10 d.digits).take n := fun n hm =>
    hdigits (List.mem_of_mem_take hm)
  have hdrop : ∀ n, '\n' ∉ (Nat.toDigits 10 d.digits).drop n := fun n hm =>
    hdigits (List.mem_of_mem_drop hm)
  have htail : '\n' ∉ (Nat.toDigits 10 d.digits).tail := fun hm =>
    hdigits (List.mem_of_mem_tail hm)
  have hzeros : ∀ n, SingleLine (zeros n) := fun n => by simp [zeros]
  unfold renderDecimal
  dsimp only
  split
  · split <;> split <;> simp +decide [htake, htail, h]
  · split
    · simp +decide [hdigits, hzeros]
    · split <;> simp +decide [htake, hdrop, hzeros]

namespace Json

theorem Number.singleLine_render (n : Number) : SingleLine n.render := by
  cases n with
  | int n => exact singleLine_repr_int n
  | float x =>
    refine singleLine_append.2 ⟨?_, NumberLayout.singleLine_renderDecimal (by decide) _⟩
    split <;> decide

/-- Control characters are escaped, the line break among them. -/
theorem not_mem_escape (c : Char) : '\n' ∉ escape c := by
  have hdigit : ∀ n < 16, '\n' ≠ hexDigit n := by decide
  unfold escape
  split
  case h_8 =>
    rename_i hbreak _ _
    split
    · have hhigh := hdigit (c.toNat / 16) (by omega)
      have hlow := hdigit (c.toNat % 16) (by omega)
      simp [hhigh, hlow]
    · rw [List.mem_singleton]
      exact fun h => hbreak h.symm
  all_goals decide

theorem singleLine_quote (s : String) : SingleLine (quote s) := by
  simp +decide [quote, not_mem_escape]

mutual

theorem singleLine_compact : ∀ value : Json, SingleLine value.compact
  | .null => by decide
  | .bool true => by decide
  | .bool false => by decide
  | .number n => n.singleLine_render
  | .string s => singleLine_quote s
  | .array items => by
    have hitems : SingleLine (",".intercalate (compactItems items)) :=
      (singleLine_intercalate (by decide)).2 (singleLine_compactItems items)
    unfold compact
    simp +decide [hitems]
  | .object fields => by
    have hfields : SingleLine (",".intercalate (compactFields fields)) :=
      (singleLine_intercalate (by decide)).2 (singleLine_compactFields fields)
    unfold compact
    simp +decide [hfields]

theorem singleLine_compactItems : ∀ items : List Json, ∀ text ∈ compactItems items, SingleLine text
  | [] => nofun
  | item :: rest => List.forall_mem_cons.2 ⟨singleLine_compact item, singleLine_compactItems rest⟩

theorem singleLine_compactFields :
    ∀ fields : List (String × Json), ∀ text ∈ compactFields fields, SingleLine text
  | [] => nofun
  | (key, value) :: rest => by
    have hfirst : SingleLine (quote key ++ ":" ++ compact value) := by
      simp +decide [singleLine_quote key, singleLine_compact value]
    exact List.forall_mem_cons.2 ⟨hfirst, singleLine_compactFields rest⟩

end

end Json

end AgentSpec
