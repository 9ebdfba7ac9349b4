import Mathlib.Data.List.Basic

/-! Digits as they are read and written: a number has one notation without needless zeros. -/
namespace AgentSpec.Text

theorem digitChar_digit {c : Char} (h : c.isDigit) : Nat.digitChar (c.toNat - '0'.toNat) = c := by
  have hc := Char.isDigit_iff_toNat.1 h
  apply Char.toNat_inj.1
  rw [Nat.toNat_digitChar_of_lt_ten]
  · have h0 : '0'.toNat = 48 := rfl
    omega
  · have h9 : '9'.toNat = 57 := rfl
    have h0 : '0'.toNat = 48 := rfl
    omega

theorem toDigits_ofDigitChars_of_pos {n : Nat} (hn : 0 < n) {digits : List Char}
    (h : ∀ c ∈ digits, c.isDigit) :
    Nat.toDigits 10 (Nat.ofDigitChars 10 digits n) = Nat.toDigits 10 n ++ digits := by
  induction digits generalizing n with
  | nil => simp
  | cons c rest ih =>
    rw [List.forall_mem_cons] at h
    have hc := Char.isDigit_iff_toNat.1 h.1
    have hlt : c.toNat - '0'.toNat < 10 := by
      have h9 : '9'.toNat = 57 := rfl
      have h0 : '0'.toNat = 48 := rfl
      omega
    rw [Nat.ofDigitChars_cons, ih (by omega) h.2,
      ← Nat.toDigits_append_toDigits (by decide) hn hlt, Nat.toDigits_of_lt_base hlt,
      digitChar_digit h.1, List.append_assoc]
    rfl

/-- Digits are the notation of the number that they are read as, unless there are needless zeros. -/
theorem toDigits_ofDigitChars {digits : List Char} (hne : digits ≠ [])
    (h : ∀ c ∈ digits, c.isDigit) (hz : 1 < digits.length → digits.head? ≠ some '0') :
    Nat.toDigits 10 (Nat.ofDigitChars 10 digits 0) = digits := by
  cases digits with
  | nil => exact absurd rfl hne
  | cons c rest =>
    rw [List.forall_mem_cons] at h
    have hc := Char.isDigit_iff_toNat.1 h.1
    have h9 : '9'.toNat = 57 := rfl
    have h0 : '0'.toNat = 48 := rfl
    have hd : Nat.toDigits 10 (c.toNat - '0'.toNat) = [c] := by
      rw [Nat.toDigits_of_lt_base (by omega), digitChar_digit h.1]
    rw [Nat.ofDigitChars_cons, Nat.mul_zero, Nat.zero_add]
    cases rest with
    | nil => simpa using hd
    | cons d rest =>
      have hpos : 0 < c.toNat - '0'.toNat := by
        have hne : c.toNat ≠ '0'.toNat := fun he =>
          hz (by simp) (by rw [List.head?_cons, Char.toNat_inj.1 he])
        omega
      rw [toDigits_ofDigitChars_of_pos hpos h.2, hd]
      rfl

theorem head?_toDigits {n : Nat} (h : 1 < (Nat.toDigits 10 n).length) :
    (Nat.toDigits 10 n).head? ≠ some '0' := by
  induction n using Nat.strongRecOn with
  | ind n ih =>
    rw [Nat.toDigits_eq_if (by decide)] at h ⊢
    split at h
    · simp at h
    · rename_i hn
      rw [if_neg hn, List.head?_append_of_ne_nil _ Nat.toDigits_ne_nil]
      by_cases hlt : n / 10 < 10
      · rw [Nat.toDigits_of_lt_base hlt, List.head?_cons]
        intro he
        have h0 := Nat.digitChar_eq_zero.1 (Option.some.inj he)
        omega
      · refine ih (n / 10) (by omega) ?_
        rw [Nat.toDigits_of_base_le (by decide) (by omega), List.length_append]
        have hpos : 0 < (Nat.toDigits 10 (n / 10 / 10)).length := Nat.length_toDigits_pos
        simp only [List.length_singleton]
        omega

end AgentSpec.Text
