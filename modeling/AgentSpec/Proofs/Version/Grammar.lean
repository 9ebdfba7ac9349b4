import AgentSpec.Proofs.Version

/-! The grammar of versions, with numbers of any size. Of the texts that it allows those are read
whose numbers have sixty-four bits, and reading and writing are inverse to each other. -/
namespace AgentSpec.Version

theorem isDigit_iff {c : Char} : c.isDigit = true ↔ IsDigit c := by
  simp [Char.isDigit, IsDigit, Char.le_def]

theorem toDigits_eq_zero {k : Nat} (h : (Nat.toDigits 10 k).head? = some '0') :
    Nat.toDigits 10 k = ['0'] := by
  have hl : ¬ 1 < (Nat.toDigits 10 k).length := fun hl => Text.head?_toDigits hl h
  obtain ⟨rest, hd⟩ := List.head?_eq_some_iff.1 h
  rw [hd, List.length_cons] at hl
  rw [hd, List.eq_nil_of_length_eq_zero (by omega : rest.length = 0)]

/-- A number as versions write it: decimal digits without a zero in front of others. -/
structure Numeral where
  digits : List Char
  ne_nil : digits ≠ []
  isDigit : ∀ c ∈ digits, IsDigit c
  leading : digits.head? = some '0' → digits = ['0']

namespace Numeral

def value (n : Numeral) : Nat := Nat.ofDigitChars 10 n.digits 0

theorem not_mem {c : Char} (hc : ¬ IsDigit c) (n : Numeral) : c ∉ n.digits :=
  fun h => hc (n.isDigit c h)

/-- Every number has no more than one numeral. -/
theorem toDigits_value (n : Numeral) : Nat.toDigits 10 n.value = n.digits := by
  have hdigits : ∀ c ∈ n.digits, c.isDigit = true := fun c hc => isDigit_iff.2 (n.isDigit c hc)
  refine Text.toDigits_ofDigitChars n.ne_nil hdigits fun hl hz => ?_
  rw [n.leading hz] at hl
  exact Nat.lt_irrefl _ hl

def ofNat (k : Nat) : Numeral where
  digits := Nat.toDigits 10 k
  ne_nil := Nat.toDigits_ne_nil
  isDigit _ hc := isDigit_iff.1 (Nat.isDigit_of_mem_toDigits (by decide) (by decide) hc)
  leading := toDigits_eq_zero

theorem value_ofNat (k : Nat) : (ofNat k).value = k := Nat.ofDigitChars_ten_toDigits

theorem component_of_lt {n : Numeral} (h : n.value < UInt64.size) :
    component n.digits = .ok (UInt64.ofNat n.value) := by
  rw [component_eq_ok_iff, UInt64.toNat_ofNat_of_lt' h, toDigits_value]

/-- From `2 ^ 64` on numbers are refused and not wrapped. -/
theorem component_of_le {n : Numeral} (h : UInt64.size ≤ n.value) :
    component n.digits = .error (.component (String.ofList n.digits)) := by
  have hlt : ¬ ofDigits n.digits < UInt64.size := by
    rw [ofDigits_eq]
    exact Nat.not_lt.2 h
  simp [component, hlt]

end Numeral

/-- What the grammar `MAJOR.MINOR.PATCH[-PRERELEASE]` allows. -/
structure Spelling where
  major : Numeral
  minor : Numeral
  patch : Numeral
  prerelease : Option String
  proper : ∀ tag ∈ prerelease, IsPrerelease tag

namespace Spelling

def numbers (s : Spelling) : List Numeral := [s.major, s.minor, s.patch]

def text (s : Spelling) : String :=
  String.ofList (s.major.digits ++ '.' :: s.minor.digits ++ '.' :: s.patch.digits ++
    suffix s.prerelease)

theorem toList_text (s : Spelling) : s.text.toList =
    ['.'].intercalate [s.major.digits, s.minor.digits, s.patch.digits] ++ suffix s.prerelease := by
  simp [text, List.intercalate]

/-- The parts of the text are read from left to right. -/
theorem parse_text (s : Spelling) : parse s.text = (do
    let major ← component s.major.digits
    let minor ← component s.minor.digits
    let patch ← component s.patch.digits
    pure ⟨major, minor, patch, s.prerelease⟩) := by
  have hdash (n : Numeral) : '-' ∉ n.digits := n.not_mem (by unfold IsDigit; decide)
  have hdot (n : Numeral) : '.' ∉ n.digits := n.not_mem (by unfold IsDigit; decide)
  have hcore : beforeHyphen s.text.toList =
      ['.'].intercalate [s.major.digits, s.minor.digits, s.patch.digits] := by
    rw [toList_text, beforeHyphen_append_suffix (by simp [hdash])]
  have hcut : Text.cutAt '.' (beforeHyphen s.text.toList) =
      [s.major.digits, s.minor.digits, s.patch.digits] := by
    rw [hcore, Text.cutAt_intercalate (by simp [hdot]) (by simp)]
  have hrest := (@afterHyphen_eq_iff _ s.prerelease).2 (hcore ▸ s.toList_text)
  have htag : tag (s.prerelease.map String.toList) = .ok s.prerelease :=
    tag_eq_ok_iff.2 ⟨rfl, s.proper⟩
  rw [parse, ← beforeHyphen, hcut, hrest, htag]
  rfl

end Spelling

/-- A version that is written has the numerals of its numbers. -/
def spelling (v : Version) (h : v.Proper) : Spelling :=
  ⟨.ofNat v.major.toNat, .ofNat v.minor.toNat, .ofNat v.patch.toNat, v.prerelease, h⟩

theorem text_spelling (v : Version) (h : v.Proper) : (v.spelling h).text = v.render := by
  rw [← String.toList_inj, Spelling.toList_text, toList_render]
  rfl

theorem Spelling.exists_parse_text {s : Spelling} (h : ∀ n ∈ s.numbers, n.value < UInt64.size) :
    ∃ v, parse s.text = .ok v := by
  simp only [numbers, List.forall_mem_cons] at h
  obtain ⟨hmajor, hminor, hpatch, -⟩ := h
  rw [parse_text, Numeral.component_of_lt hmajor, Numeral.component_of_lt hminor,
    Numeral.component_of_lt hpatch]
  exact ⟨_, rfl⟩

/-- The texts that are read are those of the grammar whose numbers have sixty-four bits. -/
theorem exists_parse_iff {s : String} : (∃ v, parse s = .ok v) ↔
    ∃ spelling : Spelling, spelling.text = s ∧ ∀ n ∈ spelling.numbers, n.value < UInt64.size := by
  constructor
  · intro h
    obtain ⟨v, hv⟩ := h
    obtain ⟨rfl, hp⟩ := parse_eq_ok_iff.1 hv
    refine ⟨v.spelling hp, text_spelling v hp, ?_⟩
    simp only [spelling, Spelling.numbers, List.forall_mem_cons, Numeral.value_ofNat]
    exact ⟨v.major.toNat_lt, v.minor.toNat_lt, v.patch.toNat_lt, nofun⟩
  · intro h
    obtain ⟨spelling, rfl, hn⟩ := h
    exact Spelling.exists_parse_text hn

/-- Reading a number and those behind it fails at the first that is too large, if reading those
behind it does. -/
theorem Numeral.refuse_first {α : Type} {n large : Numeral} {rest : List Numeral}
    {read : UInt64 → Except VersionError α} {problem : VersionError}
    (hp : component large.digits = .error problem)
    (h : (n :: rest).find? (UInt64.size ≤ ·.value) = some large)
    (hrest : rest.find? (UInt64.size ≤ ·.value) = some large → ∀ k, read k = .error problem) :
    component n.digits >>= read = .error problem := by
  by_cases hn : UInt64.size ≤ n.value
  · simp only [List.find?_cons, hn, decide_true, Option.some.injEq] at h
    rw [h, hp]
    rfl
  · simp only [List.find?_cons, hn, decide_false] at h
    rw [component_of_lt (Nat.lt_of_not_le hn)]
    exact hrest h _

/-- The first number that is too large is refused. -/
theorem Spelling.parse_text_of_find? {s : Spelling} {n : Numeral}
    (h : s.numbers.find? (UInt64.size ≤ ·.value) = some n) :
    parse s.text = .error (.component (String.ofList n.digits)) := by
  have hlarge : UInt64.size ≤ n.value := by simpa only [decide_eq_true_eq] using List.find?_some h
  have hp := Numeral.component_of_le hlarge
  rw [parse_text]
  exact Numeral.refuse_first hp h fun h _ => Numeral.refuse_first hp h fun h _ =>
    Numeral.refuse_first hp h nofun

/-- Reading a version and writing it are inverse to each other: a text that is read is written for
the version again, and every version with a proper tag is read from its text. What is read is what
the grammar allows, with numbers of sixty-four bits; larger ones are refused. -/
theorem parse_render_inverse :
    (∀ s v, parse s = .ok v ↔ v.render = s ∧ ∀ tag ∈ v.prerelease, IsPrerelease tag) ∧
    (∀ s, (∃ v, parse s = .ok v) ↔ ∃ spelling : Spelling, spelling.text = s ∧
      ∀ n ∈ spelling.numbers, n.value < UInt64.size) ∧
    (∀ s t v, parse s = .ok v → parse t = .ok v → s = t) ∧
    ∀ (spelling : Spelling) (n : Numeral),
      spelling.numbers.find? (UInt64.size ≤ ·.value) = some n →
        parse spelling.text = .error (.component (String.ofList n.digits)) := by
  refine ⟨fun s v => ?_, fun s => exists_parse_iff, fun s t v hs ht => ?_,
    fun spelling n h => spelling.parse_text_of_find? h⟩
  · rw [parse_eq_ok_iff, eq_comm, Proper]
  · rw [(parse_eq_ok_iff.1 hs).1, (parse_eq_ok_iff.1 ht).1]

/-- A number of sixty-five bits. -/
def Numeral.large : Numeral where
  digits := "18446744073709551616".toList
  ne_nil := by decide
  isDigit c hc := isDigit_iff.1 (List.all_eq_true.1 (by decide) c hc)
  leading := by decide

theorem parse_render_inverse_limit :
    parse "0.18446744073709551615.10-rc.01.--" =
      .ok ⟨0, 18446744073709551615, 10, some "rc.01.--"⟩ ∧
    parse "1.18446744073709551616.0-beta" = .error (.component "18446744073709551616") := by
  obtain ⟨hexact, -, -, hlarge⟩ := parse_render_inverse
  constructor
  · refine (hexact _ _).2 ⟨by decide +kernel, fun tag ht => ?_⟩
    cases ht
    exact isTag_iff.1 (by decide +kernel)
  · exact hlarge ⟨.ofNat 1, .large, .ofNat 0, some "beta", fun tag ht => by
      cases ht
      exact isTag_iff.1 (by decide +kernel)⟩ .large rfl

end AgentSpec.Version
