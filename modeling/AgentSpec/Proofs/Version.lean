import AgentSpec.Proofs.Except
import AgentSpec.Proofs.Identifier
import AgentSpec.Proofs.Text.Cut
import AgentSpec.Proofs.Text.Digits
import AgentSpec.Version

/-! The texts that are read as versions are those that versions are written as. -/
namespace AgentSpec.Version

theorem ofDigits_eq (digits : List Char) : ofDigits digits = Nat.ofDigitChars 10 digits 0 := by
  rw [Nat.ofDigitChars_eq_foldl, ofDigits]

/-- A part of a version is a number of sixty-four bits in its only decimal form. -/
theorem component_eq_ok_iff {part : List Char} {n : UInt64} :
    component part = .ok n ↔ part = Nat.toDigits 10 n.toNat := by
  constructor
  · intro h
    rw [component] at h
    split at h
    · rename_i hc
      simp only [Bool.and_eq_true, decide_eq_true_eq, Bool.not_eq_true', List.isEmpty_eq_false_iff,
        List.all_eq_true, Bool.and_eq_false_iff, decide_eq_false_iff_not, beq_eq_false_iff_ne] at hc
      obtain ⟨⟨⟨hne, hd⟩, hz⟩, hlt⟩ := hc
      cases h
      rw [UInt64.toNat_ofNat_of_lt' hlt, ofDigits_eq, Text.toDigits_ofDigitChars hne hd]
      exact fun hl => hz.resolve_left fun hn => hn hl
    · cases h
  · rintro rfl
    have hof : ofDigits (Nat.toDigits 10 n.toNat) = n.toNat := by
      rw [ofDigits_eq, Nat.ofDigitChars_ten_toDigits]
    have hd : (Nat.toDigits 10 n.toNat).all Char.isDigit = true := by
      rw [List.all_eq_true]
      exact fun c hc => Nat.isDigit_of_mem_toDigits (by decide) (by decide) hc
    have hz : (decide (1 < (Nat.toDigits 10 n.toNat).length) &&
        (Nat.toDigits 10 n.toNat).head? == some '0') = false := by
      rw [Bool.and_eq_false_iff, decide_eq_false_iff_not, beq_eq_false_iff_ne]
      exact Decidable.not_or_of_imp Text.head?_toDigits
    have hne : (Nat.toDigits 10 n.toNat).isEmpty = false := by
      rw [List.isEmpty_eq_false_iff]
      exact Nat.toDigits_ne_nil
    have hlt := n.toNat_lt
    simp [component, hne, hd, hz, hof, hlt]

/-- Dot-separated runs of letters, digits and hyphens, none of them empty. -/
def IsPrerelease (tag : String) : Prop :=
  ∃ runs : List (List Char), runs ≠ [] ∧ tag.toList = ['.'].intercalate runs ∧
    ∀ run ∈ runs, run ≠ [] ∧ ∀ c ∈ run, IsLetter c ∨ IsDigit c ∨ c = '-'

/-- The version has no tag or a proper one. -/
def Proper (v : Version) : Prop := ∀ tag ∈ v.prerelease, IsPrerelease tag

private theorem isRun_iff {run : List Char} :
    (!run.isEmpty && run.all fun c => c.isAlphanum || c == '-') = true ↔
      run ≠ [] ∧ ∀ c ∈ run, IsLetter c ∨ IsDigit c ∨ c = '-' := by
  simp [isAlphanum_iff, or_assoc]

theorem isTag_iff {tag : String} : isTag tag.toList = true ↔ IsPrerelease tag := by
  unfold isTag
  rw [List.all_eq_true]
  simp only [isRun_iff]
  constructor
  · intro h
    exact ⟨_, Text.cutAt_ne_nil '.' _, (Text.intercalate_cutAt '.' _).symm, h⟩
  · intro h
    obtain ⟨runs, hne, he, h⟩ := h
    have hdot : ∀ run ∈ runs, '.' ∉ run := by
      intro run hr hm
      have hc := (h run hr).2 '.' hm
      revert hc
      simp only [IsLetter, IsDigit]
      decide
    rwa [he, Text.cutAt_intercalate hdot hne]

/-- What follows the three numbers. -/
def suffix : Option String → List Char
  | some tag => '-' :: tag.toList
  | none => []

theorem toList_render (v : Version) :
    v.render.toList = ['.'].intercalate [Nat.toDigits 10 v.major.toNat,
      Nat.toDigits 10 v.minor.toNat, Nat.toDigits 10 v.patch.toNat] ++ suffix v.prerelease := by
  obtain ⟨major, minor, patch, prerelease⟩ := v
  have hdot : ".".toList = ['.'] := rfl
  have hdash : "-".toList = ['-'] := rfl
  cases prerelease <;>
    simp [render, suffix, hdot, hdash]

theorem not_mem_toDigits {c : Char} (hc : ¬ c.isDigit) (n : Nat) : c ∉ Nat.toDigits 10 n :=
  fun h => hc (Nat.isDigit_of_mem_toDigits (by decide) (by decide) h)

theorem tag_eq_ok_iff {text : Option (List Char)} {prerelease : Option String} :
    tag text = .ok prerelease ↔
      text = prerelease.map String.toList ∧ ∀ t ∈ prerelease, IsPrerelease t := by
  cases text with
  | none =>
    unfold tag
    rw [Except.ok.injEq, eq_comm (b := prerelease)]
    cases prerelease <;> simp
  | some text =>
    obtain ⟨t, rfl⟩ : ∃ t : String, text = t.toList :=
      ⟨String.ofList text, String.toList_ofList.symm⟩
    rw [tag, String.ofList_toList]
    by_cases ht : IsPrerelease t
    · rw [if_pos (isTag_iff.2 ht), Except.ok.injEq]
      constructor
      · rintro rfl
        simpa using ht
      · intro h
        obtain ⟨he, -⟩ := h
        obtain ⟨u, rfl, hu⟩ := Option.map_eq_some_iff.1 he.symm
        rw [String.toList_inj.1 hu]
    · rw [if_neg fun h => ht (isTag_iff.1 h)]
      constructor
      · rintro ⟨⟩
      · intro h
        obtain ⟨he, hp⟩ := h
        obtain ⟨u, rfl, hu⟩ := Option.map_eq_some_iff.1 he.symm
        rw [← String.toList_inj.1 hu] at ht
        exact absurd (hp u rfl) ht

/-- The part of a text that holds the numbers. -/
def beforeHyphen (text : List Char) : List Char := text.takeWhile (· != '-')

theorem afterHyphen_eq_iff {text : List Char} {prerelease : Option String} :
    (if (beforeHyphen text).length < text.length then
        some (text.drop ((beforeHyphen text).length + 1)) else none) =
        prerelease.map String.toList ↔ text = beforeHyphen text ++ suffix prerelease := by
  generalize hcore : beforeHyphen text = core
  unfold beforeHyphen at hcore
  have hsplit : text = core ++ text.dropWhile (· != '-') := by
    rw [← hcore, List.takeWhile_append_dropWhile]
  cases hd : text.dropWhile (· != '-') with
  | nil =>
    have hl : text.length = core.length := by
      rw [hd, List.append_nil] at hsplit
      rw [← hsplit]
    rw [if_neg (by omega), eq_comm, Option.map_eq_none_iff]
    constructor
    · rintro rfl
      unfold suffix
      rw [← hd]
      exact hsplit
    · intro he
      cases prerelease with
      | none => rfl
      | some t =>
        have hlen := congrArg List.length he
        simp only [suffix, List.length_append, List.length_cons] at hlen
        omega
  | cons c rest =>
    have hc : c = '-' := by
      have hne : text.dropWhile (· != '-') ≠ [] := by simp [hd]
      have hnot := List.head_dropWhile_not (· != '-') hne
      simpa [hd] using hnot
    rw [hd, hc] at hsplit
    have hdrop : text.drop (core.length + 1) = rest := by
      rw [hsplit, List.drop_append, List.drop_eq_nil_of_le (by omega)]
      simp
    rw [if_pos (by rw [hsplit]; simp), hdrop]
    constructor
    · intro he
      obtain ⟨t, rfl, ht⟩ := Option.map_eq_some_iff.1 he.symm
      rw [suffix, ht]
      exact hsplit
    · intro he
      have hrest : suffix prerelease = '-' :: rest :=
        List.append_cancel_left (he.symm.trans hsplit)
      cases prerelease with
      | none => cases hrest
      | some t =>
        unfold suffix at hrest
        rw [List.cons.injEq] at hrest
        rw [Option.map_some, hrest.2]

theorem parse_eq_ok_iff_cut {s : String} {v : Version} :
    parse s = .ok v ↔ Text.cutAt '.' (beforeHyphen s.toList) = [Nat.toDigits 10 v.major.toNat,
      Nat.toDigits 10 v.minor.toNat, Nat.toDigits 10 v.patch.toNat] ∧
      s.toList = beforeHyphen s.toList ++ suffix v.prerelease ∧ v.Proper := by
  obtain ⟨major, minor, patch, prerelease⟩ := v
  rw [parse, ← beforeHyphen]
  split
  · rename_i a b c hcut
    simp only [bind_eq_ok_iff, component_eq_ok_iff, tag_eq_ok_iff, afterHyphen_eq_iff]
    rw [hcut]
    constructor
    · intro h
      obtain ⟨x, rfl, y, rfl, z, rfl, p, ⟨hs, hp⟩, hv⟩ := h
      cases hv
      exact ⟨rfl, hs, hp⟩
    · intro h
      obtain ⟨hd, hs, hp⟩ := h
      obtain ⟨ha, hb, hc⟩ : a = _ ∧ b = _ ∧ c = _ := by simpa using hd
      exact ⟨major, ha, minor, hb, patch, hc, prerelease, ⟨hs, hp⟩, rfl⟩
  · rename_i hno
    constructor
    · rintro ⟨⟩
    · intro h
      obtain ⟨hd, -⟩ := h
      exact (hno _ _ _ hd).elim

theorem beforeHyphen_append_suffix {digits : List Char} (h : '-' ∉ digits)
    (prerelease : Option String) : beforeHyphen (digits ++ suffix prerelease) = digits := by
  have hs : (suffix prerelease).takeWhile (· != '-') = [] := by
    cases prerelease <;> simp [suffix]
  unfold beforeHyphen
  rw [List.takeWhile_append_of_pos, hs, List.append_nil]
  intro c hc
  simpa using fun he : c = '-' => h (he ▸ hc)

/-- The texts that are read as versions are those that proper versions are written as. -/
theorem parse_eq_ok_iff {s : String} {v : Version} :
    parse s = .ok v ↔ s = v.render ∧ v.Proper := by
  rw [parse_eq_ok_iff_cut, ← String.toList_inj, toList_render]
  constructor
  · intro h
    obtain ⟨hd, hs, hp⟩ := h
    rw [← hd, Text.intercalate_cutAt]
    exact ⟨hs, hp⟩
  · intro h
    obtain ⟨hs, hp⟩ := h
    have hdash := not_mem_toDigits (c := '-') (by decide)
    have hdot := not_mem_toDigits (c := '.') (by decide)
    rw [hs, beforeHyphen_append_suffix (by simp [hdash]), Text.cutAt_intercalate (by simp [hdot])
      (by simp)]
    exact ⟨rfl, rfl, hp⟩

end AgentSpec.Version
