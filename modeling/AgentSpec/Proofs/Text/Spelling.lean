import AgentSpec.Proofs.Text.Words
import Mathlib.Logic.Relation

/-! Texts that have the same words although they differ in the case of ASCII letters or in what
stands between the words. -/
namespace AgentSpec.Text

variable {text left right gap : List Char} {runs : List (List Char)}

theorem toLower_of_le {c : Char} (h : 0x80 ≤ c.toNat) : c.toLower = c := by
  unfold Char.toLower
  refine dif_neg fun hc => ?_
  have hz : c.toNat ≤ 'Z'.toNat := UInt32.le_iff_toNat_le.1 hc.2
  have hlt : 'Z'.toNat < 0x80 := by decide
  omega

/-- What holds of a character and itself, and of all ASCII characters and their small forms, holds
of every character and its small form. -/
theorem forall_toLower {p : Char → Char → Prop} (hrefl : ∀ c, p c c)
    (hascii : ∀ n < 0x80, p (Char.ofNat n) (Char.ofNat n).toLower) (c : Char) :
    p c c.toLower := by
  by_cases h : c.toNat < 0x80
  · have hc := hascii c.toNat h
    rwa [Char.ofNat_toNat] at hc
  · rw [toLower_of_le (by omega)]
    exact hrefl c

theorem isAlphanumeric_toLower (c : Char) : isAlphanumeric c.toLower = isAlphanumeric c :=
  forall_toLower (p := fun c d => isAlphanumeric d = isAlphanumeric c) (fun _ => rfl)
    (by decide +kernel) c

theorem isCased_toLower (c : Char) : isCased c.toLower = isCased c :=
  forall_toLower (p := fun c d => isCased d = isCased c) (fun _ => rfl) (by decide +kernel) c

/-- The marks that are passed over lie beyond ASCII. -/
theorem isMark_of_lt {code : Nat} (h : code < 0x80) : inRanges caselessMarkRanges code = false := by
  have hlow : ∀ r ∈ caselessMarkRanges, 0x80 ≤ r.1 := by decide +kernel
  unfold inRanges
  rw [List.any_eq_false]
  intro r hr
  have hle := hlow r hr
  simp only [Bool.and_eq_true, decide_eq_true_eq, not_and]
  omega

theorem isMark_toLower (c : Char) :
    inRanges caselessMarkRanges c.toLower.toNat = inRanges caselessMarkRanges c.toNat := by
  by_cases h : c.toNat < 0x80
  · have hlt : c.toNat < 0x80 → c.toLower.toNat < 0x80 :=
      forall_toLower (p := fun c d => c.toNat < 0x80 → d.toNat < 0x80) (fun _ => id)
        (by decide +kernel) c
    rw [isMark_of_lt h, isMark_of_lt (hlt h)]
  · rw [toLower_of_le (by omega)]

theorem lowerLetter_toLower (c : Char) : lowerLetter c.toLower = lowerLetter c :=
  forall_toLower (p := fun c d => lowerLetter d = lowerLetter c) (fun _ => rfl)
    (by decide +kernel) c

theorem toLower_eq_sigma_iff (c : Char) : c.toLower = '\u03A3' ↔ c = '\u03A3' :=
  forall_toLower (p := fun c d => d = '\u03A3' ↔ c = '\u03A3') (fun _ => Iff.rfl)
    (by decide +kernel) c

theorem meetsCased_map_toLower (chars : List Char) :
    meetsCased (chars.map Char.toLower) = meetsCased chars := by
  induction chars with
  | nil => rfl
  | cons c rest ih =>
    unfold meetsCased at ih ⊢
    rw [List.map_cons, List.dropWhile_cons, List.dropWhile_cons, isMark_toLower]
    by_cases hm : inRanges caselessMarkRanges c.toNat = true
    · rw [if_pos hm, if_pos hm]
      exact ih
    · rw [if_neg hm, if_neg hm]
      exact isCased_toLower c

/-- Capital and small ASCII letters are the same to the letters around them. -/
theorem lowerFrom_map_toLower (before word : List Char) :
    lowerFrom (before.map Char.toLower) (word.map Char.toLower) = lowerFrom before word := by
  induction word generalizing before with
  | nil => rfl
  | cons c rest ih =>
    have hrest := ih (c :: before)
    rw [List.map_cons] at hrest
    simp only [List.map_cons, lowerFrom, toLower_eq_sigma_iff, lowerLetter_toLower,
      meetsCased_map_toLower, hrest]

theorem lower_map_toLower (word : List Char) : lower (word.map Char.toLower) = lower word :=
  lowerFrom_map_toLower [] word

theorem StartsApart.map_toLower (h : StartsApart text) : StartsApart (text.map Char.toLower) := by
  cases text with
  | nil => nofun
  | cons c rest =>
    have hc : ¬ isAlphanumeric c = true := h c rfl
    rw [← isAlphanumeric_toLower] at hc
    exact startsApart_cons hc

theorem Runs.map_toLower (h : Runs text runs) :
    Runs (text.map Char.toLower) (runs.map (List.map Char.toLower)) := by
  induction h with
  | nil => exact .nil
  | skip hc _ ih => exact .skip (by rwa [isAlphanumeric_toLower]) ih
  | run hne hw hr _ ih =>
    rw [List.map_append]
    refine .run (by simpa using hne) ?_ hr.map_toLower ih
    intro d hd
    obtain ⟨c, hc, rfl⟩ := List.mem_map.1 hd
    rw [isAlphanumeric_toLower]
    exact hw c hc

theorem toList_toLower (s : String) : s.toLower.toList = s.toList.map Char.toLower :=
  String.toList_map

/-- The case of ASCII letters makes no difference to the tokens. -/
theorem tokens_toLower (s : String) : tokens s.toLower = tokens s := by
  obtain ⟨runs, h⟩ := exists_runs s.toList
  have hcomp : lower ∘ List.map Char.toLower = lower := funext lower_map_toLower
  rw [tokens, tokens, toList_toLower, h.map_toLower.words_eq, h.words_eq, List.map_map, hcomp]

theorem Runs.gap_append (hgap : ∀ c ∈ gap, ¬ isAlphanumeric c = true) (h : Runs right runs) :
    Runs (gap ++ right) runs := by
  induction gap with
  | nil => exact h
  | cons c gap ih =>
    rw [List.forall_mem_cons] at hgap
    exact .skip hgap.1 (ih hgap.2)

theorem words_gap (hne : gap ≠ []) (hgap : ∀ c ∈ gap, ¬ isAlphanumeric c = true) :
    words (left ++ gap ++ right) = words left ++ words right := by
  obtain ⟨before, hbefore⟩ := exists_runs left
  obtain ⟨after, hafter⟩ := exists_runs right
  have hstart : StartsApart (gap ++ right) := by
    cases gap with
    | nil => exact absurd rfl hne
    | cons c gap => exact startsApart_cons (hgap c (by simp))
  have hall := hbefore.append (hafter.gap_append hgap) (.inr hstart)
  rw [List.append_assoc, hall.words_eq, hbefore.words_eq, hafter.words_eq]

/-- The texts differ in the case of ASCII letters, or in the separators at one place where both
have some. -/
inductive Respelled : String → String → Prop
  | case {s t : String} (h : s.toLower = t.toLower) : Respelled s t
  | separators {left right gap gap' : List Char} (hne : gap ≠ []) (hne' : gap' ≠ [])
      (hgap : ∀ c ∈ gap, ¬ isAlphanumeric c = true)
      (hgap' : ∀ c ∈ gap', ¬ isAlphanumeric c = true) :
      Respelled (.ofList (left ++ gap ++ right)) (.ofList (left ++ gap' ++ right))

theorem Respelled.tokens_eq {s t : String} (h : Respelled s t) : tokens s = tokens t := by
  cases h with
  | case h => rw [← tokens_toLower, h, tokens_toLower]
  | separators hne hne' hgap hgap' =>
    rw [tokens, tokens, String.toList_ofList, String.toList_ofList, words_gap hne hgap,
      words_gap hne' hgap']

theorem tokens_eq_of_respelled {s t : String} (h : Relation.ReflTransGen Respelled s t) :
    tokens s = tokens t := by
  induction h with
  | refl => rfl
  | tail _ h ih => exact ih.trans h.tokens_eq

/-- Whether a text contains a term does not depend on how they are spelled. -/
theorem contains_congr {text text' term term' : String}
    (ht : Relation.ReflTransGen Respelled text text')
    (hm : Relation.ReflTransGen Respelled term term') :
    Contains text term ↔ Contains text' term' := by
  rw [contains_iff, contains_iff, tokens_eq_of_respelled ht, tokens_eq_of_respelled hm]

end AgentSpec.Text
