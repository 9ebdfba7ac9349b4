import AgentSpec.Json.Pointer
import AgentSpec.Proofs.Text.Cut
import AgentSpec.Proofs.Text.Digits

/-! Following a JSON pointer, step by step. -/
namespace AgentSpec.Json

/-- A name as it is written in a pointer: slashes and tildes are escaped. A tilde that is followed
by neither digit of an escape stands for itself. -/
inductive Spells : List Char → List Char → Prop
  | nil : Spells [] []
  | slash {written name : List Char} (h : Spells written name) :
      Spells ('~' :: '1' :: written) ('/' :: name)
  | tilde {written name : List Char} (h : Spells written name) :
      Spells ('~' :: '0' :: written) ('~' :: name)
  | plain {c : Char} {written name : List Char}
      (hc : c = '~' → written.head? ≠ some '0' ∧ written.head? ≠ some '1')
      (h : Spells written name) : Spells (c :: written) (c :: name)

/-- A name leads from an object to the field of that name, and from an array to the item whose index
it is in decimal notation. -/
inductive StepsTo : Json → List Char → Json → Prop
  | field {fields : List (String × Json)} {name : List Char} {part : Json}
      (h : field? (String.ofList name) fields = some part) : StepsTo (.object fields) name part
  | item {items : List Json} {i : Nat} {part : Json} (hi : i < UInt64.size)
      (h : items[i]? = some part) : StepsTo (.array items) (Nat.toDigits 10 i) part

/-- A pointer leads from a value to a part of it. Each step is written behind a slash. -/
inductive Follows : Json → List Char → Json → Prop
  | here {value : Json} : Follows value [] value
  | step {value next part : Json} {written name rest : List Char} (hw : '/' ∉ written)
      (hn : Spells written name) (hs : StepsTo value name next) (h : Follows next rest part) :
      Follows value ('/' :: written ++ rest) part

variable {value part : Json} {written name step : List Char} {i : Nat}

theorem spells_unescapeStep (written : List Char) : Spells written (unescapeStep written) := by
  fun_induction unescapeStep written with
  | case1 rest ih => exact .slash ih
  | case2 rest ih => exact .tilde ih
  | case3 c rest h1 h0 ih =>
    refine .plain (fun hc => ⟨fun hr => ?_, fun hr => ?_⟩) ih
    · obtain ⟨later, rfl⟩ := List.head?_eq_some_iff.1 hr
      exact h0 later hc rfl
    · obtain ⟨later, rfl⟩ := List.head?_eq_some_iff.1 hr
      exact h1 later hc rfl
  | case4 => exact .nil

/-- What is written spells one name only. -/
theorem spells_iff : Spells written name ↔ name = unescapeStep written := by
  constructor
  · intro h
    induction h with
    | nil => rfl
    | slash h ih => rw [ih, unescapeStep]
    | tilde h ih => rw [ih, unescapeStep]
    | plain hc h ih =>
      rw [ih, unescapeStep]
      · rintro rest rfl rfl
        exact (hc rfl).2 rfl
      · rintro rest rfl rfl
        exact (hc rfl).1 rfl
  · rintro rfl
    exact spells_unescapeStep written

/-- An index is accepted in its only decimal form. -/
theorem indexStep?_eq_some_iff :
    indexStep? step = some i ↔ step = Nat.toDigits 10 i ∧ i < UInt64.size := by
  have hfold : step.foldl (fun n c => 10 * n + (c.toNat - '0'.toNat)) 0 =
      Nat.ofDigitChars 10 step 0 := Nat.ofDigitChars_eq_foldl.symm
  unfold indexStep?
  rw [hfold]
  constructor
  · intro h
    split at h
    · cases h
    · rename_i hdigits
      split at h
      · cases h
      · rename_i hzero
        obtain ⟨hlt, hi⟩ := Option.ite_none_right_eq_some.1 h
        simp only [Bool.or_eq_true, not_or, List.isEmpty_iff, Bool.not_eq_true', ← Bool.not_eq_true,
          not_not, List.all_eq_true] at hdigits
        have hd := Text.toDigits_ofDigitChars hdigits.1 hdigits.2 fun hl hz => by
          refine hzero ?_
          simp [hz]
          omega
        cases hi
        exact ⟨hd.symm, hlt⟩
  · intro h
    obtain ⟨rfl, hlt⟩ := h
    have hne : (Nat.toDigits 10 i).isEmpty = false := by
      rw [List.isEmpty_eq_false_iff]
      exact Nat.toDigits_ne_nil
    have hd : (Nat.toDigits 10 i).all Char.isDigit = true := by
      rw [List.all_eq_true]
      exact fun c hc => Nat.isDigit_of_mem_toDigits (by decide) (by decide) hc
    have hpos : 0 < (Nat.toDigits 10 i).length := Nat.length_toDigits_pos
    have hz : (Nat.toDigits 10 i).length ≠ 1 → (Nat.toDigits 10 i).head? ≠ some '0' :=
      fun hl => Text.head?_toDigits (by omega)
    rw [if_neg (by simp [hne, hd]), if_neg (by simpa using hz), Nat.ofDigitChars_ten_toDigits,
      if_pos hlt]

theorem step?_eq_some_iff : value.step? step = some part ↔ value.StepsTo step part := by
  constructor
  · intro h
    cases value with
    | object fields => exact .field h
    | array items =>
      obtain ⟨i, hi, hitem⟩ := Option.bind_eq_some_iff.1 h
      obtain ⟨rfl, hlt⟩ := indexStep?_eq_some_iff.1 hi
      exact .item hlt hitem
    | _ => cases h
  · intro h
    cases h with
    | field h => exact h
    | item hlt h => exact Option.bind_eq_some_iff.2 ⟨_, indexStep?_eq_some_iff.2 ⟨rfl, hlt⟩, h⟩

/-- The steps of a pointer one after the other. -/
def walk (value : Json) : List (List Char) → Option Json
  | [] => some value
  | step :: rest => (value.step? (unescapeStep step)).bind fun next => next.walk rest

theorem foldl_step? (found : Option Json) (steps : List (List Char)) :
    (steps.map unescapeStep).foldl (fun found step => found.bind fun v => v.step? step) found =
      found.bind fun value => value.walk steps := by
  induction steps generalizing found with
  | nil => cases found <;> rfl
  | cons step rest ih =>
    rw [List.map_cons, List.foldl_cons, ih]
    cases found <;> rfl

/-- A pointer goes on with another slash, if at all. -/
theorem Follows.head?_eq {pointer : List Char} (h : Follows value pointer part) :
    ∀ c ∈ pointer.head?, c = '/' := by
  cases h with
  | here => nofun
  | step => simp

/-- The steps behind the slashes of a pointer are followed in turn. -/
theorem walk_eq_some_iff {steps : List (List Char)} (h : ∀ step ∈ steps, '/' ∉ step) :
    value.walk steps = some part ↔ value.Follows (steps.flatMap ('/' :: ·)) part := by
  induction steps generalizing value with
  | nil =>
    constructor
    · rintro ⟨⟩
      exact .here
    · intro hf
      cases hf
      rfl
  | cons step rest ih =>
    rw [List.forall_mem_cons] at h
    rw [walk, List.flatMap_cons, Option.bind_eq_some_iff]
    constructor
    · intro hw
      obtain ⟨next, hstep, hrest⟩ := hw
      exact .step h.1 (spells_unescapeStep step) (step?_eq_some_iff.1 hstep) ((ih h.2).1 hrest)
    · intro hf
      generalize hp : '/' :: step ++ rest.flatMap ('/' :: ·) = pointer at hf
      cases hf with
      | here => cases hp
      | @step _ _ _ _ _ later hw hn hs hrest =>
        -- both texts end their first step at the next slash, so the steps are the same
        have hbody : ∀ {text : List Char}, '/' ∉ text → ∀ c ∈ text, (c != '/') = true :=
          fun hno c hc => bne_iff_ne.2 fun he => hno (he ▸ hc)
        have hhead : ∀ c ∈ (rest.flatMap ('/' :: ·)).head?, ¬ (c != '/') = true := by
          cases rest <;> simp
        have hstop : ∀ c ∈ later.head?, ¬ (c != '/') = true := fun c hc => by
          simp [hrest.head?_eq c hc]
        obtain ⟨rfl, rfl⟩ := Text.append_inj_of_stop (hbody h.1) (hbody hw) hhead hstop
          (List.cons.inj hp).2
        obtain rfl := spells_iff.1 hn
        exact ⟨_, step?_eq_some_iff.2 hs, (ih h.2).2 hrest⟩

theorem flatMap_slash {steps : List (List Char)} (h : steps ≠ []) :
    steps.flatMap ('/' :: ·) = '/' :: ['/'].intercalate steps := by
  induction steps with
  | nil => exact absurd rfl h
  | cons first rest ih =>
    cases rest with
    | nil => simp
    | cons second later =>
      rw [List.flatMap_cons, ih (by simp), List.intercalate_cons_cons]
      simp

/-- What a pointer leads to is what is found by following it step by step. -/
theorem pointer?_eq_some_iff {pointer : List Char} :
    value.pointer? pointer = some part ↔ value.Follows pointer part := by
  cases pointer with
  | nil =>
    have hnone : ∀ step ∈ ([] : List (List Char)), '/' ∉ step := nofun
    exact walk_eq_some_iff hnone
  | cons c route =>
    by_cases hc : c = '/'
    · subst hc
      have hroute : '/' :: route = (Text.cutAt '/' route).flatMap ('/' :: ·) := by
        rw [flatMap_slash (Text.cutAt_ne_nil '/' route), Text.intercalate_cutAt]
      have hwalk : value.pointer? ('/' :: route) = value.walk (Text.cutAt '/' route) :=
        foldl_step? (some value) _
      rw [hwalk, hroute]
      exact walk_eq_some_iff fun step hs => Text.not_mem_of_mem_cutAt hs
    · refine iff_of_false (fun h => ?_) fun h => hc (h.head?_eq c rfl)
      rw [pointer?.eq_3 value (c :: route) nofun fun rest he => hc (List.cons.inj he).1] at h
      cases h

theorem pointer?_eq_none_iff {pointer : List Char} :
    value.pointer? pointer = none ↔ ∀ part, ¬ value.Follows pointer part := by
  simp only [← pointer?_eq_some_iff, Option.eq_none_iff_forall_ne_some, ne_eq]

end AgentSpec.Json
