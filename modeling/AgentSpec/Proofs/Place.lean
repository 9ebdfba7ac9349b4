import AgentSpec.Place
import AgentSpec.Proofs.Text.Cut

/-! Rendered places tell places apart, as long as no field has a dot or a bracket in its name. -/
namespace AgentSpec

/-- A step whose text does not look like more than one step. -/
def Step.Plain : Step → Prop
  | .field name => ∀ c ∈ name.toList, c ≠ '.' ∧ c ≠ '['
  | .item _ => True

namespace Place

variable {p q rest : Place} {name : String}

def Plain (p : Place) : Prop := ∀ step ∈ p, step.Plain

theorem toList_renderRest_field (name : String) (rest : Place) :
    (render.renderRest (.field name :: rest)).toList =
      '.' :: (name.toList ++ (render.renderRest rest).toList) := by
  simp [render.renderRest]

theorem toList_renderRest_item (i : Nat) (rest : Place) :
    (render.renderRest (.item i :: rest)).toList =
      '[' :: (Nat.toDigits 10 i ++ ']' :: (render.renderRest rest).toList) := by
  simp [render.renderRest]

/-- Behind a step the text ends or goes on with a dot or a bracket. -/
theorem head?_renderRest (rest : Place) :
    ∀ c ∈ (render.renderRest rest).toList.head?, ¬ (c != '.' && c != '[') = true := by
  intro c hc
  match rest with
  | [] => simp [render.renderRest] at hc
  | .field name :: rest =>
    rw [toList_renderRest_field] at hc
    obtain rfl : '.' = c := Option.some.inj hc
    decide
  | .item i :: rest =>
    rw [toList_renderRest_item] at hc
    obtain rfl : '[' = c := Option.some.inj hc
    decide

/-- The name of a field reaches as far as the next dot or bracket. -/
theorem field_inj {other : String} {rest' : Place} (hn : (Step.field name).Plain)
    (ho : (Step.field other).Plain)
    (h : name.toList ++ (render.renderRest rest).toList =
      other.toList ++ (render.renderRest rest').toList) :
    name = other ∧ (render.renderRest rest).toList = (render.renderRest rest').toList := by
  have hstop : ∀ {s : String}, (Step.field s).Plain →
      ∀ c ∈ s.toList, (c != '.' && c != '[') = true := fun hs c hc => by simpa using hs c hc
  obtain ⟨he, hr⟩ := Text.append_inj_of_stop (hstop hn) (hstop ho) (head?_renderRest rest)
    (head?_renderRest rest') h
  exact ⟨String.toList_inj.1 he, hr⟩

/-- An index reaches as far as the closing bracket. -/
theorem item_inj {i j : Nat} {rest' : List Char} {rest : List Char}
    (h : Nat.toDigits 10 i ++ ']' :: rest = Nat.toDigits 10 j ++ ']' :: rest') :
    i = j ∧ rest = rest' := by
  have hdigit : ∀ (n : Nat), ∀ c ∈ Nat.toDigits 10 n, c.isDigit = true :=
    fun n c hc => Nat.isDigit_of_mem_toDigits (by decide) (by decide) hc
  have hclose : ∀ rest : List Char, ∀ c ∈ (']' :: rest).head?, ¬ c.isDigit = true := by
    intro rest c hc
    obtain rfl : ']' = c := Option.some.inj hc
    decide
  obtain ⟨he, hr⟩ := Text.append_inj_of_stop (hdigit i) (hdigit j) (hclose rest) (hclose rest') h
  have hvalue := congrArg (fun digits => Nat.ofDigitChars 10 digits 0) he
  simp only [Nat.ofDigitChars_ten_toDigits] at hvalue
  exact ⟨hvalue, (List.cons.inj hr).2⟩

theorem renderRest_inj (hp : p.Plain) (hq : q.Plain)
    (h : (render.renderRest p).toList = (render.renderRest q).toList) : p = q := by
  induction p generalizing q with
  | nil =>
    match q with
    | [] => rfl
    | .field name :: rest => simp [render.renderRest] at h
    | .item i :: rest => simp [render.renderRest] at h
  | cons step rest ih =>
    obtain ⟨hstep, hrest⟩ := List.forall_mem_cons.1 hp
    match step, q with
    | .field name, [] => simp [render.renderRest] at h
    | .item i, [] => simp [render.renderRest] at h
    | .field name, .item i :: rest' =>
      simp [toList_renderRest_field, toList_renderRest_item] at h
    | .item i, .field name :: rest' =>
      simp [toList_renderRest_field, toList_renderRest_item] at h
    | .field name, .field other :: rest' =>
      obtain ⟨hother, hrest'⟩ := List.forall_mem_cons.1 hq
      rw [toList_renderRest_field, toList_renderRest_field] at h
      obtain ⟨rfl, hr⟩ := field_inj hstep hother (List.cons.inj h).2
      rw [ih hrest hrest' hr]
    | .item i, .item j :: rest' =>
      obtain ⟨-, hrest'⟩ := List.forall_mem_cons.1 hq
      rw [toList_renderRest_item, toList_renderRest_item] at h
      obtain ⟨rfl, hr⟩ := item_inj (List.cons.inj h).2
      rw [ih hrest hrest' hr]

/-- Places that begin with a field are told apart by their texts. -/
theorem render_inj {other : String} {rest' : Place} (hp : Plain (.field name :: rest))
    (hq : Plain (.field other :: rest'))
    (h : render (.field name :: rest) = render (.field other :: rest')) :
    Step.field name :: rest = .field other :: rest' := by
  obtain ⟨hname, hrest⟩ := List.forall_mem_cons.1 hp
  obtain ⟨hother, hrest'⟩ := List.forall_mem_cons.1 hq
  have hl := congrArg String.toList h
  simp only [render, String.toList_append] at hl
  obtain ⟨rfl, hr⟩ := field_inj hname hother hl
  rw [renderRest_inj hrest hrest' hr]

/-- The place begins with a field of the whole document, and its text can be read back. -/
structure Rooted (p : Place) : Prop where
  plain : p.Plain
  field : ∃ name rest, p = .field name :: rest

theorem Rooted.eq_of_render_eq (hp : p.Rooted) (hq : q.Rooted) (h : p.render = q.render) :
    p = q := by
  obtain ⟨name, rest, rfl⟩ := hp.field
  obtain ⟨other, rest', rfl⟩ := hq.field
  exact render_inj hp.plain hq.plain h

end Place

end AgentSpec
