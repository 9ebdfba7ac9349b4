import AgentSpec.Proofs.Rule.Accounts

/-! Lists of findings that report on everything of a kind, once each and in a given order. -/
namespace AgentSpec.Rule

/-- The findings are the reports on all that has the property, one on each and in that order. -/
def Recounts {α : Type} (P : α → Prop) (before : α → α → Prop) (report : α → Finding)
    (found : List Finding) : Prop :=
  ∃ all : List α, all.Pairwise before ∧ (∀ a, a ∈ all ↔ P a) ∧ found = all.map report

namespace Recounts

variable {α β : Type} {P Q : α → Prop} {before : α → α → Prop} {report : α → Finding}
  {found more : List Finding}

theorem of_iff (hpq : ∀ a, Q a ↔ P a) (h : Recounts P before report found) :
    Recounts Q before report found := by
  obtain ⟨all, ho, hm, rfl⟩ := h
  exact ⟨all, ho, fun a => (hm a).trans (hpq a).symm, rfl⟩

theorem empty (h : ∀ a, ¬ P a) : Recounts P before report [] :=
  ⟨[], .nil, fun a => iff_of_false List.not_mem_nil (h a), rfl⟩

theorem append (h : Recounts P before report found) (h' : Recounts Q before report more)
    (ho : ∀ a b, P a → Q b → before a b) :
    Recounts (fun a => P a ∨ Q a) before report (found ++ more) := by
  obtain ⟨all, hall, hm, rfl⟩ := h
  obtain ⟨rest, hrest, hm', rfl⟩ := h'
  have hacross : ∀ a ∈ all, ∀ b ∈ rest, before a b :=
    fun a ha b hb => ho a b ((hm a).1 ha) ((hm' b).1 hb)
  have hmem : ∀ a, a ∈ all ++ rest ↔ P a ∨ Q a := fun a => by rw [List.mem_append, hm, hm']
  exact ⟨all ++ rest, List.pairwise_append.2 ⟨hall, hrest, hacross⟩, hmem, List.map_append.symm⟩

/-- The findings about the items of a list stand in the order of the items. -/
theorem zipIdx {ι : Type} {items : List ι} {P : ι × Nat → α → Prop}
    {part : ι × Nat → List Finding}
    (h : ∀ p ∈ items.zipIdx, Recounts (P p) before report (part p))
    (ho : ∀ p q a b, p.2 < q.2 → P p a → P q b → before a b) :
    Recounts (fun a => ∃ p ∈ items.zipIdx, P p a) before report (items.zipIdx.flatMap part) := by
  have hindex := pairwise_zipIdx items
  generalize items.zipIdx = pairs at h hindex ⊢
  induction pairs with
  | nil => exact empty fun a ha => by simp at ha
  | cons first rest ih =>
    rw [List.forall_mem_cons] at h
    rw [List.pairwise_cons] at hindex
    have hrest := ih h.2 hindex.2
    have hall := h.1.append hrest fun a b ha hb => by
      obtain ⟨p, hp, hb⟩ := hb
      exact ho first p a b (hindex.1 p hp) ha hb
    exact hall.of_iff fun a => by simp

/-- What is reported on may be seen as part of something else. -/
theorem image {g : α → β} {after : β → β → Prop} {report : β → Finding}
    (hg : ∀ a b, before a b → after (g a) (g b))
    (h : Recounts P before (fun a => report (g a)) found) :
    Recounts (fun b => ∃ a, P a ∧ g a = b) after report found := by
  obtain ⟨all, ho, hm, rfl⟩ := h
  have hordered : (all.map g).Pairwise after := List.pairwise_map.2 (ho.imp (hg _ _))
  refine ⟨all.map g, hordered, fun b => ?_, List.map_map.symm⟩
  simp only [List.mem_map, hm]

/-- Of a list in order those elements are reported on that do not pass a test. -/
theorem filterMap_unless {l : List α} {p : α → Bool} (hl : l.Pairwise before) :
    Recounts (fun a => a ∈ l ∧ ¬ p a = true) before report
      (l.filterMap fun a => if p a then none else some (report a)) := by
  have hfound : (l.filterMap fun a => if p a then none else some (report a)) =
      (l.filter fun a => !p a).map report := by
    rw [← List.filterMap_eq_map, List.filterMap_filter]
    refine List.filterMap_congr fun a _ => ?_
    cases p a <;> rfl
  have hmem : ∀ a, (a ∈ l.filter fun a => !p a) ↔ a ∈ l ∧ ¬ p a = true := fun a => by
    rw [List.mem_filter, Bool.not_eq_true, Bool.not_eq_eq_eq_not, Bool.not_true]
  exact ⟨l.filter fun a => !p a, hl.filter _, hmem, hfound⟩

theorem mem_iff (h : Recounts P before report found) {f : Finding} :
    f ∈ found ↔ ∃ a, P a ∧ report a = f := by
  obtain ⟨all, -, hm, rfl⟩ := h
  simp only [List.mem_map, hm]

/-- What is never before itself is reported on once, if its report tells it from all else. -/
theorem nodup (h : Recounts P before report found) (hirrefl : ∀ a, ¬ before a a)
    (hinj : ∀ a b, P a → P b → report a = report b → a = b) : found.Nodup := by
  obtain ⟨all, ho, hm, rfl⟩ := h
  have hne : ∀ {b c}, before b c → b ≠ c := by
    rintro b _ hb rfl
    exact hirrefl b hb
  have hnodup : all.Nodup := ho.imp hne
  exact hnodup.map_on fun a ha b hb => hinj a b ((hm a).1 ha) ((hm b).1 hb)

end Recounts

end AgentSpec.Rule
