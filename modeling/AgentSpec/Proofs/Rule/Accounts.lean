import AgentSpec.Finding
import Mathlib.Data.List.Nodup

/-! Lists of findings that report on everything of a kind, once each. -/
namespace AgentSpec.Rule

theorem pairwise_zipIdx {α : Type} (l : List α) : l.zipIdx.Pairwise fun p q => p.2 < q.2 := by
  have h : (l.zipIdx.map Prod.snd).Pairwise (· < ·) := by
    rw [List.zipIdx_map_snd]
    exact List.pairwise_lt_range'
  exact List.pairwise_map.1 h

/-- The findings are the reports on all that has the property, one on each. -/
def Accounts {α : Type} (P : α → Prop) (report : α → Finding) (found : List Finding) : Prop :=
  ∃ all : List α, all.Nodup ∧ (∀ a, a ∈ all ↔ P a) ∧ found = all.map report

namespace Accounts

variable {α β : Type} {P Q : α → Prop} {report report' : α → Finding} {found more : List Finding}

theorem of_iff (hpq : ∀ a, Q a ↔ P a) (h : Accounts P report found) :
    Accounts Q report found := by
  obtain ⟨all, hn, hm, rfl⟩ := h
  exact ⟨all, hn, fun a => (hm a).trans (hpq a).symm, rfl⟩

theorem of_report (h : Accounts P report found) (hr : ∀ a, report a = report' a) :
    Accounts P report' found := by
  obtain ⟨all, hn, hm, rfl⟩ := h
  exact ⟨all, hn, hm, List.map_congr_left fun a _ => hr a⟩

theorem empty (h : ∀ a, ¬ P a) : Accounts P report [] :=
  ⟨[], .nil, fun a => iff_of_false List.not_mem_nil (h a), rfl⟩

theorem single {f : Finding} (a : α) (h : ∀ b, P b ↔ b = a) (hf : report a = f) :
    Accounts P report [f] :=
  ⟨[a], List.nodup_singleton a, fun b => List.mem_singleton.trans (h b).symm, by simp [hf]⟩

theorem append (h : Accounts P report found) (h' : Accounts Q report more)
    (hd : ∀ a, P a → ¬ Q a) : Accounts (fun a => P a ∨ Q a) report (found ++ more) := by
  obtain ⟨all, hn, hm, rfl⟩ := h
  obtain ⟨rest, hn', hm', rfl⟩ := h'
  refine ⟨all ++ rest, hn.append hn' fun a ha ha' => ?_, fun a => ?_, List.map_append.symm⟩
  · exact hd a ((hm a).1 ha) ((hm' a).1 ha')
  · rw [List.mem_append, hm, hm']

/-- What is reported on may be seen as part of something else. -/
theorem image {g : α → β} {report : β → Finding} (hg : Function.Injective g)
    (h : Accounts P (fun a => report (g a)) found) :
    Accounts (fun b => ∃ a, P a ∧ g a = b) report found := by
  obtain ⟨all, hn, hm, rfl⟩ := h
  refine ⟨all.map g, hn.map hg, fun b => ?_, List.map_map.symm⟩
  simp only [List.mem_map, hm]

theorem flatMap {ι : Type} {items : List ι} {P : ι → α → Prop} {part : ι → List Finding}
    (h : ∀ i ∈ items, Accounts (P i) report (part i))
    (hd : items.Pairwise fun i j => ∀ a, P i a → ¬ P j a) :
    Accounts (fun a => ∃ i ∈ items, P i a) report (items.flatMap part) := by
  induction items with
  | nil => exact empty fun a ha => by simp at ha
  | cons first rest ih =>
    rw [List.forall_mem_cons] at h
    rw [List.pairwise_cons] at hd
    have hrest := h.1.append (ih h.2 hd.2) fun a ha => by
      intro hr
      obtain ⟨i, hi, hr⟩ := hr
      exact hd.1 i hi a ha hr
    exact .of_iff (fun a => by simp) hrest

/-- The items of a list may each have something to report on, known by its index. -/
theorem zipIdx {ι : Type} {items : List ι} {P : ι × Nat → α → Prop}
    {part : ι × Nat → List Finding} (index : α → Nat)
    (h : ∀ p ∈ items.zipIdx, Accounts (P p) report (part p))
    (hi : ∀ p a, P p a → index a = p.2) :
    Accounts (fun a => ∃ p ∈ items.zipIdx, P p a) report (items.zipIdx.flatMap part) := by
  refine flatMap h ((pairwise_zipIdx items).imp fun {p q} hpq a hp hq => ?_)
  have := hi p a hp
  have := hi q a hq
  omega

theorem filterMap {ι : Type} {items : List ι} {P : ι × Nat → α → Prop} {f : ι → Option Finding}
    (index : α → Nat) (h : ∀ p ∈ items.zipIdx, Accounts (P p) report (f p.1).toList)
    (hi : ∀ p a, P p a → index a = p.2) :
    Accounts (fun a => ∃ p ∈ items.zipIdx, P p a) report (items.filterMap f) := by
  have hf : items.filterMap f = items.zipIdx.flatMap fun p => (f p.1).toList := by
    conv_lhs => rw [← List.zipIdx_map_fst 0 items]
    rw [List.filterMap_eq_flatMap_toList, List.flatMap_map]
  rw [hf]
  exact zipIdx index h hi

end Accounts

end AgentSpec.Rule
