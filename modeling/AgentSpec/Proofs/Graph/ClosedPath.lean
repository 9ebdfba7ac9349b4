import Mathlib.Data.List.Chain
import Mathlib.Data.List.Infix
import Mathlib.Data.List.Nodup
import Mathlib.Data.Set.Card
import Mathlib.Order.WellFounded

/-! Closed paths along a relation, and relations that have none. -/
namespace AgentSpec

variable {α β : Type} {edge : α → α → Prop} {path : List α}

/-- Nothing leads back to itself. -/
def Acyclic (edge : α → α → Prop) : Prop := ∀ a, ¬ Relation.TransGen edge a a

/-- A path along edges that ends where it starts and meets no other element twice. -/
structure ClosedPath (edge : α → α → Prop) (path : List α) : Prop where
  two_le_length : 2 ≤ path.length
  head_eq_last : path.head? = path.getLast?
  nodup : path.dropLast.Nodup
  chain : path.IsChain edge

/-- The last edge of a path goes from `a` to `b`. -/
def EndsWith (path : List α) (a b : α) : Prop := [a, b] <:+ path

theorem acyclic_of_acc (h : ∀ a, Acc (fun b a => edge a b) a) : Acyclic edge := by
  intro a hc
  have hw : WellFounded (fun b a => edge a b) := ⟨h⟩
  exact hw.transGen.asymmetric _ _ (Relation.transGen_swap.2 hc) (Relation.transGen_swap.2 hc)

theorem Acyclic.of_map {other : β → β → Prop} (h : Acyclic edge) (f : β → α)
    (hf : ∀ a b, other a b → edge (f a) (f b)) : Acyclic other :=
  fun a hc => h (f a) (hc.lift f hf)

theorem Acyclic.mono {other : α → α → Prop} (h : Acyclic edge)
    (hsub : ∀ a b, other a b → edge a b) : Acyclic other := h.of_map id hsub

theorem transGen_of_chain {a b : α} {rest : List α} (h : (a :: b :: rest).IsChain edge) :
    Relation.TransGen edge a ((b :: rest).getLast (by simp)) := by
  rw [List.isChain_cons_cons] at h
  exact .head' h.1 (List.relationReflTransGen_of_exists_isChain_cons rest h.2 rfl)

theorem ClosedPath.not_acyclic (h : ClosedPath edge path) : ¬ Acyclic edge := by
  intro hno
  match path, h with
  | [], h => simpa using h.two_le_length
  | [_], h => simpa using h.two_le_length
  | a :: b :: rest, h =>
    have hl : (b :: rest).getLast (by simp) = a := by
      have := h.head_eq_last
      rw [List.getLast?_eq_some_getLast (by simp), List.head?_cons] at this
      simpa using (Option.some.inj this).symm
    have hc := transGen_of_chain h.chain
    rw [hl] at hc
    exact hno a hc

theorem EndsWith.unique {a b c d : α} (h : EndsWith path a b) (h' : EndsWith path c d) :
    a = c ∧ b = d := by
  have hs : [a, b] <:+ [c, d] := List.suffix_of_suffix_length_le h h' (by simp)
  simpa using hs.eq_of_length rfl

theorem EndsWith.map {a b : α} (h : EndsWith path a b) (f : α → β) :
    EndsWith (path.map f) (f a) (f b) := List.IsSuffix.map f h

theorem exists_endsWith (h : 2 ≤ path.length) : ∃ a b, EndsWith path a b := by
  rcases List.eq_nil_or_concat path with rfl | ⟨front, b, rfl⟩
  · simp at h
  rcases List.eq_nil_or_concat front with rfl | ⟨front, a, rfl⟩
  · simp at h
  exact ⟨a, b, front, by simp⟩

theorem EndsWith.of_chain {a b : α} (h : EndsWith path a b) (hc : path.IsChain edge) : edge a b :=
  List.isChain_pair.1 (hc.suffix h)

/-- Paths that end with different edges are no more than there are edges. -/
theorem length_le_ncard {paths : List (List α)} {edges : Set (α × α)} (hfin : edges.Finite)
    (hp : paths.Pairwise fun p q => ∀ a b, EndsWith p a b → ¬ EndsWith q a b)
    (h : ∀ path ∈ paths, ∃ e ∈ edges, EndsWith path e.1 e.2) :
    paths.length ≤ edges.ncard := by
  classical
  by_cases hnil : paths = []
  · simp [hnil]
  obtain ⟨path, hpath⟩ := List.exists_mem_of_ne_nil _ hnil
  have : Nonempty (α × α) := ⟨(h path hpath).choose⟩
  choose! last hmem hlast using h
  have hd : (paths.map last).Nodup := by
    rw [List.Nodup, List.pairwise_map]
    refine hp.imp_of_mem fun {p q} hpm hqm hpq he => ?_
    exact hpq _ _ (hlast p hpm) (he ▸ hlast q hqm)
  have hsub : ((paths.map last).toFinset : Set (α × α)) ⊆ edges := fun e he => by
    obtain ⟨path, hpath, rfl⟩ := List.mem_map.1 (by simpa using he)
    exact hmem path hpath
  calc
    paths.length = (paths.map last).toFinset.card := by
      rw [List.toFinset_card_of_nodup hd, List.length_map]
    _ = ((paths.map last).toFinset : Set (α × α)).ncard := (Set.ncard_coe_finset _).symm
    _ ≤ edges.ncard := Set.ncard_le_ncard hsub hfin

theorem ClosedPath.map {other : β → β → Prop} (h : ClosedPath edge path) (f : α → β)
    (hedge : ∀ a b, edge a b → other (f a) (f b))
    (hinj : ∀ a ∈ path, ∀ b ∈ path, f a = f b → a = b) : ClosedPath other (path.map f) := by
  refine ⟨?_, ?_, ?_, ?_⟩
  · simpa using h.two_le_length
  · rw [List.head?_map, List.getLast?_map, h.head_eq_last]
  · rw [← List.map_dropLast]
    exact h.nodup.map_on fun a ha b hb => hinj a (List.mem_of_mem_dropLast ha) b
      (List.mem_of_mem_dropLast hb)
  · exact List.isChain_map_of_isChain f hedge h.chain

end AgentSpec
