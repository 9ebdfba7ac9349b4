import AgentSpec.Defect
import Mathlib.Data.List.Basic

/-!
Runs of changes to a blank draft that is finished in the end. Each slot of the definition has the
changes that write to it, and what ends up in the slot is decided by these changes alone.
-/
namespace AgentSpec.Draft

/-- A slot of the definitions that some drafts are finished to. -/
structure Slot (Edit Draft Entity : Type) where
  {Entry Content : Type}
  /-- What a change writes to the slot. -/
  written? : Edit → Option Entry
  /-- What is in the slot once these entries were written, the last one at the end. -/
  content : List Entry → Content
  /-- What is in the slot of a draft. -/
  staged : Draft → Content
  /-- What is in the slot of a definition. -/
  built : Entity → Content
  /-- The changes ask for an entry in the slot. -/
  Needed : List Edit → Prop

namespace Slot

variable {Edit Draft Entity α : Type}

/-- The last entry is kept, if there is one. Some changes may ask for it. -/
def optional (written? : Edit → Option α) (staged : Draft → Option α)
    (built : Entity → Option α) (Needed : List Edit → Prop := fun _ => False) :
    Slot Edit Draft Entity where
  written?
  content := List.getLast?
  staged
  built
  Needed

/-- The last entry is kept, and all changes ask for it. -/
def required (written? : Edit → Option α) (staged : Draft → Option α) (built : Entity → α) :
    Slot Edit Draft Entity :=
  optional written? staged (fun entity => some (built entity)) fun _ => True

/-- The last entry is kept, or else the default. -/
def defaulted (default : α) (written? : Edit → Option α) (staged : Draft → α)
    (built : Entity → α) : Slot Edit Draft Entity where
  written?
  content entries := entries.getLast?.getD default
  staged
  built
  Needed _ := False

/-- All entries are kept, one after the other. -/
def list (written? : Edit → Option (List α)) (staged : Draft → List α)
    (built : Entity → List α) : Slot Edit Draft Entity where
  written?
  content := List.flatten
  staged
  built
  Needed _ := False

/-- The change writes to the slot. -/
def Touches (slot : Slot Edit Draft Entity) (change : Edit) : Prop := (slot.written? change).isSome

/-- One of the changes writes to the slot, if they ask for an entry. -/
def Supplied (slot : Slot Edit Draft Entity) (changes : List Edit) : Prop :=
  slot.Needed changes → ∃ change ∈ changes, slot.Touches change

/-- What the changes write to the slot, in their order. -/
def entries (slot : Slot Edit Draft Entity) (changes : List Edit) : List slot.Entry :=
  changes.filterMap slot.written?

/-- What a draft has in the slot is what the changes amount to there. -/
def Accounts (slot : Slot Edit Draft Entity) (changes : List Edit) (draft : Draft) : Prop :=
  slot.staged draft = slot.content (slot.entries changes)

/-- A change to a draft writes its entry to the slot, after those that were written before, and
does nothing to the slot if it has no entry for it. -/
def Follows (slot : Slot Edit Draft Entity) (edit : Draft → Edit → Draft) : Prop :=
  ∀ draft change written, slot.staged draft = slot.content written →
    slot.staged (edit draft change) = slot.content (written ++ (slot.written? change).toList)

variable {slot : Slot Edit Draft Entity} {edit : Draft → Edit → Draft}

theorem entries_of_not_touches {before after : List Edit} {change : Edit}
    (h : ¬ slot.Touches change) :
    slot.entries (before ++ change :: after) = slot.entries (before ++ after) := by
  have hnone : slot.written? change = none := by simpa [Touches] using h
  simp [entries, hnone]

/-- Two changes that are not both for the slot can be swapped. -/
theorem entries_swap {before after : List Edit} {first second : Edit}
    (h : slot.Touches first → ¬ slot.Touches second) :
    slot.entries (before ++ first :: second :: after) =
      slot.entries (before ++ second :: first :: after) := by
  by_cases hfirst : slot.Touches first
  · have hsecond : slot.written? second = none := by simpa [Touches] using h hfirst
    simp [entries, List.filterMap_cons, hsecond]
  · have hnone : slot.written? first = none := by simpa [Touches] using hfirst
    simp [entries, List.filterMap_cons, hnone]

theorem isSome_getLast?_filterMap {written? : Edit → Option α} {changes : List Edit} :
    (changes.filterMap written?).getLast?.isSome ↔
      ∃ change ∈ changes, (written? change).isSome := by
  simp [Option.isSome_iff_ne_none]

theorem supplied_optional_iff {written? : Edit → Option α} {staged : Draft → Option α}
    {built : Entity → Option α} {Needed : List Edit → Prop} {changes : List Edit} {draft : Draft}
    (h : (optional written? staged built Needed).Accounts changes draft) :
    (optional written? staged built Needed).Supplied changes ↔
      (Needed changes → (staged draft).isSome) := by
  have hstaged : staged draft = (changes.filterMap written?).getLast? := h
  rw [hstaged, isSome_getLast?_filterMap]
  rfl

theorem supplied_required_iff {written? : Edit → Option α} {staged : Draft → Option α}
    {built : Entity → α} {changes : List Edit} {draft : Draft}
    (h : (required written? staged built).Accounts changes draft) :
    (required written? staged built).Supplied changes ↔ (staged draft).isSome :=
  (supplied_optional_iff h).trans true_imp_iff

theorem supplied_optional {written? : Edit → Option α} {staged : Draft → Option α}
    {built : Entity → Option α} {changes : List Edit} :
    (optional written? staged built).Supplied changes := nofun

theorem supplied_defaulted {default : α} {written? : Edit → Option α} {staged : Draft → α}
    {built : Entity → α} {changes : List Edit} :
    (defaulted default written? staged built).Supplied changes := nofun

theorem supplied_list {written? : Edit → Option (List α)} {staged : Draft → List α}
    {built : Entity → List α} {changes : List Edit} :
    (list written? staged built).Supplied changes := nofun

theorem getLast?_append_toList (written : List α) (entry : Option α) :
    (written ++ entry.toList).getLast? = entry.or written.getLast? := by
  cases entry <;> simp

theorem follows_optional {written? : Edit → Option α} {staged : Draft → Option α}
    {built : Entity → Option α} {Needed : List Edit → Prop}
    (h : ∀ draft change, staged (edit draft change) = (written? change).or (staged draft)) :
    (optional written? staged built Needed).Follows edit := by
  intro draft change (written : List α) hstaged
  change staged draft = written.getLast? at hstaged
  change staged (edit draft change) = (written ++ (written? change).toList).getLast?
  rw [h, hstaged, getLast?_append_toList]

theorem follows_defaulted {default : α} {written? : Edit → Option α} {staged : Draft → α}
    {built : Entity → α}
    (h : ∀ draft change, staged (edit draft change) = (written? change).getD (staged draft)) :
    (defaulted default written? staged built).Follows edit := by
  intro draft change (written : List α) hstaged
  change staged draft = written.getLast?.getD default at hstaged
  change staged (edit draft change) =
    (written ++ (written? change).toList).getLast?.getD default
  rw [h, hstaged, getLast?_append_toList, Option.getD_or]

theorem follows_list {written? : Edit → Option (List α)} {staged : Draft → List α}
    {built : Entity → List α}
    (h : ∀ draft change, staged (edit draft change) =
      (written? change).elim (staged draft) (staged draft ++ ·)) :
    (list written? staged built).Follows edit := by
  intro draft change (written : List (List α)) hstaged
  change staged draft = written.flatten at hstaged
  change staged (edit draft change) = (written ++ (written? change).toList).flatten
  rw [h, hstaged]
  cases written? change <;> simp

end Slot

/-- A way to make definitions: changes to a blank draft, which is finished in the end. -/
structure Staging (Edit Draft Entity : Type) where
  blank : Draft
  edit : Draft → Edit → Draft
  finish : Draft → Except Defect Entity
  slots : List (Slot Edit Draft Entity)

namespace Staging

variable {Edit Draft Entity : Type}

/-- The draft that the changes lead to. -/
def draft (s : Staging Edit Draft Entity) (changes : List Edit) : Draft :=
  changes.foldl s.edit s.blank

/-- The definition that the changes lead to, or what it lacks. -/
def run (s : Staging Edit Draft Entity) (changes : List Edit) : Except Defect Entity :=
  s.finish (s.draft changes)

/-- Every slot that needs an entry is written to. -/
def Supplied (s : Staging Edit Draft Entity) (changes : List Edit) : Prop :=
  ∀ slot ∈ s.slots, slot.Supplied changes

/-- No slot is written to by both changes. -/
def Apart (s : Staging Edit Draft Entity) (first second : Edit) : Prop :=
  ∀ slot ∈ s.slots, slot.Touches first → ¬ slot.Touches second

/-- What a definition has in its slots is what the changes amount to there. -/
def Matches (s : Staging Edit Draft Entity) (changes : List Edit) (entity : Entity) : Prop :=
  ∀ slot ∈ s.slots, slot.built entity = slot.content (slot.entries changes)

/-- What runs of changes lead to, whatever the changes and their order. -/
structure Exact (s : Staging Edit Draft Entity) : Prop where
  succeeds_iff : ∀ changes, (∃ entity, s.run changes = .ok entity) ↔ s.Supplied changes
  eq_ok_iff : ∀ changes entity,
    s.run changes = .ok entity ↔ s.Supplied changes ∧ s.Matches changes entity
  /-- Neighbours that write to different slots can be swapped. -/
  swap : ∀ before after first second, s.Apart first second →
    s.run (before ++ first :: second :: after) = s.run (before ++ second :: first :: after)
  /-- A slot that a change does not write to is what it would be without the change. -/
  undisturbed : ∀ before after change entity changed, s.run (before ++ after) = .ok entity →
    s.run (before ++ change :: after) = .ok changed →
      ∀ slot ∈ s.slots, ¬ slot.Touches change → slot.built changed = slot.built entity

/-- The slots account for blank drafts, single changes, and the end. -/
structure Lawful (s : Staging Edit Draft Entity) : Prop where
  blank : ∀ slot ∈ s.slots, slot.staged s.blank = slot.content []
  edit : ∀ slot ∈ s.slots, slot.Follows s.edit
  /-- How a draft ends depends on its slots only. -/
  congr : ∀ draft other, (∀ slot ∈ s.slots, slot.staged draft = slot.staged other) →
    s.finish draft = s.finish other
  finish : ∀ draft entity, s.finish draft = .ok entity →
    ∀ slot ∈ s.slots, slot.built entity = slot.staged draft
  /-- A draft can be finished if every slot that needs an entry is written to. -/
  finishes : ∀ draft changes, (∀ slot ∈ s.slots, slot.Accounts changes draft) →
    ((∃ entity, s.finish draft = .ok entity) ↔ s.Supplied changes)
  /-- There is nothing to a definition but its slots. -/
  ext : ∀ entity other : Entity, (∀ slot ∈ s.slots, slot.built entity = slot.built other) →
    entity = other

namespace Lawful

variable {s : Staging Edit Draft Entity} {changes : List Edit}

/-- From a draft whose slots are accounted for, every run leads to one. -/
theorem staged_foldl (hs : s.Lawful) {slot : Slot Edit Draft Entity} (hslot : slot ∈ s.slots)
    {draft : Draft} {written : List slot.Entry} (h : slot.staged draft = slot.content written) :
    slot.staged (changes.foldl s.edit draft) = slot.content (written ++ slot.entries changes) := by
  induction changes generalizing draft written with
  | nil => simpa [Slot.entries] using h
  | cons change rest ih =>
    rw [List.foldl_cons, ih (hs.edit slot hslot draft change written h), List.append_assoc]
    cases hw : slot.written? change <;> simp [Slot.entries, hw]

theorem accounts_draft (hs : s.Lawful) (changes : List Edit) :
    ∀ slot ∈ s.slots, slot.Accounts changes (s.draft changes) :=
  fun _ hslot => hs.staged_foldl hslot (hs.blank _ hslot)

/-- Runs that write the same to all slots end the same. -/
theorem run_congr (hs : s.Lawful) {others : List Edit}
    (h : ∀ slot ∈ s.slots, slot.entries changes = slot.entries others) :
    s.run changes = s.run others := by
  apply hs.congr
  intro slot hslot
  rw [hs.accounts_draft changes slot hslot, hs.accounts_draft others slot hslot, h slot hslot]

theorem matches_of_run (hs : s.Lawful) {entity : Entity} (h : s.run changes = .ok entity) :
    s.Matches changes entity := by
  intro slot hslot
  rw [hs.finish _ _ h slot hslot, hs.accounts_draft changes slot hslot]

theorem exact (hs : s.Lawful) : s.Exact where
  succeeds_iff changes := hs.finishes _ changes (hs.accounts_draft changes)
  eq_ok_iff changes entity := by
    have hfinishes := hs.finishes _ changes (hs.accounts_draft changes)
    constructor
    · intro h
      exact ⟨hfinishes.1 ⟨entity, h⟩, hs.matches_of_run h⟩
    · intro h
      obtain ⟨other, hother⟩ := hfinishes.2 h.1
      have hsame : entity = other := hs.ext entity other fun slot hslot => by
        rw [h.2 slot hslot, hs.matches_of_run hother slot hslot]
      rw [hsame]
      exact hother
  swap before after first second h :=
    hs.run_congr fun slot hslot => Slot.entries_swap (h slot hslot)
  undisturbed before after change entity changed h hchanged slot hslot ht := by
    rw [hs.matches_of_run hchanged slot hslot, hs.matches_of_run h slot hslot,
      Slot.entries_of_not_touches ht]

end Lawful

end Staging

end AgentSpec.Draft
