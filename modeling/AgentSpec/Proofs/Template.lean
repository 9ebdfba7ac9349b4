import AgentSpec.Proofs.Text.Cut
import AgentSpec.Template
import Mathlib.Data.List.Induction
import Mathlib.Data.List.TakeWhile

/-! The placeholders that are found in a template are those that stand in it. -/
namespace AgentSpec.Template

variable {text name rest : List Char}

/-- A name in closing braces stands at the start of a text, with white space around it. -/
structure Opens (text name rest : List Char) : Prop where
  name_ne_nil : name ≠ []
  name_char : ∀ c ∈ name, c ≠ '\x7b' ∧ c ≠ '\x7d' ∧ ¬ Text.isBlank c = true
  split : ∃ left right, (∀ c ∈ left ++ right, Text.isBlank c = true) ∧
    text = left ++ name ++ right ++ '\x7d' :: '\x7d' :: rest

/-- A placeholder of the name stands somewhere in the text. -/
def Occurs (text name : List Char) : Prop :=
  ∃ before behind rest, text = before ++ '\x7b' :: '\x7b' :: behind ∧ Opens behind name rest

theorem isNameChar_iff {c : Char} :
    isNameChar c = true ↔ c ≠ '\x7b' ∧ c ≠ '\x7d' ∧ ¬ Text.isBlank c = true := by
  simp [isNameChar, and_assoc]

theorem placeholder?_of_opens (h : Opens text name rest) :
    placeholder? text = some (name, rest) := by
  obtain ⟨hne, hchar, left, right, hblank, rfl⟩ := h
  rw [List.forall_mem_append] at hblank
  have hname : ∀ c ∈ name, isNameChar c = true := fun c hc => isNameChar_iff.2 (hchar c hc)
  have hclose : ¬ Text.isBlank '\x7d' = true := by decide
  have hleft := Text.span_append (name ++ (right ++ '\x7d' :: '\x7d' :: rest)) hblank.1 <| by
    intro c hc
    cases name with
    | nil => exact absurd rfl hne
    | cons d name =>
      obtain rfl : d = c := Option.some.inj hc
      exact (hchar d (by simp)).2.2
  have hmiddle := Text.span_append (right ++ '\x7d' :: '\x7d' :: rest) hname <| by
    intro c hc hn
    cases right with
    | nil =>
      obtain rfl : '\x7d' = c := Option.some.inj hc
      exact absurd hn (by decide)
    | cons d right =>
      obtain rfl : d = c := Option.some.inj hc
      exact (isNameChar_iff.1 hn).2.2 (hblank.2 d (by simp))
  have hright := Text.span_append ('\x7d' :: '\x7d' :: rest) hblank.2 <| by
    intro c hc
    obtain rfl : '\x7d' = c := Option.some.inj hc
    exact hclose
  rw [placeholder?, List.append_assoc, List.append_assoc, hleft.2]
  rw [hmiddle.1, hmiddle.2, hright.2]
  exact if_neg (by simpa using hne)

theorem opens_of_placeholder? (h : placeholder? text = some (name, rest)) :
    Opens text name rest := by
  rw [placeholder?] at h
  split at h
  · rename_i tail heq
    split at h
    · cases h
    · rename_i hne
      obtain ⟨rfl, rfl⟩ : _ = name ∧ tail = rest := by simpa using h
      refine ⟨by simpa using hne, fun c hc => isNameChar_iff.1 (List.mem_takeWhile_imp hc),
        text.takeWhile Text.isBlank,
        ((text.dropWhile Text.isBlank).dropWhile isNameChar).takeWhile Text.isBlank, ?_, ?_⟩
      · intro c hc
        rcases List.mem_append.1 hc with hc | hc
        · exact List.mem_takeWhile_imp hc
        · exact List.mem_takeWhile_imp hc
      · rw [← heq]
        simp only [List.append_assoc, List.takeWhile_append_dropWhile]
  · cases h

theorem not_opens_cons (text : List Char) : ¬ Opens ('\x7b' :: text) name rest := by
  intro h
  obtain ⟨hne, hchar, left, right, hblank, he⟩ := h
  rw [List.forall_mem_append] at hblank
  cases left with
  | nil =>
    cases name with
    | nil => exact hne rfl
    | cons c name =>
      obtain ⟨hc, -⟩ := List.cons.inj he
      exact (hchar c (by simp)).1 hc.symm
  | cons c left =>
    obtain ⟨hc, -⟩ := List.cons.inj he
    have hb := hblank.1 c (by simp)
    rw [← hc] at hb
    exact absurd hb (by decide)

/-- A placeholder of the name begins at that position of the text. -/
def OccursAt (text : List Char) (i : Nat) (name : List Char) : Prop :=
  ∃ before behind rest, text = before ++ '\x7b' :: '\x7b' :: behind ∧ before.length = i ∧
    Opens behind name rest

theorem occurs_iff_exists_occursAt : Occurs text name ↔ ∃ i, OccursAt text i name := by
  constructor
  · intro h
    obtain ⟨before, behind, rest, he, ho⟩ := h
    exact ⟨before.length, before, behind, rest, he, rfl, ho⟩
  · intro h
    obtain ⟨_, before, behind, rest, he, -, ho⟩ := h
    exact ⟨before, behind, rest, he, ho⟩

theorem occursAt_zero : OccursAt text 0 name ↔
    ∃ behind rest, text = '\x7b' :: '\x7b' :: behind ∧ Opens behind name rest := by
  constructor
  · intro h
    obtain ⟨before, behind, rest, he, hl, ho⟩ := h
    rw [List.length_eq_zero_iff] at hl
    exact ⟨behind, rest, by simpa [hl] using he, ho⟩
  · intro h
    obtain ⟨behind, rest, he, ho⟩ := h
    exact ⟨[], behind, rest, he, rfl, ho⟩

theorem not_occursAt_nil (i : Nat) (name : List Char) : ¬ OccursAt [] i name := by
  intro h
  obtain ⟨before, behind, rest, he, -⟩ := h
  simp at he

theorem occursAt_succ {c : Char} {i : Nat} :
    OccursAt (c :: text) (i + 1) name ↔ OccursAt text i name := by
  constructor
  · intro h
    obtain ⟨before, behind, rest, he, hl, ho⟩ := h
    cases before with
    | nil => cases hl
    | cons d before =>
      obtain ⟨-, rfl⟩ := List.cons.inj he
      exact ⟨before, behind, rest, rfl, Nat.succ.inj hl, ho⟩
  · intro h
    obtain ⟨before, behind, rest, rfl, rfl, ho⟩ := h
    exact ⟨c :: before, behind, rest, rfl, rfl, ho⟩

/-- The placeholders of a text are those of its rest, and the rest begins at position `k`. -/
def Continues (text rest : List Char) (k : Nat) : Prop :=
  ∀ i name, OccursAt text i name ↔ ∃ j, i = k + j ∧ OccursAt rest j name

theorem continues_cons {c : Char} (h : ∀ name, ¬ OccursAt (c :: text) 0 name) :
    Continues (c :: text) text 1 := by
  intro i name
  cases i with
  | zero => exact iff_of_false (h name) fun ⟨j, hj, _⟩ => by omega
  | succ i =>
    rw [occursAt_succ]
    constructor
    · exact fun ho => ⟨i, by omega, ho⟩
    · intro ho
      obtain ⟨j, hj, ho⟩ := ho
      rwa [show i = j by omega]

theorem Continues.trans {middle : List Char} {k l : Nat} (h : Continues text middle k)
    (h' : Continues middle rest l) : Continues text rest (k + l) := by
  intro i name
  rw [h i name]
  constructor
  · intro ho
    obtain ⟨_, rfl, hm⟩ := ho
    obtain ⟨j, rfl, hr⟩ := (h' _ name).1 hm
    exact ⟨j, by omega, hr⟩
  · intro ho
    obtain ⟨j, rfl, ho⟩ := ho
    exact ⟨l + j, by omega, (h' _ name).2 ⟨j, rfl, ho⟩⟩

theorem continues_append (other : List Char) (h : ∀ c ∈ text, c ≠ '\x7b') :
    Continues (text ++ other) other text.length := by
  induction text with
  | nil => exact fun i name => by simp
  | cons c text ih =>
    rw [List.forall_mem_cons] at h
    have hfirst : Continues (c :: (text ++ other)) (text ++ other) 1 := by
      refine continues_cons fun name ho => ?_
      obtain ⟨behind, rest, he, -⟩ := occursAt_zero.1 ho
      exact h.1 (List.cons.inj he).1
    rw [List.length_cons, Nat.add_comm]
    exact hfirst.trans (ih h.2)

/-- Behind a placeholder the text goes on as if it were not there: none begins inside of it. -/
theorem Opens.continues (h : Opens text name rest) :
    Continues text rest (text.length - rest.length) := by
  obtain ⟨-, hchar, left, right, hblank, rfl⟩ := h
  have hbrace : ∀ c, Text.isBlank c = true → c ≠ '\x7b' := by
    rintro c hc rfl
    exact absurd hc (by decide)
  have hne : ∀ c ∈ left ++ name ++ right ++ ['\x7d', '\x7d'], c ≠ '\x7b' := by
    intro c hc
    simp only [List.mem_append, List.mem_cons, List.not_mem_nil, or_false] at hc hblank
    rcases hc with ((hc | hc) | hc) | rfl | rfl
    · exact hbrace c (hblank c (.inl hc))
    · exact (hchar c hc).1
    · exact hbrace c (hblank c (.inr hc))
    · decide
    · decide
  have happ := continues_append rest hne
  have hlen : (left ++ name ++ right ++ '\x7d' :: '\x7d' :: rest).length - rest.length =
      (left ++ name ++ right ++ ['\x7d', '\x7d']).length := by
    simp only [List.length_append, List.length_cons, List.length_nil]
    omega
  rw [hlen]
  simpa using happ

/-- All places of a text where placeholders begin, from left to right, with the names. -/
structure Sites (text : List Char) (sites : List (Nat × List Char)) : Prop where
  mem_iff : ∀ {i name}, (i, name) ∈ sites ↔ OccursAt text i name
  ascending : sites.Pairwise fun p q => p.1 < q.1

/-- A site that lies `k` characters further to the right. -/
def shift (k : Nat) (site : Nat × List Char) : Nat × List Char := (k + site.1, site.2)

theorem mem_map_shift {k i : Nat} {sites : List (Nat × List Char)} :
    (i, name) ∈ sites.map (shift k) ↔ ∃ j, i = k + j ∧ (j, name) ∈ sites := by
  simp only [List.mem_map, shift, Prod.exists, Prod.mk.injEq]
  constructor
  · intro h
    obtain ⟨j, _, hm, rfl, rfl⟩ := h
    exact ⟨j, rfl, hm⟩
  · intro h
    obtain ⟨j, rfl, hm⟩ := h
    exact ⟨j, name, hm, rfl, rfl⟩

theorem Sites.shift {sites : List (Nat × List Char)} {k : Nat} (h : Sites rest sites)
    (hc : Continues text rest k) : Sites text (sites.map (shift k)) where
  mem_iff := by
    intro i name
    rw [hc i name, mem_map_shift]
    simp only [h.mem_iff]
  ascending := by
    rw [List.pairwise_map]
    exact h.ascending.imp fun hlt => Nat.add_lt_add_left hlt k

/-- A placeholder at the start of a text comes in front of those behind it. -/
theorem Sites.cons {sites : List (Nat × List Char)} (h : Sites rest sites)
    (ho : Opens text name rest) :
    Sites ('\x7b' :: '\x7b' :: text)
      ((0, name) :: sites.map (Template.shift (2 + (text.length - rest.length)))) where
  mem_iff := by
    intro i other
    rw [List.mem_cons, Prod.mk.injEq, mem_map_shift]
    simp only [h.mem_iff]
    match i with
    | 0 =>
      rw [occursAt_zero]
      constructor
      · intro hm
        obtain ⟨-, rfl⟩ := hm.resolve_right fun ⟨j, hj, _⟩ => by omega
        exact ⟨text, rest, rfl, ho⟩
      · intro hm
        obtain ⟨behind, rest', hb, ho'⟩ := hm
        obtain rfl : text = behind := by simpa using hb
        have he := (placeholder?_of_opens ho).symm.trans (placeholder?_of_opens ho')
        exact .inl ⟨rfl, (Prod.mk.inj (Option.some.inj he)).1.symm⟩
    | 1 =>
      rw [occursAt_succ, occursAt_zero]
      refine iff_of_false (fun hm => ?_) fun hm => ?_
      · rcases hm with ⟨h1, -⟩ | ⟨j, hj, -⟩ <;> omega
      · obtain ⟨behind, rest', hb, -⟩ := hm
        exact not_opens_cons behind ((List.cons.inj hb).2 ▸ ho)
    | i + 2 =>
      rw [occursAt_succ, occursAt_succ, ho.continues i other]
      constructor
      · intro hm
        obtain ⟨j, hj, hm⟩ := hm.resolve_left fun he => by omega
        exact ⟨j, by omega, hm⟩
      · intro hm
        obtain ⟨j, rfl, hm⟩ := hm
        exact .inr ⟨j, by omega, hm⟩
  ascending := by
    refine List.pairwise_cons.2 ⟨fun p hp => ?_, ?_⟩
    · obtain ⟨q, -, rfl⟩ := List.mem_map.1 hp
      simp only [Template.shift]
      omega
    · rw [List.pairwise_map]
      exact h.ascending.imp fun hlt => Nat.add_lt_add_left hlt _

theorem occurrences_of_opens (h : Opens text name rest) :
    occurrences ('\x7b' :: '\x7b' :: text) = name :: occurrences rest := by
  have hp := placeholder?_of_opens h
  rw [occurrences]
  split <;> simp_all

/-- Where no placeholder begins the scan goes on with the next character. -/
theorem occurrences_skip {c : Char} (h : ∀ name, ¬ OccursAt (c :: text) 0 name) :
    occurrences (c :: text) = occurrences text := by
  rw [occurrences.eq_def (c :: text)]
  split
  · rename_i he
    cases he
  · rename_i behind he
    split
    · rename_i name rest hp
      exact (h name (occursAt_zero.2 ⟨behind, rest, he, opens_of_placeholder? hp⟩)).elim
    · rw [(List.cons.inj he).2]
  · rename_i he
    rw [(List.cons.inj he).2]

/-- The scan takes the placeholder at the start of a text, or else a character. -/
theorem scan_induction {motive : List Char → Prop} (nil : motive [])
    (found : ∀ text name rest, Opens text name rest → motive rest →
      motive ('\x7b' :: '\x7b' :: text))
    (skip : ∀ c text, (∀ name, ¬ OccursAt (c :: text) 0 name) → motive text →
      motive (c :: text)) (text : List Char) : motive text := by
  induction text using occurrences.induct with
  | case1 => exact nil
  | case2 behind name rest hp ih => exact found behind name rest (opens_of_placeholder? hp) ih
  | case3 behind hp ih =>
    refine skip _ _ (fun name ho => ?_) ih
    obtain ⟨behind', rest, hb, ho⟩ := occursAt_zero.1 ho
    obtain rfl : behind = behind' := by simpa using hb
    rw [placeholder?_of_opens ho] at hp
    cases hp
  | case4 c text hno ih =>
    refine skip c text (fun name ho => ?_) ih
    obtain ⟨behind, rest, hb, -⟩ := occursAt_zero.1 ho
    obtain ⟨hc, ht⟩ := List.cons.inj hb
    exact hno behind hc ht

/-- The scan finds every placeholder in its place and nothing else. -/
theorem exists_sites (text : List Char) :
    ∃ sites, Sites text sites ∧ sites.map (·.2) = occurrences text := by
  induction text using scan_induction with
  | nil =>
    refine ⟨[], ⟨fun {i name} => ?_, .nil⟩, by simp [occurrences]⟩
    exact iff_of_false List.not_mem_nil (not_occursAt_nil i name)
  | found text name rest ho ih =>
    obtain ⟨sites, hs, he⟩ := ih
    refine ⟨_, hs.cons ho, ?_⟩
    rw [occurrences_of_opens ho, ← he, List.map_cons, List.map_map]
    rfl
  | skip c text hno ih =>
    obtain ⟨sites, hs, he⟩ := ih
    refine ⟨_, hs.shift (continues_cons hno), ?_⟩
    rw [occurrences_skip hno, ← he, List.map_map]
    rfl

theorem mem_occurrences_iff : name ∈ occurrences text ↔ Occurs text name := by
  obtain ⟨sites, hs, he⟩ := exists_sites text
  rw [← he, occurs_iff_exists_occursAt, List.mem_map]
  simp only [← hs.mem_iff, Prod.exists, exists_eq_right]

/-- The names in the leftmost placeholders of a text that do not overlap: each search begins where
the placeholder before it has ended. -/
inductive LeftmostNames : List Char → List (List Char) → Prop
  | nil {text : List Char} (h : ∀ i name, ¬ OccursAt text i name) : LeftmostNames text []
  | cons {before behind name rest : List Char} {names : List (List Char)}
      (hfirst : ∀ i < before.length, ∀ other,
        ¬ OccursAt (before ++ '\x7b' :: '\x7b' :: behind) i other)
      (ho : Opens behind name rest) (h : LeftmostNames rest names) :
      LeftmostNames (before ++ '\x7b' :: '\x7b' :: behind) (name :: names)

theorem LeftmostNames.skip {c : Char} {names : List (List Char)} (h : LeftmostNames text names)
    (hno : ∀ name, ¬ OccursAt (c :: text) 0 name) : LeftmostNames (c :: text) names := by
  cases h with
  | nil h =>
    refine .nil fun i name ho => ?_
    obtain ⟨j, -, ho⟩ := (continues_cons hno i name).1 ho
    exact h j name ho
  | @cons before behind name rest names hfirst ho h =>
    have hall : ∀ i < (c :: before).length, ∀ other,
        ¬ OccursAt (c :: before ++ '\x7b' :: '\x7b' :: behind) i other := by
      intro i hi other hc
      obtain ⟨j, rfl, hj⟩ := (continues_cons hno i other).1 hc
      rw [List.length_cons] at hi
      exact hfirst j (by omega) other hj
    exact .cons hall ho h

theorem leftmostNames_occurrences (text : List Char) :
    LeftmostNames text (occurrences text) := by
  induction text using scan_induction with
  | nil =>
    rw [occurrences]
    exact .nil not_occursAt_nil
  | found text name rest ho ih =>
    rw [occurrences_of_opens ho]
    exact @LeftmostNames.cons [] text name rest _ (fun i hi => absurd hi (Nat.not_lt_zero i)) ho ih
  | skip c text hno ih =>
    rw [occurrences_skip hno]
    exact ih.skip hno

theorem mem_foldl_new {α : Type} [BEq α] [LawfulBEq α] {a : α} (seen elements : List α) :
    a ∈ elements.foldl (fun seen a => if seen.contains a then seen else seen ++ [a]) seen ↔
      a ∈ seen ∨ a ∈ elements := by
  induction elements generalizing seen with
  | nil => simp
  | cons b rest ih =>
    rw [List.foldl_cons, ih, List.mem_cons]
    by_cases hb : seen.contains b = true
    · rw [if_pos hb]
      constructor
      · exact fun h => h.imp_right .inr
      · intro h
        rcases h with h | rfl | h
        · exact .inl h
        · exact .inl (List.contains_iff_mem.1 hb)
        · exact .inr h
    · rw [if_neg hb, List.mem_append, List.mem_singleton, or_assoc]

theorem mem_distinct {α : Type} [BEq α] [LawfulBEq α] {a : α} {elements : List α} :
    a ∈ distinct elements ↔ a ∈ elements := by
  unfold distinct
  rw [mem_foldl_new]
  simp

theorem distinct_concat {α : Type} [BEq α] (elements : List α) (a : α) :
    distinct (elements ++ [a]) =
      if (distinct elements).contains a then distinct elements else distinct elements ++ [a] := by
  unfold distinct
  rw [List.foldl_append]
  rfl

/-- Each element comes after those that the list has before its first occurrence. -/
theorem pairwise_distinct {α : Type} [BEq α] [LawfulBEq α] (elements : List α) :
    (distinct elements).Pairwise fun a b => elements.idxOf a < elements.idxOf b := by
  induction elements using List.reverseRecOn with
  | nil => exact .nil
  | append_singleton front last ih =>
    have hold : ∀ a ∈ distinct front, (front ++ [last]).idxOf a = front.idxOf a := fun a ha => by
      rw [List.idxOf_append, if_pos (mem_distinct.1 ha)]
    have hfront : (distinct front).Pairwise fun a b =>
        (front ++ [last]).idxOf a < (front ++ [last]).idxOf b :=
      ih.imp_of_mem fun ha hb hlt => by rwa [hold _ ha, hold _ hb]
    rw [distinct_concat]
    split
    · exact hfront
    · rename_i hnew
      rw [List.contains_iff_mem, mem_distinct] at hnew
      refine List.pairwise_append.2 ⟨hfront, List.pairwise_singleton _ _, fun a ha b hb => ?_⟩
      obtain rfl : b = last := List.mem_singleton.1 hb
      rw [hold a ha, List.idxOf_append, if_neg hnew]
      have := List.idxOf_lt_length_of_mem (mem_distinct.1 ha)
      omega

/-- A prompt has the placeholders that stand in its template. -/
theorem mem_placeholders_iff {template name : String} :
    name ∈ placeholders template ↔ Occurs template.toList name.toList := by
  unfold placeholders
  rw [mem_distinct, ← mem_occurrences_iff, List.mem_map]
  constructor
  · intro h
    obtain ⟨chars, hc, rfl⟩ := h
    rwa [String.toList_ofList]
  · intro h
    exact ⟨_, h, String.ofList_toList⟩

/-- The first placeholder of that name begins at that position of the text. -/
structure FirstOccursAt (text : List Char) (i : Nat) (name : List Char) : Prop where
  here : OccursAt text i name
  first : ∀ j < i, ¬ OccursAt text j name

/-- The first of the sites with a name is the first place of the name in the text. -/
theorem Sites.firstOccursAt {sites : List (Nat × List Char)} (h : Sites text sites) {k : Nat}
    {site : Nat × List Char} (hk : sites[k]? = some site)
    (hfirst : ∀ l other, sites[l]? = some other → other.2 = site.2 → k ≤ l) :
    FirstOccursAt text site.1 site.2 where
  here := h.mem_iff.1 (List.mem_of_getElem? hk)
  first := by
    intro j hj ho
    obtain ⟨l, hl⟩ := List.mem_iff_getElem?.1 (h.mem_iff.2 ho)
    rcases (hfirst l _ hl rfl).lt_or_eq with hlt | rfl
    · obtain ⟨hk', rfl⟩ := List.getElem?_eq_some_iff.1 hk
      obtain ⟨hl', he⟩ := List.getElem?_eq_some_iff.1 hl
      have := List.pairwise_iff_getElem.1 h.ascending k l hk' hl' hlt
      rw [he] at this
      omega
    · have he : site = (j, site.2) := Option.some.inj (hk.symm.trans hl)
      rw [he] at hj
      exact Nat.lt_irrefl _ hj

/-- The names of the sites, each once, come in the order of their first places. -/
theorem Sites.pairwise_distinct {sites : List (Nat × List Char)} (h : Sites text sites) :
    (distinct (sites.map fun site => String.ofList site.2)).Pairwise fun a b =>
      ∃ i j, FirstOccursAt text i a.toList ∧ FirstOccursAt text j b.toList ∧ i < j := by
  let names := sites.map fun site => String.ofList site.2
  have hfirst : ∀ name ∈ distinct names, ∃ site,
      sites[names.idxOf name]? = some site ∧ FirstOccursAt text site.1 name.toList := by
    intro name hn
    have hk := List.getElem?_idxOf (mem_distinct.1 hn)
    obtain ⟨site, hs, rfl⟩ := Option.map_eq_some_iff.1 (List.getElem?_map.symm.trans hk)
    rw [String.toList_ofList]
    refine ⟨site, hs, h.firstOccursAt hs fun l other hl ho => ?_⟩
    by_contra hlt
    obtain ⟨hl', rfl⟩ := List.getElem?_eq_some_iff.1 hl
    have hne := List.not_of_lt_findIdx (Nat.lt_of_not_le hlt)
    simp [names, ho] at hne
  refine (Template.pairwise_distinct names).imp_of_mem fun {a b} ha hb hlt => ?_
  obtain ⟨p, hp, hpa⟩ := hfirst a ha
  obtain ⟨q, hq, hqb⟩ := hfirst b hb
  obtain ⟨hp', rfl⟩ := List.getElem?_eq_some_iff.1 hp
  obtain ⟨hq', rfl⟩ := List.getElem?_eq_some_iff.1 hq
  exact ⟨_, _, hpa, hqb, List.pairwise_iff_getElem.1 h.ascending _ _ hp' hq' hlt⟩

/-- The placeholders of a template are the names that stand in it in double braces, with or without
white space around them: the search from left to right for placeholders that do not overlap misses
none. Each comes once, in the order of the first place where it stands. -/
theorem placeholders_exact (template : String) :
    (∃ names, LeftmostNames template.toList names ∧
      placeholders template = distinct (names.map String.ofList)) ∧
    (∀ name, name ∈ placeholders template ↔ Occurs template.toList name.toList) ∧
    (placeholders template).Nodup ∧
    (placeholders template).Pairwise fun a b => ∃ i j,
      FirstOccursAt template.toList i a.toList ∧ FirstOccursAt template.toList j b.toList ∧
        i < j := by
  obtain ⟨sites, hs, he⟩ := exists_sites template.toList
  have hnames : placeholders template = distinct (sites.map fun site => String.ofList site.2) := by
    rw [placeholders, ← he, List.map_map]
    rfl
  refine ⟨⟨_, leftmostNames_occurrences _, rfl⟩, fun name => mem_placeholders_iff, ?_, ?_⟩
  · refine (pairwise_distinct _).imp fun {a b} hlt hab => ?_
    rw [hab] at hlt
    exact Nat.lt_irrefl _ hlt
  · rw [hnames]
    exact hs.pairwise_distinct

end AgentSpec.Template
