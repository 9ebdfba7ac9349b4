import AgentSpec.Files.Store
import AgentSpec.Proofs.Except

/-! What can be relied on when files are read and written, and that kept files can be relied on. -/
namespace AgentSpec

/-- Reading leaves everything as it is, and what has been written is read. Both may be refused. -/
class LawfulFiles (σ : Type) [Files (StateM σ)] : Prop where
  read_state (path : String) (s : σ) :
    ∃ result, (Files.read path : StateM σ (Except FileError String)).run s = (result, s)
  read_write (path text : String) (s s' : σ)
    (h : (Files.write path text : StateM σ (Except FileError Unit)).run s = (.ok (), s')) :
    (Files.read path : StateM σ (Except FileError String)).run s' = (.ok text, s')

namespace FileStore

variable {store written : FileStore} {location other : Location} {entry : FileEntry}
  {path : String}

theorem entry?_put_self (h : location ≠ []) :
    entry? (store.put location entry) location = some entry := by
  unfold entry? put
  simp [h]

theorem entry?_put_of_ne (h : other ≠ location) :
    entry? (store.put location entry) other = store.entry? other := by
  have hkeep : ∀ entries : List (Location × FileEntry),
      (entries.filter (·.1 != location)).lookup other = entries.lookup other := by
    intro entries
    induction entries with
    | nil => rfl
    | cons first rest ih =>
      obtain ⟨key, found⟩ := first
      by_cases hk : key = location
      · have ho : (other == key) = false := by simpa [hk] using h
        rw [List.filter_cons_of_neg (by simp [hk]), List.lookup_cons, ho, ih]
      · rw [List.filter_cons_of_pos (by simp [hk]), List.lookup_cons, List.lookup_cons, ih]
  have ho : (other == location) = false := by simpa using h
  unfold entry? put
  rw [List.lookup_cons, ho, hkeep]

/-- What is not a directory is on no way, so that the ways do not change if it is replaced. -/
theorem descend_put (hd : store.entry? location ≠ some .directory) {names : List String}
    {start stop : Location} (h : store.descend start names = .ok stop) :
    (store.put location entry).descend start names = .ok stop := by
  induction names generalizing start with
  | nil => exact h
  | cons name rest ih =>
    unfold descend at h ⊢
    rw [bind_eq_ok_iff] at h ⊢
    obtain ⟨next, hstep, h⟩ := h
    refine ⟨next, hstep, ?_⟩
    cases he : store.entry? next with
    | none => simp [he] at h
    | some found =>
      cases found with
      | directory =>
        have hne : next ≠ location := fun heq => hd (heq ▸ he)
        rw [he] at h
        have hkept : entry? (store.put location entry) next = store.entry? next :=
          entry?_put_of_ne hne
        rw [hkept, he]
        exact ih h
      | _ => simp [he] at h

/-- An entry that can be set at the end of a path stands at a location that was no directory. -/
structure Places (store : FileStore) (path : String) (above : Location) (name : String)
    (location : Location) : Prop where
  approach : store.approach (wholeRoute path) = .ok (above, name)
  isName : name ≠ ".."
  plain : endsInSlash path = false ∧ endsInDot path = false
  step : FileStore.step above name = .ok location
  free : store.entry? location ≠ some .directory

theorem exists_places (h : store.place path entry = .ok written) :
    ∃ above name location, store.Places path above name location ∧
      written = store.put location entry := by
  unfold place at h
  rw [bind_eq_ok_iff] at h
  obtain ⟨⟨above, name⟩, happroach, h⟩ := h
  dsimp only at h
  split at h
  · simp only [bind_eq_ok_iff, throw_ne_ok, false_and, exists_false, and_false] at h
  · rename_i hplain
    rw [guard_eq_ok_iff, bind_eq_ok_iff] at h
    obtain ⟨hslash, location, hstep, h⟩ := h
    rw [guard_eq_ok_iff] at h
    obtain ⟨hfree, h⟩ := h
    simp only [Bool.or_eq_true, not_or, beq_iff_eq, Bool.not_eq_true] at hplain hslash hfree
    exact ⟨above, name, location, ⟨happroach, hplain.2, ⟨hslash, hplain.1⟩, hstep, hfree⟩,
      (Except.ok.inj h).symm⟩

theorem Places.step_eq {above : Location} {name : String}
    (h : store.Places path above name location) : location = above ++ [name] := by
  have hstep := h.step
  unfold FileStore.step at hstep
  rw [if_neg (by simpa using h.isName)] at hstep
  split at hstep
  · cases hstep
  · exact (Except.ok.inj hstep).symm

theorem approach_put (hd : store.entry? location ≠ some .directory) {route : Route}
    {result : Location × String} (h : store.approach route = .ok result) :
    (store.put location entry).approach route = .ok result := by
  unfold approach at h ⊢
  simp only [bind_eq_ok_iff] at h ⊢
  obtain ⟨_, hcheck, above, hdescend, h⟩ := h
  exact ⟨_, hcheck, above, descend_put hd hdescend, h⟩

/-- A text that could be set at the end of a path is found there. -/
theorem read_of_place {text : String} (h : store.place path (.text text) = .ok written) :
    written.read path = .ok text := by
  obtain ⟨above, name, location, hplaces, rfl⟩ := exists_places h
  have hentry : entry? (store.put location (.text text)) location = some (.text text) :=
    entry?_put_self (by simp [hplaces.step_eq])
  have hfind : (store.put location (.text text)).find path = .ok (.text text) := by
    unfold find
    rw [approach_put hplaces.free hplaces.approach]
    simp [bind, Except.bind, hplaces.step, hentry, hplaces.plain, pure, Except.pure]
  unfold read
  rw [hfind]
  rfl

theorem read_of_write {text : String} (h : store.write path (.text text) = (.ok (), written)) :
    written.read path = .ok text := by
  unfold write at h
  split at h
  · cases h
  · split at h
    · cases h
    · rename_i made _ _ hplace
      cases h
      exact read_of_place hplace

/-- A path that is no more than the name of a file. -/
structure IsBare (name : String) : Prop where
  names : (wholeRoute name).names = [name]
  above : routesAbove name = []
  plain : endsInSlash name = false ∧ endsInDot name = false
  isName : name ≠ ".."
  size : 0 < name.utf8ByteSize ∧ name.utf8ByteSize ≤ nameLimit
  characters : '\x00' ∉ name.toList

namespace IsBare

variable {name : String}

theorem check_eq (h : IsBare name) : (wholeRoute name).check = .ok () := by
  have hzero : (wholeRoute name).names.any (·.contains '\x00') = false := by
    simp [h.names, h.characters]
  have hsize : (wholeRoute name).size = name.utf8ByteSize := rfl
  have hlimit := h.size
  unfold nameLimit at hlimit
  unfold Route.check pathLimit
  rw [hzero, hsize, if_neg Bool.false_ne_true, if_neg (by omega), if_neg (by omega)]

theorem approach_eq (h : IsBare name) : store.approach (wholeRoute name) = .ok ([], name) := by
  unfold approach
  rw [h.check_eq, h.names]
  rfl

theorem step_eq (h : IsBare name) : step [] name = .ok [name] := by
  have hlimit : ¬ nameLimit < name.utf8ByteSize := Nat.not_lt.2 h.size.2
  simp [step, h.isName, hlimit]

/-- Files are found under their names. -/
theorem read_eq (h : IsBare name) {text : String} (he : store.entry? [name] = some (.text text)) :
    store.read name = .ok text := by
  have hfind : store.find name = .ok (.text text) := by
    unfold find
    rw [h.approach_eq]
    simp [bind, Except.bind, h.step_eq, he, h.plain, pure, Except.pure]
  unfold read
  rw [hfind]
  rfl

/-- Files are written under their names, unless a directory has the name. -/
theorem write_eq (h : IsBare name) (he : store.entry? [name] ≠ some .directory) :
    store.write name entry = (.ok (), store.put [name] entry) := by
  have hplace : store.place name entry = .ok (store.put [name] entry) := by
    unfold place
    dsimp only
    rw [h.approach_eq]
    simp [bind, Except.bind, h.step_eq, he, h.plain, h.isName, pure, Except.pure]
  unfold write
  rw [h.above]
  simp only [ensureDirectories, hplace]

end IsBare

end FileStore

instance : LawfulFiles FileStore where
  read_state path store := ⟨store.read path, rfl⟩
  read_write path text store written h := by
    have hread := FileStore.read_of_write h
    change (written.read path, written) = _
    rw [hread]

end AgentSpec
