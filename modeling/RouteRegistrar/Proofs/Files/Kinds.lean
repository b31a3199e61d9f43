import RouteRegistrar.Proofs.Files.Paths

/-!
# Stores with the same kinds of entries

Two stores have the same kinds if every path that leads to a file in one leads to a file in the
other, and likewise for directories; the contents of files may differ. Where a path leads depends on
the kinds of the entries on its way only, so replacing the content of a file changes no kind and
no content but that of the file.
-/

namespace RouteRegistrar

/-- Whether an entry is a directory. -/
def FileEntry.isDirectory : FileEntry → Bool
  | directory => true
  | file _ => false

namespace FileStore

/-- The same paths lead to files and to directories. -/
structure SameKinds (store other : FileStore) : Prop where
  isFile (path : FilePath) : other.isFile path = store.isFile path
  isDirectory (path : FilePath) : other.isDirectory path = store.isDirectory path

/-! ## Replacing an entry -/

private theorem find?_replace (entries : List (Location × FileEntry)) (location other : Location)
    (entry : FileEntry) :
    (entries.map fun (l, e) => if l = location then (l, entry) else (l, e)).find?
        (·.1 = other) =
      (entries.find? (·.1 = other)).map fun (l, e) =>
        if l = location then (l, entry) else (l, e) := by
  induction entries with
  | nil => rfl
  | cons first rest ih =>
    obtain ⟨l, e⟩ := first
    have hname : (if l = location then (l, entry) else (l, e)).1 = l := by split <;> rfl
    rw [List.map_cons, List.find?_cons, List.find?_cons, hname, ih]
    cases decide (l = other) with
    | true => rfl
    | false => rfl

/-- An entry that has been set is found. -/
theorem lookup_set_self {location : Location} (h : isFixed location = false) (store : FileStore)
    (entry : FileEntry) : (store.set location entry).lookup location = some entry := by
  rw [lookup_of_not_isFixed h, set]
  -- An entry at the location is replaced; else one is added in the end.
  cases hfind : store.entries.find? (·.1 = location) with
  | some found =>
    have hname : found.1 = location := by simpa using List.find?_some hfind
    have hany : store.entries.any (·.1 = location) = true :=
      List.any_eq_true.mpr ⟨found, List.mem_of_find?_eq_some hfind, by simpa using hname⟩
    rw [if_pos hany, find?_replace, hfind]
    simp [hname]
  | none =>
    have hany : ¬store.entries.any (·.1 = location) = true := by
      rw [List.any_eq_true]
      rintro ⟨found, hmem, hname⟩
      exact List.find?_eq_none.mp hfind found hmem hname
    rw [if_neg hany, List.find?_append, hfind]
    simp

/-- Every other entry stays. -/
theorem lookup_set_of_ne {location other : Location} (hne : other ≠ location) (store : FileStore)
    (entry : FileEntry) : (store.set location entry).lookup other = store.lookup other := by
  cases hfixed : isFixed other with
  | true => rw [lookup_of_isFixed hfixed, lookup_of_isFixed hfixed]
  | false =>
    rw [lookup_of_not_isFixed hfixed, lookup_of_not_isFixed hfixed, set]
    -- Neither replacing an entry nor adding one is seen at another location.
    by_cases hany : store.entries.any (·.1 = location) = true
    · rw [if_pos hany, find?_replace]
      cases hfound : store.entries.find? (·.1 = other) with
      | none => rfl
      | some found =>
        have hname : found.1 = other := by simpa using List.find?_some hfound
        simp [hname, hne]
    · rw [if_neg hany, List.find?_append]
      simp [hne.symm]

/-! ## Following paths -/

/-- Where names lead depends on the kinds of entries only. -/
theorem walk_congr {store other : FileStore}
    (h : ∀ l, (other.lookup l).map (·.isDirectory) = (store.lookup l).map (·.isDirectory))
    (names : List String) :
    ∀ here, other.walk here names = store.walk here names := by
  induction names with
  | nil => exact fun here => rfl
  | cons name rest ih =>
    intro here
    rw [walk, walk]
    simp only [ih]
    -- A step of the walk asks only whether there is a directory, a file or nothing.
    have hnext := h (here ++ [name])
    cases hs : store.lookup (here ++ [name]) with
    | none =>
      have ho : other.lookup (here ++ [name]) = none := by simpa [hs] using hnext
      simp [ho]
    | some entry =>
      rw [hs] at hnext
      obtain ⟨found, ho, hkind⟩ := Option.map_eq_some_iff.mp hnext
      cases entry <;> cases found <;> simp_all [FileEntry.isDirectory]

/-- Where a path leads depends on the kinds of entries only. -/
theorem locate_congr {store other : FileStore}
    (h : ∀ l, (other.lookup l).map (·.isDirectory) = (store.lookup l).map (·.isDirectory))
    (path : FilePath) : other.locate path = store.locate path := by
  unfold locate
  simp only [walk_congr h]

section Replacement

variable {store : FileStore} {location : Location} {content : ByteArray}

theorem isFixed_of_lookup_file (hfile : store.lookup location = some (.file content)) :
    isFixed location = false := by
  cases h : isFixed location with
  | false => rfl
  | true => simp [lookup_of_isFixed h] at hfile

/-- Replacing the content of a file keeps the kind of every entry. -/
theorem kind_lookup_set_file (hfile : store.lookup location = some (.file content))
    (replacement : ByteArray) (l : Location) :
    ((store.set location (.file replacement)).lookup l).map (·.isDirectory) =
      (store.lookup l).map (·.isDirectory) := by
  have hfixed := isFixed_of_lookup_file hfile
  by_cases hl : l = location
  · rw [hl, lookup_set_self hfixed, hfile]
    rfl
  · rw [lookup_set_of_ne hl]

/-- Replacing the content of a file leaves what every path to another location leads to. -/
theorem find_set_file (hfile : store.lookup location = some (.file content))
    (replacement : ByteArray) {path : FilePath} (hpath : store.locate path ≠ .ok location) :
    (store.set location (.file replacement)).find path = store.find path := by
  have hkinds := kind_lookup_set_file hfile replacement
  unfold find
  rw [locate_congr hkinds]
  cases hlocate : store.locate path with
  | error fault => rfl
  | ok l =>
    -- The path leads to the same place as before, and this is not the file that changes.
    have hl : l ≠ location := fun heq => hpath (heq ▸ hlocate)
    simp only [bind, Except.bind]
    rw [lookup_set_of_ne hl]

/-- Replacing the content of a file keeps all kinds. -/
theorem sameKinds_set_file (hfile : store.lookup location = some (.file content))
    (replacement : ByteArray) : store.SameKinds (store.set location (.file replacement)) := by
  have hfixed := isFixed_of_lookup_file hfile
  -- A path leads to the replaced file before and after, or it finds the same entry.
  have hfind : ∀ path : FilePath,
      (store.set location (.file replacement)).find path = store.find path ∨
      (store.locate path = .ok location ∧
        (store.set location (.file replacement)).locate path = .ok location) := by
    intro path
    by_cases hpath : store.locate path = .ok location
    · exact .inr ⟨hpath, (locate_congr (kind_lookup_set_file hfile replacement) path).trans hpath⟩
    · exact .inl (find_set_file hfile replacement hpath)
  constructor
  · intro path
    rcases hfind path with heq | ⟨hold, hnew⟩
    · rw [isFile, isFile, heq]
    · simp only [isFile, find, hold, hnew, bind, Except.bind, lookup_set_self hfixed, hfile]
      cases endsInSlash path <;> rfl
  · intro path
    rcases hfind path with heq | ⟨hold, hnew⟩
    · rw [isDirectory, isDirectory, heq]
    · simp only [isDirectory, find, hold, hnew, bind, Except.bind, lookup_set_self hfixed, hfile]
      cases endsInSlash path <;> rfl

end Replacement

end FileStore

end RouteRegistrar
