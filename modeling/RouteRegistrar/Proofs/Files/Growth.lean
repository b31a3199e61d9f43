import RouteRegistrar.Proofs.Files.Writing

/-!
# Stores that grow

Writing and creating directories make a store grow: what was a directory or a file stays one, and
nothing changes but the files that are written and directories that had not been there. So a path
that led to a location still leads there, and a file that is not written keeps its text.

From this follows what a list of artifacts leaves behind when all of them could be written: each
artifact can be read back, unless a later one is meant for the same file.
-/

namespace RouteRegistrar

namespace FileStore

variable {store next last : FileStore} {path : FilePath} {location : Location}

/-- A store has grown into another one, where files have been written at some locations. -/
structure Grows (store next : FileStore) (written : List Location) : Prop where
  directory {l : Location} : store.lookup l = some .directory → next.lookup l = some .directory
  file {l : Location} {content : ByteArray} : store.lookup l = some (.file content) →
    ∃ content, next.lookup l = some (.file content)
  entry {l : Location} : l ∉ written → next.lookup l = store.lookup l ∨
    store.lookup l = none ∧ next.lookup l = some .directory

namespace Grows

variable {written more : List Location}

theorem refl (store : FileStore) : Grows store store [] :=
  ⟨id, fun h => ⟨_, h⟩, fun _ => .inl rfl⟩

theorem trans (h : Grows store next written) (hmore : Grows next last more) :
    Grows store last (written ++ more) := by
  constructor
  · intro l hl
    exact hmore.directory (h.directory hl)
  · intro l content hl
    obtain ⟨found, hfound⟩ := h.file hl
    exact hmore.file hfound
  · intro l hl
    rw [List.mem_append, not_or] at hl
    rcases h.entry hl.1 with hsame | ⟨hnone, hcreated⟩
    · -- Only the second growth can have changed the entry.
      rcases hmore.entry hl.2 with hlast | ⟨hnone, hcreated⟩
      · exact .inl (hlast.trans hsame)
      · exact .inr ⟨hsame ▸ hnone, hcreated⟩
    · exact .inr ⟨hnone, hmore.directory hcreated⟩

/-! ### Paths -/

/-- Names still lead where they led. -/
theorem walk (h : Grows store next written) (names : List String) :
    ∀ here, store.walk here names = .ok location → next.walk here names = .ok location := by
  induction names with
  | nil => exact fun here => id
  | cons name rest ih =>
    intro here hwalk
    rw [FileStore.walk] at hwalk ⊢
    split at hwalk
    case isTrue hdot =>
      rw [if_pos hdot]
      exact ih here hwalk
    case isFalse hdot =>
      rw [if_neg hdot]
      split at hwalk
      case isTrue hdots =>
        rw [if_pos hdots]
        exact ih _ hwalk
      case isFalse hdots =>
        rw [if_neg hdots]
        split at hwalk
        case isTrue => cases hwalk
        case isFalse hsize =>
          rw [if_neg hsize]
          cases rest with
          | nil => exact hwalk
          | cons second more =>
            -- A name in front of another one leads to a directory, which has stayed.
            simp only [List.isEmpty_cons, Bool.false_eq_true, if_false] at hwalk ⊢
            split at hwalk
            case h_1 => cases hwalk
            case h_2 => cases hwalk
            case h_3 hnext =>
              rw [h.directory hnext]
              exact ih _ hwalk

/-- A path still leads where it led. -/
theorem locate (h : Grows store next written) (hlocate : store.locate path = .ok location) :
    next.locate path = .ok location := by
  obtain ⟨hnull, hempty, hsize, hwalk⟩ := locate_eq_ok_iff.mp hlocate
  exact locate_eq_ok_iff.mpr ⟨hnull, hempty, hsize, h.walk _ _ hwalk⟩

/-- A file stays one. -/
theorem isFile (h : Grows store next written) (hfile : store.isFile path = true) :
    next.isFile path = true := by
  obtain ⟨location, content, hlocate, hlookup, hslash⟩ := locate_of_isFile hfile
  obtain ⟨found, hfound⟩ := h.file hlookup
  simp [FileStore.isFile, find, h.locate hlocate, hfound, hslash, bind, Except.bind, pure,
    Except.pure]

end Grows

/-! ## Reading -/

/-- A text can be read from a path that leads to a file with this text. -/
theorem readText_eq_ok_iff {text : String} :
    store.readText path = .ok text ↔ ∃ location content, store.locate path = .ok location ∧
      store.lookup location = some (.file content) ∧ endsInSlash path = false ∧
      String.fromUTF8? content = some text := by
  constructor
  · intro h
    obtain ⟨entry, hfind, h⟩ := bind_eq_ok.mp h
    cases entry with
    | directory => cases h
    | file content =>
      have hfile : store.isFile path = true := by simp [isFile, hfind]
      obtain ⟨location, found, hlocate, hlookup, hslash⟩ := locate_of_isFile hfile
      -- `find` goes to the same location, so both contents are one.
      have hsame : found = content := by
        simp [find, hlocate, hlookup, hslash, bind, Except.bind, pure, Except.pure] at hfind
        exact hfind
      subst hsame
      refine ⟨location, found, hlocate, hlookup, hslash, ?_⟩
      cases hdecode : String.fromUTF8? found with
      | none => simp [hdecode] at h
      | some decoded => simpa [hdecode, pure, Except.pure] using h
  · rintro ⟨location, content, hlocate, hlookup, hslash, hdecode⟩
    simp [readText, find, hlocate, hlookup, hslash, hdecode, bind, Except.bind, pure, Except.pure]

/-- Paths to one file are read alike. -/
theorem readText_congr {other : FilePath} (hlocate : store.locate path = store.locate other)
    (hslash : endsInSlash path = endsInSlash other) :
    store.readText path = store.readText other := by
  rw [readText, readText, find, find, hlocate, hslash]

/-- A file that is not written keeps its text. -/
theorem Grows.readText {written : List Location} {text : String} (h : Grows store next written)
    (hread : store.readText path = .ok text) (hlocate : store.locate path = .ok location)
    (hwritten : location ∉ written) : next.readText path = .ok text := by
  obtain ⟨found, content, hfound, hlookup, hslash, hdecode⟩ := readText_eq_ok_iff.mp hread
  rw [hlocate] at hfound
  cases hfound
  refine readText_eq_ok_iff.mpr ⟨location, content, h.locate hlocate, ?_, hslash, hdecode⟩
  -- The location was not written, and a new directory needs a free place.
  rcases h.entry hwritten with hsame | ⟨hnone, -⟩
  · rw [hsame, hlookup]
  · rw [hlookup] at hnone
    cases hnone

/-! ## Operations -/

/-- Creating a directory makes a store grow. -/
theorem grows_createDirectory (h : store.createDirectory path = .ok next) :
    Grows store next [] := by
  obtain ⟨created, hnone, rfl⟩ := createDirectory_eq_ok h
  -- The new directory is where nothing was, so no entry is replaced.
  have hfixed : isFixed created = false := by
    apply isFixed_of_lookup_ne
    rw [hnone]
    exact nofun
  constructor
  · intro l hl
    have hne : l ≠ created := by
      rintro rfl
      rw [hnone] at hl
      cases hl
    rw [lookup_set_of_ne hne, hl]
  · intro l content hl
    have hne : l ≠ created := by
      rintro rfl
      rw [hnone] at hl
      cases hl
    exact ⟨content, by rw [lookup_set_of_ne hne, hl]⟩
  · intro l _
    by_cases hl : l = created
    · subst hl
      exact .inr ⟨hnone, lookup_set_self hfixed store _⟩
    · exact .inl (lookup_set_of_ne hl store _)

/-- Creating directories makes a store grow, however it ends. -/
theorem grows_createDirectories (store : FileStore) (path : FilePath) :
    Grows store (store.createDirectories path).1 [] :=
  createDirectoriesWithin_induction (R := (Grows · · [])) Grows.refl Grows.trans
    grows_createDirectory store _ path

/-- Writing a file makes a store grow. -/
theorem grows_writeText {text : String} (h : store.writeText path text = .ok (next, location)) :
    Grows store next [location] := by
  obtain ⟨-, hlookup, -, rfl⟩ := writeText_eq_ok h
  constructor
  · intro l hl
    -- Where a directory is nothing is written.
    have hne : l ≠ location := by
      rintro rfl
      exact hlookup hl
    rw [lookup_set_of_ne hne, hl]
  · intro l content hl
    by_cases hsame : l = location
    · subst hsame
      exact ⟨text.toUTF8, lookup_set_self (isFixed_of_lookup_ne hlookup) store _⟩
    · exact ⟨content, by rw [lookup_set_of_ne hsame, hl]⟩
  · intro l hl
    exact .inl (lookup_set_of_ne (List.ne_of_not_mem_cons hl) store _)

/-- A file can be written where no directory is. -/
theorem writeText_of_locate (hlocate : store.locate path = .ok location)
    (hlookup : store.lookup location ≠ some .directory) (hslash : endsInSlash path = false)
    (text : String) :
    store.writeText path text = .ok (store.set location (.file text.toUTF8), location) := by
  rw [writeText, hlocate]
  simp only [hslash, Bool.false_and, Bool.false_eq_true, if_false, bind, Except.bind]
  rfl

/-- What has been written can be read. -/
theorem readText_writeText {text : String}
    (h : store.writeText path text = .ok (next, location)) :
    next.readText path = .ok text ∧ next.locate path = .ok location := by
  have hlocate := (grows_writeText h).locate (writeText_eq_ok h).1
  obtain ⟨-, hlookup, hslash, rfl⟩ := writeText_eq_ok h
  have hfile := lookup_set_self (isFixed_of_lookup_ne hlookup) store (.file text.toUTF8)
  have hends := endsInSlash_of_locate hlocate hfile hslash
  exact ⟨readText_eq_ok_iff.mpr
    ⟨location, text.toUTF8, hlocate, hfile, hends, fromUTF8?_toByteArray text⟩, hlocate⟩

theorem holds_iff {text : String} :
    store.holds path text = true ↔ store.readText path = .ok text := by
  rw [holds]
  cases store.readText path with
  | error fault => simp
  | ok found => simp

end FileStore

/-! ## Artifacts -/

/-- Where an artifact is written. -/
abbrev Artifact.pathIn (artifact : Artifact) (directory : FilePath) : FilePath :=
  directory.join ⟨artifact.name⟩

namespace FileStore

variable {store : FileStore} {location : Location}

/-- Writing artifacts writes the first one, unless it is up to date, and then the others. -/
theorem writeArtifacts_cons_cases (store : FileStore) (directory : FilePath) (artifact : Artifact)
    (rest : List Artifact) :
    (∃ failure, store.writeArtifacts directory (artifact :: rest) = ⟨store, [], .error failure⟩) ∨
    ∃ next location written, Grows store next written ∧ written ⊆ [location] ∧
      next.locate (artifact.pathIn directory) = .ok location ∧
      next.readText (artifact.pathIn directory) = .ok artifact.text ∧
      store.writeArtifacts directory (artifact :: rest) =
        { next.writeArtifacts directory rest with
          written := written ++ (next.writeArtifacts directory rest).written } := by
  rw [writeArtifacts]
  split
  case isTrue hholds =>
    -- An artifact that is up to date is read from where it is, and nothing is written.
    have hread := holds_iff.mp hholds
    obtain ⟨location, -, hlocate, -⟩ := readText_eq_ok_iff.mp hread
    exact .inr ⟨store, location, [], .refl store, List.nil_subset _, hlocate, hread, rfl⟩
  case isFalse =>
    split
    case h_1 fault hwrite => exact .inl ⟨_, rfl⟩
    case h_2 next location hwrite =>
      obtain ⟨hread, hlocate⟩ := readText_writeText hwrite
      exact .inr ⟨next, location, [location], grows_writeText hwrite, List.Subset.refl _, hlocate,
        hread, rfl⟩

/-- Writing artifacts makes a store grow, however it ends. -/
theorem grows_writeArtifacts (directory : FilePath) (artifacts : List Artifact) :
    ∀ store : FileStore, Grows store (store.writeArtifacts directory artifacts).store
      (store.writeArtifacts directory artifacts).written := by
  induction artifacts with
  | nil => exact fun store => .refl store
  | cons artifact rest ih =>
    intro store
    -- By induction over the artifacts, for every store: each step grows it and leaves the rest.
    rcases writeArtifacts_cons_cases store directory artifact rest with
      ⟨failure, heq⟩ | ⟨next, _, written, hgrows, -, -, -, heq⟩
    · rw [heq]
      exact .refl store
    · rw [heq]
      exact hgrows.trans (ih next)

/-- Nothing is written but artifacts at their places. -/
theorem exists_artifact_of_mem_written (directory : FilePath) (artifacts : List Artifact) :
    ∀ store : FileStore, location ∈ (store.writeArtifacts directory artifacts).written →
      ∃ artifact ∈ artifacts, (store.writeArtifacts directory artifacts).store.locate
        (artifact.pathIn directory) = .ok location := by
  induction artifacts with
  | nil => exact fun _ => nofun
  | cons artifact rest ih =>
    intro store hmem
    rcases writeArtifacts_cons_cases store directory artifact rest with
      ⟨failure, heq⟩ | ⟨next, first, written, -, hfirst, hlocate, -, heq⟩
    · rw [heq] at hmem
      cases hmem
    · rw [heq] at hmem ⊢
      rcases List.mem_append.mp hmem with hwritten | hrest
      · -- What the others do leaves the first artifact where it is.
        have hlast := (grows_writeArtifacts directory rest next).locate hlocate
        cases List.mem_singleton.mp (hfirst hwritten)
        exact ⟨artifact, List.mem_cons_self, hlast⟩
      · obtain ⟨other, hother, hplace⟩ := ih next hrest
        exact ⟨other, List.mem_cons_of_mem _ hother, hplace⟩

/-- Artifacts can be written if no directory is in their places. -/
theorem writeArtifacts_ok {directory : FilePath} {artifacts : List Artifact} :
    ∀ {store : FileStore}, (∀ artifact ∈ artifacts, ∃ location,
      store.locate (artifact.pathIn directory) = .ok location ∧
      store.lookup location ≠ some .directory ∧
      endsInSlash (artifact.pathIn directory) = false) →
    (store.writeArtifacts directory artifacts).result = .ok () := by
  induction artifacts with
  | nil => exact fun _ => rfl
  | cons artifact rest ih =>
    intro store hplaces
    obtain ⟨location, hlocate, hlookup, hslash⟩ := hplaces artifact List.mem_cons_self
    have hrest := fun other hother => hplaces other (List.mem_cons_of_mem _ hother)
    have hwrite := writeText_of_locate hlocate hlookup hslash artifact.text
    rw [writeArtifacts]
    split
    case isTrue => exact ih hrest
    case isFalse =>
      simp only [hwrite]
      apply ih
      intro other hother
      obtain ⟨place, hplace, hfree, hends⟩ := hrest other hother
      refine ⟨place, (grows_writeText hwrite).locate hplace, ?_, hends⟩
      -- The artifact has become a file, and no directory has been added.
      by_cases hsame : place = location
      · rw [hsame, lookup_set_self (isFixed_of_lookup_ne hlookup)]
        simp
      · rwa [lookup_set_of_ne hsame]

/-- Once all artifacts have been written, each of them has a place. -/
theorem exists_locate_of_writeArtifacts (directory : FilePath) (artifacts : List Artifact) :
    ∀ store : FileStore, (store.writeArtifacts directory artifacts).result = .ok () →
      ∀ artifact ∈ artifacts, endsInSlash (artifact.pathIn directory) = false ∧
        ∃ location, (store.writeArtifacts directory artifacts).store.locate
          (artifact.pathIn directory) = .ok location := by
  induction artifacts with
  | nil => exact fun _ _ => nofun
  | cons first rest ih =>
    intro store hok artifact hmem
    rcases writeArtifacts_cons_cases store directory first rest with
      ⟨failure, heq⟩ | ⟨next, location, written, -, -, hlocate, hread, heq⟩
    · rw [heq] at hok
      cases hok
    · rw [heq] at hok ⊢
      rcases List.mem_cons.mp hmem with rfl | hrest
      · -- The rest of the artifacts adds files only, so the path leads to the same location.
        obtain ⟨_, _, -, -, hslash, -⟩ := readText_eq_ok_iff.mp hread
        exact ⟨hslash, location, (grows_writeArtifacts directory rest next).locate hlocate⟩
      · exact ih next hok artifact hrest

/-- **The last artifact for a file can be read back** once all of them have been written. -/
theorem readText_writeArtifacts {directory : FilePath} {artifact : Artifact}
    (before : List Artifact) {after : List Artifact} :
    ∀ {store : FileStore},
      (store.writeArtifacts directory (before ++ artifact :: after)).result = .ok () →
      (∀ later ∈ after,
        (store.writeArtifacts directory (before ++ artifact :: after)).store.locate
            (later.pathIn directory) ≠
          (store.writeArtifacts directory (before ++ artifact :: after)).store.locate
            (artifact.pathIn directory)) →
      (store.writeArtifacts directory (before ++ artifact :: after)).store.readText
        (artifact.pathIn directory) = .ok artifact.text := by
  induction before with
  | nil =>
    intro store hok hlater
    rw [List.nil_append] at hok hlater ⊢
    rcases writeArtifacts_cons_cases store directory artifact after with
      ⟨failure, heq⟩ | ⟨next, location, written, -, -, hlocate, hread, heq⟩
    · rw [heq] at hok
      cases hok
    · rw [heq] at hlater ⊢
      have hgrows := grows_writeArtifacts directory after next
      refine hgrows.readText hread hlocate fun hmem => ?_
      -- Something written at this place would be a later artifact.
      obtain ⟨later, hmem, hplace⟩ := exists_artifact_of_mem_written directory after next hmem
      exact hlater later hmem (hplace.trans (hgrows.locate hlocate).symm)
  | cons first rest ih =>
    intro store hok hlater
    rw [List.cons_append] at hok hlater ⊢
    rcases writeArtifacts_cons_cases store directory first (rest ++ artifact :: after) with
      ⟨failure, heq⟩ | ⟨next, _, written, -, -, -, -, heq⟩
    · rw [heq] at hok
      cases hok
    · rw [heq] at hok hlater ⊢
      exact ih hok hlater

end FileStore

end RouteRegistrar
