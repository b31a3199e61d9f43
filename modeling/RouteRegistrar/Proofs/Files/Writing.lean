import RouteRegistrar.Files.Output
import RouteRegistrar.Proofs.Files.Kinds

/-!
# What writing changes

Creating directories changes no file, and writing an artifact changes one: the file that its path
leads to, which did not hold its text before. So the files that a pass changes are those where it
writes something.

A pass that fails before its artifacts are written changes no file. But the artifacts are written
one after the other, and what has been written before a fault stays. Hence a failed pass is not all
or nothing: it changes a file exactly if it stops half way, between its two artifacts.
-/

namespace RouteRegistrar

namespace FileStore

variable {store next : FileStore} {path : FilePath} {location : Location}

/-- The content of the file at a location, if there is one. -/
def fileAt? (store : FileStore) (location : Location) : Option ByteArray :=
  match store.lookup location with
  | some (.file content) => some content
  | _ => none

theorem fileAt?_congr {other : FileStore} (h : next.lookup location = other.lookup location) :
    next.fileAt? location = other.fileAt? location := by
  rw [fileAt?, fileAt?, h]

/-! ## Directories -/

/-- A directory is created where there is nothing. -/
theorem createDirectory_eq_ok (h : store.createDirectory path = .ok next) :
    ∃ location, store.lookup location = none ∧ next = store.set location .directory := by
  obtain ⟨location, -, hnext⟩ := bind_eq_ok.mp h
  refine ⟨location, ?_⟩
  split at hnext
  case h_1 => cases hnext
  case h_2 hlookup => exact ⟨hlookup, (Except.ok.inj hnext).symm⟩

/-- Creating a directory changes no file. -/
theorem fileAt?_createDirectory (h : store.createDirectory path = .ok next)
    (location : Location) : next.fileAt? location = store.fileAt? location := by
  obtain ⟨created, hnone, rfl⟩ := createDirectory_eq_ok h
  -- Where the directory is created there was nothing, so there is no file before or after.
  by_cases hl : location = created
  · subst hl
    have hfixed : isFixed location = false := by
      cases hfixed : isFixed location with
      | false => rfl
      | true => rw [lookup_of_isFixed hfixed] at hnone; cases hnone
    rw [fileAt?, fileAt?, hnone, lookup_set_self hfixed]
  · exact fileAt?_congr (lookup_set_of_ne hl store _)

/-- What composes and holds of every created directory holds of the store that is left by creating
directories, however that ends. -/
theorem createDirectoriesWithin_induction {R : FileStore → FileStore → Prop}
    (hrefl : ∀ store, R store store)
    (htrans : ∀ {store next last}, R store next → R next last → R store last)
    (hstep : ∀ {store next path}, createDirectory store path = .ok next → R store next)
    (store : FileStore) (fuel : Nat) :
    ∀ path : FilePath, R store (store.createDirectoriesWithin fuel path).1 := by
  induction fuel with
  | zero => exact fun _ => hrefl store
  | succ fuel ih =>
    intro path
    rw [createDirectoriesWithin]
    split
    case isTrue => exact hrefl store
    case isFalse =>
      split
      case h_1 created hcreated => exact hstep hcreated
      case h_2 =>
        split
        case h_1 => exact hrefl store
        case h_2 parent _ =>
          -- What encloses the directory has been created first, as far as possible.
          have habove := ih parent
          split
          case h_1 above fault heq => rwa [heq] at habove
          case h_2 above heq =>
            rw [heq] at habove
            split
            case h_1 created hcreated => exact htrans habove (hstep hcreated)
            case h_2 => exact habove
      case h_3 => exact hrefl store

/-- Creating directories changes no file, however it ends. -/
theorem fileAt?_createDirectories (store : FileStore) (path : FilePath) (location : Location) :
    (store.createDirectories path).1.fileAt? location = store.fileAt? location := by
  apply createDirectoriesWithin_induction (R := fun store next =>
    next.fileAt? location = store.fileAt? location)
  · exact fun _ => rfl
  · exact fun hnext hlast => hlast.trans hnext
  · exact fun h => fileAt?_createDirectory h location

/-! ## Files -/

/-- A file is written where the path leads to, unless there is a directory. A slash at the end of
the path is accepted only behind dots and for the root. -/
theorem writeText_eq_ok {text : String} (h : store.writeText path text = .ok (next, location)) :
    store.locate path = .ok location ∧ store.lookup location ≠ some .directory ∧
      (endsInSlash path = true → endsInDots path = true ∨ path.text = "/") ∧
      next = store.set location (.file text.toUTF8) := by
  obtain ⟨found, hlocate, h⟩ := bind_eq_ok.mp h
  -- A path that ends in a slash names a directory, unless it ends in dots or is the root.
  by_cases hends : (endsInSlash path && !endsInDots path && decide (path.text ≠ "/")) = true
  · simp only [hends, if_true] at h
    cases h
  · have hslash : endsInSlash path = true → endsInDots path = true ∨ path.text = "/" := by
      intro hpath
      rw [Bool.not_eq_true] at hends
      cases hdots : endsInDots path with
      | true => exact .inl rfl
      | false => exact .inr (by simpa [hpath, hdots] using hends)
    simp only [hends, Bool.false_eq_true, if_false] at h
    split at h
    case h_1 => cases h
    case h_2 hlookup =>
      cases h
      exact ⟨hlocate, hlookup, hslash, rfl⟩

/-- A location that is no directory may become a file. -/
theorem isFixed_of_lookup_ne (h : store.lookup location ≠ some .directory) :
    isFixed location = false := by
  cases hfixed : isFixed location with
  | false => rfl
  | true => exact absurd (lookup_of_isFixed hfixed) h

/-- Writing gives the file its text. -/
theorem fileAt?_writeText_self {text : String}
    (h : store.writeText path text = .ok (next, location)) :
    next.fileAt? location = some text.toUTF8 := by
  obtain ⟨-, hlookup, -, rfl⟩ := writeText_eq_ok h
  rw [fileAt?, lookup_set_self (isFixed_of_lookup_ne hlookup)]

/-- Writing changes no other file. -/
theorem fileAt?_writeText_of_ne {text : String}
    (h : store.writeText path text = .ok (next, location)) {other : Location}
    (hne : other ≠ location) : next.fileAt? other = store.fileAt? other := by
  obtain ⟨-, -, -, rfl⟩ := writeText_eq_ok h
  exact fileAt?_congr (lookup_set_of_ne hne store _)

/-- A path that leads to a file ends in no dots. -/
theorem endsInDots_of_locate {content : ByteArray} (hlocate : store.locate path = .ok location)
    (hlookup : store.lookup location = some (.file content)) : endsInDots path = false := by
  obtain ⟨-, -, hwalk⟩ := walk_of_locate hlocate
  have hstart : isFixed (if path.isAbsolute then ["/"] else []) = true := by split <;> rfl
  obtain ⟨name, hlast, hdot, hdots⟩ :=
    getLast?_of_walk_file hlookup (.of_isFixed hstart) hwalk
  simp [endsInDots, hlast, hdot, hdots]

/-- A path that could be written and leads to a file ends in no slash. -/
theorem endsInSlash_of_locate {content : ByteArray} (hlocate : store.locate path = .ok location)
    (hlookup : store.lookup location = some (.file content))
    (hslash : endsInSlash path = true → endsInDots path = true ∨ path.text = "/") :
    endsInSlash path = false := by
  cases hends : endsInSlash path with
  | false => rfl
  | true =>
    -- Dots in the end and the root lead to directories, but there is a file here.
    rcases hslash hends with hdots | hroot
    · rw [endsInDots_of_locate hlocate hlookup] at hdots
      cases hdots
    · have hpath : path = ⟨"/"⟩ := congrArg FilePath.mk hroot
      have hlocation : store.locate ⟨"/"⟩ = .ok ["/"] := rfl
      rw [hpath, hlocation] at hlocate
      cases hlocate
      cases hlookup

/-- The bytes of a text are read as that text. -/
theorem fromUTF8?_toByteArray (text : String) : String.fromUTF8? text.toByteArray = some text := by
  rw [String.fromUTF8?, dif_pos text.isValidUTF8]
  rfl

/-- A file that is written did not hold the text, so its content changes. -/
theorem fileAt?_ne_of_holds {text : String} (hholds : store.holds path text = false)
    (h : store.writeText path text = .ok (next, location)) :
    store.fileAt? location ≠ some text.toUTF8 := by
  obtain ⟨hlocate, -, hslash, -⟩ := writeText_eq_ok h
  intro hfile
  -- If the file held the text already, it could be read and nothing would be written.
  have hlookup : store.lookup location = some (.file text.toUTF8) := by
    unfold fileAt? at hfile
    split at hfile
    case h_1 content hlookup => rw [hlookup, Option.some.inj hfile]
    case h_2 => cases hfile
  have hends := endsInSlash_of_locate hlocate hlookup hslash
  have hread : store.readText path = .ok text := by
    simp [readText, find, hlocate, hlookup, hends, bind, Except.bind, pure, Except.pure,
      fromUTF8?_toByteArray]
  rw [holds, hread] at hholds
  simp at hholds

/-! ## Artifacts -/

/-- Writing two artifacts stops half way: the first one is written at `location`, which leaves
`next`, and the second one cannot be written. -/
structure StopsBetween (store : FileStore) (directory : FilePath) (first second : Artifact)
    (next : FileStore) (location : Location) : Prop where
  isNew : store.holds (directory.join ⟨first.name⟩) first.text = false
  writes : store.writeText (directory.join ⟨first.name⟩) first.text = .ok (next, location)
  isNewBehind : next.holds (directory.join ⟨second.name⟩) second.text = false
  stops : ∃ fault, next.writeText (directory.join ⟨second.name⟩) second.text = .error fault

/-- A failure to write one artifact changes nothing. -/
theorem writeArtifacts_singleton_error {directory : FilePath} {artifact : Artifact}
    {failure : Failure} (h : (store.writeArtifacts directory [artifact]).result = .error failure) :
    store.writeArtifacts directory [artifact] = ⟨store, [], .error failure⟩ ∧
      store.holds (directory.join ⟨artifact.name⟩) artifact.text = false ∧
      ∃ fault, store.writeText (directory.join ⟨artifact.name⟩) artifact.text = .error fault := by
  -- One artifact fails only if it is not up to date and cannot be written.
  cases hholds : store.holds (directory.join ⟨artifact.name⟩) artifact.text with
  | true =>
    simp only [writeArtifacts, hholds, if_true] at h
    cases h
  | false =>
    cases hwrite : store.writeText (directory.join ⟨artifact.name⟩) artifact.text with
    | ok found =>
      simp only [writeArtifacts, hholds, hwrite] at h
      cases h
    | error fault =>
      simp only [writeArtifacts, hholds, hwrite, Bool.false_eq_true, if_false] at h ⊢
      cases h
      exact ⟨rfl, trivial, fault, rfl⟩

/-- A failure to write two artifacts either changes nothing, or it stops half way. -/
theorem writeArtifacts_pair_error {directory : FilePath} {first second : Artifact}
    {failure : Failure}
    (h : (store.writeArtifacts directory [first, second]).result = .error failure) :
    (store.writeArtifacts directory [first, second] = ⟨store, [], .error failure⟩ ∧
      ∀ next location, ¬store.StopsBetween directory first second next location) ∨
    ∃ next location, store.StopsBetween directory first second next location ∧
      store.writeArtifacts directory [first, second] = ⟨next, [location], .error failure⟩ := by
  cases hholds : store.holds (directory.join ⟨first.name⟩) first.text with
  | true =>
    -- The first artifact is up to date, so only the second one can fail.
    have hrest : store.writeArtifacts directory [first, second] =
        store.writeArtifacts directory [second] := by
      rw [writeArtifacts]
      simp only [hholds, if_true]
    rw [hrest] at h ⊢
    refine .inl ⟨(writeArtifacts_singleton_error h).1, fun _ _ hstops => ?_⟩
    rw [hstops.isNew] at hholds
    cases hholds
  | false =>
    cases hwrite : store.writeText (directory.join ⟨first.name⟩) first.text with
    | error fault =>
      -- The first artifact cannot be written, so the second one is not tried.
      have hall : store.writeArtifacts directory [first, second] =
          ⟨store, [], .error (.file (directory.join ⟨first.name⟩).text fault)⟩ := by
        rw [writeArtifacts]
        simp only [hholds, hwrite, Bool.false_eq_true, if_false]
      rw [hall] at h ⊢
      cases h
      refine .inl ⟨rfl, fun _ _ hstops => ?_⟩
      rw [hstops.writes] at hwrite
      cases hwrite
    | ok found =>
      obtain ⟨next, location⟩ := found
      -- The first artifact is written, so it is the second one that fails.
      have hall : store.writeArtifacts directory [first, second] =
          { next.writeArtifacts directory [second] with
            written := location :: (next.writeArtifacts directory [second]).written } := by
        rw [writeArtifacts]
        simp only [hholds, hwrite, Bool.false_eq_true, if_false]
      rw [hall] at h ⊢
      obtain ⟨hrest, hnew, hfault⟩ := writeArtifacts_singleton_error h
      refine .inr ⟨next, location, ⟨hholds, hwrite, hnew, hfault⟩, ?_⟩
      rw [hrest]

/-- Writing two artifacts stops half way at one location only. -/
theorem StopsBetween.location_eq {directory : FilePath} {first second : Artifact}
    {after : FileStore} {other : Location}
    (h : store.StopsBetween directory first second next location)
    (hother : store.StopsBetween directory first second after other) : other = location := by
  have hsame := hother.writes.symm.trans h.writes
  cases hsame
  rfl

/-- A failure to write two artifacts changes the file at a location exactly if it stops half way
there. -/
theorem fileAt?_writeArtifacts_pair_eq_iff {directory : FilePath} {first second : Artifact}
    {failure : Failure}
    (h : (store.writeArtifacts directory [first, second]).result = .error failure) :
    (∀ location,
      (store.writeArtifacts directory [first, second]).store.fileAt? location =
          store.fileAt? location ↔
        ¬∃ next, store.StopsBetween directory first second next location) ∧
    ∀ location, (∃ next, store.StopsBetween directory first second next location) →
      (store.writeArtifacts directory [first, second]).written = [location] := by
  -- Either nothing is written and nothing stops half way, or one file is.
  rcases writeArtifacts_pair_error h with ⟨hall, hnever⟩ | ⟨next, location, hstops, hall⟩
  · have hnot : ∀ location, ¬∃ next, store.StopsBetween directory first second next location :=
      fun location ⟨next, hstops⟩ => hnever next location hstops
    rw [hall]
    exact ⟨fun location => iff_of_true rfl (hnot location),
      fun location hstops => absurd hstops (hnot location)⟩
  · rw [hall]
    constructor
    · intro other
      constructor
      · rintro hsame ⟨after, hother⟩
        -- The first artifact is new there, and now the file holds its text.
        rw [hstops.location_eq hother, fileAt?_writeText_self hstops.writes] at hsame
        exact fileAt?_ne_of_holds hstops.isNew hstops.writes hsame.symm
      · intro hnot
        -- Elsewhere the one file that was written makes no difference.
        have hne : other ≠ location := fun heq => hnot ⟨next, heq ▸ hstops⟩
        exact fileAt?_writeText_of_ne hstops.writes hne
    · rintro other ⟨after, hother⟩
      rw [hstops.location_eq hother]

end FileStore

/-! ## Passes -/

/-- A pass generates two artifacts. -/
theorem Program.generate_eq_ok {program : Program} {settings : Settings}
    {token : CancellationToken} {artifacts : List Artifact}
    (h : program.generate settings token = .ok artifacts) :
    ∃ definitions registrations, artifacts = [definitions, registrations] := by
  -- Every step of a pass may fail; the last one gives the two artifacts.
  unfold generate at h
  cases hentry : program.entryPoint with
  | none =>
    rw [hentry] at h
    cases h
  | some found =>
    rw [hentry] at h
    obtain ⟨entryPoint, -, h⟩ := bind_eq_ok.mp h
    obtain ⟨-, -, h⟩ := bind_eq_ok.mp h
    obtain ⟨definitions, -, h⟩ := bind_eq_ok.mp h
    obtain ⟨plan, -, h⟩ := bind_eq_ok.mp h
    obtain ⟨-, -, h⟩ := bind_eq_ok.mp h
    obtain ⟨registrations, -, h⟩ := bind_eq_ok.mp h
    obtain ⟨-, -, h⟩ := bind_eq_ok.mp h
    exact ⟨definitions, registrations, (Except.ok.inj h).symm⟩

namespace FileStore

variable {store : FileStore} {location : Location}

/-- A pass stops half way: it has written its first artifact at `location`, and it cannot write the
second one. -/
def StopsHalfway (store : FileStore) (directory : FilePath) (program : Program)
    (settings : Settings) (token : CancellationToken) (location : Location) : Prop :=
  ∃ definitions registrations created next,
    program.generate settings token = .ok [definitions, registrations] ∧
    store.createDirectories directory = (created, .ok ()) ∧
    created.StopsBetween directory definitions registrations next location

/-- If no artifacts are generated, a pass does not stop half way. -/
theorem not_stopsHalfway_of_generate_error {directory : FilePath} {program : Program}
    {settings : Settings} {token : CancellationToken} {fault : Failure}
    (h : program.generate settings token = .error fault) (location : Location) :
    ¬store.StopsHalfway directory program settings token location := by
  rintro ⟨_, _, _, _, hgenerate, _⟩
  rw [h] at hgenerate
  cases hgenerate

/-- If the directory cannot be created, a pass does not stop half way. -/
theorem not_stopsHalfway_of_createDirectories_error {directory : FilePath} {program : Program}
    {settings : Settings} {token : CancellationToken} {created : FileStore} {fault : FileFault}
    (h : store.createDirectories directory = (created, .error fault)) (location : Location) :
    ¬store.StopsHalfway directory program settings token location := by
  rintro ⟨_, _, _, _, _, hcreate, _⟩
  rw [h] at hcreate
  cases hcreate

/-- With artifacts and a directory, stopping half way is a matter of writing the artifacts. -/
theorem stopsHalfway_iff {directory : FilePath} {program : Program} {settings : Settings}
    {token : CancellationToken} {definitions registrations : Artifact} {created : FileStore}
    (hgenerate : program.generate settings token = .ok [definitions, registrations])
    (hcreate : store.createDirectories directory = (created, .ok ())) :
    store.StopsHalfway directory program settings token location ↔
      ∃ next, created.StopsBetween directory definitions registrations next location := by
  constructor
  · rintro ⟨_, _, _, next, hok, hcreated, hstops⟩
    -- Artifacts and directory are determined by the program and the store.
    rw [hgenerate] at hok
    rw [hcreate] at hcreated
    cases hok
    cases hcreated
    exact ⟨next, hstops⟩
  · rintro ⟨next, hstops⟩
    exact ⟨definitions, registrations, created, next, hgenerate, hcreate, hstops⟩

/-- **A failed pass is not all or nothing**: it changes the file at a location exactly if it stops
half way there, and then this is the only file that it writes. If the artifacts cannot be generated,
be it for a missing entry point or a cancellation, the store stays as it was. -/
theorem fileAt?_runInto_eq_iff {directory : FilePath} {program : Program} {settings : Settings}
    {token : CancellationToken} {failure : Failure}
    (h : (store.runInto directory program settings token).result = .error failure) :
    let out := store.runInto directory program settings token
    (∀ location, out.store.fileAt? location = store.fileAt? location ↔
      ¬store.StopsHalfway directory program settings token location) ∧
    (∀ location, store.StopsHalfway directory program settings token location →
      out.written = [location]) ∧
    (∀ fault, program.generate settings token = .error fault → out.store = store) := by
  -- A pass can fail in three places: it generates, creates the directory, writes the artifacts.
  cases hgenerate : program.generate settings token with
  | error fault =>
    -- Without artifacts the store is not touched at all.
    have hnever : ∀ location, ¬store.StopsHalfway directory program settings token location :=
      not_stopsHalfway_of_generate_error hgenerate
    have hout : store.runInto directory program settings token = ⟨store, [], .error fault⟩ := by
      simp only [runInto, hgenerate]
    rw [hout]
    exact ⟨fun location => iff_of_true rfl (hnever location),
      fun location hstops => absurd hstops (hnever location), fun _ _ => rfl⟩
  | ok artifacts =>
    obtain ⟨definitions, registrations, rfl⟩ := Program.generate_eq_ok hgenerate
    have hfiles := fileAt?_createDirectories store directory
    rcases hcreate : store.createDirectories directory with ⟨created, fault | done⟩
    case error =>
      -- Directories may have been created, but they are no files.
      have hnever : ∀ location, ¬store.StopsHalfway directory program settings token location :=
        not_stopsHalfway_of_createDirectories_error hcreate
      rw [hcreate] at hfiles
      simp only [runInto, hgenerate, addArtifacts, hcreate]
      exact ⟨fun location => iff_of_true (hfiles location) (hnever location),
        fun location hstops => absurd hstops (hnever location), nofun⟩
    case ok =>
      rw [hcreate] at hfiles
      simp only [runInto, hgenerate, addArtifacts, hcreate] at h ⊢
      -- Only here can a file change: the first artifact is written and the second one fails.
      obtain ⟨hchanged, hwritten⟩ := fileAt?_writeArtifacts_pair_eq_iff h
      refine ⟨fun location => ?_, fun location hstops => ?_, nofun⟩
      · -- Creating the directory has changed no file.
        rw [stopsHalfway_iff hgenerate hcreate, ← hfiles location]
        exact hchanged location
      · exact hwritten location ((stopsHalfway_iff hgenerate hcreate).mp hstops)

/-- The second artifact is meant for a directory that does not exist: the pass fails, and the first
artifact has been written. -/
theorem fileAt?_runInto_of_missing_directory :
    let program : Program := .empty (some ⟨"main", "crate"⟩)
    let settings : Settings := { Settings.default with
      registrationsArtifact := "routes/registrations.rs" }
    let out := FileStore.empty.runInto ⟨"out"⟩ program settings .never
    out.result = .error (.file "out/routes/registrations.rs" .notFound) ∧
      out.written = [["out", "attributes.rs"]] ∧
      FileStore.empty.StopsHalfway ⟨"out"⟩ program settings .never ["out", "attributes.rs"] := by
  intro program settings out
  have hresult : out.result = .error (.file "out/routes/registrations.rs" .notFound) :=
    eq_error_of_failure? (by decide +kernel)
  have hfile : out.store.fileAt? ["out", "attributes.rs"] ≠ none := by decide +kernel
  obtain ⟨hchanged, hwritten, -⟩ := fileAt?_runInto_eq_iff hresult
  -- The first artifact is there although the pass failed, so by the theorem it stopped half way.
  have hstops : FileStore.empty.StopsHalfway ⟨"out"⟩ program settings .never
      ["out", "attributes.rs"] :=
    Classical.byContradiction fun hnot => hfile ((hchanged _).mpr hnot)
  exact ⟨hresult, hwritten _ hstops, hstops⟩

end FileStore

end RouteRegistrar
