import RouteRegistrar.Proofs.Files.Reading

/-!
# Writing again

A file with a plain name lies directly in its directory, wherever the path of the directory leads.
So two plain names that differ are two places, and artifacts with such names are all there once
they have been written.

Writing them again in the store that the first pass has left changes nothing: the directory exists,
and each file holds its text.
-/

namespace RouteRegistrar

/-! ## Plain names -/

namespace Text

theorem splitOn_of_not_mem {sep : Char} {text : List Char} (h : sep ∉ text) :
    splitOn sep text = [text] := by
  induction text with
  | nil => rfl
  | cons c rest ih =>
    obtain ⟨hc, hrest⟩ := List.ne_and_not_mem_of_not_mem_cons h
    rw [splitOn, if_neg (Ne.symm hc), ih hrest]

/-- A separator ends the parts in front of it. -/
theorem splitOn_append_cons (sep : Char) (text rest : List Char) :
    splitOn sep (text ++ sep :: rest) = splitOn sep text ++ splitOn sep rest := by
  induction text with
  | nil => simp [splitOn]
  | cons c more ih =>
    by_cases hc : c = sep
    · simp [splitOn, hc, ih]
    · obtain ⟨first, parts, hmore⟩ := List.exists_cons_of_ne_nil (splitOn_ne_nil sep more)
      simp [splitOn, hc, ih, hmore]

end Text

/-- The name of a file in a directory: one component that is followed as it stands. -/
structure IsPlainName (name : String) : Prop where
  nonempty : name ≠ ""
  noSlash : '/' ∉ name.toList
  notDot : name ≠ "."
  notDots : name ≠ ".."

namespace FilePath

variable {directory : FilePath} {name : String}

/-- A plain name is put behind its directory, with a slash in between unless there is one. -/
theorem text_join (directory : FilePath) (hname : IsPlainName name) :
    (directory.join ⟨name⟩).text = directory.text ++ name ∧
        (directory.text = "" ∨ ∃ front, directory.text.toList = front ++ ['/']) ∨
      (directory.join ⟨name⟩).text = directory.text ++ "/" ++ name ∧ directory.text ≠ "" := by
  have hrelative : (FilePath.mk name).isAbsolute = false := by
    rw [← name.ofList_toList]
    exact isAbsolute_ofList hname.noSlash
  rw [join, hrelative, if_neg Bool.false_ne_true]
  -- A slash is put in between unless the directory ends in one or is empty.
  split
  case h_1 hlast => exact .inl ⟨rfl, .inr (List.getLast?_eq_some_iff.mp hlast)⟩
  case h_2 last _ hlast =>
    refine .inr ⟨rfl, fun hempty => ?_⟩
    rw [hempty] at hlast
    cases hlast
  case h_3 hlast =>
    have hempty : directory.text = "" := by simpa using hlast
    exact .inl ⟨by simp [hempty], .inl hempty⟩

/-- A plain name starts no other path. -/
theorem isAbsolute_join (directory : FilePath) (hname : IsPlainName name) :
    (directory.join ⟨name⟩).isAbsolute = directory.isAbsolute := by
  rw [isAbsolute, isAbsolute]
  -- The first character is that of the directory, or that of the name, which is no slash.
  rcases text_join directory hname with ⟨htext, hempty | ⟨front, hfront⟩⟩ | ⟨htext, hempty⟩
  · rw [htext, hempty, String.empty_append]
    have hhead : name.toList.head? ≠ some '/' := fun h => hname.noSlash (List.mem_of_head? h)
    simp [hhead]
  · rw [htext, String.toList_append, hfront]
    cases front with
    | nil => rfl
    | cons c more => rfl
  · have hnil : directory.text.toList ≠ [] := by simpa using hempty
    rw [htext, String.toList_append, String.toList_append, List.append_assoc,
      List.head?_append_of_ne_nil _ hnil]

/-- A plain name is followed behind the names of its directory. -/
theorem pathNames_join (directory : FilePath) (hname : IsPlainName name) :
    FileStore.pathNames (directory.join ⟨name⟩) = FileStore.pathNames directory ++ [name] := by
  have hself := Text.splitOn_of_not_mem hname.noSlash
  have hnil : name.toList ≠ [] := by simpa using hname.nonempty
  rw [FileStore.pathNames, FileStore.pathNames]
  rcases text_join directory hname with ⟨htext, hempty | ⟨front, hfront⟩⟩ | ⟨htext, -⟩
  · rw [htext, hempty, String.empty_append, hself]
    simp [hnil, Text.splitOn]
  · -- The part behind the last slash of the directory is empty.
    rw [htext, String.toList_append, hfront, List.append_assoc]
    show List.map _ (List.filter _ (Text.splitOn '/' (front ++ '/' :: name.toList))) = _
    rw [Text.splitOn_append_cons, Text.splitOn_append_cons, hself]
    simp [hnil, Text.splitOn]
  · rw [htext, String.toList_append, String.toList_append, List.append_assoc]
    show List.map _ (List.filter _
      (Text.splitOn '/' (directory.text.toList ++ '/' :: name.toList))) = _
    rw [Text.splitOn_append_cons, hself]
    simp [hnil]

end FilePath

namespace FileStore

variable {store next : FileStore} {directory path : FilePath} {location : Location}
  {name other : String}

/-- Where the files of a directory are. The directory of an empty path is the working directory. -/
def base (store : FileStore) (directory : FilePath) : Except FileFault Location :=
  if directory.text = "" then .ok [] else store.locate directory

/-- A path leads to something below a directory. -/
def LiesBelow (store : FileStore) (path directory : FilePath) : Prop :=
  ∃ base name inner, store.base directory = .ok base ∧
    store.locate path = .ok (base ++ name :: inner)

/-- A name behind others is followed from where those lead. -/
theorem walk_append_of_plain (hname : IsPlainName name) (names : List String) :
    ∀ here, store.walk here (names ++ [name]) = .ok location →
      ∃ base, store.walk here names = .ok base ∧ location = base ++ [name] := by
  induction names with
  | nil =>
    intro here h
    rw [List.nil_append, walk, if_neg hname.notDot, if_neg hname.notDots] at h
    split at h
    case isTrue => cases h
    case isFalse => exact ⟨here, rfl, (Except.ok.inj h).symm⟩
  | cons first rest ih =>
    intro here h
    rw [List.cons_append, walk] at h
    rw [walk]
    split at h
    case isTrue hdot =>
      rw [if_pos hdot]
      exact ih here h
    case isFalse hdot =>
      rw [if_neg hdot]
      split at h
      case isTrue hdots =>
        rw [if_pos hdots]
        exact ih _ h
      case isFalse hdots =>
        rw [if_neg hdots]
        split at h
        case isTrue => cases h
        case isFalse hsize =>
          rw [if_neg hsize]
          have hmore : ¬(rest ++ [name]).isEmpty = true := by simp
          simp only [if_neg hmore] at h
          split at h
          case h_1 => cases h
          case h_2 => cases h
          case h_3 hnext =>
            obtain ⟨base, hbase, hlocation⟩ := ih _ h
            refine ⟨base, ?_, hlocation⟩
            -- The last name of the directory needs no entry, the others have to be directories.
            cases rest with
            | nil => exact hbase
            | cons second more => simpa [hnext] using hbase

/-- A file with a plain name lies directly in its directory. -/
theorem locate_join_of_plain (hname : IsPlainName name)
    (h : store.locate (directory.join ⟨name⟩) = .ok location) :
    ∃ base, store.base directory = .ok base ∧ location = base ++ [name] := by
  obtain ⟨hnull, -, hsize, hwalk⟩ := locate_eq_ok_iff.mp h
  rw [FilePath.isAbsolute_join directory hname, FilePath.pathNames_join directory hname] at hwalk
  obtain ⟨base, hbase, hlocation⟩ := walk_append_of_plain hname _ _ hwalk
  refine ⟨base, ?_, hlocation⟩
  rw [FileStore.base]
  split
  case isTrue hempty =>
    have hdirectory : directory = ⟨""⟩ := congrArg FilePath.mk hempty
    subst hdirectory
    exact hbase
  case isFalse hempty =>
    -- What holds of the whole path holds of its beginning.
    have hfront : ∃ rest, (directory.join ⟨name⟩).text = directory.text ++ rest := by
      rcases FilePath.text_join directory hname with ⟨htext, -⟩ | ⟨htext, -⟩
      · exact ⟨name, htext⟩
      · exact ⟨"/" ++ name, by rw [htext, String.append_assoc]⟩
    obtain ⟨rest, htext⟩ := hfront
    rw [htext] at hnull hsize
    rw [String.utf8ByteSize_append] at hsize
    refine locate_eq_ok_iff.mpr ⟨?_, hempty, by omega, hbase⟩
    intro hmem
    exact hnull (by rw [String.toList_append]; exact List.mem_append_left _ hmem)

/-- Different plain names in one directory are different places. -/
theorem locate_join_ne_of_plain (hname : IsPlainName name) (hother : IsPlainName other)
    (hne : name ≠ other) (h : store.locate (directory.join ⟨name⟩) = .ok location) :
    store.locate (directory.join ⟨other⟩) ≠ .ok location := by
  intro hsame
  obtain ⟨base, hbase, rfl⟩ := locate_join_of_plain hname h
  obtain ⟨found, hfound, heq⟩ := locate_join_of_plain hother hsame
  rw [hbase] at hfound
  cases hfound
  exact hne (by simpa using heq)

/-! ## Directories -/

theorem isDirectory_eq_true_iff : store.isDirectory path = true ↔
    ∃ location, store.locate path = .ok location ∧ store.lookup location = some .directory := by
  constructor
  · intro h
    have hfind : store.find path = .ok .directory := by
      unfold isDirectory at h
      split at h
      case h_1 hfind => exact hfind
      case h_2 => cases h
    obtain ⟨location, hlocate, hentry⟩ := bind_eq_ok.mp hfind
    refine ⟨location, hlocate, ?_⟩
    -- What is found at the location is a directory, and not nothing or a file.
    split at hentry
    case h_1 => cases hentry
    case h_2 hlookup => exact hlookup
    case h_3 =>
      split at hentry
      case isTrue => cases hentry
      case isFalse => cases hentry
  · rintro ⟨location, hlocate, hlookup⟩
    simp [isDirectory, find, hlocate, hlookup, bind, Except.bind, pure, Except.pure]

/-- A directory stays one. -/
theorem Grows.isDirectory {written : List Location} (h : Grows store next written)
    (hdirectory : store.isDirectory path = true) : next.isDirectory path = true := by
  obtain ⟨location, hlocate, hlookup⟩ := isDirectory_eq_true_iff.mp hdirectory
  exact isDirectory_eq_true_iff.mpr ⟨location, h.locate hlocate, h.directory hlookup⟩

/-- A directory that has been created is one. -/
theorem isDirectory_createDirectory (h : store.createDirectory path = .ok next) :
    next.isDirectory path = true := by
  have hgrows := grows_createDirectory h
  obtain ⟨location, hlocate, hnext⟩ := bind_eq_ok.mp h
  refine isDirectory_eq_true_iff.mpr ⟨location, hgrows.locate hlocate, ?_⟩
  -- The directory was created where nothing was before.
  split at hnext
  case h_1 => cases hnext
  case h_2 hnone =>
    cases hnext
    apply lookup_set_self
    apply isFixed_of_lookup_ne
    rw [hnone]
    exact nofun

/-- Once directories have been created, the path leads to one, unless it is empty. -/
theorem isDirectory_createDirectories {path : FilePath} {created : FileStore}
    (h : store.createDirectories path = (created, .ok ())) :
    path.components.isEmpty = true ∨ created.isDirectory path = true := by
  rw [createDirectories, createDirectoriesWithin] at h
  -- Created at once, created after the directory above it, or there already.
  split at h
  case isTrue hempty => exact .inl hempty
  case isFalse =>
    right
    split at h
    case h_1 made hmade =>
      cases h
      exact isDirectory_createDirectory hmade
    case h_2 =>
      split at h
      case h_1 => cases h
      case h_2 parent _ =>
        split at h
        case h_1 => cases h
        case h_2 above _ =>
          split at h
          case h_1 made hmade =>
            cases h
            exact isDirectory_createDirectory hmade
          case h_2 =>
            obtain ⟨rfl, h⟩ := Prod.mk.inj h
            split at h
            case isTrue hdirectory => exact hdirectory
            case isFalse => cases h
    case h_3 =>
      obtain ⟨rfl, h⟩ := Prod.mk.inj h
      split at h
      case isTrue hdirectory => exact hdirectory
      case isFalse => cases h

/-- Where a directory is, none is created. -/
theorem createDirectories_of_isDirectory
    (h : path.components.isEmpty = true ∨ store.isDirectory path = true) :
    store.createDirectories path = (store, .ok ()) := by
  rw [createDirectories, createDirectoriesWithin]
  split
  case isTrue => rfl
  case isFalse hempty =>
    have hdirectory := h.resolve_left hempty
    obtain ⟨location, hlocate, hlookup⟩ := isDirectory_eq_true_iff.mp hdirectory
    -- Creating the directory fails because it exists, and this is taken for success.
    have hexists : store.createDirectory path = .error .alreadyExists := by
      simp [createDirectory, hlocate, hlookup, bind, Except.bind]
      rfl
    rw [hexists]
    simp [hdirectory]

/-! ## Artifacts -/

/-- Artifacts that are up to date are not written. -/
theorem writeArtifacts_of_readText {artifacts : List Artifact}
    (h : ∀ artifact ∈ artifacts,
      store.readText (artifact.pathIn directory) = .ok artifact.text) :
    store.writeArtifacts directory artifacts = ⟨store, [], .ok ()⟩ := by
  induction artifacts with
  | nil => rfl
  | cons artifact rest ih =>
    rw [writeArtifacts, if_pos (holds_iff.mpr (h artifact List.mem_cons_self))]
    exact ih fun other hother => h other (List.mem_cons_of_mem _ hother)

variable {program : Program} {settings : Settings} {token : CancellationToken}

/-- A pass that succeeds makes the store grow, and writes nothing but artifacts. -/
theorem grows_runInto (h : (store.runInto directory program settings token).result = .ok ()) :
    Grows store (store.runInto directory program settings token).store
        (store.runInto directory program settings token).written ∧
      ∀ location ∈ (store.runInto directory program settings token).written,
        ∃ name ∈ [settings.attributesArtifact, settings.registrationsArtifact],
          (store.runInto directory program settings token).store.locate (directory.join ⟨name⟩) =
            .ok location := by
  obtain ⟨definitions, registrations, created, -, hfirst, hsecond, hcreate, hout⟩ :=
    runInto_eq_ok h
  have hdirectories := grows_createDirectories store directory
  rw [hcreate] at hdirectories
  rw [hout]
  refine ⟨hdirectories.trans (grows_writeArtifacts directory _ created), fun location hmem => ?_⟩
  -- What is written is an artifact of the pass, so it has one of the two names of the settings.
  obtain ⟨artifact, hartifact, hlocate⟩ := exists_artifact_of_mem_written directory _ created hmem
  refine ⟨artifact.name, ?_, hlocate⟩
  rw [← hfirst, ← hsecond]
  exact List.mem_map_of_mem hartifact

/-- **A pass that succeeds leaves nothing to do for the same pass**, if the names of its artifacts
are different plain names. -/
theorem runInto_again (h : (store.runInto directory program settings token).result = .ok ())
    (hattributes : IsPlainName settings.attributesArtifact)
    (hregistrations : IsPlainName settings.registrationsArtifact)
    (hne : settings.attributesArtifact ≠ settings.registrationsArtifact) :
    (store.runInto directory program settings token).store.runInto directory program settings
      token = ⟨(store.runInto directory program settings token).store, [], .ok ()⟩ := by
  obtain ⟨definitions, registrations, created, hgenerate, hfirst, hsecond, hcreate, hout⟩ :=
    runInto_eq_ok h
  have hok : (created.writeArtifacts directory [definitions, registrations]).result = .ok () :=
    hout ▸ h
  rw [hout]
  generalize hafter : (created.writeArtifacts directory [definitions, registrations]).store = after
  have hgrows := grows_writeArtifacts directory [definitions, registrations] created
  rw [hafter] at hgrows
  have hdirectory : after.createDirectories directory = (after, .ok ()) := by
    apply createDirectories_of_isDirectory
    exact (isDirectory_createDirectories hcreate).imp_right hgrows.isDirectory
  have hplaces := exists_locate_of_writeArtifacts directory _ created hok
  rw [hafter] at hplaces
  have hlater : after.readText (registrations.pathIn directory) = .ok registrations.text :=
    hafter ▸ readText_writeArtifacts [definitions] hok nofun
  have hearlier : after.readText (definitions.pathIn directory) = .ok definitions.text := by
    rw [← hafter]
    apply readText_writeArtifacts [] hok
    intro later hlater hsame
    cases List.mem_singleton.mp hlater
    rw [List.nil_append, hafter] at hsame
    -- Two places in one directory would have one name.
    obtain ⟨-, place, hplace⟩ := hplaces definitions (by simp)
    have hdistinct := locate_join_ne_of_plain hattributes hregistrations hne
      (hfirst ▸ hplace : after.locate (directory.join ⟨settings.attributesArtifact⟩) = .ok place)
    rw [← hsecond] at hdistinct
    exact hdistinct (hsame.trans hplace)
  have hwritten : after.writeArtifacts directory [definitions, registrations] =
      ⟨after, [], .ok ()⟩ := by
    apply writeArtifacts_of_readText
    intro artifact hmem
    rcases List.mem_pair.mp hmem with rfl | rfl
    · exact hearlier
    · exact hlater
  simp only [runInto, hgenerate, addArtifacts, hdirectory, hwritten]

end FileStore

end RouteRegistrar
