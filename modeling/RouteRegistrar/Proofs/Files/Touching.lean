import Mathlib.Data.List.Induction
import RouteRegistrar.Proofs.Files.Growth

/-!
# Which files are touched

Artifacts are written one after the other, and each of them is compared with what its file holds at
that point, behind all that has been written for the artifacts in front of it. This module follows
the writing from one artifact to the next and says what it touches, however it ends: only files that
the artifacts are meant for, and only where such a file differs from its artifact. Once all
artifacts have been written, each file holds the last artifact that is meant for it.
-/

namespace RouteRegistrar

/-- Goes on with the store that is left, unless there has been a failure. -/
def Output.andThen (out : Output) (next : FileStore → Output) : Output :=
  match out.result with
  | .ok () => { next out.store with written := out.written ++ (next out.store).written }
  | .error _ => out

theorem Output.andThen_of_ok {out : Output} (h : out.result = .ok ()) (next : FileStore → Output) :
    out.andThen next =
      { next out.store with written := out.written ++ (next out.store).written } := by
  rw [andThen, h]

theorem Output.andThen_of_error {out : Output} {failure : Failure}
    (h : out.result = .error failure) (next : FileStore → Output) : out.andThen next = out := by
  rw [andThen, h]

namespace FileStore

variable {store next : FileStore} {directory : FilePath} {artifacts before after : List Artifact}
  {artifact : Artifact} {location : Location}

/-! ## One artifact -/

/-- An artifact whose file holds its text is passed over. For any other one the file is written, or
else the writing ends there. -/
theorem writeArtifacts_singleton_cases (store : FileStore) (directory : FilePath)
    (artifact : Artifact) :
    (store.holds (artifact.pathIn directory) artifact.text = true ∧
      store.writeArtifacts directory [artifact] = ⟨store, [], .ok ()⟩) ∨
    (store.holds (artifact.pathIn directory) artifact.text = false ∧
      ((∃ failure, store.writeArtifacts directory [artifact] = ⟨store, [], .error failure⟩) ∨
      ∃ next location,
        store.writeText (artifact.pathIn directory) artifact.text = .ok (next, location) ∧
        store.writeArtifacts directory [artifact] = ⟨next, [location], .ok ()⟩)) := by
  cases hholds : store.holds (artifact.pathIn directory) artifact.text with
  | true => exact .inl ⟨rfl, by simp [writeArtifacts, hholds]⟩
  | false =>
    refine .inr ⟨rfl, ?_⟩
    cases hwrite : store.writeText (artifact.pathIn directory) artifact.text with
    | error fault =>
      exact .inl ⟨.file (artifact.pathIn directory).text fault,
        by simp [writeArtifacts, hholds, hwrite]⟩
    | ok found => exact .inr ⟨found.1, found.2, rfl, by simp [writeArtifacts, hholds, hwrite]⟩

/-! ## One artifact after the other -/

/-- Artifacts are written behind those in front of them, into the store that these have left. -/
theorem writeArtifacts_append (store : FileStore) (directory : FilePath)
    (before after : List Artifact) :
    store.writeArtifacts directory (before ++ after) =
      (store.writeArtifacts directory before).andThen (·.writeArtifacts directory after) := by
  induction before generalizing store with
  | nil => rfl
  | cons first rest ih =>
    rw [List.cons_append, writeArtifacts, writeArtifacts]
    split
    -- An artifact that is up to date leaves the store to the others.
    case isTrue => exact ih store
    case isFalse =>
      split
      -- A failure ends both sides here; what follows is not tried.
      case h_1 => rfl
      case h_2 next location _ =>
        simp only [ih next, Output.andThen]
        split <;> rfl

/-- The directory is created first. If that fails nothing is written, and else the artifacts are
written into the store with the directory. -/
theorem addArtifacts_cases (store : FileStore) (directory : FilePath) :
    ∃ created, Grows store created [] ∧
      ((∃ failure, ∀ artifacts,
        store.addArtifacts directory artifacts = ⟨created, [], .error failure⟩) ∨
      ∀ artifacts, store.addArtifacts directory artifacts =
        created.writeArtifacts directory artifacts) := by
  have hgrows := grows_createDirectories store directory
  rcases hcreate : store.createDirectories directory with ⟨created, fault | done⟩
  -- Whether the directory can be created does not depend on the artifacts.
  all_goals rw [hcreate] at hgrows
  case error =>
    exact ⟨created, hgrows, .inl ⟨_, fun artifacts => by rw [addArtifacts, hcreate]⟩⟩
  case ok =>
    exact ⟨created, hgrows, .inr fun artifacts => by rw [addArtifacts, hcreate]⟩

theorem addArtifacts_append (store : FileStore) (directory : FilePath)
    (before after : List Artifact) :
    store.addArtifacts directory (before ++ after) =
      (store.addArtifacts directory before).andThen (·.writeArtifacts directory after) := by
  obtain ⟨created, -, ⟨failure, heq⟩ | heq⟩ := addArtifacts_cases store directory
  · rw [heq, heq, Output.andThen_of_error rfl]
  · rw [heq, heq, writeArtifacts_append]

/-- Creating the directory and writing the artifacts makes a store grow, however it ends. -/
theorem grows_addArtifacts (store : FileStore) (directory : FilePath) (artifacts : List Artifact) :
    Grows store (store.addArtifacts directory artifacts).store
      (store.addArtifacts directory artifacts).written := by
  obtain ⟨created, hgrows, ⟨failure, heq⟩ | heq⟩ := addArtifacts_cases store directory
  · rw [heq]
    exact hgrows
  · rw [heq]
    exact hgrows.trans (grows_writeArtifacts directory artifacts created)

/-- The files of a store that has grown are the old ones, except where something was written. -/
theorem Grows.fileAt? {written : List Location} (h : Grows store next written)
    (hwritten : location ∉ written) : next.fileAt? location = store.fileAt? location := by
  rcases h.entry hwritten with hsame | ⟨hnone, hcreated⟩
  · exact fileAt?_congr hsame
  · rw [FileStore.fileAt?, FileStore.fileAt?, hnone, hcreated]

/-! ## Writes -/

/-- Behind some artifacts, which have led to `index` writes, the next artifact is written to the
location that its path leads to. At that point there is no file there, or one that does not hold the
text of the artifact. -/
structure WritesNext (store : FileStore) (directory : FilePath) (before : List Artifact)
    (artifact : Artifact) (index : Nat) (location : Location) : Prop where
  reaches : (store.addArtifacts directory before).result = .ok ()
  index : (store.addArtifacts directory before).written.length = index
  place : (store.addArtifacts directory before).store.locate (artifact.pathIn directory) =
    .ok location
  differs : (store.addArtifacts directory before).store.fileAt? location ≠
    some artifact.text.toUTF8
  writes : (store.addArtifacts directory (before ++ [artifact])).written =
    (store.addArtifacts directory before).written ++ [location]

/-- Every write is made for an artifact whose file differs from it at that point. -/
theorem exists_writesNext {index : Nat}
    (h : (store.addArtifacts directory artifacts).written[index]? = some location) :
    ∃ before artifact after, artifacts = before ++ artifact :: after ∧
      store.WritesNext directory before artifact index location := by
  induction artifacts using List.reverseRecOn with
  | nil =>
    obtain ⟨created, -, ⟨failure, heq⟩ | heq⟩ := addArtifacts_cases store directory
    all_goals
      rw [heq] at h
      cases h
  | append_singleton front last ih =>
    have hfront : (store.addArtifacts directory front).written[index]? = some location →
        ∃ before artifact after, front ++ [last] = before ++ artifact :: after ∧
          store.WritesNext directory before artifact index location := by
      intro hwritten
      obtain ⟨before, artifact, after, rfl, hwrites⟩ := ih hwritten
      exact ⟨before, artifact, after ++ [last], by simp, hwrites⟩
    rw [addArtifacts_append] at h
    cases hresult : (store.addArtifacts directory front).result with
    | error failure =>
      rw [Output.andThen_of_error hresult] at h
      exact hfront h
    | ok done =>
      rw [Output.andThen_of_ok hresult] at h
      rcases writeArtifacts_singleton_cases (store.addArtifacts directory front).store directory
        last with ⟨-, heq⟩ | ⟨hholds, ⟨failure, heq⟩ | ⟨next, place, hwrite, heq⟩⟩
      · exact hfront (by simpa [heq] using h)
      · exact hfront (by simpa [heq] using h)
      · rw [heq, List.getElem?_append] at h
        split at h
        case isTrue => exact hfront h
        case isFalse hbehind =>
          -- The last artifact makes the last write.
          rw [List.getElem?_singleton] at h
          split at h
          case isTrue hlast =>
            cases h
            refine ⟨front, last, [], rfl, hresult, by omega, (writeText_eq_ok hwrite).1,
              fileAt?_ne_of_holds hholds hwrite, ?_⟩
            rw [addArtifacts_append, Output.andThen_of_ok hresult, heq]
          case isFalse => cases h

/-- What is written belongs to an artifact. -/
theorem exists_artifact_of_mem_addArtifacts
    (h : location ∈ (store.addArtifacts directory artifacts).written) :
    ∃ artifact ∈ artifacts, (store.addArtifacts directory artifacts).store.locate
      (artifact.pathIn directory) = .ok location := by
  obtain ⟨created, -, ⟨failure, heq⟩ | heq⟩ := addArtifacts_cases store directory
  · rw [heq] at h
    cases h
  · rw [heq] at h ⊢
    exact exists_artifact_of_mem_written directory artifacts created h

/-! ## What is left -/

/-- A path from which a text can be read leads to a file with this text. -/
theorem fileAt?_of_readText {path : FilePath} {text : String}
    (hread : store.readText path = .ok text) (hlocate : store.locate path = .ok location) :
    store.fileAt? location = some text.toUTF8 := by
  obtain ⟨found, content, hfound, hlookup, -, hdecode⟩ := readText_eq_ok_iff.mp hread
  rw [hlocate] at hfound
  cases hfound
  -- The bytes of a file determine its text, and the text its bytes.
  have hcontent : content = text.toUTF8 := by
    unfold String.fromUTF8? at hdecode
    split at hdecode
    case isTrue => cases hdecode; rfl
    case isFalse => cases hdecode
  rw [fileAt?, hlookup, hcontent]

/-- Once all artifacts have been written, each of them leads somewhere, and the last one that leads
to a file is in it. -/
theorem fileAt?_of_last (h : (store.addArtifacts directory artifacts).result = .ok ()) :
    (∀ artifact ∈ artifacts, ∃ location, (store.addArtifacts directory artifacts).store.locate
      (artifact.pathIn directory) = .ok location) ∧
    ∀ before artifact after location, artifacts = before ++ artifact :: after →
      (store.addArtifacts directory artifacts).store.locate (artifact.pathIn directory) =
        .ok location →
      (∀ later ∈ after, (store.addArtifacts directory artifacts).store.locate
        (later.pathIn directory) ≠ .ok location) →
      (store.addArtifacts directory artifacts).store.fileAt? location =
        some artifact.text.toUTF8 := by
  -- No artifact is written without the directory, so it has been created.
  obtain ⟨created, -, ⟨failure, heq⟩ | heq⟩ := addArtifacts_cases store directory
  · rw [heq] at h
    cases h
  · rw [heq] at h ⊢
    constructor
    · intro artifact hartifact
      exact (exists_locate_of_writeArtifacts directory artifacts created h artifact hartifact).2
    · rintro before artifact after location rfl hplace hlast
      refine fileAt?_of_readText (readText_writeArtifacts before h fun later hlater => ?_) hplace
      rw [hplace]
      exact hlast later hlater

/-- **Only what differs is touched**, however the writing ends. A file changes only if it has been
written, and an artifact is meant for it. Each write has been made for an artifact that its file did
not hold at that point. If all artifacts have been written, each of them leads to a file, and this
file holds the last artifact that leads there. -/
theorem addArtifacts_touches (store : FileStore) (directory : FilePath)
    (artifacts : List Artifact) :
    let out := store.addArtifacts directory artifacts
    (∀ location, out.store.fileAt? location ≠ store.fileAt? location →
      location ∈ out.written ∧
      ∃ artifact ∈ artifacts, out.store.locate (artifact.pathIn directory) = .ok location) ∧
    (∀ index location, out.written[index]? = some location →
      ∃ before artifact after, artifacts = before ++ artifact :: after ∧
        store.WritesNext directory before artifact index location) ∧
    (out.result = .ok () →
      (∀ artifact ∈ artifacts, ∃ location,
        out.store.locate (artifact.pathIn directory) = .ok location) ∧
      ∀ before artifact after location, artifacts = before ++ artifact :: after →
        out.store.locate (artifact.pathIn directory) = .ok location →
        (∀ later ∈ after, out.store.locate (later.pathIn directory) ≠ .ok location) →
        out.store.fileAt? location = some artifact.text.toUTF8) := by
  intro out
  -- Creating directories and writing elsewhere change no file at a location.
  have hchanged : ∀ location, out.store.fileAt? location ≠ store.fileAt? location →
      location ∈ out.written := by
    intro location hne
    by_contra hwritten
    exact hne ((grows_addArtifacts store directory artifacts).fileAt? hwritten)
  exact ⟨fun location hne => ⟨hchanged location hne,
    exists_artifact_of_mem_addArtifacts (hchanged location hne)⟩,
    fun _ _ => exists_writesNext, fileAt?_of_last⟩

/-- Three artifacts for one file, which holds the first of them: the second one is written, and the
third one finds its text there. -/
theorem addArtifacts_touches_of_one_file :
    let store : FileStore := ⟨[(["out"], .directory), (["out", "a.rs"], .file "one".toUTF8)]⟩
    let artifacts : List Artifact := [⟨"a.rs", "one"⟩, ⟨"./a.rs", "two"⟩, ⟨"a.rs", "two"⟩]
    let out := store.addArtifacts ⟨"out"⟩ artifacts
    out.result = .ok () ∧ out.written = [["out", "a.rs"]] ∧
    (∃ before artifact after, artifacts = before ++ artifact :: after ∧
      store.WritesNext ⟨"out"⟩ before artifact 0 ["out", "a.rs"]) ∧
    out.store.fileAt? ["out", "a.rs"] = some "two".toUTF8 := by
  intro store artifacts out
  have hok : out.result = .ok () := by rfl
  have hwritten : out.written = [["out", "a.rs"]] := by decide +kernel
  -- Both spellings lead to one file, so the last artifact is the one that it holds.
  have hplace : out.store.locate ⟨"out/a.rs"⟩ = .ok ["out", "a.rs"] := by rfl
  obtain ⟨-, hwrites, hleft⟩ := addArtifacts_touches store ⟨"out"⟩ artifacts
  refine ⟨hok, hwritten, hwrites 0 _ (congrArg (·[0]?) hwritten), ?_⟩
  exact (hleft hok).2 [⟨"a.rs", "one"⟩, ⟨"./a.rs", "two"⟩] ⟨"a.rs", "two"⟩ [] _ rfl hplace nofun

end FileStore

end RouteRegistrar
