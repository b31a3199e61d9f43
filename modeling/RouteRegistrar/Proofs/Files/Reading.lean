import RouteRegistrar.Proofs.Files.Growth
import RouteRegistrar.Proofs.Registration.Pass

/-!
# What can be read after a pass

The names of the two artifacts are settings of their own, and nothing keeps them apart. A pass that
succeeds leaves its registrations to be read. Its marker types can be read only if both names lead
to different files; otherwise the registrations have replaced them, and the pass succeeds all the
same.
-/

namespace RouteRegistrar

namespace FileStore

variable {store : FileStore} {directory : FilePath} {program : Program} {settings : Settings}
  {token : CancellationToken}

/-- A pass that succeeds has generated its artifacts, created the directory, and written there. -/
theorem runInto_eq_ok (h : (store.runInto directory program settings token).result = .ok ()) :
    ∃ definitions registrations created,
      program.generate settings token = .ok [definitions, registrations] ∧
      definitions.name = settings.attributesArtifact ∧
      registrations.name = settings.registrationsArtifact ∧
      store.createDirectories directory = (created, .ok ()) ∧
      store.runInto directory program settings token =
        created.writeArtifacts directory [definitions, registrations] := by
  -- A pass that succeeds has generated its artifacts and created the directory.
  cases hgenerate : program.generate settings token with
  | error failure =>
    rw [runInto, hgenerate] at h
    cases h
  | ok artifacts =>
    obtain ⟨-, hnever⟩ := Program.generate_eq_ok_iff.mp hgenerate
    obtain ⟨_, definitions, registrations, -, hdefinitions, hregistrations, rfl⟩ :=
      Program.generate_never_eq_ok_iff.mp hnever
    rcases hcreate : store.createDirectories directory with ⟨created, fault | done⟩
    case error =>
      simp only [runInto, hgenerate, addArtifacts, hcreate] at h
      cases h
    case ok =>
      refine ⟨definitions, registrations, created, rfl,
        Program.name_of_definitionsArtifact hdefinitions,
        Program.name_of_registrationsArtifact hregistrations, rfl, ?_⟩
      simp only [runInto, hgenerate, addArtifacts, hcreate]

/-- **A pass that succeeds may lose its first artifact.** The registrations can be read behind it,
but the marker types only if the two names lead to different files, or if both texts are the same.
Where the names lead to one file, it holds the registrations. -/
theorem readText_runInto_iff
    (h : (store.runInto directory program settings token).result = .ok ()) :
    let after := (store.runInto directory program settings token).store
    let first := directory.join ⟨settings.attributesArtifact⟩
    let second := directory.join ⟨settings.registrationsArtifact⟩
    ∃ definitions registrations,
      program.generate settings token = .ok [definitions, registrations] ∧
      after.readText second = .ok registrations.text ∧
      (after.readText first = .ok definitions.text ↔
        after.locate first ≠ after.locate second ∨ definitions.text = registrations.text) ∧
      (after.locate first = after.locate second →
        after.readText first = .ok registrations.text) := by
  intro after first second
  obtain ⟨definitions, registrations, created, hgenerate, hfirst, hsecond, -, hout⟩ :=
    runInto_eq_ok h
  have hafter : after = (created.writeArtifacts directory [definitions, registrations]).store :=
    congrArg Output.store hout
  have hok : (created.writeArtifacts directory [definitions, registrations]).result = .ok () :=
    hout ▸ h
  have hfirst : first = definitions.pathIn directory := by rw [Artifact.pathIn, hfirst]
  have hsecond : second = registrations.pathIn directory := by rw [Artifact.pathIn, hsecond]
  -- The registrations come last, so nothing replaces them.
  have hread : after.readText second = .ok registrations.text := by
    rw [hafter, hsecond]
    exact readText_writeArtifacts [definitions] hok nofun
  have hreplaced : after.locate first = after.locate second →
      after.readText first = .ok registrations.text := by
    intro hsame
    have hplaces := exists_locate_of_writeArtifacts directory _ created hok
    have hslash : endsInSlash first = endsInSlash second := by
      rw [hfirst, hsecond, (hplaces definitions (by simp)).1, (hplaces registrations (by simp)).1]
    rw [readText_congr hsame hslash, hread]
  refine ⟨definitions, registrations, hgenerate, hread, ?_, hreplaced⟩
  by_cases hsame : after.locate first = after.locate second
  · rw [hreplaced hsame]
    constructor
    · intro htext
      exact .inr (Except.ok.inj htext).symm
    · rintro (hne | htext)
      · exact absurd hsame hne
      · rw [htext]
  · have hkept : after.readText first = .ok definitions.text := by
      rw [hafter, hfirst]
      apply readText_writeArtifacts [] hok
      intro later hlater
      rw [List.mem_singleton.mp hlater, ← hsecond, ← hfirst, List.nil_append, ← hafter]
      exact Ne.symm hsame
    exact iff_of_true hkept (.inl hsame)

/-- Two spellings of one name: the pass succeeds, and the registrations are all that is left. -/
theorem readText_runInto_of_two_spellings :
    let program : Program := .empty (some ⟨"main", "crate"⟩)
    let settings : Settings := { Settings.default with
      attributesArtifact := "routes.rs"
      registrationsArtifact := "./routes.rs" }
    let out := FileStore.empty.runInto ⟨"out"⟩ program settings .never
    out.result = .ok () ∧ ∃ definitions registrations,
      program.generate settings .never = .ok [definitions, registrations] ∧
      out.store.readText ⟨"out/routes.rs"⟩ = .ok registrations.text ∧
      (out.store.readText ⟨"out/routes.rs"⟩ = .ok definitions.text ↔
        definitions.text = registrations.text) := by
  intro program settings out
  let created : FileStore := ⟨[(["out"], .directory)]⟩
  have hcreate : FileStore.empty.createDirectories ⟨"out"⟩ = (created, .ok ()) := by rfl
  have hgenerated : (program.generate settings .never).toOption.map (fun _ => ()) = some () := by
    decide +kernel
  obtain ⟨artifacts, hgenerate, -⟩ := exists_ok_of_map_toOption hgenerated
  obtain ⟨_, definitions, registrations, -, hdefinitions, hregistrations, rfl⟩ :=
    Program.generate_never_eq_ok_iff.mp hgenerate
  have hfirst : definitions.name = "routes.rs" := Program.name_of_definitionsArtifact hdefinitions
  have hsecond : registrations.name = "./routes.rs" :=
    Program.name_of_registrationsArtifact hregistrations
  have hout : out = created.writeArtifacts ⟨"out"⟩ [definitions, registrations] := by
    show FileStore.empty.runInto ⟨"out"⟩ program settings .never = _
    simp only [runInto, hgenerate, addArtifacts, hcreate]
  -- Both names lead to one place, where nothing is yet.
  have hplace : created.locate ⟨"out/routes.rs"⟩ = .ok ["out", "routes.rs"] := by rfl
  have hother : created.locate ⟨"out/./routes.rs"⟩ = .ok ["out", "routes.rs"] := by rfl
  have hok : out.result = .ok () := by
    rw [hout]
    apply writeArtifacts_ok
    intro artifact hmem
    have hpath : artifact.pathIn ⟨"out"⟩ = ⟨"out/routes.rs"⟩ ∨
        artifact.pathIn ⟨"out"⟩ = ⟨"out/./routes.rs"⟩ := by
      rcases List.mem_pair.mp hmem with rfl | rfl
      · exact .inl (by rw [Artifact.pathIn, hfirst]; rfl)
      · exact .inr (by rw [Artifact.pathIn, hsecond]; rfl)
    have hfree : created.lookup ["out", "routes.rs"] = none := rfl
    refine ⟨["out", "routes.rs"], ?_, by simp [hfree], ?_⟩
    · rcases hpath with hpath | hpath <;> rw [hpath] <;> assumption
    · rcases hpath with hpath | hpath <;> rw [hpath] <;> rfl
  have hfirst : (FilePath.mk "out").join ⟨settings.attributesArtifact⟩ = ⟨"out/routes.rs"⟩ := by
    show (FilePath.mk "out").join ⟨"routes.rs"⟩ = ⟨"out/routes.rs"⟩
    rfl
  have hsecond : (FilePath.mk "out").join ⟨settings.registrationsArtifact⟩ =
      ⟨"out/./routes.rs"⟩ := by
    show (FilePath.mk "out").join ⟨"./routes.rs"⟩ = ⟨"out/./routes.rs"⟩
    rfl
  have hgrows := grows_writeArtifacts ⟨"out"⟩ [definitions, registrations] created
  have hsame : out.store.locate ⟨"out/routes.rs"⟩ = out.store.locate ⟨"out/./routes.rs"⟩ := by
    rw [hout, hgrows.locate hplace, hgrows.locate hother]
  have hread := readText_runInto_iff hok
  simp only [hfirst, hsecond] at hread
  obtain ⟨definitions, registrations, hgenerate, -, hiff, hreplaced⟩ := hread
  refine ⟨hok, definitions, registrations, hgenerate, hreplaced hsame, hiff.trans ?_⟩
  exact or_iff_right (absurd hsame)

end FileStore

end RouteRegistrar
