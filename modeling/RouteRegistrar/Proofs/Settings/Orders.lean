import Mathlib.Data.List.Nodup
import RouteRegistrar.Proofs.Settings.Variables

/-!
# Settings in any order

Neither the formats of settings files nor the entries of a source come in a fixed order, so that two
passes over the same package may gather different settings. This module says when they do not: if
there are settings in one format only, and if no source has two entries for one key. For a key that
is no setting there may be more of them, unless one counts from the end of a list.

The reason is that keys do not get in the way of each other. What becomes of a key depends on the
entries that begin with it, and on nothing else.
-/

namespace RouteRegistrar

theorem map_eq_ok {ε α β : Type} {computed : Except ε α} {view : α → β} {result : β} :
    computed.map view = .ok result ↔ ∃ value, computed = .ok value ∧ view value = result := by
  cases computed <;> simp [Except.map]

/-! ## Lists in another order -/

section Lists

variable {α β : Type} {xs ys : List α}

theorem filter_eq_of_perm {p : α → Bool} (h : xs.Perm ys) (hone : (xs.filter p).length ≤ 1) :
    ys.filter p = xs.filter p := by
  have hperm := (h.filter p).symm
  match hxs : xs.filter p with
  | [] => exact List.perm_nil.mp (hxs ▸ hperm)
  | [x] => exact List.perm_singleton.mp (hxs ▸ hperm)
  | x :: y :: rest => rw [hxs] at hone; simp at hone

/-- The only element of which there is something is the first one, whatever the order. -/
theorem findSome?_eq_of_perm {f : α → Option β} (h : xs.Perm ys)
    (hone : ∀ x ∈ xs, ∀ y ∈ xs, (f x).isSome → (f y).isSome → x = y) :
    xs.findSome? f = ys.findSome? f := by
  cases hxs : xs.findSome? f with
  | none =>
    rw [List.findSome?_eq_none_iff] at hxs
    exact (List.findSome?_eq_none_iff.mpr fun y hy => hxs y (h.mem_iff.mpr hy)).symm
  | some found =>
    obtain ⟨x, hx, hfound⟩ := List.exists_of_findSome?_eq_some hxs
    cases hys : ys.findSome? f with
    | none =>
      rw [List.findSome?_eq_none_iff.mp hys x (h.mem_iff.mp hx)] at hfound
      cases hfound
    | some other =>
      obtain ⟨y, hy, hother⟩ := List.exists_of_findSome?_eq_some hys
      -- Two searches may find different elements in general, but only one has a value.
      have hsame := hone x hx y (h.mem_iff.mpr hy) (by simp [hfound]) (by simp [hother])
      rw [← hfound, ← hother, hsame]

end Lists

namespace GatheredSettings

/-! ## What becomes of a key -/

/-- Whether the path of an entry begins with a key. -/
def beginsWith (key : String) (entry : String × SettingsValue) : Bool :=
  (KeyPath.ofName entry.1).first = key

/-- What becomes of the value of a key as entries are put there, one after the other. -/
def historyOf (old : Option GatheredValue) (entries : SettingsTable) (origin : String) :
    Except Failure (Option GatheredValue) :=
  entries.foldlM (fun found (name, value) =>
    (put found (KeyPath.ofName name).steps value (some origin)).map some) old

variable {settings next other : GatheredSettings} {entries rest : SettingsTable}
  {entry : String × SettingsValue} {key origin : String} {old : Option GatheredValue}

theorem historyOf_cons_eq_ok_iff {last : Option GatheredValue} :
    historyOf old (entry :: rest) origin = .ok last ↔ ∃ found,
      put old (KeyPath.ofName entry.1).steps entry.2 (some origin) = .ok found ∧
        historyOf (some found) rest origin = .ok last := by
  rw [historyOf, List.foldlM_cons, bind_eq_ok]
  -- One entry is put, and the rest goes on from what it leaves.
  constructor
  · rintro ⟨_, hfound, hrest⟩
    obtain ⟨found, hput, rfl⟩ := map_eq_ok.mp hfound
    exact ⟨found, hput, hrest⟩
  · rintro ⟨found, hput, hrest⟩
    exact ⟨some found, map_eq_ok.mpr ⟨found, hput, rfl⟩, hrest⟩

theorem assignAll_cons_eq_ok_iff : assignAll settings (entry :: rest) origin = .ok next ↔ ∃ found,
    put (settings.get? (KeyPath.ofName entry.1).first) (KeyPath.ofName entry.1).steps entry.2
      (some origin) = .ok found ∧
    assignAll (settings.set (KeyPath.ofName entry.1).first found) rest origin = .ok next := by
  rw [assignAll, List.foldlM_cons, bind_eq_ok]
  constructor
  · rintro ⟨_, hassign, hrest⟩
    obtain ⟨found, hput, rfl⟩ := map_eq_ok.mp hassign
    exact ⟨found, hput, hrest⟩
  · rintro ⟨found, hput, hrest⟩
    exact ⟨_, map_eq_ok.mpr ⟨found, hput, rfl⟩, hrest⟩

theorem filter_beginsWith_cons (key : String) :
    (entry :: rest).filter (beginsWith key) =
      if key = (KeyPath.ofName entry.1).first then entry :: rest.filter (beginsWith key)
      else rest.filter (beginsWith key) := by
  by_cases hkey : key = (KeyPath.ofName entry.1).first
  · simp [beginsWith, hkey]
  · simp [beginsWith, hkey, Ne.symm hkey]

/-- **Keys do not get in the way of each other**: entries can be assigned exactly if the entries of
each key can be put there, and then each key has what becomes of it. -/
theorem exists_assignAll_iff {f : String → Option GatheredValue} :
    (∃ next, assignAll settings entries origin = .ok next ∧ ∀ key, next.get? key = f key) ↔
      ∀ key, historyOf (settings.get? key) (entries.filter (beginsWith key)) origin =
        .ok (f key) := by
  induction entries generalizing settings with
  | nil =>
    constructor
    · rintro ⟨next, hnext, hget⟩ key
      cases hnext
      exact congrArg Except.ok (hget key)
    · exact fun h => ⟨settings, rfl, fun key => Except.ok.inj (h key)⟩
  | cons entry rest ih =>
    -- The first entry changes its own key, and is in the history of no other one.
    have hstep : ∀ {found}, put (settings.get? (KeyPath.ofName entry.1).first)
          (KeyPath.ofName entry.1).steps entry.2 (some origin) = .ok found →
        ∀ key, historyOf ((settings.set (KeyPath.ofName entry.1).first found).get? key)
            (rest.filter (beginsWith key)) origin = .ok (f key) ↔
          historyOf (settings.get? key) ((entry :: rest).filter (beginsWith key)) origin =
            .ok (f key) := by
      intro found hput key
      rw [get?_set, filter_beginsWith_cons]
      by_cases hkey : key = (KeyPath.ofName entry.1).first
      · rw [if_pos hkey, if_pos hkey, historyOf_cons_eq_ok_iff, hkey, hput]
        simp
      · rw [if_neg hkey, if_neg hkey]
    constructor
    · rintro ⟨next, hnext, hget⟩ key
      obtain ⟨found, hput, hrest⟩ := assignAll_cons_eq_ok_iff.mp hnext
      exact (hstep hput key).mp (ih.mp ⟨next, hrest, hget⟩ key)
    · intro h
      have hfirst := h (KeyPath.ofName entry.1).first
      rw [filter_beginsWith_cons, if_pos rfl, historyOf_cons_eq_ok_iff] at hfirst
      obtain ⟨found, hput, -⟩ := hfirst
      obtain ⟨next, hrest, hget⟩ := ih.mpr fun key => (hstep hput key).mpr (h key)
      exact ⟨next, assignAll_cons_eq_ok_iff.mpr ⟨found, hput, hrest⟩, hget⟩

/-- Entries can be put at a key in any order if none of them counts from the end of a list. -/
theorem historyOf_of_forward
    (h : ∀ entry ∈ entries, ∀ step ∈ (KeyPath.ofName entry.1).steps, ¬step.IsBackward) :
    ∃ found, historyOf old entries origin = .ok found := by
  induction entries generalizing old with
  | nil => exact ⟨old, rfl⟩
  | cons entry rest ih =>
    obtain ⟨between, hbetween⟩ := put_of_forward (h entry List.mem_cons_self)
    obtain ⟨found, hfound⟩ := ih fun entry hentry => h entry (List.mem_cons_of_mem _ hentry)
    exact ⟨found, historyOf_cons_eq_ok_iff.mpr ⟨between, hbetween, hfound⟩⟩

/-! ## Entries in any order -/

/-- The keys that the paths of entries begin with. -/
def keysOf (entries : SettingsTable) : List String :=
  entries.map fun entry => (KeyPath.ofName entry.1).first

theorem count_keysOf (entries : SettingsTable) (key : String) :
    (keysOf entries).count key = (entries.filter (beginsWith key)).length := by
  rw [keysOf, List.count, List.countP_map, List.countP_eq_length_filter]
  rfl

/-- A key for which no source has two entries. -/
def IsSingle (sources : List SettingsSource) (key : String) : Prop :=
  ∀ source ∈ sources, (keysOf source.entries).count key ≤ 1

/-- A key for which the order of entries does not matter: no source has two entries for it, or it is
no setting and none of its entries counts from the end of a list. -/
def IsSettled (sources : List SettingsSource) (key : String) : Prop :=
  IsSingle sources key ∨ (∀ setting : SettingsKey, setting.text ≠ key) ∧
    ∀ source ∈ sources, ∀ entry ∈ source.entries, beginsWith key entry = true →
      ∀ step ∈ (KeyPath.ofName entry.1).steps, ¬step.IsBackward

/-- Keys are settled if no two entries of a source begin with one key. -/
theorem isSettled_of_nodup {sources : List SettingsSource}
    (h : ∀ source ∈ sources, (keysOf source.entries).Nodup) (key : String) :
    IsSettled sources key :=
  .inl fun source hsource => List.nodup_iff_count_le_one.mp (h source hsource) key

variable {given : List SettingsSource} {first second : GatheringOrder} {source : SettingsSource}

theorem entriesOf_perm_entriesOf (first second : GatheringOrder) (source : SettingsSource) :
    (first.entriesOf source).Perm (second.entriesOf source) :=
  (first.entriesOf_perm source).trans (second.entriesOf_perm source).symm

/-- A source whose keys are settled gives the same values to single keys in any order. -/
theorem gather_of_isSettled (hsettled : ∀ key, IsSettled given key) (hmem : source ∈ given)
    (hsame : ∀ key, IsSingle given key → settings.get? key = other.get? key)
    (h : gather first settings source = .ok next) :
    ∃ last, gather second other source = .ok last ∧
      ∀ key, IsSingle given key → next.get? key = last.get? key := by
  have hhistory := exists_assignAll_iff.mp ⟨next, h, fun _ => rfl⟩
  have hagain : ∀ key, ∃ found,
      historyOf (other.get? key) ((second.entriesOf source).filter (beginsWith key))
        source.origin = .ok found ∧ (IsSingle given key → next.get? key = found) := by
    intro key
    by_cases hsingle : IsSingle given key
    · have hone : ((first.entriesOf source).filter (beginsWith key)).length ≤ 1 := by
        rw [((first.entriesOf_perm source).filter _).length_eq, ← count_keysOf]
        exact hsingle source hmem
      rw [filter_eq_of_perm (entriesOf_perm_entriesOf first second source) hone,
        ← hsame key hsingle]
      exact ⟨_, hhistory key, fun _ => rfl⟩
    · -- Then nothing counts from the end, and all entries can be put there somehow.
      obtain ⟨-, hforward⟩ := (hsettled key).resolve_left hsingle
      obtain ⟨found, hfound⟩ : ∃ found, historyOf (other.get? key)
          ((second.entriesOf source).filter (beginsWith key)) source.origin = .ok found := by
        apply historyOf_of_forward
        intro entry hentry
        obtain ⟨hentry, hbegins⟩ := List.mem_filter.mp hentry
        exact hforward source hmem entry ((second.entriesOf_perm source).mem_iff.mp hentry) hbegins
      exact ⟨found, hfound, fun h => absurd h hsingle⟩
  choose f hf using hagain
  obtain ⟨last, hlast, hget⟩ := exists_assignAll_iff.mpr fun key => (hf key).1
  exact ⟨last, hlast, fun key hkey => ((hf key).2 hkey).trans (hget key).symm⟩

theorem foldlM_gather_of_isSettled (hsettled : ∀ key, IsSettled given key)
    {part : List SettingsSource} (hmem : part ⊆ given) :
    ∀ {settings other next : GatheredSettings},
      (∀ key, IsSingle given key → settings.get? key = other.get? key) →
      part.foldlM (gather first) settings = .ok next →
      ∃ last, part.foldlM (gather second) other = .ok last ∧
        ∀ key, IsSingle given key → next.get? key = last.get? key := by
  induction part with
  | nil =>
    intro settings other next hsame h
    cases h
    exact ⟨other, rfl, hsame⟩
  | cons source rest ih =>
    intro settings other next hsame h
    -- After each source both runs agree about the keys that are settings of one value.
    obtain ⟨between, hbetween, h⟩ := bind_eq_ok.mp h
    obtain ⟨left, hleft, hleftSame⟩ : ∃ left, gather second other source = .ok left ∧ _ :=
      gather_of_isSettled hsettled (hmem List.mem_cons_self) hsame hbetween
    obtain ⟨last, hlast, hlastSame⟩ := ih (fun _ h => hmem (List.mem_cons_of_mem _ h)) hleftSame h
    exact ⟨last, bind_eq_ok.mpr ⟨left, hleft, hlast⟩, hlastSame⟩

/-! ## Formats in any order -/

/-- A package has settings in one format: its settings file has no further ending, or there is at
most one format with files that have its endings. -/
def HasOneFormat (store : FileStore) (root : FilePath) : Prop :=
  store.isFile (root.join Settings.fileName) = false →
    ∀ place ∈ places .written root, ∀ another ∈ places .written root,
      store.isFile place.1 = true → store.isFile another.1 = true → place.2 = another.2

variable {store : FileStore} {root : FilePath} {environment : Environment}

/-- The places are the same ones in any order. -/
theorem mem_places_iff {order : GatheringOrder} {place : FilePath × SettingsFormat} :
    place ∈ places order root ↔ place ∈ places .written root := by
  have hformats : ∀ format, format ∈ order.formats ↔ format ∈ SettingsFormat.all :=
    fun _ => order.formats_perm.mem_iff
  simp only [places, GatheringOrder.written, List.mem_cons, List.mem_flatMap, hformats]

/-- The settings file is the same one in any order of the formats. -/
theorem file?_eq_of_hasOneFormat (h : HasOneFormat store root) (first second : GatheringOrder) :
    file? first store root = file? second store root := by
  unfold file? places
  cases hplain : store.isFile (root.join Settings.fileName) with
  | true => simp [hplain]
  | false =>
    -- A format in which a file is found has a place among those in the written order.
    have hplaces : ∀ {format : SettingsFormat}, format ∈ first.formats →
        ((format.endings.map fun ending =>
          (root.join ⟨Settings.fileName.text ++ "." ++ ending⟩, format)).find?
            fun place => store.isFile place.1).isSome = true →
        ∃ place ∈ places .written root, store.isFile place.1 = true ∧ place.2 = format := by
      intro format hformat hfound
      obtain ⟨place, hmem, hfile⟩ := List.find?_isSome.mp hfound
      have hplace : place ∈ places first root :=
        List.mem_cons_of_mem _ (List.mem_flatMap.mpr ⟨format, hformat, hmem⟩)
      refine ⟨place, mem_places_iff.mp hplace, hfile, ?_⟩
      obtain ⟨ending, -, rfl⟩ := List.mem_map.mp hmem
      rfl
    rw [List.find?_cons_of_neg (by simp [hplain]), List.find?_cons_of_neg (by simp [hplain]),
      List.find?_flatMap, List.find?_flatMap]
    apply findSome?_eq_of_perm (first.formats_perm.trans second.formats_perm.symm)
    -- So two formats with a file are the same one, and the order of the formats does not matter.
    intro format hformat another hanother hfound hotherFound
    obtain ⟨place, hmem, hfile, rfl⟩ := hplaces hformat hfound
    obtain ⟨other, hother, hotherFile, rfl⟩ := hplaces hanother hotherFound
    exact h hplain place hmem other hother hfile hotherFile

theorem sources_eq_of_hasOneFormat (h : HasOneFormat store root) (first second : GatheringOrder) :
    sources first store root environment = sources second store root environment := by
  have hsource : fileSource? first store root = fileSource? second store root := by
    -- The equation of `fileSource?` would unfold the readers of all formats.
    delta fileSource?
    rw [file?_eq_of_hasOneFormat h first second]
  rw [sources, sources, hsource]

end GatheredSettings

/-! ## Settings in any order -/

namespace Settings

open GatheredSettings

/-- Settings for which no order matters: there is one format of them, and each key is settled. -/
structure IsDefinite (store : FileStore) (root : FilePath) (environment : Environment) : Prop where
  hasOneFormat : HasOneFormat store root
  isSettled : ∀ found, sources .written store root environment = .ok found →
    ∀ key, IsSettled found key

variable {store : FileStore} {root : FilePath} {environment : Environment} {settings : Settings}

/-- **Definite settings are read in any order**, if they are read in one. -/
theorem readIn_of_isDefinite (h : IsDefinite store root environment) {first : GatheringOrder}
    (hread : readIn first store root environment = .ok settings) (second : GatheringOrder) :
    readIn second store root environment = .ok settings := by
  have hsources (order : GatheringOrder) : sources order store root environment =
      sources .written store root environment :=
    sources_eq_of_hasOneFormat h.hasOneFormat order .written
  obtain ⟨gathered, hgathered, hsettings⟩ := bind_eq_ok.mp hread
  obtain ⟨found, hfound, hgathered⟩ := bind_eq_ok.mp hgathered
  rw [hsources] at hfound
  have hsettled := h.isSettled found hfound
  obtain ⟨again, hagain, hsame⟩ : ∃ again, found.foldlM (gather second) [] = .ok again ∧ _ :=
    foldlM_gather_of_isSettled hsettled (List.Subset.refl _) (fun _ _ => rfl) hgathered
  have hkeys : again.toSettings = gathered.toSettings := by
    apply toSettings_congr
    intro key
    -- The key of a setting is single, since it is settled.
    exact (hsame key.text ((hsettled key.text).resolve_right fun h => h.1 key rfl)).symm
  refine bind_eq_ok.mpr ⟨again, bind_eq_ok.mpr ⟨found, ?_, hagain⟩, hkeys.trans hsettings⟩
  rw [hsources, hfound]

end Settings

end RouteRegistrar
