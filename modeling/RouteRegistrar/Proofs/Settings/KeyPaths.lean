import Mathlib.Data.List.Induction
import RouteRegistrar.Settings.Read

/-!
# Assigning at key paths

An assignment replaces the value of the key that its path begins with, and of no other one. Below
that key a path makes what it needs on its way. So there is one thing only that it cannot do: to
stand in front of the beginning of a list.
-/

namespace RouteRegistrar

/-! ## Tables -/

/-- In a list without repeated keys, a key is looked up just if it is there with its value. -/
theorem mem_iff_lookup_eq_some {α : Type} {entries : List (String × α)}
    (hnodup : (entries.map (·.1)).Nodup) {key : String} {value : α} :
    (key, value) ∈ entries ↔ entries.lookup key = some value := by
  induction entries with
  | nil => simp
  | cons entry rest ih =>
    obtain ⟨first, found⟩ := entry
    obtain ⟨hfirst, hrest⟩ := List.nodup_cons.mp hnodup
    rw [List.lookup_cons, List.mem_cons, Prod.mk.injEq]
    by_cases hkey : key = first
    · subst hkey
      -- The key is not named again, so the value that is looked up is the only one.
      have hother : (key, value) ∉ rest := fun hmem =>
        hfirst (List.mem_map.mpr ⟨_, hmem, rfl⟩)
      simp [hother, eq_comm]
    · rw [beq_eq_false_iff_ne.mpr hkey]
      simp [hkey, ih hrest]

namespace SettingsTable

variable {entries : SettingsTable} {key : String} {value : SettingsValue}

theorem mem_set {entry : String × SettingsValue} (h : entry ∈ entries.set key value) :
    entry = (key, value) ∨ entry ∈ entries := by
  induction entries with
  | nil => exact .inl (List.mem_singleton.mp h)
  | cons first rest ih =>
    obtain ⟨k, v⟩ := first
    rw [set] at h
    -- Either the entry is replaced here, or this one stays and the rest is searched.
    split at h
    case isTrue heq =>
      rcases List.mem_cons.mp h with rfl | hrest
      · exact .inl (by rw [heq])
      · exact .inr (List.mem_cons_of_mem _ hrest)
    case isFalse =>
      rcases List.mem_cons.mp h with rfl | hrest
      · exact .inr List.mem_cons_self
      · exact (ih hrest).imp_right (List.mem_cons_of_mem _)

theorem mem_keys_set {name : String} : name ∈ (entries.set key value).map (·.1) ↔
    name = key ∨ name ∈ entries.map (·.1) := by
  induction entries with
  | nil => simp [set]
  | cons first rest ih =>
    obtain ⟨k, v⟩ := first
    rw [set]
    split
    case isTrue heq => simp [heq]
    case isFalse =>
      rw [List.map_cons, List.mem_cons, ih, List.map_cons, List.mem_cons, or_left_comm]

theorem ofEntries_concat (front : List (String × SettingsValue))
    (last : String × SettingsValue) :
    ofEntries (front ++ [last]) = (ofEntries front).set last.1 last.2 :=
  List.foldl_append

/-- A table has no entries but the given ones. -/
theorem mem_of_mem_ofEntries {given : List (String × SettingsValue)}
    {entry : String × SettingsValue} (h : entry ∈ ofEntries given) : entry ∈ given := by
  induction given using List.reverseRecOn with
  | nil => cases h
  | append_singleton front last ih =>
    rw [ofEntries_concat] at h
    rcases mem_set h with rfl | hfront
    · exact List.mem_append_right _ List.mem_cons_self
    · exact List.mem_append_left _ (ih hfront)

/-- A table has all keys of the given entries. -/
theorem mem_keys_ofEntries {given : List (String × SettingsValue)} :
    key ∈ (ofEntries given).map (·.1) ↔ key ∈ given.map (·.1) := by
  induction given using List.reverseRecOn with
  | nil => rfl
  | append_singleton front last ih =>
    rw [ofEntries_concat, mem_keys_set, ih, List.map_append, List.mem_append, List.map_singleton,
      List.mem_singleton, or_comm]

end SettingsTable

/-! ## Steps -/

/-- An index that counts from the end. -/
def KeyStep.IsBackward : KeyStep → Prop
  | .key _ => False
  | .index position => position < 0

namespace SettingsValue

variable {target value : SettingsValue} {steps : List KeyStep}

/-- Steps lead somewhere below any value if none of them counts from the end. -/
theorem assignBelow_of_forward (h : ∀ step ∈ steps, ¬ step.IsBackward) :
    ∃ new, assignBelow target value steps = .ok new := by
  induction steps generalizing target with
  | nil => exact ⟨value, rfl⟩
  | cons step rest ih =>
    have hrest : ∀ step ∈ rest, ¬ step.IsBackward := fun step hstep =>
      h step (List.mem_cons_of_mem _ hstep)
    cases step with
    | key name =>
      cases rest with
      | nil => exact ⟨_, rfl⟩
      | cons next more =>
        obtain ⟨below, hbelow⟩ := @ih ((target.entries.lookup name).getD .null) hrest
        exact ⟨_, bind_eq_ok.mpr ⟨below, hbelow, rfl⟩⟩
    | index position =>
      have hposition : 0 ≤ position := Int.not_lt.mp (h _ List.mem_cons_self)
      -- From the front every place can be reached: lists are filled up as far as needed.
      have hplace : placeOf target.elements.length position = .ok position.toNat :=
        if_pos hposition
      obtain ⟨below, hbelow⟩ := @ih (target.elements[position.toNat]?.getD .null) hrest
      exact ⟨_, bind_eq_ok.mpr ⟨_, hplace, bind_eq_ok.mpr ⟨below, hbelow, rfl⟩⟩⟩

/-- Nothing is there to count from the end of. -/
theorem assignBelow_null_of_backward (h : ∃ step ∈ steps, step.IsBackward) :
    ∃ failure, assignBelow .null value steps = .error failure := by
  induction steps with
  | nil =>
    obtain ⟨step, hstep, -⟩ := h
    cases hstep
  | cons step rest ih =>
    obtain ⟨found, hfound, hbackward⟩ := h
    cases step with
    | key name =>
      obtain rfl | hrest := List.mem_cons.mp hfound
      · cases hbackward
      · obtain ⟨failure, hfailure⟩ := ih ⟨found, hrest, hbackward⟩
        cases rest with
        | nil => cases hrest
        | cons next more => exact ⟨failure, bind_eq_error.mpr (.inl hfailure)⟩
    | index position =>
      -- Below a value that does not exist a step backward has nothing to count from.
      by_cases hposition : 0 ≤ position
      · have hplace : placeOf 0 position = .ok position.toNat := if_pos hposition
        obtain rfl | hrest := List.mem_cons.mp hfound
        · exact absurd hbackward (Int.not_lt.mpr hposition)
        · obtain ⟨failure, hfailure⟩ := ih ⟨found, hrest, hbackward⟩
          exact ⟨failure, bind_eq_error.mpr (.inr ⟨_, hplace, bind_eq_error.mpr (.inl hfailure)⟩)⟩
      · have hplace : placeOf 0 position = .error (.missingPlace position) := by
          rw [placeOf, if_neg hposition]
          exact if_neg (by omega)
        exact ⟨_, bind_eq_error.mpr (.inl hplace)⟩

/-- A list or a table. -/
def IsComposite : SettingsValue → Prop
  | .list _ => True
  | .table _ => True
  | _ => False

/-- What steps lead to is inside of something. -/
theorem isComposite_of_assignBelow {new : SettingsValue} (hsteps : steps ≠ [])
    (h : assignBelow target value steps = .ok new) : new.IsComposite := by
  cases steps with
  | nil => exact absurd rfl hsteps
  | cons step rest =>
    -- The first step alone makes the value a table or a list.
    cases step with
    | key name =>
      cases rest with
      | nil =>
        cases h
        trivial
      | cons next more =>
        obtain ⟨below, -, h⟩ := bind_eq_ok.mp h
        cases h
        trivial
    | index position =>
      obtain ⟨place, -, h⟩ := bind_eq_ok.mp h
      obtain ⟨below, -, h⟩ := bind_eq_ok.mp h
      cases h
      trivial

end SettingsValue

/-! ## Assignments -/

namespace GatheredSettings

variable {settings : GatheredSettings} {key name : String} {text : String} {origin : Option String}

theorem lookup_cons_of_ne {entry : String × GatheredValue} (h : name ≠ entry.1) :
    List.lookup name (entry :: settings) = settings.lookup name := by
  rw [List.lookup_cons, beq_eq_false_iff_ne.mpr h]

theorem lookup_filter_ne (h : name ≠ key) :
    List.lookup name (settings.filter (·.1 ≠ key)) = settings.lookup name := by
  induction settings with
  | nil => rfl
  | cons entry rest ih =>
    by_cases hentry : entry.1 = key
    · have hname : name ≠ entry.1 := hentry ▸ h
      rw [List.filter_cons_of_neg (by simpa using hentry), ih, lookup_cons_of_ne hname]
    · rw [List.filter_cons_of_pos (by simpa using hentry), List.lookup_cons, List.lookup_cons, ih]

/-- Only the key that is set has a new value. -/
theorem get?_set (value : GatheredValue) : (settings.set key value).get? name =
    if name = key then some value else settings.get? name := by
  split
  case isTrue h =>
    rw [h]
    exact List.lookup_cons_self
  case isFalse h => exact (lookup_cons_of_ne h).trans (lookup_filter_ne h)

/-- A text at the end of some steps is put below what is there. -/
theorem put_of_steps {old : Option GatheredValue} {steps : List KeyStep} {value : SettingsValue}
    (h : steps ≠ []) : put old steps value origin =
      let before := old.getD ⟨.null, none⟩
      (before.value.assignBelow value steps).map (updated before) := by
  unfold put
  split
  case h_4 => rfl
  all_goals exact absurd rfl h

/-- A value can be put wherever steps lead that count nowhere from the end. -/
theorem put_of_forward {old : Option GatheredValue} {steps : List KeyStep} {value : SettingsValue}
    (h : ∀ step ∈ steps, ¬ step.IsBackward) : ∃ found, put old steps value origin = .ok found := by
  -- Without steps the value itself is put, and that never fails.
  by_cases hsteps : steps = []
  · subst hsteps
    unfold put
    split
    case h_4 => contradiction
    all_goals exact ⟨_, rfl⟩
  · rw [put_of_steps hsteps]
    obtain ⟨new, hnew⟩ : ∃ new, SettingsValue.assignBelow (old.getD ⟨.null, none⟩).value value
        steps = .ok new := SettingsValue.assignBelow_of_forward h
    simp only [hnew]
    exact ⟨_, rfl⟩

/-- A plain name sets its own key. -/
theorem assign_of_plain (h : (KeyPath.ofName name).steps = []) :
    settings.assign name (.text text) origin =
      .ok (settings.set (KeyPath.ofName name).first ⟨.text text, origin⟩) := by
  simp only [assign, h]
  rfl

/-- A name whose path counts nowhere from the end sets the key that the path begins with. -/
theorem assign_of_forward (h : ∀ step ∈ (KeyPath.ofName name).steps, ¬ step.IsBackward) :
    ∃ found, settings.assign name (.text text) origin =
      .ok (settings.set (KeyPath.ofName name).first found) := by
  obtain ⟨found, hfound⟩ : ∃ found, put (settings.get? (KeyPath.ofName name).first)
      (KeyPath.ofName name).steps (.text text) origin = .ok found := put_of_forward h
  refine ⟨found, ?_⟩
  simp only [assign, hfound]
  rfl

theorem assign_nil (h : (KeyPath.ofName name).steps ≠ []) :
    assign [] name (.text text) origin =
      (SettingsValue.assignBelow .null (.text text) (KeyPath.ofName name).steps).map fun new =>
        [((KeyPath.ofName name).first, ⟨new, none⟩)] := by
  simp only [assign, put_of_steps h, get?, List.lookup_nil, Option.getD_none]
  cases SettingsValue.assignBelow .null (.text text) (KeyPath.ofName name).steps <;> rfl

/-- Without settings there is nothing to count from the end of. -/
theorem assign_nil_of_backward (h : ∃ step ∈ (KeyPath.ofName name).steps, step.IsBackward) :
    ∃ failure, assign [] name (.text text) origin = .error failure := by
  have hsteps : (KeyPath.ofName name).steps ≠ [] := by
    obtain ⟨step, hstep, -⟩ := h
    exact List.ne_nil_of_mem hstep
  obtain ⟨failure, hfailure⟩ : ∃ failure, SettingsValue.assignBelow .null (.text text)
      (KeyPath.ofName name).steps = .error failure := SettingsValue.assignBelow_null_of_backward h
  rw [assign_nil hsteps, hfailure]
  exact ⟨failure, rfl⟩

/-- What a path of several steps makes is a list or a table. -/
theorem assign_nil_of_steps (h : (KeyPath.ofName name).steps ≠ []) {next : GatheredSettings}
    (hnext : assign [] name (.text text) origin = .ok next) :
    ∃ found, next = [((KeyPath.ofName name).first, found)] ∧ found.value.IsComposite := by
  rw [assign_nil h] at hnext
  -- There was nothing before, so the assignment leaves one composite value under the first key.
  cases hbelow : SettingsValue.assignBelow .null (.text text) (KeyPath.ofName name).steps with
  | error failure =>
    rw [hbelow] at hnext
    cases hnext
  | ok new =>
    rw [hbelow] at hnext
    cases hnext
    exact ⟨_, rfl, SettingsValue.isComposite_of_assignBelow h hbelow⟩

end GatheredSettings

end RouteRegistrar
