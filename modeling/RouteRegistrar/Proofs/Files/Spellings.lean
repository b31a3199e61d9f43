import RouteRegistrar.Proofs.Files.Paths

/-!
# Spellings of a path

Without two dots, the components of a path are the names of the location that it leads to, except
for a single dot at the beginning. So two paths that lead to one place have the same components,
unless one of them goes up through two dots, or begins with a dot where the other one does not.
-/

namespace RouteRegistrar

namespace FilePath

/-- The names on the way that a path describes, with the root in front and without single dots. -/
def names (path : FilePath) : List String :=
  (if path.isAbsolute then ["/"] else []) ++ (FileStore.pathNames path).filter (· ≠ ".")

theorem ofList_eq_dot_iff {segment : List Char} :
    String.ofList segment = "." ↔ segment = ['.'] := by
  rw [← String.toList_inj, String.toList_ofList]
  rfl

/-- The segments that count are those whose names are followed, without single dots. -/
theorem map_filter_isVoid (segments : List (List Char)) :
    (segments.filter (!isVoid ·)).map String.ofList =
      ((segments.filter (!·.isEmpty)).map String.ofList).filter (· ≠ ".") := by
  induction segments with
  | nil => rfl
  | cons segment rest ih =>
    -- Void segments are the empty ones and single dots.
    by_cases hempty : segment = []
    · simpa [isVoid, hempty] using ih
    · by_cases hdot : segment = ['.']
      · simpa [isVoid, hdot] using ih
      · simpa [isVoid, hempty, hdot, ofList_eq_dot_iff] using ih

/-- Components are names, except for a single dot at the beginning. -/
theorem components_eq (path : FilePath) :
    path.components = path.names ∨ path.components = "." :: path.names := by
  obtain ⟨first, rest, hsplit⟩ :=
    List.exists_cons_of_ne_nil (Text.splitOn_ne_nil '/' path.text.toList)
  have hrest := map_filter_isVoid rest
  simp only [components, names, FileStore.pathNames, hsplit]
  by_cases habsolute : path.isAbsolute = true
  · -- The part in front of the first slash is empty.
    have hfirst : first = [] := by
      have hhead : path.text.toList.head? = some '/' := by simpa [isAbsolute] using habsolute
      obtain ⟨more, htext⟩ := List.head?_eq_some_iff.mp hhead
      rw [htext, Text.splitOn, if_pos rfl] at hsplit
      exact (List.cons.inj hsplit).1.symm
    left
    simp [habsolute, hfirst, hrest]
  · by_cases hempty : first = []
    · left
      simp [habsolute, hempty, hrest]
    · by_cases hdot : first = ['.']
      · right
        simp [habsolute, hdot, hrest]
      · left
        simp [habsolute, hempty, hdot, hrest, ofList_eq_dot_iff]

/-- Two dots are a component wherever they are followed. -/
theorem mem_components_of_mem_pathNames {path : FilePath}
    (h : ".." ∈ FileStore.pathNames path) : ".." ∈ path.components := by
  have hmem : ".." ∈ path.names := List.mem_append_right _ (List.mem_filter.mpr ⟨h, by decide⟩)
  rcases path.components_eq with heq | heq
  · rwa [heq]
  · rw [heq]
    exact List.mem_cons_of_mem _ hmem

end FilePath

namespace FileStore

variable {store : FileStore} {path other : FilePath} {location : Location}

/-- Without two dots, names lead to where they are put one behind the other. -/
theorem eq_append_of_walk {names : List String} (hdots : ".." ∉ names) :
    ∀ {here}, store.walk here names = .ok location → location = here ++ names.filter (· ≠ ".") := by
  induction names with
  | nil =>
    intro here h
    cases h
    simp
  | cons name rest ih =>
    intro here h
    obtain ⟨hname, hrest⟩ := List.ne_and_not_mem_of_not_mem_cons hdots
    rw [walk] at h
    split at h
    -- A single dot stays in the directory, as if it were not there.
    case isTrue hdot =>
      rw [ih hrest h]
      simp [hdot]
    case isFalse hdot =>
      rw [if_neg (Ne.symm hname)] at h
      split at h
      case isTrue => cases h
      case isFalse =>
        have hself : (name :: rest).filter (· ≠ ".") = name :: rest.filter (· ≠ ".") := by
          simp [hdot]
        rw [hself, List.append_cons]
        -- A name is added to the location, and the walk goes on below it only if it is a directory.
        cases rest with
        | nil =>
          cases h
          simp
        | cons second more =>
          simp only [List.isEmpty_cons, Bool.false_eq_true, if_false] at h
          split at h
          case h_1 => cases h
          case h_2 => cases h
          case h_3 => exact ih hrest h

/-- A path without two dots leads to its names. -/
theorem eq_names_of_locate (h : store.locate path = .ok location)
    (hdots : ".." ∉ path.components) : location = path.names := by
  have hnames : ".." ∉ pathNames path := fun hmem =>
    hdots (FilePath.mem_components_of_mem_pathNames hmem)
  rw [eq_append_of_walk hnames (walk_of_locate h).2.2]
  rfl

end FileStore

namespace FilePath

/-- Two spellings differ by dots: by two dots in one of them, or by one dot at the beginning. -/
def DiffersByDots (path other : FilePath) : Prop :=
  ".." ∈ path.components ∨ ".." ∈ other.components ∨
    path.components = "." :: other.components ∨ other.components = "." :: path.components

/-- Two paths to one place have the same components, unless they differ by dots. -/
theorem components_eq_or_differsByDots {store : FileStore} {path other : FilePath}
    {location : Location} (h : store.locate path = .ok location)
    (hother : store.locate other = .ok location) :
    path.components = other.components ∨ path.DiffersByDots other := by
  by_cases hdots : ".." ∈ path.components
  · exact .inr (.inl hdots)
  by_cases hdotsOther : ".." ∈ other.components
  · exact .inr (.inr (.inl hdotsOther))
  -- Without two dots the location is made of the names, so both paths have the same names.
  have hnames : path.names = other.names :=
    (FileStore.eq_names_of_locate h hdots).symm.trans
      (FileStore.eq_names_of_locate hother hdotsOther)
  -- The components are the names, maybe with a dot in front: both have it, none or one of them.
  rcases path.components_eq with heq | heq <;> rcases other.components_eq with heqOther | heqOther
  · exact .inl (by rw [heq, heqOther, hnames])
  · exact .inr (.inr (.inr (.inr (by rw [heq, heqOther, hnames]))))
  · exact .inr (.inr (.inr (.inl (by rw [heq, heqOther, hnames]))))
  · exact .inl (by rw [heq, heqOther, hnames])

end FilePath

end RouteRegistrar
