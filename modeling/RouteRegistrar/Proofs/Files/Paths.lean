import RouteRegistrar.Files.Store

/-!
# Paths of files

A path that leads to a file ends in the name of the file: whatever dots and slashes stand in front
of it, none stand behind it. So every file has a name and a directory.
-/

namespace RouteRegistrar

/-! ## Segments -/

namespace Text

theorem splitOn_ne_nil (sep : Char) (text : List Char) : splitOn sep text ≠ [] := by
  cases text with
  | nil => exact nofun
  | cons c rest =>
    unfold splitOn
    split
    · exact nofun
    · split <;> exact nofun

/-- A character that does not separate belongs to the first part. -/
theorem splitOn_cons_of_ne {sep c : Char} (hne : c ≠ sep) (rest : List Char) :
    ∃ first parts, splitOn sep rest = first :: parts ∧
      splitOn sep (c :: rest) = (c :: first) :: parts := by
  obtain ⟨first, parts, hrest⟩ := List.exists_cons_of_ne_nil (splitOn_ne_nil sep rest)
  refine ⟨first, parts, hrest, ?_⟩
  rw [splitOn, if_neg hne, hrest]

/-- No part contains the separator. -/
theorem not_mem_of_mem_splitOn {sep : Char} {text part : List Char}
    (h : part ∈ splitOn sep text) : sep ∉ part := by
  induction text generalizing part with
  | nil =>
    rw [splitOn, List.mem_singleton] at h
    simp [h]
  | cons c rest ih =>
    -- A separator starts a new, empty part; any other character goes to the first part of the rest.
    by_cases hc : c = sep
    · rw [splitOn, if_pos hc] at h
      rcases List.mem_cons.mp h with rfl | hrest
      · exact nofun
      · exact ih hrest
    · obtain ⟨first, parts, hrest, hcons⟩ := splitOn_cons_of_ne hc rest
      rw [hcons] at h
      rcases List.mem_cons.mp h with rfl | hmem
      · have hfirst : sep ∉ first := ih (hrest ▸ List.mem_cons_self)
        simp [hfirst, Ne.symm hc]
      · exact ih (hrest ▸ List.mem_cons_of_mem _ hmem)

/-- The last part of a text that does not end in the separator has the same last character. -/
theorem getLast?_splitOn {sep last : Char} {text : List Char} (h : text.getLast? = some last)
    (hne : last ≠ sep) :
    ∃ part, (splitOn sep text).getLast? = some part ∧ part.getLast? = some last := by
  induction text with
  | nil => cases h
  | cons c rest ih =>
    cases rest with
    | nil =>
      have hc : c = last := by simpa using h
      subst hc
      exact ⟨[c], by rw [splitOn, if_neg hne]; rfl, rfl⟩
    | cons d more =>
      obtain ⟨part, hpart, hlast⟩ := ih (by simpa using h)
      -- The last part of the rest is the last one of the whole, but `c` may go in front of it.
      by_cases hc : c = sep
      · refine ⟨part, ?_, hlast⟩
        rw [splitOn, if_pos hc, List.getLast?_cons, hpart]
        rfl
      · obtain ⟨first, parts, hrest, hcons⟩ := splitOn_cons_of_ne hc (d :: more)
        rw [hcons]
        rw [hrest] at hpart
        cases parts with
        | nil =>
          have hfirst : first = part := by simpa using hpart
          refine ⟨c :: first, rfl, ?_⟩
          rw [List.getLast?_cons, hfirst, hlast]
          rfl
        | cons second parts => exact ⟨part, by simpa using hpart, hlast⟩

end Text

/-! ## Entries that a path leads to -/

namespace FileStore

variable {store : FileStore} {path : FilePath}

theorem lookup_of_isFixed {location : Location} (h : isFixed location = true) :
    store.lookup location = some .directory := by
  rw [lookup, if_pos h]

theorem lookup_of_not_isFixed {location : Location} (h : isFixed location = false) :
    store.lookup location = (store.entries.find? (·.1 = location)).map (·.2) := by
  rw [lookup, if_neg (by simp [h])]

/-- A path to a file leads to its entry, and ends in no slash. -/
theorem locate_of_isFile (h : store.isFile path = true) :
    ∃ location content, store.locate path = .ok location ∧
      store.lookup location = some (.file content) ∧ endsInSlash path = false := by
  have hfind : ∃ content, store.find path = .ok (.file content) := by
    unfold isFile at h
    split at h
    case h_1 content hfind => exact ⟨content, hfind⟩
    case h_2 => cases h
  obtain ⟨content, hfind⟩ := hfind
  obtain ⟨location, hlocate, hentry⟩ := bind_eq_ok.mp hfind
  refine ⟨location, content, hlocate, ?_⟩
  -- With nothing, a directory or a slash in the end, no file would be found.
  split at hentry
  case h_1 => cases hentry
  case h_2 => cases hentry
  case h_3 found hlookup =>
    split at hentry
    case isTrue => cases hentry
    case isFalse hslash =>
      cases hentry
      exact ⟨hlookup, by simpa using hslash⟩

/-- A path leads to a location if it may be followed at all and its names lead there. -/
theorem locate_eq_ok_iff {location : Location} :
    store.locate path = .ok location ↔ '\x00' ∉ path.text.toList ∧ path.text ≠ "" ∧
      path.text.utf8ByteSize ≤ pathLimit ∧
      store.walk (if path.isAbsolute then ["/"] else []) (pathNames path) = .ok location := by
  have hnull : path.text.toList.contains '\x00' = true ↔ '\x00' ∈ path.text.toList :=
    List.contains_iff_mem
  have hempty : path.text.isEmpty = true ↔ path.text = "" := String.isEmpty_iff
  constructor
  · intro h
    -- Three checks come before the walk, and each of them rejects the path.
    unfold locate at h
    split at h
    case isTrue => cases h
    case isFalse hcontains =>
      split at h
      case isTrue => cases h
      case isFalse hnonempty =>
        split at h
        case isTrue => cases h
        case isFalse hsize =>
          exact ⟨hcontains ∘ hnull.mpr, hnonempty ∘ hempty.mpr, Nat.le_of_not_lt hsize, h⟩
  · rintro ⟨hcontains, hnonempty, hsize, h⟩
    rwa [locate, if_neg (hcontains ∘ hnull.mp), if_neg (hnonempty ∘ hempty.mp),
      if_neg (Nat.not_lt_of_le hsize)]

/-- A path that leads to a location is nonempty, within the limit, and followed name by name. -/
theorem walk_of_locate {location : Location} (h : store.locate path = .ok location) :
    path.text ≠ "" ∧ path.text.utf8ByteSize ≤ pathLimit ∧
      store.walk (if path.isAbsolute then ["/"] else []) (pathNames path) = .ok location :=
  (locate_eq_ok_iff.mp h).2

/-! ## Following names to a file -/

/-- Whatever encloses a location is a directory, and so is the location. -/
def IsDirectoryChain (store : FileStore) (location : Location) : Prop :=
  ∀ count, store.lookup (location.take count) = some .directory

theorem IsDirectoryChain.lookup {location : Location} (h : store.IsDirectoryChain location) :
    store.lookup location = some .directory := by
  rw [← location.take_length]
  exact h location.length

/-- The fixed locations enclose each other. -/
theorem IsDirectoryChain.of_isFixed {location : Location} (h : isFixed location = true) :
    store.IsDirectoryChain location := by
  intro count
  apply lookup_of_isFixed
  simp only [isFixed, Bool.or_eq_true, decide_eq_true_eq, List.all_eq_true] at h ⊢
  -- A beginning of the root is the root or nothing; one of dots is made of dots.
  rcases h with rfl | hdots
  · cases count with
    | zero => exact .inr nofun
    | succ count => exact .inl (by simp)
  · exact .inr fun name hname => hdots name (List.mem_of_mem_take hname)

/-- What encloses a chain of directories is one. -/
theorem IsDirectoryChain.enclosing {location : Location} (h : store.IsDirectoryChain location) :
    store.IsDirectoryChain (enclosing location) := by
  -- Two dots at the root stay there, and a chain stays one without its last name.
  unfold FileStore.enclosing
  split
  case isTrue => exact h
  split
  case isTrue hdots =>
    apply IsDirectoryChain.of_isFixed
    simp [isFixed, hdots]
  case isFalse =>
    intro count
    rw [List.dropLast_eq_take, List.take_take]
    exact h _

theorem IsDirectoryChain.append {location : Location} {name : String}
    (h : store.IsDirectoryChain location)
    (hname : store.lookup (location ++ [name]) = some .directory) :
    store.IsDirectoryChain (location ++ [name]) := by
  intro count
  -- A beginning is one of the old chain, or it is the whole.
  by_cases hcount : count ≤ location.length
  · rw [List.take_append_of_le_length hcount]
    exact h count
  · rw [List.take_of_length_le (by simp; omega)]
    exact hname

/-- Names that lead from directories to a file end in the name of the file. -/
theorem getLast?_of_walk_file {names : List String} {location : Location} {content : ByteArray}
    (hlookup : store.lookup location = some (.file content)) {here : Location}
    (hhere : store.IsDirectoryChain here) (h : store.walk here names = .ok location) :
    ∃ name, names.getLast? = some name ∧ name ≠ "." ∧ name ≠ ".." := by
  induction names generalizing here with
  | nil =>
    cases h
    rw [hhere.lookup] at hlookup
    cases hlookup
  | cons first rest ih =>
    have hlast : ∀ name, rest.getLast? = some name → (first :: rest).getLast? = some name := by
      intro name hname
      rw [List.getLast?_cons, hname]
      rfl
    rw [walk] at h
    -- Dots lead to directories, so a file needs a name behind them.
    split at h
    case isTrue =>
      obtain ⟨name, hname, hdots⟩ := ih hhere h
      exact ⟨name, hlast name hname, hdots⟩
    case isFalse hdot =>
      split at h
      case isTrue =>
        obtain ⟨name, hname, hdots⟩ := ih hhere.enclosing h
        exact ⟨name, hlast name hname, hdots⟩
      case isFalse hdots =>
        split at h
        case isTrue => cases h
        case isFalse =>
          -- A name in front of another one leads to a directory, the last one may lead to the file.
          cases rest with
          | nil => exact ⟨first, rfl, hdot, hdots⟩
          | cons second more =>
            simp only [List.isEmpty_cons, Bool.false_eq_true, if_false] at h
            split at h
            case h_1 => cases h
            case h_2 => cases h
            case h_3 hnext =>
              obtain ⟨name, hname, hne⟩ := ih (hhere.append hnext) h
              exact ⟨name, hlast name hname, hne⟩

/-- The last segment of the path of a file is a name. -/
theorem reversedSegments_of_isFile (h : store.isFile path = true) :
    ∃ segment before, path.reversedSegments = segment :: before ∧ segment ≠ [] ∧
      segment ≠ ['.'] ∧ segment ≠ ['.', '.'] := by
  obtain ⟨location, content, hlocate, hlookup, hslash⟩ := locate_of_isFile h
  obtain ⟨hempty, -, hwalk⟩ := walk_of_locate hlocate
  have hstart : store.IsDirectoryChain (if path.isAbsolute then ["/"] else []) := by
    apply IsDirectoryChain.of_isFixed
    split <;> decide
  obtain ⟨name, hname, hdot, hdots⟩ := getLast?_of_walk_file hlookup hstart hwalk
  have hnil : path.text.toList ≠ [] := by simpa using hempty
  have hlast : path.text.toList.getLast? = some (path.text.toList.getLast hnil) :=
    List.getLast?_eq_some_getLast hnil
  have hne : path.text.toList.getLast hnil ≠ '/' := by
    intro heq
    simp [endsInSlash, hlast, heq] at hslash
  obtain ⟨segment, hsegment, hend⟩ := Text.getLast?_splitOn hlast hne
  obtain ⟨front, hfront⟩ := List.getLast?_eq_some_iff.mp hsegment
  have hsegnil : segment ≠ [] := by
    rintro rfl
    cases hend
  -- The last segment is not empty, so it is the last name that is followed.
  have hnames : String.ofList segment = name := by
    rw [pathNames, hfront] at hname
    simpa [hsegnil] using hname
  refine ⟨segment, front.reverse, ?_, hsegnil, ?_, ?_⟩
  · rw [FilePath.reversedSegments, hfront, List.reverse_append]
    rfl
  · rintro rfl
    exact hdot hnames.symm
  · rintro rfl
    exact hdots hnames.symm

end FileStore

namespace FilePath

variable {path : FilePath}

/-- The directory of a file. -/
def directory (path : FilePath) : FilePath := path.parent?.getD ⟨""⟩

theorem join_empty (path : FilePath) : (FilePath.mk "").join path = path := by
  unfold join
  split <;> rfl

/-- Joining relative paths to one path makes it longer by their lengths. -/
theorem exists_length_join (base : FilePath) :
    ∃ front, base.text.length ≤ front ∧ ∀ part : FilePath, part.isAbsolute = false →
      (base.join part).text.length = front + part.text.length := by
  -- What is put in between is a slash, unless the base ends in one or is empty.
  cases hlast : base.text.toList.getLast? with
  | none =>
    have hempty : base.text = "" := by simpa using hlast
    refine ⟨0, by simp [hempty], fun part hpart => ?_⟩
    simp [join, hpart, hlast]
  | some last =>
    by_cases hslash : last = '/'
    · refine ⟨base.text.length, Nat.le_refl _, fun part hpart => ?_⟩
      simp [join, hpart, hlast, hslash]
    · refine ⟨base.text.length + 1, Nat.le_add_right .., fun part hpart => ?_⟩
      simp [join, hpart, hlast]
      rfl

/-- A relative path leads away from where it starts. -/
theorem join_ne_self {base part : FilePath} (hempty : part.text ≠ "")
    (hrelative : part.isAbsolute = false) : base.join part ≠ base := by
  obtain ⟨front, hfront, hjoin⟩ := exists_length_join base
  have hpos : 0 < part.text.length := by
    rw [Nat.pos_iff_ne_zero]
    simpa using hempty
  intro h
  have hlength := hjoin part hrelative
  rw [h] at hlength
  omega

/-- With the marker of a raw name, a path leads elsewhere. -/
theorem join_raw_ne (base : FilePath) (text : String) :
    base.join ⟨"r#" ++ text⟩ ≠ base.join ⟨text⟩ := by
  obtain ⟨front, hfront, hjoin⟩ := exists_length_join base
  have hraw : (FilePath.mk ("r#" ++ text)).isAbsolute = false := by simp [isAbsolute]
  have hlength : (base.join ⟨"r#" ++ text⟩).text.length = front + (2 + text.length) := by
    rw [hjoin _ hraw, String.length_append]
    rfl
  intro h
  rw [h] at hlength
  -- The raw name is relative and two characters longer, so the lengths differ in both cases.
  cases habsolute : (FilePath.mk text).isAbsolute with
  | true =>
    have hjoined : (base.join ⟨text⟩).text.length = text.length := by rw [join, if_pos habsolute]
    omega
  | false =>
    have hjoined : (base.join ⟨text⟩).text.length = front + text.length := hjoin _ habsolute
    omega

theorem isAbsolute_ofList {text : List Char} (h : '/' ∉ text) :
    (FilePath.mk (String.ofList text)).isAbsolute = false := by
  rw [isAbsolute, String.toList_ofList, decide_eq_false_iff_not]
  exact fun hhead => h (List.mem_of_head? hhead)

/-- The stem of a name is a part of the name. -/
theorem fileStem?_of_fileName? {name : List Char}
    (hname : path.fileName? = some (String.ofList name)) (hnil : name ≠ []) :
    ∃ stem, path.fileStem? = some (String.ofList stem) ∧ stem ≠ [] ∧ stem ⊆ name := by
  rw [fileStem?, hname, Option.map_some, String.toList_ofList]
  -- The stem ends at the last dot, unless nothing is in front of that dot or there is none.
  split
  case h_1 dot stem hdrop =>
    split
    case isTrue => exact ⟨name, rfl, hnil, List.Subset.refl name⟩
    case isFalse hstem =>
      refine ⟨stem.reverse, rfl, by simpa using hstem, fun c hc => ?_⟩
      have hmem : c ∈ name.reverse.dropWhile (· ≠ '.') :=
        hdrop ▸ List.mem_cons_of_mem dot (List.mem_reverse.mp hc)
      exact List.mem_reverse.mp ((List.dropWhile_sublist _).subset hmem)
  case h_2 => exact ⟨name, rfl, hnil, List.Subset.refl name⟩

/-- Every file has a name, a directory, and a stem that is a relative path. -/
theorem fileStem?_of_isFile {store : FileStore} (h : store.isFile path = true) :
    ∃ name directory stem, path.fileName? = some name ∧ path.parent? = some directory ∧
      path.fileStem? = some stem ∧ stem ≠ "" ∧ (FilePath.mk stem).isAbsolute = false := by
  obtain ⟨segment, before, hsegments, hnil, hdot, hdots⟩ := FileStore.reversedSegments_of_isFile h
  -- The name of the file is its last segment, which has no slash, and so has no part of it.
  have hslash : '/' ∉ segment := by
    have hmem : segment ∈ path.reversedSegments := hsegments ▸ List.mem_cons_self
    exact Text.not_mem_of_mem_splitOn (List.mem_reverse.mp hmem)
  have htrim : trimEnd path.reversedSegments = segment :: before := by
    rw [hsegments]
    cases before with
    | nil => rfl
    | cons second more => simp [trimEnd, isVoid, hnil, hdot]
  have hname : path.fileName? = some (String.ofList segment) := by
    rw [fileName?, htrim]
    simp [isVoid, hnil, hdot, hdots]
  have hparent : ∃ directory, path.parent? = some directory := by
    rw [parent?, htrim]
    cases before with
    | nil => simp [hnil]
    | cons second more => exact ⟨_, rfl⟩
  obtain ⟨directory, hdirectory⟩ := hparent
  obtain ⟨stem, hstem, hne, hsubset⟩ := fileStem?_of_fileName? hname hnil
  refine ⟨_, directory, _, hname, hdirectory, hstem, by simpa using hne, ?_⟩
  exact isAbsolute_ofList fun hmem => hslash (hsubset hmem)

end FilePath

end RouteRegistrar
