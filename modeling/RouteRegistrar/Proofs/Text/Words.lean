import RouteRegistrar.Text.Words

/-!
# How texts fall into words

Cutting a text walks over its clusters and decides behind each of them whether a word ends. This
module says what the words are without walking: a word is a run of clusters behind whose last one a
word ends, because of what follows it, and behind none of the others. Between the words there are
separators or nothing. A text falls into words in exactly one way, and this is how it is cut.
-/

namespace RouteRegistrar.Text

variable {k s : Cluster} {ks p rest : List Cluster} {cs word : List Char} {ws : List (List Char)}
  {c : Char}

/-! ## Clusters -/

/-- A cluster has a character in it. -/
theorem ne_nil_of_mem_clusters (cs : List Char) : ∀ k ∈ clusters cs, k ≠ [] := by
  induction cs with
  | nil => exact nofun
  | cons c rest ih =>
    unfold clusters
    -- The next character starts a cluster or joins one, and so no cluster is empty.
    split
    case h_1 d more cluster others hclusters =>
      rw [hclusters] at ih
      split
      case isTrue => exact List.forall_mem_cons.mpr ⟨List.cons_ne_nil _ _,
        fun k hk => ih k (List.mem_cons_of_mem _ hk)⟩
      case isFalse => exact List.forall_mem_cons.mpr ⟨List.cons_ne_nil _ _, ih⟩
    case h_2 => exact List.forall_mem_cons.mpr ⟨List.cons_ne_nil _ _, ih⟩

/-- All characters of a text are in its clusters. -/
theorem flatten_clusters (cs : List Char) : (clusters cs).flatten = cs := by
  induction cs with
  | nil => rfl
  | cons c rest ih =>
    unfold clusters
    split
    case h_1 d more cluster others hclusters =>
      rw [hclusters] at ih
      split
      case isTrue => simpa using ih
      case isFalse => simpa using ih
    case h_2 => simpa using ih

/-! ## Where words end -/

/-- Whether a word ends behind a cluster because of the clusters that follow. -/
def endsWord (k : Cluster) : List Cluster → Bool
  | [] => false
  | [l] => changesKind k l
  | l :: m :: _ => changesKind k l || endsAcronym k l m

theorem cutWords_separator (h : isSeparator s = true) (rest : List Cluster) :
    cutWords (s :: rest) = [] :: cutWords rest := by
  rw [cutWords.eq_def]
  simp only [h, if_true]

theorem cutWords_cons (h : isSeparator k = false) (rest : List Cluster) :
    cutWords (k :: rest) =
      if endsWord k rest then k :: cutWords rest else consWord k (cutWords rest) := by
  rw [cutWords.eq_def]
  simp only [h, Bool.false_eq_true, if_false]
  match rest with
  | [] => rfl
  | [l] => rfl
  | l :: m :: more => rfl

theorem flatten_consWord (k : Cluster) (words : List (List Char)) :
    (consWord k words).flatten = k ++ words.flatten := by
  cases words with
  | nil => rfl
  | cons word words => exact List.append_assoc ..

/-- The words consist of the clusters that are no separators. -/
theorem flatten_cutWords (ks : List Cluster) :
    (cutWords ks).flatten = (ks.filter (!isSeparator ·)).flatten := by
  induction ks with
  | nil => rfl
  | cons k rest ih =>
    cases hk : isSeparator k with
    | true =>
      rw [cutWords_separator hk, List.filter_cons_of_neg (by simp [hk])]
      exact ih
    | false =>
      -- Whether a word ends here or not, the cluster comes in front.
      rw [cutWords_cons hk, List.filter_cons_of_pos (by simp [hk]), List.flatten_cons, ← ih]
      split
      case isTrue => rfl
      case isFalse => exact flatten_consWord k _

/-- A character is in a word if it is in a cluster that is no separator. -/
theorem exists_mem_words_iff : (∃ word ∈ words cs, c ∈ word) ↔
    ∃ k ∈ clusters cs, isSeparator k = false ∧ c ∈ k := by
  -- A cut loses separators only, and a word that has a character is not dropped as empty.
  have hflatten := congrArg (c ∈ ·) (flatten_cutWords (clusters cs))
  simp only [List.mem_flatten, List.mem_filter, Bool.not_eq_true', and_assoc, eq_iff_iff]
    at hflatten
  rw [← hflatten]
  simp only [words, List.mem_filter]
  constructor
  · rintro ⟨word, ⟨hword, -⟩, hc⟩
    exact ⟨word, hword, hc⟩
  · rintro ⟨word, hword, hc⟩
    exact ⟨word, ⟨hword, by simpa using List.ne_nil_of_mem hc⟩, hc⟩

/-- Some clusters are a whole word in front of others. -/
def IsWordBefore (rest : List Cluster) : List Cluster → Prop
  | [] => False
  | [k] => isSeparator k = false ∧ (endsWord k rest = true ∨ rest.head?.all isSeparator = true)
  | k :: l :: p =>
    isSeparator k = false ∧ endsWord k (l :: p ++ rest) = false ∧ IsWordBefore rest (l :: p)

/-- The first part of a list of clusters is a word, and what is left of it is cut as the rest. -/
theorem exists_cutWords_append (h : IsWordBefore rest p) :
    ∃ words, cutWords (p ++ rest) = p.flatten :: words ∧
      words.filter (!·.isEmpty) = (cutWords rest).filter (!·.isEmpty) := by
  induction p with
  | nil => cases h
  | cons k p ih =>
    cases p with
    | nil =>
      obtain ⟨hk, hends⟩ := h
      rw [List.singleton_append, cutWords_cons hk, List.flatten_singleton]
      split
      case isTrue => exact ⟨cutWords rest, rfl, rfl⟩
      case isFalse hgoes =>
        -- The word ends all the same, since nothing follows or a separator does.
        have hseparator := hends.resolve_left hgoes
        cases rest with
        | nil => exact ⟨[], by simp [cutWords, consWord], rfl⟩
        | cons s rest =>
          rw [cutWords_separator (by simpa using hseparator)]
          exact ⟨cutWords rest, by simp [consWord], rfl⟩
    | cons l p =>
      obtain ⟨hk, hgoes, hrest⟩ := h
      obtain ⟨words, hcut, hwords⟩ := ih hrest
      refine ⟨words, ?_, hwords⟩
      rw [List.cons_append, cutWords_cons hk, hgoes, hcut]
      rfl

/-! ## Falling into words -/

/-- Clusters fall into words, with separators or nothing between them. -/
inductive IsCut : List Cluster → List (List Char) → Prop where
  | nil : IsCut [] []
  | separator {s : Cluster} {rest : List Cluster} {ws : List (List Char)} :
      isSeparator s = true → IsCut rest ws → IsCut (s :: rest) ws
  | word {p rest : List Cluster} {ws : List (List Char)} :
      IsWordBefore rest p → IsCut rest ws → IsCut (p ++ rest) (p.flatten :: ws)

/-- Clusters are cut into the words that they fall into. -/
theorem IsCut.filter_cutWords (h : IsCut ks ws) (hks : ∀ k ∈ ks, k ≠ []) :
    (cutWords ks).filter (!·.isEmpty) = ws := by
  induction h with
  | nil => rfl
  | separator hs _ ih =>
    rw [cutWords_separator hs]
    exact ih fun k hk => hks k (List.mem_cons_of_mem _ hk)
  | @word p rest ws hp _ ih =>
    obtain ⟨words, hcut, hwords⟩ := exists_cutWords_append hp
    -- A word has clusters, and these have characters, so it is not filtered out.
    have hne : p.flatten ≠ [] := by
      cases p with
      | nil => cases hp
      | cons k p =>
        rw [List.flatten_cons]
        exact List.append_ne_nil_of_left_ne_nil (hks k (by simp)) _
    rw [hcut, List.filter_cons_of_pos (by simpa using hne), hwords,
      ih fun k hk => hks k (List.mem_append_right _ hk)]

/-- All clusters fall into words. -/
theorem exists_isCut (ks : List Cluster) : ∃ ws, IsCut ks ws := by
  induction ks with
  | nil => exact ⟨[], .nil⟩
  | cons k rest ih =>
    obtain ⟨ws, hrest⟩ := ih
    cases hk : isSeparator k with
    | true => exact ⟨ws, .separator hk hrest⟩
    | false =>
      by_cases hends : endsWord k rest = true ∨ rest.head?.all isSeparator = true
      · exact ⟨_, .word (p := [k]) ⟨hk, hends⟩ hrest⟩
      · -- The cluster is the first one of the word that begins the rest.
        rw [not_or, Bool.not_eq_true] at hends
        cases hrest with
        | nil => simp at hends
        | separator hs => simp [hs] at hends
        | @word p rest ws hp hrest =>
          cases p with
          | nil => cases hp
          | cons l p => exact ⟨_, .word (p := k :: l :: p) ⟨hk, hends.1, hp⟩ hrest⟩

theorem IsCut.append {front : List Cluster} (hfront : ∀ s ∈ front, isSeparator s = true)
    (h : IsCut rest ws) : IsCut (front ++ rest) ws := by
  induction front with
  | nil => exact h
  | cons s front ih =>
    obtain ⟨hs, hfront⟩ := List.forall_mem_cons.mp hfront
    exact .separator hs (ih hfront)

/-- Where there are no words, there are separators only. -/
theorem isCut_nil_iff : IsCut ks [] ↔ ∀ s ∈ ks, isSeparator s = true := by
  constructor
  · intro h
    generalize hws : ([] : List (List Char)) = ws at h
    induction h with
    | nil => exact nofun
    | separator hs _ ih => exact List.forall_mem_cons.mpr ⟨hs, ih hws⟩
    | word => cases hws
  · intro h
    simpa using IsCut.nil.append h

/-- The first word stands behind separators and in front of the other words. -/
theorem isCut_cons_iff : IsCut ks (word :: ws) ↔ ∃ front p rest, ks = front ++ (p ++ rest) ∧
    (∀ s ∈ front, isSeparator s = true) ∧ IsWordBefore rest p ∧ p.flatten = word ∧
    IsCut rest ws := by
  constructor
  · intro h
    -- Separators are skipped one by one until the cut takes its first word.
    generalize hwords : word :: ws = words at h
    induction h with
    | nil => cases hwords
    | @separator s _ _ hs _ ih =>
      obtain ⟨front, p, rest, rfl, hfront, hp, hword, hrest⟩ := ih hwords
      exact ⟨s :: front, p, rest, rfl, List.forall_mem_cons.mpr ⟨hs, hfront⟩, hp, hword, hrest⟩
    | @word p rest _ hp hrest =>
      cases hwords
      exact ⟨[], p, rest, rfl, nofun, hp, rfl, hrest⟩
  · rintro ⟨front, p, rest, rfl, hfront, hp, rfl, hrest⟩
    exact (IsCut.word hp hrest).append hfront

/-- **A text falls into its words** and in no other way. -/
theorem isCut_clusters_iff : IsCut (clusters cs) ws ↔ words cs = ws := by
  constructor
  · intro h
    exact h.filter_cutWords (ne_nil_of_mem_clusters cs)
  · intro h
    obtain ⟨found, hfound⟩ := exists_isCut (clusters cs)
    have hwords : words cs = found := hfound.filter_cutWords (ne_nil_of_mem_clusters cs)
    rwa [← h, hwords]

end RouteRegistrar.Text
