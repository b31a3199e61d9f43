import RouteRegistrar.Proofs.Grammar.Item
import RouteRegistrar.Proofs.Registration.Extraction
import RouteRegistrar.Source.Item

/-!
# What expanding a group marker removes

Route generation and the expansion of group markers read the same attributes, each in its own way.
The generator joins the names of the path with double colons, takes what stands behind the last ones
without blanks around it, and looks the marker up in order of precedence. The expansion takes the
last name of the path as it is and has its own list of spellings.

Both agree on every attribute that a text can hold, since a name contains no colons and no blanks.
So an expansion removes the verbs that the generator routes, and nothing else.
-/

namespace RouteRegistrar

open Grammar Text

/-! ## The last name of a path -/

theorem Text.trim_eq_self {cs : List Char} (h : ∀ c ∈ cs, isBlank c = false) : trim cs = cs :=
  trimBy_eq_self (fun c hc => h c (List.mem_of_mem_head? hc))
    fun c hc => h c (List.mem_of_getLast? hc)

theorem Text.trim_of_isName {name : String} (h : IsName name) : trim name.toList = name.toList :=
  trim_eq_self fun c hc => isBlank_of_isNameChar (h c hc)

namespace Marker

theorem behindLastColons?_cons (c : Char) {cs : List Char} (h : ∀ d ∈ cs, d ≠ ':') :
    behindLastColons? (c :: cs) = none := by
  induction cs generalizing c with
  | nil => rfl
  | cons d rest ih =>
    obtain ⟨hd, hrest⟩ := List.forall_mem_cons.mp h
    simp [behindLastColons?, hd, ih d hrest]

/-- Behind the last colons of a joined path stands its last name. -/
theorem behindLastColons?_append (front : List Char) {cs : List Char} (h : ∀ d ∈ cs, d ≠ ':') :
    behindLastColons? (front ++ ':' :: ':' :: cs) = some cs := by
  induction front with
  | nil => simp [behindLastColons?, behindLastColons?_cons ':' h]
  | cons c rest ih =>
    -- A colon that ends the part in front does not shift the last two.
    obtain ⟨d, more, hmore⟩ : ∃ d more, rest ++ ':' :: ':' :: cs = d :: more :=
      List.exists_cons_of_ne_nil (by simp)
    rw [List.cons_append, hmore, behindLastColons?, ← hmore, ih]
    split <;> rfl

/-- The simple name of a joined path is its last name. -/
theorem simpleName_intercalate (front : List String) {name : String} (hname : IsName name)
    (arguments : String) :
    (Marker.mk ("::".intercalate (front ++ [name])) arguments).simpleName = name := by
  have hcolon : ∀ c ∈ name.toList, c ≠ ':' := fun c hc => ne_colon_of_isNameChar (hname c hc)
  have hbehind : (behindLastColons? ("::".intercalate (front ++ [name])).toList).getD
      ("::".intercalate (front ++ [name])).toList = name.toList := by
    by_cases hfront : front = []
    · -- A path of one name has no colons, so the whole text counts.
      subst hfront
      cases hchars : name.toList with
      | nil => simp [hchars, behindLastColons?]
      | cons c rest =>
        rw [hchars] at hcolon
        simp [hchars, behindLastColons?_cons c (List.forall_mem_cons.mp hcolon).2]
    · rw [String.intercalate_append_of_ne_nil hfront (by simp)]
      simp [behindLastColons?_append _ hcolon]
  rw [simpleName, hbehind, trim_of_isName hname, String.ofList_toList]

end Marker

/-! ## Two ways to recognise a verb -/

/-- The spellings that an expansion knows are those of the markers with a verb. -/
theorem expandedMarkers_any_eq (stem : List Char) : expandedMarkers.any (·.toList = stem) =
    (RouteMarker.all.find? fun marker => marker.text.toList = stem).any (·.verb?.isSome) := by
  cases hfind : RouteMarker.all.find? fun marker => marker.text.toList = stem with
  | some marker =>
    -- The spelling is one of five, and for these both sides can be computed.
    have hstem : marker.text.toList = stem := by simpa using List.find?_some hfind
    subst hstem
    cases marker <;> decide +kernel
  | none =>
    have hnone : ∀ marker : RouteMarker, marker.text.toList ≠ stem := by
      intro marker
      have hmarker : marker ∈ RouteMarker.all := by cases marker <;> decide
      simpa using List.find?_eq_none.mp hfind marker hmarker
    have hverbs : expandedMarkers = [.get, .post, .delete, .put].map RouteMarker.text := rfl
    simp [hverbs, hnone]

namespace Tree

/-- Whether the generator reads an attribute as the verb of a route: its marker has the name of one
that has a verb. -/
def isRoute (found : Tree) : Bool := found.marker.canonical?.any (·.verb?.isSome)

/-- The name of a marker is the joined path of the attribute, whatever its arguments are. -/
theorem exists_marker_eq (pound bang path : Tree) (kind : Kind) (rest : List Tree) :
    ∃ arguments, (node .singleAttribute
      [pound, bang, group .bracket [node kind (path :: rest)]]).marker =
        ⟨"::".intercalate path.pathNames, arguments⟩ := by
  rcases rest with _ | ⟨first, _ | ⟨second, more⟩⟩ <;> exact ⟨_, rfl⟩

/-- **Both ways to recognise a verb agree** on every attribute. -/
theorem isVerbAttribute_eq_isRoute {found : Tree} (h : IsAttribute found) :
    found.isVerbAttribute = found.isRoute := by
  obtain ⟨hcontent⟩ := h
  obtain ⟨-, hpath⟩ := hcontent
  obtain ⟨hlast, hname⟩ := hpath
  obtain ⟨front, hnames⟩ := List.getLast?_eq_some_iff.mp hlast
  obtain ⟨arguments, hmarker⟩ := exists_marker_eq ..
  -- The generator comes to the last name by joining and splitting, the expansion takes it at once.
  rw [isRoute, hmarker, hnames, Marker.canonical?, Marker.simpleName_intercalate front hname,
    RouteMarker.ofName?, trim_of_isName hname, ← expandedMarkers_any_eq]
  simp only [isVerbAttribute, attributePath?, Option.bind_some, hlast, Option.any_some]

/-! ## What an expansion removes -/

/-- A member of a block before and after its group marker is expanded: a method loses its routes, in
front of it and at the beginning of its body, and any other member stays as it is. -/
inductive StripsMember : Tree → Tree → Prop where
  | method {outer inner body : List Tree} {visible defaultness sig : Tree} :
      StripsMember
        (node .implFn [node .attributes outer, visible, defaultness, sig,
          node .block [group .brace (node .attributes inner :: body)]])
        (node .implFn [node .attributes (outer.filter (!·.isRoute)), visible, defaultness, sig,
          node .block [group .brace (node .attributes (inner.filter (!·.isRoute)) :: body)]])
  | other {member : Tree} : member.isKind .implFn = false → StripsMember member member

/-- A block before and after its group marker is expanded: the members lose their routes, and all
that stands in front of them stays as it is. -/
inductive StripsRoutes : Tree → Tree → Prop where
  | block {front members stripped : List Tree} {own : Tree} :
      List.Forall₂ StripsMember members stripped →
      StripsRoutes (node .itemImpl (front ++ [group .brace (own :: members)]))
        (node .itemImpl (front ++ [group .brace (own :: stripped)]))

/-- Whether an item is an `impl` block without a trait. -/
def isInherentBlock : Tree → Bool
  | node .itemImpl (_ :: _ :: _ :: _ :: _ :: implemented :: _) => implemented.isAbsent
  | _ => false

theorem withoutVerbs_eq {attributes : List Tree} (h : ∀ found ∈ attributes, IsAttribute found) :
    (node .attributes attributes).withoutVerbs =
      node .attributes (attributes.filter (!·.isRoute)) := by
  rw [withoutVerbs, List.filter_congr fun found hfound => by
    rw [isVerbAttribute_eq_isRoute (h found hfound)]]

theorem withoutVerbMarkers_of_other {member : Tree} (h : member.isKind .implFn = false) :
    member.withoutVerbMarkers = member := by
  unfold withoutVerbMarkers
  split
  case h_1 => cases h
  case h_2 => rfl

theorem stripsMember_withoutVerbMarkers {member : Tree} (h : IsMember member) :
    StripsMember member member.withoutVerbMarkers := by
  cases h with
  | method houter hbody =>
    obtain ⟨hinner⟩ := hbody
    -- The attributes stand outside of the method or inside of its body.
    rw [withoutVerbMarkers, withoutVerbs_eq houter, withoutVerbs_eq hinner]
    exact .method
  | other hother =>
    rw [withoutVerbMarkers_of_other hother]
    exact .other hother

theorem withoutVerbs_withoutVerbs (tree : Tree) :
    tree.withoutVerbs.withoutVerbs = tree.withoutVerbs := by
  fun_cases withoutVerbs tree with
  | case1 attributes => simp [withoutVerbs]
  | case2 => simp [withoutVerbs, *]

theorem withoutVerbMarkers_withoutVerbMarkers (member : Tree) :
    member.withoutVerbMarkers.withoutVerbMarkers = member.withoutVerbMarkers := by
  fun_cases withoutVerbMarkers member with
  | case1 => simp only [withoutVerbMarkers, withoutVerbs_withoutVerbs]
  | case2 => simp [withoutVerbMarkers, *]

theorem expandGroup_of_other {item : Tree} (h : item.isKind .itemImpl = false) :
    item.expandGroup = .error .noBlock := by
  unfold expandGroup
  split
  case h_1 => cases h
  case h_2 => rfl

theorem isInherentBlock_of_other {item : Tree} (h : item.isKind .itemImpl = false) :
    item.isInherentBlock = false := by
  unfold isInherentBlock
  split
  case h_1 => cases h
  case h_2 => rfl

/-- An item is expanded if it is an `impl` block without a trait. -/
theorem exists_expandGroup_iff {item : Tree} (h : IsItem item) :
    (∃ result, item.expandGroup = .ok result) ↔ item.isInherentBlock = true := by
  cases h with
  | @block _ _ _ _ _ implemented =>
    rw [expandGroup, isInherentBlock]
    cases implemented.isAbsent <;> simp
  | other hother => simp [expandGroup_of_other hother, isInherentBlock_of_other hother]

/-- Expanding an item twice is expanding it once. -/
theorem expandGroup_expandGroup {item result : Tree} (h : item.expandGroup = .ok result) :
    result.expandGroup = .ok result := by
  revert h
  fun_cases expandGroup item with
  | case1 attributes defaultness safety keyword params implemented type conditions own members
      habsent =>
    intro h
    cases h
    -- The block stays an inherent one, so it is expanded again; markers are gone already.
    simp [expandGroup, habsent, withoutVerbMarkers_withoutVerbMarkers]
  | case2 => exact nofun
  | case3 => exact nofun

theorem stripsRoutes_of_expandGroup {item result : Tree} (h : IsItem item)
    (hresult : item.expandGroup = .ok result) : StripsRoutes item result := by
  cases h with
  | @block attributes defaultness safety keyword params implemented type conditions own members
      hmembers =>
    rw [expandGroup] at hresult
    -- Only an inherent block is expanded, and then each member loses its markers on its own.
    split at hresult
    case isTrue =>
      cases hresult
      have hstripped : List.Forall₂ StripsMember members (members.map withoutVerbMarkers) :=
        List.forall₂_map_right_iff.mpr <| List.forall₂_same.mpr fun member hmember =>
          stripsMember_withoutVerbMarkers (hmembers member hmember)
      let front :=
        [attributes, defaultness, safety, keyword, params, implemented, type, conditions]
      exact @StripsRoutes.block front _ _ own hstripped
    case isFalse => cases hresult
  | other hother => simp [expandGroup_of_other hother] at hresult

/-- **An expansion removes exactly what the generator routes.** Of all items, those that are `impl`
blocks without a trait are expanded; their methods lose the attributes that the generator reads as
verbs, and nothing else changes. Expanding the result changes nothing more. -/
theorem expandGroup_strips_routes {text : String} {item : Tree}
    (h : itemOfText? text = some item) :
    ((∃ result, item.expandGroup = .ok result) ↔ item.isInherentBlock = true) ∧
      ∀ result, item.expandGroup = .ok result →
        item.StripsRoutes result ∧ result.expandGroup = .ok result := by
  have hitem := isItem_of_itemOfText? h
  refine ⟨exists_expandGroup_iff hitem, fun result hresult => ⟨?_, ?_⟩⟩
  · exact stripsRoutes_of_expandGroup hitem hresult
  · exact expandGroup_expandGroup hresult

/-- A block whose method has routes in three case conventions, two attributes of other kinds, and a
constant with the attribute of a route. -/
def mixedBlock : String :=
  "impl Api \x7b #[get] const N: u8 = 1; #[get(\"/\")] #[inline] #[web::POST_ATTRIBUTE] " ++
    "#[getter] fn index(&self) \x7b #![deleteAttribute] run() \x7d \x7d"

/-- The method keeps two attributes, and the constant keeps its own. -/
theorem expandGroup_mixedBlock : ∃ item result, itemOfText? mixedBlock = some item ∧
    item.isInherentBlock = true ∧ item.expandGroup = .ok result ∧ result.text =
      "impl Api \x7b # [get] const N : u8 = 1 ; # [inline] # [getter] fn index (& self) " ++
        "\x7b run () \x7d \x7d" ∧
    item.StripsRoutes result ∧ result.expandGroup = .ok result := by
  -- Parsing and expanding are evaluated together; that routes are stripped follows by the theorem.
  have hrun : ((itemOfText? mixedBlock).bind fun item => item.expandGroup.toOption.map fun result =>
      (item.isInherentBlock, result.text)) = some (true,
        "impl Api \x7b # [get] const N : u8 = 1 ; # [inline] # [getter] fn index (& self) " ++
          "\x7b run () \x7d \x7d") := by
    decide +kernel
  obtain ⟨item, hitem, hexpanded⟩ := Option.bind_eq_some_iff.mp hrun
  obtain ⟨result, hresult, hview⟩ := exists_ok_of_map_toOption hexpanded
  obtain ⟨hblock, htext⟩ := Prod.mk.inj hview
  have hstrips := (expandGroup_strips_routes hitem).2 result hresult
  exact ⟨item, result, hitem, hblock, hresult, htext, hstrips⟩

end Tree

end RouteRegistrar
