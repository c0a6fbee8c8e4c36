import FileRoutes.Proofs.Layout.PageUrls
import FileRoutes.Proofs.Layout.Slashes
import FileRoutes.Proofs.Segment.Colons
import Mathlib.Algebra.GroupWithZero.Nat

namespace FileRoutes

open Segment

/-!
# Layouts — the parameters of a URL

An index that is written with a parameter has a pattern of its own, but adds nothing to a path, and
no layout is found for it. So its parameters are missing in the URL, where all others are, which is
seen by counting colons.

* `IndexNamesake` — a page that could be mistaken for the layout of such an index, and
  `IndexNamesake.path_ne`, which says why it is not;
* `Pending.indexIsLiteral_of_layout` — no index but the literal one leads to a layout;
* `gatheredColons`, `patternColons` — the colons of segments with and without those of an index;
* `Forest.Stands.colons_url` — the URL of a page has the colons that are gathered.
-/

/-! ### Layouts of an index -/

/-- A path that ends in a slash has an empty component at its end. -/
theorem Path.components_of_trailing {path : String} (h : path.toList.getLast? = some '/') :
    ∃ front, Path.components path = front ++ [""] := by
  obtain ⟨front, hfront⟩ := List.getLast?_eq_some_iff.mp h
  have hpath : path = String.ofList front ++ "/" ++ "" := by
    apply String.toList_inj.mp
    simp [hfront]
  exact ⟨Path.components (String.ofList front),
    by rw [hpath, Path.components_append, Path.components_empty]⟩

/-- A path is told by its components. -/
theorem Path.eq_of_components {left right : String}
    (h : Path.components left = Path.components right) : left = right := by
  rw [← Path.intercalate_components left, h, Path.intercalate_components]

/-- A path ends in a slash only before it has gathered a body. -/
theorem Pending.bodies_of_trailing {pending : Pending} {front : List (List Token)}
    (hfront : ∀ tokens ∈ front, Proper tokens)
    (hend : (pending.walk front).path.toList.getLast? = some '/') : bodies front = [] := by
  have hne : (pending.walk front).path ≠ "" := by
    intro heq
    rw [heq] at hend
    simp at hend
  obtain ⟨parts, hparts⟩ := Path.components_of_trailing hend
  rw [Pending.components_path_front hne hfront []] at hparts
  obtain hnil | ⟨others, last, hlast⟩ := List.eq_nil_or_concat' (bodies front)
  · exact hnil
  · -- the last body would be empty
    exfalso
    rw [hlast, ← List.append_assoc] at hparts
    have hempty : last = "" := (List.cons.inj (List.append_inj_right' hparts rfl)).1
    have hmem : last ∈ bodies front := by simp [hlast]
    obtain ⟨tokens, ht, rfl⟩ := List.mem_map.mp hmem
    exact (hfront tokens (List.mem_filter.mp ht).1).body_ne_empty hempty

/-- An index that has the pattern of the literal one is the literal one. -/
theorem Segment.indexIsLiteral_of_pattern {tokens : List Token} (h : Canonical tokens)
    (hpattern : pattern tokens = "/index") : IndexIsLiteral tokens := by
  intro hindex
  have hliteral : tokenize "index" = .ok [⟨.literal, "index"⟩] := by decide +kernel
  have hliteral_pattern : pattern [⟨.literal, "index"⟩] = "/index" := by decide +kernel
  have hliteral_name : Segment.name [⟨.literal, "index"⟩] = "index" := by decide +kernel
  exact eq_of_pattern_eq_of_name_eq h (canonical_of_tokenize hliteral)
    (hpattern.trans hliteral_pattern.symm) (hindex.trans hliteral_name.symm)

/-- A page with the names of some segments and of an index behind them that is not the literal
    one. -/
structure IndexNamesake (page front : List (List Token)) (tokens : List Token) : Prop where
  properPage : ∀ list ∈ page, Proper list
  properFront : ∀ list ∈ front, Proper list
  properIndex : Proper tokens
  names : page.map Segment.name = (front ++ [tokens]).map Segment.name
  index : Segment.name tokens = "index"
  notLiteral : pattern tokens ≠ "/index"

namespace IndexNamesake

variable {page front : List (List Token)} {tokens : List Token} {pending : Pending}

/-- The page has a body for each of the segments in front that has one. -/
theorem length_bodies (h : IndexNamesake page front tokens) :
    (bodies page).length = (bodies front).length := by
  rw [length_bodies_of_map_name h.names, bodies_append, bodies_cons_index h.index]
  simp [bodies]

/-- The path of the page tells its bodies, behind what comes before those of the segments. -/
theorem components_path (h : IndexNamesake page front tokens) (pending : Pending) :
    Path.components (pending.walk page).path
      = pending.origin (front ++ [tokens]) ++ bodies page := by
  have hpage : page ≠ [] := by
    rintro rfl
    simpa using h.names
  rw [pending.components_path_walk hpage h.properPage, pending.origin_eq_of_map_name h.names]

/-- Joined to a slash at the end of a path, the index adds something to it, but the page has no more
    than the path. -/
theorem path_ne_of_trailing (h : IndexNamesake page front tokens) (hroot : pending.Rooted)
    (hend : (pending.walk front).path.toList.getLast? = some '/') :
    (pending.walk page).path ≠ (pending.walk front).layoutPath tokens := by
  intro hpath
  have hne : (pending.walk front).path ≠ "" := by
    intro heq
    rw [heq] at hend
    simp at hend
  have hbodies := Pending.bodies_of_trailing h.properFront hend
  have hpage : bodies page = [] := by
    rw [← List.length_eq_zero_iff, h.length_bodies, hbodies]
    rfl
  have hparts := h.components_path pending
  rw [hpage, ← hbodies, ← Pending.components_path_front hne h.properFront, hpath,
    Pending.layoutPath_of_trailing (hroot.walk front) hend h.properIndex h.notLiteral] at hparts
  have hsame := String.toList_inj.mpr (Path.eq_of_components hparts)
  rw [String.toList_append, List.append_right_eq_self] at hsame
  exact h.properIndex.body_ne_empty (String.toList_inj.mp hsame)

/-- Behind any other path, the index adds a component that the page does not have. -/
theorem path_ne_of_not_trailing (h : IndexNamesake page front tokens) (hroot : pending.Rooted)
    (hend : (pending.walk front).path.toList.getLast? ≠ some '/') :
    (pending.walk page).path ≠ (pending.walk front).layoutPath tokens := by
  intro hpath
  have hparts := h.components_path pending
  rw [hpath, Pending.layoutPath_eq_append (hroot.walk front) hend h.properIndex h.notLiteral,
    pattern_eq_append_body, ← String.append_assoc, Path.components_append,
    Path.components_eq_singleton h.properIndex.slash_not_mem_body] at hparts
  by_cases hempty : (pending.walk front).path = ""
  · -- nothing is gathered yet, and a page of a single index has a lone slash for its path
    have hfront : front = [] := by
      by_contra hne
      obtain ⟨first, rest, rfl⟩ := List.exists_cons_of_ne_nil hne
      exact Pending.path_walk_ne_empty (pending.path_next_ne_empty first) rest hempty
    subst hfront
    have hpath_empty : pending.path = "" := hempty
    have hpage : bodies page = [] := List.length_eq_zero_iff.mp h.length_bodies
    have horigin : pending.origin [tokens] = ["", ""] := by
      simp [Pending.origin, hpath_empty, h.index]
    rw [hempty, Path.components_empty, hpage, List.nil_append, horigin] at hparts
    exact h.properIndex.body_ne_empty (by simpa using hparts)
  · rw [Pending.components_path_front hempty h.properFront [tokens]] at hparts
    have hlength := congrArg List.length hparts
    simp only [List.length_append, List.length_singleton, h.length_bodies] at hlength
    omega

/-- The page does not have the path that the index is looked for with. -/
theorem path_ne (h : IndexNamesake page front tokens) (hroot : pending.Rooted) :
    (pending.walk page).path ≠ (pending.walk front).layoutPath tokens := by
  by_cases hend : (pending.walk front).path.toList.getLast? = some '/'
  · exact h.path_ne_of_trailing hroot hend
  · exact h.path_ne_of_not_trailing hroot hend

end IndexNamesake

/-- **No index but the literal one leads to a layout.** A page of the names looked for has no body
    for the index, while the path looked for has one. -/
theorem Pending.indexIsLiteral_of_layout {pending : Pending} (hroot : pending.Rooted)
    {page front : List (List Token)} {tokens : List Token} (hpage : ∀ list ∈ page, Proper list)
    (hlists : ∀ list ∈ front ++ [tokens], Proper list)
    (hname : (pending.walk page).name = (pending.walk front).nextName tokens)
    (hpath : (pending.walk page).path = (pending.walk front).layoutPath tokens) :
    IndexIsLiteral tokens := by
  have htokens := hlists tokens (by simp)
  have hnames : page.map Segment.name = (front ++ [tokens]).map Segment.name := by
    apply Pending.map_name_of_walk_name hpage hlists
    rw [hname, Pending.walk_append]
    rfl
  intro hindex
  by_cases hpattern : pattern tokens = "/index"
  · exact indexIsLiteral_of_pattern htokens.toCanonical hpattern hindex
  · have hnamesake : IndexNamesake page front tokens :=
      ⟨hpage, fun t ht => hlists t (List.mem_append_left _ ht), htokens, hnames, hindex, hpattern⟩
    exact absurd hpath (hnamesake.path_ne hroot)

/-- No index but the literal one leads to a layout on a level of files. -/
theorem Forest.AllStand.indexIsLiteral {pending : Pending} {level : Forest}
    (h : Forest.AllStand Proper pending level) (hroot : pending.Rooted) {place : Nat}
    {route : Route} (hroute : level[place]? = some route) {front : List (List Token)}
    {tokens : List Token} (hlists : ∀ list ∈ front ++ [tokens], Proper list)
    (hlayout : (pending.walk front).isLayout tokens route = true) : IndexIsLiteral tokens := by
  obtain ⟨hlayout_name, hlayout_path⟩ := Pending.isLayout_iff.mp hlayout
  obtain ⟨page, hpage, hname, hpath⟩ := h.exists_page hroute
  exact Pending.indexIsLiteral_of_layout hroot hpage hlists
    (Option.some.inj (hname.symm.trans hlayout_name)) (hpath.symm.trans hlayout_path)

/-! ### The colons of a URL -/

/-- The colons of the segments that are gathered into a path. -/
def gatheredColons (lists : List (List Token)) : Nat := ((bodies lists).map Url.colons).sum

/-- The colons of the patterns of all segments. -/
def patternColons (lists : List (List Token)) : Nat :=
  (lists.map fun tokens => Url.colons (pattern tokens)).sum

/-- Unfolding lemma: an index is not gathered. -/
theorem gatheredColons_cons_index {tokens : List Token} (h : Segment.name tokens = "index")
    (lists : List (List Token)) : gatheredColons (tokens :: lists) = gatheredColons lists := by
  rw [gatheredColons, bodies_cons_index h]
  rfl

/-- Unfolding lemma: any other segment is gathered. -/
theorem gatheredColons_cons {tokens : List Token} (h : Segment.name tokens ≠ "index")
    (lists : List (List Token)) :
    gatheredColons (tokens :: lists) = Url.colons (pattern tokens) + gatheredColons lists := by
  rw [gatheredColons, bodies_cons h, List.map_cons, List.sum_cons, pattern_eq_append_body,
    Url.colons_append, Url.colons_slash, Nat.zero_add]
  rfl

/-- The colons of segments are counted one part after the other. -/
theorem gatheredColons_append (front back : List (List Token)) :
    gatheredColons (front ++ back) = gatheredColons front + gatheredColons back := by
  simp [gatheredColons, bodies_append]

/-- The colons that are gathered are some of those of the patterns. -/
theorem gatheredColons_le (lists : List (List Token)) :
    gatheredColons lists ≤ patternColons lists := by
  induction lists with
  | nil => exact Nat.le_refl 0
  | cons tokens lists ih =>
    have hpatterns : patternColons (tokens :: lists)
        = Url.colons (pattern tokens) + patternColons lists := rfl
    by_cases hindex : Segment.name tokens = "index"
    · rw [gatheredColons_cons_index hindex]
      omega
    · rw [gatheredColons_cons hindex]
      omega

/-- **If all colons are gathered, every index is the literal one.** -/
theorem indexIsLiteral_of_gatheredColons {lists : List (List Token)}
    (hproper : ∀ tokens ∈ lists, Proper tokens) (h : gatheredColons lists = patternColons lists)
    {tokens : List Token} (ht : tokens ∈ lists) : IndexIsLiteral tokens := by
  intro hindex
  obtain ⟨front, back, rfl⟩ := List.append_of_mem ht
  have hpatterns : patternColons (front ++ tokens :: back)
      = patternColons front + (Url.colons (pattern tokens) + patternColons back) := by
    simp [patternColons]
  have hfront := gatheredColons_le front
  have hback := gatheredColons_le back
  rw [gatheredColons_append, gatheredColons_cons_index hindex, hpatterns] at h
  have hnone : Url.colons (pattern tokens) = 0 := by omega
  rw [(hproper tokens ht).eq_literal hnone, hindex]

/-- A literal index has no colons. -/
theorem Segment.IndexIsLiteral.colons {tokens : List Token} (h : IndexIsLiteral tokens) :
    gatheredColons [tokens] = Url.colons (pattern tokens) := by
  by_cases hindex : Segment.name tokens = "index"
  · rw [gatheredColons_cons_index hindex, h hindex]
    decide +kernel
  · exact gatheredColons_cons hindex []

/-- A path has the colons of what it was gathered from. -/
theorem Pending.colons_path_walk (pending : Pending) (lists : List (List Token)) :
    Url.colons (pending.walk lists).path = Url.colons pending.path + gatheredColons lists := by
  induction lists generalizing pending with
  | nil => rfl
  | cons tokens lists ih =>
    rw [Pending.walk_cons, ih]
    by_cases hindex : Segment.name tokens = "index"
    · rw [gatheredColons_cons_index hindex]
      by_cases hempty : pending.path = ""
      · rw [Pending.path_next_index_of_empty hindex hempty, hempty, Url.colons_slash,
          Url.colons_empty]
      · rw [Pending.path_next_index hindex hempty]
    · rw [gatheredColons_cons hindex, Pending.path_next hindex, Url.colons_append, Nat.add_assoc]

/-- A path with or without its leading slash has the same colons. -/
theorem Route.colons_relativePath (path : String) :
    Url.colons (Route.relativePath path) = Url.colons path := by
  unfold Route.relativePath
  split
  · rename_i rest hpath
    simp [Url.colons, hpath]
  · rfl

/-- The URL of a route has the colons of the URL above it and of its path. -/
theorem Route.colons_registeredUrl (parent : Option String) (route : Route) :
    Url.colons (route.registeredUrl parent)
      = Url.colons (Url.above parent) + Url.colons route.path := by
  cases parent with
  | none => simp [Route.registeredUrl, Url.ofRoute, Url.above]
  | some url =>
    show Url.colons (Url.ofRoute (some url) (Route.relativePath route.path)) = _
    rw [← Route.colons_relativePath route.path, Url.ofRoute]
    by_cases hempty : Route.relativePath route.path = ""
    · rw [if_pos hempty, hempty]
      rfl
    · rw [if_neg hempty, Url.colons_append, Url.colons_append, Url.colons_slash]
      rfl

/-- Reading a piece as a folder keeps its colons. -/
theorem Url.colons_collapseIndex (piece : String) :
    Url.colons (Url.collapseIndex piece) = Url.colons piece := by
  unfold Url.collapseIndex
  cases hending : Text.dropEnding? "/index" piece with
  | none => rfl
  | some folder =>
    rw [Text.dropEnding?_eq_some_iff.mp hending]
    simp [Url.colons]

/-- A piece without what stands before its first name has the same colons. -/
theorem Url.colons_relative (piece : String) :
    Url.colons (Url.relative piece) = Url.colons piece := by
  unfold Url.relative
  split
  · rename_i hpiece
    simp [Url.colons, hpiece]
  · rename_i hpiece
    simp [Url.colons, hpiece]
  · rfl

/-- Joining two pieces keeps the colons of both. -/
theorem Url.colons_join (base piece : String) :
    Url.colons (Url.join base piece) = Url.colons base + Url.colons piece := by
  unfold Url.join
  by_cases hnothing : Url.addsNothing piece = true
  · have hpiece : Url.colons piece = 0 := by
      rcases (by simpa [Url.addsNothing] using hnothing : piece = "" ∨ piece = "/") with rfl | rfl
      · rfl
      · rfl
    rw [if_pos hnothing, hpiece, Nat.add_zero]
  · rw [if_neg hnothing]
    by_cases hbase : base = ""
    · rw [if_pos hbase, hbase, Url.colons_empty, Nat.zero_add]
    · rw [if_neg hbase, Url.colons_append, Url.colons_relative, Url.withTrailingSlash]
      by_cases hend : base.toList.getLast? = some '/'
      · rw [if_pos hend]
      · rw [if_neg hend, Url.colons_append, Url.colons_slash, Nat.add_zero]

/-- The path looked for has the colons of the path so far and of the pattern. -/
theorem Pending.colons_layoutPath (pending : Pending) (tokens : List Token) :
    Url.colons (pending.layoutPath tokens)
      = Url.colons pending.path + Url.colons (pattern tokens) := by
  have hrooted : ∀ piece, Url.colons (Url.rooted piece) = Url.colons piece := by
    intro piece
    unfold Url.rooted
    by_cases hhead : piece.toList.head? = some '/'
    · rw [if_pos hhead]
    · rw [if_neg hhead, Url.colons_append, Url.colons_slash, Nat.zero_add]
  rw [Pending.layoutPath, hrooted, Url.colons_join, Url.colons_collapseIndex]

/-- **The URL of a page has the colons that are gathered.** By induction on the layouts it stands
    below: the path of each is the one looked for, and no index with a colon leads there. -/
theorem Forest.Stands.colons_url {file : ScannedFile} {pending : Pending}
    {lists : List (List Token)} {level : Forest} {address : List Nat}
    (h : Forest.Stands file pending lists level address)
    (hall : Forest.AllStand Proper pending level) (hroot : pending.Rooted)
    (hlists : ∀ tokens ∈ lists, Proper tokens) (parent : Option String) :
    ∃ url, Forest.registeredUrlAt? parent level address = some url ∧
      Url.colons url
        = Url.colons (Url.above parent) + Url.colons pending.path + gatheredColons lists := by
  induction h generalizing parent with
  | @here pending lists level place route hroute hname hpath hfile =>
    refine ⟨route.registeredUrl parent, ?_, ?_⟩
    · rw [Forest.registeredUrlAt?_singleton, hroute, Option.map_some]
    · rw [Route.colons_registeredUrl, hpath, Pending.colons_path_walk, Nat.add_assoc]
  | @inside pending front tokens rest level place address route hroute hlayout hrest hbelow ih =>
    have haddress : address ≠ [] := by
      rintro rfl
      cases hbelow
    rw [List.append_cons] at hlists
    have hliteral := hall.indexIsLiteral hroot hroute
      (fun t ht => hlists t (List.mem_append_left rest ht)) hlayout
    obtain ⟨hlayout_name, hlayout_path⟩ := Pending.isLayout_iff.mp hlayout
    obtain ⟨url, hurl, hcolons⟩ := ih (hall.children hroute hlayout_name) (.inl rfl)
      (fun t ht => hlists t (List.mem_append_right _ ht)) (some (route.registeredUrl parent))
    refine ⟨url, ?_, ?_⟩
    · rw [Forest.registeredUrlAt?_cons parent level place haddress, hroute, Option.bind_some, hurl]
    · have hsegments : gatheredColons (front ++ tokens :: rest)
          = gatheredColons front + (Url.colons (pattern tokens) + gatheredColons rest) := by
        rw [List.append_cons, gatheredColons_append, gatheredColons_append, hliteral.colons,
          Nat.add_assoc]
      have habove : Url.colons (Url.above (some (route.registeredUrl parent)))
          = Url.colons (Url.above parent) + (Url.colons pending.path + gatheredColons front
            + Url.colons (pattern tokens)) := by
        rw [Url.above, Option.getD_some, Route.colons_registeredUrl, hlayout_path,
          Pending.colons_layoutPath, Pending.colons_path_walk]
      have hnested : Url.colons ((pending.walk front).nested tokens).path = 0 := rfl
      rw [hcolons, habove, hnested, hsegments]
      omega

end FileRoutes
