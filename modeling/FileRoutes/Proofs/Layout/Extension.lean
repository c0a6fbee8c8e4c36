import FileRoutes.Proofs.Layout.Outcome

namespace FileRoutes

/-!
# Layouts — a longer list of files

Files that come later in a list only add routes, each behind the routes of its level. So the forest
of a list is found again in that of a longer list, in the same places.

* `Forest.level?` — the routes side by side below an address, or on the top level;
* `Forest.Kept` — all routes of a forest are there in another one, at the same addresses and
  children apart;
* `Forest.Kept.level_prefix` — then each level of it is the start of the level in the same place;
* `Forest.Built.kept` — the routes of the first files of a list are kept;
* `Forest.build_append` — the statement about the routes built from a list of files.
-/

/-! ### Levels -/

/-- The routes below the route at an address. At the empty address this is the top level. -/
def Forest.level? (forest : Forest) (address : List Nat) : Option Forest :=
  if address = [] then some forest else (Forest.at? forest address).map Route.children

/-- Unfolding lemma: the level at the empty address is the top level. -/
@[simp] theorem Forest.level?_nil (forest : Forest) : Forest.level? forest [] = some forest := rfl

/-- Unfolding lemma: another level is that of the children of a route. -/
theorem Forest.level?_of_ne {address : List Nat} (h : address ≠ []) (forest : Forest) :
    Forest.level? forest address = (Forest.at? forest address).map Route.children :=
  if_neg h

/-- A route stands on the level that its address leads to, at the last place of the address. -/
theorem Forest.at?_eq_bind_level? (forest : Forest) (address : List Nat) (place : Nat) :
    Forest.at? forest (address ++ [place])
      = (Forest.level? forest address).bind fun level => level[place]? := by
  by_cases haddress : address = []
  · rw [haddress, List.nil_append, Forest.at?_singleton, Forest.level?_nil, Option.bind_some]
  · rw [Forest.at?_concat haddress, Forest.level?_of_ne haddress, Option.bind_map]
    rfl

/-! ### Routes that are kept -/

/-- The routes of a forest are all there in another one, at the same addresses and with the same
    texts. They may have other children there. -/
def Forest.Kept (forest forest' : Forest) : Prop :=
  ∀ address route, Forest.at? forest address = some route →
    ∃ route', Forest.at? forest' address = some route' ∧ route'.bare = route.bare

/-- **Levels only grow at their ends.** Where the routes are kept, each level is the start of the
    level in the same place, children apart. -/
theorem Forest.Kept.level_prefix {forest forest' : Forest} (h : Forest.Kept forest forest')
    {address : List Nat} {level : Forest} (hlevel : Forest.level? forest address = some level) :
    ∃ level', Forest.level? forest' address = some level' ∧
      level.map Route.bare <+: level'.map Route.bare := by
  obtain ⟨level', hlevel'⟩ : ∃ level', Forest.level? forest' address = some level' := by
    by_cases haddress : address = []
    · exact ⟨forest', by rw [haddress, Forest.level?_nil]⟩
    · rw [Forest.level?_of_ne haddress] at hlevel
      obtain ⟨route, hroute, -⟩ := Option.map_eq_some_iff.mp hlevel
      obtain ⟨route', hroute', -⟩ := h address route hroute
      exact ⟨route'.children, by rw [Forest.level?_of_ne haddress, hroute', Option.map_some]⟩
  refine ⟨level', hlevel', List.prefix_iff_getElem?.mpr fun place hplace => ?_⟩
  -- the routes of the level are kept, each at its place
  rw [List.length_map] at hplace
  have hroute : Forest.at? forest (address ++ [place]) = some level[place] := by
    rw [Forest.at?_eq_bind_level?, hlevel, Option.bind_some, List.getElem?_eq_getElem hplace]
  obtain ⟨route', hroute', hbare⟩ := h _ _ hroute
  rw [Forest.at?_eq_bind_level?, hlevel', Option.bind_some] at hroute'
  rw [List.getElem?_map, hroute', Option.map_some, hbare, List.getElem_map]

/-- The routes of the first files of a list are kept. -/
theorem Forest.Built.kept {mount : Mount} {files later : List ScannedFile}
    {forest forest' : Forest} {addresses addresses' : List (List Nat)}
    (h : Forest.Built mount files forest addresses)
    (h' : Forest.Built mount (files ++ later) forest' addresses') : Forest.Kept forest forest' := by
  intro address route hroute
  have hfirst : Forest.Built mount ((files ++ later).take files.length) forest addresses := by
    rw [List.take_left]
    exact h
  exact h'.persists hfirst hroute

/-! ### A list of files and a longer one -/

/-- Where a list of files builds a forest, so do the files that it starts with. -/
theorem Forest.exists_build_of_append {mount : Mount} {files later : List ScannedFile}
    {forest' : Forest} (h : (Forest.build (files ++ later) mount).result = .ok forest') :
    ∃ forest, (Forest.build files mount).result = .ok forest := by
  cases hfiles : (Forest.build files mount).result with
  | ok forest => exact ⟨forest, rfl⟩
  | error fault =>
    -- the first fault of the files would be that of the longer list
    have hfault : (files ++ later).findSome? ScannedFile.fault? = some fault := by
      rw [List.findSome?_append, Forest.build_eq_error_iff.mp hfiles, Option.some_or]
    rw [Forest.build_eq_error_iff.mpr hfault] at h
    cases h

/-- The route of a file stands where it would stand without the later files. -/
theorem Forest.places_append_iff {mount : Mount} {files : List ScannedFile}
    (later : List ScannedFile) {i : Nat} (hi : i < files.length) (address : List Nat) :
    Forest.Places mount (files ++ later) i address ↔ Forest.Places mount files i address := by
  unfold Forest.Places
  rw [List.take_append_of_le_length (Nat.le_of_lt hi), List.take_append_of_le_length hi]

/-- **Later files only add routes.** Where a list of files builds a forest, the files that it starts
    with build one that is found again in it: at every address stands a route with the same name,
    path and file, and every level is the start of the level in the same place. So no later file
    takes a page to another place. -/
theorem Forest.build_append {mount : Mount} {files later : List ScannedFile} {forest' : Forest}
    (h : (Forest.build (files ++ later) mount).result = .ok forest') :
    ∃ forest, (Forest.build files mount).result = .ok forest ∧
      (∀ address route, Forest.at? forest address = some route →
        ∃ route', Forest.at? forest' address = some route' ∧ route'.name = route.name ∧
          route'.path = route.path ∧ route'.file = route.file) ∧
      (∀ address level, Forest.level? forest address = some level →
        ∃ level', Forest.level? forest' address = some level' ∧
          level.map Route.bare <+: level'.map Route.bare) ∧
      ∀ i < files.length, ∀ address,
        Forest.Places mount (files ++ later) i address ↔ Forest.Places mount files i address := by
  obtain ⟨forest, hforest⟩ := Forest.exists_build_of_append h
  obtain ⟨addresses, hbuilt⟩ := Forest.built_of_build hforest
  obtain ⟨addresses', hbuilt'⟩ := Forest.built_of_build h
  have hkept : Forest.Kept forest forest' := hbuilt.kept hbuilt'
  refine ⟨forest, hforest, ?_, fun _ _ hlevel => hkept.level_prefix hlevel,
    fun _ hi => Forest.places_append_iff later hi⟩
  intro address route hroute
  obtain ⟨route', hroute', hbare⟩ := hkept address route hroute
  exact ⟨route', hroute', Route.texts_eq_of_bare hbare⟩

/-- The pages of a harbor: a page of its own, and the page of a folder. -/
def harborPages : List ScannedFile :=
  [⟨"map.vue", "/pages/map.vue", "Harbor"⟩, ⟨"piers.vue", "/pages/piers.vue", "Harbor"⟩]

/-- More pages of the harbor: two in the folder, and another page of the folder's name. -/
def harborPagesLater : List ScannedFile :=
  [⟨"piers/[id].vue", "/pages/piers/[id].vue", "Harbor"⟩,
    ⟨"piers.ts", "/pages/piers.ts", "Harbor"⟩,
    ⟨"piers/new.vue", "/pages/piers/new.vue", "Harbor"⟩]

/-- The first pages of the harbor keep their places among all of its pages: two pages go below the
    page of the folder, and the other page of its name stands behind it. -/
theorem harborPages_kept :
    ∃ forest', (Forest.build (harborPages ++ harborPagesLater) (.ofDomain "Harbor")).result
        = .ok forest' ∧
      forest' = [⟨some "Harbor/map", "/Harbor/map", "/pages/map.vue", []⟩,
        ⟨some "Harbor/piers", "/Harbor/piers", "/pages/piers.vue",
          [⟨some "Harbor/piers/id", "/:id()", "/pages/piers/[id].vue", []⟩,
            ⟨some "Harbor/piers/new", "/new", "/pages/piers/new.vue", []⟩]⟩,
        ⟨some "Harbor/piers", "/Harbor/piers", "/pages/piers.ts", []⟩] ∧
      (Forest.build harborPages (.ofDomain "Harbor")).result
        = .ok [⟨some "Harbor/map", "/Harbor/map", "/pages/map.vue", []⟩,
          ⟨some "Harbor/piers", "/Harbor/piers", "/pages/piers.vue", []⟩] ∧
      ∃ forest, (Forest.build harborPages (.ofDomain "Harbor")).result = .ok forest ∧
        (∀ address route, Forest.at? forest address = some route →
          ∃ route', Forest.at? forest' address = some route' ∧ route'.name = route.name ∧
            route'.path = route.path ∧ route'.file = route.file) ∧
        (∀ address level, Forest.level? forest address = some level →
          ∃ level', Forest.level? forest' address = some level' ∧
            level.map Route.bare <+: level'.map Route.bare) ∧
        ∀ i < harborPages.length, ∀ address,
          Forest.Places (.ofDomain "Harbor") (harborPages ++ harborPagesLater) i address ↔
            Forest.Places (.ofDomain "Harbor") harborPages i address := by
  have hforest' : (Forest.build (harborPages ++ harborPagesLater) (.ofDomain "Harbor")).result
      = .ok [⟨some "Harbor/map", "/Harbor/map", "/pages/map.vue", []⟩,
        ⟨some "Harbor/piers", "/Harbor/piers", "/pages/piers.vue",
          [⟨some "Harbor/piers/id", "/:id()", "/pages/piers/[id].vue", []⟩,
            ⟨some "Harbor/piers/new", "/new", "/pages/piers/new.vue", []⟩]⟩,
        ⟨some "Harbor/piers", "/Harbor/piers", "/pages/piers.ts", []⟩] := by
    decide +kernel
  exact ⟨_, hforest', rfl, by decide +kernel, Forest.build_append hforest'⟩

end FileRoutes
