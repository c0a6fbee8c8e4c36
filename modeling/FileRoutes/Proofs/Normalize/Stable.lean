import FileRoutes.Proofs.Normalize.Passes

namespace FileRoutes

/-!
# Normalization — when a second run changes nothing

A path below the top level loses one slash at its start in every run, so that of two slashes there
the second one goes in a second run. Names are flat after the first run.

* `Route.flatName_flatName` — a flat name stays as it is;
* `Route.relativePath_relativePath_iff` — a path loses no second slash if it does not start with
  two;
* `Route.register_register_iff` — what this means for one route and its children;
* `Forest.SingleStarts` — no path below the top level starts with two slashes;
* `Forest.normalize_normalize_iff` — a second run leaves the routes as they are exactly for such
  forests, and tells the same of them.
-/

/-! ### Names -/

/-- A flat name has no slashes. -/
theorem Route.slash_not_mem_flatName (name : String) : '/' ∉ (Route.flatName name).toList := by
  rw [Route.flatName, String.toList_map]
  intro hslash
  obtain ⟨c, -, hc⟩ := List.mem_map.mp hslash
  by_cases hslash : c = '/'
  · rw [if_pos hslash] at hc
    exact absurd hc (by decide)
  · rw [if_neg hslash] at hc
    exact hslash hc

/-- A name without slashes is flat. -/
theorem Route.flatName_eq_self {name : String} (h : '/' ∉ name.toList) :
    Route.flatName name = name := by
  have hending : Text.dropEnding? "/index" name = none := by
    rw [Option.eq_none_iff_forall_ne_some]
    intro front hfront
    rw [Text.dropEnding?_eq_some_iff.mp hfront] at h
    simp at h
  rw [Route.flatName, hending, Option.getD_none, ← String.toList_inj, String.toList_map]
  refine (List.map_congr_left fun c hc => if_neg ?_).trans (List.map_id _)
  rintro rfl
  exact h hc

/-- A flat name stays as it is. -/
theorem Route.flatName_flatName (name : String) :
    Route.flatName (Route.flatName name) = Route.flatName name :=
  Route.flatName_eq_self (Route.slash_not_mem_flatName name)

/-! ### Paths -/

/-- Unfolding lemma: the characters of a path without one leading slash. -/
theorem Route.toList_relativePath (path : String) :
    (Route.relativePath path).toList
      = if path.toList.head? = some '/' then path.toList.tail else path.toList := by
  unfold Route.relativePath
  split
  · rename_i rest hpath
    simp [hpath]
  · rename_i hpath
    rw [if_neg]
    intro hslash
    obtain ⟨rest, hrest⟩ := List.head?_eq_some_iff.mp hslash
    exact hpath rest hrest

/-- A path loses no second slash exactly if it does not start with two. -/
theorem Route.relativePath_relativePath_iff (path : String) :
    Route.relativePath (Route.relativePath path) = Route.relativePath path ↔
      ¬ ['/', '/'] <+: path.toList := by
  rw [← String.toList_inj, Route.toList_relativePath, Route.toList_relativePath]
  rcases path.toList with _ | ⟨c, _ | ⟨d, rest⟩⟩
  · simp
  · by_cases hc : c = '/' <;> simp [hc]
  · by_cases hc : c = '/' <;> by_cases hd : d = '/' <;> simp [hc, hd, Ne.symm]

/-! ### One route -/

/-- The name of a route stays as it is in a second run if its children do. -/
theorem Route.name_register_register {top : Bool} {route : Route}
    (h : Forest.register false (Forest.register false route.children)
      = Forest.register false route.children) :
    ((route.register top).register top).name = (route.register top).name := by
  rw [Route.name_register, Route.name_register, Route.children_register, h]
  split
  · rfl
  · rw [Option.map_map]
    congr 1
    funext name
    exact Route.flatName_flatName name

/-- The path of a route stays as it is in a second run exactly if it does not start with two
    slashes, or is on the top level. -/
theorem Route.path_register_register_iff (top : Bool) (route : Route) :
    ((route.register top).register top).path = (route.register top).path ↔
      (top = false → ¬ ['/', '/'] <+: route.path.toList) := by
  rw [Route.path_register, Route.path_register]
  cases top with
  | true => simp
  | false => simpa using Route.relativePath_relativePath_iff route.path

/-- Routes that are the same in every part are the same. -/
theorem Route.eq_iff {left right : Route} :
    left = right ↔ left.name = right.name ∧ left.path = right.path ∧ left.file = right.file ∧
      left.children = right.children := by
  cases left
  cases right
  rw [Route.mk.injEq]

/-- **One route in a second run.** It stays as it is exactly if its children do and its path, if it
    is not on the top level, did not start with two slashes. -/
theorem Route.register_register_iff (top : Bool) (route : Route) :
    (route.register top).register top = route.register top ↔
      (top = false → ¬ ['/', '/'] <+: route.path.toList) ∧
        Forest.register false (Forest.register false route.children)
          = Forest.register false route.children := by
  rw [← Route.path_register_register_iff]
  constructor
  · intro h
    refine ⟨congrArg Route.path h, ?_⟩
    have hchildren := congrArg Route.children h
    rwa [Route.children_register, Route.children_register] at hchildren
  · -- the name needs no condition of its own: it is flat, and given away to the same children
    rintro ⟨hpath, hchildren⟩
    rw [Route.eq_iff, Route.file_register, Route.children_register, Route.children_register]
    exact ⟨Route.name_register_register hchildren, hpath, rfl, hchildren⟩

/-! ### All routes -/

/-- **A level below the top in a second run** stays as it is exactly if no path starts with two
    slashes, at any depth. -/
theorem Forest.register_register_below_iff (forest : Forest) :
    Forest.register false (Forest.register false forest) = Forest.register false forest ↔
      ∀ route ∈ Forest.postorder forest, ¬ ['/', '/'] <+: route.path.toList := by
  induction forest using Forest.induct with
  | nil => simp [Forest.register]
  | cons route rest below beside =>
    rw [Forest.register, Forest.register, List.cons.injEq, Route.register_register_iff, below,
      beside, Forest.postorder_cons, List.forall_mem_append, List.forall_mem_cons]
    constructor
    · rintro ⟨⟨hpath, hbelow⟩, hbeside⟩
      exact ⟨hbelow, hpath rfl, hbeside⟩
    · rintro ⟨hbelow, hpath, hbeside⟩
      exact ⟨⟨fun _ => hpath, hbelow⟩, hbeside⟩

/-- No path below the top level starts with two slashes. -/
def Forest.SingleStarts (forest : Forest) : Prop :=
  ∀ top ∈ forest, ∀ route ∈ Forest.postorder top.children, ¬ ['/', '/'] <+: route.path.toList

instance : DecidablePred Forest.SingleStarts := fun forest =>
  inferInstanceAs (Decidable (∀ top ∈ forest, ∀ route ∈ Forest.postorder top.children,
    ¬ ['/', '/'] <+: route.path.toList))

/-- Unfolding lemma: the paths below each route of the top level count. -/
theorem Forest.singleStarts_cons (top : Route) (rest : Forest) :
    Forest.SingleStarts (top :: rest) ↔
      (∀ route ∈ Forest.postorder top.children, ¬ ['/', '/'] <+: route.path.toList) ∧
        Forest.SingleStarts rest := List.forall_mem_cons

/-- A whole forest stays as it is in a second run exactly if no path below the top level starts with
    two slashes. -/
theorem Forest.register_register_top_iff (forest : Forest) :
    Forest.register true (Forest.register true forest) = Forest.register true forest ↔
      forest.SingleStarts := by
  induction forest with
  | nil => simp [Forest.register, Forest.SingleStarts]
  | cons top rest ih =>
    rw [Forest.register, Forest.register, List.cons.injEq, Route.register_register_iff,
      Forest.register_register_below_iff, ih, Forest.singleStarts_cons]
    constructor
    · rintro ⟨⟨-, hbelow⟩, hbeside⟩
      exact ⟨hbelow, hbeside⟩
    · rintro ⟨hbelow, hbeside⟩
      exact ⟨⟨fun hfalse => absurd hfalse (by decide), hbelow⟩, hbeside⟩

/-- A second run finds the same as the first if no path below the top level starts with two
    slashes. -/
theorem Forest.normalize_normalize {forest : Forest} (h : forest.SingleStarts) :
    (Forest.normalize forest).routes.normalize = Forest.normalize forest := by
  have hroutes : Forest.register true (Forest.register true forest) = Forest.register true forest :=
    (Forest.register_register_top_iff forest).mpr h
  rw [Forest.routes_normalize, Forest.normalize_eq, Forest.normalize_eq, hroutes]

/-- **When a second run changes nothing.** A second run leaves the routes as they are exactly if no
    path below the top level starts with two slashes, and in that case it reports the same
    diagnostics in the same order. -/
theorem Forest.normalize_normalize_iff (forest : Forest) :
    ((Forest.normalize forest).routes.normalize.routes = (Forest.normalize forest).routes ↔
        forest.SingleStarts) ∧
      (forest.SingleStarts →
        (Forest.normalize forest).routes.normalize.diagnostics
          = (Forest.normalize forest).diagnostics) := by
  refine ⟨?_, fun h => ?_⟩
  · rw [Forest.routes_normalize, Forest.routes_normalize]
    exact Forest.register_register_top_iff forest
  · rw [Forest.normalize_normalize h]

/-- A page with an index page of its own, beside two pages of one name. -/
def helloRoutes : Forest :=
  [⟨some "Hello/p", "//Hello/p", "p.vue",
      [⟨some "Hello/p/index", "/", "p/index.vue", []⟩, ⟨some "Hello/p/q", "/q", "p/q.vue", []⟩]⟩,
    ⟨some "Hello/id", "/Hello/:id()", "[id].vue", []⟩, ⟨some "Hello/id", "/Hello/id", "id.vue", []⟩]

/-- Two slashes on the top level do not matter, and a name that was given away is not missed. -/
theorem helloRoutes_stable :
    helloRoutes.SingleStarts ∧
      (Forest.normalize helloRoutes).routes.normalize.routes
        = (Forest.normalize helloRoutes).routes ∧
      (Forest.normalize helloRoutes).routes.normalize.diagnostics
        = (Forest.normalize helloRoutes).diagnostics ∧
      (Forest.normalize helloRoutes).diagnostics = [⟨"Hello-id", "[id].vue", "id.vue"⟩] := by
  have hstarts : helloRoutes.SingleStarts := by decide +kernel
  have hstable := Forest.normalize_normalize_iff helloRoutes
  exact ⟨hstarts, hstable.1.mpr hstarts, hstable.2 hstarts, by decide +kernel⟩

end FileRoutes
