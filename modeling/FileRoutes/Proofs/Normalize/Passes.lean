import FileRoutes.Normalize
import FileRoutes.Proofs.Forest.Postorder

namespace FileRoutes

/-!
# Normalization — one pass or two

A forest is normalized and reviewed in one pass, route by route. Nothing that is found changes a
route, and a route is reviewed in its final form, so that the two can be told apart:

* `Forest.register` — the form of a forest that a router registers;
* `Forest.review` — what there is to tell about a registered forest: routes that gave their names
  away, and names taken twice;
* `Forest.pass_eq` — one pass does the same as registering and then reviewing;
* `Forest.normalize_eq` — what that says of a whole forest.
-/

/-! ### Registered routes -/

mutual

/-- A route in the form that a router registers; `top` tells whether it has no parent. -/
def Route.register (top : Bool) : Route → Route
  | ⟨name, path, file, children⟩ =>
    let children := Forest.register false children
    { name := if children.any Route.isPathless then none else name.map Route.flatName
      path := if top then path else Route.relativePath path
      file
      children }

/-- A forest in the form that a router registers; `top` tells whether it has no parent. -/
def Forest.register (top : Bool) : Forest → Forest
  | [] => []
  | route :: rest => route.register top :: Forest.register top rest

end

/-- Unfolding lemma: the name of a registered route. -/
theorem Route.name_register (top : Bool) (route : Route) :
    (route.register top).name
      = if (Forest.register false route.children).any Route.isPathless then none
        else route.name.map Route.flatName := by
  cases route
  rfl

/-- Unfolding lemma: the path of a registered route. -/
theorem Route.path_register (top : Bool) (route : Route) :
    (route.register top).path = if top then route.path else Route.relativePath route.path := by
  cases route
  rfl

/-- Unfolding lemma: the file of a registered route. -/
theorem Route.file_register (top : Bool) (route : Route) :
    (route.register top).file = route.file := by
  cases route
  rfl

/-- Unfolding lemma: the children of a registered route. -/
theorem Route.children_register (top : Bool) (route : Route) :
    (route.register top).children = Forest.register false route.children := by
  cases route
  rfl

/-- Registering a forest registers each of its routes. -/
theorem Forest.register_eq_map (top : Bool) (forest : Forest) :
    Forest.register top forest = forest.map (Route.register top) := by
  induction forest with
  | nil => rfl
  | cons route rest ih => simp [Forest.register, ih]

/-! ### Reviewed routes -/

mutual

/-- Looks at the tree of a route, at the children before the route itself. -/
def Route.review (owners : Owners) : Route → Review
  | ⟨name, _, file, children⟩ =>
    let below := Forest.review owners children
    let handover := if children.any Route.isPathless then [.pathless file] else []
    let own : Review := match name with
      | some name => below.owners.take name file
      | none => ⟨[], below.owners⟩
    ⟨below.findings ++ handover ++ own.findings, own.owners⟩

/-- Looks at a forest, route by route. -/
def Forest.review (owners : Owners) : Forest → Review
  | [] => ⟨[], owners⟩
  | route :: rest =>
    let here := route.review owners
    let later := Forest.review here.owners rest
    ⟨here.findings ++ later.findings, later.owners⟩

end

/-! ### One pass -/

/-- **One route.** If the pass over its children registers and reviews them, the pass over its tree
    does so with the route. -/
theorem Route.pass_eq {route : Route} {owners : Owners} (top : Bool)
    (h : Forest.pass false owners route.children
      = (Forest.register false route.children,
          Forest.review owners (Forest.register false route.children))) :
    route.pass top owners = (route.register top, (route.register top).review owners) := by
  obtain ⟨name, path, file, children⟩ := route
  unfold Route.pass
  rw [h]
  rfl

/-- **A whole forest.** One pass registers it and reviews what it has registered. -/
theorem Forest.pass_eq (top : Bool) (owners : Owners) (forest : Forest) :
    Forest.pass top owners forest
      = (Forest.register top forest, Forest.review owners (Forest.register top forest)) := by
  induction forest using Forest.induct generalizing top owners with
  | nil => rfl
  | cons route rest below beside =>
    unfold Forest.pass
    rw [Route.pass_eq top (below false owners)]
    dsimp only
    rw [beside]
    rfl

/-- A forest is normalized as if it were registered first and then reviewed. -/
theorem Forest.normalize_eq (forest : Forest) :
    Forest.normalize forest
      = ⟨Forest.register true forest, (Forest.review [] (Forest.register true forest)).findings⟩ := by
  rw [Forest.normalize, Forest.pass_eq]

/-- The routes of a normalized forest are the registered ones. -/
theorem Forest.routes_normalize (forest : Forest) :
    (Forest.normalize forest).routes = Forest.register true forest := by
  rw [Forest.normalize_eq]

end FileRoutes
