import FileRoutes.Route

namespace FileRoutes

/-!
# Forests — all routes, children first

* `Forest.induct` — what holds of a forest if it holds of the children of its first route and of
  the routes beside that one;
* `Forest.postorder` — the routes of a forest at any depth, children before their parent and
  siblings in order;
* `Forest.length_postorder` — there are as many as are counted.
-/

/-- Induction over a forest: below its first route, and beside it. -/
@[elab_as_elim]
theorem Forest.induct {motive : Forest → Prop} (nil : motive [])
    (cons : ∀ route rest, motive route.children → motive rest → motive (route :: rest)) :
    ∀ forest, motive forest
  | [] => nil
  | ⟨name, path, file, children⟩ :: rest =>
    cons ⟨name, path, file, children⟩ rest (Forest.induct nil cons children)
      (Forest.induct nil cons rest)

mutual

/-- The routes in the tree of a route, the route itself last. -/
def Route.postorder : Route → List Route
  | ⟨name, path, file, children⟩ => Forest.postorder children ++ [⟨name, path, file, children⟩]

/-- The routes of a forest at any depth, children before their parent. -/
def Forest.postorder : Forest → List Route
  | [] => []
  | route :: rest => route.postorder ++ Forest.postorder rest

end

/-- Unfolding lemma: the empty forest has no routes. -/
@[simp] theorem Forest.postorder_nil : Forest.postorder [] = [] := rfl

/-- Unfolding lemma: a route stands behind all routes below it and before those beside it. -/
@[simp] theorem Forest.postorder_cons (route : Route) (rest : Forest) :
    Forest.postorder (route :: rest)
      = Forest.postorder route.children ++ route :: Forest.postorder rest := by
  obtain ⟨name, path, file, children⟩ := route
  simp [Forest.postorder, Route.postorder]

/-- Unfolding lemma: a route counts itself and the routes below it. -/
theorem Route.count_eq (route : Route) : route.count = 1 + Forest.count route.children := by
  cases route
  rfl

/-- The list of all routes is as long as their number. -/
theorem Forest.length_postorder (forest : Forest) :
    (Forest.postorder forest).length = Forest.count forest := by
  induction forest using Forest.induct with
  | nil => rfl
  | cons route rest below beside =>
    rw [Forest.postorder_cons, List.length_append, List.length_cons, below, beside,
      Forest.count_cons, Route.count_eq]
    omega

end FileRoutes
