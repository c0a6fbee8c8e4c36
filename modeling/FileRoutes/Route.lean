namespace FileRoutes

/-!
# Routes — the nested routes of a domain

* `Route` — a route with its name, path, file and child routes, and `Forest`, a list of
  routes side by side;
* `Forest.count` — the number of routes at any depth;
* `Forest.lookup` — the first route of a given name, a route before its children.
-/

/-- A route. The path of a child is relative to its parent, and a child with an empty path
    is shown at its parent's own path. A route has no name once such a child took it over. -/
structure Route where
  name : Option String
  path : String
  file : String
  children : List Route
deriving Repr

/-- Routes side by side. -/
abbrev Forest := List Route

/-- A route without children. -/
def Route.leaf (name path file : String) : Route := ⟨some name, path, file, []⟩

/-- Whether the route is shown at its parent's own path. -/
def Route.isPathless (route : Route) : Bool := route.path == ""

/-! ### Counting -/

mutual

/-- The number of routes in the tree of a route, itself included. -/
def Route.count : Route → Nat
  | ⟨_, _, _, children⟩ => 1 + Forest.count children

/-- The number of routes in a forest, at any depth. -/
def Forest.count : Forest → Nat
  | [] => 0
  | route :: rest => route.count + Forest.count rest

end

/-- Unfolding lemma: the empty forest has no routes. -/
@[simp] theorem Forest.count_nil : Forest.count [] = 0 := rfl

/-- Unfolding lemma: the count of a forest is taken route by route. -/
@[simp] theorem Forest.count_cons (route : Route) (rest : Forest) :
    Forest.count (route :: rest) = route.count + Forest.count rest := rfl

/-- The count of two forests side by side is the sum of their counts. -/
@[simp] theorem Forest.count_append (left right : Forest) :
    Forest.count (left ++ right) = Forest.count left + Forest.count right := by
  induction left with
  | nil => simp
  | cons route rest ih => simp [ih, Nat.add_assoc]

/-! ### Looking up a name -/

mutual

/-- The first route of the given name in the tree of a route, itself included. -/
def Route.lookup (name : String) : Route → Option Route
  | ⟨own, path, file, children⟩ =>
    if own = some name then some ⟨own, path, file, children⟩ else Forest.lookup name children

/-- The first route of the given name in a forest, a route before its children and siblings
    in order. -/
def Forest.lookup (name : String) : Forest → Option Route
  | [] => none
  | route :: rest => (route.lookup name).or (Forest.lookup name rest)

end

/-- Unfolding lemma: nothing is found in the empty forest. -/
@[simp] theorem Forest.lookup_nil (name : String) : Forest.lookup name [] = none := rfl

/-- Unfolding lemma: a forest is searched route by route. -/
@[simp] theorem Forest.lookup_cons (name : String) (route : Route) (rest : Forest) :
    Forest.lookup name (route :: rest) = (route.lookup name).or (Forest.lookup name rest) := rfl

/-! ### Equality -/

mutual

/-- Decides whether two routes are the same in every part. -/
def Route.decideEq : (left right : Route) → Decidable (left = right)
  | ⟨name, path, file, children⟩, ⟨name', path', file', children'⟩ =>
    if parts : name = name' ∧ path = path' ∧ file = file' then
      match Forest.decideEq children children' with
      | isTrue same => isTrue (by rw [parts.1, parts.2.1, parts.2.2, same])
      | isFalse differ => isFalse fun same => differ (by injection same)
    else isFalse fun same => parts (by injection same; exact ⟨‹_›, ‹_›, ‹_›⟩)

/-- Decides whether two forests are the same in every part. -/
def Forest.decideEq : (left right : Forest) → Decidable (left = right)
  | [], [] => isTrue rfl
  | [], _ :: _ => isFalse nofun
  | _ :: _, [] => isFalse nofun
  | route :: rest, route' :: rest' =>
    match Route.decideEq route route', Forest.decideEq rest rest' with
    | isTrue same, isTrue same' => isTrue (by rw [same, same'])
    | isFalse differ, _ => isFalse fun same => differ (by injection same)
    | _, isFalse differ => isFalse fun same => differ (by injection same)

end

instance : DecidableEq Route := Route.decideEq

end FileRoutes
