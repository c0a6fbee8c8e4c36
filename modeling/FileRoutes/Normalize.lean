import FileRoutes.Event
import FileRoutes.Route
import FileRoutes.Text.Ending

namespace FileRoutes

/-!
# Normalization — the form of a forest that a router registers

* `Route.flatName` — `Hello/parent/index` becomes `Hello-parent`;
* `Finding` — what there is to tell about a route: it gave its name away, or its name was taken
  before;
* `Forest.pass` — flat names, child paths relative to their parents, and no name for a route
  with a child that is shown at its path, with what there is to tell on the way;
* `Forest.normalize` — the pass over a whole forest, when no name is taken yet.
-/

/-- The name without a final `/index`, and with hyphens for slashes. -/
def Route.flatName (name : String) : String :=
  ((Text.dropEnding? "/index" name).getD name).map fun c => if c = '/' then '-' else c

/-- The path without one leading slash. -/
def Route.relativePath (path : String) : String :=
  match path.toList with
  | '/' :: rest => String.ofList rest
  | _ => path

/-! ### Findings -/

/-- What there is to tell about a route. -/
inductive Finding where
  /-- The route of the file gave its name to a child that is shown at its path. -/
  | pathless (file : String)
  /-- The name of a route was taken before. -/
  | duplicate (diagnostic : Diagnostic)
deriving Repr, DecidableEq

/-- The event that tells of a finding. -/
def Finding.event : Finding → Event
  | .pathless file => .pathless file
  | .duplicate diagnostic => .duplicate diagnostic

/-- The problem that a finding is, if it is one. -/
def Finding.diagnostic? : Finding → Option Diagnostic
  | .pathless _ => none
  | .duplicate diagnostic => some diagnostic

/-- The names taken so far, each with the file of the route that took it first. -/
abbrev Owners := List (String × String)

/-- What a look at a part of a forest found, and the names taken after it. -/
structure Review where
  findings : List Finding
  owners : Owners

/-- Takes a name for the route of a file, or finds it taken. -/
def Owners.take (owners : Owners) (name file : String) : Review :=
  match owners.lookup name with
  | some firstFile => ⟨[.duplicate ⟨name, firstFile, file⟩], owners⟩
  | none => ⟨[], (name, file) :: owners⟩

/-! ### Normalization -/

mutual

/-- Normalizes the tree of a route, and tells what was found; `top` tells whether the route has no
    parent. -/
def Route.pass (top : Bool) (owners : Owners) : Route → Route × Review
  | ⟨name, path, file, children⟩ =>
    let name := name.map Route.flatName
    let path := if top then path else Route.relativePath path
    -- A child is pathless in its final form, so the children come first.
    let (children, below) := Forest.pass false owners children
    let handsOver := children.any Route.isPathless
    let name := if handsOver then none else name
    let own : Review := match name with
      | some name => below.owners.take name file
      | none => ⟨[], below.owners⟩
    let handover := if handsOver then [.pathless file] else []
    (⟨name, path, file, children⟩, ⟨below.findings ++ handover ++ own.findings, own.owners⟩)

/-- Normalizes a forest route by route, and tells what was found; `top` tells whether it has no
    parent. -/
def Forest.pass (top : Bool) (owners : Owners) : Forest → Forest × Review
  | [] => ([], ⟨[], owners⟩)
  | route :: rest =>
    let (route, here) := route.pass top owners
    let (rest, later) := Forest.pass top here.owners rest
    (route :: rest, ⟨here.findings ++ later.findings, later.owners⟩)

end

/-- A forest in the form that a router registers, and what there is to tell about it. -/
structure Normalized where
  routes : Forest
  findings : List Finding
deriving Repr, DecidableEq

/-- The names taken twice, in the order in which they were found. -/
def Normalized.diagnostics (normalized : Normalized) : List Diagnostic :=
  normalized.findings.filterMap Finding.diagnostic?

/-- Brings a forest into the form that a router registers. -/
def Forest.normalize (forest : Forest) : Normalized :=
  let (routes, review) := Forest.pass true [] forest
  ⟨routes, review.findings⟩

end FileRoutes
