import FileRoutes.Json
import FileRoutes.Route

namespace FileRoutes

/-!
# JSON — route trees

* `Route.toJson`, `Forest.toJson` — routes as objects and forests as arrays. A route without
  a name has no field for it, and the list of children is always there;
* `Route.ofJson?`, `Forest.ofJson?` — the routes that a JSON value stands for. A missing or
  null name is no name, a missing list of children is empty, and unknown fields are passed
  over, but no part of a route may stand in an object twice. The parts may also stand in an
  array, in the order of the fields.
-/

mutual

/-- A route as an object. -/
def Route.toJson : Route → Json
  | ⟨name, path, file, children⟩ =>
    .object <|
      (match name with
        | some name => [("name", .string name)]
        | none => []) ++
      [("path", .string path), ("file", .string file),
        ("children", .array (Forest.toJsonItems children))]

/-- The routes of a forest as objects. -/
def Forest.toJsonItems : Forest → List Json
  | [] => []
  | route :: rest => route.toJson :: Forest.toJsonItems rest

end

/-- A forest as an array of objects. -/
def Forest.toJson (forest : Forest) : Json := .array forest.toJsonItems

/-! ### Reading -/

/-- The text that a value holds. -/
def Json.text? : Json → Option String
  | .string text => some text
  | _ => none

/-- The route name that a value holds, where null is no name. -/
def Json.name? : Json → Option (Option String)
  | .null => some none
  | .string name => some (some name)
  | _ => none

/-- The route name in the fields of an object, where a missing one is no name. -/
def Json.nameIn? (fields : List (String × Json)) : Option (Option String) :=
  ((Json.field? "name" fields).map Json.name?).getD (some none)

/-- The keys of the parts of a route. -/
def Route.keys : List String := ["name", "path", "file", "children"]

/-- No part of a route stands in the fields twice. Other fields may be repeated. -/
def Json.PartsOnce (fields : List (String × Json)) : Prop :=
  ∀ key ∈ Route.keys, (fields.map Prod.fst).count key ≤ 1

instance : DecidablePred Json.PartsOnce := fun fields =>
  inferInstanceAs (Decidable (∀ key ∈ Route.keys, (fields.map Prod.fst).count key ≤ 1))

/-- The text in a field that has to be there. -/
def Json.textIn? (name : String) (fields : List (String × Json)) : Option String :=
  (Json.field? name fields).bind Json.text?

mutual

/-- The route that a value stands for. -/
def Route.ofJson? : Json → Option Route
  | .object fields =>
    if Json.PartsOnce fields then do
      let name ← Json.nameIn? fields
      let path ← Json.textIn? "path" fields
      let file ← Json.textIn? "file" fields
      let children ← Forest.childrenIn? fields
      return ⟨name, path, file, children⟩
    else none
  | .array [name, path, file] => do
    return ⟨← name.name?, ← path.text?, ← file.text?, []⟩
  | .array [name, path, file, children] => do
    return ⟨← name.name?, ← path.text?, ← file.text?, ← Forest.ofJson? children⟩
  | _ => none

/-- The forest in the field for the children of a route, which is empty if there is none. -/
def Forest.childrenIn? : List (String × Json) → Option Forest
  | [] => some []
  | (name, value) :: rest =>
    if name = "children" then Forest.ofJson? value else Forest.childrenIn? rest

/-- The forest that a value stands for. -/
def Forest.ofJson? : Json → Option Forest
  | .array items => Forest.ofJsonItems? items
  | _ => none

/-- The routes that values stand for. -/
def Forest.ofJsonItems? : List Json → Option Forest
  | [] => some []
  | item :: rest => do return (← Route.ofJson? item) :: (← Forest.ofJsonItems? rest)

end

end FileRoutes
