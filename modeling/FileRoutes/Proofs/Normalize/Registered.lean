import FileRoutes.Proofs.Normalize.Passes
import FileRoutes.Proofs.Layout.Address

namespace FileRoutes

/-!
# Normalization — registered routes in their places

Registering a forest changes the texts of its routes and nothing else.

* `Forest.at?_register` — at each address stands the registered form of the same route;
* `Forest.files` — the files of a forest, and `Forest.files_register`, which says that they are
  kept;
* `Route.name_register_cases` — a route keeps a name exactly if no child is shown at its path.
-/

/-! ### Addresses -/

/-- A registered forest has the registered routes at the same addresses. -/
theorem Forest.at?_register (top : Bool) (forest : Forest) (address : List Nat) :
    Forest.at? (Forest.register top forest) address
      = (Forest.at? forest address).map (Route.register (top && address.length == 1)) := by
  induction address generalizing top forest with
  | nil => simp
  | cons place address ih =>
    rw [Forest.register_eq_map]
    by_cases haddress : address = []
    · subst haddress
      simp
    · rw [Forest.at?_cons haddress, Forest.at?_cons haddress, List.getElem?_map]
      cases forest[place]? with
      | none => rfl
      | some route =>
        have hlength : ((place :: address).length == 1) = false := by
          simpa using haddress
        have hbelow := ih false route.children
        rw [Bool.false_and] at hbelow
        rw [hlength, Bool.and_false]
        show Forest.at? (route.register top).children address = _
        rw [Route.children_register]
        exact hbelow

/-! ### Files -/

/-- The files of a forest, children before their parent. -/
def Forest.files (forest : Forest) : List String := (Forest.postorder forest).map Route.file

/-- Unfolding lemma: the files of a forest are those below its first route, that of the route, and
    those beside it. -/
theorem Forest.files_cons (route : Route) (rest : Forest) :
    Forest.files (route :: rest)
      = Forest.files route.children ++ route.file :: Forest.files rest := by
  unfold Forest.files
  rw [Forest.postorder_cons, List.map_append, List.map_cons]

/-- The files of two forests side by side. -/
theorem Forest.files_append (left right : Forest) :
    Forest.files (left ++ right) = Forest.files left ++ Forest.files right := by
  induction left with
  | nil => rfl
  | cons route rest ih =>
    rw [List.cons_append, Forest.files_cons, ih, Forest.files_cons, List.append_assoc,
      List.cons_append]

/-- A registered forest has the same files in the same order. -/
theorem Forest.files_register (top : Bool) (forest : Forest) :
    Forest.files (Forest.register top forest) = Forest.files forest := by
  induction forest using Forest.induct generalizing top with
  | nil => rfl
  | cons route rest below beside =>
    rw [Forest.register, Forest.files_cons, Route.children_register, Route.file_register, below,
      beside, Forest.files_cons]

/-! ### Names -/

/-- A registered route has the flat name, or none if a child is shown at its path. -/
theorem Route.name_register_cases (top : Bool) (route : Route) :
    ((∃ child ∈ (route.register top).children, child.path = "") ∧
        (route.register top).name = none) ∨
      ((∀ child ∈ (route.register top).children, child.path ≠ "") ∧
        (route.register top).name = route.name.map Route.flatName) := by
  rw [Route.name_register, Route.children_register]
  by_cases hpathless : (Forest.register false route.children).any Route.isPathless = true
  · left
    obtain ⟨child, hchild, hpath⟩ := List.any_eq_true.mp hpathless
    exact ⟨⟨child, hchild, beq_iff_eq.mp hpath⟩, if_pos hpathless⟩
  · right
    refine ⟨fun child hchild hpath => hpathless ?_, if_neg hpathless⟩
    exact List.any_eq_true.mpr ⟨child, hchild, beq_iff_eq.mpr hpath⟩

end FileRoutes
