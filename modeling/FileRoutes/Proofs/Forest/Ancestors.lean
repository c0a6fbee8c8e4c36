import FileRoutes.Proofs.Forest.Lookup
import FileRoutes.Proofs.Normalize.Registered
import Mathlib.Data.List.Basic

namespace FileRoutes

/-!
# Forests — the routes above a route

* `Forest.ancestors` — the routes above an address, from the top level down;
* `Forest.ancestors_cons` — the first of them stands on the top level, the others below it;
* `Forest.files_ancestors_eq` — while the routes above an address stay, so do their files;
* `Forest.files_ancestors_register` — registering a forest keeps them.
-/

/-- The routes above an address, from the top level down: those at its starts, short of the whole
    address. -/
def Forest.ancestors (forest : Forest) (address : List Nat) : List Route :=
  (List.range address.length).filterMap fun n => Forest.at? forest (address.take n)

/-- No route stands above the top level. -/
@[simp] theorem Forest.ancestors_singleton (forest : Forest) (place : Nat) :
    Forest.ancestors forest [place] = [] := by
  simp [Forest.ancestors]

/-- The routes above an address that goes on below a route are that route and those above the rest
    of the address. -/
theorem Forest.ancestors_cons {forest : Forest} {place : Nat} {route : Route}
    (hroute : forest[place]? = some route) {address : List Nat} (haddress : address ≠ []) :
    Forest.ancestors forest (place :: address)
      = route :: Forest.ancestors route.children address := by
  obtain ⟨next, more, rfl⟩ := List.exists_cons_of_ne_nil haddress
  have hbelow : ∀ n, Forest.at? forest (place :: next :: more.take n)
      = Forest.at? route.children (next :: more.take n) := by
    intro n
    rw [Forest.at?_cons (List.cons_ne_nil _ _), hroute, Option.bind_some]
  -- the empty start counts for nothing, and the start of one place is the route itself
  unfold Forest.ancestors
  rw [List.length_cons, List.length_cons, List.range_succ_eq_map, List.range_succ_eq_map]
  simp [List.filterMap_map, Function.comp_def, hroute, hbelow]

/-- The starts of an address where a route stands are addresses where routes stand. -/
theorem Forest.isSome_at?_of_append {forest : Forest} {front back : List Nat} (hfront : front ≠ [])
    (h : (Forest.at? forest (front ++ back)).isSome = true) :
    (Forest.at? forest front).isSome = true := by
  by_cases hback : back = []
  · rwa [hback, List.append_nil] at h
  · rw [Forest.at?_append hfront hback] at h
    exact Option.isSome_of_isSome_bind h

/-- The files of the routes above an address are the same in two forests, if every route above it in
    the one forest stands in the other one as well, children apart. -/
theorem Forest.files_ancestors_eq {forest forest' : Forest} {address : List Nat}
    (h : ∀ front back, address = front ++ back → front ≠ [] → back ≠ [] →
      ∃ route route', Forest.at? forest front = some route ∧
        Forest.at? forest' front = some route' ∧ route'.file = route.file) :
    (Forest.ancestors forest' address).map Route.file
      = (Forest.ancestors forest address).map Route.file := by
  unfold Forest.ancestors
  rw [List.map_filterMap, List.map_filterMap]
  refine List.filterMap_congr fun n hn => ?_
  rw [List.mem_range] at hn
  by_cases hzero : n = 0
  · simp [hzero]
  · have hfront : address.take n ≠ [] := by
      intro hnil
      have hlength := congrArg List.length hnil
      rw [List.length_take, List.length_nil] at hlength
      omega
    have hback : address.drop n ≠ [] := by simpa using hn
    obtain ⟨route, route', hroute, hroute', hfile⟩ :=
      h _ _ (List.take_append_drop n address).symm hfront hback
    rw [hroute, hroute', Option.map_some, Option.map_some, hfile]

/-- A registered forest has the same files above each address. -/
theorem Forest.files_ancestors_register (top : Bool) (forest : Forest) (address : List Nat) :
    (Forest.ancestors (Forest.register top forest) address).map Route.file
      = (Forest.ancestors forest address).map Route.file := by
  unfold Forest.ancestors
  rw [List.map_filterMap, List.map_filterMap]
  refine List.filterMap_congr fun n _ => ?_
  rw [Forest.at?_register, Option.map_map]
  congr 1
  funext route
  exact Route.file_register _ route

end FileRoutes
