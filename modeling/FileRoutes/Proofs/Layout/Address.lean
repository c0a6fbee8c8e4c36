import FileRoutes.Route

namespace FileRoutes

/-!
# Addresses — where a route stands in a forest

An address tells the place of a route on the top level, then the place on the level below it
where the way goes on, and so on.

* `Forest.at?` — the route at an address;
* `Forest.Graft` — a forest with one more leaf, at the end of a level, and its address;
* `Forest.Graft.at?_self`, `Forest.Graft.at?_fresh` — the address is free before, and the leaf
  stands there after;
* `Forest.Graft.getElem?_eq_some` — what this does to the top level;
* `Forest.Graft.bare_at?` — everywhere else the same routes stand, children apart;
* `Forest.Graft.isSome_at?_ancestor` — a leaf is grafted below routes that were there before.
-/

/-- The route at an address. No route stands at the empty address. -/
def Forest.at? : Forest → List Nat → Option Route
  | _, [] => none
  | forest, [place] => forest[place]?
  | forest, place :: next :: rest =>
    forest[place]?.bind fun route => Forest.at? route.children (next :: rest)

/-- Unfolding lemma: no route stands at the empty address. -/
@[simp] theorem Forest.at?_nil (forest : Forest) : Forest.at? forest [] = none := by
  simp [Forest.at?]

/-- Unfolding lemma: an address of one place is on the top level. -/
@[simp] theorem Forest.at?_singleton (forest : Forest) (place : Nat) :
    Forest.at? forest [place] = forest[place]? := by
  simp [Forest.at?]

/-- Unfolding lemma: a longer address goes on below the route at its first place. -/
theorem Forest.at?_cons {address : List Nat} (h : address ≠ []) (forest : Forest) (place : Nat) :
    Forest.at? forest (place :: address)
      = forest[place]?.bind fun route => Forest.at? route.children address := by
  obtain ⟨next, rest, rfl⟩ := List.exists_cons_of_ne_nil h
  rfl

/-- The children of the route at an address stand at the addresses that are one place longer. -/
theorem Forest.at?_concat {address : List Nat} (h : address ≠ []) (forest : Forest) (place : Nat) :
    Forest.at? forest (address ++ [place])
      = (Forest.at? forest address).bind fun route => route.children[place]? := by
  induction address generalizing forest with
  | nil => exact absurd rfl h
  | cons first address ih =>
    rw [List.cons_append, Forest.at?_cons (by simp)]
    by_cases haddress : address = []
    · simp [haddress]
    · rw [Forest.at?_cons haddress]
      cases forest[first]? with
      | none => rfl
      | some route => exact ih haddress route.children

/-- Nothing stands in the empty forest. -/
@[simp] theorem Forest.at?_empty (address : List Nat) : Forest.at? [] address = none := by
  rcases address with _ | ⟨place, _ | ⟨next, rest⟩⟩ <;> simp [Forest.at?]

/-- A route apart from its children. -/
def Route.bare (route : Route) : Route := { route with children := [] }

/-- Routes that are the same apart from their children have the same texts. -/
theorem Route.texts_eq_of_bare {left right : Route} (h : left.bare = right.bare) :
    left.name = right.name ∧ left.path = right.path ∧ left.file = right.file := by
  simpa [Route.bare] using h

/-- Routes that are the same apart from their children are the same with the same children. -/
theorem Route.eq_of_bare {left right : Route} (h : left.bare = right.bare)
    (children : List Route) : { left with children } = { right with children } := by
  obtain ⟨hname, hpath, hfile⟩ := Route.texts_eq_of_bare h
  rw [hname, hpath, hfile]

/-! ### Grafting a leaf -/

/-- A forest with one more leaf at the end of one of its levels, and the address of the leaf. -/
inductive Forest.Graft (leaf : Route) : List Nat → Forest → Forest → Prop where
  /-- The leaf is added to this level. -/
  | here (level : Forest) : Graft leaf [level.length] level (level ++ [leaf])
  /-- The leaf is added below a route of this level. -/
  | inside {place : Nat} {address : List Nat} {level : Forest} {route : Route}
      {children : Forest} (hroute : level[place]? = some route)
      (hgraft : Graft leaf address route.children children) :
      Graft leaf (place :: address) level (level.set place { route with children })

namespace Forest.Graft

variable {leaf : Route} {address : List Nat} {level level' : Forest}

/-- A leaf stands somewhere. -/
theorem ne_nil (h : Graft leaf address level level') : address ≠ [] := by
  cases h <;> exact List.cons_ne_nil _ _

/-- The leaf stands at its address. -/
theorem at?_self (h : Graft leaf address level level') : Forest.at? level' address = some leaf := by
  induction h with
  | here level => simp
  | inside hroute hgraft ih =>
    have hlt := (List.getElem?_eq_some_iff.mp hroute).1
    rw [Forest.at?_cons hgraft.ne_nil, List.getElem?_set_self hlt]
    exact ih

/-- The address of the leaf was free. -/
theorem at?_fresh (h : Graft leaf address level level') : Forest.at? level address = none := by
  induction h with
  | here level => simp
  | inside hroute hgraft ih =>
    rw [Forest.at?_cons hgraft.ne_nil, hroute]
    exact ih

/-- A graft keeps the routes of a level in their places, and grafts below one of them at most. -/
theorem getElem?_eq_some (h : Graft leaf address level level') {place : Nat} {route : Route}
    (hroute : level[place]? = some route) :
    ∃ route', level'[place]? = some route' ∧ route'.bare = route.bare ∧
      (route'.children = route.children ∨
        ∃ inner, Graft leaf inner route.children route'.children) := by
  have hlt := (List.getElem?_eq_some_iff.mp hroute).1
  cases h with
  | here => exact ⟨route, by rw [List.getElem?_append_left hlt, hroute], rfl, .inl rfl⟩
  | @inside place' inner _ _ children hold hgraft =>
    by_cases hplace : place' = place
    · subst hplace
      cases Option.some.inj (hold.symm.trans hroute)
      exact ⟨{ route with children }, List.getElem?_set_self hlt, rfl, .inr ⟨inner, hgraft⟩⟩
    · exact ⟨route, by rw [List.getElem?_set_ne hplace, hroute], rfl, .inl rfl⟩

/-- **Frame.** At every other address the same route stands as before, children apart. -/
theorem bare_at? (h : Graft leaf address level level') (hleaf : leaf.children = [])
    {other : List Nat} (hne : other ≠ address) :
    (Forest.at? level' other).map Route.bare = (Forest.at? level other).map Route.bare := by
  induction h generalizing other with
  | here level =>
    rcases other with _ | ⟨place, more⟩
    · simp
    · by_cases hplace : place < level.length
      · -- the routes in front of the leaf are the same ones
        have hsame : (level ++ [leaf])[place]? = level[place]? :=
          List.getElem?_append_left hplace
        by_cases hmore : more = []
        · rw [hmore, Forest.at?_singleton, Forest.at?_singleton, hsame]
        · rw [Forest.at?_cons hmore, Forest.at?_cons hmore, hsame]
      · have hnone : level[place]? = none := List.getElem?_eq_none (Nat.le_of_not_lt hplace)
        by_cases hmore : more = []
        · subst hmore
          have hgt : level.length + 1 ≤ place := by
            have hplace_ne : place ≠ level.length := fun heq => hne (by rw [heq])
            omega
          have hnone' : (level ++ [leaf])[place]? = none :=
            List.getElem?_eq_none (by simpa using hgt)
          rw [Forest.at?_singleton, Forest.at?_singleton, hnone, hnone']
        · -- nothing stands below the leaf
          rw [Forest.at?_cons hmore, Forest.at?_cons hmore, hnone]
          by_cases heq : place = level.length
          · rw [heq, List.getElem?_concat_length]
            simp [hleaf]
          · rw [List.getElem?_eq_none (by simp; omega)]
  | @inside place address level route children hroute hgraft ih =>
    have hlt := (List.getElem?_eq_some_iff.mp hroute).1
    rcases other with _ | ⟨place', more⟩
    · simp
    · by_cases hplace : place = place'
      · subst hplace
        by_cases hmore : more = []
        · -- the route itself, which only got other children
          rw [hmore, Forest.at?_singleton, Forest.at?_singleton, List.getElem?_set_self hlt, hroute]
          rfl
        · have hne' : more ≠ address := fun heq => hne (by rw [heq])
          rw [Forest.at?_cons hmore, Forest.at?_cons hmore, List.getElem?_set_self hlt, hroute]
          exact ih hne'
      · have hsame : (level.set place { route with children })[place']? = level[place']? :=
          List.getElem?_set_ne hplace
        by_cases hmore : more = []
        · rw [hmore, Forest.at?_singleton, Forest.at?_singleton, hsame]
        · rw [Forest.at?_cons hmore, Forest.at?_cons hmore, hsame]

/-- The routes that a leaf stands below were there before it. -/
theorem isSome_at?_ancestor (h : Graft leaf address level level') {front back : List Nat}
    (haddress : address = front ++ back) (hfront : front ≠ []) (hback : back ≠ []) :
    (Forest.at? level front).isSome = true := by
  induction h generalizing front with
  | here level =>
    exfalso
    obtain ⟨_, front, rfl⟩ := List.exists_cons_of_ne_nil hfront
    exact hback (List.append_eq_nil_iff.mp (List.cons.inj haddress).2.symm).2
  | inside hroute hgraft ih =>
    obtain ⟨place, front, rfl⟩ := List.exists_cons_of_ne_nil hfront
    obtain ⟨rfl, hrest⟩ := List.cons.inj haddress
    by_cases hmore : front = []
    · rw [hmore, Forest.at?_singleton, hroute, Option.isSome_some]
    · rw [Forest.at?_cons hmore, hroute]
      exact ih hrest hmore

/-- A route that stood somewhere before is still there, with other children at most. -/
theorem at?_eq_some (h : Graft leaf address level level') (hleaf : leaf.children = [])
    {other : List Nat} {route : Route} (hroute : Forest.at? level other = some route) :
    ∃ route', Forest.at? level' other = some route' ∧ route'.bare = route.bare := by
  have hne : other ≠ address := by
    rintro rfl
    rw [h.at?_fresh] at hroute
    cases hroute
  have hbare := h.bare_at? hleaf hne
  rw [hroute] at hbare
  exact Option.map_eq_some_iff.mp hbare

end Forest.Graft

end FileRoutes
