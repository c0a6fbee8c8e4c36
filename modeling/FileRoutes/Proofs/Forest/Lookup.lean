import FileRoutes.Proofs.Forest.Postorder
import FileRoutes.Proofs.Layout.Address

namespace FileRoutes

/-!
# Forests — finding a route by its name

A name is looked up parents first, while the routes of a forest are listed and reviewed children
first. Both ways meet the same route first, as long as no route has the name of one above it.

* `Forest.at?_append` — the routes below the route at an address;
* `Forest.mem_postorder_iff` — the routes that are listed are those that stand at some address;
* `Forest.NoEcho` — no route has the name of a route above it;
* `Forest.NoEcho.lookup_eq_find?` — in such a forest, looking up a name finds the first route of
  that name in post-order.
-/

/-! ### Addresses -/

/-- The routes below the route at an address stand at the addresses that go on from there. -/
theorem Forest.at?_append {front back : List Nat} (hfront : front ≠ []) (hback : back ≠ [])
    (forest : Forest) :
    Forest.at? forest (front ++ back)
      = (Forest.at? forest front).bind fun route => Forest.at? route.children back := by
  induction front generalizing forest with
  | nil => exact absurd rfl hfront
  | cons place front ih =>
    rw [List.cons_append, Forest.at?_cons (List.append_ne_nil_of_right_ne_nil front hback)]
    by_cases hmore : front = []
    · rw [hmore, List.nil_append, Forest.at?_singleton]
    · rw [Forest.at?_cons hmore]
      cases forest[place]? with
      | none => rfl
      | some route => exact ih hmore route.children

/-- Behind the first route of a forest, the addresses are those of the rest. -/
theorem Forest.at?_cons_succ (route : Route) (rest : Forest) (place : Nat) (more : List Nat) :
    Forest.at? (route :: rest) ((place + 1) :: more) = Forest.at? rest (place :: more) := by
  by_cases hmore : more = []
  · rw [hmore, Forest.at?_singleton, Forest.at?_singleton, List.getElem?_cons_succ]
  · rw [Forest.at?_cons hmore, Forest.at?_cons hmore, List.getElem?_cons_succ]

/-- The routes of a forest are those that stand at some address. -/
theorem Forest.mem_postorder_iff {forest : Forest} {route : Route} :
    route ∈ Forest.postorder forest ↔ ∃ address, Forest.at? forest address = some route := by
  induction forest using Forest.induct with
  | nil => simp
  | cons first rest below beside =>
    rw [Forest.postorder_cons, List.mem_append, List.mem_cons, below, beside]
    constructor
    · rintro (⟨address, haddress⟩ | rfl | ⟨address, haddress⟩)
      · have hne : address ≠ [] := by
          rintro rfl
          simp at haddress
        exact ⟨0 :: address, by rw [Forest.at?_cons hne]; exact haddress⟩
      · exact ⟨[0], rfl⟩
      · cases address with
        | nil => simp at haddress
        | cons place more => exact ⟨(place + 1) :: more, by rw [Forest.at?_cons_succ, haddress]⟩
    · rintro ⟨address, haddress⟩
      rcases address with _ | ⟨_ | place, more⟩
      · simp at haddress
      · by_cases hmore : more = []
        · subst hmore
          exact .inr (.inl (Option.some.inj haddress).symm)
        · rw [Forest.at?_cons hmore] at haddress
          exact .inl ⟨more, haddress⟩
      · rw [Forest.at?_cons_succ] at haddress
        exact .inr (.inr ⟨_, haddress⟩)

/-- A child of a route of the forest is a route of the forest. -/
theorem Forest.mem_postorder_of_child {forest : Forest} {route child : Route}
    (hroute : route ∈ Forest.postorder forest) (hchild : child ∈ route.children) :
    child ∈ Forest.postorder forest := by
  obtain ⟨address, haddress⟩ := Forest.mem_postorder_iff.mp hroute
  obtain ⟨place, hplace⟩ := List.mem_iff_getElem?.mp hchild
  have hne : address ≠ [] := by
    rintro rfl
    simp at haddress
  refine Forest.mem_postorder_iff.mpr ⟨address ++ [place], ?_⟩
  rw [Forest.at?_concat hne, haddress]
  exact hplace

/-! ### Looking up a name -/

/-- No route of the forest has the name of a route above it. -/
def Forest.NoEcho (forest : Forest) : Prop :=
  ∀ route ∈ Forest.postorder forest, ∀ below ∈ Forest.postorder route.children,
    ∀ name, route.name = some name → below.name ≠ some name

/-- Unfolding lemma: the name of the first route is no name below it, and the rest is as asked. -/
theorem Forest.noEcho_cons {route : Route} {rest : Forest} :
    Forest.NoEcho (route :: rest) ↔
      Forest.NoEcho route.children ∧
        (∀ below ∈ Forest.postorder route.children,
          ∀ name, route.name = some name → below.name ≠ some name) ∧
        Forest.NoEcho rest := by
  unfold Forest.NoEcho
  rw [Forest.postorder_cons, List.forall_mem_append, List.forall_mem_cons]

/-- Unfolding lemma: a route is found itself, or else what is found below it. -/
theorem Route.lookup_eq (name : String) (route : Route) :
    route.lookup name
      = if route.name = some name then some route else Forest.lookup name route.children := by
  cases route
  rfl

/-- **Both orders find the same route.** Where no route has the name of one above it, looking up a
    name finds the first route of that name in post-order. -/
theorem Forest.NoEcho.lookup_eq_find? {forest : Forest} (h : forest.NoEcho) (name : String) :
    Forest.lookup name forest
      = (Forest.postorder forest).find? fun route => route.name == some name := by
  induction forest using Forest.induct with
  | nil => rfl
  | cons route rest below beside =>
    obtain ⟨hchildren, hroute, hrest⟩ := Forest.noEcho_cons.mp h
    rw [Forest.lookup_cons, Route.lookup_eq, Forest.postorder_cons, List.find?_append,
      List.find?_cons, ← below hchildren, ← beside hrest]
    by_cases hname : route.name = some name
    · -- the route itself stands last, but none before it has the name
      have hnone : Forest.lookup name route.children = none := by
        rw [below hchildren, List.find?_eq_none]
        intro other hother hsame
        exact hroute other hother name hname (beq_iff_eq.mp hsame)
      simp [hname, hnone]
    · have hfails : (route.name == some name) = false := beq_eq_false_iff_ne.mpr hname
      rw [if_neg hname, hfails]

/-- What is found is a route of the forest and has the name. -/
theorem Forest.NoEcho.of_lookup {forest : Forest} (h : forest.NoEcho) {name : String}
    {route : Route} (hfound : Forest.lookup name forest = some route) :
    route ∈ Forest.postorder forest ∧ route.name = some name := by
  rw [h.lookup_eq_find?] at hfound
  have hpasses := List.find?_some hfound
  exact ⟨List.mem_of_find?_eq_some hfound, beq_iff_eq.mp hpasses⟩

/-- A name that a route of the forest has is found. -/
theorem Forest.NoEcho.exists_of_mem {forest : Forest} (h : forest.NoEcho) {name : String}
    {route : Route} (hroute : route ∈ Forest.postorder forest) (hname : route.name = some name) :
    ∃ found, Forest.lookup name forest = some found ∧ found.name = some name := by
  have hsome : (Forest.lookup name forest).isSome = true := by
    rw [h.lookup_eq_find?, List.find?_isSome]
    exact ⟨route, hroute, beq_iff_eq.mpr hname⟩
  obtain ⟨found, hfound⟩ := Option.isSome_iff_exists.mp hsome
  exact ⟨found, hfound, (h.of_lookup hfound).2⟩

end FileRoutes
