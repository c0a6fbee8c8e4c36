import FileRoutes.Proofs.Layout.Address

namespace FileRoutes

/-!
# Forests — taking a leaf away

When a leaf is taken away, the routes behind it on its own level move up one place, and all other
routes stay where they are.

* `Forest.prune` — a forest without what stands at an address;
* `Forest.movedUp` — the address that a route has after that;
* `Forest.movedUp_concat`, `Forest.movedUpPlace_lt` — a route keeps its parent, and siblings keep
  their order;
* `Forest.WithLeaf` — a forest with one more leaf, anywhere on one of its levels, and the address of
  the leaf;
* `Forest.WithLeaf.prune_eq` — taking the leaf away again leaves the forest as it was;
* `Forest.WithLeaf.at?_movedUp` — all other routes are there, children apart;
* `Forest.WithLeaf.split` — what the leaf means for one of the routes on the top level.
-/

/-! ### The gap -/

/-- The forest without what stands at an address. -/
def Forest.prune : List Nat → Forest → Forest
  | [], forest => forest
  | [place], forest => forest.eraseIdx place
  | place :: next :: rest, forest =>
    forest.modify place fun route =>
      { route with children := Forest.prune (next :: rest) route.children }

/-- The address that a route has once the leaf at another address is taken away. -/
def Forest.movedUp : (gone address : List Nat) → List Nat
  | [gap], place :: rest => (if gap < place then place - 1 else place) :: rest
  | first :: next :: gap, place :: rest =>
    place :: if first = place then Forest.movedUp (next :: gap) rest else rest
  | _, address => address

/-- Unfolding lemma: the gap is on a level below. -/
theorem Forest.prune_cons {address : List Nat} (h : address ≠ []) (place : Nat) (forest : Forest) :
    Forest.prune (place :: address) forest
      = forest.modify place fun route =>
          { route with children := Forest.prune address route.children } := by
  obtain ⟨next, rest, rfl⟩ := List.exists_cons_of_ne_nil h
  rfl

/-- Unfolding lemma: only below the route on the way to the gap addresses can change. -/
theorem Forest.movedUp_cons {gone : List Nat} (h : gone ≠ []) (first place : Nat)
    (rest : List Nat) :
    Forest.movedUp (first :: gone) (place :: rest)
      = place :: if first = place then Forest.movedUp gone rest else rest := by
  obtain ⟨next, gap, rfl⟩ := List.exists_cons_of_ne_nil h
  rfl

/-- Unfolding lemma: the empty address leads nowhere before and after. -/
theorem Forest.movedUp_nil (gone : List Nat) : Forest.movedUp gone [] = [] := by
  rcases gone with _ | ⟨first, _ | ⟨next, gap⟩⟩ <;> rfl

/-- The place among its siblings that a route below a parent has once the leaf at another address is
    taken away. -/
def Forest.movedUpPlace (gone parent : List Nat) (place : Nat) : Nat :=
  if ∃ gap < place, gone = parent ++ [gap] then place - 1 else place

/-- Unfolding lemma: without a gap no place moves up. -/
theorem Forest.movedUpPlace_nil (parent : List Nat) (place : Nat) :
    Forest.movedUpPlace [] parent place = place := by
  simp [Forest.movedUpPlace]

/-- Unfolding lemma: no place moves up below a route that is not on the way to the gap. -/
theorem Forest.movedUpPlace_cons (first next : Nat) (gone parent : List Nat) (place : Nat) :
    Forest.movedUpPlace (first :: gone) (next :: parent) place
      = if first = next then Forest.movedUpPlace gone parent place else place := by
  by_cases hfirst : first = next <;> simp [Forest.movedUpPlace, hfirst]

/-- **Parents stay.** A route moves with its parent, and on its own level it moves up one place if
    the leaf stood before it. -/
theorem Forest.movedUp_concat (gone parent : List Nat) (place : Nat) :
    Forest.movedUp gone (parent ++ [place])
      = Forest.movedUp gone parent ++ [Forest.movedUpPlace gone parent place] := by
  induction parent generalizing gone with
  | nil =>
    rw [Forest.movedUp_nil]
    rcases gone with _ | ⟨gap, _ | ⟨next, gone⟩⟩ <;>
      simp [Forest.movedUp, Forest.movedUpPlace, Forest.movedUp_nil]
  | cons first parent ih =>
    rcases gone with _ | ⟨gap, gone⟩
    · rw [Forest.movedUpPlace_nil]
      rfl
    · rw [Forest.movedUpPlace_cons, List.cons_append]
      by_cases hgone : gone = []
      · -- the gap is on the top level, and the route below it
        subst hgone
        rw [Forest.movedUpPlace_nil, ite_self]
        rfl
      · rw [Forest.movedUp_cons hgone, Forest.movedUp_cons hgone]
        by_cases hfirst : gap = first
        · rw [if_pos hfirst, if_pos hfirst, if_pos hfirst, ih, List.cons_append]
        · rw [if_neg hfirst, if_neg hfirst, if_neg hfirst, List.cons_append]

/-- **Siblings stay in order.** A route other than the leaf stands before the same siblings. -/
theorem Forest.movedUpPlace_lt {gone parent : List Nat} {m n : Nat} (hm : parent ++ [m] ≠ gone)
    (hlt : m < n) :
    Forest.movedUpPlace gone parent m < Forest.movedUpPlace gone parent n := by
  by_cases hlevel : ∃ gap, gone = parent ++ [gap]
  · obtain ⟨gap, rfl⟩ := hlevel
    have hplace : ∀ place, Forest.movedUpPlace (parent ++ [gap]) parent place
        = if gap < place then place - 1 else place := by
      simp [Forest.movedUpPlace]
    have hne : m ≠ gap := fun heq => hm (by rw [heq])
    rw [hplace, hplace]
    split <;> split <;> omega
  · have hplace : ∀ place, Forest.movedUpPlace gone parent place = place := fun _ =>
      if_neg fun ⟨gap, _, heq⟩ => hlevel ⟨gap, heq⟩
    rw [hplace, hplace]
    exact hlt

/-- What comes behind the elements of a list is taken away again. -/
theorem eraseIdx_length_append {α : Type} (before after : List α) (value : α) :
    (before ++ value :: after).eraseIdx before.length = before ++ after := by
  rw [List.eraseIdx_append_of_length_le (Nat.le_refl _), Nat.sub_self, List.eraseIdx_cons_zero]

/-! ### One more leaf -/

/-- A forest with one more leaf, anywhere on one of its levels, and the address of the leaf. -/
inductive Forest.WithLeaf (leaf : Route) : List Nat → Forest → Forest → Prop where
  /-- The leaf stands on this level. -/
  | here (before after : Forest) :
      WithLeaf leaf [before.length] (before ++ after) (before ++ leaf :: after)
  /-- The leaf stands below a route of this level. -/
  | inside (before after : Forest) {route : Route} {children : Forest} {address : List Nat}
      (hbelow : WithLeaf leaf address route.children children) :
      WithLeaf leaf (before.length :: address) (before ++ route :: after)
        (before ++ { route with children } :: after)

/-- A leaf that is grafted is one more leaf. -/
theorem Forest.Graft.withLeaf {leaf : Route} {address : List Nat} {level level' : Forest}
    (h : Forest.Graft leaf address level level') : Forest.WithLeaf leaf address level level' := by
  induction h with
  | here level =>
    have hleaf : Forest.WithLeaf leaf [level.length] (level ++ []) (level ++ [leaf]) :=
      .here level []
    rwa [List.append_nil] at hleaf
  | @inside place address level route children hroute hgraft ih =>
    -- the level is taken apart at the route on the way
    obtain ⟨hlt, rfl⟩ := List.getElem?_eq_some_iff.mp hroute
    have hleaf := Forest.WithLeaf.inside (level.take place) (level.drop (place + 1)) ih
    rw [List.length_take_of_le (Nat.le_of_lt hlt), ← List.drop_eq_getElem_cons hlt,
      List.take_append_drop] at hleaf
    rw [List.set_eq_take_append_cons_drop, if_pos hlt]
    exact hleaf

namespace Forest.WithLeaf

variable {leaf : Route} {address : List Nat} {level level' : Forest}

/-- The leaf stands somewhere. -/
theorem ne_nil (h : WithLeaf leaf address level level') : address ≠ [] := by
  cases h <;> exact List.cons_ne_nil _ _

/-- A change behind the routes of a level is one of the next route. -/
private theorem modify_length_append (before after : Forest) (route : Route) (f : Route → Route) :
    (before ++ route :: after).modify before.length f = before ++ f route :: after :=
  List.modifyTailIdx_add (List.modifyHead f) 0 before (route :: after)

/-- Taking the leaf away again leaves the forest as it was. -/
theorem prune_eq (h : WithLeaf leaf address level level') :
    Forest.prune address level' = level := by
  induction h with
  | here before after => exact eraseIdx_length_append before after leaf
  | @inside before after route children address hbelow ih =>
    obtain ⟨name, path, file, own⟩ := route
    rw [Forest.prune_cons hbelow.ne_nil, modify_length_append, ih]

/-- Behind the routes of a level comes the next one. -/
private theorem getElem?_length_append (before after : Forest) (route : Route) :
    (before ++ route :: after)[before.length]? = some route := by
  simp

/-- A place before or behind a route of a level has the same route after that route is changed. -/
private theorem getElem?_beside {before after : Forest} {route route' : Route} {place : Nat}
    (h : place ≠ before.length) :
    (before ++ route :: after)[place]? = (before ++ route' :: after)[place]? := by
  by_cases hplace : place < before.length
  · rw [List.getElem?_append_left hplace, List.getElem?_append_left hplace]
  · obtain ⟨more, rfl⟩ : ∃ more, place = before.length + (more + 1) :=
      ⟨place - before.length - 1, by omega⟩
    rw [List.getElem?_append_right (by omega), List.getElem?_append_right (by omega),
      Nat.add_sub_cancel_left, List.getElem?_cons_succ, List.getElem?_cons_succ]

/-- Places with the same route have the same routes below them. -/
private theorem at?_congr {left right : Forest} {place place' : Nat}
    (h : left[place]? = right[place']?) (more : List Nat) :
    Forest.at? left (place :: more) = Forest.at? right (place' :: more) := by
  by_cases hmore : more = []
  · rw [hmore, Forest.at?_singleton, Forest.at?_singleton, h]
  · rw [Forest.at?_cons hmore, Forest.at?_cons hmore, h]

/-- **Frame.** All routes but the leaf are there without it, children apart: those behind it on its
    level have moved up one place, with all routes below them. -/
theorem at?_movedUp (h : WithLeaf leaf address level level') (hleaf : leaf.children = [])
    {other : List Nat} (hne : other ≠ address) {route : Route}
    (hroute : Forest.at? level' other = some route) :
    ∃ route', Forest.at? level (Forest.movedUp address other) = some route' ∧
      route'.bare = route.bare := by
  induction h generalizing other with
  | here before after =>
    obtain _ | ⟨place, more⟩ := other
    · simp at hroute
    have hplace : place ≠ before.length := by
      rintro rfl
      have hmore : more ≠ [] := fun heq => hne (by rw [heq])
      rw [Forest.at?_cons hmore] at hroute
      simp [hleaf] at hroute
    refine ⟨route, ?_, rfl⟩
    rw [← hroute]
    apply at?_congr
    by_cases hlt : place < before.length
    · rw [if_neg (by omega), List.getElem?_append_left hlt, List.getElem?_append_left hlt]
    · obtain ⟨behind, rfl⟩ : ∃ behind, place = before.length + (behind + 1) :=
        ⟨place - before.length - 1, by omega⟩
      rw [if_pos (by omega), List.getElem?_append_right (by omega),
        List.getElem?_append_right (by omega), Nat.add_sub_cancel_left, List.getElem?_cons_succ]
      congr 1
      omega
  | @inside before after upper children address hbelow ih =>
    obtain _ | ⟨place, more⟩ := other
    · simp at hroute
    rw [Forest.movedUp_cons hbelow.ne_nil]
    by_cases hplace : before.length = place
    · subst hplace
      rw [if_pos rfl]
      by_cases hmore : more = []
      · -- the route on the way to the leaf only has other children
        subst hmore
        rw [Forest.at?_singleton, getElem?_length_append] at hroute
        cases hroute
        rw [Forest.movedUp_nil, Forest.at?_singleton, getElem?_length_append]
        exact ⟨upper, rfl, rfl⟩
      · rw [Forest.at?_cons hmore, getElem?_length_append] at hroute
        obtain ⟨route', hroute', hbare⟩ := ih (fun heq => hne (by rw [heq])) hroute
        have hmoved : Forest.movedUp address more ≠ [] := by
          intro hnil
          rw [hnil] at hroute'
          simp at hroute'
        refine ⟨route', ?_, hbare⟩
        rw [Forest.at?_cons hmoved, getElem?_length_append]
        exact hroute'
    · rw [if_neg hplace]
      refine ⟨route, ?_, rfl⟩
      rw [← hroute]
      exact at?_congr (getElem?_beside (Ne.symm hplace)) more

/-! ### One of the routes -/

/-- The routes of a level stand on it with the leaf as well, children apart. -/
theorem exists_bare_eq (h : WithLeaf leaf address level level') {route : Route}
    (hroute : route ∈ level) : ∃ route' ∈ level', route'.bare = route.bare := by
  cases h with
  | here before after =>
    rcases List.mem_append.mp hroute with hroute | hroute
    · exact ⟨route, by simp [hroute], rfl⟩
    · exact ⟨route, by simp [hroute], rfl⟩
  | @inside before after upper children _ _ =>
    rcases List.mem_append.mp hroute with hroute | hroute
    · exact ⟨route, by simp [hroute], rfl⟩
    · rcases List.mem_cons.mp hroute with rfl | hroute
      · exact ⟨{ route with children }, by simp, rfl⟩
      · exact ⟨route, by simp [hroute], rfl⟩

/-- Where a list is taken apart twice, at one element each, the two are the same, or one of them
    stands before the other. -/
private theorem append_cons_cases {α : Type} {before after before' after' : List α} {x y : α}
    (h : before ++ x :: after = before' ++ y :: after') :
    (before = before' ∧ x = y ∧ after = after') ∨
      (∃ between, before' = before ++ x :: between ∧ after = between ++ y :: after') ∨
      ∃ between, before = before' ++ y :: between ∧ after' = between ++ x :: after := by
  rcases List.append_eq_append_iff.mp h with ⟨_ | ⟨first, between⟩, hbefore, hafter⟩ |
    ⟨_ | ⟨first, between⟩, hbefore, hafter⟩
  · obtain ⟨hxy, hrest⟩ := List.cons.inj hafter
    exact .inl ⟨by rw [hbefore, List.append_nil], hxy, hrest⟩
  · obtain ⟨rfl, hrest⟩ := List.cons.inj hafter
    exact .inr (.inl ⟨between, hbefore, hrest⟩)
  · obtain ⟨hyx, hrest⟩ := List.cons.inj hafter
    exact .inl ⟨by rw [hbefore, List.append_nil], hyx.symm, hrest.symm⟩
  · obtain ⟨rfl, hrest⟩ := List.cons.inj hafter
    exact .inr (.inr ⟨between, hbefore, hrest⟩)

/-- **What the leaf means for a route of the level.** The route is the leaf, or the leaf stands below
    it, or it stands beside it. In the last case the leaf stands there whatever the route is. -/
theorem split {before after : Forest} {found : Route}
    (h : WithLeaf leaf address level (before ++ found :: after)) :
    (address = [before.length] ∧ found = leaf) ∨
      (∃ inner route, address = before.length :: inner ∧ level = before ++ route :: after ∧
        route.bare = found.bare ∧ WithLeaf leaf inner route.children found.children) ∨
      ∃ front back, level = front ++ found :: back ∧
        (∀ route ∈ front, ∃ route' ∈ before, route'.bare = route.bare) ∧
        ∀ other : Route, WithLeaf leaf address (front ++ other :: back)
          (before ++ other :: after) := by
  generalize hlevel : before ++ found :: after = whole at h
  cases h with
  | here left right =>
    rcases append_cons_cases hlevel with ⟨rfl, rfl, rfl⟩ | ⟨between, rfl, rfl⟩ |
      ⟨between, rfl, rfl⟩
    · exact .inl ⟨rfl, rfl⟩
    · refine .inr (.inr ⟨before, between ++ right, by simp, fun route hroute =>
        ⟨route, hroute, rfl⟩, fun other => ?_⟩)
      have hleaf : WithLeaf leaf _ _ _ := .here (before ++ other :: between) right
      simpa using hleaf
    · refine .inr (.inr ⟨left ++ between, after, by simp, fun route hroute =>
        ⟨route, ?_, rfl⟩, fun other => ?_⟩)
      · rcases List.mem_append.mp hroute with hroute | hroute <;> simp [hroute]
      · have hleaf : WithLeaf leaf _ _ _ := .here left (between ++ other :: after)
        simpa using hleaf
  | @inside left right upper children inner hbelow =>
    rcases append_cons_cases hlevel with ⟨rfl, rfl, rfl⟩ | ⟨between, rfl, rfl⟩ |
      ⟨between, rfl, rfl⟩
    · exact .inr (.inl ⟨inner, upper, rfl, rfl, rfl, hbelow⟩)
    · refine .inr (.inr ⟨before, between ++ upper :: right, by simp, fun route hroute =>
        ⟨route, hroute, rfl⟩, fun other => ?_⟩)
      have hleaf := WithLeaf.inside (before ++ other :: between) right hbelow
      simpa using hleaf
    · refine .inr (.inr ⟨left ++ upper :: between, after, by simp, ?_, fun other => ?_⟩)
      · intro route hroute
        have hbeside := WithLeaf.inside left between hbelow
        exact hbeside.exists_bare_eq hroute
      · have hleaf := WithLeaf.inside left (between ++ other :: after) hbelow
        simpa using hleaf

end Forest.WithLeaf

end FileRoutes
