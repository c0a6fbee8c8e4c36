import FileRoutes.Proofs.Layout.Address
import FileRoutes.Proofs.Layout.Walk

namespace FileRoutes

open Segment

/-!
# Layouts — the way of a file to its level

Placing a file is told once, as a relation between the level before and after; what placing
keeps is then a short induction on the way.

* `Forest.Descent` — the way of a file: the layouts it enters, the segments it passes, and the
  level it settles on;
* `Forest.place_cons_eq_ok`, `Forest.descent_of_place` — placing a file takes this way, segment
  by segment;
* `Forest.Descent.graft` — all that it does is to graft a leaf;
* `Forest.Stands` — the route of a file has gathered its texts on the way to its address, and
  that way leads through layouts only;
* `Forest.Descent.stands`, `Forest.Stands.graft` — so it is for a file that was just placed, and
  so it stays.
-/

/-! ### Splitting a level -/

/-- The routes before the one found do not pass the test. -/
theorem Forest.not_of_mem_before {test : Route → Bool} {level : Forest} {split : Forest.Split}
    (h : Forest.splitAt? test level = some split) {route : Route} (hroute : route ∈ split.before) :
    test route = false := by
  induction level generalizing split with
  | nil => cases h
  | cons first rest ih =>
    unfold Forest.splitAt? at h
    split at h
    · injection h with h
      subst h
      cases hroute
    · rename_i hfails
      obtain ⟨inner, hinner, rfl⟩ := Option.map_eq_some_iff.mp h
      rcases List.mem_cons.mp hroute with rfl | hroute
      · exact Bool.eq_false_iff.mpr hfails
      · exact ih hinner hroute

/-- A level is not split exactly when none of its routes passes the test. -/
theorem Forest.splitAt?_eq_none_iff {test : Route → Bool} {level : Forest} :
    Forest.splitAt? test level = none ↔ ∀ route ∈ level, test route = false := by
  induction level with
  | nil => simp [Forest.splitAt?]
  | cons first rest ih =>
    rw [Forest.splitAt?, List.forall_mem_cons]
    by_cases hfirst : test first = true
    · simp [hfirst]
    · rw [if_neg hfirst, Option.map_eq_none_iff, ih]
      simp [hfirst]

/-! ### The way -/

/-- The layouts that one more segment would lead to. -/
def Pending.isLayout (pending : Pending) (tokens : List Token) (route : Route) : Bool :=
  route.isLayout (pending.nextName tokens) (pending.layoutPath tokens)

/-- A layout has the name and the path looked for. -/
theorem Pending.isLayout_iff {pending : Pending} {tokens : List Token} {route : Route} :
    pending.isLayout tokens route = true ↔
      route.name = some (pending.nextName tokens) ∧ route.path = pending.layoutPath tokens := by
  simp [Pending.isLayout, Route.isLayout]

/-- Whether a route is a layout does not depend on its children. -/
theorem Pending.isLayout_of_bare {pending : Pending} {tokens : List Token} {left right : Route}
    (h : left.bare = right.bare) :
    pending.isLayout tokens left = pending.isLayout tokens right := by
  obtain ⟨hname, hpath, -⟩ := Route.texts_eq_of_bare h
  unfold Pending.isLayout Route.isLayout
  rw [hname, hpath]

/-- The way of a file with the given segments through the levels of a forest, with the address of
    its route and the level after it. -/
inductive Forest.Descent (file : ScannedFile) :
    Pending → List (List Token) → Forest → List Nat → Forest → Prop where
  /-- Without segments left, the route is added to the level. -/
  | settle (pending : Pending) (level : Forest) :
      Descent file pending [] level [level.length]
        (level ++ [.leaf pending.name pending.path file.absolute])
  /-- A segment that is not the last one leads into the first layout that it fits. -/
  | enter {pending : Pending} {tokens : List Token} {rest : List (List Token)}
      {before : Forest} {found : Route} {after children : Forest} {address : List Nat}
      (hrest : rest ≠ []) (hbefore : ∀ route ∈ before, pending.isLayout tokens route = false)
      (hfound : pending.isLayout tokens found = true)
      (hbelow : Descent file (pending.nested tokens) rest found.children address children) :
      Descent file pending (tokens :: rest) (before ++ found :: after) (before.length :: address)
        (before ++ { found with children } :: after)
  /-- The last segment, and any other one that fits no layout, is gathered. -/
  | pass {pending : Pending} {tokens : List Token} {rest : List (List Token)}
      {level level' : Forest} {address : List Nat}
      (hlevel : rest = [] ∨ ∀ route ∈ level, pending.isLayout tokens route = false)
      (hlater : Descent file (pending.next tokens) rest level address level') :
      Descent file pending (tokens :: rest) level address level'

/-- **Step.** All that placing a file does at one segment: enter the first layout of the level that
    the segment leads to, if more segments follow, or gather the segment where there is none. -/
theorem Forest.place_cons_eq_ok {file : ScannedFile} {pending : Pending} {segment : String}
    {rest : List String} {level level' : Forest}
    (h : (Forest.place file pending (segment :: rest) level).result = .ok level') :
    ∃ tokens, tokenize segment = .ok tokens ∧
      ((rest ≠ [] ∧ ∃ before found after children, level = before ++ found :: after ∧
          (∀ route ∈ before, pending.isLayout tokens route = false) ∧
          pending.isLayout tokens found = true ∧
          (Forest.place file (pending.nested tokens) rest found.children).result = .ok children ∧
          level' = before ++ { found with children } :: after) ∨
        ((rest = [] ∨ ∀ route ∈ level, pending.isLayout tokens route = false) ∧
          (Forest.place file (pending.next tokens) rest level).result = .ok level')) := by
  unfold Forest.place at h
  cases htokens : tokenize segment with
  | error fault =>
    rw [htokens] at h
    cases h
  | ok tokens =>
    refine ⟨tokens, rfl, ?_⟩
    rw [htokens] at h
    dsimp only at h
    split at h
    · -- a layout is entered
      rename_i split hsplit
      left
      have hrest : rest ≠ [] := by
        rintro rfl
        cases hsplit
      rw [if_neg (by simpa using hrest)] at hsplit
      obtain ⟨hlevel, hfound⟩ := Forest.eq_of_splitAt? hsplit
      rw [Logged.result_note, Logged.result_map] at h
      cases hplaced : (Forest.place file ⟨pending.nextName tokens, ""⟩ rest
          split.found.children).result with
      | error fault =>
        rw [hplaced] at h
        cases h
      | ok children =>
        rw [hplaced] at h
        injection h with h
        exact ⟨hrest, split.before, split.found, split.after, children, hlevel,
          fun _ hroute => Forest.not_of_mem_before hsplit hroute, hfound, hplaced, h.symm⟩
    · -- the segment is gathered
      rename_i hsplit
      right
      refine ⟨?_, h⟩
      by_cases hrest : rest = []
      · exact .inl hrest
      · rw [if_neg (by simpa using hrest)] at hsplit
        exact .inr (Forest.splitAt?_eq_none_iff.mp hsplit)

/-- **Placing a file takes its way.** The segments have tokens, and these lead from the level before
    to the level after. -/
theorem Forest.descent_of_place {file : ScannedFile} {pending : Pending} {segments : List String}
    {level level' : Forest} (h : (Forest.place file pending segments level).result = .ok level') :
    ∃ lists address,
      List.Forall₂ (fun segment tokens => tokenize segment = .ok tokens) segments lists ∧
        Forest.Descent file pending lists level address level' := by
  induction segments generalizing pending level level' with
  | nil =>
    rw [Forest.place, Logged.result_ok] at h
    injection h with h
    subst h
    exact ⟨[], _, .nil, .settle pending level⟩
  | cons segment rest ih =>
    obtain ⟨tokens, htokens, hstep⟩ := Forest.place_cons_eq_ok h
    rcases hstep with ⟨hrest, before, found, after, children, rfl, hbefore, hfound, hplaced, rfl⟩ |
      ⟨hlevel, hplaced⟩
    · obtain ⟨lists, address, hlists, hdescent⟩ := ih hplaced
      have hlists_ne : lists ≠ [] := by
        rintro rfl
        exact hrest (List.forall₂_nil_right_iff.mp hlists)
      exact ⟨tokens :: lists, before.length :: address, .cons htokens hlists,
        .enter hlists_ne hbefore hfound hdescent⟩
    · obtain ⟨lists, address, hlists, hdescent⟩ := ih hplaced
      have hlevel' : lists = [] ∨ ∀ route ∈ level, pending.isLayout tokens route = false := by
        refine hlevel.imp_left fun hrest => ?_
        rw [hrest] at hlists
        exact List.forall₂_nil_left_iff.mp hlists
      exact ⟨tokens :: lists, address, .cons htokens hlists, .pass hlevel' hdescent⟩

/-- **Placing a file grafts a leaf.** The leaf has the name that the whole way gathers. -/
theorem Forest.Descent.graft {file : ScannedFile} {pending : Pending}
    {lists : List (List Token)} {level level' : Forest} {address : List Nat}
    (h : Forest.Descent file pending lists level address level') :
    ∃ path, Forest.Graft (.leaf (pending.walk lists).name path file.absolute) address level
      level' := by
  induction h with
  | settle pending level => exact ⟨pending.path, .here level⟩
  | @enter pending tokens rest before found after children address _ _ _ _ ih =>
    obtain ⟨path, hgraft⟩ := ih
    refine ⟨path, ?_⟩
    -- the level is put together around the layout, where a graft sets one of its places
    have hset : before ++ { found with children } :: after
        = (before ++ found :: after).set before.length { found with children } := by simp
    rw [hset, Pending.walk_cons, ← Pending.name_walk_nested]
    exact .inside (by simp) hgraft
  | pass _ _ ih => exact ih

/-! ### Standing below layouts -/

/-- The route of a file with the given segments stands at an address of a level: it has the name
    and the path that its segments gather below the last layout on the way, and each layout on
    the way fits the segments that lead to it. -/
inductive Forest.Stands (file : ScannedFile) :
    Pending → List (List Token) → Forest → List Nat → Prop where
  /-- The route stands on this level. -/
  | here {pending : Pending} {lists : List (List Token)} {level : Forest} {place : Nat}
      {route : Route} (hroute : level[place]? = some route)
      (hname : route.name = some (pending.walk lists).name)
      (hpath : route.path = (pending.walk lists).path) (hfile : route.file = file.absolute) :
      Stands file pending lists level [place]
  /-- The route stands below a layout of this level. -/
  | inside {pending : Pending} {front : List (List Token)} {tokens : List Token}
      {rest : List (List Token)} {level : Forest} {place : Nat} {address : List Nat}
      {route : Route} (hroute : level[place]? = some route)
      (hlayout : (pending.walk front).isLayout tokens route = true) (hrest : rest ≠ [])
      (hbelow : Stands file ((pending.walk front).nested tokens) rest route.children
        address) :
      Stands file pending (front ++ tokens :: rest) level (place :: address)

/-- A segment before the others is gathered by the route or before its first layout. -/
theorem Forest.Stands.cons {file : ScannedFile} {pending : Pending} {tokens : List Token}
    {lists : List (List Token)} {level : Forest} {address : List Nat}
    (h : Forest.Stands file (pending.next tokens) lists level address) :
    Forest.Stands file pending (tokens :: lists) level address := by
  cases h with
  | here hroute hname hpath hfile => exact .here hroute hname hpath hfile
  | @inside _ front last rest _ _ _ _ hroute hlayout hrest hbelow =>
    show Forest.Stands file pending ((tokens :: front) ++ last :: rest) level _
    exact .inside hroute hlayout hrest hbelow

/-- **A file stands where it was placed.** -/
theorem Forest.Descent.stands {file : ScannedFile} {pending : Pending}
    {lists : List (List Token)} {level level' : Forest} {address : List Nat}
    (h : Forest.Descent file pending lists level address level') :
    Forest.Stands file pending lists level' address := by
  induction h with
  | settle pending level =>
    exact .here List.getElem?_concat_length rfl rfl rfl
  | @enter pending tokens rest before found after children address hrest _ hfound _ ih =>
    have hroute : (before ++ { found with children } :: after)[before.length]?
        = some { found with children } := by simp
    show Forest.Stands file pending ([] ++ tokens :: rest) _ _
    exact .inside hroute hfound hrest ih
  | pass _ _ ih => exact ih.cons

/-- **Step.** A route stands as it did after another leaf was grafted. By induction on the way to
    the route: at each level, the route on the way keeps its texts, and the leaf is grafted below
    it or elsewhere. -/
theorem Forest.Stands.graft {file : ScannedFile} {pending : Pending}
    {lists : List (List Token)} {level level' : Forest} {address : List Nat}
    (h : Forest.Stands file pending lists level address) {leaf : Route} {other : List Nat}
    (hgraft : Forest.Graft leaf other level level') :
    Forest.Stands file pending lists level' address := by
  induction h generalizing other level' with
  | @here pending lists level place route hroute hname hpath hfile =>
    obtain ⟨route', hroute', hbare, -⟩ := hgraft.getElem?_eq_some hroute
    obtain ⟨hname', hpath', hfile'⟩ := Route.texts_eq_of_bare hbare
    exact .here hroute' (hname'.trans hname) (hpath'.trans hpath) (hfile'.trans hfile)
  | @inside pending front tokens rest level place address route hroute hlayout hrest hbelow ih =>
    obtain ⟨route', hroute', hbare, hchildren⟩ := hgraft.getElem?_eq_some hroute
    have hlayout' : (pending.walk front).isLayout tokens route' = true := by
      rw [Pending.isLayout_of_bare hbare]
      exact hlayout
    rcases hchildren with hsame | ⟨inner, hinner⟩
    · rw [← hsame] at hbelow
      exact .inside hroute' hlayout' hrest hbelow
    · exact .inside hroute' hlayout' hrest (ih hinner)

/-- Where the route of a file stands, there is a route. -/
theorem Forest.Stands.at?_eq_some {file : ScannedFile} {pending : Pending}
    {lists : List (List Token)} {level : Forest} {address : List Nat}
    (h : Forest.Stands file pending lists level address) :
    ∃ route, Forest.at? level address = some route ∧
      route.name = some (pending.walk lists).name ∧ route.file = file.absolute := by
  induction h with
  | @here pending lists level place route hroute hname hpath hfile =>
    exact ⟨route, by rw [Forest.at?_singleton, hroute], hname, hfile⟩
  | @inside pending front tokens rest level place address route hroute hlayout hrest hbelow ih =>
    obtain ⟨inner, hinner, hname, hfile⟩ := ih
    have haddress : address ≠ [] := by
      rintro rfl
      cases hbelow
    refine ⟨inner, ?_, ?_, hfile⟩
    · rw [Forest.at?_cons haddress, hroute]
      exact hinner
    · rw [hname, Pending.walk_append, Pending.walk_cons, Pending.name_walk_nested]

end FileRoutes
