import FileRoutes.Proofs.Layout.Built
import FileRoutes.Proofs.Forest.Lookup
import FileRoutes.Proofs.Normalize.Registered

namespace FileRoutes

open Segment

/-!
# Layouts — flat names of nested pages

A page below another one has a longer name, and its flat name is longer as well, unless it is the
index of the page above. That index takes the name over, so that no page keeps a name that a page
below it has.

* `Route.hyphenated` — a name with hyphens for slashes, which is what a flat name is made of;
* `Pending.flatName_next`, `Pending.flatName_next_index` — the flat name after one more segment;
* `Pending.eq_index_of_flatName` — further segments keep a flat name only if they are one index;
* `Forest.Stands.split`, `Forest.Built.split` — a page below another one goes on from its name;
* `Forest.Built.noEcho` — no registered page has the name of a page above it.
-/

/-! ### Flat names -/

/-- The name with hyphens for slashes. -/
def Route.hyphenated (name : String) : String := name.map fun c => if c = '/' then '-' else c

/-- Hyphens do not change the length of a name. -/
@[simp] theorem Route.length_hyphenated (name : String) :
    (Route.hyphenated name).toList.length = name.toList.length := by
  simp [Route.hyphenated]

/-- A final index is not part of a flat name. -/
theorem Route.flatName_append_index (name : String) :
    Route.flatName (name ++ "/index") = Route.hyphenated name := by
  rw [Route.flatName, Text.dropEnding?_append, Option.getD_some]
  rfl

/-- Without a final index, a name only gets hyphens. -/
theorem Route.flatName_eq_hyphenated {name : String} (h : ∀ front, name ≠ front ++ "/index") :
    Route.flatName name = Route.hyphenated name := by
  have hending : Text.dropEnding? "/index" name = none := by
    rw [Option.eq_none_iff_forall_ne_some]
    intro front hfront
    exact h front (Text.dropEnding?_eq_some_iff.mp hfront)
  rw [Route.flatName, hending, Option.getD_none]
  rfl

/-- A flat name is no longer than the name. -/
theorem Route.length_flatName_le (name : String) :
    (Route.flatName name).toList.length ≤ name.toList.length := by
  by_cases h : ∃ front, name = front ++ "/index"
  · obtain ⟨front, rfl⟩ := h
    rw [Route.flatName_append_index, Route.length_hyphenated, String.toList_append,
      List.length_append]
    omega
  · rw [Route.flatName_eq_hyphenated fun front heq => h ⟨front, heq⟩, Route.length_hyphenated]

/-! ### Names of gathered segments -/

/-- Behind a name, a segment adds a slash and its own name. -/
theorem Pending.name_next_of_ne {pending : Pending} (h : pending.name ≠ "")
    (tokens : List Token) :
    (pending.next tokens).name = pending.name ++ "/" ++ Segment.name tokens := by
  show pending.nextName tokens = _
  rw [Pending.nextName, if_neg h]

/-- A name is not empty after a segment. -/
theorem Pending.name_next_ne_empty (pending : Pending) {tokens : List Token} (h : Proper tokens) :
    (pending.next tokens).name ≠ "" := by
  by_cases hempty : pending.name = ""
  · show pending.nextName tokens ≠ ""
    rw [Pending.nextName, if_pos hempty]
    exact h.name_ne_empty
  · rw [Pending.name_next_of_ne hempty]
    intro heq
    rw [← String.toList_inj] at heq
    simp at heq

/-- A name is not empty after segments. -/
theorem Pending.name_walk_ne_empty (pending : Pending) {lists : List (List Token)}
    (hlists : lists ≠ []) (h : ∀ tokens ∈ lists, Proper tokens) :
    (pending.walk lists).name ≠ "" := by
  obtain rfl | ⟨front, last, rfl⟩ := List.eq_nil_or_concat' lists
  · exact absurd rfl hlists
  · rw [Pending.walk_append]
    exact Pending.name_next_ne_empty _ (h last (by simp))

/-- Segments make a name longer. -/
theorem Pending.length_name_lt_walk {pending : Pending} (h : pending.name ≠ "")
    {lists : List (List Token)} (hlists : lists ≠ []) :
    pending.name.toList.length < (pending.walk lists).name.toList.length := by
  induction lists generalizing pending with
  | nil => exact absurd rfl hlists
  | cons tokens lists ih =>
    have hname := Pending.name_next_of_ne h tokens
    have hnext : pending.name.toList.length < (pending.next tokens).name.toList.length := by
      rw [hname, String.toList_append, String.toList_append, List.length_append,
        List.length_append]
      have hslash : "/".toList.length = 1 := rfl
      omega
    by_cases hrest : lists = []
    · rw [hrest]
      exact hnext
    · have hne : (pending.next tokens).name ≠ "" := by
        intro heq
        rw [heq] at hnext
        simp at hnext
      exact hnext.trans (ih hne hrest)

/-- A final index does not show in the flat name. -/
theorem Pending.flatName_next_index {pending : Pending} (h : pending.name ≠ "")
    {tokens : List Token} (hindex : Segment.name tokens = "index") :
    Route.flatName (pending.next tokens).name = Route.hyphenated pending.name := by
  rw [Pending.name_next_of_ne h, hindex, String.append_assoc]
  exact Route.flatName_append_index pending.name

/-- Any other segment leaves all of the name in the flat name. -/
theorem Pending.flatName_next {pending : Pending} {tokens : List Token} (h : Proper tokens)
    (hindex : Segment.name tokens ≠ "index") :
    Route.flatName (pending.next tokens).name = Route.hyphenated (pending.next tokens).name := by
  apply Route.flatName_eq_hyphenated
  intro front hfront
  -- the last component of the name is that of the segment
  have hparts : (pending.next tokens).nameParts = Path.components front ++ ["index"] := by
    have hsplit : front ++ "/index" = front ++ "/" ++ "index" := by
      rw [String.append_assoc]
      rfl
    have hindex_part : Path.components "index" = ["index"] := by decide +kernel
    rw [Pending.nameParts, if_neg (pending.name_next_ne_empty h), hfront, hsplit,
      Path.components_append, hindex_part]
  rw [Pending.nameParts_next h] at hparts
  have hlast := List.append_inj_right' hparts rfl
  exact hindex (List.cons.inj hlast).1

/-- **A flat name tells further segments.** Behind a name, segments lead to the same flat name only
    if they are a single index. -/
theorem Pending.eq_index_of_flatName {pending : Pending} (hne : pending.name ≠ "")
    {own : List (List Token)} (hown : own ≠ []) (hproper : ∀ tokens ∈ own, Proper tokens)
    (h : Route.flatName (pending.walk own).name = Route.flatName pending.name) :
    ∃ tokens, own = [tokens] ∧ Segment.name tokens = "index" := by
  obtain rfl | ⟨front, last, rfl⟩ := List.eq_nil_or_concat' own
  · exact absurd rfl hown
  have hshort := Route.length_flatName_le pending.name
  rw [← h, Pending.walk_append, Pending.walk_cons, Pending.walk_nil] at hshort
  by_cases hindex : Segment.name last = "index"
  · -- what stands before the index is all of the flat name
    have hfront : front = [] := by
      by_contra hfront
      have hfront_ne := pending.name_walk_ne_empty hfront fun t ht =>
        hproper t (List.mem_append_left _ ht)
      have hlonger := Pending.length_name_lt_walk hne hfront
      rw [Pending.flatName_next_index hfront_ne hindex, Route.length_hyphenated] at hshort
      omega
    exact ⟨last, by rw [hfront, List.nil_append], hindex⟩
  · exfalso
    have hlonger := Pending.length_name_lt_walk hne hown
    rw [Pending.walk_append, Pending.walk_cons, Pending.walk_nil] at hlonger
    rw [Pending.flatName_next (hproper last (by simp)) hindex, Route.length_hyphenated] at hshort
    omega

/-! ### Pages below pages -/

/-- **A page below another one goes on from its name.** What remains of its segments is gathered
    below the route that stands there. -/
theorem Forest.Stands.split {file : ScannedFile} {pending : Pending}
    {lists : List (List Token)} {level : Forest} {front back : List Nat}
    (h : Forest.Stands file pending lists level (front ++ back)) (hfront : front ≠ [])
    (hback : back ≠ []) :
    ∃ route passed own, Forest.at? level front = some route ∧ lists = passed ++ own ∧
      passed ≠ [] ∧ own ≠ [] ∧ route.name = some (pending.walk passed).name ∧
      Forest.Stands file ⟨(pending.walk passed).name, ""⟩ own route.children back := by
  induction front generalizing pending lists level with
  | nil => exact absurd rfl hfront
  | cons place front ih =>
    rw [List.cons_append] at h
    generalize haddress : front ++ back = address at h
    cases h with
    | here => exact absurd (List.append_eq_nil_iff.mp haddress).2 hback
    | @inside _ first tokens rest _ _ _ route hroute hlayout hrest hbelow =>
      subst haddress
      by_cases hmore : front = []
      · -- the layout of this level is the route that is asked for
        subst hmore
        have hwalk : pending.walk (first ++ [tokens]) = (pending.walk first).next tokens := by
          rw [Pending.walk_append, Pending.walk_cons, Pending.walk_nil]
        refine ⟨route, first ++ [tokens], rest, by rw [Forest.at?_singleton, hroute], by simp,
          by simp, hrest, ?_, ?_⟩
        · rw [hwalk]
          exact (Pending.isLayout_iff.mp hlayout).1
        · rw [hwalk]
          exact hbelow
      · obtain ⟨inner, passed, own, hinner, rfl, hpassed, hown, hname, hstands⟩ :=
          ih hbelow hmore
        have hwalk : (((pending.walk first).nested tokens).walk passed).name
            = (pending.walk (first ++ tokens :: passed)).name := by
          rw [Pending.name_walk_nested, Pending.walk_append, Pending.walk_cons]
        rw [hwalk] at hname hstands
        refine ⟨inner, first ++ tokens :: passed, own, ?_, by simp, by simp, hown, hname, hstands⟩
        rw [Forest.at?_cons hmore, hroute]
        exact hinner

/-- A page with one segment left stands on the level itself. -/
theorem Forest.Stands.of_singleton {file : ScannedFile} {pending : Pending} {tokens : List Token}
    {level : Forest} {address : List Nat}
    (h : Forest.Stands file pending [tokens] level address) :
    ∃ place route, address = [place] ∧ level[place]? = some route ∧
      route.name = some (pending.next tokens).name ∧ route.path = (pending.next tokens).path := by
  generalize hlists : [tokens] = lists at h
  cases h with
  | @here _ _ _ place route hroute hname hpath _ =>
    subst hlists
    exact ⟨place, route, rfl, hroute, hname, hpath⟩
  | @inside _ front first rest _ _ _ _ _ _ hrest _ =>
    -- a layout takes one of several segments
    have hlength : 1 = front.length + (rest.length + 1) := by
      simpa using congrArg List.length hlists
    have hrest_length := List.length_pos_of_ne_nil hrest
    omega

/-- **A registered route below another one** is the page of a file whose segments go on from the raw
    name of the upper route. -/
theorem Forest.Built.split {mount : Mount} {files : List ScannedFile} {forest : Forest}
    {addresses : List (List Nat)} (h : Forest.Built mount files forest addresses)
    {front back : List Nat} {route : Route} (hroute : Forest.at? forest front = some route)
    {lower : Route} (hlower : Forest.at? (Forest.register false route.children) back = some lower) :
    ∃ file ∈ files, ∃ passed own below, Path.tokens file.relative = .ok (passed ++ own) ∧
      passed ≠ [] ∧ own ≠ [] ∧ route.name = some ((Pending.start mount).walk passed).name ∧
      Forest.Stands file ⟨((Pending.start mount).walk passed).name, ""⟩ own route.children back ∧
      Forest.at? route.children back = some below ∧
      below.name = some ((⟨((Pending.start mount).walk passed).name, ""⟩ : Pending).walk own).name ∧
      lower = below.register false := by
  rw [Forest.at?_register, Bool.false_and] at hlower
  obtain ⟨below, hbelow, rfl⟩ := Option.map_eq_some_iff.mp hlower
  have hfront : front ≠ [] := by
    rintro rfl
    simp at hroute
  have hback : back ≠ [] := by
    rintro rfl
    simp at hbelow
  have hboth : Forest.at? forest (front ++ back) = some below := by
    rw [Forest.at?_append hfront hback, hroute]
    exact hbelow
  obtain ⟨i, hi⟩ := h.exists_of_at? hboth
  obtain ⟨file, lists, hfile, hlists, hstands⟩ := h.exists_file hi
  obtain ⟨route', passed, own, hroute', rfl, hpassed, hown, hname, hinside⟩ :=
    hstands.split hfront hback
  cases hroute'.symm.trans hroute
  obtain ⟨below', hbelow', hbelow_name, -⟩ := hinside.at?_eq_some
  cases hbelow'.symm.trans hbelow
  exact ⟨file, List.mem_of_getElem? hfile, passed, own, below, hlists, hpassed, hown, hname,
    hinside, hbelow, hbelow_name, rfl⟩

/-! ### Names of registered pages -/

/-- An index that starts anew ends up without a path. -/
theorem Route.path_register_index {pending : Pending} (hempty : pending.path = "")
    {tokens : List Token} (hindex : Segment.name tokens = "index") {route : Route}
    (hpath : route.path = (pending.next tokens).path) : (route.register false).path = "" := by
  have hnothing : Route.relativePath "/" = "" := by decide +kernel
  rw [Route.path_register, hpath, Pending.path_next_index_of_empty hindex hempty]
  exact hnothing

/-- **No registered page has the name of a page above it.** Of the pages below, only its index could
    have it, and that takes the name over. -/
theorem Forest.Built.noEcho {mount : Mount} {files : List ScannedFile} {forest : Forest}
    {addresses : List (List Nat)} (h : Forest.Built mount files forest addresses)
    (hfiles : ∀ file ∈ files, "" ∉ Path.segments file.relative) :
    (Forest.register true forest).NoEcho := by
  intro upper hupper lower hlower name hname hsame
  obtain ⟨front, hfront⟩ := Forest.mem_postorder_iff.mp hupper
  obtain ⟨back, hback⟩ := Forest.mem_postorder_iff.mp hlower
  rw [Forest.at?_register] at hfront
  obtain ⟨route, hroute, rfl⟩ := Option.map_eq_some_iff.mp hfront
  rw [Route.children_register] at hback
  obtain ⟨file, hfile, passed, own, below, htokens, hpassed, hown, hraw, hstands, hbelow,
    hbelow_raw, rfl⟩ := h.split hroute hback
  have hproper : ∀ tokens ∈ passed ++ own, Proper tokens := fun _ ht =>
    Path.proper_of_mem_tokens htokens (hfiles file hfile) ht
  -- both routes have a name, which is the flat form of the one they were built with
  obtain ⟨-, hnone⟩ | ⟨hpaths, hflat⟩ := Route.name_register_cases (true && front.length == 1) route
  · rw [hnone] at hname
    cases hname
  obtain ⟨-, hnone⟩ | ⟨-, hflat_below⟩ := Route.name_register_cases false below
  · rw [hnone] at hsame
    cases hsame
  rw [hflat, hraw, Option.map_some, Option.some.injEq] at hname
  rw [hflat_below, hbelow_raw, Option.map_some, Option.some.injEq, ← hname] at hsame
  -- so the lower one is the index of the upper one, and has no path of its own
  have hstart : (⟨((Pending.start mount).walk passed).name, ""⟩ : Pending).name ≠ "" :=
    (Pending.start mount).name_walk_ne_empty hpassed fun t ht =>
      hproper t (List.mem_append_left _ ht)
  obtain ⟨tokens, rfl, hindex⟩ := Pending.eq_index_of_flatName hstart hown
    (fun t ht => hproper t (List.mem_append_right _ ht)) hsame
  obtain ⟨place, child, rfl, hchild, -, hpath⟩ := hstands.of_singleton
  have hmem : child.register false ∈ (route.register (true && front.length == 1)).children := by
    rw [Route.children_register, Forest.register_eq_map]
    exact List.mem_map_of_mem (List.mem_of_getElem? hchild)
  exact hpaths _ hmem (Route.path_register_index rfl hindex hpath)

end FileRoutes
