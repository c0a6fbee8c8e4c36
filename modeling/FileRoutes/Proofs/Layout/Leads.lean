import FileRoutes.Proofs.Layout.Descent
import FileRoutes.Proofs.Layout.Match

namespace FileRoutes

open Segment

/-!
# Layouts — where the segments of a folder lead

The files of a folder go wherever the segments of the folder lead. Once a page of the folder's
name is there, they lead to it or to a page before it with the same texts, and pages that lie as
deep as the folder do not change that.

* `Forest.Leads` — the address of the layout that segments lead to, all of them taken as folders;
* `Forest.Descent.leads` — a page without an index among its segments is led to once it is
  placed, unless an earlier page has its texts;
* `Forest.Leads.graft` — a leaf with at least as many segments in its name keeps this so;
* `Forest.Leads.descent` — a file in the folder is then placed below the layout.
-/

/-- The first route of a level that passes a test. -/
structure Forest.IsFirst (test : Route → Bool) (level : Forest) (place : Nat)
    (route : Route) : Prop where
  at_place : level[place]? = some route
  passes : test route = true
  fails_before : ∀ earlier < place, ∀ other, level[earlier]? = some other → test other = false

/-- The segments, all taken as folders, lead to the layout at the address. -/
inductive Forest.Leads : Pending → List (List Token) → Forest → List Nat → Prop where
  /-- The last segment leads to a layout of this level. -/
  | here {pending : Pending} {tokens : List Token} {level : Forest} {place : Nat} {route : Route}
      (hfirst : Forest.IsFirst (pending.isLayout tokens) level place route) :
      Leads pending [tokens] level [place]
  /-- A segment leads into a layout of this level. -/
  | inside {pending : Pending} {tokens : List Token} {rest : List (List Token)} {level : Forest}
      {place : Nat} {route : Route} {address : List Nat}
      (hfirst : Forest.IsFirst (pending.isLayout tokens) level place route)
      (hbelow : Leads (pending.nested tokens) rest route.children address) :
      Leads pending (tokens :: rest) level (place :: address)
  /-- A segment that fits no layout of this level is gathered. -/
  | pass {pending : Pending} {tokens : List Token} {rest : List (List Token)} {level : Forest}
      {address : List Nat}
      (hnone : ∀ route ∈ level, pending.isLayout tokens route = false)
      (hlater : Leads (pending.next tokens) rest level address) :
      Leads pending (tokens :: rest) level address

/-! ### First routes -/

/-- The route that a level is split around is the first one to pass the test. -/
theorem Forest.IsFirst.of_split {test : Route → Bool} {before : Forest} {found : Route}
    {after : Forest} (hbefore : ∀ route ∈ before, test route = false)
    (hfound : test found = true) :
    Forest.IsFirst test (before ++ found :: after) before.length found where
  at_place := by simp
  passes := hfound
  fails_before := by
    intro earlier hearlier other hother
    rw [List.getElem?_append_left hearlier] at hother
    exact hbefore other (List.mem_of_getElem? hother)

/-- There is one first route. -/
theorem Forest.IsFirst.unique {test : Route → Bool} {level : Forest} {place place' : Nat}
    {route route' : Route} (h : Forest.IsFirst test level place route)
    (h' : Forest.IsFirst test level place' route') : place = place' ∧ route = route' := by
  have hplace : place = place' := by
    rcases Nat.lt_trichotomy place place' with hlt | heq | hlt
    · have hfails := h'.fails_before place hlt route h.at_place
      rw [h.passes] at hfails
      cases hfails
    · exact heq
    · have hfails := h.fails_before place' hlt route' h'.at_place
      rw [h'.passes] at hfails
      cases hfails
  subst hplace
  exact ⟨rfl, Option.some.inj (h.at_place.symm.trans h'.at_place)⟩

/-- A level with a first route is not one where all routes fail. -/
theorem Forest.IsFirst.not_all_fail {test : Route → Bool} {level : Forest} {place : Nat}
    {route : Route} (h : Forest.IsFirst test level place route) :
    ¬ ∀ other ∈ level, test other = false := by
  intro hfail
  have hroute := hfail route (List.mem_of_getElem? h.at_place)
  rw [h.passes] at hroute
  cases hroute

/-- If a route passes a test, there is a first one on its level that does. -/
theorem Forest.IsFirst.exists_of_passes {test : Route → Bool} {level : Forest} {place : Nat}
    {route : Route} (hroute : level[place]? = some route) (hpasses : test route = true) :
    ∃ first ≤ place, ∃ found, Forest.IsFirst test level first found := by
  induction level generalizing place with
  | nil => cases hroute
  | cons head level ih =>
    by_cases hhead : test head = true
    · exact ⟨0, Nat.zero_le place, head, rfl, hhead, fun _ hlt => absurd hlt (Nat.not_lt_zero _)⟩
    · obtain ⟨place, rfl⟩ : ∃ later, place = later + 1 := by
        cases place with
        | zero =>
          cases hroute
          exact absurd hpasses hhead
        | succ later => exact ⟨later, rfl⟩
      rw [List.getElem?_cons_succ] at hroute
      obtain ⟨first, hle, found, hfirst⟩ := ih hroute
      refine ⟨first + 1, by omega, found, hfirst.at_place, hfirst.passes, ?_⟩
      intro earlier hearlier other hother
      cases earlier with
      | zero =>
        -- the head of the level, which does not pass in this case
        cases hother
        exact Bool.eq_false_iff.mpr hhead
      | succ earlier =>
        exact hfirst.fails_before earlier (by omega) other hother

/-! ### Deeper pages -/

/-- The name of a layout has one component more than the name so far. -/
theorem Pending.isLayout_eq_false_of_deeper {pending later : Pending} {tokens : List Token}
    (h : Proper tokens) {route : Route} (hname : route.name = some later.name)
    (hdeeper : pending.nameParts.length + 1 < later.nameParts.length) :
    pending.isLayout tokens route = false := by
  apply Bool.eq_false_iff.mpr
  intro hlayout
  have hsame : later.name = (pending.next tokens).name :=
    Option.some.inj (hname.symm.trans (Pending.isLayout_iff.mp hlayout).1)
  have hparts : later.nameParts = (pending.next tokens).nameParts := by
    unfold Pending.nameParts
    rw [hsame]
  rw [hparts, Pending.nameParts_next h, List.length_append, List.length_singleton] at hdeeper
  exact absurd hdeeper (Nat.lt_irrefl _)

/-- A level without a layout has none after a leaf was grafted whose name is longer. -/
theorem Forest.Graft.not_isLayout {pending later : Pending} {tokens : List Token}
    (h : Proper tokens) {path file : String} {address : List Nat} {level level' : Forest}
    (hgraft : Forest.Graft (.leaf later.name path file) address level level')
    (hdeeper : pending.nameParts.length + 1 < later.nameParts.length)
    (hnone : ∀ route ∈ level, pending.isLayout tokens route = false) :
    ∀ route ∈ level', pending.isLayout tokens route = false := by
  intro route hroute
  cases hgraft with
  | here =>
    rcases List.mem_append.mp hroute with hroute | hroute
    · exact hnone route hroute
    · rw [List.mem_singleton.mp hroute]
      exact Pending.isLayout_eq_false_of_deeper h rfl hdeeper
  | inside hold _ =>
    rcases List.mem_or_eq_of_mem_set hroute with hroute | rfl
    · exact hnone route hroute
    · -- a layout is told by its texts, and only the children of this route are new
      have hold' := hnone _ (List.mem_of_getElem? hold)
      exact hold'

/-- The first layout of a level stays the first one after a leaf was grafted. -/
theorem Forest.Graft.isFirst {pending : Pending} {tokens : List Token} {leaf : Route}
    {address : List Nat} {level level' : Forest} (hgraft : Forest.Graft leaf address level level')
    {place : Nat} {route : Route}
    (h : Forest.IsFirst (pending.isLayout tokens) level place route) :
    ∃ route', Forest.IsFirst (pending.isLayout tokens) level' place route' ∧
      (route'.children = route.children ∨
        ∃ inner, Forest.Graft leaf inner route.children route'.children) := by
  obtain ⟨route', hroute', hbare, hchildren⟩ := hgraft.getElem?_eq_some h.at_place
  refine ⟨route', ⟨hroute', ?_, ?_⟩, hchildren⟩
  · rw [Pending.isLayout_of_bare hbare]
    exact h.passes
  · intro earlier hearlier other hother
    -- the routes before it are those that were there, which did not pass either
    have hlt : earlier < level.length :=
      Nat.lt_trans hearlier (List.getElem?_eq_some_iff.mp h.at_place).1
    have hold : level[earlier]? = some level[earlier] := List.getElem?_eq_getElem hlt
    obtain ⟨other', hother', hbare', -⟩ := hgraft.getElem?_eq_some hold
    cases hother'.symm.trans hother
    rw [Pending.isLayout_of_bare hbare']
    exact h.fails_before earlier hearlier _ hold

/-! ### Following the way -/

/-- Below a layout, as many names have been gathered as beside it. -/
theorem Pending.length_nameParts_nested {pending : Pending} {tokens : List Token}
    (h : Proper tokens) :
    (pending.nested tokens).nameParts.length = pending.nameParts.length + 1 := by
  have hparts : (pending.nested tokens).nameParts = (pending.next tokens).nameParts := rfl
  rw [hparts, Pending.nameParts_next h, List.length_append, List.length_singleton]

/-- **Step.** Segments lead where they led before, after a leaf was grafted whose name has at least
    as many components as these segments give. -/
theorem Forest.Leads.graft {pending later : Pending} {lists : List (List Token)}
    {level level' : Forest} {target address : List Nat} {path file : String}
    (h : Forest.Leads pending lists level target) (hproper : ∀ tokens ∈ lists, Proper tokens)
    (hgraft : Forest.Graft (.leaf later.name path file) address level level')
    (hdeep : pending.nameParts.length + lists.length ≤ later.nameParts.length) :
    Forest.Leads pending lists level' target := by
  induction h generalizing address level' with
  | @here pending tokens level place route hfirst =>
    obtain ⟨route', hfirst', -⟩ := hgraft.isFirst hfirst
    exact .here hfirst'
  | @inside pending tokens rest level place route target hfirst hbelow ih =>
    obtain ⟨route', hfirst', hchildren⟩ := hgraft.isFirst hfirst
    rcases hchildren with hsame | ⟨inner, hinner⟩
    · rw [← hsame] at hbelow
      exact .inside hfirst' hbelow
    · -- the layout stays the first one, and the leaf was grafted below it
      have hdeep' : (pending.nested tokens).nameParts.length + rest.length
          ≤ later.nameParts.length := by
        rw [Pending.length_nameParts_nested (hproper tokens (by simp))]
        rw [List.length_cons] at hdeep
        omega
      exact .inside hfirst'
        (ih (fun t ht => hproper t (List.mem_cons_of_mem _ ht)) hinner hdeep')
  | @pass pending tokens rest level target hnone hlater ih =>
    have htokens := hproper tokens (by simp)
    have hparts : (pending.next tokens).nameParts.length = pending.nameParts.length + 1 := by
      rw [Pending.nameParts_next htokens, List.length_append, List.length_singleton]
    have hrest : 0 < rest.length := by
      cases hlater <;> simp
    rw [List.length_cons] at hdeep
    exact .pass (hgraft.not_isLayout htokens (by omega) hnone)
      (ih (fun t ht => hproper t (List.mem_cons_of_mem _ ht)) hgraft (by omega))

/-- **A page is led to.** Once a page without an index among its segments is placed, its segments
    taken as folders lead to it, or to a page before it on its level with its name and path. -/
theorem Forest.Descent.leads {file : ScannedFile} {pending : Pending}
    {lists : List (List Token)} {level level' : Forest} {address : List Nat}
    (h : Forest.Descent file pending lists level address level') (hne : lists ≠ [])
    (hlists : ∀ tokens ∈ lists, Proper tokens ∧ Segment.name tokens ≠ "index")
    (htidy : pending.Tidy) :
    ∃ folder first own, address = folder ++ [own] ∧ first ≤ own ∧
      Forest.Leads pending lists level' (folder ++ [first]) ∧
      ∃ found node, Forest.at? level' (folder ++ [first]) = some found ∧
        Forest.at? level' (folder ++ [own]) = some node ∧
        found.name = node.name ∧ found.path = node.path := by
  induction h with
  | settle => exact absurd rfl hne
  | @enter pending tokens rest before found after children address hrest hbefore hfound hbelow ih =>
    -- what leads to the page within the layout leads to it through the layout
    obtain ⟨folder, first, own, haddress, hle, hleads, hitem, hnode, hat, hat', htexts⟩ :=
      ih hrest (fun t ht => hlists t (List.mem_cons_of_mem _ ht)) (.nested pending tokens)
    have hfirst : Forest.IsFirst (pending.isLayout tokens)
        (before ++ { found with children } :: after) before.length { found with children } :=
      .of_split hbefore hfound
    refine ⟨before.length :: folder, first, own, by rw [haddress, List.cons_append], hle,
      .inside hfirst hleads, hitem, hnode, ?_, ?_, htexts⟩
    · rw [List.cons_append, Forest.at?_cons (by simp), hfirst.at_place]
      exact hat
    · rw [List.cons_append, Forest.at?_cons (by simp), hfirst.at_place]
      exact hat'
  | @pass pending tokens rest level level' address hlevel hlater ih =>
    obtain ⟨htokens, hindex⟩ := hlists tokens (by simp)
    by_cases hrest : rest = []
    · -- the page settles here, with the texts of the layout that its last segment would lead to
      subst hrest
      cases hlater with
      | settle =>
        have hpasses : pending.isLayout tokens (.leaf (pending.next tokens).name
            (pending.next tokens).path file.absolute) = true := by
          rw [Pending.isLayout_iff, htidy.layoutPath_eq htokens hindex]
          exact ⟨rfl, rfl⟩
        have hown : (level ++ [Route.leaf (pending.next tokens).name (pending.next tokens).path
            file.absolute])[level.length]? = some (.leaf (pending.next tokens).name
              (pending.next tokens).path file.absolute) := List.getElem?_concat_length
        obtain ⟨first, hle, found, hfirst⟩ := Forest.IsFirst.exists_of_passes hown hpasses
        have hfound := Pending.isLayout_iff.mp hfirst.passes
        have hnode := Pending.isLayout_iff.mp hpasses
        exact ⟨[], first, level.length, rfl, hle, .here hfirst, found, _, hfirst.at_place, hown,
          hfound.1.trans hnode.1.symm, hfound.2.trans hnode.2.symm⟩
    · -- the leaf has a longer name than the layout that was looked for here and not found, so
      -- that there is none afterwards either
      obtain ⟨folder, first, own, haddress, hle, hleads, htexts⟩ :=
        ih hrest (fun t ht => hlists t (List.mem_cons_of_mem _ ht)) (htidy.next htokens hindex)
      obtain ⟨path, hgraft⟩ := hlater.graft
      have hdeeper : pending.nameParts.length + 1
          < ((pending.next tokens).walk rest).nameParts.length := by
        rw [Pending.nameParts_walk fun t ht => (hlists t (List.mem_cons_of_mem _ ht)).1,
          Pending.nameParts_next htokens]
        have hlength := List.length_pos_of_ne_nil hrest
        simp only [List.length_append, List.length_map, List.length_singleton]
        omega
      have hnone := hgraft.not_isLayout htokens hdeeper (hlevel.resolve_left hrest)
      exact ⟨folder, first, own, haddress, hle, .pass hnone hleads, htexts⟩

/-- **A file goes where its folder leads.** A file whose segments continue those that lead to a
    layout is placed below that layout. -/
theorem Forest.Leads.descent {pending : Pending} {front rest : List (List Token)}
    {level level' : Forest} {target address : List Nat}
    (h : Forest.Leads pending front level target) (hrest : rest ≠ []) {file : ScannedFile}
    (hdescent : Forest.Descent file pending (front ++ rest) level address level') :
    ∃ below, below ≠ [] ∧ address = target ++ below := by
  induction h generalizing address level' with
  | @here pending tokens level place route hfirst =>
    cases hdescent with
    | @enter _ _ _ before found after children address _ hbefore hfound hbelow =>
      obtain ⟨rfl, rfl⟩ := hfirst.unique (.of_split hbefore hfound)
      obtain ⟨_, hgraft⟩ := hbelow.graft
      exact ⟨address, hgraft.ne_nil, rfl⟩
    | pass hlevel hlater =>
      -- segments are left, so that the file enters a layout wherever there is one
      exact absurd (hlevel.resolve_left (by simpa using hrest)) hfirst.not_all_fail
  | @inside pending tokens later level place route target hfirst hinside ih =>
    have hlater_ne : later ++ rest ≠ [] := List.append_ne_nil_of_right_ne_nil later hrest
    cases hdescent with
    | @enter _ _ _ before found after children address _ hbefore hfound hbelow =>
      obtain ⟨rfl, rfl⟩ := hfirst.unique (.of_split hbefore hfound)
      obtain ⟨below, hbelow_ne, rfl⟩ := ih hbelow
      exact ⟨below, hbelow_ne, rfl⟩
    | pass hlevel hlater =>
      exact absurd (hlevel.resolve_left hlater_ne) hfirst.not_all_fail
  | @pass pending tokens later level target hnone hleads ih =>
    cases hdescent with
    | @enter _ _ _ before found after children address _ hbefore hfound hbelow =>
      have hfirst : Forest.IsFirst (pending.isLayout tokens) (before ++ found :: after)
          before.length found := .of_split hbefore hfound
      exact absurd hnone hfirst.not_all_fail
    | pass hlevel hlater => exact ih hlater

end FileRoutes
