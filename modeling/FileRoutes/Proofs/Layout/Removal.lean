import FileRoutes.Proofs.Forest.Lookup
import FileRoutes.Proofs.Forest.Prune
import FileRoutes.Proofs.Layout.Outcome

namespace FileRoutes

open Segment

/-!
# Layouts — a list without one of its files

A route without children was never entered, so that no other file has taken notice of it. Without its
file, all other files take the same ways, past the gap.

* `Forest.WithLeaf.concat` — a route that is added to the top level comes last, with the leaf and
  without it;
* `Forest.Descent.withoutLeaf` — the way of a file that does not lead to a leaf is taken without it;
* `Forest.Built.withoutLeaf` — so are the ways of all files after that of the leaf;
* `Forest.build_eraseIdx` — the statement about the routes built from a list of files.
-/

/-! ### One file -/

/-- A route that is added to the top level comes last, with the leaf and without it. -/
theorem Forest.WithLeaf.concat {leaf : Route} {address : List Nat} {level level' : Forest}
    (h : Forest.WithLeaf leaf address level level') (route : Route) :
    Forest.WithLeaf leaf address (level ++ [route]) (level' ++ [route]) := by
  cases h with
  | here before after =>
    have hleaf : Forest.WithLeaf leaf _ _ _ := .here before (after ++ [route])
    simpa using hleaf
  | @inside before after upper children inner hbelow =>
    have hleaf := Forest.WithLeaf.inside before (after ++ [route]) hbelow
    simpa using hleaf

/-- Where no route of a level is a layout, none is among routes that stand on it, children apart. -/
theorem Pending.not_isLayout_of_bare {pending : Pending} {tokens : List Token}
    {routes level : Forest} (h : ∀ route ∈ routes, ∃ route' ∈ level, route'.bare = route.bare)
    (hnone : ∀ route ∈ level, pending.isLayout tokens route = false) :
    ∀ route ∈ routes, pending.isLayout tokens route = false := by
  intro route hroute
  obtain ⟨route', hroute', hbare⟩ := h route hroute
  rw [← Pending.isLayout_of_bare hbare]
  exact hnone route' hroute'

/-- **Step.** A file whose way does not lead to a leaf takes the same way without it. By induction
    on the way: the layout that is entered is not the leaf, and it is the first one that fits without
    the leaf as well. -/
theorem Forest.Descent.withoutLeaf {file : ScannedFile} {pending : Pending}
    {lists : List (List Token)} {level' after' : Forest} {other : List Nat}
    (h : Forest.Descent file pending lists level' other after') {leaf : Route}
    {address : List Nat} {level : Forest} (hleaf : Forest.WithLeaf leaf address level level')
    (hclear : ∀ below, below ≠ [] → other ≠ address ++ below) :
    ∃ other' after, Forest.Descent file pending lists level other' after ∧
      Forest.WithLeaf leaf address after after' := by
  induction h generalizing level address with
  | settle pending level' => exact ⟨_, _, .settle pending level, hleaf.concat _⟩
  | @enter pending tokens rest before found behind children inner hrest hbefore hfound hbelow ih =>
    rcases hleaf.split with ⟨rfl, -⟩ | ⟨way, route, rfl, rfl, hbare, hinside⟩ |
      ⟨front, back, rfl, hfront, hbeside⟩
    · -- the layout would be the leaf
      obtain ⟨_, hgraft⟩ := hbelow.graft
      exact absurd rfl (hclear inner hgraft.ne_nil)
    · -- the leaf stands below the layout
      obtain ⟨other', level'', hdescent, hleaf'⟩ :=
        ih hinside fun below hne heq => hclear below hne (by rw [heq, List.cons_append])
      have hroute : pending.isLayout tokens route = true := by
        rw [Pending.isLayout_of_bare hbare]
        exact hfound
      refine ⟨_, _, .enter hrest hbefore hroute hdescent, ?_⟩
      rw [← Route.eq_of_bare hbare children]
      exact .inside before behind hleaf'
    · -- the leaf stands beside the layout, or below a route beside it
      have hfront' := Pending.not_isLayout_of_bare hfront hbefore
      exact ⟨_, _, .enter hrest hfront' hfound hbelow, hbeside _⟩
  | @pass pending tokens rest level' after' inner hlevel _ ih =>
    obtain ⟨other', after, hdescent, hleaf'⟩ := ih hleaf hclear
    have hlevel' := hlevel.imp_right
      (Pending.not_isLayout_of_bare fun _ hroute => hleaf.exists_bare_eq hroute)
    exact ⟨other', after, .pass hlevel' hdescent, hleaf'⟩

/-! ### A list of files -/

/-- **Run.** Where no file was placed below the route of one of the files, the other files build the
    forest without it. Up to that file both forests are the same, the file adds one leaf, and all
    later files take their ways past it. -/
theorem Forest.Built.withoutLeaf {mount : Mount} {files : List ScannedFile} {forest : Forest}
    {addresses : List (List Nat)} (h : Forest.Built mount files forest addresses) {i : Nat}
    {address : List Nat} (haddress : addresses[i]? = some address)
    (hclear : ∀ other ∈ addresses, ∀ below, below ≠ [] → other ≠ address ++ below) :
    ∃ pruned noted leaf, Forest.Built mount (files.eraseIdx i) pruned noted ∧
      Forest.WithLeaf leaf address pruned forest ∧ leaf.children = [] := by
  induction h with
  | empty => cases haddress
  | @concat files forest addresses file lists own forest' hbuilt hinsert htokens hdescent ih =>
    have hlength := hbuilt.length_addresses
    rcases getElem?_concat_cases haddress with ⟨hi, haddress⟩ | ⟨rfl, rfl⟩
    · obtain ⟨pruned, noted, leaf, hpruned, hleaf, hchildren⟩ :=
        ih haddress fun other hother => hclear other (List.mem_append_left _ hother)
      obtain ⟨own', pruned', hdescent', hleaf'⟩ :=
        hdescent.withoutLeaf hleaf (hclear own (by simp))
      have hinsert' := Forest.insert_eq_ok_iff.mpr ⟨lists, own', htokens, hdescent'⟩
      refine ⟨pruned', noted ++ [own'], leaf, ?_, hleaf', hchildren⟩
      rw [List.eraseIdx_append_of_lt_length (hlength ▸ hi)]
      exact .concat hpruned hinsert' htokens hdescent'
    · obtain ⟨path, hgraft⟩ := hdescent.graft
      refine ⟨forest, addresses, _, ?_, hgraft.withLeaf, rfl⟩
      rw [hlength, eraseIdx_length_append, List.append_nil]
      exact hbuilt

/-! ### The forest without a file -/

/-- **A route without children can be taken away.** Where a list of files builds a forest, each file
    has a route, and if that has no children, then the list without the file builds the forest
    without the route. All other routes keep their names, paths and files there, and they keep their
    parents and their order. -/
theorem Forest.build_eraseIdx {mount : Mount} {files : List ScannedFile} {forest : Forest}
    (h : (Forest.build files mount).result = .ok forest) {i : Nat} (hi : i < files.length) :
    (∃ address route, Forest.Places mount files i address ∧
      Forest.at? forest address = some route) ∧
    ∀ address route, Forest.Places mount files i address →
      Forest.at? forest address = some route → route.children = [] →
        (Forest.build (files.eraseIdx i) mount).result = .ok (Forest.prune address forest) ∧
        (∀ other node, other ≠ address → Forest.at? forest other = some node →
          ∃ node', Forest.at? (Forest.prune address forest) (Forest.movedUp address other)
              = some node' ∧ node'.bare = node.bare) ∧
        (∀ parent place, Forest.movedUp address (parent ++ [place])
          = Forest.movedUp address parent ++ [Forest.movedUpPlace address parent place]) ∧
        ∀ parent m n, parent ++ [m] ≠ address → m < n →
          Forest.movedUpPlace address parent m < Forest.movedUpPlace address parent n := by
  obtain ⟨addresses, hbuilt⟩ := Forest.built_of_build h
  constructor
  · obtain ⟨address, haddress⟩ := hbuilt.exists_address (List.getElem?_eq_getElem hi)
    obtain ⟨route, hroute⟩ := Option.isSome_iff_exists.mp
      ((hbuilt.mem_addresses_iff address).mp (List.mem_of_getElem? haddress))
    exact ⟨address, route, hbuilt.places_iff.mpr haddress, hroute⟩
  · intro address route hplaces hroute hchildren
    -- all files have routes, and there are none below this one
    have hclear : ∀ other ∈ addresses, ∀ below, below ≠ [] → other ≠ address ++ below := by
      rintro other hother below hbelow rfl
      have hne : address ≠ [] := by
        rintro rfl
        simp at hroute
      have hsome := (hbuilt.mem_addresses_iff _).mp hother
      rw [Forest.at?_append hne hbelow, hroute, Option.bind_some, hchildren,
        Forest.at?_empty] at hsome
      cases hsome
    obtain ⟨pruned, noted, leaf, hpruned, hleaf, hleaf_children⟩ :=
      hbuilt.withoutLeaf (hbuilt.places_iff.mp hplaces) hclear
    rw [hleaf.prune_eq]
    exact ⟨hpruned.build, fun _ _ hne hnode => hleaf.at?_movedUp hleaf_children hne hnode,
      Forest.movedUp_concat address, fun _ _ _ => Forest.movedUpPlace_lt⟩

/-- The pages of a garden: three of one folder, with a page in that folder among them, which is
    nested in the first one. -/
def gardenPages : List ScannedFile :=
  [⟨"beds.vue", "/pages/beds.vue", "Garden"⟩, ⟨"beds.ts", "/pages/beds.ts", "Garden"⟩,
    ⟨"beds/[id].vue", "/pages/beds/[id].vue", "Garden"⟩,
    ⟨"beds.tsx", "/pages/beds.tsx", "Garden"⟩]

/-- The second page of the garden can be taken away: the last one moves up to its place. -/
theorem gardenPages_without_second :
    ∃ forest, (Forest.build gardenPages (.ofDomain "Garden")).result = .ok forest ∧
      1 < gardenPages.length ∧ Forest.Places (.ofDomain "Garden") gardenPages 1 [1] ∧
      ∃ route, Forest.at? forest [1] = some route ∧ route.children = [] ∧
        (Forest.build (gardenPages.eraseIdx 1) (.ofDomain "Garden")).result
          = .ok (Forest.prune [1] forest) ∧
        (∀ other node, other ≠ [1] → Forest.at? forest other = some node →
          ∃ node', Forest.at? (Forest.prune [1] forest) (Forest.movedUp [1] other) = some node' ∧
            node'.bare = node.bare) ∧
        (∀ parent place, Forest.movedUp [1] (parent ++ [place])
          = Forest.movedUp [1] parent ++ [Forest.movedUpPlace [1] parent place]) ∧
        ∀ parent m n, parent ++ [m] ≠ [1] → m < n →
          Forest.movedUpPlace [1] parent m < Forest.movedUpPlace [1] parent n := by
  have hforest : (Forest.build gardenPages (.ofDomain "Garden")).result = .ok
      [⟨some "Garden/beds", "/Garden/beds", "/pages/beds.vue",
          [⟨some "Garden/beds/id", "/:id()", "/pages/beds/[id].vue", []⟩]⟩,
        ⟨some "Garden/beds", "/Garden/beds", "/pages/beds.ts", []⟩,
        ⟨some "Garden/beds", "/Garden/beds", "/pages/beds.tsx", []⟩] := by
    decide +kernel
  have hplaces : Forest.Places (.ofDomain "Garden") gardenPages 1 [1] :=
    ⟨[⟨some "Garden/beds", "/Garden/beds", "/pages/beds.vue", []⟩],
      [⟨some "Garden/beds", "/Garden/beds", "/pages/beds.vue", []⟩,
        ⟨some "Garden/beds", "/Garden/beds", "/pages/beds.ts", []⟩],
      by decide +kernel, by decide +kernel, rfl, rfl⟩
  have hi : 1 < gardenPages.length := by decide
  exact ⟨_, hforest, hi, hplaces, _, rfl, rfl,
    (Forest.build_eraseIdx hforest hi).2 [1] _ hplaces rfl rfl⟩

end FileRoutes
