import FileRoutes.Compile
import FileRoutes.Proofs.Layout.FlatNames
import FileRoutes.Proofs.Normalize.Duplicates

namespace FileRoutes

open Segment

/-!
# Layouts — what a name leads to

Names are looked up parents first, but reviewed children first. No compiled route has the name of
one above it, so both ways agree on the route that has a name first.

* `mem_repeats_iff`, `lookup_eq_some_iff_unreported` — the first entry of a name is the one that is
  not reported;
* `Forest.NoEcho.map_file_lookup` — a lookup in a forest is one in its list of names;
* `Forest.Descent.files_perm`, `Forest.Built.files_perm` — a built forest has the files that were
  placed in it;
* `Forest.lookup_compile` — the statement about the routes compiled from a list of files.
-/

/-! ### Lists of names -/

/-- A diagnostic tells of a name that stands in the list behind its first file. -/
theorem mem_repeats_iff {named : List (String × String)} {diagnostic : Diagnostic} :
    diagnostic ∈ repeats named ↔ ∃ front back,
      named = front ++ (diagnostic.name, diagnostic.file) :: back ∧
        front.lookup diagnostic.name = some diagnostic.firstFile := by
  unfold repeats
  rw [List.mem_filterMap]
  constructor
  · rintro ⟨⟨⟨name, file⟩, place⟩, hplace, hlookup⟩
    obtain ⟨firstFile, hfirst, rfl⟩ := Option.map_eq_some_iff.mp hlookup
    have hentry : named[place]? = some (name, file) := List.mem_zipIdx_iff_getElem?.mp hplace
    obtain ⟨hlt, hentry⟩ := List.getElem?_eq_some_iff.mp hentry
    have hsplit := List.take_append_drop place named
    rw [List.drop_eq_getElem_cons hlt, hentry] at hsplit
    exact ⟨named.take place, named.drop (place + 1), hsplit.symm, hfirst⟩
  · rintro ⟨front, back, rfl, hfirst⟩
    refine ⟨((diagnostic.name, diagnostic.file), front.length), ?_, ?_⟩
    · rw [List.mem_zipIdx_iff_getElem?]
      simp
    · simp [hfirst]

/-- The file that is found for a name stands in the list. -/
theorem mem_of_lookup {named : List (String × String)} {name file : String}
    (h : named.lookup name = some file) : file ∈ named.map Prod.snd := by
  obtain ⟨front, back, rfl, -⟩ := List.lookup_eq_some_iff.mp h
  simp

/-- **Found or reported.** Where no file stands twice, the entry of a file is the first one of its
    name exactly if no diagnostic reports the file. -/
theorem lookup_eq_some_iff_unreported {named : List (String × String)}
    (hfiles : (named.map Prod.snd).Nodup) {name file : String} (h : (name, file) ∈ named) :
    named.lookup name = some file ↔ ∀ diagnostic ∈ repeats named, diagnostic.file ≠ file := by
  obtain ⟨front, back, rfl⟩ := List.append_of_mem h
  rw [List.map_append, List.map_cons, List.nodup_middle, List.nodup_cons, List.mem_append,
    not_or] at hfiles
  obtain ⟨⟨hfront, hback⟩, -⟩ := hfiles
  -- both sides say that the name does not stand before the entry
  have hfirst : (front ++ (name, file) :: back).lookup name = some file
      ↔ front.lookup name = none := by
    rw [List.lookup_append, List.lookup_cons_self]
    cases hlookup : front.lookup name with
    | none => simp
    | some other =>
      have hne : other ≠ file := by
        rintro rfl
        exact hfront (mem_of_lookup hlookup)
      simp [hne]
  rw [hfirst]
  constructor
  · rintro hnone diagnostic hdiagnostic rfl
    obtain ⟨front', back', hsplit, hfound⟩ := mem_repeats_iff.mp hdiagnostic
    -- the file stands nowhere else, so this is the same entry
    have hnew : (diagnostic.name, diagnostic.file) ∉ front := fun hmem =>
      hfront (List.mem_map.mpr ⟨_, hmem, rfl⟩)
    have hnew' : (diagnostic.name, diagnostic.file) ∉ back := fun hmem =>
      hback (List.mem_map.mpr ⟨_, hmem, rfl⟩)
    obtain ⟨rfl, hentry, -⟩ := (List.append_cons_inj_of_notMem hnew hnew').mp hsplit
    rw [← (Prod.mk.inj hentry).1, hnone] at hfound
    cases hfound
  · intro hunreported
    rw [Option.eq_none_iff_forall_ne_some]
    intro first hlookup
    exact hunreported ⟨name, first, file⟩ (mem_repeats_iff.mpr ⟨front, back, rfl, hlookup⟩) rfl

/-! ### The names of a forest -/

/-- The first route of a name in a list has the first file of that name. -/
theorem map_file_find? (routes : List Route) (name : String) :
    (routes.find? fun route => route.name == some name).map Route.file
      = (routes.filterMap Route.named?).lookup name := by
  induction routes with
  | nil => rfl
  | cons route rest ih =>
    rw [List.find?_cons, List.filterMap_cons]
    cases hown : route.name with
    | none => simpa [Route.named?, hown] using ih
    | some own =>
      rw [Route.named?, hown, Option.map_some, List.lookup_cons]
      by_cases hsame : own = name
      · simp [hsame]
      · have hfails : (some own == some name) = false := by simpa using hsame
        have hfails' : (name == own) = false := beq_eq_false_iff_ne.mpr (Ne.symm hsame)
        rw [hfails, hfails']
        exact ih

/-- **A lookup in a forest is one in its list of names,** where no route has the name of one above
    it. -/
theorem Forest.NoEcho.map_file_lookup {forest : Forest} (h : forest.NoEcho) (name : String) :
    (Forest.lookup name forest).map Route.file = (Forest.named forest).lookup name := by
  rw [h.lookup_eq_find?, map_file_find?]
  rfl

/-- A route with a name is in the list of names. -/
theorem Forest.mem_named {forest : Forest} {route : Route} {name : String}
    (hroute : route ∈ Forest.postorder forest) (hname : route.name = some name) :
    (name, route.file) ∈ Forest.named forest :=
  List.mem_filterMap.mpr ⟨route, hroute, by rw [Route.named?, hname, Option.map_some]⟩

/-- The files in the list of names are files of the forest, in the same order. -/
theorem Forest.map_snd_named_sublist (forest : Forest) :
    List.Sublist ((Forest.named forest).map Prod.snd) (Forest.files forest) := by
  unfold Forest.named Forest.files
  induction Forest.postorder forest with
  | nil => exact .slnil
  | cons route rest ih =>
    rw [List.filterMap_cons, List.map_cons]
    cases hname : route.name with
    | none =>
      rw [Route.named?, hname]
      exact .cons _ ih
    | some name =>
      rw [Route.named?, hname]
      exact .cons_cons _ ih

/-- A name that is reported leads to the route of its first file. -/
theorem Forest.NoEcho.lookup_of_mem_repeats {forest : Forest} (h : forest.NoEcho)
    {diagnostic : Diagnostic} (hdiagnostic : diagnostic ∈ repeats (Forest.named forest)) :
    ∃ route, Forest.lookup diagnostic.name forest = some route ∧
      route.file = diagnostic.firstFile := by
  obtain ⟨front, back, hsplit, hfirst⟩ := mem_repeats_iff.mp hdiagnostic
  have hfile := h.map_file_lookup diagnostic.name
  rw [hsplit, List.lookup_append, hfirst] at hfile
  exact Option.map_eq_some_iff.mp hfile

/-- **A name leads to the route that is not reported,** where no file stands twice. -/
theorem Forest.NoEcho.lookup_eq_some_iff {forest : Forest} (h : forest.NoEcho)
    (hfiles : (Forest.files forest).Nodup) {route : Route}
    (hroute : route ∈ Forest.postorder forest) {name : String} (hname : route.name = some name) :
    Forest.lookup name forest = some route ↔
      ∀ diagnostic ∈ repeats (Forest.named forest), diagnostic.file ≠ route.file := by
  have hnamed := hfiles.sublist forest.map_snd_named_sublist
  rw [← lookup_eq_some_iff_unreported hnamed (Forest.mem_named hroute hname),
    ← h.map_file_lookup name]
  constructor
  · intro hlookup
    rw [hlookup, Option.map_some]
  · intro hfile
    -- the file tells the route that is found
    obtain ⟨found, hlookup, hsame⟩ := Option.map_eq_some_iff.mp hfile
    have hfound := (h.of_lookup hlookup).1
    rw [hlookup, List.inj_on_of_nodup_map hfiles hfound hroute hsame]

/-! ### The files of a built forest -/

/-- **Step.** Placing a file adds it to the files of a level. -/
theorem Forest.Descent.files_perm {file : ScannedFile} {pending : Pending}
    {lists : List (List Token)} {level level' : Forest} {address : List Nat}
    (h : Forest.Descent file pending lists level address level') :
    (Forest.files level').Perm (file.absolute :: Forest.files level) := by
  induction h with
  | settle pending level =>
    rw [Forest.files_append]
    exact List.perm_append_singleton _ _
  | @enter pending tokens rest before found after children address _ _ _ _ ih =>
    rw [Forest.files_append, Forest.files_append, Forest.files_cons, Forest.files_cons]
    have hlevel := (ih.append_right (found.file :: Forest.files after)).append_left
      (Forest.files before)
    exact hlevel.trans List.perm_middle
  | pass _ _ ih => exact ih

/-- **Run.** A built forest has the files that were placed in it. -/
theorem Forest.Built.files_perm {mount : Mount} {files : List ScannedFile} {forest : Forest}
    {addresses : List (List Nat)} (h : Forest.Built mount files forest addresses) :
    (Forest.files forest).Perm (files.map ScannedFile.absolute) := by
  induction h with
  | empty => rfl
  | @concat files forest addresses file lists address forest' _ _ _ hdescent ih =>
    rw [List.map_append, List.map_singleton]
    exact (hdescent.files_perm.trans (ih.cons _)).trans (List.perm_append_singleton _ _).symm

/-- The file at a place in the list is that of the route at the address noted for the place. -/
theorem Forest.Built.getElem?_files {mount : Mount} {files : List ScannedFile} {forest : Forest}
    {addresses : List (List Nat)} (h : Forest.Built mount files forest addresses) {i : Nat}
    {address : List Nat} (haddress : addresses[i]? = some address) {route : Route}
    (hroute : Forest.at? forest address = some route) :
    (files.map ScannedFile.absolute)[i]? = some route.file := by
  obtain ⟨file, _, hfile, -, hstands⟩ := h.exists_file haddress
  obtain ⟨route', hroute', -, hroute_file⟩ := hstands.at?_eq_some
  cases hroute'.symm.trans hroute
  rw [List.getElem?_map, hfile, hroute_file]
  rfl

/-- In a built forest, a file of its own tells the address of a route. -/
theorem Forest.Built.address_eq {mount : Mount} {files : List ScannedFile} {forest : Forest}
    {addresses : List (List Nat)} (h : Forest.Built mount files forest addresses)
    (hdistinct : (files.map ScannedFile.absolute).Nodup) {here there : List Nat}
    {route other : Route} (hroute : Forest.at? forest here = some route)
    (hother : Forest.at? forest there = some other) (hfile : other.file = route.file) :
    there = here := by
  obtain ⟨i, hi⟩ := h.exists_of_at? hroute
  obtain ⟨j, hj⟩ := h.exists_of_at? hother
  have hi_file := h.getElem?_files hi hroute
  have hj_file := h.getElem?_files hj hother
  have hlt := (List.getElem?_eq_some_iff.mp hj_file).1
  have hplace : j = i :=
    (List.getElem?_inj hlt hdistinct).mp (by rw [hi_file, hj_file, hfile])
  rw [hplace, hi] at hj
  exact (Option.some.inj hj).symm

/-! ### Looking up compiled routes -/

/-- The diagnostics of a compilation are the repeated names of its routes. -/
theorem Forest.diagnostics_compile {mount : Mount} {files : List ScannedFile}
    {compiled : Normalized} (h : Forest.compile files mount = .ok compiled) :
    compiled.diagnostics = repeats (Forest.named compiled.routes) := by
  obtain ⟨forest, -, rfl⟩ := Forest.build_of_compile h
  exact forest.diagnostics_normalize_eq

/-- **Lookups agree with what is reported.** The name of a diagnostic leads to the route of its
    first file. The name of a route leads to this very route, which its file tells from all
    others, exactly if no diagnostic reports the file. -/
theorem Forest.lookup_compile {mount : Mount} {files : List ScannedFile}
    (hdistinct : (files.map ScannedFile.absolute).Nodup)
    (hfiles : ∀ file ∈ files, "" ∉ Path.segments file.relative) {compiled : Normalized}
    (h : Forest.compile files mount = .ok compiled) :
    (∀ diagnostic ∈ compiled.diagnostics, ∃ route,
      Forest.lookup diagnostic.name compiled.routes = some route ∧
        route.file = diagnostic.firstFile) ∧
    ∀ address route name, Forest.at? compiled.routes address = some route →
      route.name = some name →
      (∀ other found, Forest.at? compiled.routes other = some found →
        found.file = route.file → other = address) ∧
      (Forest.lookup name compiled.routes = some route ↔
        ∀ diagnostic ∈ compiled.diagnostics, diagnostic.file ≠ route.file) := by
  obtain ⟨forest, addresses, hbuilt, hroutes⟩ := Forest.built_of_compile h
  have hfresh := hbuilt.noEcho hfiles
  have hnodup : (Forest.files (Forest.register true forest)).Nodup := by
    rw [Forest.files_register, hbuilt.files_perm.nodup_iff]
    exact hdistinct
  rw [Forest.diagnostics_compile h, hroutes]
  refine ⟨fun diagnostic hdiagnostic => hfresh.lookup_of_mem_repeats hdiagnostic,
    fun address route name hroute hname => ⟨fun other found hfound hsame => ?_, ?_⟩⟩
  · rw [Forest.at?_register] at hroute hfound
    obtain ⟨raw, hraw, rfl⟩ := Option.map_eq_some_iff.mp hroute
    obtain ⟨raw', hraw', rfl⟩ := Option.map_eq_some_iff.mp hfound
    rw [Route.file_register, Route.file_register] at hsame
    exact hbuilt.address_eq hdistinct hraw hraw' hsame
  · exact hfresh.lookup_eq_some_iff hnodup (Forest.mem_postorder_iff.mpr ⟨address, hroute⟩) hname

/-- Two pages of a site whose names are the same once slashes are hyphens. -/
def teamPages : List ScannedFile :=
  [⟨"team-list.vue", "/pages/team-list.vue", ""⟩, ⟨"team/list.vue", "/pages/team/list.vue", ""⟩]

/-- The name that both pages have leads to the first one, and the second one is reported. -/
theorem teamPages_lookup :
    ∃ compiled, Forest.compile teamPages (.ofDomain "") = .ok compiled ∧
      compiled.routes = [⟨some "team-list", "/team-list", "/pages/team-list.vue", []⟩,
        ⟨some "team-list", "/team/list", "/pages/team/list.vue", []⟩] ∧
      compiled.diagnostics = [⟨"team-list", "/pages/team-list.vue", "/pages/team/list.vue"⟩] ∧
      Forest.lookup "team-list" compiled.routes
        = some ⟨some "team-list", "/team-list", "/pages/team-list.vue", []⟩ ∧
      (∀ diagnostic ∈ compiled.diagnostics, ∃ route,
        Forest.lookup diagnostic.name compiled.routes = some route ∧
          route.file = diagnostic.firstFile) ∧
      ∀ address route name, Forest.at? compiled.routes address = some route →
        route.name = some name →
        (∀ other found, Forest.at? compiled.routes other = some found →
          found.file = route.file → other = address) ∧
        (Forest.lookup name compiled.routes = some route ↔
          ∀ diagnostic ∈ compiled.diagnostics, diagnostic.file ≠ route.file) := by
  have hdistinct : (teamPages.map ScannedFile.absolute).Nodup := by decide +kernel
  have hfiles : ∀ file ∈ teamPages, "" ∉ Path.segments file.relative := by decide +kernel
  have hcompiled : Forest.compile teamPages (.ofDomain "") = .ok
      ⟨[⟨some "team-list", "/team-list", "/pages/team-list.vue", []⟩,
          ⟨some "team-list", "/team/list", "/pages/team/list.vue", []⟩],
        [.duplicate ⟨"team-list", "/pages/team-list.vue", "/pages/team/list.vue"⟩]⟩ := by
    have hforest : (Forest.build teamPages (.ofDomain "")).result = .ok
        [⟨some "team-list", "/team-list", "/pages/team-list.vue", []⟩,
          ⟨some "team/list", "/team/list", "/pages/team/list.vue", []⟩] := by
      decide +kernel
    have hhyphen : Route.flatName "team-list" = "team-list" := by decide +kernel
    have hslash : Route.flatName "team/list" = "team-list" := by decide +kernel
    rw [Forest.compile, hforest]
    simp [Except.map, Forest.normalize, Forest.pass, Route.pass, Owners.take, hhyphen, hslash]
  have hlookup : Forest.lookup "team-list"
      [⟨some "team-list", "/team-list", "/pages/team-list.vue", []⟩,
        ⟨some "team-list", "/team/list", "/pages/team/list.vue", []⟩]
      = some ⟨some "team-list", "/team-list", "/pages/team-list.vue", []⟩ := by
    decide +kernel
  exact ⟨_, hcompiled, rfl, rfl, hlookup, Forest.lookup_compile hdistinct hfiles hcompiled⟩

end FileRoutes
