import FileRoutes.Proofs.Layout.Built
import FileRoutes.Proofs.Layout.Slashes
import FileRoutes.Proofs.Normalize.Registered

namespace FileRoutes

open Segment

/-!
# Layouts — when the paths of compiled routes are well shaped

A path on the top level should start with a slash, a path below should not, since it is relative
to its parent, and no path should have two slashes in a row. This is so unless a page goes on from
its layout, or from the root, with an index folder.

* `Forest.WellShaped` — the shape of the paths;
* `Forest.OwnSegments` — the segments of a page after those of the page it is nested in;
* `Forest.wellShaped_compile_iff` — the paths are well shaped exactly if no such segments start with
  an index and go on with others;
* `index_folder_below_layout` — files for which they are not.
-/

/-- The paths of a registered forest are such that a router reads them as they are meant. -/
def Forest.WellShaped (forest : Forest) : Prop :=
  ∀ address route, Forest.at? forest address = some route →
    (address.length = 1 → route.path.toList.head? = some '/') ∧
    (1 < address.length → route.path.toList.head? ≠ some '/') ∧
    Path.SingleSlashes route.path

/-- The segments that the page at an address has after those of the page it is nested in. -/
def Forest.OwnSegments (mount : Mount) (files : List ScannedFile) (address : List Nat)
    (own : List (List Token)) : Prop :=
  ∃ j file all, Forest.Places mount files j address ∧ files[j]? = some file ∧
    Path.tokens file.relative = .ok all ∧
    (address.length = 1 ∧ own = all ∨
      1 < address.length ∧ ∃ i parent above, Forest.Places mount files i address.dropLast ∧
        files[i]? = some parent ∧ Path.tokens parent.relative = .ok above ∧
        own = all.drop above.length)

/-! ### The path of a page -/

/-- The path of a page is what its own segments gather: from the mount on the top level, and from
    nothing below the page it is nested in. -/
theorem Forest.Stands.path {file : ScannedFile} {pending : Pending}
    {lists : List (List Token)} {level : Forest} {address : List Nat}
    (h : Forest.Stands file pending lists level address) :
    ∃ route start front own, Forest.at? level address = some route ∧ lists = front ++ own ∧
      route.path = (Pending.walk start own).path ∧
      (address.length = 1 ∧ start = pending ∧ front = [] ∨
        1 < address.length ∧ start.path = "" ∧ own ≠ [] ∧
          ∃ parent, Forest.at? level address.dropLast = some parent ∧
            parent.name = some (pending.walk front).name) := by
  induction h with
  | @here pending lists level place route hroute hname hpath hfile =>
    exact ⟨route, pending, [], lists, by rw [Forest.at?_singleton, hroute], rfl, hpath,
      .inl ⟨rfl, rfl, rfl⟩⟩
  | @inside pending front tokens rest level place address route hroute hlayout hrest hbelow ih =>
    obtain ⟨inner, start, middle, own, hinner, hlists, hpath, hcases⟩ := ih
    have haddress : address ≠ [] := by
      rintro rfl
      simp at hinner
    have hat : Forest.at? level (place :: address) = some inner := by
      rw [Forest.at?_cons haddress, hroute]
      exact hinner
    have hlength := List.length_pos_of_ne_nil haddress
    refine ⟨inner, start, front ++ tokens :: middle, own, hat, by rw [hlists]; simp, hpath,
      .inr ⟨by rw [List.length_cons]; omega, ?_⟩⟩
    rcases hcases with ⟨hone, hstart, hmiddle⟩ | ⟨hmore, hempty, hown, parent, hparent, hname⟩
    · -- the layout of this level is the page above
      obtain ⟨last, rfl⟩ := List.length_eq_one_iff.mp hone
      subst hstart hmiddle
      rw [List.nil_append] at hlists
      refine ⟨rfl, by rw [← hlists]; exact hrest, route, by simpa using hroute, ?_⟩
      rw [(Pending.isLayout_iff.mp hlayout).1, Pending.walk_append, Pending.walk_cons,
        Pending.walk_nil]
      rfl
    · -- the page above stands further down
      have hdrop : address.dropLast ≠ [] := by
        intro hnil
        have hzero := congrArg List.length hnil
        rw [List.length_dropLast, List.length_nil] at hzero
        omega
      refine ⟨hempty, hown, parent, ?_, ?_⟩
      · rw [List.dropLast_cons_of_ne_nil haddress, Forest.at?_cons hdrop, hroute]
        exact hparent
      · rw [hname, Pending.name_walk_nested, Pending.walk_append, Pending.walk_cons]

/-- Every page has segments of its own. -/
theorem Forest.Built.exists_ownSegments {mount : Mount} {files : List ScannedFile}
    {forest : Forest} {addresses : List (List Nat)}
    (h : Forest.Built mount files forest addresses) {address : List Nat} {route : Route}
    (hroute : Forest.at? forest address = some route) :
    ∃ own, Forest.OwnSegments mount files address own := by
  obtain ⟨j, hj⟩ := h.exists_of_at? hroute
  obtain ⟨file, all, hj_file, hall, hstands⟩ := h.exists_file hj
  obtain ⟨_, _, _, _, _, _, _, hcases⟩ := hstands.path
  rcases hcases with ⟨hone, -⟩ | ⟨hmore, -, -, parent, hparent, -⟩
  · exact ⟨all, j, file, all, h.places_iff.mpr hj, hj_file, hall, .inl ⟨hone, rfl⟩⟩
  · obtain ⟨i, hi⟩ := h.exists_of_at? hparent
    obtain ⟨upper, above, hi_file, habove, -⟩ := h.exists_file hi
    exact ⟨all.drop above.length, j, file, all, h.places_iff.mpr hj, hj_file, hall,
      .inr ⟨hmore, i, upper, above, h.places_iff.mpr hi, hi_file, habove, rfl⟩⟩

/-- The path of a page is gathered from its own segments. -/
theorem Forest.Built.path_of_ownSegments {mount : Mount} {files : List ScannedFile}
    {forest : Forest} {addresses : List (List Nat)}
    (h : Forest.Built mount files forest addresses)
    (hfiles : ∀ file ∈ files, "" ∉ Path.segments file.relative) {address : List Nat}
    {own : List (List Token)} (hown : Forest.OwnSegments mount files address own) :
    ∃ route start, Forest.at? forest address = some route ∧
      route.path = (Pending.walk start own).path ∧ own ≠ [] ∧
      (∀ tokens ∈ own, Proper tokens) ∧
      (address.length = 1 ∧ start = .start mount ∨ 1 < address.length ∧ start.path = "") := by
  obtain ⟨j, file, all, hj, hj_file, hall, hparts⟩ := hown
  obtain ⟨lists, hlists, hstands⟩ := h.stands hj_file (h.places_iff.mp hj)
  cases hlists.symm.trans hall
  have hproper : ∀ tokens ∈ all, Proper tokens := fun _ ht =>
    Path.proper_of_mem_tokens hall (hfiles file (List.mem_of_getElem? hj_file)) ht
  obtain ⟨route, start, front, gathered, hroute, heq, hpath, hcases⟩ := hstands.path
  rcases hcases with ⟨hone, hstart, hfront⟩ | ⟨hmore, hempty, hgathered, above, habove, hname⟩
  · rcases hparts with ⟨-, rfl⟩ | ⟨hmore, -⟩
    · rw [hfront, List.nil_append] at heq
      subst heq
      exact ⟨route, start, hroute, hpath, Path.tokens_ne_nil hall, hproper, .inl ⟨hone, hstart⟩⟩
    · omega
  · rcases hparts with ⟨hone, -⟩ | ⟨-, i, parent, upper, hi, hi_file, hupper, rfl⟩
    · omega
    · -- the page above has as many segments as were passed on the way to it
      obtain ⟨lists, hlists, hparent⟩ := h.stands hi_file (h.places_iff.mp hi)
      cases hlists.symm.trans hupper
      obtain ⟨above', habove', hname', -⟩ := hparent.at?_eq_some
      cases habove'.symm.trans habove
      have hsame : ((Pending.start mount).walk upper).name
          = ((Pending.start mount).walk front).name := Option.some.inj (hname'.symm.trans hname)
      have hupper_proper : ∀ tokens ∈ upper, Proper tokens := fun _ ht =>
        Path.proper_of_mem_tokens hupper (hfiles parent (List.mem_of_getElem? hi_file)) ht
      have hfront_proper : ∀ tokens ∈ front, Proper tokens := fun t ht =>
        hproper t (by rw [heq]; exact List.mem_append_left _ ht)
      have hlength : upper.length = front.length :=
        Pending.length_eq_of_walk_name hupper_proper hfront_proper hsame
      have hdrop : all.drop upper.length = gathered := by
        rw [hlength, heq, List.drop_left]
      rw [hdrop]
      exact ⟨route, start, hroute, hpath, hgathered,
        fun t ht => hproper t (by rw [heq]; exact List.mem_append_right _ ht),
        .inr ⟨hmore, hempty⟩⟩

/-! ### The shape of a path -/

/-- A lone slash is single. -/
private theorem singleSlashes_slash : Path.SingleSlashes "/" := by
  show ¬ ['/', '/'] <:+: ['/']
  decide

/-- The path of a page on the top level is well shaped unless the page starts with an index folder
    at the root. -/
theorem Pending.Clean.topShape {start : Pending} (h : start.Clean) {own : List (List Token)}
    (hown : ∀ tokens ∈ own, Proper tokens) (hne : own ≠ []) :
    ((start.walk own).path.toList.head? = some '/' ∧ Path.SingleSlashes (start.walk own).path) ↔
      (start.path = "" → ¬ IndexFolderFirst own) := by
  constructor
  · rintro ⟨-, hsingle⟩ hempty hindex
    exact hsingle (Pending.path_walk_of_indexFolderFirst hempty hindex).isInfix
  · intro hindex
    have hclean : (start.walk own).path = "/" ∨
        ((start.walk own).Clean ∧ (start.walk own).path ≠ "") := by
      by_cases hempty : start.path = ""
      · exact Pending.path_walk_of_not hempty hown hne (hindex hempty)
      · right
        obtain ⟨first, rest, rfl⟩ := List.exists_cons_of_ne_nil hne
        refine ⟨h.walk hempty hown, ?_⟩
        exact Pending.path_walk_ne_empty (start.path_next_ne_empty first) rest
    rcases hclean with hslash | ⟨hclean, hpath_ne⟩
    · rw [hslash]
      exact ⟨rfl, singleSlashes_slash⟩
    · exact ⟨hclean.rooted.resolve_left hpath_ne, hclean.singleSlashes⟩

/-- The path of a page below another one is well shaped unless the page goes on with an index
    folder. -/
theorem Pending.belowShape {start : Pending} (hempty : start.path = "")
    {own : List (List Token)} (hown : ∀ tokens ∈ own, Proper tokens) (hne : own ≠ []) :
    ((Route.relativePath (start.walk own).path).toList.head? ≠ some '/' ∧
      Path.SingleSlashes (Route.relativePath (start.walk own).path)) ↔ ¬ IndexFolderFirst own := by
  have hrelative : ∀ {c : Char} {rest : List Char},
      (start.walk own).path.toList = '/' :: c :: rest →
        (Route.relativePath (start.walk own).path).toList = c :: rest := by
    intro c rest hlist
    simp [Route.relativePath, hlist]
  constructor
  · rintro ⟨hhead, -⟩ hindex
    obtain ⟨rest, hrest⟩ := Pending.path_walk_of_indexFolderFirst hempty hindex
    rw [hrelative hrest.symm] at hhead
    exact hhead rfl
  · intro hindex
    rcases Pending.path_walk_of_not hempty hown hne hindex with hslash | ⟨hclean, hpath_ne⟩
    · have hnothing : Route.relativePath "/" = "" := by decide +kernel
      rw [hslash, hnothing]
      exact ⟨by simp, Path.singleSlashes_empty⟩
    · obtain ⟨c, rest, hc, hlist⟩ := hclean.path_eq hpath_ne
      have hlist' := hrelative hlist
      refine ⟨?_, hclean.singleSlashes.of_infix ?_⟩
      · rw [hlist', List.head?_cons]
        exact fun heq => hc (Option.some.inj heq)
      · rw [hlist', hlist]
        exact (List.suffix_cons '/' (c :: rest)).isInfix

/-! ### The shape of all paths -/

/-- The path of the mount is empty, or it starts with a slash, has single slashes and does not end
    in one. -/
def Mount.IsClean (mount : Mount) : Prop :=
  mount.path = "" ∨ mount.path.toList.head? = some '/' ∧ Path.SingleSlashes mount.path ∧
    mount.path.toList.getLast? ≠ some '/'

/-- The path that a clean mount gives is clean. -/
theorem Mount.IsClean.start {mount : Mount} (h : mount.IsClean) : (Pending.start mount).Clean := by
  rcases h with hempty | ⟨hhead, hsingle, hend⟩
  · exact Pending.clean_of_empty hempty
  · exact ⟨⟨.inr hhead, hend⟩, hsingle⟩

/-- The registered form of a page has a well-shaped path exactly if the page does not go on with an
    index folder, below another page or at the root. -/
theorem Forest.Built.shape_iff {mount : Mount} (hmount : mount.IsClean)
    {files : List ScannedFile} (hfiles : ∀ file ∈ files, "" ∉ Path.segments file.relative)
    {forest : Forest} {addresses : List (List Nat)}
    (h : Forest.Built mount files forest addresses) {address : List Nat}
    {own : List (List Token)} (hown : Forest.OwnSegments mount files address own) :
    ∃ route, Forest.at? (Forest.register true forest) address = some route ∧
      (((address.length = 1 → route.path.toList.head? = some '/') ∧
          (1 < address.length → route.path.toList.head? ≠ some '/') ∧
          Path.SingleSlashes route.path) ↔
        (1 < address.length ∨ mount.path = "" → ¬ IndexFolderFirst own)) := by
  obtain ⟨route, start, hroute, hpath, hne, hproper, hcases⟩ := h.path_of_ownSegments hfiles hown
  refine ⟨route.register (true && address.length == 1), ?_, ?_⟩
  · rw [Forest.at?_register, hroute, Option.map_some]
  -- each of the two levels asks for one shape of the first character, and leaves the other out
  rcases hcases with ⟨hone, hstart⟩ | ⟨hmore, hempty⟩
  · have hshape := hmount.start.topShape hproper hne
    rw [← hstart] at hshape
    have hroot : start.path = mount.path := by rw [hstart]; rfl
    rw [hone, beq_self_eq_true, Bool.and_true, Route.path_register, if_pos rfl, hpath]
    rw [hroot] at hshape
    constructor
    · rintro ⟨hhead, -, hsingle⟩ hcase
      exact hshape.mp ⟨hhead rfl, hsingle⟩ (hcase.resolve_left (by omega))
    · intro hindex
      obtain ⟨hhead, hsingle⟩ := hshape.mpr fun hempty => hindex (.inr hempty)
      exact ⟨fun _ => hhead, fun hlt => absurd hlt (by omega), hsingle⟩
  · have hshape := Pending.belowShape hempty hproper hne
    have hlength : (address.length == 1) = false := by
      rw [beq_eq_false_iff_ne]
      omega
    rw [hlength, Bool.and_false, Route.path_register, if_neg Bool.false_ne_true,
      hpath]
    constructor
    · rintro ⟨-, hhead, hsingle⟩ -
      exact hshape.mp ⟨hhead hmore, hsingle⟩
    · intro hindex
      obtain ⟨hhead, hsingle⟩ := hshape.mpr (hindex (.inl hmore))
      exact ⟨fun hone => absurd hone (by omega), fun _ => hhead, hsingle⟩

/-- **The exact condition for well-shaped paths.** The compiled paths are well shaped exactly if no
    page goes on with an index folder, neither below the page it is nested in nor at the root:
    the segments of its own must not start with an index and go on with other names. -/
theorem Forest.wellShaped_compile_iff {mount : Mount} (hmount : mount.IsClean)
    {files : List ScannedFile} (hfiles : ∀ file ∈ files, "" ∉ Path.segments file.relative)
    {compiled : Normalized} (h : Forest.compile files mount = .ok compiled) :
    Forest.WellShaped compiled.routes ↔
      ∀ address own, Forest.OwnSegments mount files address own →
        (1 < address.length ∨ mount.path = "") → ¬ IndexFolderFirst own := by
  obtain ⟨forest, addresses, hbuilt, hroutes⟩ := Forest.built_of_compile h
  rw [hroutes]
  constructor
  · intro hshape address own hown
    obtain ⟨route, hroute, hiff⟩ := hbuilt.shape_iff hmount hfiles hown
    exact hiff.mp (hshape address route hroute)
  · intro hindex address route hroute
    -- the route that was registered here is that of a page, which has segments of its own
    obtain ⟨raw, hraw, -⟩ : ∃ raw, Forest.at? forest address = some raw ∧ _ := by
      rw [Forest.at?_register] at hroute
      exact Option.map_eq_some_iff.mp hroute
    obtain ⟨own, hown⟩ := hbuilt.exists_ownSegments hraw
    obtain ⟨same, hsame, hiff⟩ := hbuilt.shape_iff hmount hfiles hown
    cases hsame.symm.trans hroute
    exact hiff.mpr (hindex address own hown)

/-- A page in an index folder at the root of a site, and one that has an index folder further on. -/
def aboutPages : List ScannedFile :=
  [⟨"about/index/team.vue", "/pages/about/index/team.vue", ""⟩,
    ⟨"index/about.vue", "/pages/index/about.vue", ""⟩]

/-- At the root of a site, it is the index folder at the start that counts. -/
theorem about_shape :
    (Mount.ofDomain "").IsClean ∧ (∀ file ∈ aboutPages, "" ∉ Path.segments file.relative) ∧
      ∃ compiled, Forest.compile aboutPages (.ofDomain "") = .ok compiled ∧
        (Forest.WellShaped compiled.routes ↔
          ∀ address own, Forest.OwnSegments (.ofDomain "") aboutPages address own →
            (1 < address.length ∨ (Mount.ofDomain "").path = "") → ¬ IndexFolderFirst own) := by
  have hmount : (Mount.ofDomain "").IsClean := .inl rfl
  have hfiles : ∀ file ∈ aboutPages, "" ∉ Path.segments file.relative := by decide +kernel
  have hcompiled : Forest.compile aboutPages (.ofDomain "") = .ok
      ⟨[⟨some "about-index-team", "/about/team", "/pages/about/index/team.vue", []⟩,
        ⟨some "index-about", "//about", "/pages/index/about.vue", []⟩], []⟩ := by
    decide +kernel
  exact ⟨hmount, hfiles, _, hcompiled, Forest.wellShaped_compile_iff hmount hfiles hcompiled⟩

/-- A page and another one in an index folder of its own folder. -/
def manualPages : List ScannedFile :=
  [⟨"manual.vue", "/pages/manual.vue", "Docs"⟩,
    ⟨"manual/index/print.vue", "/pages/manual/index/print.vue", "Docs"⟩]

/-- Below its layout, a page in an index folder has a path that a router reads from the root. -/
theorem index_folder_below_layout :
    (Mount.ofDomain "Docs").IsClean ∧
      (∀ file ∈ manualPages, "" ∉ Path.segments file.relative) ∧
      ∃ compiled, Forest.compile manualPages (.ofDomain "Docs") = .ok compiled ∧
        ¬ Forest.WellShaped compiled.routes := by
  have hmount : (Mount.ofDomain "Docs").IsClean := by
    right
    unfold Path.SingleSlashes
    decide +kernel
  have hcompiled : Forest.compile manualPages (.ofDomain "Docs") = .ok
      ⟨[⟨some "Docs-manual", "/Docs/manual", "/pages/manual.vue",
        [⟨some "Docs-manual-index-print", "/print", "/pages/manual/index/print.vue", []⟩]⟩],
        []⟩ := by
    decide +kernel
  refine ⟨hmount, by decide +kernel, _, hcompiled, ?_⟩
  intro hshape
  obtain ⟨-, hbelow, -⟩ := hshape [0, 0] _ rfl
  exact hbelow (by decide) (by decide +kernel)

end FileRoutes
