import FileRoutes.Proofs.Layout.Outcome
import FileRoutes.Proofs.Layout.Urls

namespace FileRoutes

open Segment

/-!
# Layouts — the same files at another mount

Whether a route is the layout of a file is seen from what comes behind the path of the mount, since
this path stands in front of both. So a domain that is mounted elsewhere has the same forest, up to
the paths of the routes on the top level.

* `Route.Moved`, `Pending.Moved` — the same route, and the same route on its way, at two mounts;
* `Pending.Moved.isLayout_eq` — at both, the same routes are layouts;
* `Forest.Descent.moved` — so that a file takes the same way at both;
* `Forest.Built.moved` — and a list of files has the same forest;
* `Forest.review_eq_of_moved` — in which the same is to be found;
* `Forest.compile_aliased` — the statement about a domain and an alias of it.
-/

/-! ### Two mounts -/

/-- A route at one mount and at another one: the same but for the start of its path, which is the
    path of the mount, or a slash for the empty path. -/
structure Route.Moved (left right : Mount) (route route' : Route) : Prop where
  name : route.name = route'.name
  file : route.file = route'.file
  children : route.children = route'.children
  path : ∃ rest, route.path = Url.orSlash (left.path ++ rest) ∧
    route'.path = Url.orSlash (right.path ++ rest)

/-- A route on its way at one mount and at another one, with a tidy path at both. -/
structure Pending.Moved (left right : Mount) (pending pending' : Pending) : Prop where
  name : pending.name = pending'.name
  tidy : pending.Tidy
  tidy' : pending'.Tidy
  path : ∃ rest, pending.path = left.path ++ rest ∧ pending'.path = right.path ++ rest

variable {left right : Mount}

/-- At two mounts of the same name, routes start alike. -/
theorem Mount.Tidy.startMoved (hleft : left.Tidy) (hright : right.Tidy)
    (hname : left.name = right.name) :
    Pending.Moved left right (.start left) (.start right) where
  name := hname
  tidy := hleft.start
  tidy' := hright.start
  path := ⟨"", by simp [Pending.start], by simp [Pending.start]⟩

/-- Names go on alike at both mounts. -/
theorem Pending.Moved.nextName_eq {pending pending' : Pending}
    (h : Pending.Moved left right pending pending') (tokens : List Token) :
    pending.nextName tokens = pending'.nextName tokens := by
  unfold Pending.nextName
  rw [h.name]

/-- Paths go on alike at both mounts. -/
theorem Pending.Moved.next {pending pending' : Pending}
    (h : Pending.Moved left right pending pending') {tokens : List Token} (htokens : Proper tokens)
    (hindex : Segment.name tokens ≠ "index") :
    Pending.Moved left right (pending.next tokens) (pending'.next tokens) where
  name := h.nextName_eq tokens
  tidy := h.tidy.next htokens hindex
  tidy' := h.tidy'.next htokens hindex
  path := by
    obtain ⟨rest, hpath, hpath'⟩ := h.path
    refine ⟨rest ++ pattern tokens, ?_, ?_⟩
    · rw [Pending.path_next hindex, hpath, String.append_assoc]
    · rw [Pending.path_next hindex, hpath', String.append_assoc]

/-- Below a layout nothing is left of the mounts. -/
theorem Pending.Moved.nested_eq {pending pending' : Pending}
    (h : Pending.Moved left right pending pending') (tokens : List Token) :
    pending.nested tokens = pending'.nested tokens := by
  unfold Pending.nested
  rw [h.nextName_eq]

/-- A page that ends here is the same route at both mounts. -/
theorem Pending.Moved.leaf {pending pending' : Pending}
    (h : Pending.Moved left right pending pending') (tokens : List Token) (file : String) :
    Route.Moved left right
      (.leaf (pending.next tokens).name (pending.next tokens).path file)
      (.leaf (pending'.next tokens).name (pending'.next tokens).path file) where
  name := congrArg some (h.nextName_eq tokens)
  file := rfl
  children := rfl
  path := by
    obtain ⟨rest, hpath, hpath'⟩ := h.path
    by_cases hindex : Segment.name tokens = "index"
    · -- an index adds nothing to what is there
      have hslash : ∀ pending : Pending, (pending.next tokens).path = Url.orSlash pending.path := by
        intro pending
        show pending.nextPath tokens = _
        rw [Pending.nextPath, if_pos hindex]
        rfl
      refine ⟨rest, ?_, ?_⟩
      · rw [← hpath]
        exact hslash pending
      · rw [← hpath']
        exact hslash pending'
    · have hpattern : pattern tokens ≠ "" := by
        intro heq
        rw [← String.toList_inj] at heq
        simp at heq
      refine ⟨rest ++ pattern tokens, ?_, ?_⟩
      · rw [← String.append_assoc, ← hpath, Url.orSlash_append hpattern]
        exact Pending.path_next hindex
      · rw [← String.append_assoc, ← hpath', Url.orSlash_append hpattern]
        exact Pending.path_next hindex

/-! ### Layouts -/

/-- Two paths from one base are the same if they go on alike, also where the empty one is written as
    a slash, as long as the other one has more than a slash behind the base. -/
theorem Url.orSlash_append_eq_iff {base own rest : String} (hrest : 1 < rest.toList.length) :
    Url.orSlash (base ++ own) = base ++ rest ↔ own = rest := by
  by_cases hempty : base ++ own = ""
  · rw [Url.orSlash, if_pos hempty]
    obtain ⟨rfl, rfl⟩ := String.append_eq_empty_iff.mp hempty
    rw [String.empty_append]
    constructor
    · rintro rfl
      exact absurd hrest (by decide)
    · rintro rfl
      exact absurd hrest (by decide)
  · rw [Url.orSlash, if_neg hempty, String.append_right_inj]

/-- **The same routes are layouts at both mounts.** -/
theorem Pending.Moved.isLayout_eq {pending pending' : Pending}
    (h : Pending.Moved left right pending pending') {tokens : List Token} (htokens : Proper tokens)
    (hindex : Segment.name tokens ≠ "index") {route route' : Route}
    (hroute : Route.Moved left right route route') :
    pending.isLayout tokens route = pending'.isLayout tokens route' := by
  obtain ⟨rest, hpath, hpath'⟩ := h.path
  obtain ⟨own, hown, hown'⟩ := hroute.path
  have hlong : 1 < (rest ++ pattern tokens).toList.length := by
    have hbody : (body tokens).toList.length ≠ 0 := fun hzero =>
      htokens.body_ne_empty (String.toList_inj.mp (List.length_eq_zero_iff.mp hzero))
    have hslash : "/".toList.length = 1 := rfl
    rw [pattern_eq_append_body, String.toList_append, String.toList_append, List.length_append,
      List.length_append]
    omega
  rw [Bool.eq_iff_iff, Pending.isLayout_iff, Pending.isLayout_iff,
    h.tidy.layoutPath_eq htokens hindex, h.tidy'.layoutPath_eq htokens hindex,
    Pending.path_next hindex, Pending.path_next hindex, hpath, hpath', String.append_assoc,
    String.append_assoc, hown, hown', Url.orSlash_append_eq_iff hlong,
    Url.orSlash_append_eq_iff hlong, hroute.name, h.nextName_eq]

/-- Where no route of a level is a layout at one mount, none is at the other. -/
theorem Pending.Moved.not_isLayout {pending pending' : Pending}
    (h : Pending.Moved left right pending pending') {tokens : List Token} (htokens : Proper tokens)
    (hindex : Segment.name tokens ≠ "index") {level level' : Forest}
    (hlevel : List.Forall₂ (Route.Moved left right) level level')
    (hnone : ∀ route ∈ level, pending.isLayout tokens route = false) :
    ∀ route ∈ level', pending'.isLayout tokens route = false := by
  induction hlevel with
  | nil => exact fun _ hroute => (by cases hroute)
  | cons hfirst _ ih =>
    obtain ⟨hfirst_none, hrest_none⟩ := List.forall_mem_cons.mp hnone
    rw [h.isLayout_eq htokens hindex hfirst] at hfirst_none
    exact List.forall_mem_cons.mpr ⟨hfirst_none, ih hrest_none⟩

/-! ### Placing files -/

/-- A level that corresponds to one around a route is one around the corresponding route. -/
private theorem exists_split_of_forall₂ {α β : Type} {R : α → β → Prop} {before after : List α}
    {found : α} {level' : List β} (h : List.Forall₂ R (before ++ found :: after) level') :
    ∃ before' found' after', level' = before' ++ found' :: after' ∧
      List.Forall₂ R before before' ∧ R found found' ∧ List.Forall₂ R after after' := by
  induction before generalizing level' with
  | nil =>
    obtain ⟨found', after', hfound, hafter, rfl⟩ := List.forall₂_cons_left_iff.mp h
    exact ⟨[], found', after', rfl, .nil, hfound, hafter⟩
  | cons first before ih =>
    rw [List.cons_append] at h
    obtain ⟨first', rest', hfirst, hrest, rfl⟩ := List.forall₂_cons_left_iff.mp h
    obtain ⟨before', found', after', rfl, hbefore, hfound, hafter⟩ := ih hrest
    exact ⟨first' :: before', found', after', rfl, .cons hfirst hbefore, hfound, hafter⟩

/-- **Step.** A file takes the same way at both mounts. Above the first layout on it the levels
    correspond route by route; below that layout they are the same. -/
theorem Forest.Descent.moved {file : ScannedFile} {pending pending' : Pending}
    {lists : List (List Token)} {level level' after : Forest} {address : List Nat}
    (h : Forest.Descent file pending lists level address after) (hne : lists ≠ [])
    (hlists : NoIndexBefore lists) (hpending : Pending.Moved left right pending pending')
    (hlevel : List.Forall₂ (Route.Moved left right) level level') :
    ∃ after', Forest.Descent file pending' lists level' address after' ∧
      List.Forall₂ (Route.Moved left right) after after' := by
  induction h generalizing pending' level' with
  | settle => exact absurd rfl hne
  | @enter pending tokens rest before found after children address hrest hbefore hfound hbelow _ =>
    have htokens := hlists.1 tokens (by simp)
    have hindex := hlists.head hrest
    obtain ⟨before', found', after', rfl, hbefore', hmoved, hafter'⟩ :=
      exists_split_of_forall₂ hlevel
    have hfound' : pending'.isLayout tokens found' = true := by
      rw [← hpending.isLayout_eq htokens hindex hmoved]
      exact hfound
    rw [hpending.nested_eq, hmoved.children] at hbelow
    have hnone := hpending.not_isLayout htokens hindex hbefore' hbefore
    have hdescent : Forest.Descent file pending' (tokens :: rest) (before' ++ found' :: after') _ _ :=
      .enter hrest hnone hfound' hbelow
    rw [← hbefore'.length_eq] at hdescent
    refine ⟨_, hdescent, List.rel_append hbefore' (.cons ?_ hafter')⟩
    exact ⟨hmoved.name, hmoved.file, rfl, hmoved.path⟩
  | @pass pending tokens rest level after address hnone hlater ih =>
    by_cases hrest : rest = []
    · subst hrest
      cases hlater with
      | settle =>
        rw [hlevel.length_eq]
        exact ⟨_, .pass (.inl rfl) (.settle _ _),
          List.rel_append hlevel (.cons (hpending.leaf tokens file.absolute) .nil)⟩
    · have htokens := hlists.1 tokens (by simp)
      have hindex := hlists.head hrest
      obtain ⟨after', hdescent, hafter⟩ :=
        ih hrest hlists.tail (hpending.next htokens hindex) hlevel
      have hnone' := hpending.not_isLayout htokens hindex hlevel (hnone.resolve_left hrest)
      exact ⟨after', .pass (.inr hnone') hdescent, hafter⟩

/-- **Run.** A list of files has the same forest at both mounts. -/
theorem Forest.Built.moved (hleft : left.Tidy) (hright : right.Tidy)
    (hname : left.name = right.name) {files : List ScannedFile} {forest : Forest}
    {addresses : List (List Nat)} (h : Forest.Built left files forest addresses)
    (hfiles : ∀ file ∈ files,
      "" ∉ Path.segments file.relative ∧ Path.NoIndexFolder file.relative) :
    ∃ forest', Forest.Built right files forest' addresses ∧
      List.Forall₂ (Route.Moved left right) forest forest' := by
  induction h with
  | empty => exact ⟨[], .empty, .nil⟩
  | @concat files forest addresses file lists address after _ _ htokens hdescent ih =>
    obtain ⟨forest', hbuilt', hforest⟩ := ih fun other hmem =>
      hfiles other (List.mem_append_left _ hmem)
    obtain ⟨hempty, hfolder⟩ := hfiles file (by simp)
    have hlists : NoIndexBefore lists :=
      ⟨fun _ ht => Path.proper_of_mem_tokens htokens hempty ht,
        fun _ ht => hfolder.name_ne htokens ht⟩
    obtain ⟨after', hdescent', hafter⟩ := hdescent.moved (Path.tokens_ne_nil htokens) hlists
      (hleft.startMoved hright hname) hforest
    have hinsert := Forest.insert_eq_ok_iff.mpr ⟨lists, address, htokens, hdescent'⟩
    exact ⟨after', .concat hbuilt' hinsert htokens hdescent', hafter⟩

/-! ### Normalization -/

/-- On the top level, the registered forms of a route are the same but for the start of the path as
    well. -/
theorem Route.Moved.register {route route' : Route} (h : Route.Moved left right route route') :
    Route.Moved left right (route.register true) (route'.register true) where
  name := by rw [Route.name_register, Route.name_register, h.name, h.children]
  file := by rw [Route.file_register, Route.file_register, h.file]
  children := by rw [Route.children_register, Route.children_register, h.children]
  path := by
    rw [Route.path_register, Route.path_register, if_pos rfl, if_pos rfl]
    exact h.path

/-- A review does not look at the paths of the top level. -/
theorem Forest.review_eq_of_moved {level level' : Forest}
    (h : List.Forall₂ (Route.Moved left right) level level') (owners : Owners) :
    Forest.review owners level = Forest.review owners level' := by
  induction h generalizing owners with
  | nil => rfl
  | @cons route route' rest rest' hroute _ ih =>
    have hreview : route.review owners = route'.review owners := by
      obtain ⟨name, path, file, children⟩ := route
      obtain ⟨name', path', file', children'⟩ := route'
      obtain ⟨rfl, rfl, rfl, -⟩ := hroute
      rfl
    unfold Forest.review
    rw [hreview]
    dsimp only
    rw [ih]

/-! ### The routes of a list of files -/

/-- **An alias moves the top level only.** A list of files at a domain and at an alias of it fails
    with the same fault, or has the same problems and the same routes, at both: the same names,
    files and children, where the paths on the top level are the path of the mount with the same
    text behind it, or a slash if that is empty. -/
theorem Forest.compile_aliased {domain : String} (hend : domain.toList.getLast? ≠ some '/')
    (location : String) {files : List ScannedFile}
    (hfiles : ∀ file ∈ files,
      "" ∉ Path.segments file.relative ∧ Path.NoIndexFolder file.relative) :
    (∃ fault, Forest.compile files (.ofDomain domain) = .error fault ∧
        Forest.compile files (.aliased domain location) = .error fault) ∨
      ∃ plain aliased, Forest.compile files (.ofDomain domain) = .ok plain ∧
        Forest.compile files (.aliased domain location) = .ok aliased ∧
        plain.diagnostics = aliased.diagnostics ∧
        List.Forall₂ (Route.Moved (.ofDomain domain) (.aliased domain location))
          plain.routes aliased.routes := by
  unfold Forest.compile
  cases hresult : (Forest.build files (.ofDomain domain)).result with
  | error fault =>
    left
    have hfault := Forest.build_eq_error_iff.mp hresult
    rw [Forest.build_eq_error_iff.mpr hfault]
    exact ⟨fault, rfl, rfl⟩
  | ok forest =>
    right
    obtain ⟨addresses, hbuilt⟩ := Forest.built_of_build hresult
    obtain ⟨forest', hbuilt', hforest⟩ :=
      hbuilt.moved (.ofDomain hend) (.aliased domain location) rfl hfiles
    have hroutes : List.Forall₂ (Route.Moved (.ofDomain domain) (.aliased domain location))
        (Forest.register true forest) (Forest.register true forest') := by
      rw [Forest.register_eq_map, Forest.register_eq_map, List.forall₂_map_left_iff,
        List.forall₂_map_right_iff]
      exact hforest.imp fun _ _ hroute => hroute.register
    rw [hbuilt'.build]
    refine ⟨_, _, rfl, rfl, ?_, ?_⟩
    · rw [Forest.normalize_eq, Forest.normalize_eq, Forest.review_eq_of_moved hroutes]
      rfl
    · rw [Forest.routes_normalize, Forest.routes_normalize]
      exact hroutes

/-- The pages of a market: the page of a folder, the index of that folder, and the index of the
    market, where two pages have the same name. -/
def marketPages : List ScannedFile :=
  [⟨"index.vue", "/pages/index.vue", "Market"⟩, ⟨"stalls.vue", "/pages/stalls.vue", "Market"⟩,
    ⟨"stalls/index.vue", "/pages/stalls/index.vue", "Market"⟩,
    ⟨"stalls.ts", "/pages/stalls.ts", "Market"⟩]

/-- The market has the same routes at the root of a site as below its own name, up to the paths of
    the top level, and the same name taken twice. -/
theorem marketPages_at_root :
    "Market".toList.getLast? ≠ some '/' ∧
    (∀ file ∈ marketPages,
      "" ∉ Path.segments file.relative ∧ Path.NoIndexFolder file.relative) ∧
    Forest.compile marketPages (.ofDomain "Market") = .ok
      ⟨[⟨some "Market", "/Market", "/pages/index.vue", []⟩,
          ⟨none, "/Market/stalls", "/pages/stalls.vue",
            [⟨some "Market-stalls", "", "/pages/stalls/index.vue", []⟩]⟩,
          ⟨some "Market-stalls", "/Market/stalls", "/pages/stalls.ts", []⟩],
        [.pathless "/pages/stalls.vue",
          .duplicate ⟨"Market-stalls", "/pages/stalls/index.vue", "/pages/stalls.ts"⟩]⟩ ∧
    Forest.compile marketPages (.aliased "Market" "/") = .ok
      ⟨[⟨some "Market", "/", "/pages/index.vue", []⟩,
          ⟨none, "/stalls", "/pages/stalls.vue",
            [⟨some "Market-stalls", "", "/pages/stalls/index.vue", []⟩]⟩,
          ⟨some "Market-stalls", "/stalls", "/pages/stalls.ts", []⟩],
        [.pathless "/pages/stalls.vue",
          .duplicate ⟨"Market-stalls", "/pages/stalls/index.vue", "/pages/stalls.ts"⟩]⟩ ∧
    ((∃ fault, Forest.compile marketPages (.ofDomain "Market") = .error fault ∧
        Forest.compile marketPages (.aliased "Market" "/") = .error fault) ∨
      ∃ plain aliased, Forest.compile marketPages (.ofDomain "Market") = .ok plain ∧
        Forest.compile marketPages (.aliased "Market" "/") = .ok aliased ∧
        plain.diagnostics = aliased.diagnostics ∧
        List.Forall₂ (Route.Moved (.ofDomain "Market") (.aliased "Market" "/"))
          plain.routes aliased.routes) := by
  have hend : "Market".toList.getLast? ≠ some '/' := by decide
  have hfiles : ∀ file ∈ marketPages,
      "" ∉ Path.segments file.relative ∧ Path.NoIndexFolder file.relative := by decide +kernel
  exact ⟨hend, hfiles, by decide +kernel, by decide +kernel,
    Forest.compile_aliased hend "/" hfiles⟩

end FileRoutes
