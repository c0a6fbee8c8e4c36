import FileRoutes.Proofs.Handler
import FileRoutes.Proofs.Layout.Parameters
import FileRoutes.Proofs.Layout.Soundness

namespace FileRoutes

open Segment

/-!
# Layouts — pages and handlers of the same name

A page and a handler of the same relative path have the same URL, unless the path has an index that
is written with a parameter. The handler keeps that parameter, while the page loses it.

* `Path.indexIsLiteral_iff` — the paths without such an index, by their tokens;
* `Forest.handlerUrls_compile` — the statement about the routes compiled from a list of files;
* `index_parameter_lost` — the shortest such path.
-/

/-! ### Paths with a literal index only -/

/-- A path has no index but the literal one exactly if this is so for the tokens of its segments. -/
theorem Path.indexIsLiteral_iff {path : String} (hempty : "" ∉ Path.segments path)
    {lists : List (List Token)} (h : Path.tokens path = .ok lists) :
    Path.IndexIsLiteral path ↔ ∀ tokens ∈ lists, Segment.IndexIsLiteral tokens := by
  constructor
  · intro hpath tokens ht
    exact (hpath.allPlain h tokens ht).2
  · intro hlists segment hsegment
    refine ⟨fun heq => hempty (heq ▸ hsegment), fun hadded => ?_⟩
    obtain ⟨tokens, ht, htokens⟩ := Path.exists_tokens_of_mem_segments h hsegment
    rw [Segment.addedName?_of_tokenize htokens, Option.some.injEq] at hadded
    rw [hlists tokens ht hadded] at htokens
    exact Segment.eq_of_tokenize_literal htokens

/-- Where an index is the literal one and no folder has its text, no folder is an index. -/
theorem Path.IndexIsLiteral.noIndexFolder {path : String} (h : Path.IndexIsLiteral path)
    (hfolders : "index" ∉ (Path.segments path).dropLast) : Path.NoIndexFolder path := by
  intro segment hsegment hadded
  rw [(h segment (List.dropLast_subset _ hsegment)).2 hadded] at hsegment
  exact hfolders hsegment

/-! ### The URLs of a list of files -/

/-- The patterns of segments in a row have the colons of all of them. -/
theorem colons_join_patterns (lists : List (List Token)) :
    Url.colons (String.join (lists.map pattern)) = patternColons lists := by
  induction lists with
  | nil => rfl
  | cons tokens lists ih =>
    rw [List.map_cons, String.join_cons, Url.colons_append, ih]
    rfl

/-- **Pages and handlers agree on URLs** exactly where an index is the literal one. Where it is not,
    the handler has more colons in its URL than the page, which does not have the parameter. -/
theorem Forest.handlerUrls_compile {domain : String} (hstart : domain.toList.head? ≠ some '/')
    (hend : domain.toList.getLast? ≠ some '/') {files : List ScannedFile}
    (hfiles : ∀ file ∈ files, '\\' ∉ file.relative.toList ∧ "" ∉ Path.segments file.relative ∧
      "index" ∉ (Path.segments file.relative).dropLast)
    {compiled : Normalized} (h : Forest.compile files (.ofDomain domain) = .ok compiled) {i : Nat}
    {file : ScannedFile} (hfile : files[i]? = some file) :
    ∃ address url, Forest.Places (.ofDomain domain) files i address ∧
      Forest.urlAt? none compiled.routes address = some url ∧
      (Handler.route file.relative domain .route = .ok url ↔
        Path.IndexIsLiteral file.relative) := by
  obtain ⟨forest, addresses, hbuilt, hroutes⟩ := Forest.built_of_compile h
  obtain ⟨hbackslash, hempty, hfolders⟩ := hfiles file (List.mem_of_getElem? hfile)
  have hmount : (Mount.ofDomain domain).Tidy := .ofDomain hend
  obtain ⟨address, haddress⟩ := hbuilt.exists_address hfile
  obtain ⟨lists, htokens, hstands⟩ := hbuilt.stands hfile haddress
  have hproper : ∀ tokens ∈ lists, Proper tokens := fun _ ht =>
    Path.proper_of_mem_tokens htokens hempty ht
  have hall : Forest.AllStand Proper (.start (.ofDomain domain)) forest :=
    hbuilt.allStand fun other hother _ hlists _ ht =>
      Path.proper_of_mem_tokens hlists (hfiles other hother).2.1 ht
  obtain ⟨url, hurl, hcount⟩ := hstands.colons_url hall hmount.made.rooted hproper none
  have hcolons : Url.colons url
      = Url.colons (Mount.ofDomain domain).path + gatheredColons lists := by
    rw [hcount]
    show 0 + Url.colons (Mount.ofDomain domain).path + _ = _
    rw [Nat.zero_add]
  have hhandler : Handler.route file.relative domain .route
      = .ok (Handler.folder ((Mount.ofDomain domain).path ++ String.join (lists.map pattern))) := by
    rw [Handler.route_eq_ok hbackslash htokens, Handler.base_route hstart hend]
  rw [hroutes, hhandler, Path.indexIsLiteral_iff hempty htokens]
  refine ⟨address, url, hbuilt.places_iff.mpr haddress, hurl, ?_⟩
  constructor
  · -- where both are the same, no colon of the handler is missing
    intro hsame
    have hsame_colons := congrArg Url.colons (Except.ok.inj hsame)
    rw [Handler.colons_folder, Url.colons_append, colons_join_patterns, hcolons] at hsame_colons
    have hgathered : gatheredColons lists = patternColons lists := by omega
    exact fun tokens ht => indexIsLiteral_of_gatheredColons hproper hgathered ht
  · intro hliteral
    have hpath := (Path.indexIsLiteral_iff hempty htokens).mpr hliteral
    have hlists : NoIndexBefore lists :=
      ⟨hproper, fun _ ht => (hpath.noIndexFolder hfolders).name_ne htokens ht⟩
    have hne := Path.tokens_ne_nil htokens
    have hpage := hstands.url hne hlists hmount.start (nofun : (none : Option String) ≠ some "")
    have hurl_eq := Option.some.inj (hurl.symm.trans hpage)
    rw [Url.above, Option.getD_none, String.empty_append] at hurl_eq
    rw [Handler.folder_append_patterns _ hne fun t ht => ⟨hproper t ht, hliteral t ht⟩, hurl_eq]
    rfl

/-- The pages of an account: the page of its folder, the index of the folder, and a page in a
    folder of its own. -/
def accountPages : List ScannedFile :=
  [⟨"account.vue", "/pages/account.vue", "Hello"⟩,
    ⟨"account/index.vue", "/pages/account/index.vue", "Hello"⟩,
    ⟨"account/[id]/edit.vue", "/pages/account/[id]/edit.vue", "Hello"⟩]

/-- The last of these pages has the URL that a handler of its name has. -/
theorem accountPages_handler :
    ∃ compiled address url, Forest.compile accountPages (.ofDomain "Hello") = .ok compiled ∧
      address = [0, 1] ∧ url = "/Hello/account/:id()/edit" ∧
      Handler.route "account/[id]/edit.vue" "Hello" .route = .ok url ∧
      Forest.Places (.ofDomain "Hello") accountPages 2 address ∧
      Forest.urlAt? none compiled.routes address = some url ∧
      (Handler.route "account/[id]/edit.vue" "Hello" .route = .ok url ↔
        Path.IndexIsLiteral "account/[id]/edit.vue") := by
  have hfiles : ∀ file ∈ accountPages, '\\' ∉ file.relative.toList ∧
      "" ∉ Path.segments file.relative ∧
      "index" ∉ (Path.segments file.relative).dropLast := by decide +kernel
  have hcompiled : Forest.compile accountPages (.ofDomain "Hello") = .ok
      ⟨[⟨none, "/Hello/account", "/pages/account.vue",
          [⟨some "Hello-account", "", "/pages/account/index.vue", []⟩,
            ⟨some "Hello-account-id-edit", ":id()/edit", "/pages/account/[id]/edit.vue", []⟩]⟩],
        [.pathless "/pages/account.vue"]⟩ := by
    decide +kernel
  have hfile : accountPages[2]?
      = some ⟨"account/[id]/edit.vue", "/pages/account/[id]/edit.vue", "Hello"⟩ := rfl
  obtain ⟨address, url, hplaces, hurl, hiff⟩ :=
    Forest.handlerUrls_compile (by decide) (by decide) hfiles hcompiled hfile
  -- a file has one place, and the route in it one URL
  have hown : Forest.Places (.ofDomain "Hello") accountPages 2 [0, 1] :=
    ⟨[⟨some "Hello/account", "/Hello/account", "/pages/account.vue",
        [⟨some "Hello/account/index", "/", "/pages/account/index.vue", []⟩]⟩],
      [⟨some "Hello/account", "/Hello/account", "/pages/account.vue",
        [⟨some "Hello/account/index", "/", "/pages/account/index.vue", []⟩,
          ⟨some "Hello/account/id/edit", "/:id()/edit", "/pages/account/[id]/edit.vue", []⟩]⟩],
      by decide +kernel, by decide +kernel, rfl, rfl⟩
  obtain ⟨_, addresses, hbuilt, -⟩ := Forest.built_of_compile hcompiled
  have haddress : address = [0, 1] :=
    Option.some.inj ((hbuilt.places_iff.mp hplaces).symm.trans (hbuilt.places_iff.mp hown))
  subst haddress
  cases hurl
  have hhandler : Handler.route "account/[id]/edit.vue" "Hello" .route
      = .ok "/Hello/account/:id()/edit" := by decide +kernel
  exact ⟨_, _, _, hcompiled, rfl, by decide +kernel, hhandler, hplaces, rfl, hiff⟩

/-- A page whose name is a parameter called `index`. -/
def indexParameterPages : List ScannedFile :=
  [⟨"[index].vue", "/pages/[index].vue", "Hello"⟩]

/-- The page of a parameter called `index` loses the parameter, while the handler of that name
    keeps it. -/
theorem index_parameter_lost :
    (∀ file ∈ indexParameterPages, '\\' ∉ file.relative.toList ∧
      "" ∉ Path.segments file.relative ∧ "index" ∉ (Path.segments file.relative).dropLast) ∧
    Forest.Places (.ofDomain "Hello") indexParameterPages 0 [0] ∧
    ∃ compiled, Forest.compile indexParameterPages (.ofDomain "Hello") = .ok compiled ∧
      Forest.urlAt? none compiled.routes [0] = some "/Hello" ∧
      Handler.route "[index].vue" "Hello" .route = .ok "/Hello/:index()" := by
  have hfiles : ∀ file ∈ indexParameterPages, '\\' ∉ file.relative.toList ∧
      "" ∉ Path.segments file.relative ∧
      "index" ∉ (Path.segments file.relative).dropLast := by decide +kernel
  have hbuilt : (Forest.build indexParameterPages (.ofDomain "Hello")).result = .ok
      [⟨some "Hello/index", "/Hello", "/pages/[index].vue", []⟩] := by
    decide +kernel
  have hcompiled : Forest.compile indexParameterPages (.ofDomain "Hello") = .ok
      ⟨[⟨some "Hello", "/Hello", "/pages/[index].vue", []⟩], []⟩ := by
    decide +kernel
  have hhandler : Handler.route "[index].vue" "Hello" .route = .ok "/Hello/:index()" := by
    decide +kernel
  exact ⟨hfiles, ⟨[], _, rfl, hbuilt, rfl, rfl⟩, _, hcompiled, rfl, hhandler⟩

end FileRoutes
