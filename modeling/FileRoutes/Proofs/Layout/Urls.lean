import FileRoutes.Proofs.Layout.Built
import FileRoutes.Proofs.Layout.Match
import FileRoutes.Proofs.Mount

namespace FileRoutes

open Segment

/-!
# Layouts — nesting keeps the URLs of pages

The URL of a page is made from the paths of all routes on the way to it. It is the URL that its
own segments give, whatever layouts it is nested in.

* `Forest.urls` — the files of a registered forest with their URLs;
* `ScannedFile.url` — the URL that the segments of a file give;
* `Forest.Descent.urls` — placing a file adds this one URL and keeps the others;
* `Forest.urls_compile` — the statement about the routes compiled from a list of files.
-/

/-! ### The URLs of a forest -/

/-- The URL of a route with the given path below a route with a URL, or on the top level. -/
def Url.ofRoute (parent : Option String) (path : String) : String :=
  match parent with
  | none => path
  | some url => if path = "" then url else url ++ "/" ++ path

mutual

/-- The files in the tree of a route with their URLs, below a route with the URL `parent`. -/
def Route.urls (parent : Option String) : Route → List (String × String)
  | ⟨_, path, file, children⟩ =>
    (file, Url.ofRoute parent path) :: Forest.urls (some (Url.ofRoute parent path)) children

/-- The files of a registered forest with their URLs, below a route with the URL `parent`. -/
def Forest.urls (parent : Option String) : Forest → List (String × String)
  | [] => []
  | route :: rest => route.urls parent ++ Forest.urls parent rest

end

/-- Unfolding lemma: the URLs of a forest are those of its routes. -/
theorem Forest.urls_cons (parent : Option String) (route : Route) (rest : Forest) :
    Forest.urls parent (route :: rest) = route.urls parent ++ Forest.urls parent rest := rfl

/-- The URLs of two forests side by side. -/
theorem Forest.urls_append (parent : Option String) (left right : Forest) :
    Forest.urls parent (left ++ right) = Forest.urls parent left ++ Forest.urls parent right := by
  induction left with
  | nil => rfl
  | cons route rest ih =>
    rw [List.cons_append, Forest.urls_cons, ih, Forest.urls_cons, List.append_assoc]

/-- The URLs of a forest before it is registered: what they are once it is. -/
def Forest.registeredUrls (parent : Option String) (level : Forest) : List (String × String) :=
  Forest.urls parent (Forest.register parent.isNone level)

/-- The URLs of two levels side by side. -/
theorem Forest.registeredUrls_append (parent : Option String) (left right : Forest) :
    Forest.registeredUrls parent (left ++ right)
      = Forest.registeredUrls parent left ++ Forest.registeredUrls parent right := by
  unfold Forest.registeredUrls
  rw [Forest.register_eq_map, List.map_append, Forest.urls_append, ← Forest.register_eq_map,
    ← Forest.register_eq_map]

/-- The URL that a route has once it is registered. -/
def Route.registeredUrl (parent : Option String) (route : Route) : String :=
  Url.ofRoute parent (if parent.isNone then route.path else Route.relativePath route.path)

/-- The URLs of a level are those of its first route, of the routes below it, and of the rest. -/
theorem Forest.registeredUrls_cons (parent : Option String) (route : Route) (rest : Forest) :
    Forest.registeredUrls parent (route :: rest)
      = (route.file, route.registeredUrl parent) ::
        Forest.registeredUrls (some (route.registeredUrl parent)) route.children
          ++ Forest.registeredUrls parent rest := by
  obtain ⟨name, path, file, children⟩ := route
  rfl

/-! ### The URL of a file -/

/-- The segments that a URL is made from: all but a final index. -/
def withoutFinalIndex (lists : List (List Token)) : List (List Token) :=
  if lists.getLast?.map Segment.name = some "index" then lists.dropLast else lists

/-- The patterns of the segments that a URL is made from. -/
def urlPatterns (lists : List (List Token)) : String :=
  String.join ((withoutFinalIndex lists).map pattern)

/-- The URL that is written as a slash if it is empty. -/
def Url.orSlash (url : String) : String := if url = "" then "/" else url

/-- The URL that a file has below a mount by its own segments, or why it has none. -/
def ScannedFile.url (mount : Mount) (file : ScannedFile) : Except Malformed String :=
  (Path.tokens file.relative).map fun lists => Url.orSlash (mount.path ++ urlPatterns lists)

/-- Unfolding lemma: a segment before the last one adds its pattern. -/
theorem urlPatterns_cons {tokens : List Token} {rest : List (List Token)} (h : rest ≠ []) :
    urlPatterns (tokens :: rest) = pattern tokens ++ urlPatterns rest := by
  have hlast : (tokens :: rest).getLast? = rest.getLast? := by
    obtain ⟨next, later, rfl⟩ := List.exists_cons_of_ne_nil h
    exact List.getLast?_cons_cons
  unfold urlPatterns withoutFinalIndex
  rw [hlast]
  by_cases hindex : rest.getLast?.map Segment.name = some "index"
  · rw [if_pos hindex, if_pos hindex, List.dropLast_cons_of_ne_nil h, List.map_cons]
    apply String.toList_inj.mp
    simp
  · rw [if_neg hindex, if_neg hindex, List.map_cons]
    apply String.toList_inj.mp
    simp

/-- Segments before others add their patterns. -/
theorem urlPatterns_append (front : List (List Token)) {rest : List (List Token)} (h : rest ≠ []) :
    urlPatterns (front ++ rest) = String.join (front.map pattern) ++ urlPatterns rest := by
  induction front with
  | nil => rfl
  | cons tokens front ih =>
    rw [List.cons_append, urlPatterns_cons (List.append_ne_nil_of_right_ne_nil front h), ih,
      List.map_cons, String.join_cons, String.append_assoc]

/-- Unfolding lemma: a final index adds nothing. -/
theorem urlPatterns_index {tokens : List Token} (h : Segment.name tokens = "index") :
    urlPatterns [tokens] = "" := by
  simp [urlPatterns, withoutFinalIndex, h]

/-- Unfolding lemma: any other last segment adds its pattern. -/
theorem urlPatterns_singleton {tokens : List Token} (h : Segment.name tokens ≠ "index") :
    urlPatterns [tokens] = pattern tokens := by
  apply String.toList_inj.mp
  simp [urlPatterns, withoutFinalIndex, h]

/-! ### Placing a file -/

/-- The URL above a level: nothing above the top level. -/
def Url.above (parent : Option String) : String := parent.getD ""

/-- The URL of a route goes on from the URL above with the path, if this is tidy. -/
theorem Url.ofRoute_tidy {parent : Option String} {pending : Pending} (h : pending.Tidy)
    (hne : pending.path ≠ "") :
    Url.ofRoute parent (if parent.isNone then pending.path else Route.relativePath pending.path)
      = Url.above parent ++ pending.path := by
  cases parent with
  | none => simp [Url.ofRoute, Url.above]
  | some url =>
    have hhead := h.rooted.resolve_left hne
    obtain ⟨rest, hpath⟩ := List.head?_eq_some_iff.mp hhead
    have hrest : rest ≠ [] := by
      rintro rfl
      exact h.noTrailingSlash (by rw [hpath]; rfl)
    have hrelative : Route.relativePath pending.path = String.ofList rest := by
      simp [Route.relativePath, hpath]
    have hrelative_ne : String.ofList rest ≠ "" := by
      intro heq
      rw [← String.toList_inj, String.toList_ofList] at heq
      exact hrest heq
    show Url.ofRoute (some url) (Route.relativePath pending.path) = url ++ pending.path
    rw [hrelative, Url.ofRoute, if_neg hrelative_ne]
    apply String.toList_inj.mp
    simp [hpath]

/-- The URL of a route whose path is a lone slash is the one above, or a slash if that is empty. -/
theorem Url.ofRoute_slash {parent : Option String} (hparent : parent ≠ some "") :
    Url.ofRoute parent (if parent.isNone then "/" else Route.relativePath "/")
      = Url.orSlash (Url.above parent) := by
  have hrelative : Route.relativePath "/" = "" := by decide +kernel
  cases parent with
  | none => simp [Url.ofRoute, Url.orSlash, Url.above]
  | some url =>
    have hurl : url ≠ "" := fun heq => hparent (by rw [heq])
    simp [Url.ofRoute, Url.orSlash, Url.above, hurl, hrelative]

/-- A URL that goes on with something is not empty. -/
theorem Url.orSlash_append {base path : String} (h : path ≠ "") :
    Url.orSlash (base ++ path) = base ++ path := by
  have hne : base ++ path ≠ "" := by
    intro heq
    rw [← String.toList_inj, String.toList_append] at heq
    exact h (String.toList_inj.mp (List.append_eq_nil_iff.mp heq).2)
  rw [Url.orSlash, if_neg hne]

/-- The segments of a file whose folders are no index. -/
def NoIndexBefore (lists : List (List Token)) : Prop :=
  (∀ tokens ∈ lists, Proper tokens) ∧
    ∀ tokens ∈ lists.dropLast, Segment.name tokens ≠ "index"

/-- What is asked of all segments is asked of all but the first. -/
theorem NoIndexBefore.tail {tokens : List Token} {rest : List (List Token)}
    (h : NoIndexBefore (tokens :: rest)) : NoIndexBefore rest := by
  refine ⟨fun t ht => h.1 t (List.mem_cons_of_mem _ ht), fun t ht => h.2 t ?_⟩
  cases rest with
  | nil => cases ht
  | cons next later =>
    rw [List.dropLast_cons_cons]
    exact List.mem_cons_of_mem _ ht

/-- What is asked of all segments is asked of the last of them. -/
theorem NoIndexBefore.right {front rest : List (List Token)} (h : NoIndexBefore (front ++ rest)) :
    NoIndexBefore rest := by
  induction front with
  | nil => exact h
  | cons tokens front ih => exact ih h.tail

/-- A segment before another one is no index. -/
theorem NoIndexBefore.head {tokens : List Token} {rest : List (List Token)}
    (h : NoIndexBefore (tokens :: rest)) (hrest : rest ≠ []) :
    Segment.name tokens ≠ "index" := by
  apply h.2
  rw [List.dropLast_cons_of_ne_nil hrest]
  exact List.mem_cons_self

/-- The URL of a layout that a segment leads to goes on with the pattern of the segment. -/
theorem Pending.Tidy.registeredUrl_layout {pending : Pending} (h : pending.Tidy)
    {tokens : List Token} (htokens : Proper tokens) (hindex : Segment.name tokens ≠ "index")
    {route : Route} (hlayout : pending.isLayout tokens route = true) (parent : Option String) :
    route.registeredUrl parent = Url.above parent ++ pending.path ++ pattern tokens := by
  have hpath : route.path = (pending.next tokens).path :=
    (Pending.isLayout_iff.mp hlayout).2.trans (h.layoutPath_eq htokens hindex)
  rw [Route.registeredUrl, hpath, Url.ofRoute_tidy (h.next htokens hindex)
    (pending.path_next_ne_empty tokens), Pending.path_next hindex, String.append_assoc]

/-- The URL of a page that settles after its last segment. -/
theorem Url.ofRoute_last {parent : Option String} (hparent : parent ≠ some "")
    {pending : Pending} (htidy : pending.Tidy) {tokens : List Token} (htokens : Proper tokens) :
    Url.ofRoute parent (if parent.isNone then (pending.next tokens).path
        else Route.relativePath (pending.next tokens).path)
      = Url.orSlash (Url.above parent ++ pending.path ++ urlPatterns [tokens]) := by
  by_cases hindex : Segment.name tokens = "index"
  · rw [urlPatterns_index hindex, String.append_empty]
    by_cases hempty : pending.path = ""
    · rw [Pending.path_next_index_of_empty hindex hempty, Url.ofRoute_slash hparent, hempty,
        String.append_empty]
    · rw [Pending.path_next_index hindex hempty, Url.ofRoute_tidy htidy hempty,
        Url.orSlash_append hempty]
  · have hnext := htidy.next htokens hindex
    have hpattern : pattern tokens ≠ "" := by
      intro heq
      rw [← String.toList_inj] at heq
      simp at heq
    rw [Url.ofRoute_tidy hnext (pending.path_next_ne_empty tokens), Pending.path_next hindex,
      urlPatterns_singleton hindex, Url.orSlash_append hpattern, String.append_assoc]

/-- An entry that was added behind the first one of a part may as well stand in front of all. -/
private theorem perm_new_first {α : Type} (front : List α) (first new : α) (part back : List α) :
    (front ++ (first :: new :: part ++ back)).Perm
      (new :: (front ++ (first :: part ++ back))) := by
  have hmiddle : ((front ++ [first]) ++ new :: (part ++ back)).Perm
      (new :: ((front ++ [first]) ++ (part ++ back))) := List.perm_middle
  simpa using hmiddle

/-- **Step.** Placing a file adds its own URL to those of a level, and keeps the others. -/
theorem Forest.Descent.urls {file : ScannedFile} {pending : Pending}
    {lists : List (List Token)} {level level' : Forest} {address : List Nat}
    (h : Forest.Descent file pending lists level address level') (hne : lists ≠ [])
    (hlists : NoIndexBefore lists) (htidy : pending.Tidy) {parent : Option String}
    (hparent : parent ≠ some "") :
    (Forest.registeredUrls parent level').Perm
      ((file.absolute, Url.orSlash (Url.above parent ++ pending.path ++ urlPatterns lists)) ::
        Forest.registeredUrls parent level) := by
  induction h generalizing parent with
  | settle => exact absurd rfl hne
  | @enter pending tokens rest before found after children address hrest hbefore hfound hbelow ih =>
    have htokens := hlists.1 tokens (by simp)
    have hindex := hlists.head hrest
    -- the layout has the URL that the segments up to it give
    have hurl := htidy.registeredUrl_layout htokens hindex hfound parent
    have hurl_ne : some (found.registeredUrl parent) ≠ some "" := by
      intro heq
      rw [hurl, Option.some.injEq, ← String.toList_inj] at heq
      simp at heq
    have hchildren := ih hrest hlists.tail (.nested pending tokens) hurl_ne
    have hsame : Url.above (some (found.registeredUrl parent)) ++ (pending.nested tokens).path
          ++ urlPatterns rest
        = Url.above parent ++ pending.path ++ urlPatterns (tokens :: rest) := by
      rw [urlPatterns_cons hrest, ← String.append_assoc, ← hurl]
      apply String.toList_inj.mp
      simp [Pending.nested, Url.above]
    rw [hsame] at hchildren
    rw [Forest.registeredUrls_append, Forest.registeredUrls_append, Forest.registeredUrls_cons,
      Forest.registeredUrls_cons]
    have hlevel := List.Perm.append_left (Forest.registeredUrls parent before)
      ((hchildren.cons (found.file, found.registeredUrl parent)).append_right
        (Forest.registeredUrls parent after))
    exact hlevel.trans (perm_new_first _ _ _ _ _)
  | @pass pending tokens rest level level' address hlevel hlater ih =>
    by_cases hrest : rest = []
    · -- the leaf is the last route of its level, and its URL is that of all segments
      subst hrest
      cases hlater with
      | settle =>
        have hleaf : Forest.registeredUrls parent
            [.leaf (pending.next tokens).name (pending.next tokens).path file.absolute]
            = [(file.absolute, Url.orSlash
                (Url.above parent ++ pending.path ++ urlPatterns [tokens]))] := by
          rw [← Url.ofRoute_last hparent htidy (hlists.1 tokens (by simp)),
            Forest.registeredUrls_cons]
          rfl
        rw [Forest.registeredUrls_append, hleaf]
        exact List.perm_append_singleton _ _
    · have htokens := hlists.1 tokens (by simp)
      have hindex := hlists.head hrest
      have hlater_urls := ih hrest hlists.tail (htidy.next htokens hindex) hparent
      rw [Pending.path_next hindex, ← String.append_assoc, String.append_assoc,
        ← urlPatterns_cons hrest] at hlater_urls
      exact hlater_urls

/-- **Run.** A forest that was built from files has their URLs. -/
theorem Forest.Built.urls {mount : Mount} (hmount : mount.Tidy) {files : List ScannedFile}
    {forest : Forest} {addresses : List (List Nat)}
    (h : Forest.Built mount files forest addresses)
    (hfiles : ∀ file ∈ files,
      "" ∉ Path.segments file.relative ∧ Path.NoIndexFolder file.relative) :
    ((Forest.registeredUrls none forest).map fun (file, url) => (file, Except.ok url)).Perm
      (files.map fun file => (file.absolute, file.url mount)) := by
  induction h with
  | empty => rfl
  | @concat files forest addresses file lists address forest' _ _ htokens hdescent ih =>
    obtain ⟨hempty, hfolder⟩ := hfiles file (by simp)
    have hlists : NoIndexBefore lists :=
      ⟨fun _ ht => Path.proper_of_mem_tokens htokens hempty ht,
        fun _ ht => hfolder.name_ne htokens ht⟩
    have hnone : (none : Option String) ≠ some "" := nofun
    have hstep := hdescent.urls (Path.tokens_ne_nil htokens) hlists hmount.start hnone
    have hown : file.url mount
        = .ok (Url.orSlash (Url.above none ++ mount.path ++ urlPatterns lists)) := by
      rw [ScannedFile.url, htokens]
      simp [Except.map, Url.above]
    have hfiles_urls := ih fun other hmem => hfiles other (List.mem_append_left _ hmem)
    rw [List.map_append, List.map_singleton, hown]
    exact ((hstep.map _).trans (hfiles_urls.cons _)).trans
      (List.perm_append_singleton _ _).symm

/-- **Nesting keeps URLs.** The routes compiled from a list of files have, file by file, the URLs
    that the segments of these files give: whatever layouts there are, and however deep a page
    is nested in them. -/
theorem Forest.urls_compile {mount : Mount} (hmount : mount.Tidy) {files : List ScannedFile}
    (hfiles : ∀ file ∈ files,
      "" ∉ Path.segments file.relative ∧ Path.NoIndexFolder file.relative)
    {compiled : Normalized} (h : Forest.compile files mount = .ok compiled) :
    ((Forest.urls none compiled.routes).map fun (file, url) => (file, Except.ok url)).Perm
      (files.map fun file => (file.absolute, file.url mount)) := by
  obtain ⟨forest, addresses, hbuilt, hroutes⟩ := Forest.built_of_compile h
  rw [hroutes]
  exact hbuilt.urls hmount hfiles

/-- The pages of a mall at the root of a site: the page of its folder stands before the pages in it,
    one of which is the index of the folder. -/
def mallPages : List ScannedFile :=
  [⟨"index.vue", "/pages/index.vue", ""⟩, ⟨"mall.vue", "/pages/mall.vue", ""⟩,
    ⟨"mall/index.vue", "/pages/mall/index.vue", ""⟩,
    ⟨"mall/[id]/buy.vue", "/pages/mall/[id]/buy.vue", ""⟩]

/-- The routes of the mall have the URLs of its files. -/
theorem mall_urls :
    ∃ compiled, Forest.compile mallPages (.ofDomain "") = .ok compiled ∧
      ((Forest.urls none compiled.routes).map fun (file, url) => (file, Except.ok url)).Perm
        (mallPages.map fun file => (file.absolute, file.url (.ofDomain ""))) := by
  have hmount : (Mount.ofDomain "").Tidy := .ofDomain (by decide +kernel)
  have hfiles : ∀ file ∈ mallPages,
      "" ∉ Path.segments file.relative ∧ Path.NoIndexFolder file.relative := by decide +kernel
  have hcompiled : Forest.compile mallPages (.ofDomain "") = .ok
      ⟨[⟨some "index", "/", "/pages/index.vue", []⟩,
        ⟨none, "/mall", "/pages/mall.vue",
          [⟨some "mall", "", "/pages/mall/index.vue", []⟩,
            ⟨some "mall-id-buy", ":id()/buy", "/pages/mall/[id]/buy.vue", []⟩]⟩],
        [.pathless "/pages/mall.vue"]⟩ := by
    decide +kernel
  exact ⟨_, hcompiled, Forest.urls_compile hmount hfiles hcompiled⟩

end FileRoutes
