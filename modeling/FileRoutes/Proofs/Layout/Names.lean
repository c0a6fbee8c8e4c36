import FileRoutes.Proofs.Layout.FlatNames
import FileRoutes.Proofs.Layout.Slashes
import FileRoutes.Proofs.Layout.Urls

namespace FileRoutes

open Segment

/-!
# Layouts — no name of a page is lost

The name of a page is told by its own segments. A page with an index in its folder does not keep
its name, but the index has it instead, and keeps it, since nothing is nested in an index.

* `ScannedFile.routeName` — the name that the segments of a file give;
* `Pending.eq_index_of_pathless` — below another page, only an index is shown at its path;
* `Forest.Built.flatName_of_child` — a page with a child has no final index in its name;
* `Forest.Built.handover` — an index below a page has the name of that page;
* `Forest.names_compile` — the statement about the routes compiled from a list of files.
-/

/-! ### The name of a file -/

/-- The name that a file has below a mount by its own segments, or why it has none: the flat form of
    the names of the mount and of its segments, with slashes between them. -/
def ScannedFile.routeName (mount : Mount) (file : ScannedFile) : Except Malformed String :=
  (Path.tokens file.relative).map fun lists =>
    Route.flatName (String.intercalate "/"
      ((if mount.name = "" then [] else [mount.name]) ++ lists.map Segment.name))

/-- Segments are gathered into a name with slashes between them. -/
theorem Pending.name_walk (pending : Pending) {lists : List (List Token)}
    (h : ∀ tokens ∈ lists, Proper tokens) :
    (pending.walk lists).name = String.intercalate "/"
      ((if pending.name = "" then [] else [pending.name]) ++ lists.map Segment.name) := by
  induction lists generalizing pending with
  | nil =>
    by_cases hempty : pending.name = ""
    · simp [hempty]
    · simp [hempty]
  | cons tokens lists ih =>
    rw [Pending.walk_cons, ih _ fun t ht => h t (List.mem_cons_of_mem _ ht),
      if_neg (pending.name_next_ne_empty (h tokens (by simp)))]
    by_cases hempty : pending.name = ""
    · have hname : (pending.next tokens).name = Segment.name tokens := if_pos hempty
      rw [hname, if_pos hempty]
      rfl
    · rw [Pending.name_next_of_ne hempty, if_neg hempty, String.append_assoc,
        List.singleton_append, String.intercalate_cons_append, List.map_cons,
        List.singleton_append, String.intercalate_cons_cons, String.intercalate_cons_append,
        String.append_assoc]

/-! ### Pages without a path -/

/-- **Below another page, only an index is shown at its path.** -/
theorem Pending.eq_index_of_pathless {pending : Pending} (hempty : pending.path = "")
    {own : List (List Token)} (hown : own ≠ []) (hlists : NoIndexBefore own)
    (h : Route.relativePath (pending.walk own).path = "") :
    ∃ tokens, own = [tokens] ∧ Segment.name tokens = "index" := by
  obtain ⟨first, rest, rfl⟩ := List.exists_cons_of_ne_nil hown
  by_cases hindex : Segment.name first = "index"
  · have hrest : rest = [] := by
      by_contra hrest
      exact hlists.head hrest hindex
    exact ⟨first, by rw [hrest], hindex⟩
  · -- the path has a character behind its slash, which is left when that is cut off
    exfalso
    have hfirst := (Pending.clean_of_empty hempty).next (hlists.1 first (by simp)) hindex
    have hclean := hfirst.walk (pending.path_next_ne_empty first) fun t ht =>
      hlists.1 t (List.mem_cons_of_mem _ ht)
    obtain ⟨c, text, -, hpath⟩ :=
      hclean.path_eq (Pending.path_walk_ne_empty (pending.path_next_ne_empty first) rest)
    rw [Pending.walk_cons, ← String.toList_inj] at h
    simp [Route.relativePath, hpath] at h

/-! ### Names that are handed over -/

namespace Forest.Built

variable {mount : Mount} {files : List ScannedFile} {forest : Forest}
  {addresses : List (List Nat)}

/-- **A page with a child has no final index in its name,** where no folder is an index. -/
theorem flatName_of_child (h : Built mount files forest addresses)
    (hfiles : ∀ file ∈ files,
      "" ∉ Path.segments file.relative ∧ Path.NoIndexFolder file.relative)
    {address : List Nat} {route child : Route} {name : String}
    (hroute : Forest.at? forest address = some route) (hname : route.name = some name)
    (hchild : child ∈ Forest.register false route.children) :
    name ≠ "" ∧ Route.flatName name = Route.hyphenated name := by
  obtain ⟨place, hplace⟩ := List.mem_iff_getElem?.mp hchild
  rw [← Forest.at?_singleton] at hplace
  obtain ⟨file, hfile, passed, own, below, htokens, hpassed, hown, hraw, -⟩ :=
    h.split hroute hplace
  obtain ⟨hempty, hfolder⟩ := hfiles file hfile
  have hproper : ∀ tokens ∈ passed, Proper tokens := fun t ht =>
    Path.proper_of_mem_tokens htokens hempty (List.mem_append_left _ ht)
  cases hname.symm.trans hraw
  refine ⟨(Pending.start mount).name_walk_ne_empty hpassed hproper, ?_⟩
  -- the last segment of the page is a folder of the child
  obtain rfl | ⟨front, last, rfl⟩ := List.eq_nil_or_concat' passed
  · exact absurd rfl hpassed
  have hlast : last ∈ ((front ++ [last]) ++ own).dropLast := by
    rw [List.dropLast_append_of_ne_nil hown]
    simp
  rw [Pending.walk_append]
  exact Pending.flatName_next (hproper last (by simp)) (hfolder.name_ne htokens hlast)

/-- **An index below a page has the name of that page.** -/
theorem handover (h : Built mount files forest addresses)
    (hfiles : ∀ file ∈ files,
      "" ∉ Path.segments file.relative ∧ Path.NoIndexFolder file.relative)
    {address : List Nat} {route child : Route} {name : String}
    (hroute : Forest.at? forest address = some route) (hname : route.name = some name)
    (hchild : child ∈ Forest.register false route.children) (hpath : child.path = "") :
    child.name = some (Route.flatName name) := by
  obtain ⟨hname_ne, hflat⟩ := h.flatName_of_child hfiles hroute hname hchild
  obtain ⟨place, hplace⟩ := List.mem_iff_getElem?.mp hchild
  rw [← Forest.at?_singleton] at hplace
  obtain ⟨file, hfile, passed, own, below, htokens, hpassed, hown, hraw, hstands, hbelow,
    hbelow_raw, rfl⟩ := h.split hroute hplace
  obtain ⟨hempty, hfolder⟩ := hfiles file hfile
  have hlists : NoIndexBefore (passed ++ own) :=
    ⟨fun _ ht => Path.proper_of_mem_tokens htokens hempty ht,
      fun _ ht => hfolder.name_ne htokens ht⟩
  -- the child is the index of the page
  obtain ⟨tokens, rfl, hindex⟩ : ∃ tokens, own = [tokens] ∧ Segment.name tokens = "index" := by
    cases hstands with
    | here hbelow' _ hbelow_path _ =>
      rw [Forest.at?_singleton, hbelow'] at hbelow
      cases hbelow
      rw [Route.path_register, if_neg Bool.false_ne_true, hbelow_path] at hpath
      exact Pending.eq_index_of_pathless rfl hown hlists.right hpath
    | inside _ _ _ hnowhere => cases hnowhere
  cases hname.symm.trans hraw
  have hstart : (⟨((Pending.start mount).walk passed).name, ""⟩ : Pending).name ≠ "" := hname_ne
  have hflat_below := Pending.flatName_next_index hstart hindex
  rw [Pending.walk_cons, Pending.walk_nil] at hbelow_raw
  obtain ⟨⟨inner, hinner, -⟩, -⟩ | ⟨-, hown_name⟩ := Route.name_register_cases false below
  · -- nothing is nested in an index, whose name is longer than its flat name
    exfalso
    have hbelow_at : Forest.at? forest (address ++ [place]) = some below := by
      have haddress : address ≠ [] := by
        rintro rfl
        simp at hroute
      rw [Forest.at?_append haddress (by simp), hroute]
      exact hbelow
    rw [Route.children_register] at hinner
    obtain ⟨-, hfull⟩ := h.flatName_of_child hfiles hbelow_at hbelow_raw hinner
    have hlength := congrArg (fun name => name.toList.length) (hflat_below.symm.trans hfull)
    simp only [Route.length_hyphenated] at hlength
    have hlonger := Pending.length_name_lt_walk hstart (List.cons_ne_nil tokens [])
    exact hlonger.ne hlength
  · rw [hown_name, hbelow_raw, Option.map_some, hflat]
    exact congrArg some hflat_below

end Forest.Built

/-! ### The names of a list of files -/

/-- **No name is lost.** The route of a file has the name that its segments give, unless a child is
    shown at its path; then it has none, and every such child has it. So the name of every file
    is found. -/
theorem Forest.names_compile {mount : Mount} {files : List ScannedFile}
    (hfiles : ∀ file ∈ files,
      "" ∉ Path.segments file.relative ∧ Path.NoIndexFolder file.relative)
    {compiled : Normalized} (h : Forest.compile files mount = .ok compiled) {i : Nat}
    {file : ScannedFile} (hfile : files[i]? = some file) :
    ∃ address route name, Forest.Places mount files i address ∧
      Forest.at? compiled.routes address = some route ∧ file.routeName mount = .ok name ∧
      (((∀ child ∈ route.children, child.path ≠ "") ∧ route.name = some name) ∨
        ((∃ child ∈ route.children, child.path = "") ∧ route.name = none ∧
          ∀ child ∈ route.children, child.path = "" → child.name = some name)) ∧
      ∃ found, Forest.lookup name compiled.routes = some found ∧ found.name = some name := by
  obtain ⟨forest, addresses, hbuilt, hroutes⟩ := Forest.built_of_compile h
  rw [hroutes]
  have hempty : ∀ file ∈ files, "" ∉ Path.segments file.relative := fun file hmem =>
    (hfiles file hmem).1
  have hfresh := hbuilt.noEcho hempty
  obtain ⟨address, haddress⟩ := hbuilt.exists_address hfile
  obtain ⟨lists, htokens, hstands⟩ := hbuilt.stands hfile haddress
  obtain ⟨route, hroute, hname, -⟩ := hstands.at?_eq_some
  have hproper : ∀ tokens ∈ lists, Proper tokens := fun _ ht =>
    Path.proper_of_mem_tokens htokens (hempty file (List.mem_of_getElem? hfile)) ht
  have hroute_name : file.routeName mount
      = .ok (Route.flatName ((Pending.start mount).walk lists).name) := by
    rw [ScannedFile.routeName, htokens, Pending.name_walk _ hproper]
    rfl
  have hregistered : Forest.at? (Forest.register true forest) address
      = some (route.register (true && address.length == 1)) := by
    rw [Forest.at?_register, hroute, Option.map_some]
  have hmem := Forest.mem_postorder_iff.mpr ⟨address, hregistered⟩
  refine ⟨address, _, _, hbuilt.places_iff.mpr haddress, hregistered, hroute_name, ?_⟩
  obtain ⟨⟨child, hchild, hpath⟩, hnone⟩ | ⟨hpaths, hown_name⟩ :=
    Route.name_register_cases (true && address.length == 1) route
  · rw [Route.children_register] at hchild ⊢
    have hhandover : ∀ child ∈ Forest.register false route.children, child.path = "" →
        child.name = some (Route.flatName ((Pending.start mount).walk lists).name) :=
      fun child hchild hpath => hbuilt.handover hfiles hroute hname hchild hpath
    refine ⟨.inr ⟨⟨child, hchild, hpath⟩, hnone, hhandover⟩, ?_⟩
    -- the child is a page of the forest as well
    have hchild_mem : child ∈ Forest.postorder (Forest.register true forest) :=
      Forest.mem_postorder_of_child hmem (by rwa [Route.children_register])
    exact hfresh.exists_of_mem hchild_mem (hhandover child hchild hpath)
  · rw [hname, Option.map_some] at hown_name
    exact ⟨.inl ⟨hpaths, hown_name⟩, hfresh.exists_of_mem hmem hown_name⟩

/-- The pages of the users of a site: the page of their folder stands before the index of it. -/
def userPages : List ScannedFile :=
  [⟨"users.vue", "/pages/users.vue", ""⟩, ⟨"users/index.vue", "/pages/users/index.vue", ""⟩,
    ⟨"users/[id].vue", "/pages/users/[id].vue", ""⟩]

/-- The name of the page of the folder is found, although the page itself gave it away. -/
theorem userPages_name_found :
    ∃ compiled address route name, Forest.compile userPages (.ofDomain "") = .ok compiled ∧
      Forest.Places (.ofDomain "") userPages 0 address ∧
      Forest.at? compiled.routes address = some route ∧
      ScannedFile.routeName (.ofDomain "") ⟨"users.vue", "/pages/users.vue", ""⟩ = .ok name ∧
      (((∀ child ∈ route.children, child.path ≠ "") ∧ route.name = some name) ∨
        ((∃ child ∈ route.children, child.path = "") ∧ route.name = none ∧
          ∀ child ∈ route.children, child.path = "" → child.name = some name)) ∧
      ∃ found, Forest.lookup name compiled.routes = some found ∧ found.name = some name := by
  have hfiles : ∀ file ∈ userPages,
      "" ∉ Path.segments file.relative ∧ Path.NoIndexFolder file.relative := by decide +kernel
  have hcompiled : Forest.compile userPages (.ofDomain "") = .ok
      ⟨[⟨none, "/users", "/pages/users.vue",
          [⟨some "users", "", "/pages/users/index.vue", []⟩,
            ⟨some "users-id", ":id()", "/pages/users/[id].vue", []⟩]⟩],
        [.pathless "/pages/users.vue"]⟩ := by
    decide +kernel
  obtain ⟨address, route, name, hplaces, hroute, hname, hcases, hfound⟩ :=
    Forest.names_compile hfiles hcompiled (List.getElem?_cons_zero)
  exact ⟨_, address, route, name, hcompiled, hplaces, hroute, hname, hcases, hfound⟩

end FileRoutes
