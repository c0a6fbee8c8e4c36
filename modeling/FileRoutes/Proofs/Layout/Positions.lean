import FileRoutes.Proofs.Layout.Lookup
import Mathlib.Logic.Equiv.Defs

namespace FileRoutes

/-!
# Layouts — one route for each file

Each file adds one route to a forest, at the end of a level that is there, and no route is ever
taken away or moved. So the routes of a forest are those of the files, one for one, and the order
of the files can be read off every level and off every way down.

* `Forest.Graft.isSome_at?_before` — a leaf is added behind the routes of its level;
* `Forest.Built.nodup_addresses` — no address is noted for two files;
* `Forest.Built.lt_of_sibling`, `Forest.Built.lt_of_child` — the order of the files on a level and
  between levels;
* `Forest.conserved_compile` — the statement about the routes compiled from a list of files.
-/

/-! ### Grafting a leaf -/

/-- A leaf is added behind the routes of its level. -/
theorem Forest.Graft.isSome_at?_before {leaf : Route} {address : List Nat} {level level' : Forest}
    (h : Forest.Graft leaf address level level') {folder : List Nat} {m n : Nat}
    (haddress : address = folder ++ [n]) (hlt : m < n) :
    (Forest.at? level (folder ++ [m])).isSome = true := by
  induction h generalizing folder with
  | here level =>
    -- the way of one place is the place itself
    obtain ⟨rfl, hn⟩ : folder = [] ∧ level.length = n := by
      cases folder with
      | nil => exact ⟨rfl, (List.cons.inj haddress).1⟩
      | cons place folder => simp at haddress
    rw [List.nil_append, Forest.at?_singleton, List.getElem?_eq_getElem (by omega),
      Option.isSome_some]
  | @inside place address level route children hroute hgraft ih =>
    cases folder with
    | nil => exact absurd (List.cons.inj haddress).2 hgraft.ne_nil
    | cons first folder =>
      obtain ⟨rfl, hrest⟩ := List.cons.inj haddress
      rw [List.cons_append, Forest.at?_cons (by simp), hroute]
      exact ih hrest

/-! ### The addresses of the files -/

namespace Forest.Built

variable {mount : Mount} {files : List ScannedFile} {forest : Forest}
  {addresses : List (List Nat)}

/-- **No two files share an address.** The address of a route is free before its file has its turn,
    while those of all earlier files are taken. -/
theorem nodup_addresses (h : Built mount files forest addresses) : addresses.Nodup := by
  induction h with
  | empty => exact List.nodup_nil
  | @concat files forest addresses file lists address forest' hbuilt _ _ hdescent ih =>
    have hfresh : address ∉ addresses := by
      obtain ⟨_, hgraft⟩ := hdescent.graft
      rw [hbuilt.mem_addresses_iff, hgraft.at?_fresh]
      exact Bool.false_ne_true
    rw [List.nodup_append_comm]
    exact List.nodup_cons.mpr ⟨hfresh, ih⟩

/-- An address that is taken before a file has its turn is that of an earlier file. -/
theorem lt_of_taken (h : Built mount files forest addresses) {i j : Nat}
    {earlier later : List Nat} (hearlier : addresses[i]? = some earlier)
    (hlater : addresses[j]? = some later)
    (htaken : ∀ leaf before after, Forest.Graft leaf later before after →
      (Forest.at? before earlier).isSome = true) : i < j := by
  have hj : j < files.length := by
    rw [← h.length_addresses]
    exact (List.getElem?_eq_some_iff.mp hlater).1
  obtain ⟨_, _, own, before, _, _, hown, _, hbefore, _, hdescent⟩ := h.step hj
  cases hown.symm.trans hlater
  obtain ⟨_, hgraft⟩ := hdescent.graft
  have hmem := (hbefore.mem_addresses_iff earlier).mpr (htaken _ _ _ hgraft)
  obtain ⟨k, hk⟩ := List.mem_iff_getElem?.mp hmem
  have hkj : k < j := by
    have hlt := (List.getElem?_eq_some_iff.mp hk).1
    rw [List.length_take] at hlt
    omega
  -- the address stands in the list once, so that it is that of the file at `i`
  rw [List.getElem?_take_of_lt hkj] at hk
  have hlt := (List.getElem?_eq_some_iff.mp hk).1
  have hsame : k = i := (List.getElem?_inj hlt h.nodup_addresses).mp (hk.trans hearlier.symm)
  rw [← hsame]
  exact hkj

/-- **The files of a level are in order.** -/
theorem lt_of_sibling (h : Built mount files forest addresses) {i j : Nat} {folder : List Nat}
    {m n : Nat} (hleft : addresses[i]? = some (folder ++ [m]))
    (hright : addresses[j]? = some (folder ++ [n])) (hlt : m < n) : i < j :=
  h.lt_of_taken hleft hright fun _ _ _ hgraft => hgraft.isSome_at?_before rfl hlt

/-- **The file of a route comes after that of its parent.** -/
theorem lt_of_child (h : Built mount files forest addresses) {i j : Nat} {parent : List Nat}
    {place : Nat} (hparent : addresses[i]? = some parent)
    (hchild : addresses[j]? = some (parent ++ [place])) : i < j := by
  have hne : parent ≠ [] := by
    rintro rfl
    have hnone := (h.mem_addresses_iff []).mp (List.mem_of_getElem? hparent)
    simp at hnone
  exact h.lt_of_taken hparent hchild fun _ _ _ hgraft =>
    hgraft.isSome_at?_ancestor rfl hne (List.cons_ne_nil place [])

end Forest.Built

/-! ### The routes of a list of files -/

/-- **Files are conserved.** The files of a list and the routes compiled from it correspond one for
    one: the route of a file has its full path, the files of siblings are in the order of the list,
    and the file of a route comes after that of its parent. So there are as many routes as files,
    and their full paths are the same ones. -/
theorem Forest.conserved_compile {mount : Mount} {files : List ScannedFile} {compiled : Normalized}
    (h : Forest.compile files mount = .ok compiled) :
    (∃ stand : Fin files.length
        ≃ {address : List Nat // (Forest.at? compiled.routes address).isSome = true},
      (∀ i, ∃ route, Forest.at? compiled.routes (stand i).val = some route ∧
        route.file = files[i].absolute) ∧
      (∀ i j folder m n, (stand i).val = folder ++ [m] → (stand j).val = folder ++ [n] →
        m < n → i < j) ∧
      ∀ i j place, (stand j).val = (stand i).val ++ [place] → i < j) ∧
    Forest.count compiled.routes = files.length ∧
    (Forest.files compiled.routes).Perm (files.map ScannedFile.absolute) := by
  obtain ⟨forest, addresses, hbuilt, hroutes⟩ := Forest.built_of_compile h
  generalize compiled.routes = routes at hroutes ⊢
  subst hroutes
  have hfiles : (Forest.files (Forest.register true forest)).Perm
      (files.map ScannedFile.absolute) := by
    rw [Forest.files_register]
    exact hbuilt.files_perm
  have hcount : Forest.count (Forest.register true forest) = files.length := by
    have hlength := hfiles.length_eq
    rw [Forest.files, List.length_map, List.length_map, Forest.length_postorder] at hlength
    exact hlength
  refine ⟨?_, hcount, hfiles⟩
  -- the address of a file is the one that was noted for it
  have htaken : ∀ address, address ∈ addresses ↔
      (Forest.at? (Forest.register true forest) address).isSome = true := by
    intro address
    rw [hbuilt.mem_addresses_iff, Forest.at?_register, Option.isSome_map]
  have hlt : ∀ i : Fin files.length, i.val < addresses.length := by
    intro i
    rw [hbuilt.length_addresses]
    exact i.isLt
  let noted : Fin files.length →
      {address // (Forest.at? (Forest.register true forest) address).isSome = true} :=
    fun i => ⟨addresses.get ⟨i.val, hlt i⟩, (htaken _).mp (List.get_mem _ _)⟩
  have hnoted : ∀ i : Fin files.length, addresses[i.val]? = some (noted i).val := fun i =>
    List.getElem?_eq_getElem (hlt i)
  have hbijective : Function.Bijective noted := by
    constructor
    · intro i j hij
      apply Fin.ext
      have hsame : addresses[i.val]? = addresses[j.val]? := by rw [hnoted i, hnoted j, hij]
      exact (List.getElem?_inj (hlt i) hbuilt.nodup_addresses).mp hsame
    · rintro ⟨address, haddress⟩
      obtain ⟨i, hi, rfl⟩ := List.mem_iff_getElem.mp ((htaken address).mpr haddress)
      exact ⟨⟨i, hbuilt.length_addresses ▸ hi⟩, rfl⟩
  let stand := Equiv.ofBijective noted hbijective
  have hstand : ∀ i : Fin files.length, addresses[i.val]? = some (stand i).val := hnoted
  refine ⟨stand, ?_, ?_, ?_⟩
  · intro i
    obtain ⟨route, hroute⟩ := Option.isSome_iff_exists.mp (stand i).property
    refine ⟨route, hroute, ?_⟩
    rw [Forest.at?_register] at hroute
    obtain ⟨raw, hraw, rfl⟩ := Option.map_eq_some_iff.mp hroute
    have hfile := hbuilt.getElem?_files (hstand i) hraw
    rw [Route.file_register]
    simpa using hfile.symm
  · intro i j folder m n hi hj hlt
    exact hbuilt.lt_of_sibling (by rw [hstand i, hi]) (by rw [hstand j, hj]) hlt
  · intro i j place hj
    exact hbuilt.lt_of_child (hstand i) (by rw [hstand j, hj])

/-- The pages of a library: two of the same file, and two in the folder of that file. -/
def libraryPages : List ScannedFile :=
  [⟨"books.vue", "/pages/books.vue", "Library"⟩, ⟨"books.ts", "/pages/books.vue", "Library"⟩,
    ⟨"books/[id].vue", "/pages/books/[id].vue", "Library"⟩,
    ⟨"books/index.vue", "/pages/books/index.vue", "Library"⟩]

/-- Each page of the library has a route of its own. -/
theorem libraryPages_conserved :
    ∃ compiled, Forest.compile libraryPages (.ofDomain "Library") = .ok compiled ∧
      (∃ stand : Fin libraryPages.length
          ≃ {address : List Nat // (Forest.at? compiled.routes address).isSome = true},
        (∀ i, ∃ route, Forest.at? compiled.routes (stand i).val = some route ∧
          route.file = libraryPages[i].absolute) ∧
        (∀ i j folder m n, (stand i).val = folder ++ [m] → (stand j).val = folder ++ [n] →
          m < n → i < j) ∧
        ∀ i j place, (stand j).val = (stand i).val ++ [place] → i < j) ∧
      Forest.count compiled.routes = libraryPages.length ∧
      (Forest.files compiled.routes).Perm (libraryPages.map ScannedFile.absolute) := by
  have hcompiled : Forest.compile libraryPages (.ofDomain "Library") = .ok
      ⟨[⟨none, "/Library/books", "/pages/books.vue",
          [⟨some "Library-books-id", ":id()", "/pages/books/[id].vue", []⟩,
            ⟨some "Library-books", "", "/pages/books/index.vue", []⟩]⟩,
        ⟨some "Library-books", "/Library/books", "/pages/books.vue", []⟩],
        [.pathless "/pages/books.vue",
          .duplicate ⟨"Library-books", "/pages/books/index.vue", "/pages/books.vue"⟩]⟩ := by
    decide +kernel
  exact ⟨_, hcompiled, Forest.conserved_compile hcompiled⟩

end FileRoutes
