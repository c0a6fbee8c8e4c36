import FileRoutes.Compile
import FileRoutes.Proofs.Layout.Descent
import FileRoutes.Proofs.Normalize.Passes
import FileRoutes.Proofs.Segment.Component

namespace FileRoutes

open Segment

/-!
# Layouts — forests built file by file

* `Forest.Built` — a forest that files were placed into, with the address of each of them;
* `Forest.built_of_build`, `Forest.Built.build` — the forests built from lists of files, exactly;
* `Forest.Built.step` — what happened when the file at some place of the list had its turn;
* `Forest.Built.stands`, `Forest.Built.exists_file` — the route of each file stands at its
  address, whatever came later, and at each address stands that of a file;
* `Forest.Built.persists` — no route is taken away again;
* `Forest.Built.exists_of_at?`, `Forest.Built.mem_addresses_iff` — every route of the forest is that
  of a file, so that the addresses of the files are those of all routes;
* `Forest.Built.exists_ancestor` — the routes above it are those of earlier files;
* `Forest.AllStand` — what is asked of the segments of all files, on a level of the forest and on
  those below it (`Forest.AllStand.children`);
* `Forest.Places` — where the route of a file stands, told without a look at how it is placed.
-/

/-- Adding one more file comes last. -/
theorem Forest.insertAll_concat {mount : Mount} (files : List ScannedFile) (file : ScannedFile)
    (forest : Forest) :
    (Forest.insertAll mount (files ++ [file]) forest).result
      = (Forest.insertAll mount files forest).result.bind
          fun middle => (Forest.insert mount file middle).result := by
  induction files generalizing forest with
  | nil =>
    rw [List.nil_append, Forest.insertAll_cons, Logged.result_andThen]
    simp only [Forest.insertAll_nil, Logged.result_ok]
    rw [Except.bind]
    cases (Forest.insert mount file forest).result <;> rfl
  | cons first rest ih =>
    rw [List.cons_append, Forest.insertAll_cons, Forest.insertAll_cons, Logged.result_andThen,
      Logged.result_andThen]
    cases (Forest.insert mount first forest).result with
    | error fault => simp only [Except.bind]
    | ok middle => exact ih middle

/-- Adding a file to a forest takes the way of its segments. -/
theorem Forest.descent_of_insert {mount : Mount} {file : ScannedFile} {forest forest' : Forest}
    (h : (Forest.insert mount file forest).result = .ok forest') :
    ∃ lists address, Path.tokens file.relative = .ok lists ∧
      Forest.Descent file (.start mount) lists forest address forest' := by
  unfold Forest.insert at h
  rw [Logged.result_mapError] at h
  cases hplaced : (Forest.place file (.start mount) (Path.segments file.relative)
      forest).result with
  | error fault =>
    rw [hplaced] at h
    cases h
  | ok placed =>
    rw [hplaced] at h
    injection h with h
    subst h
    obtain ⟨lists, address, hlists, hdescent⟩ := Forest.descent_of_place hplaced
    exact ⟨lists, address, Path.tokens_eq_ok_iff.mpr hlists, hdescent⟩

/-- What stands in a list with one more element stood there before or is the last one. -/
theorem getElem?_concat_cases {α : Type} {list : List α} {last value : α} {i : Nat}
    (h : (list ++ [last])[i]? = some value) :
    (i < list.length ∧ list[i]? = some value) ∨ (i = list.length ∧ value = last) := by
  by_cases hi : i < list.length
  · rw [List.getElem?_append_left hi] at h
    exact .inl ⟨hi, h⟩
  · have hlt := (List.getElem?_eq_some_iff.mp h).1
    rw [List.length_append, List.length_singleton] at hlt
    obtain rfl : i = list.length := by omega
    rw [List.getElem?_concat_length] at h
    exact .inr ⟨rfl, (Option.some.inj h).symm⟩

/-- A forest that files were placed into one after the other, and their addresses. -/
inductive Forest.Built (mount : Mount) : List ScannedFile → Forest → List (List Nat) → Prop where
  | empty : Built mount [] [] []
  | concat {files : List ScannedFile} {forest : Forest} {addresses : List (List Nat)}
      {file : ScannedFile} {lists : List (List Token)} {address : List Nat} {forest' : Forest}
      (hbuilt : Built mount files forest addresses)
      (hinsert : (Forest.insert mount file forest).result = .ok forest')
      (htokens : Path.tokens file.relative = .ok lists)
      (hdescent : Forest.Descent file (.start mount) lists forest address forest') :
      Built mount (files ++ [file]) forest' (addresses ++ [address])

/-- The forest of a list of files was built file by file. -/
theorem Forest.built_of_build {mount : Mount} {files : List ScannedFile} {forest : Forest}
    (h : (Forest.build files mount).result = .ok forest) :
    ∃ addresses, Forest.Built mount files forest addresses := by
  rw [Forest.result_build] at h
  induction files using List.reverseRecOn generalizing forest with
  | nil =>
    rw [Forest.insertAll, Logged.result_ok] at h
    injection h with h
    subst h
    exact ⟨[], .empty⟩
  | append_singleton files file ih =>
    rw [Forest.insertAll_concat] at h
    cases hfiles : (Forest.insertAll mount files []).result with
    | error fault =>
      rw [hfiles] at h
      cases h
    | ok middle =>
      rw [hfiles] at h
      obtain ⟨addresses, hbuilt⟩ := ih hfiles
      obtain ⟨lists, address, htokens, hdescent⟩ := Forest.descent_of_insert h
      exact ⟨addresses ++ [address], .concat hbuilt h htokens hdescent⟩

/-- What was compiled is a built forest in its normal form. -/
theorem Forest.build_of_compile {mount : Mount} {files : List ScannedFile} {compiled : Normalized}
    (h : Forest.compile files mount = .ok compiled) :
    ∃ forest, (Forest.build files mount).result = .ok forest ∧
      compiled = Forest.normalize forest := by
  unfold Forest.compile at h
  cases hresult : (Forest.build files mount).result with
  | error fault =>
    rw [hresult] at h
    cases h
  | ok forest =>
    rw [hresult] at h
    cases h
    exact ⟨forest, rfl, rfl⟩

/-- The routes that were compiled are those of a forest that was built file by file. -/
theorem Forest.built_of_compile {mount : Mount} {files : List ScannedFile} {compiled : Normalized}
    (h : Forest.compile files mount = .ok compiled) :
    ∃ forest addresses, Forest.Built mount files forest addresses ∧
      compiled.routes = Forest.register true forest := by
  obtain ⟨forest, hforest, rfl⟩ := Forest.build_of_compile h
  obtain ⟨addresses, hbuilt⟩ := Forest.built_of_build hforest
  exact ⟨forest, addresses, hbuilt, forest.routes_normalize⟩

namespace Forest.Built

variable {mount : Mount} {files : List ScannedFile} {forest : Forest}
  {addresses : List (List Nat)}

/-- A forest that was built file by file is the forest of its list of files. -/
theorem build (h : Built mount files forest addresses) :
    (Forest.build files mount).result = .ok forest := by
  rw [Forest.result_build]
  induction h with
  | empty => rfl
  | concat _ hinsert _ _ ih =>
    rw [Forest.insertAll_concat, ih]
    exact hinsert

/-- There is one address for each file. -/
theorem length_addresses (h : Built mount files forest addresses) :
    addresses.length = files.length := by
  induction h with
  | empty => rfl
  | concat _ _ _ _ ih => simp [ih]

/-- An address is noted for every file. -/
theorem exists_address (h : Built mount files forest addresses) {i : Nat} {file : ScannedFile}
    (hfile : files[i]? = some file) : ∃ address, addresses[i]? = some address := by
  have hi : i < addresses.length := by
    rw [h.length_addresses]
    exact (List.getElem?_eq_some_iff.mp hfile).1
  exact ⟨addresses[i], List.getElem?_eq_getElem hi⟩

/-- **Step.** When a file had its turn, the files before it had been placed, and it took the way
    of its segments to the address that is noted for it. -/
theorem step (h : Built mount files forest addresses) {i : Nat} (hi : i < files.length) :
    ∃ file lists address before after,
      files[i]? = some file ∧ addresses[i]? = some address ∧
      Path.tokens file.relative = .ok lists ∧
      Built mount (files.take i) before (addresses.take i) ∧
      Built mount (files.take (i + 1)) after (addresses.take (i + 1)) ∧
      Forest.Descent file (.start mount) lists before address after := by
  induction h with
  | empty => cases hi
  | @concat files forest addresses file lists address forest' hbuilt hinsert htokens hdescent ih =>
    have hlength := hbuilt.length_addresses
    by_cases hlast : i < files.length
    · -- the files up to this one are those of the shorter list
      obtain ⟨file, lists, address, before, after, hfile, haddress, hrest⟩ := ih hlast
      refine ⟨file, lists, address, before, after, ?_, ?_, ?_⟩
      · rw [List.getElem?_append_left hlast, hfile]
      · rw [List.getElem?_append_left (hlength ▸ hlast), haddress]
      · rw [List.take_append_of_le_length (Nat.le_of_lt hlast),
          List.take_append_of_le_length (Nat.le_of_lt (hlength ▸ hlast)),
          List.take_append_of_le_length hlast, List.take_append_of_le_length (hlength ▸ hlast)]
        exact hrest
    · have heq : i = files.length := by
        rw [List.length_append, List.length_singleton] at hi
        omega
      subst heq
      refine ⟨file, lists, address, forest, forest', List.getElem?_concat_length, ?_, htokens,
        ?_, ?_, hdescent⟩
      · rw [← hlength, List.getElem?_concat_length]
      · rw [List.take_left, ← hlength, List.take_left]
        exact hbuilt
      · rw [List.take_of_length_le (by simp), List.take_of_length_le (by simp [hlength])]
        exact .concat hbuilt hinsert htokens hdescent

/-- **The route of every file stands at its address.** Later files do not change that. -/
theorem stands (h : Built mount files forest addresses) {i : Nat} {file : ScannedFile}
    {address : List Nat} (hfile : files[i]? = some file)
    (haddress : addresses[i]? = some address) :
    ∃ lists, Path.tokens file.relative = .ok lists ∧
      Forest.Stands file (.start mount) lists forest address := by
  induction h with
  | empty => cases hfile
  | @concat files forest addresses last lists address' forest' hbuilt _ htokens hdescent ih =>
    have hlength := hbuilt.length_addresses
    rcases getElem?_concat_cases hfile with ⟨hi, hfile⟩ | ⟨rfl, rfl⟩
    · rw [List.getElem?_append_left (hlength ▸ hi)] at haddress
      obtain ⟨own, hown, hstands⟩ := ih hfile haddress
      obtain ⟨_, hgraft⟩ := hdescent.graft
      exact ⟨own, hown, hstands.graft hgraft⟩
    · rw [← hlength, List.getElem?_concat_length] at haddress
      cases haddress
      exact ⟨lists, htokens, hdescent.stands⟩

/-- At every address that is noted stands the route of a file. -/
theorem exists_file (h : Built mount files forest addresses) {i : Nat} {address : List Nat}
    (haddress : addresses[i]? = some address) :
    ∃ file lists, files[i]? = some file ∧ Path.tokens file.relative = .ok lists ∧
      Forest.Stands file (.start mount) lists forest address := by
  have hi : i < files.length := by
    rw [← h.length_addresses]
    exact (List.getElem?_eq_some_iff.mp haddress).1
  have hfile : files[i]? = some files[i] := List.getElem?_eq_getElem hi
  obtain ⟨lists, htokens, hstands⟩ := h.stands hfile haddress
  exact ⟨files[i], lists, hfile, htokens, hstands⟩

/-- **Routes persist.** A route that was there after the first files is still there, with other
    children at most. -/
theorem persists (h : Built mount files forest addresses) {m : Nat} {middle : Forest}
    {noted : List (List Nat)} (hmiddle : Built mount (files.take m) middle noted)
    {address : List Nat} {route : Route} (hroute : Forest.at? middle address = some route) :
    ∃ route', Forest.at? forest address = some route' ∧ route'.bare = route.bare := by
  induction h with
  | empty =>
    rw [List.take_nil] at hmiddle
    cases hmiddle.build.symm.trans empty.build
    exact ⟨route, hroute, rfl⟩
  | @concat files forest addresses last lists address' forest' hbuilt hinsert htokens hdescent ih =>
    by_cases hm : m ≤ files.length
    · rw [List.take_append_of_le_length hm] at hmiddle
      obtain ⟨route', hroute', hbare⟩ := ih hmiddle
      obtain ⟨_, hgraft⟩ := hdescent.graft
      obtain ⟨route'', hroute'', hbare'⟩ := hgraft.at?_eq_some rfl hroute'
      exact ⟨route'', hroute'', hbare'.trans hbare⟩
    · rw [List.take_of_length_le (by simp; omega)] at hmiddle
      cases hmiddle.build.symm.trans (concat hbuilt hinsert htokens hdescent).build
      exact ⟨route, hroute, rfl⟩

/-- **Every route is that of a file.** -/
theorem exists_of_at? (h : Built mount files forest addresses) {address : List Nat}
    {route : Route} (hroute : Forest.at? forest address = some route) :
    ∃ i : Nat, addresses[i]? = some address := by
  induction h generalizing route with
  | empty => simp at hroute
  | @concat files forest addresses last lists address' forest' _ _ _ hdescent ih =>
    obtain ⟨_, hgraft⟩ := hdescent.graft
    by_cases hnew : address = address'
    · exact ⟨addresses.length, by rw [hnew, List.getElem?_concat_length]⟩
    · have hbare := hgraft.bare_at? rfl hnew
      rw [hroute] at hbare
      obtain ⟨old, hold, -⟩ := Option.map_eq_some_iff.mp hbare.symm
      obtain ⟨i, hi⟩ := ih hold
      refine ⟨i, ?_⟩
      rw [List.getElem?_append_left (List.getElem?_eq_some_iff.mp hi).1, hi]

/-- The addresses that are noted for the files are those where a route stands. -/
theorem mem_addresses_iff (h : Built mount files forest addresses) (address : List Nat) :
    address ∈ addresses ↔ (Forest.at? forest address).isSome = true := by
  rw [List.mem_iff_getElem?]
  constructor
  · rintro ⟨i, hi⟩
    obtain ⟨file, lists, -, -, hstands⟩ := h.exists_file hi
    obtain ⟨route, hroute, -⟩ := hstands.at?_eq_some
    rw [hroute, Option.isSome_some]
  · intro hsome
    obtain ⟨route, hroute⟩ := Option.isSome_iff_exists.mp hsome
    exact h.exists_of_at? hroute

/-- **The routes above a route are those of earlier files.** -/
theorem exists_ancestor (h : Built mount files forest addresses) {j : Nat}
    {front back : List Nat} (haddress : addresses[j]? = some (front ++ back))
    (hfront : front ≠ []) (hback : back ≠ []) : ∃ i < j, addresses[i]? = some front := by
  have hj : j < files.length := by
    rw [← h.length_addresses]
    exact (List.getElem?_eq_some_iff.mp haddress).1
  obtain ⟨_, _, address, before, _, _, haddress', _, hbefore, _, hdescent⟩ := h.step hj
  obtain ⟨_, hgraft⟩ := hdescent.graft
  have heq : address = front ++ back := Option.some.inj (haddress'.symm.trans haddress)
  obtain ⟨route, hroute⟩ :=
    Option.isSome_iff_exists.mp (hgraft.isSome_at?_ancestor heq hfront hback)
  obtain ⟨i, hi⟩ := hbefore.exists_of_at? hroute
  obtain ⟨hlt, -⟩ := List.getElem?_eq_some_iff.mp hi
  rw [List.length_take] at hlt
  have hij : i < j := by omega
  exact ⟨i, hij, by rw [← hi, List.getElem?_take_of_lt hij]⟩

end Forest.Built

/-! ### Levels of files -/

/-- Every route of a level is that of a file all of whose segments are as asked. -/
def Forest.AllStand (P : List Token → Prop) (pending : Pending) (level : Forest) : Prop :=
  ∀ address route, Forest.at? level address = some route →
    ∃ file lists, (∀ tokens ∈ lists, P tokens) ∧ Forest.Stands file pending lists level address

/-- A route of such a level has the name and the path that some segments gather. -/
theorem Forest.AllStand.exists_page {P : List Token → Prop} {pending : Pending} {level : Forest}
    (h : Forest.AllStand P pending level) {place : Nat} {route : Route}
    (hroute : level[place]? = some route) :
    ∃ page, (∀ tokens ∈ page, P tokens) ∧ route.name = some (pending.walk page).name ∧
      route.path = (pending.walk page).path := by
  obtain ⟨file, page, hpage, hstands⟩ := h [place] route (by simp [hroute])
  cases hstands with
  | here hroute' hname hpath _ =>
    cases Option.some.inj (hroute'.symm.trans hroute)
    exact ⟨page, hpage, hname, hpath⟩
  | inside _ _ _ hnowhere => cases hnowhere

/-- The levels below such a level are such levels. -/
theorem Forest.AllStand.children {P : List Token → Prop} {pending : Pending} {level : Forest}
    (h : Forest.AllStand P pending level) {place : Nat} {route : Route}
    (hroute : level[place]? = some route) {name : String} (hname : route.name = some name) :
    Forest.AllStand P ⟨name, ""⟩ route.children := by
  intro address child hchild
  have haddress : address ≠ [] := by
    rintro rfl
    simp at hchild
  obtain ⟨file, lists, hlists, hstands⟩ := h (place :: address) child (by
    rw [Forest.at?_cons haddress, hroute]
    exact hchild)
  cases hstands with
  | here => exact absurd rfl haddress
  | @inside _ front tokens rest _ _ _ route' hroute' hlayout _ hbelow =>
    cases Option.some.inj (hroute'.symm.trans hroute)
    cases Option.some.inj ((Pending.isLayout_iff.mp hlayout).1.symm.trans hname)
    exact ⟨file, rest, fun t ht => hlists t (by simp [ht]), hbelow⟩

/-- The forest of a list of files is such a level, if the segments of all files are as asked. -/
theorem Forest.Built.allStand {P : List Token → Prop} {mount : Mount} {files : List ScannedFile}
    {forest : Forest} {addresses : List (List Nat)}
    (h : Forest.Built mount files forest addresses)
    (hfiles : ∀ file ∈ files, ∀ lists, Path.tokens file.relative = .ok lists →
      ∀ tokens ∈ lists, P tokens) : Forest.AllStand P (.start mount) forest := by
  intro address route hroute
  obtain ⟨i, hi⟩ := h.exists_of_at? hroute
  obtain ⟨file, lists, hfile, hlists, hstands⟩ := h.exists_file hi
  exact ⟨file, lists, hfiles file (List.mem_of_getElem? hfile) lists hlists, hstands⟩

/-! ### Places -/

/-- The route of a file stands at an address: no route stood there before the file had its turn, and
    one stands there after. The file is told by its place in the list. -/
def Forest.Places (mount : Mount) (files : List ScannedFile) (i : Nat)
    (address : List Nat) : Prop :=
  ∃ before after, (Forest.build (files.take i) mount).result = .ok before ∧
    (Forest.build (files.take (i + 1)) mount).result = .ok after ∧
    Forest.at? before address = none ∧ (Forest.at? after address).isSome = true

/-- The addresses noted while a forest is built are those where the routes stand. -/
theorem Forest.Built.places_iff {mount : Mount} {files : List ScannedFile} {forest : Forest}
    {addresses : List (List Nat)} (h : Forest.Built mount files forest addresses) {i : Nat}
    {address : List Nat} : Forest.Places mount files i address ↔ addresses[i]? = some address := by
  by_cases hi : i < files.length
  · obtain ⟨_, _, own, before, after, _, hown, _, hbefore, hafter, hdescent⟩ := h.step hi
    obtain ⟨_, hgraft⟩ := hdescent.graft
    constructor
    · rintro ⟨before', after', hbefore', hafter', hfree, htaken⟩
      cases hbefore'.symm.trans hbefore.build
      cases hafter'.symm.trans hafter.build
      by_cases hsame : address = own
      · rw [hown, hsame]
      · -- elsewhere there is a route after the turn exactly if there was one before it
        have hbare := hgraft.bare_at? rfl hsame
        obtain ⟨route, hroute⟩ := Option.isSome_iff_exists.mp htaken
        rw [hfree, hroute] at hbare
        cases hbare
    · intro haddress
      cases hown.symm.trans haddress
      exact ⟨before, after, hbefore.build, hafter.build, hgraft.at?_fresh,
        by rw [hgraft.at?_self, Option.isSome_some]⟩
  · have hnone : addresses[i]? = none := by
      rw [List.getElem?_eq_none_iff, h.length_addresses]
      exact Nat.le_of_not_lt hi
    rw [hnone]
    constructor
    · -- behind the last file nothing changes any more
      rintro ⟨before, after, hbefore, hafter, hfree, htaken⟩
      rw [List.take_of_length_le (Nat.le_of_not_lt hi)] at hbefore
      rw [List.take_of_length_le (by omega)] at hafter
      cases hbefore.symm.trans hafter
      rw [hfree] at htaken
      cases htaken
    · intro hsome
      cases hsome

end FileRoutes
