import FileRoutes.Proofs.Layout.Urls

namespace FileRoutes

open Segment

/-!
# Layouts — the URL at an address

The URL of one page is made from the paths of the routes on the way to its address. Where the
folders of the page are no index, it is the URL that the segments of the page give.

* `Forest.urlAt?` — the URL of the route at an address of a registered forest;
* `Forest.registeredUrlAt?` — the same before the forest is registered;
* `Pending.Tidy.walk` — what a tidy path gathers from segments that are no index;
* `Forest.Stands.url` — the URL where the route of a file stands.
-/

/-! ### The URL of a route -/

/-- The URL of the route at an address of a registered forest, below a route with the URL
    `parent`. -/
def Forest.urlAt? (parent : Option String) : Forest → List Nat → Option String
  | _, [] => none
  | forest, [place] => forest[place]?.map fun route => Url.ofRoute parent route.path
  | forest, place :: next :: rest =>
    forest[place]?.bind fun route =>
      Forest.urlAt? (some (Url.ofRoute parent route.path)) route.children (next :: rest)

/-- The URL at an address before the forest is registered: what it is once it is. -/
def Forest.registeredUrlAt? (parent : Option String) (level : Forest) (address : List Nat) :
    Option String :=
  Forest.urlAt? parent (Forest.register parent.isNone level) address

/-- Unfolding lemma: the URL of a route of the level. -/
theorem Forest.registeredUrlAt?_singleton (parent : Option String) (level : Forest) (place : Nat) :
    Forest.registeredUrlAt? parent level [place]
      = level[place]?.map (Route.registeredUrl parent) := by
  unfold Forest.registeredUrlAt? Forest.urlAt?
  rw [Forest.register_eq_map, List.getElem?_map, Option.map_map]
  cases level[place]? with
  | none => rfl
  | some route => simp [Route.registeredUrl, Route.path_register]

/-- Unfolding lemma: the URL of a route below the level goes on from that of the route above. -/
theorem Forest.registeredUrlAt?_cons (parent : Option String) (level : Forest) (place : Nat)
    {address : List Nat} (h : address ≠ []) :
    Forest.registeredUrlAt? parent level (place :: address)
      = level[place]?.bind fun route =>
        Forest.registeredUrlAt? (some (route.registeredUrl parent)) route.children address := by
  obtain ⟨next, rest, rfl⟩ := List.exists_cons_of_ne_nil h
  rw [Forest.registeredUrlAt?, Forest.urlAt?, Forest.register_eq_map, List.getElem?_map]
  cases level[place]? with
  | none => rfl
  | some route =>
    simp [Forest.registeredUrlAt?, Route.registeredUrl, Route.path_register,
      Route.children_register]

/-! ### The URL of a file -/

/-- **A tidy path gathers all segments that are no index.** It stays tidy, and what remains is left
    to be added. -/
theorem Pending.Tidy.walk {pending : Pending} (h : pending.Tidy) {front rest : List (List Token)}
    (hlists : NoIndexBefore (front ++ rest)) (hrest : rest ≠ []) :
    (pending.walk front).Tidy ∧
      (pending.walk front).path ++ urlPatterns rest
        = pending.path ++ urlPatterns (front ++ rest) := by
  induction front generalizing pending with
  | nil => exact ⟨h, rfl⟩
  | cons tokens front ih =>
    have hmore : front ++ rest ≠ [] := List.append_ne_nil_of_right_ne_nil front hrest
    have hindex := hlists.head hmore
    obtain ⟨htidy, hpath⟩ := ih (h.next (hlists.1 tokens (by simp)) hindex) hlists.tail
    refine ⟨htidy, ?_⟩
    rw [Pending.walk_cons, hpath, Pending.path_next hindex, String.append_assoc, List.cons_append,
      urlPatterns_cons hmore]

/-- **The URL of a page is that of its segments.** By induction on the layouts it stands below: the
    URL of each is made from the segments that lead to it. -/
theorem Forest.Stands.url {file : ScannedFile} {pending : Pending} {lists : List (List Token)}
    {level : Forest} {address : List Nat} (h : Forest.Stands file pending lists level address)
    (hne : lists ≠ []) (hlists : NoIndexBefore lists) (htidy : pending.Tidy)
    {parent : Option String} (hparent : parent ≠ some "") :
    Forest.registeredUrlAt? parent level address
      = some (Url.orSlash (Url.above parent ++ pending.path ++ urlPatterns lists)) := by
  induction h generalizing parent with
  | @here pending lists level place route hroute hname hpath hfile =>
    obtain rfl | ⟨front, last, rfl⟩ := List.eq_nil_or_concat' lists
    · exact absurd rfl hne
    obtain ⟨hfront, hgathered⟩ := htidy.walk hlists (List.cons_ne_nil last [])
    rw [Forest.registeredUrlAt?_singleton, hroute, Option.map_some, Route.registeredUrl, hpath,
      Pending.walk_append, Pending.walk_cons, Pending.walk_nil,
      Url.ofRoute_last hparent hfront (hlists.1 last (by simp)), String.append_assoc, hgathered,
      String.append_assoc]
  | @inside pending front tokens rest level place address route hroute hlayout hrest hbelow ih =>
    obtain ⟨hfront, hgathered⟩ := htidy.walk hlists (List.cons_ne_nil tokens rest)
    have hlater : NoIndexBefore (tokens :: rest) := hlists.right
    have htokens := hlater.1 tokens (by simp)
    have hindex := hlater.head hrest
    have hurl := hfront.registeredUrl_layout htokens hindex hlayout parent
    have hurl_ne : some (route.registeredUrl parent) ≠ some "" := by
      intro heq
      rw [hurl, Option.some.injEq, ← String.toList_inj] at heq
      simp at heq
    have haddress : address ≠ [] := by
      rintro rfl
      cases hbelow
    rw [Forest.registeredUrlAt?_cons parent level place haddress, hroute, Option.bind_some,
      ih hrest hlater.tail (.nested _ tokens) hurl_ne, hurl]
    rw [urlPatterns_cons hrest] at hgathered
    have hnested : ((pending.walk front).nested tokens).path = "" := rfl
    rw [hnested, String.append_empty, Url.above, Option.getD_some, String.append_assoc,
      String.append_assoc, hgathered, String.append_assoc]

end FileRoutes
