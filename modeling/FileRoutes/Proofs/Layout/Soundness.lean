import FileRoutes.Proofs.Layout.Built
import FileRoutes.Proofs.Layout.Match
import FileRoutes.Proofs.Mount

namespace FileRoutes

open Segment

/-!
# Layouts — a page is nested below the pages of its own folders only

A layout is matched by two texts. Where every segment named `index` is the literal one, no other
page has these texts, so that the segments of a page continue those of the page it is nested in.

* `Path.IndexIsLiteral` — what is asked of the segments of a path;
* `Forest.Stands.peel` — below a page stand only files whose segments continue its own;
* `Forest.Stands.continues` — so it is at any depth;
* `Forest.layout_sound` — the statement about the forest of a list of files.
-/

/-- No segment of the path is empty, and a segment that adds the name `index` is that text. -/
def Path.IndexIsLiteral (path : String) : Prop :=
  ∀ segment ∈ Path.segments path,
    segment ≠ "" ∧ (Segment.addedName? segment = some "index" → segment = "index")

instance : DecidablePred Path.IndexIsLiteral := fun path =>
  inferInstanceAs (Decidable (∀ segment ∈ Path.segments path,
    segment ≠ "" ∧ (Segment.addedName? segment = some "index" → segment = "index")))

/-- Token lists of segments that are not empty, where an index is the literal one. -/
def Segment.AllPlain (lists : List (List Token)) : Prop :=
  ∀ tokens ∈ lists, Proper tokens ∧ Segment.IndexIsLiteral tokens

/-- The segments before some point are plain if all are. -/
theorem Segment.AllPlain.left {front rest : List (List Token)} (h : AllPlain (front ++ rest)) :
    AllPlain front := fun tokens ht => h tokens (List.mem_append_left rest ht)

/-- The segments from some point on are plain if all are. -/
theorem Segment.AllPlain.right {front rest : List (List Token)} (h : AllPlain (front ++ rest)) :
    AllPlain rest := fun tokens ht => h tokens (List.mem_append_right front ht)

/-- The tokens of a path are plain where its segments are. -/
theorem Path.IndexIsLiteral.allPlain {path : String} (h : Path.IndexIsLiteral path)
    {lists : List (List Token)} (hlists : Path.tokens path = .ok lists) : AllPlain lists := by
  intro tokens ht
  have hempty : "" ∉ Path.segments path := fun hmem => (h "" hmem).1 rfl
  refine ⟨Path.proper_of_mem_tokens hlists hempty ht, ?_⟩
  intro hindex
  obtain ⟨segment, hsegment, htokens⟩ := Path.exists_segment_of_mem_tokens hlists ht
  have hadded : Segment.addedName? segment = some "index" := by
    rw [Segment.addedName?_of_tokenize htokens, hindex]
  rw [(h segment hsegment).2 hadded] at htokens
  have hliteral : tokenize "index" = .ok [⟨.literal, "index"⟩] := by decide +kernel
  exact Except.ok.inj (htokens.symm.trans hliteral)

/-! ### Below a page -/

/-- **Below a page stand only files whose segments continue its own.** What remains of them is
    gathered from the name of the page on. -/
theorem Forest.Stands.peel {pending : Pending} (hroot : pending.Rooted) {level : Forest}
    {place : Nat} {route : Route} (hroute : level[place]? = some route)
    {page : List (List Token)} (hpage : AllPlain page)
    (hname : route.name = some (pending.walk page).name)
    (hpath : route.path = (pending.walk page).path) {file : ScannedFile}
    {lists : List (List Token)} (hlists : AllPlain lists) {address : List Nat}
    (haddress : address ≠ []) (h : Forest.Stands file pending lists level (place :: address)) :
    ∃ rest, rest ≠ [] ∧ lists = page ++ rest ∧
      Forest.Stands file ⟨(pending.walk page).name, ""⟩ rest route.children address := by
  cases h with
  | here => exact absurd rfl haddress
  | @inside _ front tokens rest _ _ _ route' hroute' hlayout hrest hbelow =>
    cases Option.some.inj (hroute'.symm.trans hroute)
    obtain ⟨hlayout_name, hlayout_path⟩ := Pending.isLayout_iff.mp hlayout
    rw [List.append_cons] at hlists
    have hfront : AllPlain (front ++ [tokens]) := hlists.left
    have hpage_name : (pending.walk page).name = (pending.walk front).nextName tokens :=
      Option.some.inj (hname.symm.trans hlayout_name)
    have heq : page = front ++ [tokens] :=
      Pending.eq_of_layout hroot hpage hfront hpage_name (hpath.symm.trans hlayout_path)
    refine ⟨rest, hrest, by rw [heq]; simp, ?_⟩
    rw [hpage_name]
    exact hbelow

/-- **The segments of a page continue those of the pages above it.** By induction on the address of
    the upper page: both pages stand below the page at its first place, or it is that page. -/
theorem Forest.Stands.continues {pending : Pending} (hroot : pending.Rooted) {level : Forest}
    (hall : Forest.AllStand (fun tokens => Proper tokens ∧ IndexIsLiteral tokens) pending level)
    {upper lower : ScannedFile} {above below : List (List Token)} (habove : AllPlain above)
    (hbelow : AllPlain below) {address more : List Nat} (hmore : more ≠ [])
    (hupper : Forest.Stands upper pending above level address)
    (hlower : Forest.Stands lower pending below level (address ++ more)) :
    ∃ rest, rest ≠ [] ∧ below = above ++ rest := by
  induction address generalizing pending level above below with
  | nil => cases hupper
  | cons place address ih =>
    have hlower_ne : address ++ more ≠ [] := List.append_ne_nil_of_right_ne_nil address hmore
    by_cases haddress : address = []
    · subst haddress
      cases hupper with
      | here hroute hname hpath _ =>
        obtain ⟨rest, hrest, heq, -⟩ :=
          Forest.Stands.peel hroot hroute habove hname hpath hbelow hlower_ne hlower
        exact ⟨rest, hrest, heq⟩
      | inside _ _ _ hnowhere => cases hnowhere
    · -- the page at the first place is above both, so that its segments can be cut off both
      obtain ⟨route, hroute⟩ : ∃ route, level[place]? = some route := by
        cases hupper with
        | here hroute => exact ⟨_, hroute⟩
        | inside hroute => exact ⟨_, hroute⟩
      obtain ⟨page, hpage, hname, hpath⟩ := hall.exists_page hroute
      obtain ⟨aboveRest, -, haboveEq, hupper⟩ :=
        Forest.Stands.peel hroot hroute hpage hname hpath habove haddress hupper
      obtain ⟨belowRest, -, hbelowEq, hlower⟩ :=
        Forest.Stands.peel hroot hroute hpage hname hpath hbelow hlower_ne hlower
      rw [haboveEq] at habove
      rw [hbelowEq] at hbelow
      obtain ⟨rest, hrest, heq⟩ :=
        ih (.inl rfl) (hall.children hroute hname) habove.right hbelow.right hupper hlower
      exact ⟨rest, hrest, by rw [hbelowEq, haboveEq, heq, List.append_assoc]⟩

/-! ### The forest of a list of files -/

/-- **Layouts are sound.** Where a route is the child of another, the file of the child comes later
    in the list, and the tokens of its segments properly continue those of the file of the
    parent. So no page is nested in one that merely has the same name or the same path. -/
theorem Forest.layout_sound {mount : Mount} (hmount : mount.Made) {files : List ScannedFile}
    (hfiles : ∀ file ∈ files, Path.IndexIsLiteral file.relative) {forest : Forest}
    (h : (Forest.build files mount).result = .ok forest) {address : List Nat} {place : Nat}
    {parent child : Route} (hparent : Forest.at? forest address = some parent)
    (hchild : parent.children[place]? = some child) :
    ∃ (i j : Nat) (upper lower : ScannedFile) (above below : List (List Token)),
      i < j ∧ files[i]? = some upper ∧ files[j]? = some lower ∧
      Forest.Places mount files i address ∧ Forest.Places mount files j (address ++ [place]) ∧
      parent.file = upper.absolute ∧ child.file = lower.absolute ∧
      Path.tokens upper.relative = .ok above ∧ Path.tokens lower.relative = .ok below ∧
      above <+: below ∧ above ≠ below := by
  obtain ⟨addresses, hbuilt⟩ := Forest.built_of_build h
  have haddress : address ≠ [] := by
    rintro rfl
    simp at hparent
  have hchild_at : Forest.at? forest (address ++ [place]) = some child := by
    rw [Forest.at?_concat haddress, hparent]
    exact hchild
  obtain ⟨j, hj⟩ := hbuilt.exists_of_at? hchild_at
  obtain ⟨i, hij, hi⟩ := hbuilt.exists_ancestor hj haddress (List.cons_ne_nil place [])
  obtain ⟨upper, above, hupper, habove, hstands_above⟩ := hbuilt.exists_file hi
  obtain ⟨lower, below, hlower, hbelow, hstands_below⟩ := hbuilt.exists_file hj
  have hparent_file : parent.file = upper.absolute := by
    obtain ⟨route, hroute, -, hfile⟩ := hstands_above.at?_eq_some
    rw [← hfile, Option.some.inj (hparent.symm.trans hroute)]
  have hchild_file : child.file = lower.absolute := by
    obtain ⟨route, hroute, -, hfile⟩ := hstands_below.at?_eq_some
    rw [← hfile, Option.some.inj (hchild_at.symm.trans hroute)]
  have habove_plain := (hfiles upper (List.mem_of_getElem? hupper)).allPlain habove
  have hbelow_plain := (hfiles lower (List.mem_of_getElem? hlower)).allPlain hbelow
  have hroot : (Pending.start mount).Rooted := hmount.rooted
  have hall := hbuilt.allStand fun file hfile lists hlists => (hfiles file hfile).allPlain hlists
  obtain ⟨rest, hrest, heq⟩ :=
    Forest.Stands.continues hroot hall habove_plain hbelow_plain (List.cons_ne_nil place [])
      hstands_above hstands_below
  refine ⟨i, j, upper, lower, above, below, hij, hupper, hlower, hbuilt.places_iff.mpr hi,
    hbuilt.places_iff.mpr hj, hparent_file, hchild_file, habove, hbelow, ⟨rest, heq.symm⟩, ?_⟩
  intro hsame
  rw [hsame] at heq
  exact hrest (List.append_right_eq_self.mp heq.symm)

/-- The pages of a shop: two whose names read the same, and one in the folder of the second. -/
def shopPages : List ScannedFile :=
  [⟨"id.vue", "/pages/id.vue", "Shop"⟩, ⟨"[id].vue", "/pages/[id].vue", "Shop"⟩,
    ⟨"[id]/buy.vue", "/pages/[id]/buy.vue", "Shop"⟩]

/-- A page in the folder of a parameter is nested in the page of the parameter, and not in the one
    before it whose literal name reads the same. -/
theorem shop_nested_in_parameter :
    ∃ (i j : Nat) (upper lower : ScannedFile) (above below : List (List Token)),
      i < j ∧ shopPages[i]? = some upper ∧ shopPages[j]? = some lower ∧
      Forest.Places (.ofDomain "Shop") shopPages i [1] ∧
      Forest.Places (.ofDomain "Shop") shopPages j [1, 0] ∧
      "/pages/[id].vue" = upper.absolute ∧ "/pages/[id]/buy.vue" = lower.absolute ∧
      Path.tokens upper.relative = .ok above ∧ Path.tokens lower.relative = .ok below ∧
      above <+: below ∧ above ≠ below := by
  have hforest : (Forest.build shopPages (.ofDomain "Shop")).result = .ok
      [⟨some "Shop/id", "/Shop/id", "/pages/id.vue", []⟩,
        ⟨some "Shop/id", "/Shop/:id()", "/pages/[id].vue",
          [⟨some "Shop/id/buy", "/buy", "/pages/[id]/buy.vue", []⟩]⟩] := by
    decide +kernel
  have hfiles : ∀ file ∈ shopPages, Path.IndexIsLiteral file.relative := by decide +kernel
  have hnested := Forest.layout_sound (.ofDomain "Shop") hfiles hforest
    (Forest.at?_singleton _ 1) (List.getElem?_cons_zero)
  exact hnested

end FileRoutes
