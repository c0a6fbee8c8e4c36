import FileRoutes.Proofs.Normalize.Passes
import Mathlib.Data.Finset.Card
import Mathlib.Data.List.Induction

namespace FileRoutes

/-!
# Normalization — which names are reported

The review of a forest passes the names taken so far from route to route, in post-order. What it
reports can be told from the list of names alone.

* `Forest.named` — the names of a forest with the files of their routes, in post-order;
* `repeats` — a diagnostic for every name in a list that stands there before;
* `Owners.take_covers` — one name: what is reported of it, and what is known after it;
* `Forest.review_covers` — a whole forest, by induction over its shape;
* `Forest.diagnostics_normalize` — the diagnostics of a forest are the repeated names of its
  registered form, and there are as many as names are in excess.
-/

/-! ### Names in post-order -/

/-- The name of a route with its file, if it has a name. -/
def Route.named? (route : Route) : Option (String × String) := route.name.map (·, route.file)

/-- The names of a forest with the files of their routes, in post-order. -/
def Forest.named (forest : Forest) : List (String × String) :=
  (Forest.postorder forest).filterMap Route.named?

/-- Unfolding lemma: a name stands behind those below it and before those beside it. -/
theorem Forest.named_cons (route : Route) (rest : Forest) :
    Forest.named (route :: rest)
      = (Forest.named route.children ++ route.named?.toList) ++ Forest.named rest := by
  unfold Forest.named
  rw [Forest.postorder_cons, List.filterMap_append, List.filterMap_cons]
  cases route.named? <;> simp

/-! ### Repeated names -/

/-- A diagnostic for every name that stands in the list before, with the file that it stands with
    first. -/
def repeats (named : List (String × String)) : List Diagnostic :=
  named.zipIdx.filterMap fun ((name, file), place) =>
    ((named.take place).lookup name).map fun firstFile => ⟨name, firstFile, file⟩

/-- One more name adds a diagnostic if it stands in the list before. -/
theorem repeats_concat (named : List (String × String)) (name file : String) :
    repeats (named ++ [(name, file)])
      = repeats named
        ++ ((named.lookup name).map fun firstFile => Diagnostic.mk name firstFile file).toList := by
  unfold repeats
  rw [List.zipIdx_append, List.filterMap_append]
  congr 1
  · apply List.filterMap_congr
    rintro ⟨⟨earlier, earlierFile⟩, place⟩ hplace
    have hlt := (List.mem_zipIdx hplace).2.1
    have htake : (named ++ [(name, file)]).take place = named.take place :=
      List.take_append_of_le_length (by omega)
    simp only [htake]
  · cases h : named.lookup name <;> simp [h]

/-- A name does not stand in a list exactly if it is not found there. -/
theorem lookup_eq_none_iff_not_mem {named : List (String × String)} {name : String} :
    named.lookup name = none ↔ name ∉ named.map Prod.fst := by
  rw [List.lookup_eq_none_iff, List.mem_map]
  constructor
  · rintro h ⟨pair, hpair, rfl⟩
    simpa using h pair hpair
  · intro h pair hpair
    exact bne_iff_ne.mpr fun heq => h ⟨pair, hpair, heq.symm⟩

/-- There are as many diagnostics as names in excess of the distinct ones. -/
theorem length_repeats (named : List (String × String)) :
    (repeats named).length + (named.map Prod.fst).toFinset.card = named.length := by
  induction named using List.reverseRecOn with
  | nil => rfl
  | append_singleton named pair ih =>
    obtain ⟨name, file⟩ := pair
    have hinsert : ((named ++ [(name, file)]).map Prod.fst).toFinset
        = insert name (named.map Prod.fst).toFinset := by
      ext other
      simp
    rw [repeats_concat, hinsert, List.length_append, List.length_append]
    -- the last name is either a new one or reported
    cases hlookup : named.lookup name with
    | none =>
      have hnew : name ∉ (named.map Prod.fst).toFinset := by
        rw [List.mem_toFinset]
        exact lookup_eq_none_iff_not_mem.mp hlookup
      rw [Finset.card_insert_of_notMem hnew, Option.map_none, Option.toList_none, List.length_nil,
        List.length_singleton]
      omega
    | some firstFile =>
      have hold : name ∈ (named.map Prod.fst).toFinset := by
        rw [List.mem_toFinset]
        by_contra hnew
        rw [lookup_eq_none_iff_not_mem.mpr hnew] at hlookup
        cases hlookup
      rw [Finset.insert_eq_of_mem hold, Option.map_some, Option.toList_some,
        List.length_singleton, List.length_singleton]
      omega

/-- Nothing is repeated exactly if the names are distinct. -/
theorem repeats_eq_nil_iff (named : List (String × String)) :
    repeats named = [] ↔ (named.map Prod.fst).Nodup := by
  have hcount := length_repeats named
  rw [List.card_toFinset] at hcount
  have hlength : (named.map Prod.fst).length = named.length := List.length_map ..
  constructor
  · intro h
    rw [h, List.length_nil, Nat.zero_add, ← hlength] at hcount
    exact List.dedup_eq_self.mp ((List.dedup_sublist _).eq_of_length hcount)
  · intro h
    rw [List.dedup_eq_self.mpr h, hlength] at hcount
    exact List.length_eq_zero_iff.mp (by omega)

/-! ### The review of a forest -/

/-- The diagnostics among the findings of a review. -/
def Review.diagnostics (review : Review) : List Diagnostic :=
  review.findings.filterMap Finding.diagnostic?

/-- Whether a review that looked at some names after others reports what they repeat, and knows the
    first files of all of them. -/
structure Review.Covers (review : Review) (seen named : List (String × String)) : Prop where
  diagnostics : repeats seen ++ review.diagnostics = repeats (seen ++ named)
  owners : ∀ name, review.owners.lookup name = (seen ++ named).lookup name

/-- Two reviews in a row cover the names of both. -/
theorem Review.Covers.append {first second : Review} {seen here there : List (String × String)}
    (hfirst : first.Covers seen here) (hsecond : second.Covers (seen ++ here) there) :
    (Review.mk (first.findings ++ second.findings) second.owners).Covers seen (here ++ there) where
  diagnostics := by
    rw [← List.append_assoc seen, ← hsecond.diagnostics, ← hfirst.diagnostics]
    simp [Review.diagnostics]
  owners := by
    intro name
    rw [← List.append_assoc seen]
    exact hsecond.owners name

/-- Findings that are no diagnostics do not matter. -/
theorem Review.Covers.note {review : Review} {seen named : List (String × String)}
    (h : review.Covers seen named) {notes : List Finding}
    (hnotes : notes.filterMap Finding.diagnostic? = []) :
    (Review.mk (review.findings ++ notes) review.owners).Covers seen named where
  diagnostics := by
    rw [← h.diagnostics, Review.diagnostics, List.filterMap_append, hnotes, List.append_nil]
    rfl
  owners := h.owners

/-- Where there is no name, nothing is to cover. -/
theorem Owners.covers_nil {owners : Owners} {seen : List (String × String)}
    (h : ∀ name, owners.lookup name = seen.lookup name) : (Review.mk [] owners).Covers seen [] where
  diagnostics := by simp [Review.diagnostics]
  owners := by simpa using h

/-- **One name.** It is reported if it was seen before, and is known from then on. -/
theorem Owners.take_covers {owners : Owners} {seen : List (String × String)}
    (h : ∀ name, owners.lookup name = seen.lookup name) (name file : String) :
    (owners.take name file).Covers seen [(name, file)] := by
  unfold Owners.take
  rw [h name]
  cases hlookup : seen.lookup name with
  | none =>
    constructor
    · simp [repeats_concat, hlookup, Review.diagnostics]
    · intro other
      rw [List.lookup_append, List.lookup_cons, List.lookup_cons, h other]
      by_cases hother : other = name
      · subst hother
        simp [hlookup]
      · simp [beq_eq_false_iff_ne.mpr hother]
  | some firstFile =>
    -- the owners stay as they are, and the list still gives the first file
    constructor
    · simp [repeats_concat, hlookup, Review.diagnostics, Finding.diagnostic?]
    · intro other
      rw [List.lookup_append, List.lookup_cons, h other]
      by_cases hother : other = name
      · subst hother
        simp [hlookup]
      · simp [beq_eq_false_iff_ne.mpr hother]

/-- **One route.** If the review of its children covers their names, its own review covers its name
    after them. -/
theorem Route.review_covers {route : Route} {owners : Owners} {seen : List (String × String)}
    (h : (Forest.review owners route.children).Covers seen (Forest.named route.children)) :
    (route.review owners).Covers seen (Forest.named route.children ++ route.named?.toList) := by
  obtain ⟨name, path, file, children⟩ := route
  have hhandover : (if children.any Route.isPathless then [Finding.pathless file] else []).filterMap
      Finding.diagnostic? = [] := by
    split <;> rfl
  refine (h.note hhandover).append ?_
  cases name with
  | none => exact Owners.covers_nil h.owners
  | some name => exact Owners.take_covers h.owners name file

/-- **A whole forest.** Its review covers its names in post-order. -/
theorem Forest.review_covers (forest : Forest) {owners : Owners} {seen : List (String × String)}
    (h : ∀ name, owners.lookup name = seen.lookup name) :
    (Forest.review owners forest).Covers seen forest.named := by
  induction forest using Forest.induct generalizing owners seen with
  | nil => exact Owners.covers_nil h
  | cons route rest below beside =>
    have hroute := Route.review_covers (below h)
    rw [Forest.named_cons]
    exact hroute.append (beside hroute.owners)

/-- The diagnostics of a forest are the repeated names of its normalized form. -/
theorem Forest.diagnostics_normalize_eq (forest : Forest) :
    (Forest.normalize forest).diagnostics
      = repeats (Forest.named (Forest.normalize forest).routes) := by
  have hcovers : (Forest.review [] (Forest.register true forest)).Covers []
      (Forest.named (Forest.register true forest)) :=
    Forest.review_covers _ fun _ => rfl
  rw [Forest.normalize_eq]
  exact hcovers.diagnostics

/-- **Exactly the repeated names are reported.** The diagnostics of a forest are, in post-order, one
    for every name of its normalized form that another route had before, with the file that had it
    first; so there are as many as names in excess of the distinct ones, and none exactly if the
    names are distinct. -/
theorem Forest.diagnostics_normalize (forest : Forest) :
    let named := (Forest.normalize forest).routes.named
    (Forest.normalize forest).diagnostics = repeats named ∧
      (Forest.normalize forest).diagnostics.length + (named.map Prod.fst).toFinset.card
        = named.length ∧
      ((Forest.normalize forest).diagnostics = [] ↔ (named.map Prod.fst).Nodup) := by
  intro named
  have hreview : (Forest.normalize forest).diagnostics = repeats named :=
    Forest.diagnostics_normalize_eq forest
  rw [hreview]
  exact ⟨rfl, length_repeats named, repeats_eq_nil_iff named⟩

/-- Three routes of one name, one of them below a route that gives its own name to another child:
    the second and the third are reported, each with the file of the first. -/
example :
    Forest.normalize [
        ⟨some "shop/cart", "/shop/cart", "shop-cart.vue", []⟩,
        ⟨some "shop", "/shop", "shop.vue",
          [⟨some "shop/cart", "/cart", "shop/cart.vue", []⟩,
            ⟨some "shop/index", "/", "shop/index.vue", []⟩]⟩,
        ⟨some "shop/cart", "/shop/cart", "shop/cart.ts", []⟩]
      = ⟨[⟨some "shop-cart", "/shop/cart", "shop-cart.vue", []⟩,
          ⟨none, "/shop", "shop.vue",
            [⟨some "shop-cart", "cart", "shop/cart.vue", []⟩,
              ⟨some "shop", "", "shop/index.vue", []⟩]⟩,
          ⟨some "shop-cart", "/shop/cart", "shop/cart.ts", []⟩],
        [.duplicate ⟨"shop-cart", "shop-cart.vue", "shop/cart.vue"⟩, .pathless "shop.vue",
          .duplicate ⟨"shop-cart", "shop-cart.vue", "shop/cart.ts"⟩]⟩ := by
  decide +kernel

end FileRoutes
