import FileRoutes.Proofs.Forest.Lookup
import Mathlib.Algebra.GroupWithZero.Nat

namespace FileRoutes

/-!
# Forests — all routes, parents first

* `Forest.preorder` — the routes of a forest at any depth, a route before its children and siblings
  in order;
* `Forest.addresses` — the addresses where routes stand, in the order of the dictionary
  (`Forest.pairwise_addresses`), which is that of the routes (`Forest.map_at?_addresses`);
* `Forest.lookup_eq_find?_preorder` — the first route of a name is found;
* `Forest.lookup_preorder` — the statement about looking up and counting.
-/

mutual

/-- The routes in the tree of a route, the route itself first. -/
def Route.preorder : Route → List Route
  | ⟨name, path, file, children⟩ => ⟨name, path, file, children⟩ :: Forest.preorder children

/-- The routes of a forest at any depth, a route before its children. -/
def Forest.preorder : Forest → List Route
  | [] => []
  | route :: rest => route.preorder ++ Forest.preorder rest

end

/-- Unfolding lemma: the empty forest has no routes. -/
@[simp] theorem Forest.preorder_nil : Forest.preorder [] = [] := rfl

/-- Unfolding lemma: a route stands before all routes below it, and these before those beside it. -/
@[simp] theorem Forest.preorder_cons (route : Route) (rest : Forest) :
    Forest.preorder (route :: rest)
      = route :: (Forest.preorder route.children ++ Forest.preorder rest) := by
  obtain ⟨name, path, file, children⟩ := route
  simp [Forest.preorder, Route.preorder]

/-! ### The order of addresses -/

/-- The addresses where routes stand: that of the first route, those below it, and those beside it,
    which are one place further. -/
def Forest.addresses : Forest → List (List Nat)
  | [] => []
  | ⟨_, _, _, children⟩ :: rest =>
    [0] :: ((Forest.addresses children).map (0 :: ·) ++
      (Forest.addresses rest).map (List.modifyHead (· + 1)))

/-- Unfolding lemma: no route stands in the empty forest. -/
@[simp] theorem Forest.addresses_nil : Forest.addresses [] = [] := by
  simp [Forest.addresses]

/-- Unfolding lemma: the addresses of a forest are taken route by route. -/
@[simp] theorem Forest.addresses_cons (route : Route) (rest : Forest) :
    Forest.addresses (route :: rest)
      = [0] :: ((Forest.addresses route.children).map (0 :: ·) ++
          (Forest.addresses rest).map (List.modifyHead (· + 1))) := by
  obtain ⟨name, path, file, children⟩ := route
  simp [Forest.addresses]

/-- No route stands at the empty address. -/
theorem Forest.nil_not_mem_addresses (forest : Forest) : [] ∉ Forest.addresses forest := by
  induction forest using Forest.induct with
  | nil => simp
  | cons route rest below beside => simpa [List.modifyHead_eq_nil_iff] using beside

/-- An address that is listed has a first place. -/
theorem Forest.exists_cons_of_mem_addresses {forest : Forest} {address : List Nat}
    (h : address ∈ Forest.addresses forest) : ∃ place more, address = place :: more :=
  List.exists_cons_of_ne_nil fun hnil => forest.nil_not_mem_addresses (hnil ▸ h)

/-- **The addresses are those of the routes, one by one.** -/
theorem Forest.map_at?_addresses (forest : Forest) :
    (Forest.addresses forest).map (Forest.at? forest) = (Forest.preorder forest).map some := by
  induction forest using Forest.induct with
  | nil => simp
  | cons route rest below beside =>
    have hbelow : ∀ address ∈ Forest.addresses route.children,
        Forest.at? (route :: rest) (0 :: address) = Forest.at? route.children address := by
      intro address haddress
      obtain ⟨place, more, rfl⟩ := Forest.exists_cons_of_mem_addresses haddress
      rw [Forest.at?_cons (List.cons_ne_nil _ _)]
      rfl
    have hbeside : ∀ address ∈ Forest.addresses rest,
        Forest.at? (route :: rest) (address.modifyHead (· + 1)) = Forest.at? rest address := by
      intro address haddress
      obtain ⟨place, more, rfl⟩ := Forest.exists_cons_of_mem_addresses haddress
      exact Forest.at?_cons_succ route rest place more
    rw [Forest.addresses_cons, Forest.preorder_cons, List.map_cons, List.map_cons, List.map_append,
      List.map_append, ← below, ← beside, List.map_map, List.map_map]
    congr 2
    · exact List.map_congr_left hbelow
    · exact List.map_congr_left hbeside

/-- The addresses that are listed are all those where routes stand. -/
theorem Forest.mem_addresses_iff {forest : Forest} {address : List Nat} :
    address ∈ Forest.addresses forest ↔ (Forest.at? forest address).isSome = true := by
  constructor
  · intro haddress
    have hroute := List.mem_map_of_mem (f := Forest.at? forest) haddress
    rw [Forest.map_at?_addresses] at hroute
    obtain ⟨route, -, hroute⟩ := List.mem_map.mp hroute
    rw [← hroute]
    rfl
  · -- the first place tells whether the route is the first one, below it, or beside it
    induction forest using Forest.induct generalizing address with
    | nil => simp
    | cons route rest below beside =>
      intro haddress
      rw [Forest.addresses_cons, List.mem_cons, List.mem_append]
      rcases address with _ | ⟨_ | place, more⟩
      · simp at haddress
      · by_cases hmore : more = []
        · exact .inl (by rw [hmore])
        · rw [Forest.at?_cons hmore] at haddress
          exact .inr (.inl (List.mem_map_of_mem (below haddress)))
      · rw [Forest.at?_cons_succ] at haddress
        exact .inr (.inr (List.mem_map.mpr ⟨place :: more, beside haddress, rfl⟩))

/-- Addresses stay in order one place further on the top level. -/
private theorem modifyHead_succ_lt {left right : List Nat} (h : left < right) :
    left.modifyHead (· + 1) < right.modifyHead (· + 1) := by
  cases left with
  | nil =>
    cases right with
    | nil => exact absurd h (List.lt_irrefl [])
    | cons place more => exact List.nil_lt_cons _ _
  | cons place more =>
    cases right with
    | nil => cases h
    | cons place' more' =>
      rw [List.cons_lt_cons_iff] at h
      rw [List.modifyHead_cons, List.modifyHead_cons, List.cons_lt_cons_iff]
      exact h.imp Nat.succ_lt_succ fun ⟨hplace, hmore⟩ => ⟨congrArg (· + 1) hplace, hmore⟩

/-- **The addresses are in the order of the dictionary.** -/
theorem Forest.pairwise_addresses (forest : Forest) :
    (Forest.addresses forest).Pairwise (· < ·) := by
  induction forest using Forest.induct with
  | nil => simp
  | cons route rest below beside =>
    -- what stands beside the first route has another first place
    have hbeside : ∀ more : List Nat,
        ∀ address ∈ (Forest.addresses rest).map (List.modifyHead (· + 1)), 0 :: more < address := by
      intro more address haddress
      obtain ⟨before, hbefore, rfl⟩ := List.mem_map.mp haddress
      obtain ⟨place, later, rfl⟩ := Forest.exists_cons_of_mem_addresses hbefore
      exact List.cons_lt_cons_iff.mpr (.inl (Nat.succ_pos place))
    rw [Forest.addresses_cons, List.pairwise_cons, List.pairwise_append, List.pairwise_map]
    refine ⟨fun address haddress => ?_, ?_, beside.map _ fun _ _ => modifyHead_succ_lt, ?_⟩
    · rcases List.mem_append.mp haddress with hbelow | haddress
      · obtain ⟨more, hmore, rfl⟩ := List.mem_map.mp hbelow
        obtain ⟨place, later, rfl⟩ := Forest.exists_cons_of_mem_addresses hmore
        exact List.cons_lt_cons_iff.mpr (.inr ⟨rfl, List.nil_lt_cons _ _⟩)
      · exact hbeside [] address haddress
    · exact below.imp fun h => List.cons_lt_cons_iff.mpr (.inr ⟨rfl, h⟩)
    · intro address haddress other hother
      obtain ⟨more, -, rfl⟩ := List.mem_map.mp haddress
      exact hbeside more other hother

/-! ### Looking up and counting -/

/-- The first route of a name in the order of the list is the one that is found. -/
theorem Forest.lookup_eq_find?_preorder (name : String) (forest : Forest) :
    Forest.lookup name forest
      = (Forest.preorder forest).find? fun route => route.name == some name := by
  induction forest using Forest.induct with
  | nil => rfl
  | cons route rest below beside =>
    rw [Forest.lookup_cons, Route.lookup_eq, Forest.preorder_cons, List.find?_cons,
      List.find?_append, ← below, ← beside]
    -- a search below that finds nothing goes on beside, as a search of the list does
    by_cases hname : route.name = some name
    · rw [if_pos hname, hname, beq_self_eq_true, Option.some_or]
    · have hfails : (route.name == some name) = false := beq_eq_false_iff_ne.mpr hname
      rw [if_neg hname, hfails]

/-- The routes that are listed are those that stand at some address. -/
theorem Forest.mem_preorder_iff {forest : Forest} {route : Route} :
    route ∈ Forest.preorder forest ↔ ∃ address, Forest.at? forest address = some route := by
  have hsome : route ∈ Forest.preorder forest ↔ some route ∈ (Forest.preorder forest).map some := by
    simp
  rw [hsome, ← Forest.map_at?_addresses, List.mem_map]
  constructor
  · rintro ⟨address, -, hroute⟩
    exact ⟨address, hroute⟩
  · rintro ⟨address, hroute⟩
    exact ⟨address, Forest.mem_addresses_iff.mpr (by rw [hroute]; rfl), hroute⟩

/-- The list of all routes is as long as their number. -/
theorem Forest.length_preorder (forest : Forest) :
    (Forest.preorder forest).length = Forest.count forest := by
  induction forest using Forest.induct with
  | nil => rfl
  | cons route rest below beside =>
    rw [Forest.preorder_cons, List.length_cons, List.length_append, below, beside,
      Forest.count_cons, Route.count_eq]
    omega

/-- The routes of a forest are counted tree by tree. -/
theorem Forest.sum_map_count (forest : Forest) :
    (forest.map Route.count).sum = Forest.count forest := by
  induction forest with
  | nil => rfl
  | cons route rest ih => rw [List.map_cons, List.sum_cons, ih, Forest.count_cons]

/-- **Looking up and counting follow the order of the routes, parents first.** The routes in that
    order are those at the addresses of the forest, of which the earlier in the dictionary comes
    first: so a route stands before those below it, and siblings stand in order. Looking up a name
    finds the first route of that name in this order, and none exactly if no route at any depth has
    it. The counts of the trees add up to the length of the list. -/
theorem Forest.lookup_preorder (forest : Forest) (name : String) :
    (Forest.addresses forest).Pairwise (· < ·) ∧
      (∀ address, address ∈ Forest.addresses forest ↔
        (Forest.at? forest address).isSome = true) ∧
      (Forest.preorder forest).map some = (Forest.addresses forest).map (Forest.at? forest) ∧
      Forest.lookup name forest
        = (Forest.preorder forest).find? (fun route => route.name == some name) ∧
      (Forest.lookup name forest = none ↔
        ∀ address route, Forest.at? forest address = some route → route.name ≠ some name) ∧
      (forest.map Route.count).sum = (Forest.preorder forest).length := by
  refine ⟨forest.pairwise_addresses, fun _ => Forest.mem_addresses_iff,
    forest.map_at?_addresses.symm, Forest.lookup_eq_find?_preorder name forest, ?_, ?_⟩
  · rw [Forest.lookup_eq_find?_preorder, List.find?_eq_none]
    constructor
    · intro hnone address route hroute hname
      exact hnone route (Forest.mem_preorder_iff.mpr ⟨address, hroute⟩) (beq_iff_eq.mpr hname)
    · intro hnone route hroute hname
      obtain ⟨address, haddress⟩ := Forest.mem_preorder_iff.mp hroute
      exact hnone address route haddress (beq_iff_eq.mp hname)
  · rw [Forest.sum_map_count, Forest.length_preorder]

end FileRoutes
