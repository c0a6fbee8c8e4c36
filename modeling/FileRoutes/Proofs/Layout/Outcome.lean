import FileRoutes.Proofs.Forest.Ancestors
import FileRoutes.Proofs.Layout.Built

namespace FileRoutes

open Segment

/-!
# Layouts — when files can be placed

Whether a file can be placed is decided by its own segments, and so is the fault that is told if it
cannot. The mount and the routes that are there do not matter, however far the file is nested.

* `mapM_eq_error_iff` — the fault of a list is that of the first element with one;
* `Forest.place_eq_error_iff`, `Forest.Descent.place` — placing fails where a segment has no tokens,
  and the way of tokens is taken, with `Forest.nestings` for what is told on it;
* `Forest.insert_eq_error_iff`, `Forest.insert_eq_ok_iff` — both for a file and a mount;
* `ScannedFile.fault?` — why a file has no route;
* `Forest.build_eq_error_iff` — building tells the first fault of the list.
-/

/-! ### One file -/

/-- Mapping the value of a result keeps its fault. -/
private theorem map_eq_error_iff {ε α β : Type} {f : α → β} {result : Except ε α} {fault : ε} :
    result.map f = .error fault ↔ result = .error fault := by
  cases result <;> simp [Except.map]

/-- A list whose first element has a fault has this fault. -/
private theorem mapM_cons_error {ε α β : Type} {f : α → Except ε β} {first : α} {fault : ε}
    (h : f first = .error fault) (rest : List α) : (first :: rest).mapM f = .error fault := by
  rw [List.mapM_cons, h]
  rfl

/-- A list whose first element has a value has the values of the rest behind it. -/
private theorem mapM_cons_ok {ε α β : Type} {f : α → Except ε β} {first : α} {value : β}
    (h : f first = .ok value) (rest : List α) :
    (first :: rest).mapM f = (rest.mapM f).map (value :: ·) := by
  rw [List.mapM_cons, h]
  cases rest.mapM f <;> rfl

/-- A list has a fault exactly if one of its elements has it and all those before have values. -/
theorem mapM_eq_error_iff {ε α β : Type} {f : α → Except ε β} {list : List α} {fault : ε} :
    list.mapM f = .error fault ↔
      ∃ before first after, list = before ++ first :: after ∧
        (∀ earlier ∈ before, ∃ value, f earlier = .ok value) ∧ f first = .error fault := by
  induction list with
  | nil =>
    constructor
    · exact nofun
    · rintro ⟨before, first, after, hlist, -⟩
      simp at hlist
  | cons head rest ih =>
    cases hhead : f head with
    | error cause =>
      rw [mapM_cons_error hhead]
      constructor
      · intro h
        cases h
        exact ⟨[], head, rest, rfl, nofun, hhead⟩
      · rintro ⟨_ | ⟨earlier, before⟩, first, after, hlist, hbefore, hfirst⟩
        · rw [← (List.cons.inj hlist).1, hhead] at hfirst
          cases hfirst
          rfl
        · -- the head would have a value
          obtain ⟨value, hvalue⟩ := hbefore earlier (by simp)
          rw [← (List.cons.inj hlist).1, hhead] at hvalue
          cases hvalue
    | ok value =>
      rw [mapM_cons_ok hhead, map_eq_error_iff, ih]
      constructor
      · rintro ⟨before, first, after, rfl, hbefore, hfirst⟩
        exact ⟨head :: before, first, after, rfl,
          List.forall_mem_cons.mpr ⟨⟨value, hhead⟩, hbefore⟩, hfirst⟩
      · rintro ⟨_ | ⟨earlier, before⟩, first, after, hlist, hbefore, hfirst⟩
        · -- the head would have a fault
          rw [← (List.cons.inj hlist).1, hhead] at hfirst
          cases hfirst
        · exact ⟨before, first, after, (List.cons.inj hlist).2,
            (List.forall_mem_cons.mp hbefore).2, hfirst⟩

/-- **Placing fails with the tokens.** A file cannot be placed exactly if one of its segments has no
    tokens, and the fault is that of the first such segment. -/
theorem Forest.place_eq_error_iff {file : ScannedFile} {pending : Pending}
    {segments : List String} {level : Forest} {fault : Malformed} :
    (Forest.place file pending segments level).result = .error fault ↔
      segments.mapM tokenize = .error fault := by
  induction segments generalizing pending level with
  | nil => exact ⟨nofun, nofun⟩
  | cons segment rest ih =>
    unfold Forest.place
    cases htokens : tokenize segment with
    | error cause =>
      rw [mapM_cons_error htokens]
      exact ⟨fun h => by cases h; rfl, fun h => by cases h; rfl⟩
    | ok tokens =>
      rw [mapM_cons_ok htokens, map_eq_error_iff]
      dsimp only
      split
      · -- what is put together around a layout fails as what is placed below it
        rw [Logged.result_note, Logged.result_map, map_eq_error_iff, ih]
      · exact ih

/-- A level is split around the first route that passes the test. -/
theorem Forest.splitAt?_eq_some {test : Route → Bool} {before : Forest} {found : Route}
    (after : Forest) (hbefore : ∀ route ∈ before, test route = false)
    (hfound : test found = true) :
    Forest.splitAt? test (before ++ found :: after) = some ⟨before, found, after⟩ := by
  induction before with
  | nil =>
    rw [List.nil_append, Forest.splitAt?, if_pos hfound]
  | cons first before ih =>
    have hfirst := hbefore first (by simp)
    rw [List.cons_append, Forest.splitAt?, if_neg (by simp [hfirst]),
      ih fun route hroute => hbefore route (List.mem_cons_of_mem _ hroute)]
    rfl

/-- The events that tell of the layouts above the address of a file. -/
def Forest.nestings (file : ScannedFile) (forest : Forest) (address : List Nat) : List Event :=
  (Forest.ancestors forest address).map fun layout => .nested file.relative layout.file

/-- Unfolding lemma: the layout on the level is told of before those below it. -/
theorem Forest.nestings_cons (file : ScannedFile) (before : Forest) (found : Route)
    (after : Forest) {address : List Nat} (haddress : address ≠ []) :
    Forest.nestings file (before ++ found :: after) (before.length :: address)
      = .nested file.relative found.file :: Forest.nestings file found.children address := by
  have hroute : (before ++ found :: after)[before.length]? = some found := by simp
  rw [Forest.nestings, Forest.ancestors_cons hroute haddress, List.map_cons, Forest.nestings]

/-- **The way is taken.** Segments that have tokens are placed where the way of the tokens leads,
    and all that is told is which layouts stand above the address. -/
theorem Forest.Descent.place {file : ScannedFile} {pending : Pending}
    {lists : List (List Token)} {level level' : Forest} {address : List Nat}
    (h : Forest.Descent file pending lists level address level') {segments : List String}
    (hlists : List.Forall₂ (fun segment tokens => tokenize segment = .ok tokens) segments lists) :
    Forest.place file pending segments level
      = ⟨Forest.nestings file level address, .ok level'⟩ := by
  induction h generalizing segments with
  | settle pending level =>
    cases hlists
    rw [Forest.nestings, Forest.ancestors_singleton]
    rfl
  | @enter pending tokens rest before found after children address hrest hbefore hfound hbelow ih =>
    obtain ⟨segment, later, htokens, hlater, rfl⟩ := List.forall₂_cons_right_iff.mp hlists
    have hlater_ne : later ≠ [] := by
      rintro rfl
      exact hrest (List.forall₂_nil_left_iff.mp hlater)
    have hsplit : Forest.splitAt?
        (Route.isLayout (pending.nextName tokens) (pending.layoutPath tokens))
        (before ++ found :: after) = some ⟨before, found, after⟩ :=
      Forest.splitAt?_eq_some after hbefore hfound
    have hplaced : Forest.place file ⟨pending.nextName tokens, ""⟩ later found.children
        = ⟨Forest.nestings file found.children address, .ok children⟩ := ih hlater
    obtain ⟨_, hgraft⟩ := hbelow.graft
    rw [Forest.nestings_cons file before found after hgraft.ne_nil]
    unfold Forest.place
    rw [htokens]
    dsimp only
    rw [if_neg (by simpa using hlater_ne), hsplit]
    dsimp only
    rw [hplaced]
    rfl
  | @pass pending tokens rest level level' address hlevel _ ih =>
    obtain ⟨segment, later, htokens, hlater, rfl⟩ := List.forall₂_cons_right_iff.mp hlists
    have hnone : (if later.isEmpty then none else Forest.splitAt?
        (Route.isLayout (pending.nextName tokens) (pending.layoutPath tokens)) level) = none := by
      by_cases hempty : later = []
      · rw [if_pos (by simpa using hempty)]
      · have hrest : rest ≠ [] := by
          rintro rfl
          exact hempty (List.forall₂_nil_right_iff.mp hlater)
        rw [if_neg (by simpa using hempty)]
        exact Forest.splitAt?_eq_none_iff.mpr (hlevel.resolve_left hrest)
    unfold Forest.place
    rw [htokens]
    dsimp only
    rw [hnone]
    exact ih hlater

/-- A file is added to a forest where the way of its tokens leads. -/
theorem Forest.Descent.insert {mount : Mount} {file : ScannedFile} {lists : List (List Token)}
    {forest forest' : Forest} {address : List Nat}
    (h : Forest.Descent file (.start mount) lists forest address forest')
    (htokens : Path.tokens file.relative = .ok lists) :
    Forest.insert mount file forest = ⟨Forest.nestings file forest address, .ok forest'⟩ := by
  unfold Forest.insert
  rw [h.place (Path.tokens_eq_ok_iff.mp htokens)]
  rfl

/-! ### A list of files -/

/-- Why a file has no route, if it has none. -/
def ScannedFile.fault? (file : ScannedFile) : Option MalformedFile :=
  match Path.tokens file.relative with
  | .error cause => some ⟨file.relative, cause⟩
  | .ok _ => none

/-- A file is not added exactly if it has a fault, which is then told. -/
theorem Forest.insert_eq_error_iff {mount : Mount} {file : ScannedFile} {forest : Forest}
    {fault : MalformedFile} :
    (Forest.insert mount file forest).result = .error fault ↔ file.fault? = some fault := by
  have hplace : ∀ cause, (Forest.place file (.start mount) (Path.segments file.relative)
      forest).result = .error cause ↔ Path.tokens file.relative = .error cause := fun _ =>
    Forest.place_eq_error_iff
  unfold Forest.insert ScannedFile.fault?
  rw [Logged.result_mapError]
  cases htokens : Path.tokens file.relative with
  | error cause =>
    rw [(hplace cause).mpr htokens]
    simp [Except.mapError]
  | ok lists =>
    cases hplaced : (Forest.place file (.start mount) (Path.segments file.relative)
        forest).result with
    | error cause =>
      rw [(hplace cause).mp hplaced] at htokens
      cases htokens
    | ok forest' => exact ⟨nofun, nofun⟩

/-- A file is added exactly where its tokens lead. -/
theorem Forest.insert_eq_ok_iff {mount : Mount} {file : ScannedFile} {forest forest' : Forest} :
    (Forest.insert mount file forest).result = .ok forest' ↔
      ∃ lists address, Path.tokens file.relative = .ok lists ∧
        Forest.Descent file (.start mount) lists forest address forest' := by
  constructor
  · exact Forest.descent_of_insert
  · rintro ⟨lists, address, htokens, hdescent⟩
    rw [hdescent.insert htokens]

/-- **Building tells the first fault.** A list of files has no forest exactly if a file of it has a
    fault, and the fault that is told is that of the first such file. -/
theorem Forest.build_eq_error_iff {mount : Mount} {files : List ScannedFile}
    {fault : MalformedFile} :
    (Forest.build files mount).result = .error fault ↔
      files.findSome? ScannedFile.fault? = some fault := by
  rw [Forest.result_build]
  generalize ([] : Forest) = forest
  induction files generalizing forest with
  | nil => exact ⟨nofun, nofun⟩
  | cons file rest ih =>
    rw [Forest.insertAll, Logged.result_andThen, List.findSome?_cons]
    cases hinsert : (Forest.insert mount file forest).result with
    | error cause =>
      rw [Forest.insert_eq_error_iff.mp hinsert]
      exact ⟨fun h => by cases h; rfl, fun h => by cases h; rfl⟩
    | ok middle =>
      have hnone : file.fault? = none := by
        rw [Option.eq_none_iff_forall_ne_some]
        intro cause hcause
        rw [Forest.insert_eq_error_iff.mpr hcause] at hinsert
        cases hinsert
      rw [hnone]
      exact ih middle

end FileRoutes
