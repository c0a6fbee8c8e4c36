import FileRoutes.Proofs.Normalize.Stable
import FileRoutes.Session
import Mathlib.Logic.Relation

namespace FileRoutes.Session

/-!
# Sessions — what a step can change

A step works on the files and their mount, or on the forest. Problems are only found when a forest is
normalized, and they are kept for the rest of the session.

* `Step`, `Run` — one step, and any number of them;
* `Step.frame` — a step leaves the files and the mount as they are, or the forest and the problems;
* `Step.diagnostics` — a step adds no problems, or those of normalizing the forest;
* `Run.diagnostics_prefix`, `Run.mem_diagnostics` — what that says of a whole session;
* `normalize_build`, `forest_normalize_graft`, `normalize_normalize` — steps in a row.
-/

variable {session next later : Session}

/-- A step of a session. A build may fail, and then there is no step. -/
inductive Step : Session → Session → Prop
  | mountAt (session : Session) (domain : String) (mount : Mount) :
    Step session (session.mountAt domain mount)
  | add (session : Session) (files : List ScannedFile) : Step session (session.add files)
  | drop (session : Session) (relative : String) : Step session (session.drop relative)
  | clear (session : Session) : Step session session.clear
  | sort (session : Session) : Step session session.sort
  | build {session next : Session} (h : session.build = .ok next) : Step session next
  | extend {session next : Session} (h : session.extend = .ok next) : Step session next
  | graft (session : Session) (forest : Forest) : Step session (session.graft forest)
  | nest (session : Session) (name : Option String) (path file : String) :
    Step session (session.nest name path file)
  | normalize (session : Session) : Step session session.normalize.1

/-- Any number of steps. -/
def Run : Session → Session → Prop := Relation.ReflTransGen Step

/-! ### One step -/

/-- A build takes the forest of the files and leaves the rest. -/
theorem build_eq_ok_iff :
    session.build = .ok next ↔
      ∃ forest, (Forest.build session.files session.mount).result = .ok forest ∧
        next = { session with forest } := by
  unfold build
  cases (Forest.build session.files session.mount).result <;> simp [Except.map, eq_comm]

/-- An extension adds the forest of the files and leaves the rest. -/
theorem extend_eq_ok_iff :
    session.extend = .ok next ↔
      ∃ forest, (Forest.build session.files session.mount).result = .ok forest ∧
        next = { session with forest := session.forest ++ forest } := by
  unfold extend
  cases (Forest.build session.files session.mount).result <;> simp [Except.map, eq_comm]

/-- **What a step leaves as it is**: the forest and the problems, or the files with their domain and
    mount. -/
theorem Step.frame (h : Step session next) :
    next.forest = session.forest ∧ next.diagnostics = session.diagnostics ∨
      next.domain = session.domain ∧ next.mount = session.mount ∧ next.files = session.files := by
  cases h with
  | mountAt | add | drop | clear | sort => exact .inl ⟨rfl, rfl⟩
  | build h =>
    obtain ⟨forest, -, rfl⟩ := build_eq_ok_iff.mp h
    exact .inr ⟨rfl, rfl, rfl⟩
  | extend h =>
    obtain ⟨forest, -, rfl⟩ := extend_eq_ok_iff.mp h
    exact .inr ⟨rfl, rfl, rfl⟩
  | graft | nest | normalize => exact .inr ⟨rfl, rfl, rfl⟩

/-- **What a step adds to the problems**: nothing, or what normalizing the forest finds. -/
theorem Step.diagnostics (h : Step session next) :
    next.diagnostics = session.diagnostics ∨
      next.diagnostics = session.diagnostics ++ (Forest.normalize session.forest).diagnostics := by
  cases h with
  | normalize => exact .inr rfl
  -- a forest that is built or put together is not looked at
  | build h =>
    obtain ⟨forest, -, rfl⟩ := build_eq_ok_iff.mp h
    exact .inl rfl
  | extend h =>
    obtain ⟨forest, -, rfl⟩ := extend_eq_ok_iff.mp h
    exact .inl rfl
  | mountAt | add | drop | clear | sort | graft | nest => exact .inl rfl

/-! ### Whole sessions -/

/-- **Problems are kept.** Later steps only add to them. -/
theorem Run.diagnostics_prefix (h : Run session later) :
    session.diagnostics <+: later.diagnostics := by
  induction h with
  | refl => exact List.prefix_rfl
  | tail _ hstep ih =>
    rcases hstep.diagnostics with hsame | hmore
    · rwa [hsame]
    · rw [hmore]
      exact ih.trans (List.prefix_append ..)

/-- **Problems are of forests.** Each one was known before, or found by normalizing a forest that
    the session had on its way. -/
theorem Run.mem_diagnostics (h : Run session later) {diagnostic : Diagnostic}
    (hmem : diagnostic ∈ later.diagnostics) :
    diagnostic ∈ session.diagnostics ∨
      ∃ between, Run session between ∧ Run between later ∧
        diagnostic ∈ (Forest.normalize between.forest).diagnostics := by
  induction h with
  | refl => exact .inl hmem
  | @tail last later hrun hstep ih =>
    -- what was known before the last step is known after it
    have hearlier : diagnostic ∈ last.diagnostics → diagnostic ∈ session.diagnostics ∨
        ∃ between, Run session between ∧ Run between later ∧
          diagnostic ∈ (Forest.normalize between.forest).diagnostics := fun hlast =>
      (ih hlast).imp_right fun ⟨between, hfront, hback, hfound⟩ =>
        ⟨between, hfront, hback.tail hstep, hfound⟩
    rcases hstep.diagnostics with hsame | hmore
    · exact hearlier (hsame ▸ hmem)
    · rw [hmore, List.mem_append] at hmem
      exact hmem.elim hearlier fun hfound => .inr ⟨last, hrun, .single hstep, hfound⟩

/-! ### Steps in a row -/

/-- Building and then normalizing compiles the files. -/
theorem normalize_build (session : Session) :
    session.build.map (fun built => Forest.normalize built.forest)
      = Forest.compile session.files session.mount := by
  unfold build Forest.compile
  cases (Forest.build session.files session.mount).result <;> rfl

/-- Extending no forest is building one. -/
theorem extend_of_forest_eq_nil (h : session.forest = []) : session.extend = session.build := by
  unfold extend build
  rw [h]
  rfl

/-- Trees beside each other are normalized on their own. -/
theorem forest_normalize_graft (session : Session) (forest : Forest) :
    (session.graft forest).normalize.1.forest
      = session.normalize.1.forest ++ (Forest.normalize forest).routes := by
  unfold graft normalize
  dsimp only
  rw [Forest.routes_normalize, Forest.routes_normalize, Forest.routes_normalize,
    Forest.register_eq_map, Forest.register_eq_map, Forest.register_eq_map, List.map_append]

/-- **Normalizing again** finds the same problems once more and changes nothing else, if no path
    below the top level starts with two slashes. -/
theorem normalize_normalize (h : session.forest.SingleStarts) :
    session.normalize.1.normalize
      = ({ session.normalize.1 with
            diagnostics := session.diagnostics ++ session.normalize.2 ++ session.normalize.2 },
          session.normalize.2) := by
  have hagain : (Forest.normalize session.forest).routes.normalize
      = Forest.normalize session.forest := Forest.normalize_normalize h
  unfold normalize
  dsimp only
  rw [hagain]

end FileRoutes.Session
