import FileRoutes.Proofs.Layout.Outcome

namespace FileRoutes

open Segment

/-!
# Layouts — the fault that a compilation tells

A compilation fails exactly if one of its files has a malformed segment. It then tells of the first
such file in the list and of the first such segment in that file, and it reports no problems.

* `ScannedFile.WellFormed` — all segments of a file have tokens;
* `MalformedFile.IsFirstOf` — a fault is that of the first malformed segment of the first malformed
  file of a list;
* `Forest.reported` — the problems that the log of a compilation tells of;
* `Forest.reported_eq` — these are the ones of the compiled routes, and none if there are no routes;
* `Forest.faults_compile` — the statement about a list of files.
-/

/-! ### Malformed files -/

/-- All segments of the file have tokens. -/
def ScannedFile.WellFormed (file : ScannedFile) : Prop :=
  ∀ segment ∈ Path.segments file.relative, ∃ tokens, tokenize segment = .ok tokens

/-- A file has a malformed segment exactly if it is not well-formed. -/
theorem ScannedFile.not_wellFormed_iff {file : ScannedFile} :
    ¬ file.WellFormed ↔
      ∃ segment ∈ Path.segments file.relative, ∃ cause, tokenize segment = .error cause := by
  unfold ScannedFile.WellFormed
  push Not
  refine exists_congr fun segment => and_congr_right fun _ => ?_
  cases tokenize segment with
  | error cause => exact ⟨fun _ => ⟨cause, rfl⟩, fun _ => nofun⟩
  | ok tokens => exact ⟨fun h => absurd rfl (h tokens), nofun⟩

/-- The fault tells of the first malformed segment in the first file that has one. -/
def MalformedFile.IsFirstOf (fault : MalformedFile) (files : List ScannedFile) : Prop :=
  ∃ before file after front segment back,
    files = before ++ file :: after ∧ (∀ earlier ∈ before, earlier.WellFormed) ∧
    fault.relative = file.relative ∧
    Path.segments file.relative = front ++ segment :: back ∧
    (∀ earlier ∈ front, ∃ tokens, tokenize earlier = .ok tokens) ∧
    tokenize segment = .error fault.cause

/-- The fault of a file is that of its first malformed segment. -/
theorem ScannedFile.fault?_eq_some_iff {file : ScannedFile} {fault : MalformedFile} :
    file.fault? = some fault ↔ fault.relative = file.relative ∧
      ∃ front segment back, Path.segments file.relative = front ++ segment :: back ∧
        (∀ earlier ∈ front, ∃ tokens, tokenize earlier = .ok tokens) ∧
        tokenize segment = .error fault.cause := by
  rw [← mapM_eq_error_iff]
  show _ ↔ _ ∧ Path.tokens file.relative = .error fault.cause
  obtain ⟨relative, cause⟩ := fault
  unfold ScannedFile.fault?
  cases Path.tokens file.relative with
  | error own => simp [eq_comm]
  | ok lists => simp

/-- A file has no fault exactly if it is well-formed. -/
theorem ScannedFile.fault?_eq_none_iff {file : ScannedFile} :
    file.fault? = none ↔ file.WellFormed := by
  constructor
  · intro hnone segment hsegment
    unfold ScannedFile.fault? at hnone
    cases htokens : Path.tokens file.relative with
    | error cause =>
      rw [htokens] at hnone
      cases hnone
    | ok lists =>
      obtain ⟨tokens, -, hsegment_tokens⟩ := Path.exists_tokens_of_mem_segments htokens hsegment
      exact ⟨tokens, hsegment_tokens⟩
  · intro h
    rw [Option.eq_none_iff_forall_ne_some]
    intro fault hfault
    obtain ⟨-, front, segment, back, hsegments, -, hsegment⟩ := fault?_eq_some_iff.mp hfault
    obtain ⟨tokens, htokens⟩ := h segment (by simp [hsegments])
    rw [hsegment] at htokens
    cases htokens

/-- The first fault of a list of files is that of the first malformed segment in the first file that
    has one. -/
theorem MalformedFile.isFirstOf_iff {fault : MalformedFile} {files : List ScannedFile} :
    fault.IsFirstOf files ↔ files.findSome? ScannedFile.fault? = some fault := by
  rw [List.findSome?_eq_some_iff]
  constructor
  · rintro ⟨before, file, after, front, segment, back, hfiles, hbefore, hrelative, hfirst⟩
    exact ⟨before, file, after, hfiles,
      ScannedFile.fault?_eq_some_iff.mpr ⟨hrelative, front, segment, back, hfirst⟩,
      fun earlier hearlier => ScannedFile.fault?_eq_none_iff.mpr (hbefore earlier hearlier)⟩
  · rintro ⟨before, file, after, hfiles, hfault, hbefore⟩
    obtain ⟨hrelative, front, segment, back, hfirst⟩ := ScannedFile.fault?_eq_some_iff.mp hfault
    exact ⟨before, file, after, front, segment, back, hfiles,
      fun earlier hearlier => ScannedFile.fault?_eq_none_iff.mp (hbefore earlier hearlier),
      hrelative, hfirst⟩

/-- A list of files has a first fault exactly if one of the files is not well-formed. -/
theorem MalformedFile.exists_isFirstOf_iff {files : List ScannedFile} :
    (∃ fault : MalformedFile, fault.IsFirstOf files) ↔ ∃ file ∈ files, ¬ file.WellFormed := by
  simp only [MalformedFile.isFirstOf_iff, ← ScannedFile.fault?_eq_none_iff]
  rw [← Option.isSome_iff_exists, List.findSome?_isSome_iff]
  simp only [Option.isSome_iff_ne_none, ne_eq]

/-! ### The problems that the log tells of -/

/-- The problem that an event tells of, if it is one. -/
def Event.diagnostic? : Event → Option Diagnostic
  | .duplicate diagnostic => some diagnostic
  | _ => none

/-- The problems that the events on the way to a result tell of. -/
def Logged.reported {ε α : Type} (step : Logged ε α) : List Diagnostic :=
  step.events.filterMap Event.diagnostic?

/-- The problems that the log of a compilation tells of, in order. -/
def Forest.reported (files : List ScannedFile) (mount : Mount) : List Diagnostic :=
  (Forest.compileEvents files mount).filterMap Event.diagnostic?

/-- Placing a file reports no problem. By induction on the segments: all that is told is which
    layouts are entered. -/
theorem Forest.reported_place (file : ScannedFile) (pending : Pending) (segments : List String)
    (level : Forest) : (Forest.place file pending segments level).reported = [] := by
  induction segments generalizing pending level with
  | nil => rfl
  | cons segment rest ih =>
    unfold Forest.place
    cases tokenize segment with
    | error cause => rfl
    | ok tokens =>
      dsimp only
      split
      · exact ih _ _
      · exact ih _ _

/-- Adding a file reports no problem. -/
theorem Forest.reported_insert (mount : Mount) (file : ScannedFile) (forest : Forest) :
    (Forest.insert mount file forest).reported = [] := by
  rw [Forest.insert, Logged.reported, Logged.events_mapError]
  exact Forest.reported_place file (.start mount) (Path.segments file.relative) forest

/-- Adding files reports no problem. -/
theorem Forest.reported_insertAll (mount : Mount) (files : List ScannedFile) (forest : Forest) :
    (Forest.insertAll mount files forest).reported = [] := by
  induction files generalizing forest with
  | nil => rfl
  | cons file rest ih =>
    have hinsert : (Forest.insert mount file forest).events.filterMap Event.diagnostic? = [] :=
      Forest.reported_insert mount file forest
    unfold Forest.insertAll Logged.reported
    cases hresult : (Forest.insert mount file forest).result with
    | error fault => rw [Logged.events_andThen_of_error hresult, hinsert]
    | ok middle =>
      rw [Logged.events_andThen_of_ok hresult, List.filterMap_append, hinsert]
      exact ih middle

/-- Building a forest reports no problem. -/
theorem Forest.reported_build (files : List ScannedFile) (mount : Mount) :
    (Forest.build files mount).reported = [] := by
  have hinserted : (Forest.insertAll mount files []).events.filterMap Event.diagnostic? = [] :=
    Forest.reported_insertAll mount files []
  unfold Forest.build Logged.reported
  cases hresult : (Forest.insertAll mount files []).result with
  | error fault => rw [Logged.events_andThen_of_error hresult, hinserted]
  | ok forest =>
    rw [Logged.events_andThen_of_ok hresult, List.filterMap_append, hinserted]
    rfl

/-- **The log tells of the problems of the compiled routes,** and of none if there are no routes. -/
theorem Forest.reported_eq (files : List ScannedFile) (mount : Mount) :
    Forest.reported files mount
      = match Forest.compile files mount with
        | .error _ => []
        | .ok compiled => compiled.diagnostics := by
  have hbuilt : (Forest.build files mount).events.filterMap Event.diagnostic? = [] :=
    Forest.reported_build files mount
  unfold Forest.reported Forest.compileEvents Forest.compile
  dsimp only
  cases hresult : (Forest.build files mount).result with
  | error fault =>
    dsimp only
    rw [hbuilt]
    rfl
  | ok forest =>
    dsimp only
    rw [List.filterMap_append, hbuilt, List.nil_append, List.filterMap_map]
    -- the event of a finding tells of the problem that the finding is
    exact List.filterMap_congr fun finding _ => by cases finding <;> rfl

/-! ### A list of files -/

/-- The fault that is told is the first one. -/
theorem Forest.compile_eq_error_iff {files : List ScannedFile} {mount : Mount}
    {fault : MalformedFile} :
    Forest.compile files mount = .error fault ↔ fault.IsFirstOf files := by
  have hbuild : (Forest.build files mount).result = .error fault ↔
      files.findSome? ScannedFile.fault? = some fault := Forest.build_eq_error_iff
  rw [MalformedFile.isFirstOf_iff, ← hbuild]
  unfold Forest.compile
  cases (Forest.build files mount).result <;> simp [Except.map]

/-- **A compilation tells the first fault.** It fails exactly if some segment of some file is
    malformed. The fault that is told is that of the first malformed segment of the first such file,
    whatever the mount is and wherever the file would have its route, and nothing is reported then.
    -/
theorem Forest.faults_compile (files : List ScannedFile) (mount : Mount) :
    ((∃ fault, Forest.compile files mount = .error fault) ↔
      ∃ file ∈ files, ∃ segment ∈ Path.segments file.relative, ∃ cause,
        tokenize segment = .error cause) ∧
    (∀ fault, Forest.compile files mount = .error fault ↔ fault.IsFirstOf files) ∧
    ∀ fault, Forest.compile files mount = .error fault → Forest.reported files mount = [] := by
  refine ⟨?_, fun _ => Forest.compile_eq_error_iff, fun fault hfault => ?_⟩
  · simp only [Forest.compile_eq_error_iff, ← ScannedFile.not_wellFormed_iff]
    exact MalformedFile.exists_isFirstOf_iff
  · rw [Forest.reported_eq, hfault]

/-- The pages of a market: a page of a folder, a page below it with two malformed segments, and
    another malformed page. -/
def marketStalls : List ScannedFile :=
  [⟨"stalls.vue", "/pages/stalls.vue", "Market"⟩,
    ⟨"stalls/[id]/[-]/[x.vue", "/pages/stalls/[id]/[-]/[x.vue", "Market"⟩,
    ⟨"[.vue", "/pages/[.vue", "Market"⟩]

/-- The market has no routes because of the empty name in its second page. -/
theorem marketStalls_fault :
    ∃ fault, fault = ⟨"stalls/[id]/[-]/[x.vue", ⟨"[-]", .emptyName, ""⟩⟩ ∧
      Forest.compile marketStalls (.ofDomain "Market") = .error fault ∧
      fault.IsFirstOf marketStalls ∧
      (∃ file ∈ marketStalls, ∃ segment ∈ Path.segments file.relative, ∃ cause,
        tokenize segment = .error cause) ∧
      Forest.reported marketStalls (.ofDomain "Market") = [] := by
  have hfails : Forest.compile marketStalls (.ofDomain "Market")
      = .error ⟨"stalls/[id]/[-]/[x.vue", ⟨"[-]", .emptyName, ""⟩⟩ := by
    decide +kernel
  obtain ⟨hmalformed, hfirst, hreported⟩ :=
    Forest.faults_compile marketStalls (.ofDomain "Market")
  exact ⟨_, rfl, hfails, (hfirst _).mp hfails, hmalformed.mp ⟨_, hfails⟩, hreported _ hfails⟩

end FileRoutes
