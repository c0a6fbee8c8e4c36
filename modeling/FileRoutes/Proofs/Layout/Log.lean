import FileRoutes.Proofs.Layout.Outcome

namespace FileRoutes

open Segment

/-!
# Layouts — the log of a compilation

The events of a compilation are told while files are placed and while the forest is reviewed. They
can be read off the compiled routes, without a look at how these came about.

* `Forest.events_insertAll_concat` — one file more tells of its layouts behind what was told before;
* `Forest.Graft.nestings_eq`, `Forest.Built.events` — what is told of a file is true of every later
  forest, so that building tells of the layouts above the address of each file;
* `Forest.handovers`, `Forest.pathless_review` — the routes that gave their names away, and the
  review that tells of them;
* `LogEntry` — what a log keeps of an event;
* `Forest.log_compile` — the statement about the whole log.
-/

/-! ### Building -/

/-- One more file is told of last, on the forest of those before. -/
theorem Forest.events_insertAll_concat {mount : Mount} {files : List ScannedFile}
    {forest middle : Forest} (h : (Forest.insertAll mount files forest).result = .ok middle)
    (file : ScannedFile) :
    (Forest.insertAll mount (files ++ [file]) forest).events
      = (Forest.insertAll mount files forest).events
        ++ (Forest.insert mount file middle).events := by
  induction files generalizing forest with
  | nil =>
    obtain rfl : forest = middle := Except.ok.inj h
    rw [Forest.insertAll_nil, List.nil_append, Forest.insertAll_cons, Logged.events_ok,
      List.nil_append]
    cases hinsert : (Forest.insert mount file forest).result with
    | error fault => rw [Logged.events_andThen_of_error hinsert]
    | ok after =>
      rw [Logged.events_andThen_of_ok hinsert, Forest.insertAll_nil, Logged.events_ok,
        List.append_nil]
  | cons first rest ih =>
    rw [Forest.insertAll_cons, Logged.result_andThen] at h
    rw [List.cons_append, Forest.insertAll_cons, Forest.insertAll_cons]
    cases hinsert : (Forest.insert mount first forest).result with
    | error fault =>
      rw [hinsert] at h
      cases h
    | ok after =>
      rw [hinsert] at h
      rw [Logged.events_andThen_of_ok hinsert, Logged.events_andThen_of_ok hinsert, ih h,
        List.append_assoc]

/-- What is told of a file depends on the files above its address alone. -/
theorem Forest.nestings_eq_map (file : ScannedFile) (forest : Forest) (address : List Nat) :
    Forest.nestings file forest address
      = ((Forest.ancestors forest address).map Route.file).map (.nested file.relative) := by
  rw [List.map_map]
  rfl

/-- **Frame.** What is told of a file stays true when a leaf is grafted, if the routes above its
    address were there before. -/
theorem Forest.Graft.nestings_eq {leaf : Route} {other : List Nat} {level level' : Forest}
    (h : Forest.Graft leaf other level level') (hleaf : leaf.children = []) {address : List Nat}
    (habove : ∀ front back, address = front ++ back → front ≠ [] → back ≠ [] →
      (Forest.at? level front).isSome = true) (file : ScannedFile) :
    Forest.nestings file level' address = Forest.nestings file level address := by
  rw [Forest.nestings_eq_map, Forest.nestings_eq_map]
  congr 1
  refine Forest.files_ancestors_eq fun front back haddress hfront hback => ?_
  obtain ⟨route, hroute⟩ := Option.isSome_iff_exists.mp (habove front back haddress hfront hback)
  obtain ⟨route', hroute', hbare⟩ := h.at?_eq_some hleaf hroute
  exact ⟨route, route', hroute, hroute', (Route.texts_eq_of_bare hbare).2.2⟩

/-- **Building tells of the layouts above each file.** By induction on the files: what was told of
    the earlier ones is true of the longer forest, too. -/
theorem Forest.Built.events {mount : Mount} {files : List ScannedFile} {forest : Forest}
    {addresses : List (List Nat)} (h : Forest.Built mount files forest addresses) :
    (Forest.insertAll mount files []).events
      = (files.zip addresses).flatMap fun (file, address) =>
          Forest.nestings file forest address := by
  induction h with
  | empty => rfl
  | @concat files forest addresses last lists own forest' hbuilt _ htokens hdescent ih =>
    obtain ⟨_, hgraft⟩ := hdescent.graft
    have hfiles : (Forest.insertAll mount files []).result = .ok forest := by
      rw [← Forest.result_build]
      exact hbuilt.build
    -- what stands above an earlier file stood there before the last file came
    have hearlier : (files.zip addresses).flatMap
          (fun (file, address) => Forest.nestings file forest' address)
        = (files.zip addresses).flatMap
          fun (file, address) => Forest.nestings file forest address := by
      apply List.flatMap_congr
      rintro ⟨file, address⟩ hpair
      have htaken : (Forest.at? forest address).isSome = true :=
        (hbuilt.mem_addresses_iff address).mp (List.of_mem_zip hpair).2
      refine hgraft.nestings_eq rfl (fun front back haddress hfront _ => ?_) file
      exact Forest.isSome_at?_of_append hfront (haddress ▸ htaken)
    have hlast : Forest.nestings last forest' own = Forest.nestings last forest own :=
      hgraft.nestings_eq rfl (fun _ _ haddress hfront hback =>
        hgraft.isSome_at?_ancestor haddress hfront hback) last
    rw [Forest.events_insertAll_concat hfiles, hdescent.insert htokens, ih,
      List.zip_append hbuilt.length_addresses.symm, List.flatMap_append, hearlier]
    simp [hlast]

/-- The events of a compilation: those of placing the files, one on the finished forest, and those
    of what there is to tell about its normal form. -/
theorem Forest.compileEvents_of_build {files : List ScannedFile} {mount : Mount} {forest : Forest}
    (h : (Forest.build files mount).result = .ok forest) :
    Forest.compileEvents files mount
      = (Forest.insertAll mount files []).events ++ .built mount.name files.length forest.length ::
        (Forest.normalize forest).findings.map Finding.event := by
  have hfiles : (Forest.insertAll mount files []).result = .ok forest := by
    rw [← Forest.result_build]
    exact h
  have hbuild : (Forest.build files mount).events = (Forest.insertAll mount files []).events
      ++ [.built mount.name files.length forest.length] := by
    rw [Forest.build, Logged.events_andThen_of_ok hfiles]
    rfl
  unfold Forest.compileEvents
  dsimp only
  rw [h, hbuild]
  exact List.append_assoc ..

/-! ### Reviewing -/

/-- The file of a route that gave its name away, if that is what a finding tells. -/
def Finding.pathless? : Finding → Option String
  | .pathless file => some file
  | .duplicate _ => none

/-- The routes of a forest that have a child shown at their path, in post-order. -/
def Forest.handovers (forest : Forest) : List Route :=
  (Forest.postorder forest).filter fun route => route.children.any Route.isPathless

/-- Unfolding lemma: a route stands behind those below it and before those beside it. -/
theorem Forest.handovers_cons (route : Route) (rest : Forest) :
    Forest.handovers (route :: rest)
      = Forest.handovers route.children
        ++ ((if route.children.any Route.isPathless then [route] else [])
          ++ Forest.handovers rest) := by
  unfold Forest.handovers
  rw [Forest.postorder_cons, List.filter_append, List.filter_cons]
  split <;> rfl

/-- Taking a name tells of no route that gave its name away. -/
theorem Owners.pathless_take (owners : Owners) (name file : String) :
    (owners.take name file).findings.filterMap Finding.pathless? = [] := by
  unfold Owners.take
  split <;> rfl

/-- The review of a route tells of it behind the routes below it. -/
theorem Route.pathless_review (route : Route) (owners : Owners) :
    (route.review owners).findings.filterMap Finding.pathless?
      = (Forest.review owners route.children).findings.filterMap Finding.pathless?
        ++ (if route.children.any Route.isPathless then [route] else []).map Route.file := by
  obtain ⟨name, path, file, children⟩ := route
  have hhandover : (if children.any Route.isPathless then [Finding.pathless file] else []).filterMap
        Finding.pathless?
      = (if children.any Route.isPathless then [Route.mk name path file children] else []).map
        Route.file := by
    split <;> rfl
  unfold Route.review
  dsimp only
  rw [List.filterMap_append, List.filterMap_append, hhandover]
  cases name with
  | none => exact List.append_nil _
  | some name => rw [Owners.pathless_take, List.append_nil]

/-- **The review tells once of each route that gave its name away,** in post-order. -/
theorem Forest.pathless_review (forest : Forest) (owners : Owners) :
    (Forest.review owners forest).findings.filterMap Finding.pathless?
      = forest.handovers.map Route.file := by
  induction forest using Forest.induct generalizing owners with
  | nil => rfl
  | cons route rest below beside =>
    unfold Forest.review
    dsimp only
    rw [List.filterMap_append, Route.pathless_review, below, beside, Forest.handovers_cons,
      List.map_append, List.map_append, List.append_assoc]

/-! ### The log -/

/-- What a log keeps of an event. -/
structure LogEntry where
  level : Level
  message : String
  fields : List (String × FieldValue)
deriving Repr, DecidableEq

/-- An event as a log keeps it. -/
def Event.entry (event : Event) : LogEntry := ⟨event.level, event.message, event.fields⟩

/-- What is told of the layouts above a file is true of the registered routes. -/
theorem Forest.map_entry_nestings (file : ScannedFile) (forest : Forest) (address : List Nat) :
    (Forest.nestings file forest address).map Event.entry
      = (Forest.ancestors (Forest.register true forest) address).map fun layout =>
          ⟨.debug, "nesting under layout route",
            [("file", .text file.relative), ("layout", .text layout.file)]⟩ := by
  let entry (layout : String) : LogEntry :=
    ⟨.debug, "nesting under layout route",
      [("file", .text file.relative), ("layout", .text layout)]⟩
  calc (Forest.nestings file forest address).map Event.entry
      = ((Forest.ancestors forest address).map Route.file).map entry := by
        rw [Forest.nestings, List.map_map, List.map_map]
        rfl
    _ = ((Forest.ancestors (Forest.register true forest) address).map Route.file).map entry := by
        rw [Forest.files_ancestors_register]
    _ = _ := List.map_map ..

/-- The finest entries that findings leave in a log are those of routes that gave their names
    away. -/
theorem filter_trace_findings (findings : List Finding) :
    (findings.map fun finding => finding.event.entry).filter (·.level = .trace)
      = (findings.filterMap Finding.pathless?).map fun file =>
          ⟨.trace, "pathless child takes over route name", [("file", .text file)]⟩ := by
  induction findings with
  | nil => rfl
  | cons finding rest ih =>
    cases finding with
    | pathless file => exact congrArg (_ :: ·) ih
    | duplicate diagnostic => exact ih

/-- The warnings that findings leave in a log are the messages of the diagnostics. -/
theorem filter_warn_findings (findings : List Finding) :
    (findings.map fun finding => finding.event.entry).filter (·.level = .warn)
      = (findings.filterMap Finding.diagnostic?).map fun diagnostic =>
          ⟨.warn, diagnostic.message, []⟩ := by
  induction findings with
  | nil => rfl
  | cons finding rest ih =>
    cases finding with
    | pathless file => exact ih
    | duplicate diagnostic => exact congrArg (_ :: ·) ih

/-- **The log tells the truth about the compiled routes.** It has, file by file, one entry for each
    route above the one of the file, from the top level down; then one with the numbers of files and
    of routes on the top level; then those of the normalization. Among the last, each route that
    has a child shown at its path is told of once, in post-order, and the warnings are the
    messages of the diagnostics, in order. -/
theorem Forest.log_compile {files : List ScannedFile} {mount : Mount} {compiled : Normalized}
    (h : Forest.compile files mount = .ok compiled) :
    ∃ (addresses : List (List Nat)) (told : List LogEntry),
      addresses.length = files.length ∧
      (∀ i address, addresses[i]? = some address ↔ Forest.Places mount files i address) ∧
      (Forest.compileEvents files mount).map Event.entry
        = ((files.zip addresses).flatMap fun (file, address) =>
            (Forest.ancestors compiled.routes address).map fun layout =>
              ⟨.debug, "nesting under layout route",
                [("file", .text file.relative), ("layout", .text layout.file)]⟩)
          ++ ⟨.debug, "built route tree",
              [("prefix", .text mount.name), ("files", .count files.length),
                ("top_level", .count compiled.routes.length)]⟩ :: told ∧
      (told.filter (·.level = .trace)
        = ((Forest.postorder compiled.routes).filter fun route =>
            route.children.any Route.isPathless).map fun route =>
              ⟨.trace, "pathless child takes over route name", [("file", .text route.file)]⟩) ∧
      (told.filter (·.level = .warn)
        = compiled.diagnostics.map fun diagnostic => ⟨.warn, diagnostic.message, []⟩) ∧
      ∀ entry ∈ told, entry.level = .trace ∨ entry.level = .warn := by
  obtain ⟨forest, hforest, rfl⟩ := Forest.build_of_compile h
  obtain ⟨addresses, hbuilt⟩ := Forest.built_of_build hforest
  refine ⟨addresses, (Forest.normalize forest).findings.map fun finding => finding.event.entry,
    hbuilt.length_addresses, fun i address => hbuilt.places_iff.symm, ?_, ?_, ?_, ?_⟩
  · rw [Forest.compileEvents_of_build hforest, hbuilt.events, List.map_append, List.map_flatMap,
      List.map_cons, List.map_map]
    congr 1
    · rw [Forest.routes_normalize]
      exact List.flatMap_congr fun (file, address) _ =>
        Forest.map_entry_nestings file forest address
    · have hlength : (Forest.normalize forest).routes.length = forest.length := by
        rw [Forest.routes_normalize, Forest.register_eq_map, List.length_map]
      rw [hlength]
      rfl
  · rw [filter_trace_findings, Forest.normalize_eq, Forest.pathless_review, List.map_map]
    rfl
  · exact filter_warn_findings _
  · intro entry hentry
    obtain ⟨finding, -, rfl⟩ := List.mem_map.mp hentry
    cases finding with
    | pathless file => exact .inl rfl
    | duplicate diagnostic => exact .inr rfl

/-- The pages of a shop: a layout with two pages below it, one of them at its own path, and a page
    that has the name of the other. -/
def itemPages : List ScannedFile :=
  [⟨"items.vue", "/pages/items.vue", "Shop"⟩,
    ⟨"items/index.vue", "/pages/items/index.vue", "Shop"⟩,
    ⟨"items/[id].vue", "/pages/items/[id].vue", "Shop"⟩,
    ⟨"items-id.vue", "/pages/items-id.vue", "Shop"⟩]

/-- The log of the shop tells of two nested pages, a name given away and a name taken twice. -/
theorem itemPages_log :
    ∃ compiled, Forest.compile itemPages (.ofDomain "Shop") = .ok compiled ∧
    ∃ (addresses : List (List Nat)) (told : List LogEntry),
      addresses.length = itemPages.length ∧
      (∀ i address, addresses[i]? = some address ↔
        Forest.Places (.ofDomain "Shop") itemPages i address) ∧
      (Forest.compileEvents itemPages (.ofDomain "Shop")).map Event.entry
        = ((itemPages.zip addresses).flatMap fun (file, address) =>
            (Forest.ancestors compiled.routes address).map fun layout =>
              ⟨.debug, "nesting under layout route",
                [("file", .text file.relative), ("layout", .text layout.file)]⟩)
          ++ ⟨.debug, "built route tree",
              [("prefix", .text (Mount.ofDomain "Shop").name), ("files", .count itemPages.length),
                ("top_level", .count compiled.routes.length)]⟩ :: told ∧
      (told.filter (·.level = .trace)
        = ((Forest.postorder compiled.routes).filter fun route =>
            route.children.any Route.isPathless).map fun route =>
              ⟨.trace, "pathless child takes over route name", [("file", .text route.file)]⟩) ∧
      (told.filter (·.level = .warn)
        = compiled.diagnostics.map fun diagnostic => ⟨.warn, diagnostic.message, []⟩) ∧
      ∀ entry ∈ told, entry.level = .trace ∨ entry.level = .warn := by
  have hforest : (Forest.build itemPages (.ofDomain "Shop")).result = .ok
      [⟨some "Shop/items", "/Shop/items", "/pages/items.vue",
          [⟨some "Shop/items/index", "/", "/pages/items/index.vue", []⟩,
            ⟨some "Shop/items/id", "/:id()", "/pages/items/[id].vue", []⟩]⟩,
        ⟨some "Shop/items-id", "/Shop/items-id", "/pages/items-id.vue", []⟩] := by
    decide +kernel
  have hcompiled : Forest.compile itemPages (.ofDomain "Shop") = .ok (Forest.normalize
      [⟨some "Shop/items", "/Shop/items", "/pages/items.vue",
          [⟨some "Shop/items/index", "/", "/pages/items/index.vue", []⟩,
            ⟨some "Shop/items/id", "/:id()", "/pages/items/[id].vue", []⟩]⟩,
        ⟨some "Shop/items-id", "/Shop/items-id", "/pages/items-id.vue", []⟩]) := by
    rw [Forest.compile, hforest]
    rfl
  exact ⟨_, hcompiled, Forest.log_compile hcompiled⟩

end FileRoutes
