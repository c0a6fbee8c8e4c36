import FileRoutes.Command.Run
import FileRoutes.Proofs.Collation
import FileRoutes.Proofs.Folder
import FileRoutes.Proofs.Layout.Outcome

namespace FileRoutes

/-!
# The command line — the result that is printed

A command prints its result as a whole or not at all, and what it tells beside the result has no
part in it.

* `Handler.exists_resolve_iff` — handler files have a table exactly if each of them has a URL;
* `Handler.Printed`, `Handler.printed_lines` — the lines of a table;
* `Command.Input.paths_eq_ok_iff` — where a list of paths comes from;
* `Command.Outcome.Fails` — the outcome of a command without a result;
* `Command.Invocation.Alike` — invocations that ask for the same pages;
* `Command.output_run` — the statement about each command line.
-/

/-! ### Tables of handlers -/

namespace Handler

variable {domain root : String} {kind : Kind}

/-- A handler file stands in a table with its URL and its full path. -/
theorem resolveFile_eq_ok_iff {file : ScannedFile} {url absolute : String} :
    resolveFile domain kind file = .ok (url, absolute) ↔
      route file.relative domain kind = .ok url ∧ absolute = file.absolute := by
  unfold resolveFile
  cases route file.relative domain kind <;> simp [eq_comm]

/-- A handler file without a place in a table has no URL. -/
theorem resolveFile_eq_error {file : ScannedFile} {fault : MalformedName}
    (h : resolveFile domain kind file = .error fault) :
    route file.relative domain kind = .error fault.cause := by
  unfold resolveFile at h
  cases hroute : route file.relative domain kind with
  | error cause =>
    rw [hroute] at h
    cases h
    rfl
  | ok url =>
    rw [hroute] at h
    cases h

/-- **A table is of all files or of none.** There is one exactly if each file has a URL. -/
theorem exists_resolve_iff {paths : List String} :
    (∃ table, resolve domain root kind paths = .ok table) ↔
      ∀ file ∈ paths.map (ScannedFile.under root · domain),
        ∃ url, route file.relative domain kind = .ok url := by
  have hperm := ScannedFile.sort_perm (paths.map (ScannedFile.under root · domain))
  constructor
  · rintro ⟨table, htable⟩ file hfile
    obtain ⟨⟨url, absolute⟩, -, hentry⟩ :=
      exists_of_mem_right (mapM_eq_ok_iff.mp htable).flip (hperm.mem_iff.mpr hfile)
    exact ⟨url, (resolveFile_eq_ok_iff.mp hentry).1⟩
  · intro hurls
    cases hresolve : resolve domain root kind paths with
    | ok table => exact ⟨table, rfl⟩
    | error fault =>
      -- the file that is told of would be one of the list
      obtain ⟨before, first, after, hsort, -, hfirst⟩ := mapM_eq_error_iff.mp hresolve
      have hmem : first ∈ paths.map (ScannedFile.under root · domain) :=
        hperm.mem_iff.mp (hsort ▸ by simp)
      obtain ⟨url, hurl⟩ := hurls first hmem
      rw [resolveFile_eq_error hfirst] at hurl
      cases hurl

/-- What is printed for handler files: one line for each, in the order of the relative paths, with
    the URL, a tab and the full path. -/
def Printed (domain : String) (kind : Kind) (files : List ScannedFile) (output : String) : Prop :=
  ∃ (sorted : List ScannedFile) (printed : List String),
    sorted.Perm files ∧
    (sorted.Pairwise fun a b => (Collation.compare a.relative b.relative).isLE = true) ∧
    List.Forall₂ (fun file line => ∃ url, route file.relative domain kind = .ok url ∧
      line = url ++ "\t" ++ file.absolute ++ "\n") sorted printed ∧
    output = String.join printed

/-- The lines of a table are those that are to be printed. -/
theorem printed_lines {paths : List String} {table : List (String × String)}
    (h : resolve domain root kind paths = .ok table) :
    Printed domain kind (paths.map (ScannedFile.under root · domain))
      (Command.lines (table.map fun (url, file) => url ++ "\t" ++ file)) := by
  refine ⟨_, _, ScannedFile.sort_perm _, ScannedFile.pairwise_sort _, ?_, rfl⟩
  rw [List.map_map, List.forall₂_map_right_iff]
  refine (mapM_eq_ok_iff.mp h).imp fun file (url, absolute) hentry => ?_
  obtain ⟨hurl, rfl⟩ := resolveFile_eq_ok_iff.mp hentry
  exact ⟨url, hurl, rfl⟩

end Handler

/-! ### Commands -/

namespace Command

/-- The outcome of a command without a result: nothing is printed and the exit code is one. -/
def Outcome.Fails (outcome : Outcome) : Prop := outcome.exit = 1 ∧ outcome.output = ""

/-- A command that failed has no result, whatever was told before. -/
theorem Outcome.fails_failed (log : List String) (failure : Failure) :
    (Outcome.failed log failure).Fails := ⟨rfl, rfl⟩

/-- Paths that were given are taken, whatever the input is. -/
theorem Input.paths_of_ne_nil {given : List String} (h : given ≠ []) (input : Input) :
    input.paths given = .ok given := by
  cases input <;> simp [Input.paths, FileList.read_of_ne_nil h, h]

/-- **Where a list of paths comes from**: it was given, or stands in an input that can be read as
    text. -/
theorem Input.paths_eq_ok_iff {given paths : List String} {input : Input} :
    input.paths given = .ok paths ↔
      given ≠ [] ∧ paths = given ∨
        given = [] ∧ ∃ content text, input = .bytes content ∧ String.fromUTF8? content = some text ∧
          paths = FileList.ofText text := by
  cases given with
  | nil =>
    cases input with
    | unreadable cause => simp [Input.paths]
    | bytes content =>
      cases htext : String.fromUTF8? content <;>
        simp [Input.paths, FileList.read, htext, eq_comm]
  | cons path given =>
    simp [Input.paths_of_ne_nil (List.cons_ne_nil path given), eq_comm]

/-- Invocations that ask for the same pages. They may differ in how much is told and in whether
    duplicates are denied. -/
inductive Invocation.Alike : Invocation → Invocation → Prop
  | pages (config : String) (verbosity verbosity' : Nat) (domain : String) (files : List String)
      (root : Option String) (deny deny' : Bool) :
      Alike ⟨config, verbosity, .pages domain files root deny⟩
        ⟨config, verbosity', .pages domain files root deny'⟩

section Tasks

variable {level : Level} {config : Config} {domain root : String} {kind : Handler.Kind}
  {paths : List String}

/-- Handlers one of which has no URL make the command fail. -/
theorem runHandlers_fails {file : ScannedFile}
    (hfile : file ∈ paths.map (ScannedFile.under root · domain))
    {fault : Segment.Malformed} (h : Handler.route file.relative domain kind = .error fault) :
    (runHandlers domain root kind paths).Fails := by
  unfold runHandlers
  cases hresolve : Handler.resolve domain root kind paths with
  | error fault => exact Outcome.fails_failed ..
  | ok table =>
    obtain ⟨url, hurl⟩ := Handler.exists_resolve_iff.mp ⟨table, hresolve⟩ file hfile
    rw [h] at hurl
    cases hurl

/-- Handlers each of which has a URL are all printed. -/
theorem runHandlers_prints
    (h : ∀ file ∈ paths.map (ScannedFile.under root · domain),
      ∃ url, Handler.route file.relative domain kind = .ok url) :
    (runHandlers domain root kind paths).exit = 0 ∧
      Handler.Printed domain kind (paths.map (ScannedFile.under root · domain))
        (runHandlers domain root kind paths).output := by
  obtain ⟨table, htable⟩ := Handler.exists_resolve_iff.mpr h
  unfold runHandlers
  rw [htable]
  exact ⟨rfl, Handler.printed_lines htable⟩

/-- Pages that do not compile make the command fail. -/
theorem runPages_fails {fault : MalformedFile}
    (h : Pages.compile config domain root paths = .error fault) (deny : Bool) :
    (runPages level config domain root paths deny).Fails := by
  unfold runPages
  rw [h]
  exact Outcome.fails_failed ..

/-- Pages that compile are printed, and a duplicate that is denied shows in the exit code. -/
theorem runPages_prints {pages : Pages}
    (h : Pages.compile config domain root paths = .ok pages) (deny : Bool) :
    (runPages level config domain root paths deny).output = pages.routes.toJson.pretty ++ "\n" ∧
      (runPages level config domain root paths deny).exit
        = if deny = true ∧ pages.diagnostics ≠ [] then 1 else 0 := by
  unfold runPages
  rw [h]
  have hdenied : (deny && !pages.diagnostics.isEmpty) = true
      ↔ deny = true ∧ pages.diagnostics ≠ [] := by simp
  exact ⟨rfl, if_congr hdenied rfl rfl⟩

end Tasks

/-- The printed pages depend on the settings and the files alone. -/
theorem output_runPages (level level' : Level) (config : Config) (domain root : String)
    (paths : List String) (deny deny' : Bool) :
    (runPages level config domain root paths deny).output
      = (runPages level' config domain root paths deny').output := by
  unfold runPages
  cases Pages.compile config domain root paths <;> rfl

/-- Invocations that ask for the same pages print the same. -/
theorem Invocation.Alike.output_eq {invocation other : Invocation}
    (h : invocation.Alike other) (surroundings : Surroundings) :
    (invocation.run surroundings).output = (other.run surroundings).output := by
  obtain ⟨config, verbosity, verbosity', domain, files, root, deny, deny'⟩ := h
  unfold Invocation.run
  dsimp only [Task.files]
  cases Config.load config (surroundings.entryAt config) with
  | error fault => rfl
  | ok settings =>
    cases surroundings.input.paths files with
    | error failure => rfl
    | ok paths => exact output_runPages ..

section Run

variable {arguments : List String} {invocation : Invocation} {surroundings : Surroundings}

/-- A command line that makes sense is run as what it asks for. -/
theorem run_of_parse (h : parse arguments = .run invocation) :
    run arguments surroundings = invocation.run surroundings := by
  unfold run
  rw [h]

/-- An invocation without settings fails. -/
theorem Invocation.fails_of_load {fault : ConfigFault}
    (h : Config.load invocation.config (surroundings.entryAt invocation.config) = .error fault) :
    (invocation.run surroundings).Fails := by
  unfold Invocation.run
  rw [h]
  exact Outcome.fails_failed ..

/-- An invocation without a list of paths fails, with settings or without. -/
theorem Invocation.fails_of_paths {failure : Failure}
    (h : surroundings.input.paths invocation.task.files = .error failure) :
    (invocation.run surroundings).Fails := by
  unfold Invocation.run
  cases Config.load invocation.config (surroundings.entryAt invocation.config) with
  | error fault => exact Outcome.fails_failed ..
  | ok config =>
    rw [h]
    exact Outcome.fails_failed ..

/-- An invocation with settings and a list of paths carries out its task. -/
theorem Invocation.run_of_paths {config : Config} {paths : List String}
    (hload : Config.load invocation.config (surroundings.entryAt invocation.config) = .ok config)
    (hread : surroundings.input.paths invocation.task.files = .ok paths) :
    invocation.run surroundings = invocation.task.run (logLevel invocation.verbosity) config
      (invocation.task.root surroundings.working config) paths := by
  unfold Invocation.run
  rw [hload]
  dsimp only
  rw [hread]

end Run

/-- **A command prints its whole result or nothing.** Without settings or a list of paths it fails.
    Handlers are printed with all files if each has a URL, and else the command fails. The routes
    of pages are printed as one JSON text if they compile, and the exit code then tells whether a
    duplicate was denied; else the command fails. What is printed for pages is the same however
    much is told beside it and whether or not duplicates are denied. -/
theorem output_run {arguments : List String} {invocation : Invocation}
    (h : parse arguments = .run invocation) (surroundings : Surroundings) :
    let outcome := run arguments surroundings
    let settings := Config.load invocation.config (surroundings.entryAt invocation.config)
    let given := surroundings.input.paths invocation.task.files
    (∀ fault, settings = .error fault → outcome.Fails) ∧
    (∀ failure, given = .error failure → outcome.Fails) ∧
    (∀ config paths, settings = .ok config → given = .ok paths →
      let root := invocation.task.root surroundings.working config
      match invocation.task with
      | .handlers domain _ _ kind =>
        let files := paths.map (ScannedFile.under root · domain)
        ((∃ file ∈ files, ∃ fault, Handler.route file.relative domain kind = .error fault) →
          outcome.Fails) ∧
        ((∀ file ∈ files, ∃ url, Handler.route file.relative domain kind = .ok url) →
          outcome.exit = 0 ∧ Handler.Printed domain kind files outcome.output)
      | .pages domain _ _ deny =>
        (∀ fault, Pages.compile config domain root paths = .error fault → outcome.Fails) ∧
        (∀ pages, Pages.compile config domain root paths = .ok pages →
          outcome.output = pages.routes.toJson.pretty ++ "\n" ∧
          outcome.exit = if deny = true ∧ pages.diagnostics ≠ [] then 1 else 0)) ∧
    (∀ arguments' other, parse arguments' = .run other → invocation.Alike other →
      (run arguments' surroundings).output = outcome.output) := by
  dsimp only
  rw [run_of_parse h]
  refine ⟨fun _ hload => Invocation.fails_of_load hload,
    fun _ hread => Invocation.fails_of_paths hread, fun config paths hload hread => ?_,
    fun arguments' other hother halike => ?_⟩
  · -- what the settings and the list are read from plays no part any more
    rw [Invocation.run_of_paths hload hread]
    cases invocation.task with
    | pages domain given root? deny =>
      exact ⟨fun _ hcompile => runPages_fails hcompile deny,
        fun _ hcompile => runPages_prints hcompile deny⟩
    | handlers domain given root? kind =>
      exact ⟨fun ⟨_, hfile, _, hroute⟩ => runHandlers_fails hfile hroute, runHandlers_prints⟩
  · rw [run_of_parse hother, halike.output_eq]

/-- The surroundings of a project without settings, in an empty folder. -/
def bareProject : Surroundings := ⟨"/work", (Folder.mk []).entryAt, .bytes .empty⟩

/-- Two pages of the project, which have one name. -/
def barePages : Pages :=
  ⟨[⟨some "Shop-a-b", "/Shop/a-b", "/work/src/Shop/pages/a-b.vue", []⟩,
      ⟨some "Shop-a-b", "/Shop/a/b", "/work/src/Shop/pages/a/b.vue", []⟩],
    [⟨"Shop-a-b", "/work/src/Shop/pages/a-b.vue", "/work/src/Shop/pages/a/b.vue"⟩], []⟩

/-- The project has no settings of its own. -/
theorem load_bareProject :
    Config.load Config.defaultFile (bareProject.entryAt Config.defaultFile) = .ok .default := by
  have hname : Folder.IsName Config.defaultFile :=
    ⟨by decide, by decide, by decide, by decide, by decide⟩
  have hmissing : (Folder.mk []).entryAt Config.defaultFile = .missing :=
    Folder.entryAt_name hname
  exact congrArg (Config.load Config.defaultFile) hmissing

/-- What the two pages of the project are compiled to. -/
theorem compile_bareProject :
    Pages.compile .default "Shop" (Path.root none "/work" ["src", "Shop", "pages"])
      ["a-b.vue", "a/b.vue"] = .ok barePages := by
  have hroot : Path.root none "/work" ["src", "Shop", "pages"] = "/work/src/Shop/pages" := by
    decide +kernel
  have hfiles : Pages.files .default "Shop" "/work/src/Shop/pages" ["a-b.vue", "a/b.vue"]
      = [⟨"a-b.vue", "/work/src/Shop/pages/a-b.vue", "Shop"⟩,
        ⟨"a/b.vue", "/work/src/Shop/pages/a/b.vue", "Shop"⟩] := by
    have haccepted : (["a-b.vue", "a/b.vue"].filter Config.default.accepts).map
          (ScannedFile.under "/work/src/Shop/pages" · "Shop")
        = [⟨"a-b.vue", "/work/src/Shop/pages/a-b.vue", "Shop"⟩,
          ⟨"a/b.vue", "/work/src/Shop/pages/a/b.vue", "Shop"⟩] := by decide +kernel
    have hpage : (Collation.compare "a-b.vue" "a/b.vue").isLE = true := by decide +kernel
    rw [Pages.files, haccepted]
    simp [ScannedFile.sort, List.mergeSort, hpage]
  have hforest : (Forest.build [⟨"a-b.vue", "/work/src/Shop/pages/a-b.vue", "Shop"⟩,
        ⟨"a/b.vue", "/work/src/Shop/pages/a/b.vue", "Shop"⟩] (Config.default.mount "Shop")).result
      = .ok [⟨some "Shop/a-b", "/Shop/a-b", "/work/src/Shop/pages/a-b.vue", []⟩,
        ⟨some "Shop/a/b", "/Shop/a/b", "/work/src/Shop/pages/a/b.vue", []⟩] := by
    decide +kernel
  have hhyphen : Route.flatName "Shop/a-b" = "Shop-a-b" := by decide +kernel
  have hslash : Route.flatName "Shop/a/b" = "Shop-a-b" := by decide +kernel
  have hskipped : ["a-b.vue", "a/b.vue"].filter (!Config.default.accepts ·) = [] := by
    decide +kernel
  rw [hroot, Pages.compile, hfiles, hskipped, Forest.compile, hforest]
  simp [Except.map, Forest.normalize, Forest.pass, Route.pass, Owners.take, hhyphen, hslash,
    Normalized.diagnostics, Finding.diagnostic?, barePages]

/-- The table of one handler of the project. -/
theorem resolve_bareProject :
    Handler.resolve "Shop" (Path.root none "/work" ["src", "Shop", "server", "api"]) .api
      ["items.ts"] = .ok [("/api/Shop/items", "/work/src/Shop/server/api/items.ts")] := by
  rw [Handler.resolve, List.map_singleton, ScannedFile.sort, List.mergeSort_singleton]
  decide +kernel

/-- Of two handlers one has no URL, so that nothing is printed, and without it the other one is.
    Pages are printed the same if more is told and duplicates are denied, which shows in the exit
    code alone. -/
theorem bareProject_runs :
    parse ["handlers", "Shop", "items.ts", "[id.ts"]
        = .run ⟨"domain-router.toml", 0, .handlers "Shop" ["items.ts", "[id.ts"] none .api⟩ ∧
      (run ["handlers", "Shop", "items.ts", "[id.ts"] bareProject).Fails ∧
      (run ["handlers", "Shop", "items.ts"] bareProject).output
        = "/api/Shop/items\t/work/src/Shop/server/api/items.ts\n" ∧
      (run ["pages", "Shop", "a-b.vue", "a/b.vue"] bareProject).output
        = barePages.routes.toJson.pretty ++ "\n" ∧
      (run ["pages", "Shop", "a-b.vue", "a/b.vue"] bareProject).exit = 0 ∧
      (run ["-vv", "pages", "Shop", "a-b.vue", "a/b.vue", "--deny-duplicates"] bareProject).output
        = (run ["pages", "Shop", "a-b.vue", "a/b.vue"] bareProject).output ∧
      (run ["-vv", "pages", "Shop", "a-b.vue", "a/b.vue", "--deny-duplicates"] bareProject).exit
        = 1 := by
  have hhandlers : parse ["handlers", "Shop", "items.ts", "[id.ts"]
      = .run ⟨"domain-router.toml", 0, .handlers "Shop" ["items.ts", "[id.ts"] none .api⟩ := by
    decide +kernel
  have hhandler : parse ["handlers", "Shop", "items.ts"]
      = .run ⟨"domain-router.toml", 0, .handlers "Shop" ["items.ts"] none .api⟩ := by
    decide +kernel
  have hpages : parse ["pages", "Shop", "a-b.vue", "a/b.vue"]
      = .run ⟨"domain-router.toml", 0, .pages "Shop" ["a-b.vue", "a/b.vue"] none false⟩ := by
    decide +kernel
  have hdenied : parse ["-vv", "pages", "Shop", "a-b.vue", "a/b.vue", "--deny-duplicates"]
      = .run ⟨"domain-router.toml", 2, .pages "Shop" ["a-b.vue", "a/b.vue"] none true⟩ := by
    decide +kernel
  obtain ⟨hfails, -⟩ := (output_run hhandlers bareProject).2.2.1 .default _ load_bareProject
    (Input.paths_of_ne_nil (by decide) _)
  obtain ⟨-, htold⟩ := (output_run hpages bareProject).2.2.1 .default _ load_bareProject
    (Input.paths_of_ne_nil (by decide) _)
  obtain ⟨-, hreported⟩ := (output_run hdenied bareProject).2.2.1 .default _ load_bareProject
    (Input.paths_of_ne_nil (by decide) _)
  obtain ⟨houtput, hexit⟩ := htold _ compile_bareProject
  refine ⟨hhandlers, ?_, ?_, houtput, ?_, ?_, ?_⟩
  · refine hfails ⟨_, List.mem_map.mpr ⟨"[id.ts", by decide, rfl⟩, ⟨"[id", .unterminated, "id"⟩, ?_⟩
    decide +kernel
  · have hrun : run ["handlers", "Shop", "items.ts"] bareProject = runHandlers "Shop"
        (Path.root none "/work" ["src", "Shop", "server", "api"]) .api ["items.ts"] := by
      rw [run_of_parse hhandler, Invocation.run_of_paths load_bareProject
        (Input.paths_of_ne_nil (by decide) _)]
      rfl
    rw [hrun, runHandlers, resolve_bareProject]
    decide +kernel
  · rw [hexit, if_neg (by simp)]
  · exact (output_run hpages bareProject).2.2.2 _ _ hdenied (.pages ..)
  · rw [(hreported _ compile_bareProject).2, if_pos ⟨rfl, List.cons_ne_nil _ _⟩]

end Command

end FileRoutes
