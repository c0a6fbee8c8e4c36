import FileRoutes.Compile
import FileRoutes.Config

namespace FileRoutes

/-!
# Pages — the routes of a domain's page files

* `Pages` — compiled routes, the problems found, and the paths that are no pages;
* `Pages.compile` — the pages of a list of paths in any order;
* `Pages.events` — the log of that.
-/

/-- What a list of paths was compiled to. -/
structure Pages where
  routes : Forest
  diagnostics : List Diagnostic
  /-- The paths without the extension of a page, in the order of the list. -/
  skipped : List String

/-- The page files of a list of paths, in sorted order. -/
def Pages.files (config : Config) (domain root : String) (paths : List String) :
    List ScannedFile :=
  ScannedFile.sort ((paths.filter config.accepts).map (ScannedFile.under root · domain))

/-- Compiles the pages of a domain. -/
def Pages.compile (config : Config) (domain root : String) (paths : List String) :
    Except MalformedFile Pages :=
  (Forest.compile (Pages.files config domain root paths) (config.mount domain)).map
    fun compiled => ⟨compiled.routes, compiled.diagnostics, paths.filter (!config.accepts ·)⟩

/-- The event of a finding that is told while pages are compiled. Problems are kept for
    later. -/
def Finding.progress? : Finding → Option Event
  | .pathless file => some (.pathless file)
  | .duplicate _ => none

/-- The events of compiling the pages of a domain. -/
def Pages.events (config : Config) (domain root : String) (paths : List String) : List Event :=
  let files := Pages.files config domain root paths
  let mount := config.mount domain
  let built := Forest.build files mount
  .compiling domain mount.path files.length :: built.events ++
    match built.result with
    | .error _ => []
    | .ok forest => (Forest.normalize forest).findings.filterMap Finding.progress?

end FileRoutes
