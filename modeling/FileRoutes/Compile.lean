import FileRoutes.Layout
import FileRoutes.Normalize

namespace FileRoutes

/-!
# Compilation — from files to registered routes

* `Forest.compile` — the routes of a domain's files with what there is to tell about them, or
  the file that cannot have a route;
* `Forest.compileEvents` — the log of a compilation that tells of problems as it finds them.
-/

/-- Compiles the routes of a list of sorted files. -/
def Forest.compile (files : List ScannedFile) (mount : Mount) : Except MalformedFile Normalized :=
  (Forest.build files mount).result.map Forest.normalize

/-- The events of building a forest and, if that succeeds, of normalizing it. -/
def Forest.compileEvents (files : List ScannedFile) (mount : Mount) : List Event :=
  let built := Forest.build files mount
  match built.result with
  | .error _ => built.events
  | .ok forest => built.events ++ (Forest.normalize forest).findings.map Finding.event

end FileRoutes
