namespace FileRoutes

/-!
# Diagnostics — problems that do not stop a compilation

* `Diagnostic` — a name that two routes ended up with.
-/

/-- A route whose name another route had before it. A router keeps the one registered
    last. -/
structure Diagnostic where
  name : String
  /-- The file of the route that had the name first. -/
  firstFile : String
  /-- The file of the route that has it again. -/
  file : String
deriving Repr, DecidableEq

/-- The text that tells a reader which files to rename. -/
def Diagnostic.message (diagnostic : Diagnostic) : String :=
  "Route name generated for \"" ++ diagnostic.file ++ "\" is the same as \"" ++
    diagnostic.firstFile ++ "\" (name: " ++ diagnostic.name ++
    "). You may want to rename one of these files."

end FileRoutes
