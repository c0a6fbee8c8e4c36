import FileRoutes.Path

namespace FileRoutes

/-!
# Mounts — the name and the path that a domain's routes start from

* `Mount.ofDomain` — a domain mounted under its own name;
* `Mount.aliased` — a domain that keeps its name and lives under another path.
-/

/-- The name and the path that every route of a domain starts from. -/
structure Mount where
  name : String
  path : String
deriving Repr, DecidableEq

/-- A domain mounted under its own name; the empty domain is mounted at the root. -/
def Mount.ofDomain (domain : String) : Mount :=
  ⟨domain, if domain = "" then "" else "/" ++ domain⟩

/-- A domain mounted at a location, whose slashes at both ends do not count; a location without
    anything else is the root. -/
def Mount.aliased (domain location : String) : Mount :=
  let folder := Path.trimTrailing (Path.trimLeading location)
  ⟨domain, if folder = "" then "" else "/" ++ folder⟩

end FileRoutes
