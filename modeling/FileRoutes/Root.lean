import FileRoutes.Path

namespace FileRoutes.Path

/-!
# Paths — the root of a domain's files

* `push` — a path extended by another one, which replaces it if it is absolute;
* `root` — the folder that file paths are relative to.
-/

/-- The path that a part leads to from a base. An absolute part stands for itself; otherwise
    a slash is put between the two, unless there is one at the end of the base. -/
def push (base part : String) : String :=
  if part.toList.head? = some '/' then part
  else if base = "" ∨ base.toList.getLast? = some '/' then base ++ part
  else base ++ "/" ++ part

/-- The folder that file paths are relative to: the one that was asked for, or else a folder
    of the domain below the working folder. -/
def root (asked : Option String) (working : String) (parts : List String) : String :=
  match asked with
  | some root => root
  | none => forwardSlashes (parts.foldl push working)

end FileRoutes.Path
