import FileRoutes.Collation
import FileRoutes.Path

namespace FileRoutes

/-!
# Scanned files — the files a domain's routes are made from

* `ScannedFile` — the path of a file below its root, its full path, and its domain;
* `ScannedFile.under` — the file of a given path below a given root;
* `ScannedFile.sort` — a list of files in the order in which routes are built.
-/

/-- A file found below a domain's root. Its relative path is written with slashes. -/
structure ScannedFile where
  relative : String
  absolute : String
  domain : String
deriving Repr, DecidableEq

/-- The file of the given paths. -/
def ScannedFile.ofPaths (relative absolute domain : String) : ScannedFile :=
  ⟨Path.forwardSlashes relative, absolute, domain⟩

/-- The file whose path below the root is `relative`. Backslashes count as slashes, and the
    slashes around the joint are not kept, so that a root of slashes alone counts as none. -/
def ScannedFile.under (root relative domain : String) : ScannedFile :=
  let relative := Path.trimLeading (Path.forwardSlashes relative)
  let root := Path.trimTrailing (Path.forwardSlashes root)
  ⟨relative, Path.below root relative, domain⟩

/-- Sorts files by their relative paths; files of the same relative path keep their order. -/
def ScannedFile.sort (files : List ScannedFile) : List ScannedFile :=
  files.mergeSort fun a b => (Collation.compare a.relative b.relative).isLE

/-- Sorting only changes the order of the files. -/
theorem ScannedFile.sort_perm (files : List ScannedFile) :
    (ScannedFile.sort files).Perm files :=
  List.mergeSort_perm files _

end FileRoutes
