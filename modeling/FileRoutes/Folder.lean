import FileRoutes.Path

namespace FileRoutes

/-!
# Folders — what stands at a path

* `Entry` — what a path leads to: nothing, a folder, or a file with its bytes, if it can be read;
* `Folder` — a working folder with its files and empty folders;
* `Folder.entryAt` — what a path leads to from there.
-/

/-- What a path leads to. -/
inductive Entry where
  | missing
  | folder
  | file (content : ByteArray)
  /-- A file that is there but cannot be read, with the text of the fault. -/
  | unreadable (cause : String)

/-- A folder that holds files and empty folders under their names. -/
structure Folder where
  entries : List (String × Entry)

/-- A place that a path can lead to on its way. -/
inductive Folder.Place where
  /-- The folder itself. -/
  | here
  /-- An empty folder in it. -/
  | within
  /-- A folder around it, where nothing else can be seen. -/
  | above

/-- Where the components of a path lead to from a place. Only a folder can be left by a
    further component, and an empty component stays where it is. -/
def Folder.follow (folder : Folder) : Folder.Place → List String → Entry
  | _, [] => .folder
  | place, name :: rest =>
    if name = "" ∨ name = "." then folder.follow place rest
    else if name = ".." then
      match place with
      | .within => folder.follow .here rest
      | .here | .above => folder.follow .above rest
    else
      -- Only the folder itself holds anything that has a name.
      match place, folder.entries.lookup name with
      | .here, some .folder => folder.follow .within rest
      | .here, some entry => if rest.isEmpty then entry else .missing
      | _, _ => .missing

/-- What a path leads to from the folder. The empty path and one with a null character lead
    nowhere. -/
def Folder.entryAt (folder : Folder) (path : String) : Entry :=
  if path = "" ∨ '\x00' ∈ path.toList then .missing
  else
    let start := if path.toList.head? = some '/' then .above else .here
    folder.follow start (Path.components path)

end FileRoutes
