import FileRoutes.Unicode.Blank

namespace FileRoutes.FileList

/-!
# File lists — the paths that a command works on

* `ofText` — the paths in a text, one on each line;
* `read` — the paths that were given, or else those in the bytes of an input.
-/

/-- The lines of a text that are not blank, without the blanks around them. -/
def ofText (text : String) : List String :=
  ((text.toList.splitOn '\n').map fun line => Unicode.trim (String.ofList line)).filter (· != "")

/-- The paths that were given, or those in the input if there are none. There is no list if
    the input is no text. -/
def read (given : List String) (input : ByteArray) : Option (List String) :=
  if given.isEmpty then (String.fromUTF8? input).map ofText else some given

/-- Paths that were given are taken as they are. -/
theorem read_of_ne_nil {given : List String} (h : given ≠ []) (input : ByteArray) :
    read given input = some given := by
  simp [read, h]

end FileRoutes.FileList
