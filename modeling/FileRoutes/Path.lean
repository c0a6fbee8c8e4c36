namespace FileRoutes.Path

/-!
# Paths — the text of file paths

A path is a text whose components stand between slashes.

* `forwardSlashes` — writes every backslash as a slash;
* `trimLeading`, `trimTrailing` — a path without the slashes at one end;
* `below` — the path of a file below a root;
* `stripExtension` — a path without the extension of its last component;
* `components` — the texts between the slashes;
* `segments` — the components of the path without its extension, which are what
  a route is made from.
-/

/-- Writes every backslash as a slash. -/
def forwardSlashes (path : String) : String :=
  path.map fun c => if c = '\\' then '/' else c

/-- Unfolding lemma: slashes are exchanged character by character. -/
@[simp] theorem toList_forwardSlashes (path : String) :
    (forwardSlashes path).toList = path.toList.map fun c => if c = '\\' then '/' else c := by
  simp [forwardSlashes]

/-- The path without the slashes it starts with. -/
def trimLeading (path : String) : String :=
  String.ofList (path.toList.dropWhile (· == '/'))

/-- Unfolding lemma: the characters left after the leading slashes. -/
@[simp] theorem toList_trimLeading (path : String) :
    (trimLeading path).toList = path.toList.dropWhile (· == '/') := by
  simp [trimLeading]

/-- The path without the slashes it ends with. -/
def trimTrailing (path : String) : String :=
  String.ofList (path.toList.reverse.dropWhile (· == '/')).reverse

/-- Unfolding lemma: the characters left before the trailing slashes. -/
@[simp] theorem toList_trimTrailing (path : String) :
    (trimTrailing path).toList = (path.toList.reverse.dropWhile (· == '/')).reverse := by
  simp [trimTrailing]

/-- The path of a file below a root: the two with one slash between them, or the relative
    path alone if the root is empty. -/
def below (root relative : String) : String :=
  if root = "" then relative else root ++ "/" ++ relative

/-! ### The extension -/

/-- The path without the extension of its last component. Read from the end, the extension
    runs up to the first dot; a dot that the component starts with belongs to its name. -/
def stripExtension (path : String) : String :=
  match path.toList.reverse.dropWhile (fun c => c != '.' && c != '/') with
  -- A dot right after a slash, or at the very start, leaves no name in front of it.
  | '.' :: c :: stem => if c = '/' then path else String.ofList (c :: stem).reverse
  | _ => path

/-! ### Components -/

/-- The texts between the slashes of a path; a path without slashes is its only component. -/
def components (path : String) : List String :=
  (path.toList.splitOn '/').map String.ofList

/-- The components of a path without its extension. -/
def segments (path : String) : List String :=
  components (stripExtension path)

/-- Every path has a component, the empty path included. -/
theorem components_ne_nil (path : String) : components path ≠ [] := by
  simp [components, List.splitOn_ne_nil]

/-- The components with slashes between them are the path. -/
theorem intercalate_components (path : String) :
    String.intercalate "/" (components path) = path := by
  apply String.toList_inj.mp
  simp [components, Function.comp_def, List.intercalate_splitOn]

/-- Every path has a segment. -/
theorem segments_ne_nil (path : String) : segments path ≠ [] :=
  components_ne_nil _

end FileRoutes.Path
