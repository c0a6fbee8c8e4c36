import FileRoutes.Compile

namespace FileRoutes

/-!
# Sessions — a domain's files and routes over many steps

* `Session` — the domain at hand, its mount and files, the forest built so far, and all
  problems found;
* `Session.build`, `Session.extend`, `Session.graft`, `Session.nest`, `Session.normalize` — the
  steps that change the forest.
-/

/-- The state of a session. -/
structure Session where
  domain : String
  mount : Mount
  files : List ScannedFile
  forest : Forest
  diagnostics : List Diagnostic

namespace Session

/-- A session that has not begun: the empty domain, and no files and routes. -/
def start : Session := ⟨"", .ofDomain "", [], [], []⟩

/-- Turns to another domain. -/
def mountAt (session : Session) (domain : String) (mount : Mount) : Session :=
  { session with domain, mount }

/-- Adds files at the end of the list. -/
def add (session : Session) (files : List ScannedFile) : Session :=
  { session with files := session.files ++ files }

/-- Removes the files of the given relative path. -/
def drop (session : Session) (relative : String) : Session :=
  { session with files := session.files.filter (·.relative != relative) }

/-- Removes all files. -/
def clear (session : Session) : Session := { session with files := [] }

/-- Sorts the files. -/
def sort (session : Session) : Session :=
  { session with files := ScannedFile.sort session.files }

/-- Builds the forest of the files in place of the one there is. -/
def build (session : Session) : Except MalformedFile Session :=
  (Forest.build session.files session.mount).result.map fun forest =>
    { session with forest }

/-- Builds the forest of the files and adds it to the one there is. -/
def extend (session : Session) : Except MalformedFile Session :=
  (Forest.build session.files session.mount).result.map fun forest =>
    { session with forest := session.forest ++ forest }

/-- Adds routes to the forest. -/
def graft (session : Session) (forest : Forest) : Session :=
  { session with forest := session.forest ++ forest }

/-- Puts the whole forest below a new route. -/
def nest (session : Session) (name : Option String) (path file : String) : Session :=
  { session with forest := [⟨name, path, file, session.forest⟩] }

/-- Normalizes the forest, and tells which problems that found. -/
def normalize (session : Session) : Session × List Diagnostic :=
  let normalized := Forest.normalize session.forest
  ({ session with
      forest := normalized.routes
      diagnostics := session.diagnostics ++ normalized.diagnostics }, normalized.diagnostics)

end Session

end FileRoutes
