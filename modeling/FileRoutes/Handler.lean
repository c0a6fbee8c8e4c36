import FileRoutes.Path
import FileRoutes.Segment.Pattern
import FileRoutes.Segment.Scan
import FileRoutes.Text.Ending
import FileRoutes.Url

namespace FileRoutes.Handler

/-!
# Handlers — the URLs of server handler files

A handler file is mounted at the URL of its path below one of two folders of its domain. Its
name follows the syntax of page names, and nothing is nested.

* `Kind` — the two folders;
* `Kind.base` — the URL that the handlers of a domain's folder start from;
* `route` — the URL of a handler file.
-/

/-- The folder of a handler. -/
inductive Kind where
  | api
  | route
deriving Repr, DecidableEq

/-- The name of the folder below a domain's server folder. -/
def Kind.folder : Kind → String
  | .api => "api"
  | .route => "routes"

/-- The URL that the handlers of a domain start from. -/
def Kind.base (kind : Kind) (domain : String) : String :=
  match kind with
  | .api => Url.join "/api" domain
  | .route =>
    if domain = "" then "" else "/" ++ Path.trimTrailing (Path.trimLeading domain)

/-- The patterns of a list of segments in a row, or the first segment that has none. -/
def patterns : List String → Except Segment.Malformed String
  | [] => .ok ""
  | segment :: rest =>
    match Segment.tokenize segment with
    | .error fault => .error fault
    | .ok tokens => (patterns rest).map (Segment.pattern tokens ++ ·)

/-- The URL of a handler file, given its path below the folder. A final index stands for the
    folder it is in, and the folder of the root is a slash. -/
def route (relative domain : String) (kind : Kind) : Except Segment.Malformed String :=
  (patterns (Path.segments (Path.forwardSlashes relative))).map fun path =>
    let whole := kind.base domain ++ path
    let folder := (Text.dropEnding? "/index" whole).getD whole
    if folder = "" then "/" else folder

end FileRoutes.Handler
