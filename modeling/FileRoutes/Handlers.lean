import FileRoutes.Handler
import FileRoutes.ScannedFile

namespace FileRoutes.Handler

/-!
# Handlers — the URLs of a list of handler files

* `resolve` — the URL and the full path of each handler file, in sorted order.
-/

/-- A handler file without a URL. -/
structure MalformedName where
  relative : String
  cause : Segment.Malformed
deriving Repr, DecidableEq

/-- The text that names the file. -/
def MalformedName.message (fault : MalformedName) : String :=
  "Invalid handler file name: " ++ fault.relative

/-- The URL and the full path of a handler file. -/
def resolveFile (domain : String) (kind : Kind) (file : ScannedFile) :
    Except MalformedName (String × String) :=
  match route file.relative domain kind with
  | .error fault => .error ⟨file.relative, fault⟩
  | .ok url => .ok (url, file.absolute)

/-- The URL and the full path of each handler file of a domain, in sorted order, or the first
    file that has no URL. -/
def resolve (domain root : String) (kind : Kind) (paths : List String) :
    Except MalformedName (List (String × String)) :=
  (ScannedFile.sort (paths.map (ScannedFile.under root · domain))).mapM (resolveFile domain kind)

end FileRoutes.Handler
