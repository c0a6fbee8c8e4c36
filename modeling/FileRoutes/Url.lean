import FileRoutes.Text.Ending

namespace FileRoutes.Url

/-!
# URLs — joining the pieces of a URL path

* `join` — two pieces with one slash between them, where the empty piece and a lone
  slash add nothing;
* `rooted` — a piece that starts with a slash;
* `collapseIndex` — a final `/index` read as the folder it stands in.
-/

/-- Whether a piece adds nothing when it is joined to another. -/
def addsNothing (piece : String) : Bool := piece == "" || piece == "/"

/-- The piece without one leading `./` or `/`. -/
def relative (piece : String) : String :=
  match piece.toList with
  | '.' :: '/' :: rest => String.ofList rest
  | '/' :: rest => String.ofList rest
  | _ => piece

/-- The piece with a slash at its end, which is added only if there is none. -/
def withTrailingSlash (piece : String) : String :=
  if piece.toList.getLast? = some '/' then piece else piece ++ "/"

/-- Joins two pieces with one slash between them. A piece that adds nothing is left out, and
    an empty base leaves the other piece as it is. -/
def join (base piece : String) : String :=
  if addsNothing piece then base
  else if base = "" then piece
  else withTrailingSlash base ++ relative piece

/-- The piece with a slash in front, which is added only if there is none. -/
def rooted (piece : String) : String :=
  if piece.toList.head? = some '/' then piece else "/" ++ piece

/-- The piece with a final `/index` cut down to its slash. -/
def collapseIndex (piece : String) : String :=
  match Text.dropEnding? "/index" piece with
  | some folder => folder ++ "/"
  | none => piece

/-- Joining the empty piece changes nothing. -/
@[simp] theorem join_empty (base : String) : join base "" = base := by
  simp [join, addsNothing]

/-- Joining a lone slash changes nothing. -/
@[simp] theorem join_slash (base : String) : join base "/" = base := by
  simp [join, addsNothing]

/-- A rooted piece starts with a slash. -/
theorem head?_rooted (piece : String) : (rooted piece).toList.head? = some '/' := by
  unfold rooted
  split
  · assumption
  · simp

end FileRoutes.Url
