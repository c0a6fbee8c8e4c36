namespace FileRoutes.Segment

/-!
# Segments — the tokens of a file name

A segment is one component of a page path. Its brackets tell literal text from
parameters:

* `Kind` — literal text, a required parameter `[id]`, an optional one `[[id]]`, or one
  that catches the whole rest of the path `[...id]`;
* `Token` — a piece of a segment: its kind, and the literal text or the parameter's name;
* `Malformed` — a segment whose brackets do not follow this syntax.
-/

/-- What a token of a segment stands for. -/
inductive Kind where
  | literal
  | required
  | optional
  | catchAll
deriving Repr, DecidableEq

/-- A piece of a segment: literal text, or a parameter of the given name. -/
structure Token where
  kind : Kind
  value : String
deriving Repr, DecidableEq

/-- Whether the token is a parameter. -/
def Token.isParameter (token : Token) : Bool := token.kind != .literal

/-- The name that a segment adds to its route: the values of its tokens in a row. -/
def name (tokens : List Token) : String := String.join (tokens.map Token.value)

/-- Unfolding lemma: the characters of a segment's name. -/
@[simp] theorem toList_name (tokens : List Token) :
    (name tokens).toList = tokens.flatMap (·.value.toList) := by
  simp [name, List.flatMap_map]

/-! ### Malformed segments -/

/-- Why a segment has no tokens. -/
inductive Reason where
  /-- A bracket was opened and not closed before the segment's end. -/
  | unterminated
  /-- Brackets were closed around no name. -/
  | emptyName
deriving Repr, DecidableEq

/-- A segment that does not follow the bracket syntax, with the parameter name read up to
    the point where that showed. -/
structure Malformed where
  segment : String
  reason : Reason
  buffer : String
deriving Repr, DecidableEq

/-- The text that tells a reader what is wrong with the segment. -/
def Malformed.message (fault : Malformed) : String :=
  match fault.reason with
  | .unterminated =>
    "unfinished param \"" ++ fault.buffer ++ "\" in segment \"" ++ fault.segment ++ "\""
  | .emptyName => "empty param in segment \"" ++ fault.segment ++ "\""

end FileRoutes.Segment
