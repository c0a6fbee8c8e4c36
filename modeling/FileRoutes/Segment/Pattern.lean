import FileRoutes.Segment.Token
import FileRoutes.Url.Encoding

namespace FileRoutes.Segment

/-!
# Segments — route patterns

* `Token.pattern` — a token as a router reads it: `:id()`, `:id?`, `:id(.*)*`, or encoded
  literal text;
* `pattern` — a slash and the patterns of a segment's tokens in a row.
-/

/-- Puts a backslash before every colon, which would else start a parameter. -/
def escapeColons (text : List Char) : List Char :=
  text.flatMap fun c => if c = ':' then ['\\', ':'] else [c]

/-- A token as a router reads it. -/
def Token.pattern (token : Token) : String :=
  match token.kind with
  | .literal => String.ofList (escapeColons (Url.encodeChars token.value.toList))
  | .required => ":" ++ token.value ++ "()"
  | .optional => ":" ++ token.value ++ "?"
  | .catchAll => ":" ++ token.value ++ "(.*)*"

/-- The part of a route's path that a segment stands for. -/
def pattern (tokens : List Token) : String :=
  "/" ++ String.join (tokens.map Token.pattern)

/-- Unfolding lemma: the characters of a segment's pattern. -/
@[simp] theorem toList_pattern (tokens : List Token) :
    (pattern tokens).toList = '/' :: tokens.flatMap (·.pattern.toList) := by
  simp [pattern, List.flatMap_map]

end FileRoutes.Segment
