namespace FileRoutes.Toml

/-!
# TOML — values

* `Value` — what a key of a TOML document stands for. A float is kept as it is written, a
  date-time in its usual form, and a table as a list of its keys in order of appearance;
* `Reader` — a function that takes characters off the front of a text, or fails.
-/

/-- A TOML value. -/
inductive Value where
  | string (text : String)
  | boolean (value : Bool)
  | integer (value : Int)
  | float (literal : String)
  | dateTime (text : String)
  | array (items : List Value)
  | table (entries : List (String × Value))
deriving Repr, Inhabited

/-! ### Readers -/

/-- Takes characters off the front of a text and gives a value, or fails. -/
abbrev Reader (α : Type) := StateT (List Char) Option α

namespace Reader

/-- The character at the front, which is not taken off. -/
def peek? : Reader (Option Char) := return (← get).head?

/-- Takes off the given character. -/
def expect (c : Char) : Reader Unit := do
  match ← get with
  | d :: rest => if d = c then set rest else failure
  | [] => failure

/-- Takes off the given character if it is at the front, and tells whether it was. -/
def accept (c : Char) : Reader Bool := do
  match ← get with
  | d :: rest => if d = c then set rest; return true else return false
  | [] => return false

/-- Takes off the longest run of characters that pass the test. -/
def run (test : Char → Bool) : Reader (List Char) := do
  let text ← get
  set (text.dropWhile test)
  return text.takeWhile test

/-- Goes on with a function on the front of the text. -/
def through {α : Type} (f : List Char → Option (α × List Char)) : Reader α := f

end Reader

/-! ### Blanks, comments and line ends -/

/-- Whether a character separates words on a line. -/
def isSpace (c : Char) : Bool := c == ' ' || c == '\t'

/-- Whether a character can stand in a comment: tabs and everything that is no control. -/
def isCommentChar (c : Char) : Bool := c == '\t' || (0x20 ≤ c.val && c.val != 0x7F)

/-- Passes over blanks and tabs. -/
def spaces : Reader Unit := modify (·.dropWhile isSpace)

/-- The text after a line feed, or after a carriage return and a line feed. -/
def dropNewline? : List Char → Option (List Char)
  | '\n' :: rest => some rest
  | '\r' :: '\n' :: rest => some rest
  | _ => none

/-- Passes over the rest of a line on which only blanks and a comment may stand. -/
def endOfLine : Reader Unit := do
  spaces
  if ← Reader.accept '#' then modify (·.dropWhile isCommentChar)
  match ← get with
  | [] => return
  | text => Reader.through fun _ => (dropNewline? text).map ((), ·)

/-- The text after blanks, line ends and comments; `comment` tells whether it starts within
    a comment. -/
def dropLayout (comment : Bool) : List Char → List Char
  | [] => []
  | '\n' :: rest => dropLayout false rest
  | '\r' :: '\n' :: rest => dropLayout false rest
  | c :: rest =>
    if comment then
      if isCommentChar c then dropLayout true rest else c :: rest
    else if c = '#' then dropLayout true rest
    else if isSpace c then dropLayout false rest
    else c :: rest

/-- Passes over blanks, line ends and comments. -/
def layout : Reader Unit := modify (dropLayout false)

end FileRoutes.Toml
