import FileRoutes.Toml.Value

namespace FileRoutes.Toml

/-!
# TOML — quoted texts

A text stands in double quotes, where a backslash escapes, or in single quotes, where nothing
does. In three quotes of either kind it may go over several lines, may hold up to two quotes in
a row, and loses a line end right after the opening quotes.

* `basic`, `literal` — the rest of a text on one line, after the opening quote;
* `basicLines`, `literalLines` — the rest of a text in three quotes;
* `quoted` — a text of any of these kinds.
-/

/-- The character of a code point that is written in hexadecimal digits. -/
def codePoint? (digits : List Char) : Option Char := do
  let code ← digits.foldlM (fun (code : Nat) c => do
    let digit ←
      if c.isDigit then some (c.toNat - 0x30)
      else if 'a' ≤ c && c ≤ 'f' then some (c.toNat - 0x57)
      else if 'A' ≤ c && c ≤ 'F' then some (c.toNat - 0x37)
      else none
    return 16 * code + digit) 0
  if code.isValidChar then some (Char.ofNat code) else none

/-- The character that a backslash and the given letter stand for. -/
def shortEscape? (c : Char) : Option Char :=
  if c = 'b' then some '\x08'
  else if c = 't' then some '\t'
  else if c = 'n' then some '\n'
  else if c = 'f' then some '\x0c'
  else if c = 'r' then some '\r'
  else if c = '"' then some '"'
  else if c = '\\' then some '\\'
  else none

/-- A character put in front of the text that was read, if both are there. -/
def consText (c : Option Char) (tail : Option (List Char × List Char)) :
    Option (List Char × List Char) := do
  let (text, rest) ← tail
  return ((← c) :: text, rest)

/-- The text up to the closing double quote, and what follows it. -/
def basic : List Char → Option (List Char × List Char)
  | [] => none
  | '"' :: rest => some ([], rest)
  | '\\' :: 'u' :: a :: b :: c :: d :: rest => consText (codePoint? [a, b, c, d]) (basic rest)
  | '\\' :: 'U' :: a :: b :: c :: d :: e :: f :: g :: h :: rest =>
    consText (codePoint? [a, b, c, d, e, f, g, h]) (basic rest)
  | '\\' :: c :: rest => consText (shortEscape? c) (basic rest)
  | c :: rest => if isCommentChar c then consText (some c) (basic rest) else none

/-- The text up to the closing single quote, and what follows it. -/
def literal : List Char → Option (List Char × List Char)
  | [] => none
  | '\'' :: rest => some ([], rest)
  | c :: rest => if isCommentChar c then consText (some c) (literal rest) else none

/-! ### Texts of several lines -/

/-- What is left of a run of quotes after the three that close a text: up to two more belong
    to the text itself. -/
def extraQuotes (quote : Char) (rest : List Char) : List Char × List Char :=
  let extra := (rest.take 2).takeWhile (· == quote)
  (extra, rest.drop extra.length)

/-- The text up to three closing double quotes, and what follows them. A backslash at the
    end of a line makes the text go on at the next character that is no blank; `folding` tells
    that such a gap is being passed over. -/
def basicLines (folding : Bool) : List Char → Option (List Char × List Char)
  | [] => none
  | '"' :: '"' :: '"' :: rest => some (extraQuotes '"' rest)
  | '\\' :: 'u' :: a :: b :: c :: d :: rest =>
    consText (codePoint? [a, b, c, d]) (basicLines false rest)
  | '\\' :: 'U' :: a :: b :: c :: d :: e :: f :: g :: h :: rest =>
    consText (codePoint? [a, b, c, d, e, f, g, h]) (basicLines false rest)
  | '\\' :: c :: rest =>
    -- Only blanks may stand between the backslash and the end of its line.
    if (dropNewline? ((c :: rest).dropWhile isSpace)).isSome then basicLines true rest
    else consText (shortEscape? c) (basicLines false rest)
  | '\r' :: '\n' :: rest =>
    if folding then basicLines true rest else consText (some '\n') (basicLines false rest)
  | '\n' :: rest =>
    if folding then basicLines true rest else consText (some '\n') (basicLines false rest)
  | c :: rest =>
    if folding && isSpace c then basicLines true rest
    else if isCommentChar c then consText (some c) (basicLines false rest)
    else none

/-- The text up to three closing single quotes, and what follows them. -/
def literalLines : List Char → Option (List Char × List Char)
  | [] => none
  | '\'' :: '\'' :: '\'' :: rest => some (extraQuotes '\'' rest)
  | '\r' :: '\n' :: rest => consText (some '\n') (literalLines rest)
  | '\n' :: rest => consText (some '\n') (literalLines rest)
  | c :: rest => if isCommentChar c then consText (some c) (literalLines rest) else none

/-- The text without a line end at its start. -/
def dropFirstNewline (text : List Char) : List Char := (dropNewline? text).getD text

/-! ### All kinds -/

/-- A text on one line, in quotes of either kind. -/
def quotedLine : Reader String :=
  Reader.through fun
    | '"' :: rest => (basic rest).map fun (text, rest) => (String.ofList text, rest)
    | '\'' :: rest => (literal rest).map fun (text, rest) => (String.ofList text, rest)
    | _ => none

/-- A quoted text of any kind. -/
def quoted : Reader String := do
  match ← get with
  | '"' :: '"' :: '"' :: rest =>
    Reader.through fun _ =>
      (basicLines false (dropFirstNewline rest)).map fun (text, rest) =>
        (String.ofList text, rest)
  | '\'' :: '\'' :: '\'' :: rest =>
    Reader.through fun _ =>
      (literalLines (dropFirstNewline rest)).map fun (text, rest) => (String.ofList text, rest)
  | _ => quotedLine

end FileRoutes.Toml
