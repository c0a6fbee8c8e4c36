import FileRoutes.Unicode.Printable

namespace FileRoutes.Text

/-!
# Text — quoted texts in a log

* `escapeHidden` — a character as it stands in a quoted text: one without a visible form of its
  own is written as its code point;
* `quote` — a text in double quotes.
-/

/-- The digits of a number in lowercase hexadecimal. -/
def hexDigits (n : Nat) : List Char := Nat.toDigits 16 n

/-- A character as it stands in a quoted text. -/
def escapeHidden (c : Char) : List Char :=
  if c = '\x00' then ['\\', '0']
  else if c = '\t' then ['\\', 't']
  else if c = '\r' then ['\\', 'r']
  else if c = '\n' then ['\\', 'n']
  else if c = '"' then ['\\', '"']
  else if c = '\\' then ['\\', '\\']
  else if Unicode.isPrintable c && !Unicode.extendsGrapheme c then [c]
  else ['\\', 'u', '\x7b'] ++ hexDigits c.toNat ++ ['\x7d']

/-- A text in double quotes. -/
def quote (text : String) : String :=
  "\"" ++ String.ofList (text.toList.flatMap escapeHidden) ++ "\""

end FileRoutes.Text
