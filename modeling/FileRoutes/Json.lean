namespace FileRoutes

/-!
# JSON — values and their indented text

* `Json` — a JSON value, with the fields of an object in order;
* `Json.field?` — a field of an object;
* `Json.quote` — a text as a JSON string;
* `Json.pretty` — the text of a value, two blanks deeper on each level.
-/

/-- A JSON value. A number is kept as it is written. -/
inductive Json where
  | null
  | bool (value : Bool)
  | number (literal : String)
  | string (text : String)
  | array (items : List Json)
  | object (fields : List (String × Json))
deriving Repr, Inhabited

namespace Json

/-- The value of an object's field, if there is one of that name. -/
def field? (name : String) (fields : List (String × Json)) : Option Json :=
  fields.lookup name

/-! ### Strings -/

/-- The hexadecimal digit of a number below sixteen, in lowercase. -/
def hexDigit (n : Nat) : Char :=
  if n < 10 then Char.ofNat (0x30 + n) else Char.ofNat (0x57 + n)

/-- A character inside a JSON string: quotes, backslashes and controls are escaped. -/
def escapeChar (c : Char) : List Char :=
  if c = '"' then ['\\', '"']
  else if c = '\\' then ['\\', '\\']
  else if c = '\x08' then ['\\', 'b']
  else if c = '\t' then ['\\', 't']
  else if c = '\n' then ['\\', 'n']
  else if c = '\x0c' then ['\\', 'f']
  else if c = '\r' then ['\\', 'r']
  else if c.val < 0x20 then ['\\', 'u', '0', '0', hexDigit (c.toNat / 16), hexDigit (c.toNat % 16)]
  else [c]

/-- A text as a JSON string. -/
def quote (text : String) : String :=
  "\"" ++ String.ofList (text.toList.flatMap escapeChar) ++ "\""

/-! ### Indented text -/

/-- A new line with two blanks for every level. -/
def newline (level : Nat) : String := "\n" ++ String.ofList (List.replicate (2 * level) ' ')

mutual

/-- The text of a value that stands on the given level. Empty arrays and objects take no
    line of their own. -/
def write (level : Nat) : Json → String
  | .null => "null"
  | .bool value => if value then "true" else "false"
  | .number literal => literal
  | .string text => quote text
  | .array [] => "[]"
  | .array (item :: rest) =>
    "[" ++ newline (level + 1) ++ write (level + 1) item ++ writeItems (level + 1) rest ++
      newline level ++ "]"
  | .object [] => "\x7b\x7d"
  | .object ((name, value) :: rest) =>
    "\x7b" ++ newline (level + 1) ++ quote name ++ ": " ++ write (level + 1) value ++
      writeFields (level + 1) rest ++ newline level ++ "\x7d"

/-- The further items of an array, each after a comma and on a line of its own. -/
def writeItems (level : Nat) : List Json → String
  | [] => ""
  | item :: rest => "," ++ newline level ++ write level item ++ writeItems level rest

/-- The further fields of an object, each after a comma and on a line of its own. -/
def writeFields (level : Nat) : List (String × Json) → String
  | [] => ""
  | (name, value) :: rest =>
    "," ++ newline level ++ quote name ++ ": " ++ write level value ++ writeFields level rest

end

/-- The text of a value, indented by two blanks for every level. -/
def pretty (value : Json) : String := write 0 value

end Json

end FileRoutes
