import FileRoutes.Toml.DateTime
import FileRoutes.Toml.Number
import FileRoutes.Toml.Quoted
import FileRoutes.Toml.Table

namespace FileRoutes.Toml

/-!
# TOML — documents

* `keys` — a key, or several with dots between them;
* `value` — a value, with a bound on how deep arrays and inline tables may be nested;
* `Statement` — a line of a document that is not blank;
* `document?` — the keys of a document with their values, or nothing if the text is no TOML.
-/

/-- The number of containers, or of keys in a row, that a document has to stay below. -/
def depthLimit : Nat := 80

/-! ### Keys -/

/-- Whether a character can stand in a key without quotes. -/
def isBareKeyChar (c : Char) : Bool := c.isAlphanum || c == '_' || c == '-'

/-- A key, quoted or bare. -/
def key : Reader String := do
  match ← Reader.peek? with
  | some '"' | some '\'' => quotedLine
  | _ =>
    let name ← Reader.run isBareKeyChar
    guard (!name.isEmpty)
    return String.ofList name

/-- Keys with dots between them, at most `limit` of them. -/
def keysWithin : (limit : Nat) → Reader (List String)
  | 0 => failure
  | limit + 1 => do
    spaces
    let name ← key
    spaces
    if ← Reader.accept '.' then return name :: (← keysWithin limit)
    else return [name]

/-- Keys with dots between them: the keys before the last one, and the last one. There are
    fewer of them than the limit. -/
def keys : Reader (List String × String) := do
  let names ← keysWithin (depthLimit - 1)
  match names.getLast? with
  | some last => return (names.dropLast, last)
  | none => failure

/-! ### Values -/

/-- Whether a character ends a value that is written without quotes and brackets. -/
def endsScalar (c : Char) : Bool :=
  c == ' ' || c == '\t' || c == '\n' || c == '\r' || c == '#' || c == ',' || c == ']' ||
    c == '\x7d'

/-- The value that a word writes: a truth value, a date-time, a float or an integer. -/
def scalar? (word : List Char) : Option Value :=
  if word = ['t', 'r', 'u', 'e'] then some (.boolean true)
  else if word = ['f', 'a', 'l', 's', 'e'] then some (.boolean false)
  else
    (dateTime? word).map .dateTime |>.or <|
      (float? word).map .float |>.or <| (integer? word).map .integer

/-- A value of one word, or of two if they are a date and a time. -/
def scalar : Reader Value := do
  let word ← Reader.run (!endsScalar ·)
  -- A blank may stand between a date and a time, and nowhere else in a value.
  let pair ← do
    match ← get with
    | ' ' :: rest => pure (word ++ ' ' :: rest.takeWhile (!endsScalar ·))
    | _ => pure word
  match if pair.length = word.length then none else dateTime? pair with
  | some text =>
    modify (·.drop (pair.length - word.length))
    return .dateTime text
  | none => Reader.through fun rest => (scalar? word).map (·, rest)

/-- A quoted text or a value of one word. -/
def simpleValue : Reader Value := do
  match ← Reader.peek? with
  | some '"' | some '\'' => return .string (← quoted)
  | _ => scalar

/-- The items of an array up to its closing bracket, as long as `fuel` lasts. The last item
    may have a comma after it. -/
def arrayItems (item : Reader Value) : (fuel : Nat) → Reader (List Value)
  | 0 => failure
  | fuel + 1 => do
    layout
    if ← Reader.accept ']' then return []
    let first ← item
    layout
    if ← Reader.accept ',' then return first :: (← arrayItems item fuel)
    Reader.expect ']'
    return [first]

/-- The assignments of an inline table up to its closing brace, as long as `fuel` lasts. -/
def inlineEntries (item : Reader Value) : (fuel : Nat) → Entries → Reader Entries
  | 0, _ => failure
  | fuel + 1, entries => do
    let (path, last) ← keys
    Reader.expect '='
    spaces
    let value ← item
    spaces
    -- An inline table follows the rules for dotted keys of a table with a header.
    let entries ← Reader.through fun rest =>
      (assign path last value .header entries).map (·, rest)
    if ← Reader.accept ',' then inlineEntries item fuel entries
    else
      Reader.expect '\x7d'
      return entries

/-- The keys and values of an inline table, after its opening brace. -/
def inlineTable (item : Reader Value) : Reader Value := do
  spaces
  if ← Reader.accept '\x7d' then return .table []
  return .table (valuesOf (← inlineEntries item (← get).length []))

/-- A value with at most `levels` containers around its innermost one. -/
def value : (levels : Nat) → Reader Value
  | 0 => simpleValue
  | levels + 1 => do
    if ← Reader.accept '[' then return .array (← arrayItems (value levels) ((← get).length + 1))
    if ← Reader.accept '\x7b' then inlineTable (value levels)
    else simpleValue

/-! ### Statements -/

/-- A line of a document that is not blank. The keys before the last one are kept apart. -/
inductive Statement where
  /-- `path.key = value` -/
  | assign (path : List String) (key : String) (value : Value)
  /-- `[path.key]` -/
  | openTable (path : List String) (key : String)
  /-- `[[path.key]]` -/
  | addTable (path : List String) (key : String)

/-- A statement with the end of its line. -/
def statement : Reader Statement := do
  if ← Reader.accept '[' then
    if ← Reader.accept '[' then
      let (path, last) ← keys
      Reader.expect ']'
      Reader.expect ']'
      endOfLine
      return .addTable path last
    else
      let (path, last) ← keys
      Reader.expect ']'
      endOfLine
      return .openTable path last
  else
    let (path, last) ← keys
    Reader.expect '='
    spaces
    let value ← value (depthLimit - 1)
    endOfLine
    return .assign path last value

/-- The statements of a text, as long as `fuel` lasts; lines without one are passed over. -/
def statements : (fuel : Nat) → Reader (List Statement)
  | 0 => failure
  | fuel + 1 => do
    spaces
    match ← get with
    | [] => return []
    | '#' :: _ | '\n' :: _ | '\r' :: _ =>
      endOfLine
      statements fuel
    | _ => return (← statement) :: (← statements fuel)

/-! ### Documents -/

/-- Carries out statements one after the other; assignments belong to the table that was
    opened last, which `path` leads to. -/
def runStatements : (path : List String) → List Statement → Entries → Option Entries
  | _, [], document => some document
  | path, .assign keys key value :: rest, document => do
    runStatements path rest (← descend false (assign keys key value) path .header document)
  | _, .openTable keys key :: rest, document => do
    runStatements (keys ++ [key]) rest (← openTable keys key document)
  | _, .addTable keys key :: rest, document => do
    runStatements (keys ++ [key]) rest (← addTable keys key document)

/-- The text without a byte order mark at its start. -/
def dropByteOrderMark : List Char → List Char
  | '\uFEFF' :: rest => rest
  | text => text

/-- The keys of a document with their values. -/
def document? (text : String) : Option (List (String × Value)) := do
  let text := dropByteOrderMark text.toList
  let (found, _) ← statements (text.length + 1) text
  return valuesOf (← runStatements [] found [])

end FileRoutes.Toml
