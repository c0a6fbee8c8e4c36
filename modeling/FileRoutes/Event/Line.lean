import FileRoutes.Event
import FileRoutes.Text.Quoted

namespace FileRoutes

/-!
# Events — the lines of a log

* `Event.line` — an event as a line: its level, its message, and its fields;
* `Level.lines` — the lines of the events that a log of a given level holds.
-/

/-- A character of a message as it stands in a line. The controls that would steer a terminal
    are written as their codes; line ends and tabs are kept. -/
def escapeControl (c : Char) : List Char :=
  if c = '\x1b' then "\\x1b".toList
  else if c = '\x07' then "\\x07".toList
  else if c = '\x08' then "\\x08".toList
  else if c = '\x0c' then "\\x0c".toList
  else if c = '\x7f' then "\\x7f".toList
  else if 0x80 ≤ c.val && c.val ≤ 0x9F then
    ['\\', 'u', '\x7b'] ++ Text.hexDigits c.toNat ++ ['\x7d']
  else [c]

/-- The text of a field's value. -/
def FieldValue.shown : FieldValue → String
  | .text value => value
  | .quoted value => Text.quote value
  | .count value => toString value

/-- An event as a line of the log. -/
def Event.line (event : Event) : String :=
  event.level.label ++ " " ++ String.ofList (event.message.toList.flatMap escapeControl) ++
    String.join (event.fields.map fun (name, value) => " " ++ name ++ "=" ++ value.shown)

/-- The lines of the events that a log of the given level holds. -/
def Level.lines (limit : Level) (events : List Event) : List String :=
  (events.filter fun event => limit.holds event.level).map Event.line

end FileRoutes
