import FileRoutes.Diagnostic

namespace FileRoutes

/-!
# Events — what a compilation tells about its work

* `Level` — how much a reader of the log wants to know;
* `Event` — a step worth telling, with its level, message and fields.
-/

/-- The levels of events, the most important first. -/
inductive Level where
  | warn
  | debug
  | trace
deriving Repr, DecidableEq

/-- The place of a level in the order of importance. -/
def Level.rank : Level → Nat
  | .warn => 0
  | .debug => 1
  | .trace => 2

/-- Whether a log kept at this level holds the events of the other level. -/
def Level.holds (limit level : Level) : Bool := level.rank ≤ limit.rank

/-- The name of a level in the log. -/
def Level.label : Level → String
  | .warn => "WARN"
  | .debug => "DEBUG"
  | .trace => "TRACE"

/-- What a field of an event holds. A quoted text is shown in quotes. -/
inductive FieldValue where
  | text (value : String)
  | quoted (value : String)
  | count (value : Nat)
deriving Repr, DecidableEq

/-- A step that the log tells of. -/
inductive Event where
  /-- The pages of a domain are about to be compiled. -/
  | compiling (domain path : String) (files : Nat)
  /-- A file goes below the route of a layout. -/
  | nested (file layout : String)
  /-- All files have their place. -/
  | built (mount : String) (files topLevel : Nat)
  /-- The route of a file gives its name to a child that is shown at its own path. -/
  | pathless (file : String)
  /-- A name is taken twice. -/
  | duplicate (diagnostic : Diagnostic)
  /-- A path does not have the extension of a page. -/
  | skipped (path : String)
deriving Repr, DecidableEq

/-- The level of an event. -/
def Event.level : Event → Level
  | .compiling .. | .nested .. | .built .. | .skipped .. => .debug
  | .pathless _ => .trace
  | .duplicate _ => .warn

/-- The message of an event. -/
def Event.message : Event → String
  | .compiling .. => "compiling pages"
  | .nested .. => "nesting under layout route"
  | .built .. => "built route tree"
  | .pathless _ => "pathless child takes over route name"
  | .duplicate diagnostic => diagnostic.message
  | .skipped _ => "skipping file with unrecognized extension"

/-- The named fields of an event, in order. -/
def Event.fields : Event → List (String × FieldValue)
  | .compiling domain path files =>
    [("domain", .quoted domain), ("path", .text path), ("files", .count files)]
  | .nested file layout => [("file", .text file), ("layout", .text layout)]
  | .built mount files topLevel =>
    [("prefix", .text mount), ("files", .count files), ("top_level", .count topLevel)]
  | .pathless file => [("file", .text file)]
  | .duplicate _ => []
  | .skipped path => [("path", .text path)]

end FileRoutes
