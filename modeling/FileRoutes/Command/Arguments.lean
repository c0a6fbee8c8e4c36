import FileRoutes.Config
import FileRoutes.Handler

namespace FileRoutes.Command

/-!
# The command line — its arguments

* `Flag` — the options of the command and of its subcommands, with their spellings;
* `Mark` — what one or two arguments say: an option, an operand, a subcommand, or nothing that
  makes sense;
* `marks` — the arguments of a scope read from left to right, up to the first that makes no
  sense;
* `Invocation` — what the command was asked to do;
* `parse` — what a list of arguments asks for.
-/

/-- The part of the command line that an argument belongs to. -/
inductive Scope where
  | command
  | pages
  | handlers
deriving Repr, DecidableEq

/-- The options. -/
inductive Flag where
  | config
  | verbose
  | help
  | version
  | root
  | denyDuplicates
  | kind
deriving Repr, DecidableEq

/-- Whether an option has a value. -/
def Flag.takesValue : Flag → Bool
  | .config | .root | .kind => true
  | .verbose | .help | .version | .denyDuplicates => false

/-- The long option of a name. -/
def Scope.long? (scope : Scope) (name : String) : Option Flag :=
  match scope, name with
  | _, "config" => some .config
  | _, "verbose" => some .verbose
  | _, "help" => some .help
  | .command, "version" => some .version
  | .pages, "root" | .handlers, "root" => some .root
  | .pages, "deny-duplicates" => some .denyDuplicates
  | .handlers, "kind" => some .kind
  | _, _ => none

/-- The short option of a letter. -/
def Scope.short? (scope : Scope) (letter : Char) : Option Flag :=
  match scope, letter with
  | _, 'v' => some .verbose
  | _, 'h' => some .help
  | .command, 'V' => some .version
  | .pages, 'r' | .handlers, 'r' => some .root
  | .handlers, 'k' => some .kind
  | _, _ => none

/-! ### Marks -/

/-- What the next arguments say. -/
inductive Mark where
  | flag (flag : Flag)
  | value (flag : Flag) (value : String)
  | operand (text : String)
  /-- A subcommand with all arguments after it. -/
  | subcommand (name : String) (rest : List String)
  /-- Nothing that makes sense. -/
  | unknown
deriving Repr, DecidableEq

/-- Whether an argument can be the value of the option before it. A lone hyphen can. -/
def isOperand (argument : String) : Bool :=
  argument = "-" || argument.toList.head? != some '-'

/-- The short options of one argument. One that takes a value takes the rest of the argument;
    if there is none left, it is given back to take the next argument. -/
def cluster (scope : Scope) : List Char → List Mark × Option Flag
  | [] => ([], none)
  | letter :: rest =>
    match scope.short? letter with
    | none => ([.unknown], none)
    | some flag =>
      if flag.takesValue then
        match rest with
        | [] => ([], some flag)
        | '=' :: value => ([.value flag (String.ofList value)], none)
        | value => ([.value flag (String.ofList value)], none)
      else
        let (marks, waiting) := cluster scope rest
        (.flag flag :: marks, waiting)

/-- A long option: its name, and its value after an equals sign. One that takes a value and has
    none is given back to take the next argument. -/
def long (scope : Scope) (text : List Char) : List Mark × Option Flag :=
  let name := text.takeWhile (· != '=')
  match scope.long? (String.ofList name), text.drop name.length with
  | none, _ => ([.unknown], none)
  | some flag, [] => if flag.takesValue then ([], some flag) else ([.flag flag], none)
  | some flag, _ :: value =>
    if flag.takesValue then ([.value flag (String.ofList value)], none) else ([.unknown], none)

/-- What the arguments of a scope say, from left to right. After two hyphens alone there are
    only operands, which the command itself does not have. -/
def marks (scope : Scope) : List String → List Mark
  | [] => []
  | argument :: rest =>
    if isOperand argument then
      if scope = .command then [.subcommand argument rest]
      else .operand argument :: marks scope rest
    else if argument = "--" then
      -- The command has subcommands in place of operands.
      if scope = .command then [.unknown] else rest.map .operand
    else
      let (found, waiting) :=
        match argument.toList with
        | '-' :: '-' :: text => long scope text
        | text => cluster scope text.tail
      match waiting with
      | none => found ++ marks scope rest
      | some flag =>
        match rest with
        | [] => found ++ [.unknown]
        -- What looks like an option is never taken for a value.
        | value :: rest =>
          if isOperand value then found ++ .value flag value :: marks scope rest
          else found ++ [.unknown]

/-! ### Invocations -/

/-- What the command does. -/
inductive Task where
  /-- Prints the routes of a domain's pages. -/
  | pages (domain : String) (files : List String) (root : Option String) (denyDuplicates : Bool)
  /-- Prints the URLs of a domain's handlers. -/
  | handlers (domain : String) (files : List String) (root : Option String) (kind : Handler.Kind)
deriving Repr, DecidableEq

/-- What the command was asked to do, with which settings, and how much to tell about it. -/
structure Invocation where
  config : String
  verbosity : Nat
  task : Task
deriving Repr, DecidableEq

/-- What a list of arguments asks for. -/
inductive Request where
  | run (invocation : Invocation)
  | help
  | version
  | mistake
deriving Repr, DecidableEq

/-- The options and operands read so far. -/
structure Draft where
  config : Option String
  verbosity : Nat
  root : Option String
  denyDuplicates : Bool
  kind : Option Handler.Kind
  operands : List String

/-- A draft before the first argument. -/
def Draft.start : Draft := ⟨none, 0, none, false, none, []⟩

/-- The handler folder of a name. -/
def kind? (name : String) : Option Handler.Kind :=
  match name with
  | "api" => some .api
  | "route" => some .route
  | _ => none

/-- The draft with an option that has a value, which can be given once. -/
def Draft.set? (draft : Draft) (flag : Flag) (value : String) : Option Draft :=
  match flag with
  | .config => if draft.config.isSome then none else some { draft with config := some value }
  | .root => if draft.root.isSome then none else some { draft with root := some value }
  | .kind =>
    if draft.kind.isSome then none
    else (kind? value).map fun kind => { draft with kind := some kind }
  | .verbose | .help | .version | .denyDuplicates => none

/-- Reads marks into a draft up to the end, a subcommand, or an answer that is clear before:
    help, the version, or a mistake. -/
def Draft.read (draft : Draft) : List Mark → Except Request (Draft × Option (String × List String))
  | [] => .ok (draft, none)
  | .unknown :: _ => .error .mistake
  | .operand text :: rest => { draft with operands := draft.operands ++ [text] }.read rest
  | .subcommand name arguments :: _ => .ok (draft, some (name, arguments))
  | .value flag value :: rest =>
    match draft.set? flag value with
    | none => .error .mistake
    | some draft => draft.read rest
  | .flag .help :: _ => .error .help
  | .flag .version :: _ => .error .version
  | .flag .verbose :: rest => { draft with verbosity := draft.verbosity + 1 }.read rest
  | .flag .denyDuplicates :: rest =>
    if draft.denyDuplicates then .error .mistake
    else { draft with denyDuplicates := true }.read rest
  | .flag _ :: _ => .error .mistake

/-- The task of a subcommand. The first operand is the domain, the others are files. -/
def Draft.task? (draft : Draft) (scope : Scope) : Option Task :=
  match scope, draft.operands with
  | .pages, domain :: files => some (.pages domain files draft.root draft.denyDuplicates)
  | .handlers, domain :: files =>
    some (.handlers domain files draft.root (draft.kind.getD .api))
  | _, _ => none

/-- What the arguments of a subcommand ask for. The settings file and the verbosity may be given
    on either side of the subcommand, and what is given after it counts. -/
def subcommand (outer : Draft) (scope : Scope) (arguments : List String) : Request :=
  match Draft.start.read (marks scope arguments) with
  | .error request => request
  | .ok (inner, _) =>
    match inner.task? scope with
    | none => .mistake
    | some task =>
      .run {
        config := (inner.config.or outer.config).getD Config.defaultFile
        verbosity := if inner.verbosity = 0 then outer.verbosity else inner.verbosity
        task }

/-- What the arguments of the help subcommand ask for: help on the command or on one
    subcommand. -/
def helpOn (arguments : List String) : Request :=
  match arguments with
  | [] | ["pages"] | ["handlers"] | ["help"] => .help
  | _ => .mistake

/-- What a list of arguments asks for. -/
def parse (arguments : List String) : Request :=
  match Draft.start.read (marks .command arguments) with
  | .error request => request
  | .ok (outer, some ("pages", rest)) => subcommand outer .pages rest
  | .ok (outer, some ("handlers", rest)) => subcommand outer .handlers rest
  | .ok (_, some ("help", rest)) => helpOn rest
  | .ok _ => .mistake

end FileRoutes.Command
