import FileRoutes.Command.Arguments
import FileRoutes.Command.Failure
import FileRoutes.Event.Line
import FileRoutes.FileList
import FileRoutes.Json.Forest
import FileRoutes.Pages
import FileRoutes.Root

namespace FileRoutes.Command

/-!
# The command line — what a command prints

* `Surroundings` — what a command finds where it runs;
* `Input.paths` — the paths that a command works on;
* `Outcome` — its exit code and what it prints;
* `runPages`, `runHandlers` — the two tasks on settings and a list of paths;
* `Invocation.run` — a task from its settings on;
* `run` — the whole command.
-/

/-- The input of a command. -/
inductive Input where
  | bytes (content : ByteArray)
  /-- An input that cannot be read, with the text of the fault. -/
  | unreadable (cause : String)

instance : Coe ByteArray Input := ⟨.bytes⟩

/-- What a command finds where it runs: its working folder, what stands at a path, and its
    input. -/
structure Surroundings where
  working : String
  entryAt : String → Entry
  input : Input

/-- The exit code of a command and what it prints. -/
structure Outcome where
  exit : Nat
  output : String
  errors : String
deriving Repr, DecidableEq

/-- The paths that were given, or else those in the input. An input that nobody asks for can do
    no harm. -/
def Input.paths (given : List String) : Input → Except Failure (List String)
  | .bytes content =>
    match FileList.read given content with
    | none => .error .fileList
    | some paths => .ok paths
  | .unreadable cause => if given.isEmpty then .error (.input cause) else .ok given

/-- The lines of a text, each with its line end. -/
def lines (texts : List String) : String := String.join (texts.map (· ++ "\n"))

/-- A command that failed after some lines of the log. It prints no result. -/
def Outcome.failed (log : List String) (failure : Failure) : Outcome :=
  ⟨1, "", lines (log ++ [failure.report])⟩

/-- The level of the log: warnings only, or with one option more or two. -/
def logLevel (verbosity : Nat) : Level :=
  match verbosity with
  | 0 => .warn
  | 1 => .debug
  | _ => .trace

/-! ### Tasks -/

/-- The events that tell about compiled pages: the paths left out and the problems found. -/
def closingEvents (pages : Pages) : List Event :=
  pages.skipped.map .skipped ++ pages.diagnostics.map .duplicate

/-- The lines that sum up compiled pages. -/
def summary (domain : String) (pages : Pages) : List String :=
  ("✓ " ++ toString pages.routes.count ++ " routes for " ++ domain) ::
    if pages.diagnostics.isEmpty then []
    else ["⚠ " ++ toString pages.diagnostics.length ++ " duplicate route name(s)"]

/-- Compiles pages and prints their routes as JSON. If duplicates are denied, a name that is
    taken twice makes the command fail after printing. -/
def runPages (level : Level) (config : Config) (domain root : String) (paths : List String)
    (denyDuplicates : Bool) : Outcome :=
  let log := level.lines (Pages.events config domain root paths)
  match Pages.compile config domain root paths with
  | .error fault => .failed log (.pages domain fault)
  | .ok pages =>
    -- The routes are printed in either case.
    let denied := denyDuplicates && !pages.diagnostics.isEmpty
    let told := log ++ level.lines (closingEvents pages) ++ summary domain pages
    { exit := if denied then 1 else 0
      output := pages.routes.toJson.pretty ++ "\n"
      errors := lines (told ++ if denied then [(Failure.duplicates domain).report] else []) }

/-- Prints the URL and the full path of each handler file. -/
def runHandlers (domain root : String) (kind : Handler.Kind) (paths : List String) : Outcome :=
  match Handler.resolve domain root kind paths with
  | .error fault => .failed [] (.handlers fault)
  | .ok table => ⟨0, lines (table.map fun (url, file) => url ++ "\t" ++ file), ""⟩

/-- The domain of a task. -/
def Task.domain : Task → String
  | .pages domain .. => domain
  | .handlers domain .. => domain

/-- The files that were given to a task. -/
def Task.files : Task → List String
  | .pages _ files .. => files
  | .handlers _ files .. => files

/-- The folder that the files of a task are relative to. -/
def Task.root (task : Task) (working : String) (config : Config) : String :=
  match task with
  | .pages domain _ root _ => Path.root root working [config.directory, domain, "pages"]
  | .handlers domain _ root kind =>
    Path.root root working [config.directory, domain, "server", kind.folder]

/-- Carries out a task with its settings on a list of paths. -/
def Task.run (task : Task) (level : Level) (config : Config) (root : String)
    (paths : List String) : Outcome :=
  match task with
  | .pages domain _ _ denyDuplicates => runPages level config domain root paths denyDuplicates
  | .handlers domain _ _ kind => runHandlers domain root kind paths

/-- Reads the settings and the list of paths, and carries out the task. -/
def Invocation.run (invocation : Invocation) (surroundings : Surroundings) : Outcome :=
  match Config.load invocation.config (surroundings.entryAt invocation.config) with
  | .error fault => .failed [] (.config fault)
  | .ok config =>
    match surroundings.input.paths invocation.task.files with
    | .error failure => .failed [] failure
    | .ok paths =>
      invocation.task.run (logLevel invocation.verbosity) config
        (invocation.task.root surroundings.working config) paths

/-! ### The command -/

/-- The name and the version of the command. -/
def versionLine : String := "domain-router 0.1.0"

/-- How the command is used. -/
def usage : List String := [
  "Domain Router CLI - compile page files into route tables",
  "",
  "Usage: domain-router [OPTIONS] <COMMAND>",
  "",
  "Commands:",
  "  pages     Build the page route tree of a domain and print it as JSON",
  "  handlers  Print the mount route of each server handler file",
  "  help      Print this message or the help of the given subcommand(s)",
  "",
  "Options:",
  "      --config <CONFIG>  Path to the config file [default: domain-router.toml]",
  "  -v, --verbose...       Increase log verbosity (-v debug, -vv trace)",
  "  -h, --help             Print help",
  "  -V, --version          Print version"]

/-- Runs the command with the given arguments. -/
def run (arguments : List String) (surroundings : Surroundings) : Outcome :=
  match parse arguments with
  | .run invocation => invocation.run surroundings
  | .help => ⟨0, lines usage, ""⟩
  | .version => ⟨0, lines [versionLine], ""⟩
  | .mistake => ⟨2, "", lines usage⟩

end FileRoutes.Command
