import FileRoutes.Folder
import FileRoutes.Mount
import FileRoutes.Text.Ending
import FileRoutes.Toml.Document
import FileRoutes.Unicode.Blank

namespace FileRoutes

/-!
# Configuration — the settings of a project

* `Config` — the folder that holds the domains, the extensions of pages, and the locations of
  domains that are not mounted under their own names;
* `Config.ofToml?` — the settings in a TOML document, with defaults for missing keys;
* `Config.load` — the settings at a path;
* `Config.mount`, `Config.accepts` — what the settings say about a domain and a path.
-/

/-- The settings of a project. -/
structure Config where
  /-- The folder that holds a folder for each domain. -/
  directory : String
  /-- The endings of paths that are pages. -/
  extensions : List String
  /-- The locations of the domains that are not mounted under their own names. -/
  locations : List (String × String)
deriving Repr, DecidableEq

/-- The settings that hold if nothing is set. -/
def Config.default : Config := ⟨"src", [".vue", ".ts", ".js"], []⟩

/-- The file that settings are read from if no other is named. -/
def Config.defaultFile : String := "domain-router.toml"

/-! ### Settings in a TOML document -/

namespace Toml

/-- The text of a string value. -/
def Value.text? : Value → Option String
  | .string text => some text
  | _ => none

/-- The texts of an array of strings. -/
def Value.texts? : Value → Option (List String)
  | .array items => items.mapM Value.text?
  | _ => none

/-- The name under which a date-time stands where a table of texts is asked for. -/
def dateTimeKey : String := "$__toml_private_datetime"

/-- The keys and texts of a table of strings. A date-time counts as a table that holds its
    own text. -/
def Value.textTable? : Value → Option (List (String × String))
  | .table entries => entries.mapM fun (key, value) => value.text?.map (key, ·)
  | .dateTime text => some [(dateTimeKey, text)]
  | _ => none

end Toml

/-- The setting of a key, read by a function, or the default if the key is missing. -/
def Config.setting? {α : Type} (read : Toml.Value → Option α) (default : α)
    (value : Option Toml.Value) : Option α :=
  match value with
  | none => some default
  | some value => read value

/-- The locations in the settings for domains. They stand under one of two keys, or first in
    an array. -/
def Config.locations? : Toml.Value → Option (List (String × String))
  | .table entries =>
    match entries.lookup "path_alias", entries.lookup "domainPathAlias" with
    | some _, some _ => none
    | some table, none => table.textTable?
    | none, table => Config.setting? Toml.Value.textTable? [] table
  | .array items => Config.setting? Toml.Value.textTable? [] items.head?
  | .dateTime _ => some []
  | _ => none

/-- The settings in a document. Unknown keys are passed over. -/
def Config.ofToml? (document : List (String × Toml.Value)) : Option Config := do
  let directory ←
    Config.setting? Toml.Value.text? Config.default.directory (document.lookup "directory")
  let extensions ←
    Config.setting? Toml.Value.texts? Config.default.extensions (document.lookup "extensions")
  let locations ←
    Config.setting? Config.locations? Config.default.locations (document.lookup "domains")
  return ⟨directory, extensions, locations⟩

/-! ### Settings in a file -/

/-- Why the bytes at a path are no text. -/
inductive ReadFault where
  | isFolder
  | notUtf8
  /-- The system refused to give the bytes, with its text for the reason. -/
  | refused (cause : String)
deriving Repr, DecidableEq

/-- The text that tells a reader why there is no text. -/
def ReadFault.message : ReadFault → String
  | .isFolder => "Is a directory (os error 21)"
  | .notUtf8 => "stream did not contain valid UTF-8"
  | .refused cause => cause

/-- Why there are no settings at a path. -/
inductive ConfigFault where
  | unreadable (path : String) (cause : ReadFault)
  | invalid (path : String)
deriving Repr, DecidableEq

/-- The text that names the path. -/
def ConfigFault.message : ConfigFault → String
  | .unreadable path _ => "failed to read config file " ++ path
  | .invalid path => "failed to parse config file " ++ path

/-- The settings in a text. A blank text leaves the defaults. -/
def Config.ofText? (text : String) : Option Config :=
  if Unicode.trim text = "" then some Config.default
  else (Toml.document? text).bind Config.ofToml?

/-- The settings at a path, given what the path leads to. If it leads nowhere, the defaults
    hold. -/
def Config.load (path : String) : Entry → Except ConfigFault Config
  | .missing => .ok Config.default
  | .folder => .error (.unreadable path .isFolder)
  | .unreadable cause => .error (.unreadable path (.refused cause))
  | .file content =>
    match String.fromUTF8? content with
    | none => .error (.unreadable path .notUtf8)
    | some text =>
      match Config.ofText? text with
      | none => .error (.invalid path)
      | some config => .ok config

/-! ### What the settings say -/

/-- The mount of a domain: at its location if it has one, else under its own name. -/
def Config.mount (config : Config) (domain : String) : Mount :=
  match config.locations.lookup domain with
  | some location => .aliased domain location
  | none => .ofDomain domain

/-- Whether a path is that of a page. -/
def Config.accepts (config : Config) (path : String) : Bool :=
  config.extensions.any (Text.hasEnding · path)

end FileRoutes
