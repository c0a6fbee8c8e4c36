import FileRoutes.Config
import FileRoutes.Handlers
import FileRoutes.Layout

namespace FileRoutes.Command

/-!
# The command line — failures

* `Failure` — why a command has no result;
* `Failure.chain` — the texts that say so, each the cause of the one before it;
* `Failure.report` — the chain as it is printed.
-/

/-- Why a command has no result. -/
inductive Failure where
  | config (fault : ConfigFault)
  /-- The input is no text. -/
  | fileList
  /-- The input cannot be read, with the text of the fault. -/
  | input (cause : String)
  | pages (domain : String) (fault : MalformedFile)
  | handlers (fault : Handler.MalformedName)
  | duplicates (domain : String)
deriving Repr, DecidableEq

/-- The text that says what failed. -/
def Failure.message : Failure → String
  | .config fault => fault.message
  | .fileList | .input _ => "Failed to read file list from stdin"
  | .pages domain _ => "Failed to build routes for domain '" ++ domain ++ "'"
  | .handlers fault => fault.message
  | .duplicates domain => "Duplicate route names found in domain '" ++ domain ++ "'"

/-- The causes of a failure, the nearest first. -/
def Failure.causes : Failure → List String
  | .config (.unreadable _ cause) => [cause.message]
  | .config (.invalid _) => []
  | .fileList => [ReadFault.notUtf8.message]
  | .input cause => [cause]
  | .pages _ fault => [fault.message, fault.cause.message]
  | .handlers fault => [fault.cause.message]
  | .duplicates _ => []

/-- The texts of a failure, each the cause of the one before it. -/
def Failure.chain (failure : Failure) : List String := failure.message :: failure.causes

/-! ### The report -/

/-- A text whose first line stands after a label and whose other lines stand below it, after
    as many blanks as `indent` says. -/
def hanging (label : String) (indent : Nat) (text : String) : String :=
  let gap := String.ofList ('\n' :: List.replicate indent ' ')
  label ++ String.intercalate gap ((text.toList.splitOn '\n').map String.ofList)

/-- The label of a numbered cause: its number, set right in five places. -/
def causeLabel (number : Nat) : String :=
  let digits := Nat.toDigits 10 number
  String.ofList (List.replicate (5 - digits.length) ' ' ++ digits) ++ ": "

/-- The causes of a failure, one below the other. A single cause has no number. -/
def causeBlock : List String → String
  | [] => ""
  | [cause] => "\n\nCaused by:\n" ++ hanging "    " 4 cause
  | causes =>
    "\n\nCaused by:" ++
      String.join (causes.zipIdx.map fun (cause, number) =>
        "\n" ++ hanging (causeLabel number) 7 cause)

/-- A failure as it is printed. -/
def Failure.report (failure : Failure) : String :=
  "Error: " ++ failure.message ++ causeBlock failure.causes

end FileRoutes.Command
