import FileRoutes.Command.Run

open FileRoutes FileRoutes.Command

/-! The command on a real machine: it looks up the settings file and reads its input. -/

/-- The system's text for a fault, with the number that the system gives it. -/
def faultText : IO.Error → String
  | .permissionDenied _ number text | .inappropriateType _ number text
  | .resourceExhausted _ number text | .invalidArgument _ number text
  | .noSuchThing _ number text | .noFileOrDirectory _ number text | .interrupted _ number text
  | .hardwareFault number text | .resourceBusy number text | .unsupportedOperation number text
  | .otherError number text =>
    text ++ " (os error " ++ toString number ++ ")"
  | fault => toString fault

/-- What stands at a path. Nothing does if the system cannot find it; what it finds but does not
    give away is there. -/
def lookUp (path : String) : IO Entry := do
  try discard <| IO.FS.realPath path
  catch _ => return .missing
  try
    return .file (← IO.FS.readBinFile path)
  catch
    | .inappropriateType .. => return .folder
    | fault => return .unreadable (faultText fault)

/-- Whether a request reads the list of files from the input. -/
def needsInput : Request → Bool
  | .run invocation => invocation.task.files.isEmpty
  | _ => false

/-- Reads the whole input. -/
def readInput : IO Input := do
  try
    return .bytes (← (← IO.getStdin).readBinToEnd)
  catch fault => return .unreadable (faultText fault)

def main (arguments : List String) : IO UInt32 := do
  let request := parse arguments
  let entry ← match request with
    | .run invocation => lookUp invocation.config
    | _ => pure .missing
  let input ← if needsInput request then readInput else pure (.bytes .empty)
  let working := (← IO.currentDir).toString
  let outcome := run arguments ⟨working, fun _ => entry, input⟩
  (← IO.getStdout).putStr outcome.output
  (← IO.getStderr).putStr outcome.errors
  return outcome.exit.toUInt32
