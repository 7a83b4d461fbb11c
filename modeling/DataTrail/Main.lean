import DataTrail.Command.Run

/-! The program: real files, arguments, variables and streams. -/

namespace DataTrail.Main

/-- The fault behind an error that the system reports with a number. -/
def faultOfNumber (number : UInt32) (details : String) : Fault :=
  match number with
  | 2 => .notFound
  | 17 => .alreadyExists
  | 20 => .notDirectory
  | 21 => .isDirectory
  | 36 => .nameTooLong
  | n => .other (details ++ " (os error " ++ toString n ++ ")")

/-- The fault behind an error. -/
def fault : IO.Error → Fault
  | .noFileOrDirectory .. => .notFound
  | .alreadyExists _ number details => faultOfNumber number details
  | .inappropriateType _ number details => faultOfNumber number details
  | .invalidArgument _ number details => faultOfNumber number details
  | .resourceExhausted _ number details => faultOfNumber number details
  | .permissionDenied _ number details => faultOfNumber number details
  | .noSuchThing _ number details => faultOfNumber number details
  | .otherError number details => faultOfNumber number details
  | e => .other (toString e)

/-- Carries out an operation on the path of a file. -/
def attempt (path : String) (action : IO α) : IO (Except Fault α) := do
  if path.toList.contains '\x00' then return .error .nulInPath
  if path = "" then return .error .notFound
  try
    return .ok (← action)
  catch e => return .error (fault e)

/-- The files of the system. -/
def disk : Disk IO where
  kind path := attempt path do
    match (← ((← IO.currentDir) / path).metadata).type with
    | .dir => return .directory
    | _ => return .file
  read path := attempt path do return (← IO.FS.readBinFile path).data.toList
  write path content := attempt path (IO.FS.writeBinFile path ⟨content.toArray⟩)
  makeDirectory path := attempt path (IO.FS.createDir path)
  filesIn path := attempt path do
    let place := (← IO.currentDir) / path
    match (← place.metadata).type with
    | .dir =>
      let entries ← (← place.readDir).filterM fun entry => do
        return (← entry.path.symlinkMetadata).type == .file
      return entries.toList.map (·.fileName)
    | _ => return []

/-- The variables in the form in which the system lists them, with a zero byte after each. -/
def listedVariables (bytes : Bytes) : List (String × String) :=
  match Text.decode? bytes with
  | none => []
  | some text => (Text.pieces '\x00' text).filterMap fun entry =>
    match Text.pieces '=' entry with
    | name :: value :: rest => some (name, Text.joinWith "=" (value :: rest))
    | _ => none

/-- The variables of the environment. Where the system does not list them, those that hold settings
are asked for. -/
def environment : IO (List (String × String)) := do
  match ← disk.read "/proc/self/environ" with
  | .ok bytes => return listedVariables bytes
  | .error _ =>
    ["PDFLOW_OUTPUT_DIR", "PDFLOW_NAMESPACE_DEPTH"].filterMapM fun name => do
      return (← IO.getEnv name).map (name, ·)

/-- Whether a notice is shown. -/
def isShown (verbose : Bool) : Level → Bool
  | .trace => false
  | .debug => verbose
  | .info | .warn | .error => true

/-- A notice on one line. -/
def noticeLine (n : Notice) : String :=
  n.level.name ++ " " ++ n.message ++
    String.join (n.fields.map fun (name, value) => " " ++ name ++ "=" ++ value)

end DataTrail.Main

open DataTrail in
/-- Runs the program. -/
def main (args : List String) : IO UInt32 := do
  let root := (← IO.currentDir).toString
  let exit ← Command.execute Main.disk (root :: Path.parents root) (← Main.environment) args
  for notice in exit.notices do
    if Main.isShown exit.verbose notice.level then IO.eprintln (Main.noticeLine notice)
  IO.print exit.output
  IO.eprint exit.messages
  return exit.code.toUInt32
