import SceneScript.CommandLine.Run
import SceneScript.Settings.Sources

/-!
The program: settings from the environment and a dotenv file, one command, and its exit code.
-/

namespace SceneScript

def accessFault (error : IO.Error) : AccessFault :=
  match error with
  | .inappropriateType .. => .isDirectory
  | .alreadyExists .. => .exists
  | .invalidArgument .. => .nameTooLong
  | .resourceVanished .. => .notDirectory
  | _ => .noSuchFile

def readFile (path : FilePath) : IO (Except AccessFault (List UInt8)) := do
  try
    let bytes ← IO.FS.readBinFile path.text
    return .ok bytes.toList
  catch error => return .error (accessFault error)

def environment : IO (List (String × String)) := do
  let names := Settings.fieldNames.map fun name => Sources.variableStart ++ name
  let given ← (names ++ names.map Text.upper).filterMapM fun name => do
    let value ← IO.getEnv name
    return value.map fun value => (name, value)
  return given

def loadSettings : IO (Checked Settings) := do
  let given ← environment
  let dotenv ←
    try IO.FS.readFile ".env"
    catch _ => pure ""
  let sources : Sources := { environment := given, dotenv }
  return sources.settings

def save (path : FilePath) (text : String) : IO Unit := do
  IO.FS.createDirAll path.parent.text
  IO.FS.writeFile path.text text

def emit (output : CommandLine.Output) : IO UInt32 := do
  (← IO.getStdout).putStr output.stdout
  (← IO.getStderr).putStr output.stderr
  return output.exitCode.toUInt32

def abort (message : String) : IO UInt32 := do
  (← IO.getStderr).putStrLn message
  return 1

def runCommand (settings : Settings) (arguments : List String) : IO UInt32 := do
  match CommandLine.readArguments arguments with
  | .error stop => emit (CommandLine.stopOutput settings stop)
  | .ok invocation =>
      let content ← readFile (.ofString invocation.file)
      match CommandLine.answer settings invocation content with
      | .error fault => abort fault.message
      | .ok answer =>
          match answer.save with
          | some (path, text) => save path text
          | none => pure ()
          emit answer.output

def start (arguments : List String) : IO UInt32 := do
  match ← loadSettings with
  | .ok settings => runCommand settings arguments
  | .error faults =>
      abort (String.intercalate "\n" (faults.map fun fault => fault.fault.message))

end SceneScript

def main (arguments : List String) : IO UInt32 := SceneScript.start arguments
