import Typewright.CommandLine

/-!
The program itself. It reads the documents that a run asks for, one after another, until the run
asks for no other one, and carries out the steps of its script on the disk.
-/
namespace Typewright.Main

open CommandLine

def causeOf (error : IO.Error) : FileCause :=
  match error with
  | .noFileOrDirectory .. => .notFound
  | .alreadyExists .. => .occupied
  | .inappropriateType _ code _ => if code = 21 then .isDirectory else .notDirectory
  | .invalidArgument .. => .invalidArgument
  | .resourceBusy .. => .busy
  | other => .other (toString other)

def attempt (action : IO α) : IO (Except FileCause α) := do
  match ← action.toBaseIO with
  | .ok value => return .ok value
  | .error error => return .error (causeOf error)

def readText (path : Path) : IO (Except FileCause String) := do
  match ← attempt (IO.FS.readBinFile path.toString) with
  | .error cause => return .error cause
  | .ok bytes =>
    match String.fromUTF8? bytes with
    | some text => return .ok text
    | none => return .error .notText

def readDocument (path : Path) : IO (Except Failure Yaml.Value) := do
  match ← readText path with
  | .error cause => return .error (.io (.reading path cause))
  | .ok text => return (Yaml.read text).mapError .yaml

partial def gather (settings : Settings) (current : Path) (library : Library) :
    IO (Script Summary) := do
  let isKnown (path : Path) : Bool := (library.documents.lookup path).isSome
  match (settings.loads library current).find? fun path => !isKnown path with
  | none => return settings.script library current
  | some path =>
    let document ← readDocument path
    gather settings current { library with documents := (path, document) :: library.documents }

def clear (directory : Path) : IO (Except Failure Unit) := do
  match ← attempt (IO.FS.removeDirAll directory.toString) with
  | .ok () => return .ok ()
  | .error .notFound => return .ok ()
  | .error cause => return .error (.io (.removing directory cause))

def write (path : Path) (text : String) : IO (Except Failure Unit) := do
  let directory := path.directory
  let made ← if directory.isEmpty then pure (.ok ())
    else attempt (IO.FS.createDirAll directory.toString)
  match made with
  | .error cause => return .error (.io (.creating directory cause))
  | .ok () =>
    match ← attempt (IO.FS.writeFile path.toString text) with
    | .error cause => return .error (.io (.writing path cause))
    | .ok () => return .ok ()

def say (verbose quiet : Bool) (notice : Notice) : IO Unit :=
  if isShown verbose quiet notice then IO.eprintln (notice.level.name ++ " " ++ notice.text)
  else return ()

def perform (tell : Notice → IO Unit) : List Step → IO (Except Failure Unit)
  | [] => return .ok ()
  | step :: rest => do
    let done ← match step with
      | .notify notice => do
        tell notice
        pure (.ok ())
      | .clear directory => clear directory
      | .write path text => write path text
    match done with
    | .ok () => perform tell rest
    | .error failure => return .error failure

def finish (tell : Notice → IO Unit) (answer : Answer) : IO UInt32 := do
  for notice in answer.notices do tell notice
  return answer.status.toUInt32

def generate (request : Request) (verbose quiet : Bool) : IO UInt32 := do
  let tell := say verbose quiet
  let text ← match request.settings with
    | some path => readText path
    | none => pure (.error .notFound)
  match request.resolve fun _ => text with
  | .error trouble => finish tell (.ofTrouble trouble)
  | .ok settings =>
    let current := Path.ofString (← IO.currentDir).toString
    let script ← gather settings current { documents := [] }
    let result ← match ← perform tell script.steps with
      | .ok () => pure script.ending
      | .error failure => pure (.error failure)
    finish tell (.ofReport settings ⟨[], result⟩)

def usage : String := String.join [
  "Usage: typewright [--verbose | --quiet] generate LANGUAGE INPUT OUTPUT ",
  "[TYPES_MODE] [GROUPS_MODE] [--config FILE] [--no-clean]"]

end Typewright.Main

open Typewright CommandLine in
def main (args : List String) : IO UInt32 := do
  match Invocation.ofArguments args with
  | .inform =>
    IO.println Main.usage
    return 0
  | .misuse =>
    IO.eprintln Main.usage
    return 2
  | .generate request verbose quiet => Main.generate request verbose quiet
