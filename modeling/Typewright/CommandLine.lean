import Typewright.CommandLine.Arguments
import Typewright.Output
import Typewright.Settings.Presets
import Typewright.Settings.Reader

/-!
The command line of the program: what it answers to its arguments and does to a file tree.
-/
namespace Typewright

def Category.header : Category → String
  | invalidSpec => "Invalid spec file"
  | unsupported => "Unsupported feature"
  | runtime => "Runtime error"
  | usage => "Invalid usage"
  | io => "File system error"

def Category.status : Category → Nat
  | invalidSpec => 1
  | unsupported => 1
  | runtime => 1
  | usage => 2
  | io => 3

namespace CommandLine

inductive Activity where
  | loadingSettings (path : Path)
  | generating (input : Path)

def Activity.text : Activity → String
  | loadingSettings path => "loading configuration " ++ path.toString
  | generating input => "generating types from " ++ input.toString

structure Trouble where
  activity : Option Activity := none
  failure : Failure

def Trouble.text (trouble : Trouble) : String :=
  ": ".intercalate ((trouble.activity.map Activity.text).toList ++ [trouble.failure.message] ++
    trouble.failure.cause?.toList)

def Trouble.notice (trouble : Trouble) : Notice :=
  .failed (trouble.failure.category.header ++ ": " ++ trouble.text)

structure Answer where
  status : Nat
  notices : List Notice := []

def isShown (verbose quiet : Bool) (notice : Notice) : Bool :=
  verbose || !quiet || notice.level != .info

namespace Answer

def ofTrouble (trouble : Trouble) : Answer :=
  ⟨trouble.failure.category.status, [trouble.notice]⟩

def ofReport (settings : Settings) (report : Report Summary) : Answer :=
  match report.result with
  | .ok summary =>
    ⟨0, report.notices ++ [.finished summary.types summary.groups summary.files.length
      settings.output.directory]⟩
  | .error failure =>
    let answer := ofTrouble ⟨some (.generating settings.input), failure⟩
    { answer with notices := report.notices ++ answer.notices }

def filter (verbose quiet : Bool) (answer : Answer) : Answer :=
  { answer with notices := answer.notices.filter (isShown verbose quiet) }

end Answer

namespace Request

def base (request : Request) (read : Path → Except FileCause String) :
    Except Trouble Settings :=
  match request.settings with
  | none =>
    (Settings.preset request.language request.input request.output {}).mapError fun failure =>
      { failure }
  | some path =>
    let loaded := match read path with
      | .ok text => Settings.ofText text
      | .error cause => .error (.io (.bare cause))
    loaded.mapError fun failure => ⟨some (.loadingSettings path), failure⟩

/-- The settings of a run. What the command line says comes before what the file says, and modes
are read before the file. -/
def resolve (request : Request) (read : Path → Except FileCause String) :
    Except Trouble Settings := do
  let bare {α : Type} (result : Except Failure α) : Except Trouble α :=
    result.mapError fun failure => { failure }
  let types ← bare (request.typesMode.mapM TypesMode.ofName)
  let groups ← bare (request.groupsMode.mapM GroupsMode.ofName)
  let base ← request.base read
  let modes := base.output.modes
  return { base with
    input := request.input
    output := { base.output with
      clean := base.output.clean && !request.keep
      directory := request.output
      modes := ⟨types.getD modes.types, groups.getD modes.groups⟩ } }

end Request

def run (args : List String) (current : Spot) (tree : FileTree) : Answer × FileTree :=
  match Invocation.ofArguments args with
  | .inform => (⟨0, []⟩, tree)
  | .misuse => (⟨2, []⟩, tree)
  | .generate request verbose quiet =>
    match request.resolve (tree.read current) with
    | .error trouble => ((Answer.ofTrouble trouble).filter verbose quiet, tree)
    | .ok settings =>
      let (report, tree) := settings.generate current tree
      ((Answer.ofReport settings report).filter verbose quiet, tree)

end CommandLine

end Typewright
