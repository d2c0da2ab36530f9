import Typewright.FileTree
import Typewright.Spec

/-!
Scripts: the steps by which a run writes its output and reports on it, and how it ends. A script is
made before anything is written; running it on a file tree stops at the first step that fails.
-/
namespace Typewright

inductive Level where
  | info
  | warning
  | error
deriving DecidableEq, Repr

def Level.name : Level → String
  | info => "INFO"
  | warning => "WARN"
  | error => "ERROR"

inductive Notice where
  | resolved (info : SpecInfo) (types groups references : Nat)
  | missingImport (name : String) (file : Path)
  | wroteFile (path : Path) (types : Nat)
  | wroteExporter (path : Path)
  | finished (types groups files : Nat) (output : Path)
  | failed (text : String)

namespace Notice

def level : Notice → Level
  | missingImport .. => .warning
  | failed _ => .error
  | _ => .info

def text : Notice → String
  | resolved info types groups references =>
    "Resolved spec title=" ++ info.title ++ " version=" ++ info.version ++ " types=" ++
      toString types ++ " groups=" ++ toString groups ++ " references=" ++ toString references
  | missingImport name file =>
    "No generated file declares referenced type, skipping import type_name=" ++
      Text.quoted name ++ " file=" ++ file.toString
  | wroteFile path types => "Wrote file path=" ++ path.toString ++ " types=" ++ toString types
  | wroteExporter path => "Wrote exporter module path=" ++ path.toString
  | finished types groups files output =>
    "Done & Dusted! types=" ++ toString types ++ " groups=" ++ toString groups ++ " files=" ++
      toString files ++ " output=" ++ output.toString
  | failed text => text

end Notice

inductive Step where
  | notify (notice : Notice)
  | clear (directory : Path)
  | write (path : Path) (text : String)

structure Script (α : Type) where
  steps : List Step
  ending : Except Failure α

structure Report (α : Type) where
  notices : List Notice
  result : Except Failure α

namespace Step

def notices : Step → List Notice
  | notify notice => [notice]
  | _ => []

def refusing (fault : FileCause → FileFault) (change : FileTree.Change Unit) (tree : FileTree) :
    Except Failure Unit × FileTree :=
  let (result, tree) := change.run tree
  (result.mapError fun cause => .io (fault cause), tree)

def writeIn (current : Spot) (path : Path) (text : String) (tree : FileTree) :
    Except Failure Unit × FileTree :=
  let made :=
    match path.parent? with
    | some parent =>
      refusing (FileFault.creating parent) (FileTree.makeDirectories current parent) tree
    | none => (.ok (), tree)
  match made with
  | (.ok (), tree) => refusing (FileFault.writing path) (FileTree.writeFile current path text) tree
  | failed => failed

def act (current : Spot) (step : Step) (tree : FileTree) : Except Failure Unit × FileTree :=
  match step with
  | notify _ => (.ok (), tree)
  | clear directory =>
    refusing (FileFault.removing directory) (FileTree.removeIfPresent current directory) tree
  | write path text => writeIn current path text tree

end Step

namespace Script

def failing (failure : Failure) : Script α := ⟨[], .error failure⟩

def before (steps : List Step) (script : Script α) : Script α :=
  { script with steps := steps ++ script.steps }

def map (f : α → β) (script : Script α) : Script β := ⟨script.steps, script.ending.map f⟩

def runSteps (current : Spot) (ending : Except Failure α) :
    List Step → FileTree → Report α × FileTree
  | [], tree => (⟨[], ending⟩, tree)
  | step :: rest, tree =>
    match step.act current tree with
    | (.ok (), tree) =>
      let (report, tree) := runSteps current ending rest tree
      ({ report with notices := step.notices ++ report.notices }, tree)
    | (.error failure, tree) => (⟨[], .error failure⟩, tree)

def run (script : Script α) (current : Spot) (tree : FileTree) : Report α × FileTree :=
  runSteps current script.ending script.steps tree

end Script

end Typewright
