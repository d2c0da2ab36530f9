import Typewright.Path
import Typewright.TokenTable

/-!
Settings of a run: where the types are, where the output goes and how it is laid out, the
templates, and the tokens of the target language.
-/
namespace Typewright

inductive TypesMode where
  | singleFile
  | files
deriving DecidableEq, Repr, Inhabited

inductive GroupsMode where
  | singleFile
  | folderWithFiles
deriving DecidableEq, Repr, Inhabited

namespace TypesMode

def name : TypesMode → String
  | singleFile => "SingleFile"
  | files => "Files"

def ofName? (name : String) : Option TypesMode :=
  [singleFile, files].find? fun mode => mode.name == name

def ofName (name : String) : Except Failure TypesMode :=
  match ofName? name with
  | some mode => .ok mode
  | none => .error (.badParameter "Types writer mode" name)

end TypesMode

namespace GroupsMode

def name : GroupsMode → String
  | singleFile => "SingleFile"
  | folderWithFiles => "FolderWithFiles"

def ofName? (name : String) : Option GroupsMode :=
  [singleFile, folderWithFiles].find? fun mode => mode.name == name

def ofName (name : String) : Except Failure GroupsMode :=
  match ofName? name with
  | some mode => .ok mode
  | none => .error (.badParameter "Grouped types writer mode" name)

end GroupsMode

structure Modes where
  types : TypesMode := .singleFile
  groups : GroupsMode := .singleFile
deriving DecidableEq, Repr

/-- The texts of the templates. Without a template for enumerations or unions a run fails when it
meets one. -/
structure TemplateTexts where
  object : String
  exporter : String
  typesFile : String
  enumeration : Option String := none
  union : Option String := none

structure OutputSettings where
  clean : Bool := true
  extension : String
  directory : Path
  modes : Modes := {}

structure Settings where
  input : Path
  output : OutputSettings
  templates : TemplateTexts
  exporterName : String
  tokens : TokenTable

end Typewright
