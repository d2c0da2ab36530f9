import Typewright.Declaration
import Typewright.Settings

/-!
The layout of a generation: which file declares which type, what each file imports, and the modules
that export everything in a directory. A layout only depends on names and paths.
-/
namespace Typewright

structure Import where
  name : String
  specifier : String
deriving DecidableEq, Repr

structure PlannedFile where
  path : Path
  types : List String
  content : String
  imports : List Import
  primitives : NameSet

structure Exporter where
  path : Path
  modules : List String
deriving DecidableEq, Repr

structure Layout where
  root : Path
  files : List PlannedFile
  exporters : List Exporter

namespace Layout

def file? (layout : Layout) (path : Path) : Option PlannedFile :=
  layout.files.find? fun file => file.path.same path

/-- A file before its imports are known. -/
structure Draft where
  /-- The path without its extension, under which other files import it. -/
  module : Path
  path : Path
  members : List (String × Declaration)

namespace Draft

def names (draft : Draft) : List String := draft.members.map Prod.fst

def foreign (draft : Draft) : NameSet :=
  let used := draft.members.foldl (fun names member => names ∪ member.2.references) ∅
  draft.names.foldl NameSet.erase used

def content (draft : Draft) : String :=
  String.join (draft.members.map fun member => member.2.content)

def primitives (draft : Draft) : NameSet :=
  draft.members.foldl (fun tokens member => tokens ∪ member.2.primitives) ∅

end Draft

/-- The declarations that have text; the others only stand for types declared elsewhere. -/
def written (types : Declarations) : List (String × Declaration) :=
  types.entries.filter fun entry => !entry.2.content.isEmpty

/-- What one table of declarations adds to a layout: files, and the names under which the module
of the whole output exports them. -/
structure Section where
  drafts : List Draft := []
  modules : List String := []
  exporters : List Exporter := []

def moduleOf? (drafts : List Draft) (name : String) : Option Path :=
  (drafts.find? fun draft => draft.names.contains name).map Draft.module

def Draft.imports (drafts : List Draft) (draft : Draft) : List Import :=
  draft.foreign.toList.filterMap fun name =>
    (moduleOf? drafts name).map fun target => ⟨name, draft.module.directory.specifier target⟩

def Draft.finish (drafts : List Draft) (draft : Draft) : PlannedFile :=
  ⟨draft.path, draft.names, draft.content, draft.imports drafts, draft.primitives⟩

end Layout

structure Placement where
  directory : Path
  extension : String
  exporterName : String
  modes : Modes

def Settings.placement (settings : Settings) : Placement :=
  ⟨settings.output.directory, settings.output.extension, settings.exporterName,
    settings.output.modes⟩

namespace Placement

open Layout

def draft (placement : Placement) (directory : Path) (stem : String)
    (members : List (String × Declaration)) : Draft where
  module := directory.join (Path.ofString stem)
  path := directory.join (Path.ofString (stem ++ placement.extension))
  members

def apiece (placement : Placement) (directory : Path) (members : List (String × Declaration)) :
    List Draft :=
  members.map fun (name, declaration) => placement.draft directory name [(name, declaration)]

def exporter (placement : Placement) (directory : Path) (modules : List String) : Exporter :=
  ⟨directory.join (Path.ofString (placement.exporterName ++ placement.extension)), modules⟩

def typesStem : String := "types"

def typesSection (placement : Placement) (types : Declarations) : Section :=
  let members := written types
  match placement.modes.types with
  | .singleFile =>
    if members.isEmpty then {}
    else { drafts := [placement.draft placement.directory typesStem members],
           modules := [typesStem] }
  | .files =>
    { drafts := placement.apiece placement.directory members, modules := members.map Prod.fst }

def groupSection (placement : Placement) (name : String) (types : Declarations) : Section :=
  let members := written types
  if members.isEmpty then {}
  else
    match placement.modes.groups with
    | .singleFile =>
      { drafts := [placement.draft placement.directory name members], modules := [name] }
    | .folderWithFiles =>
      let folder := placement.directory.join (Path.ofString name)
      { drafts := placement.apiece folder members
        modules := [name]
        exporters := [placement.exporter folder (members.map Prod.fst)] }

def sections (placement : Placement) (generation : Generation) : List Section :=
  placement.typesSection generation.types ::
    generation.groups.entries.map fun (name, types) => placement.groupSection name types

def drafts (placement : Placement) (generation : Generation) : List Draft :=
  (placement.sections generation).flatMap Section.drafts

/-- The exporter of the whole output comes first; without anything to export there is none. -/
def exporters (placement : Placement) (generation : Generation) : List Exporter :=
  let sections := placement.sections generation
  let modules := sections.flatMap Section.modules
  let nested := sections.flatMap Section.exporters
  if modules.isEmpty then nested else placement.exporter placement.directory modules :: nested

def layout (placement : Placement) (generation : Generation) : Layout :=
  let drafts := placement.drafts generation
  ⟨placement.directory, drafts.map (Draft.finish drafts), placement.exporters generation⟩

def missing (placement : Placement) (generation : Generation) : List (String × Path) :=
  let drafts := placement.drafts generation
  drafts.flatMap fun draft =>
    (draft.foreign.toList.filter fun name => (moduleOf? drafts name).isNone).map fun name =>
      (name, draft.path)

end Placement

end Typewright
