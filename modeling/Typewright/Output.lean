import Typewright.Run
import Typewright.Script
import Typewright.Template.Set
import Typewright.Yaml.Document

/-!
The output of a run: everything is declared and laid out first; then the files are rendered and
written one after another, so that a template that fails leaves the files before it.
-/
namespace Typewright

structure OutputFile where
  path : Path
  text : Except Failure String
  notice : Notice

namespace Layout

def fileInput (info : SpecInfo) (file : PlannedFile) : FileInput :=
  ⟨info, file.content, file.imports, file.primitives.toList⟩

def outputFiles (layout : Layout) (templates : TemplateSet) (info : SpecInfo) :
    List OutputFile :=
  (layout.files.map fun file =>
    ⟨file.path, templates.renderFile (fileInput info file),
      .wroteFile file.path file.types.length⟩) ++
  layout.exporters.map fun exporter =>
    ⟨exporter.path, templates.renderExporter exporter.modules, .wroteExporter exporter.path⟩

def writeAll : List OutputFile → Script (List Path)
  | [] => ⟨[], .ok []⟩
  | file :: rest =>
    match file.text with
    | .error failure => .failing failure
    | .ok text =>
      ((writeAll rest).map (file.path :: ·)).before [.write file.path text, .notify file.notice]

/-- Writes a layout; `clean` removes what is in its directory before. -/
def script (layout : Layout) (templates : TemplateSet) (info : SpecInfo) (clean : Bool) :
    Script (List Path) :=
  (writeAll (layout.outputFiles templates info)).before
    (if clean then [.clear layout.root] else [])

end Layout

structure Summary where
  types : Nat
  groups : Nat
  files : List Path

namespace Settings

def declare (settings : Settings) (templates : TemplateSet) (library : Library)
    (current : Path) : Except Failure Outcome × Session :=
  (declareDocument library settings.tokens templates.renderer
    (rootPath current settings.input)).run {}

def findings (settings : Settings) (outcome : Outcome) (session : Session) : List Step :=
  let generation := outcome.generation
  .notify (.resolved outcome.spec.info generation.count generation.groups.size
    session.memo.size) ::
  (settings.placement.missing generation).map fun (name, file) =>
    .notify (.missingImport name file)

def script (settings : Settings) (library : Library) (current : Path) : Script Summary :=
  match TemplateSet.ofTexts settings.templates with
  | .error failure => .failing failure
  | .ok templates =>
    match settings.declare templates library current with
    | (.error failure, _) => .failing failure
    | (.ok outcome, session) =>
      let generation := outcome.generation
      let layout := settings.placement.layout generation
      let writing := layout.script templates outcome.spec.info settings.output.clean
      (writing.map fun files => ⟨generation.count, generation.groups.size, files⟩).before
        (settings.findings outcome session)

def loads (settings : Settings) (library : Library) (current : Path) : List Path :=
  match TemplateSet.ofTexts settings.templates with
  | .error _ => []
  | .ok templates => (settings.declare templates library current).2.loads

end Settings

def Path.ofSpot (spot : Spot) : Path := if spot = [] then ⟨["", ""]⟩ else ⟨"" :: spot⟩

def FileTree.library (tree : FileTree) : Library where
  documents := tree.files.map fun (spot, text) =>
    (Path.ofSpot spot, (Yaml.read text).mapError .yaml)
  absent path :=
    match tree.read [] path with
    | .error cause => .io (.reading path cause)
    | .ok _ => .io (.noDocument path)

def Settings.generate (settings : Settings) (current : Spot) (tree : FileTree) :
    Report Summary × FileTree :=
  (settings.script tree.library (Path.ofSpot current)).run current tree

end Typewright
