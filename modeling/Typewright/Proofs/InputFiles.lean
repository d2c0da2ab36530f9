import Typewright.Proofs.Loading
import Typewright.Proofs.OutputPaths
import Typewright.Proofs.SparedFiles
import Typewright.Proofs.Termination

/-!
What becomes of the files that a run reads. Nothing compares where they are with where the output
goes. A run that comes to write may clear the directory of its input, and it may write a file in
place of it; any other file that it has read is still there afterwards, whether the run succeeds or
not.
-/
namespace Typewright

open FileTree

section Inputs
variable {settings : Settings} {current spot : Spot} {tree : FileTree} {path : Path}
variable {files : List OutputFile} {text : String}

namespace Settings

def planned (settings : Settings) (current : Spot) (tree : FileTree) : Option (List OutputFile) :=
  match TemplateSet.ofTexts settings.templates with
  | .error _ => none
  | .ok templates =>
    match settings.declare templates tree.library (Path.ofSpot current) with
    | (.error _, _) => none
    | (.ok outcome, _) => some (settings.outputFiles templates outcome)

/-- The place lies below the directory that a run clears. -/
structure Clears (settings : Settings) (current : Spot) (tree : FileTree) (spot : Spot) : Prop where
  comes : (settings.planned current tree).isSome = true
  cleans : settings.output.clean = true
  below : ∃ cleared, tree.locate current settings.output.directory = .ok cleared ∧
    cleared <+: spot ∧ cleared ≠ spot

def Plans (settings : Settings) (current : Spot) (tree : FileTree) (spot : Spot) : Prop :=
  ∃ files, settings.planned current tree = some files ∧
    ∃ file ∈ files, spotOf current file.path = spot

/-- The documents that a run reads: its input, and those that references lead it to. -/
inductive Reads (settings : Settings) (current : Spot) (tree : FileTree) : Path → Prop where
  | input : Reads settings current tree (rootPath (Path.ofSpot current) settings.input)
  | referenced {path : Path} {body : Yaml.Value}
    (asked : path ∈ settings.loads tree.library (Path.ofSpot current))
    (loaded : tree.library.load path = .ok body) : Reads settings current tree path

/-- What a run makes of a file: it keeps the file, clears it away or replaces it. -/
structure Treats (settings : Settings) (current : Spot) (tree : FileTree) (path : Path)
    (text : String) : Prop where
  kept : ¬settings.Clears current tree (spotOf current path) →
    ¬settings.Plans current tree (spotOf current path) →
      (settings.generate current tree).2.read current path = .ok text
  cleared : settings.Clears current tree (spotOf current path) →
    ¬settings.Plans current tree (spotOf current path) →
      ∀ other, (settings.generate current tree).2.find? (spotOf current path) ≠ some (.file other)
  /-- A run that succeeds leaves the text of the last file that is planned there. -/
  replaced : ∀ summary, (settings.generate current tree).1.result = .ok summary →
    settings.Plans current tree (spotOf current path) →
      ∃ before file later other, settings.planned current tree = some (before ++ file :: later) ∧
        spotOf current file.path = spotOf current path ∧
        (∀ last ∈ later, spotOf current last.path ≠ spotOf current path) ∧
        file.text = .ok other ∧
        (settings.generate current tree).2.find? (spotOf current path) = some (.file other)

theorem planned_some : settings.planned current tree = some files ↔
    ∃ templates outcome session, TemplateSet.ofTexts settings.templates = .ok templates ∧
      settings.declare templates tree.library (Path.ofSpot current) = (.ok outcome, session) ∧
      files = settings.outputFiles templates outcome := by
  unfold planned
  cases reads : TemplateSet.ofTexts settings.templates with
  | error failure => simp
  | ok templates =>
    dsimp only
    rcases declares : settings.declare templates tree.library (Path.ofSpot current) with
      ⟨failure | outcome, session⟩
    · simp [declares]
    · simp [declares, eq_comm]

/-! Documents lie at plain names -/

theorem load_spot {body : Yaml.Value} (loaded : tree.library.load path = .ok body) :
    ∃ spot, path = Path.ofSpot spot := by
  obtain ⟨⟨spot, text⟩, _, same⟩ := List.mem_map.mp (Workspace.load_mem loaded)
  exact ⟨spot, (congrArg Prod.fst same).symm⟩

theorem reads_plain (plans : settings.planned current tree = some files)
    (reads : settings.Reads current tree path) :
    ∃ names : Spot, path = Path.ofSpot names ∧ ∀ name ∈ names, Path.IsPlain name := by
  obtain ⟨templates, outcome, session, isSet, declares, rfl⟩ := planned_some.mp plans
  have normal : ∃ q : Path, path = q.normalize := by
    cases reads with
    | input => exact ⟨_, rfl⟩
    | referenced asked loaded =>
      unfold loads at asked
      rw [isSet] at asked
      exact (declareDocument_loadsOnce tree.library settings.tokens templates.renderer
        (Path.ofSpot current) settings.input).normal path asked
  have isLoaded : ∃ body, tree.library.load path = .ok body := by
    cases reads with
    | input =>
      obtain ⟨body, loaded, _⟩ := Workspace.declareDocument_ok declares
      exact ⟨body, loaded⟩
    | @referenced _ body asked loaded => exact ⟨body, loaded⟩
  obtain ⟨q, rfl⟩ := normal
  obtain ⟨body, loaded⟩ := isLoaded
  obtain ⟨spot, same⟩ := load_spot loaded
  exact Path.names_of_normal (same ▸ Path.absolute_ofSpot spot)

/-! Runs that come to write -/

theorem generate_keeps {P : FileTree → Prop} (plans : settings.planned current tree = some files)
    (clean : settings.output.clean = true →
      P ((Step.clear settings.output.directory).act current tree).2)
    (unclean : settings.output.clean = false → P tree)
    (each : ∀ file ∈ files, ∀ text tree, P tree →
      P ((Step.write file.path text).act current tree).2) :
    P (settings.generate current tree).2 := by
  obtain ⟨templates, outcome, session, isSet, declares, rfl⟩ := planned_some.mp plans
  obtain ⟨notices, written, writing, same⟩ := script_writing isSet declares
  have steps : ∀ step ∈ written.steps, ∀ tree, P tree → P (step.act current tree).2 := by
    cases writing with
    | whole => exact OutputFile.steps_keep each
    | broken split =>
      refine OutputFile.steps_keep fun file isEarlier => each file ?_
      rw [split]
      exact List.mem_append_left _ isEarlier
  unfold generate
  rw [same, Script.run, Script.runSteps_notices]
  unfold clearing
  cases cleans : settings.output.clean with
  | false => exact Script.runSteps_keeps steps (unclean cleans)
  | true =>
    exact Script.runSteps_cons (clean cleans) fun between here => Script.runSteps_keeps steps here

theorem generate_unplanned (none : settings.planned current tree = none) :
    (settings.generate current tree).2 = tree := by
  have scripted := settings.script_scripted tree.library (Path.ofSpot current)
  unfold generate
  generalize settings.script tree.library (Path.ofSpot current) = script at scripted
  cases scripted with
  | failing => rfl
  | writing isSet declares =>
    cases none.symm.trans (planned_some.mpr ⟨_, _, _, isSet, declares, rfl⟩)

end Settings

/-! Files at one place -/

theorem Script.does_last {after : FileTree}
    (texts : ∀ file ∈ files, ∃ text, file.text = .ok text)
    (does : Script.Does current (files.flatMap OutputFile.steps) tree after)
    (taken : ∃ file ∈ files, spotOf current file.path = spot) :
    ∃ before file later text, files = before ++ file :: later ∧
      spotOf current file.path = spot ∧
      (∀ last ∈ later, spotOf current last.path ≠ spot) ∧
      file.text = .ok text ∧ after.find? spot = some (.file text) := by
  induction files generalizing tree with
  | nil =>
    obtain ⟨file, isFile, _⟩ := taken
    cases isFile
  | cons file rest ih =>
    rw [List.flatMap_cons] at does
    obtain ⟨between, own, later⟩ := Script.does_append.mp does
    obtain ⟨⟨text, isText⟩, restTexts⟩ := List.forall_mem_cons.mp texts
    by_cases again : ∃ other ∈ rest, spotOf current other.path = spot
    · obtain ⟨before, last, beyond, other, split, onward⟩ := ih restTexts later again
      exact ⟨file :: before, last, beyond, other, congrArg (file :: ·) split, onward⟩
    · have apart : ∀ other ∈ rest, spotOf current other.path ≠ spot :=
        fun other isOther same => again ⟨other, isOther, same⟩
      obtain ⟨first, isFirst, same⟩ := taken
      rcases List.mem_cons.mp isFirst with rfl | isOther
      · have writes := Script.does_steps own
        rw [isText] at writes
        have stays := Script.does_spares later
          (fun other isOther meets => apart other isOther (meets.symm.trans same))
          (Step.write_writes writes).2
        exact ⟨[], first, rest, text, rfl, same, apart, isText, same ▸ (read_ok.mp stays).2.2⟩
      · exact absurd same (apart first isOther)

namespace Settings

theorem generate_writes {summary : Summary} (plans : settings.planned current tree = some files)
    (ends : (settings.generate current tree).1.result = .ok summary) :
    (∀ file ∈ files, ∃ text, file.text = .ok text) ∧
      ∃ between, Script.Does current (files.flatMap OutputFile.steps) between
        (settings.generate current tree).2 := by
  obtain ⟨templates, outcome, session, isSet, declares, rfl⟩ := planned_some.mp plans
  obtain ⟨notices, written, writing, same⟩ := script_writing isSet declares
  have run : Script.Ends current (settings.script tree.library (Path.ofSpot current)) tree
      (.ok summary) (settings.generate current tree).2 := ends ▸ Script.run_ends _ current tree
  rw [same, ← List.append_assoc] at run
  have passes (failure : Failure) (isFailure : written.ending = .error failure) :
      (written.ending.map fun files => (⟨outcome.generation.count,
        outcome.generation.groups.size, files⟩ : Summary)) = .error failure := by
    rw [isFailure]
    rfl
  obtain ⟨texts, _, _, between, _, writes⟩ := Layout.written_of_ends writing passes run
  exact ⟨texts, between, writes⟩

variable (plans : settings.planned current tree = some files) {names : Spot}
variable (shown : tree.Shows names text)
include plans shown

theorem generate_shows (stays : ¬settings.Clears current tree names)
    (unplanned : ¬settings.Plans current tree names) :
    (settings.generate current tree).2.Shows names text := by
  refine generate_keeps plans (P := fun tree => tree.Shows names text) ?_ (fun _ => shown) ?_
  · intro cleans
    refine (Step.act_clear _ tree).shows shown fun cleared leads below => ?_
    by_contra other
    exact stays ⟨by rw [plans]; rfl, cleans, cleared, leads, below, other⟩
  · intro file isFile written between here
    exact here.spared (Step.act_write file.path written between).toSpares
      fun same => unplanned ⟨files, plans, file, isFile, same⟩

theorem generate_clears (clears : settings.Clears current tree names)
    (unplanned : ¬settings.Plans current tree names) (other : String) :
    (settings.generate current tree).2.find? names ≠ some (.file other) := by
  refine generate_keeps plans (P := fun tree => tree.find? names ≠ some (.file other)) ?_ ?_ ?_
  · intro _
    obtain ⟨cleared, leads, below, apart⟩ := clears.below
    rw [(Step.act_clear _ tree).gone shown leads below apart]
    exact nofun
  · intro unclean
    cases unclean.symm.trans clears.cleans
  · intro file isFile written between none here
    rcases (Step.act_write file.path written between).files names other here with same | old
    · exact unplanned ⟨files, plans, file, isFile, same.symm⟩
    · exact none old

end Settings

/-- A run, successful or not, keeps every document that it reads as it was, unless the document lies
below the output directory and that is cleared, or a file is planned in its place. In the first case
the document is gone; in the second a run that succeeds leaves the last file planned there. -/
theorem inputs_kept_cleared_or_replaced (settings : Settings) (current : Spot) (tree : FileTree)
    {path : Path} {text : String} (reads : settings.Reads current tree path)
    (before : tree.read current path = .ok text) : settings.Treats current tree path text := by
  cases plans : settings.planned current tree with
  | none =>
    refine ⟨fun _ _ => ?_, fun clears => ?_, fun summary _ planned => ?_⟩
    · rw [Settings.generate_unplanned plans]
      exact before
    · have comes := clears.comes
      rw [plans] at comes
      cases comes
    · obtain ⟨files, isPlanned, _⟩ := planned
      cases plans.symm.trans isPlanned
  | some files =>
    obtain ⟨names, rfl, plain⟩ := Settings.reads_plain plans reads
    have shown := (read_shows plain).mp before
    have place : spotOf current (Path.ofSpot names) = names := spotOf_ofSpot plain
    constructor
    · rw [place, read_shows plain]
      exact Settings.generate_shows plans shown
    · rw [place]
      exact Settings.generate_clears plans shown
    · rintro summary ends ⟨_, isPlanned, taken⟩
      cases plans.symm.trans isPlanned
      obtain ⟨texts, between, does⟩ := Settings.generate_writes plans ends
      obtain ⟨before, file, later, other, rfl, last⟩ := Script.does_last texts does taken
      exact ⟨before, file, later, other, plans, last⟩

end Inputs

namespace SourcesInOutput

/-! Sources in the output directory, one of them where a file is planned. -/

def spec : String :=
  "info: \x7bversion: '1', title: t\x7d\n" ++
  "types: \x7bPet: \x7btype: object, properties: " ++
  "\x7bowner: \x7b$ref: 'other.yaml#/Owner'\x7d\x7d\x7d\x7d\n"

def other : String := "Owner: \x7btype: object\x7d\n"

def tree : FileTree :=
  ⟨[(["out"], .directory), (["out", "spec.yaml"], .file spec), (["out", "types.ts"], .file spec),
    (["out", "other.yaml"], .file other)]⟩

def settings (clean : Bool) (input : String) : Settings where
  input := Path.ofString input
  templates := { object := "type", typesFile := "types", exporter := "all" }
  output := { clean, extension := ".ts", directory := Path.ofString "out" }
  exporterName := "index"
  tokens := ∅

def run (clean : Bool) (input : String) : List String × List (Spot × String) :=
  (((settings clean input).loads tree.library (Path.ofSpot [])).map Path.toString,
    ((settings clean input).generate [] tree).2.files)

/-- With cleaning on, the input and the document that it refers to are gone. With cleaning off they
stay, but for an input that is called like the file of the types. -/
theorem sources_are_cleared_or_replaced :
    tree.files = [(["out", "spec.yaml"], spec), (["out", "types.ts"], spec),
      (["out", "other.yaml"], other)] ∧
    run true "out/spec.yaml" = (["/out/spec.yaml", "/out/other.yaml"],
      [(["out", "index.ts"], "all"), (["out", "Other.ts"], "types"),
        (["out", "types.ts"], "types")]) ∧
    run false "out/types.ts" = (["/out/types.ts", "/out/other.yaml"],
      [(["out", "index.ts"], "all"), (["out", "Other.ts"], "types"), (["out", "types.ts"], "types"),
        (["out", "spec.yaml"], spec), (["out", "other.yaml"], other)]) := by
  decide +kernel

theorem source_is_kept : ∃ path : Path, (settings false "out/spec.yaml").Reads [] tree path ∧
    tree.read [] path = .ok spec ∧
    ((settings false "out/spec.yaml").generate [] tree).2.read [] path = .ok spec := by
  have reads : tree.read [] (rootPath (Path.ofSpot []) (Path.ofString "out/spec.yaml")) =
      .ok spec := by decide +kernel
  have treats := inputs_kept_cleared_or_replaced (settings false "out/spec.yaml") [] tree .input
    reads
  refine ⟨_, .input, reads, treats.kept ?_ ?_⟩
  · intro clears
    cases clears.cleans
  · rintro ⟨files, plans, file, isFile, same⟩
    have apart : ∀ file ∈ ((settings false "out/spec.yaml").planned [] tree).getD [],
        spotOf [] file.path ≠
          spotOf [] (rootPath (Path.ofSpot []) (Path.ofString "out/spec.yaml")) := by
      decide +kernel
    rw [plans] at apart
    exact apart file isFile same

end SourcesInOutput

end Typewright
