import Typewright.Output

/-!
What running a script does. Steps that succeed lead from one tree to the next. A run comes to the
end of its script or to the first step that the file system refuses; nothing else stops it on the
way, since the text of a file is made before its script.
-/
namespace Typewright

namespace Step

variable {fault : FileCause → FileFault} {change : FileTree.Change Unit}
variable {tree after : FileTree} {failure : Failure}

theorem refusing_error (refused : refusing fault change tree = (.error failure, after)) :
    ∃ cause, failure = .io (fault cause) := by
  have first : (change.run tree).1.mapError (fun cause => Failure.io (fault cause)) =
      .error failure := congrArg Prod.fst refused
  cases stopped : (change.run tree).1 with
  | error cause =>
    rw [stopped] at first
    cases first
    exact ⟨cause, rfl⟩
  | ok done =>
    rw [stopped] at first
    cases first

theorem act_error {current : Spot} {step : Step}
    (act : step.act current tree = (.error failure, after)) : ∃ fault, failure = .io fault := by
  have refused {fault : FileCause → FileFault} {change : FileTree.Change Unit} {before : FileTree}
      (made : refusing fault change before = (.error failure, after)) :
      ∃ fault, failure = .io fault := by
    obtain ⟨cause, same⟩ := refusing_error made
    exact ⟨fault cause, same⟩
  cases step with
  | notify notice => cases act
  | clear directory => exact refused act
  | write path text =>
    simp only [Step.act, writeIn] at act
    cases parent : path.parent? with
    | none =>
      simp only [parent] at act
      exact refused act
    | some directory =>
      simp only [parent] at act
      split at act
      · exact refused act
      · exact refused act

end Step

namespace Script

inductive Does (current : Spot) : List Step → FileTree → FileTree → Prop where
  | none (tree : FileTree) : Does current [] tree tree
  | step {step : Step} {rest : List Step} {tree between after : FileTree}
    (acts : step.act current tree = (.ok (), between)) (later : Does current rest between after) :
    Does current (step :: rest) tree after

section Does
variable {current : Spot} {first second : List Step} {tree after : FileTree}

theorem does_append : Does current (first ++ second) tree after ↔
    ∃ between, Does current first tree between ∧ Does current second between after := by
  constructor
  · intro does
    induction first generalizing tree with
    | nil => exact ⟨tree, .none tree, does⟩
    | cons step rest ih =>
      cases does with
      | step acts later =>
        obtain ⟨between, before, onward⟩ := ih later
        exact ⟨between, .step acts before, onward⟩
  · rintro ⟨between, before, onward⟩
    induction before with
    | none => exact onward
    | step acts _ ih => exact .step acts (ih onward)

theorem does_notices (notices : List Notice) :
    Does current (notices.map .notify) tree after ↔ after = tree := by
  constructor
  · intro does
    induction notices with
    | nil =>
      cases does
      rfl
    | cons notice rest ih =>
      cases does with
      | step acts later =>
        cases acts
        exact ih later
  · rintro rfl
    induction notices with
    | nil => exact .none _
    | cons notice rest ih => exact .step rfl ih

theorem does_keeps {P : FileTree → Prop} (does : Does current first tree after)
    (each : ∀ step ∈ first, ∀ tree, P tree → P (step.act current tree).2) (here : P tree) :
    P after := by
  induction does with
  | none => exact here
  | step acts later ih =>
    obtain ⟨own, others⟩ := List.forall_mem_cons.mp each
    have onward := own _ here
    rw [acts] at onward
    exact ih others onward

end Does

inductive Ends (current : Spot) (script : Script α) (tree : FileTree) :
    Except Failure α → FileTree → Prop where
  | through {after : FileTree} (does : Does current script.steps tree after) :
    Ends current script tree script.ending after
  | refused {before later : List Step} {step : Step} {between after : FileTree} {fault : FileFault}
    (split : script.steps = before ++ step :: later) (does : Does current before tree between)
    (act : step.act current between = (.error (.io fault), after)) :
    Ends current script tree (.error (.io fault)) after

theorem run_ends (script : Script α) (current : Spot) (tree : FileTree) :
    Ends current script tree (script.run current tree).1.result (script.run current tree).2 := by
  obtain ⟨steps, ending⟩ := script
  unfold run
  induction steps generalizing tree with
  | nil => exact .through (.none tree)
  | cons step rest ih =>
    unfold runSteps
    rcases acts : step.act current tree with ⟨failure | done, between⟩
    · obtain ⟨fault, rfl⟩ := Step.act_error acts
      have split : step :: rest = [] ++ step :: rest := rfl
      exact .refused split (.none tree) acts
    · dsimp only
      have later := ih between
      generalize (runSteps current ending rest between).1.result = result at later ⊢
      cases later with
      | through does => exact .through (.step acts does)
      | refused split does act =>
        exact .refused (congrArg (step :: ·) split) (.step acts does) act

end Script

/-! Scripts of layouts -/

def OutputFile.steps (file : OutputFile) : List Step :=
  match file.text with
  | .ok text => [.write file.path text, .notify file.notice]
  | .error _ => []

theorem OutputFile.steps_keep {P : FileTree → Prop} {files : List OutputFile} {current : Spot}
    (each : ∀ file ∈ files, ∀ text tree, P tree →
      P ((Step.write file.path text).act current tree).2) :
    ∀ step ∈ files.flatMap OutputFile.steps, ∀ tree, P tree → P (step.act current tree).2 := by
  intro step isStep tree here
  obtain ⟨file, isFile, isOwn⟩ := List.mem_flatMap.mp isStep
  unfold OutputFile.steps at isOwn
  split at isOwn
  · next text _ =>
    rcases List.mem_cons.mp isOwn with rfl | isNotice
    · exact each file isFile text tree here
    · rw [List.mem_singleton.mp isNotice]
      exact here
  · cases isOwn

namespace Layout

/-- What is written of some files: all of them, or those before the first one without text. -/
inductive Writing (files : List OutputFile) : Script (List Path) → Prop where
  | whole (texts : ∀ file ∈ files, ∃ text, file.text = .ok text) :
    Writing files ⟨files.flatMap OutputFile.steps, .ok (files.map OutputFile.path)⟩
  | broken {written rest : List OutputFile} {file : OutputFile} {failure : Failure}
    (split : files = written ++ file :: rest)
    (texts : ∀ earlier ∈ written, ∃ text, earlier.text = .ok text)
    (fails : file.text = .error failure) :
    Writing files ⟨written.flatMap OutputFile.steps, .error failure⟩

theorem writeAll_writes (files : List OutputFile) : Writing files (writeAll files) := by
  induction files with
  | nil => exact .whole (by simp)
  | cons file rest ih =>
    unfold writeAll
    cases isText : file.text with
    | error failure =>
      have split : file :: rest = [] ++ file :: rest := rfl
      exact .broken split (by simp) isText
    | ok text =>
      have own : file.steps = [.write file.path text, .notify file.notice] := by
        simp [OutputFile.steps, isText]
      dsimp only
      generalize writeAll rest = later at ih ⊢
      cases ih with
      | whole texts =>
        have here := Writing.whole (List.forall_mem_cons.mpr ⟨⟨text, isText⟩, texts⟩)
        rwa [List.flatMap_cons, own] at here
      | broken split texts fails =>
        have here := Writing.broken (congrArg (file :: ·) split)
          (List.forall_mem_cons.mpr ⟨⟨text, isText⟩, texts⟩) fails
        rwa [List.flatMap_cons, own] at here

theorem written_of_ends {files : List OutputFile} {written : Script (List Path)} {α : Type}
    {value : α} {ending : Except Failure α} {first : List Step} {current : Spot}
    {tree after : FileTree} (writing : Writing files written)
    (passes : ∀ failure, written.ending = .error failure → ending = .error failure)
    (ends : Script.Ends current ⟨first ++ written.steps, ending⟩ tree (.ok value) after) :
    (∀ file ∈ files, ∃ text, file.text = .ok text) ∧
      ending = .ok value ∧ written.ending = .ok (files.map OutputFile.path) ∧
      ∃ between, Script.Does current first tree between ∧
        Script.Does current (files.flatMap OutputFile.steps) between after := by
  generalize isOk : (Except.ok value : Except Failure α) = result at ends
  cases ends with
  | refused => cases isOk
  | through does =>
    cases writing with
    | broken =>
      cases isOk.trans (passes _ rfl)
    | whole texts =>
      exact ⟨texts, rfl, rfl, Script.does_append.mp does⟩

theorem outputFiles_fail {layout : Layout} {templates : TemplateSet} {info : SpecInfo}
    {file : OutputFile} {failure : Failure} (isFile : file ∈ layout.outputFiles templates info)
    (fails : file.text = .error failure) : ∃ fault, failure = .template fault := by
  have filled {template : List Template.Node} {context : List (String × Json)}
      (failed : TemplateSet.fill template (some context) = .error failure) :
      ∃ fault, failure = .template fault := by
    unfold TemplateSet.fill at failed
    cases rendered : Template.render template context with
    | error fault =>
      simp only [rendered] at failed
      cases failed
      exact ⟨fault, rfl⟩
    | ok text =>
      simp only [rendered] at failed
      cases failed
  rcases List.mem_append.mp isFile with isTypes | isExporter
  · obtain ⟨planned, _, rfl⟩ := List.mem_map.mp isTypes
    exact filled fails
  · obtain ⟨exporter, _, rfl⟩ := List.mem_map.mp isExporter
    exact filled fails

end Layout

namespace Settings

def clearing (settings : Settings) : List Step :=
  if settings.output.clean then [.clear settings.output.directory] else []

def outputFiles (settings : Settings) (templates : TemplateSet) (outcome : Outcome) :
    List OutputFile :=
  (settings.placement.layout outcome.generation).outputFiles templates outcome.spec.info

/-- How the script of a run is made. It is empty if reading the templates or declaring the types
fails. -/
inductive Scripted (settings : Settings) (library : Library) (current : Path) :
    Script Summary → Prop where
  | failing (failure : Failure) : Scripted settings library current (.failing failure)
  | writing {templates : TemplateSet} {outcome : Outcome} {session : Session}
    {notices : List Notice} {written : Script (List Path)}
    (reads : TemplateSet.ofTexts settings.templates = .ok templates)
    (declares : settings.declare templates library current = (.ok outcome, session))
    (writing : Layout.Writing (settings.outputFiles templates outcome) written) :
    Scripted settings library current
      ⟨notices.map .notify ++ (settings.clearing ++ written.steps),
        written.ending.map fun files =>
          ⟨outcome.generation.count, outcome.generation.groups.size, files⟩⟩

theorem findings_notices (settings : Settings) (outcome : Outcome) (session : Session) :
    ∃ notices : List Notice, settings.findings outcome session = notices.map .notify := by
  refine ⟨.resolved outcome.spec.info outcome.generation.count outcome.generation.groups.size
    session.memo.size :: (settings.placement.missing outcome.generation).map fun missing =>
      .missingImport missing.1 missing.2, ?_⟩
  simp only [findings, List.map_cons, List.map_map]
  rfl

theorem script_writing {settings : Settings} {library : Library} {current : Path}
    {templates : TemplateSet} {outcome : Outcome} {session : Session}
    (reads : TemplateSet.ofTexts settings.templates = .ok templates)
    (declares : settings.declare templates library current = (.ok outcome, session)) :
    ∃ (notices : List Notice) (written : Script (List Path)),
      Layout.Writing (settings.outputFiles templates outcome) written ∧
      settings.script library current =
        ⟨notices.map .notify ++ (settings.clearing ++ written.steps),
          written.ending.map fun files =>
            ⟨outcome.generation.count, outcome.generation.groups.size, files⟩⟩ := by
  obtain ⟨notices, findings⟩ := settings.findings_notices outcome session
  refine ⟨notices, _, Layout.writeAll_writes _, ?_⟩
  unfold script
  rw [← findings, reads]
  dsimp only
  rw [declares]
  rfl

theorem script_scripted (settings : Settings) (library : Library) (current : Path) :
    settings.Scripted library current (settings.script library current) := by
  cases reads : TemplateSet.ofTexts settings.templates with
  | error failure =>
    unfold script
    rw [reads]
    exact .failing failure
  | ok templates =>
    rcases declares : settings.declare templates library current with ⟨failure | outcome, session⟩
    · unfold script
      rw [reads]
      dsimp only
      rw [declares]
      exact .failing failure
    · obtain ⟨notices, written, writing, same⟩ := script_writing reads declares
      rw [same]
      exact .writing reads declares writing

end Settings

end Typewright
