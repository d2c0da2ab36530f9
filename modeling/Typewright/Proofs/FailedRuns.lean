import Typewright.Proofs.Scripts

/-!
What a failed run leaves behind. Everything is declared and laid out before the first step on the
file tree, so most failures leave it alone. The templates of files and exporters are filled later,
one after another: a failure there comes after the output directory has been cleared and after the
files before it have been written.
-/
namespace Typewright

/-- How a failed run leaves a tree, when it is not the file system that fails. -/
inductive Settings.Leaves (settings : Settings) (current : Spot) (tree : FileTree)
    (failure : Failure) : FileTree → Prop where
  /-- The failure comes before the first step. -/
  | untouched (early : settings.script tree.library (Path.ofSpot current) = .failing failure) :
    Leaves settings current tree failure tree
  /-- The template of a file or exporter fails. The files planned before it are written. -/
  | interrupted {templates : TemplateSet} {outcome : Outcome} {session : Session}
    {written rest : List OutputFile} {file : OutputFile} {fault : TemplateFault} {after : FileTree}
    (reads : TemplateSet.ofTexts settings.templates = .ok templates)
    (declares : settings.declare templates tree.library (Path.ofSpot current) =
      (.ok outcome, session))
    (split : settings.outputFiles templates outcome = written ++ file :: rest)
    (texts : ∀ earlier ∈ written, ∃ text, earlier.text = .ok text)
    (fails : file.text = .error failure) (isTemplate : failure = .template fault)
    (does : Script.Does current (settings.clearing ++ written.flatMap OutputFile.steps) tree
      after) :
    Leaves settings current tree failure after

/-- A failed run that the file system refused nothing leaves the tree as it was, or as it is just
before the file whose template fails. -/
theorem failed_runs_stop_before_a_file (settings : Settings) (current : Spot) (tree : FileTree)
    {failure : Failure} (fails : (settings.generate current tree).1.result = .error failure)
    (notFiles : failure.category ≠ .io) :
    settings.Leaves current tree failure (settings.generate current tree).2 := by
  have ends : Script.Ends current (settings.script tree.library (Path.ofSpot current)) tree
      (.error failure) (settings.generate current tree).2 :=
    fails ▸ Script.run_ends _ current tree
  have scripted := settings.script_scripted tree.library (Path.ofSpot current)
  generalize made : settings.script tree.library (Path.ofSpot current) = script at ends scripted
  generalize (settings.generate current tree).2 = after at ends ⊢
  generalize isError : (Except.error failure : Except Failure Summary) = result at ends
  cases ends with
  | refused split does act =>
    cases isError
    exact absurd rfl notFiles
  | through does =>
    cases scripted with
    | failing early =>
      cases isError
      cases does
      exact .untouched made
    | writing reads declares writing =>
      cases writing with
      | whole texts => cases isError
      | broken split texts failed =>
        cases isError
        obtain ⟨between, noticed, does⟩ := Script.does_append.mp does
        rw [(Script.does_notices _).mp noticed] at does
        have isFile := split ▸ List.mem_append_right _ List.mem_cons_self
        obtain ⟨fault, isTemplate⟩ := Layout.outputFiles_fail isFile failed
        exact .interrupted reads declares split texts failed isTemplate does

namespace BrokenTemplate

/-! Templates that read as templates and fail when they are filled. -/

def unknown : String := "\x7b\x7b unknown \x7d\x7d"

def text : String :=
  "info: \x7bversion: '1', title: t\x7d\ntypes: \x7bPet: \x7btype: object\x7d\x7d\n"

def tree : FileTree :=
  ⟨[(["spec.yaml"], .file text), (["out"], .directory), (["out", "old.ts"], .file "old")]⟩

def settings (clean : Bool) (typesFile exporter : String) : Settings where
  input := Path.ofString "spec.yaml"
  templates := { object := "type", typesFile, exporter }
  output := { clean, extension := ".ts", directory := Path.ofString "out" }
  exporterName := "index"
  tokens := ∅

def isTemplateFailure (result : Except Failure Summary) : Bool :=
  match result with
  | .error (.template _) => true
  | _ => false

def run (clean : Bool) (typesFile exporter : String) : Report Summary × FileTree :=
  (settings clean typesFile exporter).generate [] tree

/-- The output of an earlier run is gone though the file template fails, and a new file is there
though the exporter template fails. -/
theorem failed_runs_change_the_output :
    (isTemplateFailure (run true unknown "all").1.result ∧
      tree.find? ["out", "old.ts"] = some (.file "old") ∧
      (run true unknown "all").2.find? ["out", "old.ts"] = none) ∧
    isTemplateFailure (run false "types" unknown).1.result ∧
      tree.find? ["out", "types.ts"] = none ∧
      (run false "types" unknown).2.find? ["out", "types.ts"] = some (.file "types") := by
  decide +kernel

theorem failed_run_is_interrupted : ∃ failure,
    ((settings true unknown "all").generate [] tree).1.result = .error failure ∧
      failure.category ≠ .io ∧
      (settings true unknown "all").Leaves [] tree failure
        ((settings true unknown "all").generate [] tree).2 := by
  have isTemplate : isTemplateFailure ((settings true unknown "all").generate [] tree).1.result =
      true := by decide +kernel
  cases ends : ((settings true unknown "all").generate [] tree).1.result with
  | ok summary =>
    rw [ends] at isTemplate
    cases isTemplate
  | error failure =>
    have notFiles : failure.category ≠ .io := by
      rintro isFiles
      cases failure with
      | io fault =>
        rw [ends] at isTemplate
        cases isTemplate
      | _ => cases isFiles
    exact ⟨failure, rfl, notFiles, failed_runs_stop_before_a_file _ _ _ ends notFiles⟩

end BrokenTemplate

end Typewright
