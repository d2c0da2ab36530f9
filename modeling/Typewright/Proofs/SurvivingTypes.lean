import Typewright.Proofs.OutputPaths

/-!
Which declarations are left once a layout has been written. As long as no two files have the same
stem in one directory, all paths of the layout differ and every type that is declared can be read in
the end. Where two stems meet, a file is lost, and no step fails.
-/
namespace Typewright

open Layout

theorem Layout.paths_outputFiles {layout : Layout} (templates : TemplateSet) (info : SpecInfo) :
    (layout.outputFiles templates info).map OutputFile.path = layout.paths := by
  unfold outputFiles paths
  rw [List.map_append, List.map_map, List.map_map]
  rfl

theorem Layout.script_done {layout : Layout} {templates : TemplateSet} {info : SpecInfo}
    {clean : Bool} {current : Spot} {tree : FileTree} {paths : List Path}
    (done : ((layout.script templates info clean).run current tree).1.result = .ok paths) :
    paths = layout.paths ∧
      (∀ file ∈ layout.outputFiles templates info, ∃ text, file.text = .ok text) ∧
      ∃ cleared, Script.Does current (if clean then [.clear layout.root] else []) tree cleared ∧
        Script.Does current ((layout.outputFiles templates info).flatMap OutputFile.steps)
          cleared ((layout.script templates info clean).run current tree).2 := by
  have ends := Script.run_ends (layout.script templates info clean) current tree
  rw [done] at ends
  obtain ⟨texts, ended, written, does⟩ := written_of_ends (writeAll_writes _) (fun _ => id) ends
  refine ⟨?_, texts, does⟩
  rw [← paths_outputFiles templates info]
  exact Except.ok.inj (ended.symm.trans written)

namespace Placement

variable {placement : Placement} {generation : Generation}

theorem draft_of_holds (placement : Placement) {name : String} {declaration : Declaration}
    (holds : generation.Holds name declaration) (text : declaration.content.isEmpty = false) :
    ∃ draft ∈ placement.drafts generation, (name, declaration) ∈ draft.members := by
  have isWritten {types : Declarations} (listed : (name, declaration) ∈ types.entries) :
      (name, declaration) ∈ written types := List.mem_filter.mpr ⟨listed, by simp [text]⟩
  have filled {types : Declarations} (listed : (name, declaration) ∈ types.entries) :
      (written types).isEmpty = false :=
    List.isEmpty_eq_false_iff.mpr (List.ne_nil_of_mem (isWritten listed))
  have alone {directory : Path} {types : Declarations}
      (listed : (name, declaration) ∈ types.entries) :
      ∃ draft ∈ placement.apiece directory (written types), (name, declaration) ∈ draft.members :=
    ⟨_, List.mem_map_of_mem (isWritten listed), List.mem_singleton_self _⟩
  rcases holds with listed | ⟨⟨title, types⟩, grouped, listed⟩
  · have own : ∃ draft ∈ (placement.typesSection generation.types).drafts,
        (name, declaration) ∈ draft.members := by
      unfold typesSection
      dsimp only
      split
      · rw [filled listed, if_neg Bool.false_ne_true]
        exact ⟨_, List.mem_singleton_self _, isWritten listed⟩
      · exact alone listed
    obtain ⟨draft, isIn, member⟩ := own
    exact ⟨draft, List.mem_flatMap.mpr ⟨_, List.mem_cons_self, isIn⟩, member⟩
  · have own : ∃ draft ∈ (placement.groupSection title types).drafts,
        (name, declaration) ∈ draft.members := by
      unfold groupSection
      dsimp only
      rw [filled listed, if_neg Bool.false_ne_true]
      split
      · exact ⟨_, List.mem_singleton_self _, isWritten listed⟩
      · exact alone listed
    obtain ⟨draft, isIn, member⟩ := own
    have isSection := List.mem_cons_of_mem (placement.typesSection generation.types)
      (List.mem_map_of_mem (f := fun (group : String × Declarations) =>
        placement.groupSection group.1 group.2) grouped)
    exact ⟨draft, List.mem_flatMap.mpr ⟨_, isSection, isIn⟩, member⟩

theorem content_of_member {draft : Draft} {name : String} {declaration : Declaration}
    (member : (name, declaration) ∈ draft.members) :
    declaration.content.toList <:+: draft.content.toList := by
  obtain ⟨before, later, members⟩ := List.append_of_mem member
  unfold Draft.content
  rw [members, List.map_append, List.map_cons, String.join_append, String.join_cons,
    String.toList_append, String.toList_append]
  exact ⟨_, _, List.append_assoc _ _ _⟩

/-- Everything that is declared can be read: each file and each exporter has the text that is
rendered for it, and each declaration with text stands in a file. -/
structure IsKept (placement : Placement) (generation : Generation) (templates : TemplateSet)
    (info : SpecInfo) (current : Spot) (tree : FileTree) : Prop where
  files : ∀ file ∈ (placement.layout generation).files, ∃ text,
    templates.renderFile (fileInput info file) = .ok text ∧
      tree.read current file.path = .ok text
  exporters : ∀ exporter ∈ (placement.layout generation).exporters, ∃ text,
    templates.renderExporter exporter.modules = .ok text ∧
      tree.read current exporter.path = .ok text
  types : ∀ name declaration, generation.Holds name declaration →
    declaration.content.isEmpty = false → ∃ file ∈ (placement.layout generation).files,
      name ∈ file.types ∧ declaration.content.toList <:+: file.content.toList

/-- The paths of a layout are distinct exactly if no two files have the same stem in one directory,
and then nothing that is declared is lost in writing. -/
theorem distinct_paths_keep_types (placement : Placement) (generation : Generation)
    (ordinary : ∀ slot ∈ placement.slots generation, slot.IsOrdinary) :
    ((placement.layout generation).paths.Pairwise (fun one other => one.same other = false) ↔
      placement.Apart generation) ∧
    (placement.Apart generation → '/' ∉ placement.extension.toList →
      ∀ (templates : TemplateSet) (info : SpecInfo) (clean : Bool) (current : Spot)
        (tree : FileTree) (paths : List Path),
      (((placement.layout generation).script templates info clean).run current tree).1.result =
        .ok paths →
      placement.IsKept generation templates info current
        (((placement.layout generation).script templates info clean).run current tree).2) := by
  refine ⟨paths_distinct ordinary, ?_⟩
  intro apart whole templates info clean current tree paths done
  obtain ⟨-, texts, cleared, -, does⟩ := script_done done
  have spots := spots_distinct current ordinary whole apart
  rw [← paths_outputFiles templates info, List.pairwise_map] at spots
  have written := Script.does_writes texts spots does
  refine ⟨fun file isFile => ?_, fun exporter isExporter => ?_, ?_⟩
  · exact written _ (List.mem_append_left _ (List.mem_map_of_mem isFile))
  · exact written _ (List.mem_append_right _ (List.mem_map_of_mem isExporter))
  · intro name declaration holds text
    obtain ⟨draft, isIn, member⟩ := draft_of_holds placement holds text
    exact ⟨_, List.mem_map_of_mem isIn, List.mem_map_of_mem member, content_of_member member⟩

end Placement

instance (slot : Slot) : Decidable slot.IsOrdinary :=
  decidable_of_iff ((∀ title ∈ slot.folder, Path.IsOrdinary title) ∧ Path.IsOrdinary slot.stem)
    ⟨fun ⟨folder, stem⟩ => ⟨folder, stem⟩, fun ordinary => ⟨ordinary.folder, ordinary.stem⟩⟩

namespace GroupFolders

def contents : TemplateSet where
  object := []
  exporter := [.text "exports"]
  typesFile := [.output (.mk (.lookup (.mk "typesContent" [])) [] false)]
  enumeration := none
  union := none

def tree : FileTree := ⟨[(["out"], .directory), (["out", "Pet.ts"], .file "old")]⟩

def written : Report (List Path) × FileTree :=
  ((placement.layout pets).script contents ⟨"1", "pets"⟩ true).run [] tree

theorem pets_are_kept : (∀ slot ∈ placement.slots pets, slot.IsOrdinary) ∧
    placement.Apart pets ∧ '/' ∉ placement.extension.toList ∧
    (∃ paths, written.1.result = .ok paths) ∧
    placement.IsKept pets contents ⟨"1", "pets"⟩ [] written.2 := by
  have ordinary : ∀ slot ∈ placement.slots pets, slot.IsOrdinary := by decide +kernel
  have whole : '/' ∉ placement.extension.toList := by decide
  obtain ⟨iff, kept⟩ := Placement.distinct_paths_keep_types placement pets ordinary
  have apart : placement.Apart pets := iff.mp (by decide +kernel)
  have ends : written.1.result.isOk = true := by decide +kernel
  cases done : written.1.result with
  | error failure =>
    rw [done] at ends
    cases ends
  | ok paths =>
    unfold written at done ⊢
    exact ⟨ordinary, apart, whole, ⟨paths, rfl⟩, kept apart whole _ _ _ _ _ _ done⟩

end GroupFolders

namespace MeetingStems

/-! Documents whose names meet in the output, and short templates. -/

def settings (types : TypesMode) (groups : GroupsMode) (extension : String) : Settings where
  input := Path.ofString "spec.yaml"
  templates :=
    { object := "\x7b\x7b typeName \x7d\x7d", typesFile := "\x7b\x7b typesContent \x7d\x7d"
      exporter := "exports" }
  output := { extension, directory := Path.ofString "out", modes := ⟨types, groups⟩ }
  exporterName := "index"
  tokens := ∅

def mapping (entries : List (String × String)) : String :=
  "\x7b" ++ ", ".intercalate (entries.map fun (key, text) => key ++ ": " ++ text) ++ "\x7d"

def objects (names : List String) : String :=
  mapping (names.map fun name => (name, mapping [("type", "object")]))

def document (types : List String) (groups : List (String × List String)) : String :=
  mapping [("info", mapping [("version", "'1'"), ("title", "t")]), ("types", objects types),
    ("groupedTypes", mapping (groups.map fun (title, names) => (title, objects names)))]

structure Rest where
  paths : List String
  distinct : Bool
  output : List (Spot × String)
deriving DecidableEq

def run (settings : Settings) (types : List String) (groups : List (String × List String)) :
    Option Rest :=
  let (report, tree) := settings.generate [] ⟨[(["spec.yaml"], .file (document types groups))]⟩
  match report.result with
  | .ok summary => some
    { paths := summary.files.map Path.toString
      distinct := decide (summary.files.Pairwise fun one other => one.same other = false)
      output := tree.files.filter fun file => file.1 ≠ ["spec.yaml"] }
  | .error _ => none

/-- A type is lost if it is called like the exporter beside it, in the directory of the output or in
the folder of a group, or if a group is called like the file of the other types. With slashes in
names two types meet though all names differ, and with one in the extension all files are one. -/
theorem meeting_stems_lose_types :
    run (settings .files .singleFile ".ts") ["index"] [] =
      some ⟨["out/index.ts", "out/index.ts"], false, [(["out", "index.ts"], "exports")]⟩ ∧
    run (settings .singleFile .folderWithFiles ".ts") [] [("Shared", ["index"])] =
      some ⟨["out/Shared/index.ts", "out/index.ts", "out/Shared/index.ts"], false,
        [(["out", "Shared", "index.ts"], "exports"), (["out", "index.ts"], "exports")]⟩ ∧
    run (settings .singleFile .singleFile ".ts") ["Pet"] [("types", ["Id"])] =
      some ⟨["out/types.ts", "out/types.ts", "out/index.ts"], false,
        [(["out", "index.ts"], "exports"), (["out", "types.ts"], "Id")]⟩ ∧
    run (settings .files .folderWithFiles ".ts") ["a/b"] [("a", ["b"])] =
      some ⟨["out/a/b.ts", "out/a/b.ts", "out/index.ts", "out/a/index.ts"], false,
        [(["out", "a", "index.ts"], "exports"), (["out", "index.ts"], "exports"),
          (["out", "a", "b.ts"], "b")]⟩ ∧
    run (settings .files .singleFile "/../x") ["A", "B"] [] =
      some ⟨["out/A/../x", "out/B/../x", "out/index/../x"], true, [(["out", "x"], "exports")]⟩ := by
  decide +kernel

end MeetingStems

end Typewright
