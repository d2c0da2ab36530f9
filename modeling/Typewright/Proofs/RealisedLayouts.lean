import Typewright.Proofs.InputFiles
import Typewright.Proofs.SurvivingTypes

/-!
What a layout that has been written leaves behind. The paths that are reported are those of the
layout, and each of them reads as the last file that is planned where it leads. Cleaning leaves no
other file in the directory of the output, and outside of it, or without cleaning, every file that
is not planned is as it was.
-/
namespace Typewright

namespace FileTree
variable {tree after : FileTree} {current spot place : Spot} {segments : List String}
variable {path : Path} {text : String}

/-! Trees without gaps -/

/-- Whatever is in the tree is in a directory. -/
def Closed (tree : FileTree) : Prop :=
  ∀ spot entry, tree.find? spot = some entry → tree.find? spot.dropLast = some .directory

theorem closed_of_entries
    (inDirectory : ∀ old ∈ tree.entries, tree.find? old.1.dropLast = some .directory) :
    tree.Closed := by
  intro spot entry here
  by_cases root : spot = []
  · subst root
    rfl
  · unfold find? at here
    rw [if_neg root] at here
    obtain ⟨before, later, split, _⟩ := List.lookup_eq_some_iff.mp here
    exact inDirectory (spot, entry) (by simp [split])

theorem Closed.above (closed : tree.Closed) {rest : List String} (filled : rest ≠ [])
    {entry : Entry} (here : tree.find? (place ++ rest) = some entry) :
    tree.find? place = some .directory := by
  induction rest using List.reverseRecOn generalizing entry with
  | nil => exact absurd rfl filled
  | append_singleton rest name ih =>
    have parent : tree.find? (place ++ rest) = some .directory := by
      have isDirectory := closed _ _ here
      rwa [← List.append_assoc, List.dropLast_concat] at isDirectory
    cases rest with
    | nil => simpa using parent
    | cons head more => exact ih (by simp) parent

theorem Closed.nothing_below (closed : tree.Closed) (nothing : tree.find? place = none)
    (below : place <+: spot) : tree.find? spot = none := by
  obtain ⟨rest, rfl⟩ := below
  cases here : tree.find? (place ++ rest) with
  | none => rfl
  | some entry =>
    cases rest with
    | nil =>
      rw [List.append_nil] at here
      cases nothing.symm.trans here
    | cons head more => cases nothing.symm.trans (closed.above (by simp) here)

/-! Paths without `..` -/

theorem enter_notFound (lost : tree.enter spot = .error .notFound) : tree.find? spot = none := by
  unfold enter at lost
  split at lost
  · cases lost
  · cases lost
  · next nothing => exact nothing

theorem walk_downward (downward : ".." ∉ segments) : spot <+: walk spot segments := by
  induction segments generalizing spot with
  | nil => exact List.prefix_rfl
  | cons segment rest ih =>
    have notUp : segment ≠ ".." := fun isUp => downward (isUp ▸ List.mem_cons_self)
    have onward : spot <+: next spot segment := by
      unfold next
      rw [if_neg notUp]
      split
      · exact List.prefix_rfl
      · exact List.prefix_append _ _
    exact onward.trans (ih fun isUp => downward (List.mem_cons_of_mem segment isUp))

theorem follow_notFound (downward : ".." ∉ segments)
    (lost : tree.follow spot segments = .error .notFound) :
    ∃ missing, missing <+: walk spot segments ∧ tree.find? missing = none := by
  induction segments generalizing spot with
  | nil => cases lost
  | cons segment rest ih =>
    rw [follow_step] at lost
    cases enters : tree.enter spot with
    | error cause =>
      rw [enters] at lost
      cases lost
      exact ⟨spot, walk_downward downward, enter_notFound enters⟩
    | ok done =>
      rw [enters] at lost
      exact ih (fun isUp => downward (List.mem_cons_of_mem segment isUp)) lost

theorem locate_notFound (filled : path.isEmpty = false) (downward : ".." ∉ path.segments)
    (lost : tree.locate current path = .error .notFound) :
    ∃ missing, missing <+: spotOf current path ∧ tree.find? missing = none := by
  have onward : ".." ∉ (start current path).2 := by
    unfold start
    split
    · exact fun isUp => downward (List.mem_of_mem_drop isUp)
    · exact downward
  unfold locate at lost
  rw [filled, if_neg Bool.false_ne_true] at lost
  exact follow_notFound onward lost

theorem removeIfPresent_removes (closed : tree.Closed) (filled : path.isEmpty = false)
    (downward : ".." ∉ path.segments)
    (removes : (removeIfPresent current path).run tree = (.ok (), after))
    (below : spotOf current path <+: spot) : after.find? spot ≠ some (.file text) := by
  intro isFile
  have clearing := removeIfPresent_clearing current path tree
  rw [removes] at clearing
  obtain ⟨rfl, missing⟩ := clearing.left below isFile
  have lacks (place : Spot) (nothing : after.find? place = none)
      (beginning : place <+: spotOf current path) : False := by
    cases isFile.symm.trans (closed.nothing_below nothing (beginning.trans below))
  -- the path leads to no directory, so only its absence can have been passed over
  unfold removeIfPresent at removes
  rw [Change.run_tryCatch, removeDirectory_run] at removes
  cases leads : after.locate current path with
  | error cause =>
    simp only [leads] at removes
    split at removes
    · next absent =>
      obtain ⟨place, beginning, nothing⟩ := locate_notFound filled downward (absent ▸ leads)
      exact lacks place nothing beginning
    · cases removes
  | ok found =>
    cases enters : after.enter found with
    | error cause =>
      simp only [leads, enters] at removes
      split at removes
      · next absent =>
        exact lacks found (enter_notFound (absent ▸ enters)) (locate_spot leads ▸ List.prefix_rfl)
      · cases removes
    | ok done => exact missing found leads (enter_ok.mp enters)

theorem WritesAt.elsewhere (writes : WritesAt place tree after) (apart : place ≠ spot) :
    after.find? spot = some (.file text) ↔ tree.find? spot = some (.file text) :=
  ⟨fun here => (writes.files spot text here).resolve_left apart.symm,
    writes.others spot apart.symm (.file text)⟩

end FileTree

/-! Files that are written -/

namespace Script
open FileTree
variable {current spot : Spot} {files : List OutputFile} {text : String}
variable {tree after : FileTree}

theorem does_elsewhere (does : Does current (files.flatMap OutputFile.steps) tree after)
    (apart : ∀ file ∈ files, spotOf current file.path ≠ spot) :
    after.find? spot = some (.file text) ↔ tree.find? spot = some (.file text) := by
  refine does_keeps (P := fun later => later.find? spot = some (.file text) ↔ _) does ?_ Iff.rfl
  refine OutputFile.steps_keep fun file isFile written between same => ?_
  exact ((Step.act_write file.path written between).elsewhere (apart file isFile)).trans same

theorem does_follows (texts : ∀ file ∈ files, ∃ text, file.text = .ok text)
    (does : Does current (files.flatMap OutputFile.steps) tree after) {file : OutputFile}
    (isFile : file ∈ files) : file.path.isEmpty = false ∧
      after.follow (start current file.path).1 (start current file.path).2 =
        .ok (spotOf current file.path) := by
  obtain ⟨text, isText⟩ := texts file isFile
  obtain ⟨before, later, rfl⟩ := List.append_of_mem isFile
  rw [List.flatMap_append, List.flatMap_cons] at does
  obtain ⟨between, _, onward⟩ := does_append.mp does
  obtain ⟨written, own, rest⟩ := does_append.mp onward
  have writes := does_steps own
  rw [isText] at writes
  obtain ⟨filled, follows, _⟩ := read_ok.mp (Step.write_writes writes).2
  refine ⟨filled, does_keeps (P := fun tree => tree.follow _ _ = .ok _) rest ?_ follows⟩
  refine OutputFile.steps_keep fun other _ text tree here => ?_
  exact (Step.act_write other.path text tree).keepsDirectories.follow here

end Script

/-! Layouts that are written -/

namespace Layout
open FileTree
variable {layout : Layout} {templates : TemplateSet} {info : SpecInfo} {clean : Bool}
variable {current : Spot} {tree : FileTree} {paths : List Path}

def Plans (layout : Layout) (current spot : Spot) : Prop :=
  ∃ path ∈ layout.paths, spotOf current path = spot

/-- The layout is what has become of a tree. Paths are told apart by where they lead. -/
structure Realised (layout : Layout) (templates : TemplateSet) (info : SpecInfo) (clean : Bool)
    (current : Spot) (tree : FileTree) (paths : List Path) (after : FileTree) : Prop where
  reported : paths = layout.files.map PlannedFile.path ++ layout.exporters.map Exporter.path
  /-- Each path reads as the last file that is planned where it leads. -/
  texts : ∀ path ∈ paths, ∃ before file later text,
    layout.outputFiles templates info = before ++ file :: later ∧
      spotOf current file.path = spotOf current path ∧
      (∀ other ∈ later, spotOf current other.path ≠ spotOf current path) ∧
      file.text = .ok text ∧ after.read current path = .ok text
  cleaned : clean = true → ∀ spot text, after.find? spot = some (.file text) →
    spotOf current layout.root <+: spot → layout.Plans current spot
  /-- Other files are neither lost nor changed, and there are no new ones. -/
  others : ∀ spot, ¬layout.Plans current spot →
    (clean = true → ¬spotOf current layout.root <+: spot) →
      ∀ text, after.find? spot = some (.file text) ↔ tree.find? spot = some (.file text)

/-- A layout that is written is realised, whether its directory is cleared before or not. -/
theorem written_layouts_are_realised (closed : tree.Closed) (rooted : layout.root.isEmpty = false)
    (downward : ".." ∉ layout.root.segments)
    (done : ((layout.script templates info clean).run current tree).1.result = .ok paths) :
    layout.Realised templates info clean current tree paths
      ((layout.script templates info clean).run current tree).2 := by
  obtain ⟨rfl, texts, cleared, clears, does⟩ := script_done done
  generalize ((layout.script templates info clean).run current tree).2 = after at does ⊢
  have planned : ∀ file ∈ layout.outputFiles templates info, file.path ∈ layout.paths := by
    intro file isFile
    rw [← paths_outputFiles templates info]
    exact List.mem_map_of_mem isFile
  have elsewhere (spot : Spot) (unplanned : ¬layout.Plans current spot) (text : String) :
      after.find? spot = some (.file text) ↔ cleared.find? spot = some (.file text) :=
    Script.does_elsewhere does fun file isFile same =>
      unplanned ⟨file.path, planned file isFile, same⟩
  constructor
  case reported => rfl
  case texts =>
    intro path isPath
    rw [← paths_outputFiles templates info] at isPath
    obtain ⟨own, isFile, rfl⟩ := List.mem_map.mp isPath
    obtain ⟨before, file, later, text, split, same, apart, isText, here⟩ :=
      Script.does_last texts does ⟨own, isFile, rfl⟩
    obtain ⟨filled, follows⟩ := Script.does_follows texts does isFile
    exact ⟨before, file, later, text, split, same, apart, isText,
      read_ok.mpr ⟨filled, follows, here⟩⟩
  case cleaned =>
    rintro rfl spot text isFile below
    by_contra unplanned
    cases clears with
    | step acts later =>
      cases later
      exact removeIfPresent_removes closed rooted downward (Step.refusing_ok acts) below
        ((elsewhere spot unplanned text).mp isFile)
  case others =>
    intro spot unplanned outside text
    rw [elsewhere spot unplanned]
    cases clean with
    | false =>
      cases clears
      rfl
    | true =>
      cases clears with
      | step acts later =>
        cases later
        have clearing : Clearing current layout.root tree
            ((Step.clear layout.root).act current tree).2 := Step.act_clear layout.root tree
        rw [acts] at clearing
        rw [clearing.outside (outside rfl)]

end Layout

namespace RepeatedPaths

def layout : Layout where
  root := Path.ofString "out"
  files := ["out/a.ts", "out/sub/b.ts", "out/./a.ts"].map fun path =>
    ⟨Path.ofString path, [], path, [], ∅⟩
  exporters := [⟨Path.ofString "out/index.ts", []⟩]

def tree : FileTree :=
  ⟨[(["out"], .directory), (["out", "a.ts"], .file "old"), (["out", "old.ts"], .file "old"),
    (["notes.txt"], .file "notes")]⟩

def written (clean : Bool) : Report (List Path) × FileTree :=
  (layout.script GroupFolders.contents ⟨"1", "t"⟩ clean).run [] tree

def Leaves (clean : Bool) (files : List (Spot × String)) : Prop :=
  (written clean).2.files = files ∧ ∃ paths, (written clean).1.result = .ok paths ∧
    layout.Realised GroupFolders.contents ⟨"1", "t"⟩ clean [] tree paths (written clean).2

theorem last_texts_stay :
    tree.Closed ∧ layout.root.isEmpty = false ∧ ".." ∉ layout.root.segments ∧
    Leaves true [(["out", "index.ts"], "exports"), (["out", "a.ts"], "out/./a.ts"),
      (["out", "sub", "b.ts"], "out/sub/b.ts"), (["notes.txt"], "notes")] ∧
    Leaves false [(["out", "index.ts"], "exports"), (["out", "a.ts"], "out/./a.ts"),
      (["out", "sub", "b.ts"], "out/sub/b.ts"), (["out", "old.ts"], "old"),
      (["notes.txt"], "notes")] := by
  have closed : tree.Closed := FileTree.closed_of_entries (by decide)
  have rooted : layout.root.isEmpty = false := by decide +kernel
  have downward : ".." ∉ layout.root.segments := by decide +kernel
  have realised (clean : Bool) (ends : (written clean).1.result.isOk = true) :
      ∃ paths, (written clean).1.result = .ok paths ∧ layout.Realised GroupFolders.contents
        ⟨"1", "t"⟩ clean [] tree paths (written clean).2 := by
    cases done : (written clean).1.result with
    | error failure =>
      rw [done] at ends
      cases ends
    | ok paths => exact ⟨paths, rfl, Layout.written_layouts_are_realised closed rooted downward done⟩
  exact ⟨closed, rooted, downward, ⟨by decide +kernel, realised true (by decide +kernel)⟩,
    by decide +kernel, realised false (by decide +kernel)⟩

end RepeatedPaths

end Typewright
