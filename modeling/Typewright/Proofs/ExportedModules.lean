import Typewright.Proofs.FiledTypes
import Typewright.Proofs.OutputPaths

/-!
What the exporters of a layout list. Each exporter speaks for one directory, that of the output or
the folder of a group, and lists the modules in it: files under their stems and folders that have an
exporter of their own. From the exporter of the whole output the lists lead to everything that is
written.
-/
namespace Typewright

def Path.LeadsOn (path directory : Path) (text : String) : Prop :=
  path.place =
    ((Text.pieces '/' text).filterMap Path.Component.ofSegment?).foldl Path.Place.step directory.place

instance (path directory : Path) (text : String) : Decidable (path.LeadsOn directory text) :=
  inferInstanceAs (Decidable (_ = _))

theorem Path.leadsOn_join (directory : Path) {text : String}
    (relative : (Path.ofString text).isAbsolute = false) :
    (directory.join (Path.ofString text)).LeadsOn directory text := by
  apply place_join directory
  exact ⟨relative, by simp [Path.ofString, Text.pieces]⟩

namespace Placement

open Layout

structure Index where
  folder : Option String
  modules : List String
deriving DecidableEq

section Spec
variable (placement : Placement) (layout : Layout) (indexes : List Index)

/-- A listed module is a file in the directory of its list, or a folder in the directory of the
output that has a list of its own. -/
inductive IsModule (index : Index) (name : String) : Prop where
  | file (file : PlannedFile) (isFile : file ∈ layout.files)
    (here : file.path = placement.slotPath ⟨index.folder, name⟩)
    (leads : (Path.ofString (name ++ placement.extension)).isAbsolute = false →
      file.path.LeadsOn (placement.folder index.folder) (name ++ placement.extension))
  | folder (outermost : index.folder = none) (inner : Index) (listed : inner ∈ indexes)
    (titled : inner.folder = some name)
    (leads : (Path.ofString name).isAbsolute = false →
      (placement.folder inner.folder).LeadsOn placement.directory name)

inductive IsReached : Index → Prop where
  | root {index : Index} (listed : index ∈ indexes) (outermost : index.folder = none) :
    IsReached index
  | folder {outer inner : Index} {title : String} (outside : IsReached outer)
    (outermost : outer.folder = none) (isModule : title ∈ outer.modules) (listed : inner ∈ indexes)
    (titled : inner.folder = some title) : IsReached inner

/-- The lists are those of the exporters and cover the layout. -/
structure Covers : Prop where
  exporters : layout.exporters = indexes.map fun index =>
    placement.exporter (placement.folder index.folder) index.modules
  /-- There is an exporter of the whole output as soon as there is a file. -/
  root : layout.files ≠ [] ↔ ∃ index ∈ indexes, index.folder = none
  first : ∀ index ∈ indexes, index.folder = none → indexes.head? = some index
  folders : (indexes.map Index.folder).Nodup
  modules : ∀ index ∈ indexes, ∀ name ∈ index.modules,
    placement.IsModule layout indexes index name
  reached : ∀ index ∈ indexes, IsReached indexes index
  files : ∀ file ∈ layout.files, ∃ index, IsReached indexes index ∧ ∃ name ∈ index.modules,
    file.path = placement.slotPath ⟨index.folder, name⟩

end Spec

variable {placement : Placement} {generation : Generation}

def groupIndexes (placement : Placement) (title : String) (types : Declarations) : List Index :=
  if (written types).isEmpty then []
  else
    match placement.modes.groups with
    | .singleFile => []
    | .folderWithFiles => [⟨some title, (written types).map Prod.fst⟩]

def rootModules (placement : Placement) (generation : Generation) : List String :=
  (placement.sections generation).flatMap Section.modules

def indexes (placement : Placement) (generation : Generation) : List Index :=
  (if (placement.rootModules generation).isEmpty then []
    else [⟨none, placement.rootModules generation⟩]) ++
    generation.groups.entries.flatMap fun group => placement.groupIndexes group.1 group.2

/-! Lists and what they stand for -/

theorem exporters_indexes : (placement.layout generation).exporters =
    (placement.indexes generation).map fun index =>
      placement.exporter (placement.folder index.folder) index.modules := by
  have group (title : String) (types : Declarations) :
      (placement.groupSection title types).exporters =
        (placement.groupIndexes title types).map fun index =>
          placement.exporter (placement.folder index.folder) index.modules := by
    unfold groupSection groupIndexes
    dsimp only
    cases (written types).isEmpty with
    | true => rfl
    | false => cases placement.modes.groups <;> rfl
  have nested : (placement.sections generation).flatMap Section.exporters =
      (generation.groups.entries.flatMap fun group =>
        placement.groupIndexes group.1 group.2).map fun index =>
          placement.exporter (placement.folder index.folder) index.modules := by
    unfold sections
    rw [List.flatMap_cons, exporters_typesSection, List.nil_append, List.flatMap_map,
      List.map_flatMap]
    simp only [group]
  show placement.exporters generation = _
  unfold exporters indexes
  dsimp only
  rw [List.map_append, ← nested]
  unfold rootModules
  cases ((placement.sections generation).flatMap Section.modules).isEmpty <;> rfl

theorem mem_typesModules {types : Declarations} {name : String} :
    name ∈ (placement.typesSection types).modules ↔ name ∈ placement.typeStems types := by
  unfold typesSection typeStems
  cases placement.modes.types with
  | singleFile =>
    dsimp only
    cases (written types).isEmpty <;> simp
  | files => exact Iff.rfl

theorem modules_groupSection (title : String) (types : Declarations) :
    (placement.groupSection title types).modules =
      if (written types).isEmpty then [] else [title] := by
  unfold groupSection
  dsimp only
  cases (written types).isEmpty with
  | true => rfl
  | false => cases placement.modes.groups <;> rfl

theorem mem_rootModules {name : String} : name ∈ placement.rootModules generation ↔
    name ∈ placement.typeStems generation.types ∨
      ∃ types, (name, types) ∈ generation.groups.entries ∧ written types ≠ [] := by
  have group : name ∈ (generation.groups.entries.map fun group =>
      placement.groupSection group.1 group.2).flatMap Section.modules ↔
        ∃ types, (name, types) ∈ generation.groups.entries ∧ written types ≠ [] := by
    simp only [List.flatMap_map, List.mem_flatMap, modules_groupSection]
    constructor
    · intro ⟨⟨title, types⟩, listed, isName⟩
      cases filled : (written types).isEmpty with
      | true => simp [filled] at isName
      | false =>
        have same : name = title := by simpa [filled] using isName
        exact ⟨types, same ▸ listed, List.isEmpty_eq_false_iff.mp filled⟩
    · intro ⟨types, listed, filled⟩
      exact ⟨(name, types), listed, by simp [filled]⟩
  unfold rootModules sections
  rw [List.flatMap_cons, List.mem_append, mem_typesModules]
  exact or_congr_right group

theorem rootModules_filled :
    placement.rootModules generation ≠ [] ↔ (placement.layout generation).files ≠ [] := by
  have stems : placement.rootModules generation = [] ↔ placement.fileSlots generation = [] := by
    rw [← List.isEmpty_iff, ← List.isEmpty_iff, ← modules_isEmpty]
    rfl
  have files : (placement.layout generation).files = [] ↔ placement.fileSlots generation = [] := by
    rw [← List.map_eq_nil_iff (f := PlannedFile.path), paths_files, List.map_eq_nil_iff]
  exact not_congr (stems.trans files.symm)

theorem mem_groupIndexes {index : Index} {title : String} {types : Declarations} :
    index ∈ placement.groupIndexes title types ↔
      written types ≠ [] ∧ placement.modes.groups = .folderWithFiles ∧
        index = ⟨some title, (written types).map Prod.fst⟩ := by
  unfold groupIndexes
  cases filled : (written types).isEmpty with
  | true => simp [List.isEmpty_iff.mp filled]
  | false =>
    have more := List.isEmpty_eq_false_iff.mp filled
    cases placement.modes.groups <;> simp [more]

theorem mem_indexes {index : Index} : index ∈ placement.indexes generation ↔
    (placement.rootModules generation ≠ [] ∧ index = ⟨none, placement.rootModules generation⟩) ∨
      ∃ title types, (title, types) ∈ generation.groups.entries ∧
        index ∈ placement.groupIndexes title types := by
  unfold indexes
  rw [List.mem_append, List.mem_flatMap]
  apply or_congr
  · cases filled : (placement.rootModules generation).isEmpty with
    | true => simp [List.isEmpty_iff.mp filled]
    | false => simp [List.isEmpty_eq_false_iff.mp filled]
  · exact ⟨fun ⟨⟨title, types⟩, isIn⟩ => ⟨title, types, isIn⟩,
      fun ⟨title, types, isIn⟩ => ⟨(title, types), isIn⟩⟩

/-! Lists and slots -/

theorem slot_of_listed {index : Index} {name : String}
    (listed : index ∈ placement.indexes generation) (isModule : name ∈ index.modules) :
    ⟨index.folder, name⟩ ∈ placement.fileSlots generation ∨
      index.folder = none ∧ ∃ inner ∈ placement.indexes generation, inner.folder = some name := by
  unfold fileSlots
  rw [List.mem_append]
  rcases mem_indexes.mp listed with ⟨_, rfl⟩ | ⟨title, types, isGroup, isIndex⟩
  · rcases mem_rootModules.mp isModule with isType | ⟨types, isGroup, filled⟩
    · left; left
      exact List.mem_map_of_mem isType
    · cases mode : placement.modes.groups with
      | singleFile =>
        left; right
        apply List.mem_flatMap.mpr
        exact ⟨(name, types), isGroup, by simp [groupSlots, filled, mode]⟩
      | folderWithFiles =>
        right
        refine ⟨rfl, ⟨some name, (written types).map Prod.fst⟩, mem_indexes.mpr (.inr ?_), rfl⟩
        exact ⟨name, types, isGroup, mem_groupIndexes.mpr ⟨filled, mode, rfl⟩⟩
  · obtain ⟨filled, mode, rfl⟩ := mem_groupIndexes.mp isIndex
    left; right
    apply List.mem_flatMap.mpr
    exact ⟨(title, types), isGroup, by simpa [groupSlots, filled, mode] using isModule⟩

theorem listed_of_slot {slot : Slot} (isFile : slot ∈ placement.fileSlots generation) :
    ∃ index ∈ placement.indexes generation,
      index.folder = slot.folder ∧ slot.stem ∈ index.modules := by
  have root {name : String} (isModule : name ∈ placement.rootModules generation) :
      ∃ index ∈ placement.indexes generation, index.folder = none ∧ name ∈ index.modules :=
    ⟨_, mem_indexes.mpr (.inl ⟨List.ne_nil_of_mem isModule, rfl⟩), rfl, isModule⟩
  rcases List.mem_append.mp isFile with isType | isMember
  · obtain ⟨stem, isStem, rfl⟩ := List.mem_map.mp isType
    exact root (mem_rootModules.mpr (.inl isStem))
  · obtain ⟨⟨title, types⟩, isGroup, isSlot⟩ := List.mem_flatMap.mp isMember
    by_cases filled : written types = []
    · simp [groupSlots, filled] at isSlot
    · cases mode : placement.modes.groups with
      | singleFile =>
        have same : slot = ⟨none, title⟩ := by simpa [groupSlots, filled, mode] using isSlot
        subst same
        exact root (mem_rootModules.mpr (.inr ⟨types, isGroup, filled⟩))
      | folderWithFiles =>
        have isWritten : ∃ member ∈ written types, ⟨some title, member.1⟩ = slot := by
          simpa [groupSlots, filled, mode] using isSlot
        obtain ⟨member, isWritten, rfl⟩ := isWritten
        refine ⟨⟨some title, (written types).map Prod.fst⟩, mem_indexes.mpr (.inr ?_), rfl,
          List.mem_map_of_mem isWritten⟩
        exact ⟨title, types, isGroup, mem_groupIndexes.mpr ⟨filled, mode, rfl⟩⟩

theorem file_of_slot {slot : Slot} (isFile : slot ∈ placement.fileSlots generation) :
    ∃ file ∈ (placement.layout generation).files, file.path = placement.slotPath slot := by
  have isPath : placement.slotPath slot ∈
      (placement.layout generation).files.map PlannedFile.path := by
    rw [paths_files]
    exact List.mem_map_of_mem isFile
  exact List.mem_map.mp isPath

theorem slot_of_file {file : PlannedFile} (isFile : file ∈ (placement.layout generation).files) :
    ∃ slot ∈ placement.fileSlots generation, file.path = placement.slotPath slot := by
  have isPath : file.path ∈ (placement.fileSlots generation).map placement.slotPath := by
    rw [← paths_files]
    exact List.mem_map_of_mem isFile
  obtain ⟨slot, isSlot, same⟩ := List.mem_map.mp isPath
  exact ⟨slot, isSlot, same.symm⟩

/-! What the lists cover -/

theorem indexes_root : (placement.layout generation).files ≠ [] ↔
    ∃ index ∈ placement.indexes generation, index.folder = none := by
  rw [← rootModules_filled]
  constructor
  · intro filled
    exact ⟨_, mem_indexes.mpr (.inl ⟨filled, rfl⟩), rfl⟩
  · intro ⟨index, listed, outermost⟩
    rcases mem_indexes.mp listed with ⟨filled, _⟩ | ⟨title, types, _, isIndex⟩
    · exact filled
    · rw [(mem_groupIndexes.mp isIndex).2.2] at outermost
      cases outermost

theorem indexes_first {index : Index} (listed : index ∈ placement.indexes generation)
    (outermost : index.folder = none) : (placement.indexes generation).head? = some index := by
  rcases mem_indexes.mp listed with ⟨filled, rfl⟩ | ⟨title, types, _, isIndex⟩
  · unfold indexes
    rw [if_neg (by simpa using filled)]
    rfl
  · rw [(mem_groupIndexes.mp isIndex).2.2] at outermost
    cases outermost

theorem indexes_nodup : ((placement.indexes generation).map Index.folder).Nodup := by
  have titled {title : String} {types : Declarations} {folder : Option String}
      (isIn : folder ∈ (placement.groupIndexes title types).map Index.folder) :
      folder = some title := by
    obtain ⟨index, isIndex, rfl⟩ := List.mem_map.mp isIn
    rw [(mem_groupIndexes.mp isIndex).2.2]
  have groups : (generation.groups.entries.flatMap fun group =>
      (placement.groupIndexes group.1 group.2).map Index.folder).Nodup := by
    refine @flatMap_groups_nodup (Option String) generation.groups
      (fun title types => (placement.groupIndexes title types).map Index.folder)
      (fun folder => folder.getD "") ?_ ?_
    · intro title types folder isIn
      rw [titled isIn]
      rfl
    · intro title types
      unfold groupIndexes
      cases (written types).isEmpty with
      | true => exact List.nodup_nil
      | false => cases placement.modes.groups <;> simp
  unfold indexes
  rw [List.map_append, List.map_flatMap, List.nodup_append]
  refine ⟨?_, groups, ?_⟩
  · split
    · exact List.nodup_nil
    · exact List.nodup_singleton _
  · rintro folder isRoot _ isGroup rfl
    obtain ⟨group, _, isFolder⟩ := List.mem_flatMap.mp isGroup
    rw [titled isFolder] at isRoot
    split at isRoot
    · cases isRoot
    · cases List.mem_singleton.mp isRoot

theorem index_reached {index : Index} (listed : index ∈ placement.indexes generation) :
    IsReached (placement.indexes generation) index := by
  rcases mem_indexes.mp listed with ⟨_, rfl⟩ | ⟨title, types, isGroup, isIndex⟩
  · exact .root listed rfl
  · obtain ⟨filled, _, rfl⟩ := mem_groupIndexes.mp isIndex
    have isModule : title ∈ placement.rootModules generation :=
      mem_rootModules.mpr (.inr ⟨types, isGroup, filled⟩)
    have root := mem_indexes.mpr (.inl ⟨List.ne_nil_of_mem isModule, rfl⟩)
    exact .folder (.root root rfl) rfl isModule listed rfl

/-- Exporters list what is there and nothing else, and from the exporter of the whole output they
lead to every file and every exporter. -/
theorem exporters_cover (placement : Placement) (generation : Generation) :
    placement.Covers (placement.layout generation) (placement.indexes generation) where
  exporters := exporters_indexes
  root := indexes_root
  first index listed := indexes_first listed
  folders := indexes_nodup
  modules index listed name isModule := by
    rcases slot_of_listed listed isModule with isSlot | ⟨outermost, inner, isInner, titled⟩
    · obtain ⟨file, isFile, here⟩ := file_of_slot isSlot
      refine .file file isFile here fun relative => ?_
      rw [here]
      exact Path.leadsOn_join _ relative
    · refine .folder outermost inner isInner titled fun relative => ?_
      rw [titled]
      exact Path.leadsOn_join _ relative
  reached index listed := index_reached listed
  files file isFile := by
    obtain ⟨slot, isSlot, here⟩ := slot_of_file isFile
    obtain ⟨index, listed, folder, isModule⟩ := listed_of_slot isSlot
    exact ⟨index, index_reached listed, slot.stem, isModule, by rw [folder, here]⟩

end Placement

namespace GroupFolders

def outside : Generation := ⟨declarations [("/Id", [])], ∅⟩

/-- The exporter of the whole output lists a module that leads to no file and no exporter. -/
theorem absolute_name_is_exported_elsewhere :
    (placement.layout outside).exporters = [placement.exporter placement.directory ["/Id"]] ∧
      (∀ file ∈ (placement.layout outside).files, ¬file.path.LeadsOn placement.directory "/Id.ts") ∧
      ∀ exporter ∈ (placement.layout outside).exporters,
        ¬exporter.path.LeadsOn placement.directory "/Id/index.ts" := by
  decide +kernel

end GroupFolders

end Typewright
