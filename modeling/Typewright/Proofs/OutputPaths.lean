import Typewright.Proofs.Imports
import Typewright.Proofs.SparedFiles

/-!
Which paths a layout writes to. Each file and exporter has a stem in the directory of the output or
in the folder of a group. Nothing compares the stems with each other: where two of them meet, the
later file takes the place of the earlier one. Where none meet, every declared type can be read in
the end.
-/
namespace Typewright

/-! Spots of joined paths -/

namespace FileTree
variable {current : Spot}

theorem start_append {segments more : List String} (filled : segments ≠ [])
    (notEmpty : segments ≠ [""]) : start current ⟨segments ++ more⟩ =
      ((start current ⟨segments⟩).1, (start current ⟨segments⟩).2 ++ more) := by
  have same : (⟨segments ++ more⟩ : Path).isAbsolute = (⟨segments⟩ : Path).isAbsolute := by
    match segments with
    | [] => exact absurd rfl filled
    | [head] =>
      have named : head ≠ "" := by
        rintro rfl
        exact notEmpty rfl
      cases more <;> simp [Path.isAbsolute, named]
    | head :: second :: rest =>
      by_cases rooted : head = ""
      · subst rooted
        rfl
      · simp [Path.isAbsolute, rooted]
  unfold start
  rw [same]
  split
  · cases segments with
    | nil => exact absurd rfl filled
    | cons head rest => rfl
  · rfl

theorem spotOf_append {segments more : List String} (filled : segments ≠ [])
    (notEmpty : segments ≠ [""]) :
    spotOf current ⟨segments ++ more⟩ = walk (spotOf current ⟨segments⟩) more := by
  unfold spotOf
  rw [start_append filled notEmpty, walk_append]

theorem walk_blank (spot : Spot) : walk spot [""] = spot := by simp [walk, next]

theorem spotOf_join (p : Path) {name : String} (ordinary : Path.IsOrdinary name) :
    spotOf current (p.join (Path.ofString name)) = spotOf current p ++ [name] := by
  have lands (spot : Spot) : walk spot [name] = spot ++ [name] := by
    obtain ⟨filled, notHere⟩ := Path.plain_ne_empty ordinary.plain
    have notUp : name ≠ ".." := by
      rintro rfl
      simpa [Path.IsPlain, Path.Component.ofSegment?] using ordinary.plain
    simp [walk, next, filled, notHere, notUp]
  have relative : (⟨[name]⟩ : Path).isAbsolute = false := by simp [Path.isAbsolute]
  obtain ⟨segments⟩ := p
  rw [Path.ofString_ordinary ordinary, ← lands]
  by_cases empty : segments = [] ∨ segments = [""]
  · have joined : (⟨segments⟩ : Path).join ⟨[name]⟩ = ⟨[name]⟩ := by
      rcases empty with rfl | rfl <;> simp [Path.join, Path.isEmpty]
    have here : spotOf current ⟨segments⟩ = current := by
      rcases empty with rfl | rfl
      · rfl
      · exact walk_blank current
    rw [joined, here]
    unfold spotOf start
    rw [relative, if_neg Bool.false_ne_true]
  · obtain ⟨filled, notEmpty⟩ := not_or.mp empty
    unfold Path.join
    rw [relative]
    simp only [Path.isEmpty, beq_iff_eq, filled, notEmpty, Bool.false_or, Bool.or_eq_true, or_self,
      if_false]
    split
    · next trailing =>
      obtain ⟨body, rfl⟩ := List.getLast?_eq_some_iff.mp trailing
      rw [List.dropLast_concat]
      by_cases rooted : body = [""]
      · subst rooted
        rfl
      · have filledBody : body ≠ [] := by
          rintro rfl
          exact notEmpty rfl
        rw [spotOf_append filledBody rooted, spotOf_append filledBody rooted, walk_blank]
    · exact spotOf_append filled notEmpty

end FileTree

/-! Slots -/

/-- Where a layout puts a file: in the directory of the output or in the folder of a group, under a
stem. -/
structure Slot where
  folder : Option String
  stem : String
deriving DecidableEq

structure Slot.IsOrdinary (slot : Slot) : Prop where
  folder : ∀ title ∈ slot.folder, Path.IsOrdinary title
  stem : Path.IsOrdinary slot.stem

def Layout.paths (layout : Layout) : List Path :=
  layout.files.map PlannedFile.path ++ layout.exporters.map Exporter.path

namespace Placement

open Layout
variable {placement : Placement} {generation : Generation}

def slotPath (placement : Placement) (slot : Slot) : Path :=
  (placement.folder slot.folder).join (Path.ofString (slot.stem ++ placement.extension))

def typeStems (placement : Placement) (types : Declarations) : List String :=
  match placement.modes.types with
  | .singleFile => if (written types).isEmpty then [] else [typesStem]
  | .files => (written types).map Prod.fst

def groupSlots (placement : Placement) (title : String) (types : Declarations) : List Slot :=
  if (written types).isEmpty then []
  else
    match placement.modes.groups with
    | .singleFile => [⟨none, title⟩]
    | .folderWithFiles => (written types).map fun member => ⟨some title, member.1⟩

def groupExporters (placement : Placement) (title : String) (types : Declarations) : List Slot :=
  if (written types).isEmpty then []
  else
    match placement.modes.groups with
    | .singleFile => []
    | .folderWithFiles => [⟨some title, placement.exporterName⟩]

def groupFiles (placement : Placement) (generation : Generation) : List Slot :=
  generation.groups.entries.flatMap fun group => placement.groupSlots group.1 group.2

def fileSlots (placement : Placement) (generation : Generation) : List Slot :=
  (placement.typeStems generation.types).map (⟨none, ·⟩) ++ placement.groupFiles generation

def exporterSlots (placement : Placement) (generation : Generation) : List Slot :=
  (if (placement.fileSlots generation).isEmpty then [] else [⟨none, placement.exporterName⟩]) ++
    generation.groups.entries.flatMap fun group => placement.groupExporters group.1 group.2

def slots (placement : Placement) (generation : Generation) : List Slot :=
  placement.fileSlots generation ++ placement.exporterSlots generation

structure Sits (placement : Placement) (slot : Slot) (draft : Draft) : Prop where
  path : draft.path = placement.slotPath slot
  module : draft.module = (placement.folder slot.folder).join (Path.ofString slot.stem)

theorem sits_apiece (folder : Option String) (members : List (String × Declaration)) :
    List.Forall₂ placement.Sits (members.map fun member => ⟨folder, member.1⟩)
      (placement.apiece (placement.folder folder) members) := by
  unfold apiece
  rw [List.forall₂_map_left_iff, List.forall₂_map_right_iff, List.forall₂_same]
  exact fun _ _ => ⟨rfl, rfl⟩

theorem sits_typesSection (types : Declarations) :
    List.Forall₂ placement.Sits ((placement.typeStems types).map (⟨none, ·⟩))
      (placement.typesSection types).drafts := by
  unfold typesSection typeStems
  dsimp only
  cases placement.modes.types with
  | singleFile =>
    cases (written types).isEmpty with
    | true => exact .nil
    | false => exact .cons ⟨rfl, rfl⟩ .nil
  | files =>
    rw [List.map_map]
    exact sits_apiece none (written types)

theorem sits_groupSection (title : String) (types : Declarations) :
    List.Forall₂ placement.Sits (placement.groupSlots title types)
      (placement.groupSection title types).drafts := by
  unfold groupSection groupSlots
  dsimp only
  cases (written types).isEmpty with
  | true => exact .nil
  | false =>
    cases placement.modes.groups with
    | singleFile => exact .cons ⟨rfl, rfl⟩ .nil
    | folderWithFiles => exact sits_apiece (some title) (written types)

/-- The files of a layout sit in its slots, one in each and in order. -/
theorem sits_drafts : List.Forall₂ placement.Sits (placement.fileSlots generation)
    (placement.drafts generation) := by
  unfold drafts fileSlots groupFiles sections
  rw [List.flatMap_cons, List.flatMap_map]
  refine List.rel_append (sits_typesSection generation.types) (List.rel_flatten ?_)
  rw [List.forall₂_map_left_iff, List.forall₂_map_right_iff, List.forall₂_same]
  exact fun group _ => sits_groupSection group.1 group.2

theorem exporters_groupSection (title : String) (types : Declarations) :
    (placement.groupSection title types).exporters.map Exporter.path =
      (placement.groupExporters title types).map placement.slotPath := by
  unfold groupSection groupExporters
  dsimp only
  cases (written types).isEmpty with
  | true => rfl
  | false => cases placement.modes.groups <;> rfl

theorem modules_isEmpty : ((placement.sections generation).flatMap Section.modules).isEmpty =
    (placement.fileSlots generation).isEmpty := by
  have types : (placement.typesSection generation.types).modules = [] ↔
      placement.typeStems generation.types = [] := by
    unfold typesSection typeStems
    dsimp only
    cases placement.modes.types with
    | singleFile => cases (written generation.types).isEmpty <;> simp
    | files => exact Iff.rfl
  have group (title : String) (types : Declarations) :
      (placement.groupSection title types).modules = [] ↔
        placement.groupSlots title types = [] := by
    unfold groupSection groupSlots
    dsimp only
    cases filled : (written types).isEmpty with
    | true => simp
    | false =>
      have some : written types ≠ [] := by simpa using filled
      cases placement.modes.groups <;> simp [some]
  rw [Bool.eq_iff_iff, List.isEmpty_iff, List.isEmpty_iff]
  unfold sections fileSlots groupFiles
  simp only [List.flatMap_cons, List.append_eq_nil_iff, List.map_eq_nil_iff, List.flatMap_map,
    List.flatMap_eq_nil_iff, types, group]

theorem paths_files : (placement.layout generation).files.map PlannedFile.path =
    (placement.fileSlots generation).map placement.slotPath := by
  show ((placement.drafts generation).map (Draft.finish _)).map PlannedFile.path = _
  rw [List.map_map, ← List.forall₂_eq_eq_eq, List.forall₂_map_left_iff, List.forall₂_map_right_iff]
  exact (sits_drafts.imp fun _ _ sits => sits.path).flip

theorem exporters_typesSection (types : Declarations) :
    (placement.typesSection types).exporters = [] := by
  unfold typesSection
  dsimp only
  split
  · split <;> rfl
  · rfl

theorem paths_layout : (placement.layout generation).paths =
    (placement.slots generation).map placement.slotPath := by
  have exporters : (placement.layout generation).exporters.map Exporter.path =
      (placement.exporterSlots generation).map placement.slotPath := by
    have nested : ((placement.sections generation).flatMap Section.exporters).map Exporter.path =
        (generation.groups.entries.flatMap fun group =>
          placement.groupExporters group.1 group.2).map placement.slotPath := by
      unfold sections
      rw [List.flatMap_cons, exporters_typesSection, List.nil_append, List.map_flatMap,
        List.map_flatMap, List.flatMap_map]
      simp only [exporters_groupSection]
    show (placement.exporters generation).map Exporter.path = _
    unfold exporters exporterSlots
    dsimp only
    rw [modules_isEmpty, List.map_append, ← nested]
    cases (placement.fileSlots generation).isEmpty <;> rfl
  unfold paths slots
  rw [paths_files, exporters, List.map_append]

/-! Paths of different slots -/

theorem slot_of_names {one other : Slot} {more : String}
    (same : one.folder.toList ++ [one.stem ++ more] = other.folder.toList ++ [other.stem ++ more]) :
    one = other := by
  obtain ⟨folders, stems⟩ := List.append_inj' same rfl
  have stem : one.stem = other.stem :=
    (String.append_left_inj more).mp (List.singleton_inj.mp stems)
  obtain ⟨folder, _⟩ := one
  obtain ⟨otherFolder, _⟩ := other
  cases stem
  cases folder <;> cases otherFolder <;> cases folders <;> rfl

/-- Paths of slots only differ in the folder and the stem. -/
theorem components_slotPath (placement : Placement) : ∃ before head after, ∀ slot : Slot,
    slot.IsOrdinary → (placement.slotPath slot).components =
      before ++ (slot.folder.toList ++ [slot.stem ++ head]).map Path.Component.name ++ after := by
  obtain ⟨head, tail, cut⟩ : ∃ head tail,
      Text.pieces '/' placement.extension = head :: tail := by
    refine List.exists_cons_of_ne_nil ?_
    unfold Text.pieces
    simp
  refine ⟨placement.directory.components, head, tail.filterMap Path.Component.ofSegment?, ?_⟩
  rintro ⟨folder, stem⟩ ⟨titled, stemmed⟩
  have file : Path.ofString (stem ++ placement.extension) = ⟨(stem ++ head) :: tail⟩ := by
    rw [Path.ofString, Text.pieces_append stemmed.whole, cut]
    rfl
  unfold slotPath
  rw [file, Path.components_join_plain _ (stemmed.plain.append head)]
  cases folder with
  | none => simp [Placement.folder]
  | some title =>
    have isFolder : (placement.directory.join ⟨[title]⟩).components =
        placement.directory.components ++ [.name title] :=
      Path.components_join_plain placement.directory (titled title rfl).plain
    rw [← Path.ofString_ordinary (titled title rfl)] at isFolder
    simp only [Placement.folder]
    rw [isFolder]
    simp

theorem slotPath_same {one other : Slot} (ordinary : one.IsOrdinary) (named : other.IsOrdinary) :
    (placement.slotPath one).same (placement.slotPath other) = true ↔ one = other := by
  constructor
  · intro same
    obtain ⟨before, head, after, components⟩ := placement.components_slotPath
    unfold Path.same at same
    rw [components one ordinary, components other named, beq_iff_eq] at same
    have injective : Function.Injective Path.Component.name := fun _ _ => Path.Component.name.inj
    exact slot_of_names
      (injective.list_map (List.append_cancel_left (List.append_cancel_right same)))
  · rintro rfl
    simp [Path.same]

/-! Stems that meet -/

def groupStems (placement : Placement) (generation : Generation) : List String :=
  match placement.modes.groups with
  | .singleFile =>
    (generation.groups.entries.filter fun group => !(written group.2).isEmpty).map Prod.fst
  | .folderWithFiles => []

def folderStems (placement : Placement) (generation : Generation) : List String :=
  match placement.modes.groups with
  | .singleFile => []
  | .folderWithFiles =>
    generation.groups.entries.flatMap fun group => (written group.2).map Prod.fst

/-- No two files of a layout have the same stem in one directory. -/
structure Apart (placement : Placement) (generation : Generation) : Prop where
  groups : ∀ stem ∈ placement.typeStems generation.types, stem ∉ placement.groupStems generation
  exporter : placement.exporterName ∉
    placement.typeStems generation.types ++ placement.groupStems generation
  folders : placement.exporterName ∉ placement.folderStems generation

theorem typeStems_nodup (types : Declarations) : (placement.typeStems types).Nodup := by
  unfold typeStems
  split
  · split
    · exact List.nodup_nil
    · exact List.nodup_singleton typesStem
  · exact written_nodup types

theorem groupSlots_titled {title : String} {types : Declarations} {slot : Slot}
    (isIn : slot ∈ placement.groupSlots title types) : slot.folder.getD slot.stem = title := by
  unfold groupSlots at isIn
  split at isIn
  · cases isIn
  · split at isIn
    · rw [List.mem_singleton.mp isIn]
      rfl
    · obtain ⟨member, _, rfl⟩ := List.mem_map.mp isIn
      rfl

theorem groupSlots_nodup (title : String) (types : Declarations) :
    (placement.groupSlots title types).Nodup := by
  unfold groupSlots
  split
  · exact List.nodup_nil
  · split
    · exact List.nodup_singleton _
    · have distinct := written_nodup types
      rw [List.Nodup, List.pairwise_map] at distinct ⊢
      exact distinct.imp fun differ same => differ (congrArg Slot.stem same)

theorem groupExporters_titled {title : String} {types : Declarations} {slot : Slot}
    (isIn : slot ∈ placement.groupExporters title types) :
    slot = ⟨some title, placement.exporterName⟩ := by
  unfold groupExporters at isIn
  split at isIn
  · cases isIn
  · split at isIn
    · cases isIn
    · exact List.mem_singleton.mp isIn

theorem groupExporters_nodup (title : String) (types : Declarations) :
    (placement.groupExporters title types).Nodup := by
  unfold groupExporters
  split
  · exact List.nodup_nil
  · split
    · exact List.nodup_nil
    · exact List.nodup_singleton _

theorem flatMap_groups_nodup {α : Type} {groups : Table Declarations}
    {given : String → Declarations → List α} (owner : α → String)
    (own : ∀ {title types value}, value ∈ given title types → owner value = title)
    (distinct : ∀ title types, (given title types).Nodup) :
    (groups.entries.flatMap fun group => given group.1 group.2).Nodup := by
  refine List.nodup_flatMap.mpr ⟨fun group _ => distinct group.1 group.2, ?_⟩
  have titles := groups.nodup
  rw [Pairs.keys, List.Nodup, List.pairwise_map] at titles
  refine titles.imp fun {one other} differ value here there => differ ?_
  exact (own here).symm.trans (own there)

theorem root_of_groups {stem : String} :
    ⟨none, stem⟩ ∈ placement.groupFiles generation ↔ stem ∈ placement.groupStems generation := by
  unfold groupFiles groupSlots groupStems
  cases placement.modes.groups with
  | singleFile =>
    simp only [List.mem_flatMap, List.mem_map, List.mem_filter]
    constructor
    · rintro ⟨group, listed, isSlot⟩
      cases filled : (written group.2).isEmpty with
      | true => simp [filled] at isSlot
      | false =>
        simp only [filled, Bool.false_eq_true, if_false, List.mem_singleton,
          Slot.mk.injEq] at isSlot
        exact ⟨group, ⟨listed, by rw [filled]; rfl⟩, isSlot.2.symm⟩
    · rintro ⟨group, ⟨listed, filled⟩, rfl⟩
      have some : (written group.2).isEmpty = false := by simpa using filled
      exact ⟨group, listed, by simp [some]⟩
  | folderWithFiles =>
    simp only [List.mem_flatMap, List.not_mem_nil, iff_false]
    rintro ⟨group, listed, isSlot⟩
    split at isSlot
    · cases isSlot
    · obtain ⟨member, _, same⟩ := List.mem_map.mp isSlot
      cases same

theorem folder_of_groups {stem : String} : stem ∈ placement.folderStems generation ↔
    ∃ title, ⟨some title, stem⟩ ∈ placement.groupFiles generation := by
  unfold groupFiles groupSlots folderStems
  cases placement.modes.groups with
  | singleFile =>
    refine ⟨nofun, ?_⟩
    rintro ⟨title, isFile⟩
    obtain ⟨group, _, isSlot⟩ := List.mem_flatMap.mp isFile
    split at isSlot
    · cases isSlot
    · cases List.mem_singleton.mp isSlot
  | folderWithFiles =>
    constructor
    · intro isStem
      obtain ⟨group, listed, isWritten⟩ := List.mem_flatMap.mp isStem
      obtain ⟨member, isMember, rfl⟩ := List.mem_map.mp isWritten
      have filled : (written group.2).isEmpty = false :=
        List.isEmpty_eq_false_iff.mpr (List.ne_nil_of_mem isMember)
      refine ⟨group.1, List.mem_flatMap.mpr ⟨group, listed, ?_⟩⟩
      rw [filled, if_neg Bool.false_ne_true]
      exact List.mem_map.mpr ⟨member, isMember, rfl⟩
    · rintro ⟨title, isFile⟩
      obtain ⟨group, listed, isSlot⟩ := List.mem_flatMap.mp isFile
      split at isSlot
      · cases isSlot
      · obtain ⟨member, isMember, same⟩ := List.mem_map.mp isSlot
        cases same
        exact List.mem_flatMap.mpr ⟨group, listed, List.mem_map_of_mem isMember⟩

theorem exporter_beside {title stem : String}
    (isFile : ⟨some title, stem⟩ ∈ placement.groupFiles generation) :
    ⟨some title, placement.exporterName⟩ ∈ placement.exporterSlots generation := by
  obtain ⟨group, listed, isSlot⟩ := List.mem_flatMap.mp isFile
  refine List.mem_append_right _ (List.mem_flatMap.mpr ⟨group, listed, ?_⟩)
  unfold groupSlots at isSlot
  unfold groupExporters
  split at isSlot
  · cases isSlot
  · next filled =>
    rw [if_neg filled]
    split at isSlot
    · cases List.mem_singleton.mp isSlot
    · obtain ⟨member, _, same⟩ := List.mem_map.mp isSlot
      cases same
      exact List.mem_singleton_self _

theorem fileSlots_nodup : (placement.fileSlots generation).Nodup ↔
    ∀ stem ∈ placement.typeStems generation.types, stem ∉ placement.groupStems generation := by
  have types : ((placement.typeStems generation.types).map (Slot.mk none)).Nodup :=
    (typeStems_nodup generation.types).map fun _ _ same => congrArg Slot.stem same
  have groups : (placement.groupFiles generation).Nodup :=
    flatMap_groups_nodup (fun slot : Slot => slot.folder.getD slot.stem) groupSlots_titled
      groupSlots_nodup
  unfold fileSlots
  rw [List.nodup_append]
  constructor
  · rintro ⟨_, _, apart⟩ stem isType isGroup
    exact apart _ (List.mem_map_of_mem isType) _ (root_of_groups.mpr isGroup) rfl
  · intro apart
    refine ⟨types, groups, ?_⟩
    rintro slot isType _ isGroup rfl
    obtain ⟨stem, isStem, rfl⟩ := List.mem_map.mp isType
    exact apart stem isStem (root_of_groups.mp isGroup)

theorem exporterSlots_nodup : (placement.exporterSlots generation).Nodup := by
  have groups : (generation.groups.entries.flatMap fun group =>
      placement.groupExporters group.1 group.2).Nodup :=
    flatMap_groups_nodup (fun slot => slot.folder.getD slot.stem)
      (fun isIn => by rw [groupExporters_titled isIn]; rfl) groupExporters_nodup
  unfold exporterSlots
  rw [List.nodup_append]
  refine ⟨?_, groups, ?_⟩
  · split
    · exact List.nodup_nil
    · exact List.nodup_singleton _
  · rintro slot isRoot _ isGroup rfl
    split at isRoot
    · cases isRoot
    · obtain ⟨group, _, isExporter⟩ := List.mem_flatMap.mp isGroup
      rw [List.mem_singleton.mp isRoot] at isExporter
      cases groupExporters_titled isExporter

theorem slots_nodup : (placement.slots generation).Nodup ↔ placement.Apart generation := by
  unfold slots
  rw [List.nodup_append, fileSlots_nodup]
  constructor
  · rintro ⟨groups, _, apart⟩
    refine ⟨groups, fun isRoot => ?_, fun isFolder => ?_⟩
    · have isFile : ⟨none, placement.exporterName⟩ ∈ placement.fileSlots generation := by
        rcases List.mem_append.mp isRoot with isType | isGroup
        · exact List.mem_append_left _ (List.mem_map_of_mem isType)
        · exact List.mem_append_right _ (root_of_groups.mpr isGroup)
      refine apart _ isFile _ (List.mem_append_left _ ?_) rfl
      rw [if_neg (by simpa using List.ne_nil_of_mem isFile)]
      exact List.mem_singleton_self _
    · obtain ⟨title, isFile⟩ := folder_of_groups.mp isFolder
      exact apart _ (List.mem_append_right _ isFile) _ (exporter_beside isFile) rfl
  · rintro ⟨groups, exporter, folders⟩
    refine ⟨groups, exporterSlots_nodup, ?_⟩
    rintro slot isFile _ isExporter rfl
    rcases List.mem_append.mp isExporter with isRoot | isGroup
    · split at isRoot
      · cases isRoot
      · rw [List.mem_singleton.mp isRoot] at isFile
        refine exporter (List.mem_append.mpr ?_)
        rcases List.mem_append.mp isFile with isType | isGroup
        · obtain ⟨stem, isStem, same⟩ := List.mem_map.mp isType
          cases same
          exact .inl isStem
        · exact .inr (root_of_groups.mp isGroup)
    · obtain ⟨_, _, isExporter⟩ := List.mem_flatMap.mp isGroup
      have isSlot := groupExporters_titled isExporter
      subst isSlot
      rcases List.mem_append.mp isFile with isType | isGroup
      · obtain ⟨stem, _, same⟩ := List.mem_map.mp isType
        cases same
      · exact folders (folder_of_groups.mpr ⟨_, isGroup⟩)

theorem paths_distinct (ordinary : ∀ slot ∈ placement.slots generation, slot.IsOrdinary) :
    (placement.layout generation).paths.Pairwise (fun one other => one.same other = false) ↔
      placement.Apart generation := by
  rw [paths_layout, List.pairwise_map, ← slots_nodup]
  refine List.Pairwise.iff_of_mem fun {one other} here there => ?_
  rw [← Bool.not_eq_true, slotPath_same (ordinary one here) (ordinary other there)]

/-! What is left in the end -/

theorem spotOf_slotPath {current : Spot} {slot : Slot} (ordinary : slot.IsOrdinary)
    (whole : '/' ∉ placement.extension.toList) :
    FileTree.spotOf current (placement.slotPath slot) =
      FileTree.spotOf current placement.directory ++ slot.folder.toList ++
        [slot.stem ++ placement.extension] := by
  obtain ⟨folder, stem⟩ := slot
  rw [slotPath, FileTree.spotOf_join _ (ordinary.stem.append whole)]
  cases folder with
  | none => simp [Placement.folder]
  | some title =>
    rw [Placement.folder, FileTree.spotOf_join _ (ordinary.folder title rfl)]
    rfl

theorem spots_distinct (current : Spot)
    (ordinary : ∀ slot ∈ placement.slots generation, slot.IsOrdinary)
    (whole : '/' ∉ placement.extension.toList) (apart : placement.Apart generation) :
    (placement.layout generation).paths.Pairwise fun one other =>
      FileTree.spotOf current one ≠ FileTree.spotOf current other := by
  rw [paths_layout, List.pairwise_map]
  refine (slots_nodup.mpr apart).imp_of_mem fun {one other} here there differ same => differ ?_
  rw [spotOf_slotPath (ordinary one here) whole, spotOf_slotPath (ordinary other there) whole,
    List.append_assoc, List.append_assoc] at same
  exact slot_of_names (List.append_cancel_left same)

end Placement

namespace Script
open FileTree
variable {current : Spot} {files : List OutputFile} {tree after : FileTree}

theorem does_steps {file : OutputFile} (does : Does current file.steps tree after) :
    match file.text with
    | .ok text => (Step.write file.path text).act current tree = (.ok (), after)
    | .error _ => after = tree := by
  unfold OutputFile.steps at does
  cases isText : file.text with
  | error failure =>
    rw [isText] at does
    cases does
    rfl
  | ok text =>
    rw [isText] at does
    cases does with
    | step act more =>
      cases (does_notices [file.notice]).mp more
      exact act

theorem does_spares {path : Path} {text : String}
    (does : Does current (files.flatMap OutputFile.steps) tree after)
    (apart : ∀ file ∈ files, spotOf current path ≠ spotOf current file.path)
    (reads : tree.read current path = .ok text) : after.read current path = .ok text := by
  refine does_keeps (P := fun tree => tree.read current path = .ok text) does ?_ reads
  refine OutputFile.steps_keep fun file isFile written between here => ?_
  exact (Step.act_write file.path written between).read (apart file isFile) here

theorem does_writes (texts : ∀ file ∈ files, ∃ text, file.text = .ok text)
    (apart : files.Pairwise fun one other =>
      spotOf current one.path ≠ spotOf current other.path)
    (does : Does current (files.flatMap OutputFile.steps) tree after) :
    ∀ file ∈ files, ∃ text, file.text = .ok text ∧ after.read current file.path = .ok text := by
  induction files generalizing tree with
  | nil => exact fun file isIn => absurd isIn List.not_mem_nil
  | cons file rest ih =>
    rw [List.flatMap_cons] at does
    obtain ⟨between, own, later⟩ := does_append.mp does
    obtain ⟨here, others⟩ := List.pairwise_cons.mp apart
    obtain ⟨ownText, restTexts⟩ := List.forall_mem_cons.mp texts
    refine List.forall_mem_cons.mpr ⟨?_, ih restTexts others later⟩
    obtain ⟨text, isText⟩ := ownText
    have writes := does_steps own
    rw [isText] at writes
    exact ⟨text, isText, does_spares later here (Step.write_writes writes).2⟩

end Script

end Typewright
