import Typewright.Proofs.FiledTypes
import Typewright.Proofs.OutputPaths

/-!
Which names a file imports, and from where. A file imports what its types use and what it does not
declare itself, in order, each name from the first file that declares it. A name that no file
declares is passed over: to a layout it is as if no type used it.
-/
namespace Typewright

open Typewright.Path (IsOrdinary)

/-! Other references -/

def Table.mapValues (f : α → β) (table : Table α) : Table β where
  entries := table.entries.map fun entry => (entry.1, f entry.2)
  nodup := by
    have keys : Pairs.keys (table.entries.map fun entry => (entry.1, f entry.2)) =
        Pairs.keys table.entries := by simp [Pairs.keys]
    rw [keys]
    exact table.nodup

def Declaration.using (change : Declaration → NameSet) (declaration : Declaration) : Declaration :=
  { declaration with references := change declaration }

def Generation.using (change : Declaration → NameSet) (generation : Generation) : Generation where
  types := generation.types.mapValues (Declaration.using change)
  groups := generation.groups.mapValues (Table.mapValues (Declaration.using change))

def Layout.Draft.using (change : Declaration → NameSet) (draft : Layout.Draft) : Layout.Draft :=
  { draft with members := draft.members.map fun member => (member.1, member.2.using change) }

theorem NameSet.filterMap_congr {a b : NameSet} {f : String → Option α}
    (same : ∀ name, (f name).isSome → (name ∈ a ↔ name ∈ b)) :
    a.toList.filterMap f = b.toList.filterMap f := by
  let kept (set : NameSet) : NameSet :=
    ⟨set.toList.filter fun name => (f name).isSome, set.increasing.sublist List.filter_sublist⟩
  have kept_toList (set : NameSet) : (kept set).toList.filterMap f = set.toList.filterMap f := by
    show (set.toList.filter fun name => (f name).isSome).filterMap f = _
    rw [List.filterMap_filter]
    apply List.filterMap_congr
    intro name _
    cases f name <;> rfl
  have equal : kept a = kept b := by
    ext name
    show name ∈ a.toList.filter _ ↔ name ∈ b.toList.filter _
    simp only [List.mem_filter, NameSet.mem_toList]
    exact and_congr_left (same name)
  rw [← kept_toList a, ← kept_toList b, equal]

namespace Layout
variable {drafts : List Draft} {draft : Draft} {change : Declaration → NameSet}

/-- The first of the files that declares the name. -/
def IsFirst (drafts : List Draft) (name : String) (target : Draft) : Prop :=
  ∃ before after, drafts = before ++ target :: after ∧ name ∈ target.names ∧
    ∀ earlier ∈ before, name ∉ earlier.names

theorem moduleOf?_eq_some {name : String} {module : Path} :
    moduleOf? drafts name = some module ↔
      ∃ target, IsFirst drafts name target ∧ target.module = module := by
  unfold moduleOf? IsFirst
  simp only [Option.map_eq_some_iff, List.find?_eq_some_iff_append, List.contains_iff_mem,
    Bool.not_eq_true', ← Bool.not_eq_true]
  constructor
  · intro ⟨target, ⟨declares, before, after, split, missed⟩, same⟩
    exact ⟨target, ⟨before, after, split, declares, missed⟩, same⟩
  · intro ⟨target, ⟨before, after, split, declares, missed⟩, same⟩
    exact ⟨target, ⟨declares, before, after, split, missed⟩, same⟩

theorem moduleOf?_isSome {name : String} :
    (moduleOf? drafts name).isSome ↔ ∃ other ∈ drafts, name ∈ other.names := by
  simp [moduleOf?]

theorem first_of_imports {used : Import} (isUsed : used ∈ draft.imports drafts) :
    ∃ target, IsFirst drafts used.name target ∧
      used.specifier = draft.module.directory.specifier target.module := by
  obtain ⟨name, _, made⟩ := List.mem_filterMap.mp isUsed
  obtain ⟨module, found, same⟩ := Option.map_eq_some_iff.mp made
  obtain ⟨target, first, isModule⟩ := moduleOf?_eq_some.mp found
  subst same
  refine ⟨target, first, ?_⟩
  rw [isModule]

theorem names_imports : (draft.imports drafts).map Import.name =
    draft.foreign.toList.filter fun name => (moduleOf? drafts name).isSome := by
  unfold Draft.imports
  generalize draft.foreign.toList = names
  induction names with
  | nil => rfl
  | cons name rest ih =>
    cases found : moduleOf? drafts name with
    | none => simpa [found] using ih
    | some module => simpa [found] using ih

theorem imports_increasing : ((draft.imports drafts).map Import.name).Pairwise (· < ·) := by
  rw [names_imports]
  exact draft.foreign.increasing.sublist List.filter_sublist

theorem mem_names_imports {name : String} : name ∈ (draft.imports drafts).map Import.name ↔
    (∃ member ∈ draft.members, name ∈ member.2.references) ∧ name ∉ draft.names ∧
      ∃ other ∈ drafts, name ∈ other.names := by
  rw [names_imports, List.mem_filter, NameSet.mem_toList, mem_foreign, moduleOf?_isSome, and_assoc]

theorem names_using : (draft.using change).names = draft.names := by
  simp [Draft.using, Draft.names]

theorem moduleOf?_using (name : String) :
    moduleOf? (drafts.map (Draft.using change)) name = moduleOf? drafts name := by
  have names : (fun draft : Draft => draft.names.contains name) ∘ Draft.using change =
      fun draft => draft.names.contains name := by
    funext draft
    simp [names_using]
  unfold moduleOf?
  rw [List.find?_map, names, Option.map_map]
  rfl

theorem finish_using (same : ∀ declaration : Declaration, ∀ draft ∈ drafts, ∀ name ∈ draft.names,
    (name ∈ change declaration ↔ name ∈ declaration.references)) (draft : Draft) :
    (draft.using change).finish (drafts.map (Draft.using change)) = draft.finish drafts := by
  have imports : (draft.using change).imports (drafts.map (Draft.using change)) =
      draft.imports drafts := by
    unfold Draft.imports
    simp only [moduleOf?_using]
    apply NameSet.filterMap_congr
    intro name made
    rw [Option.isSome_map] at made
    obtain ⟨other, isDraft, declares⟩ := moduleOf?_isSome.mp made
    rw [mem_foreign, mem_foreign, names_using]
    have uses (declaration : Declaration) :
        name ∈ (declaration.using change).references ↔ name ∈ declaration.references :=
      same declaration other isDraft name declares
    simp [Draft.using, uses]
  have content : (draft.using change).content = draft.content := by
    simp [Draft.content, Draft.using, Declaration.using, Function.comp_def]
  have primitives : (draft.using change).primitives = draft.primitives := by
    simp [Draft.primitives, Draft.using, Declaration.using, List.foldl_map]
  unfold Draft.finish
  rw [names_using, content, imports, primitives]
  rfl

theorem written_using (types : Declarations) :
    written (types.mapValues (Declaration.using change)) =
      (written types).map fun member => (member.1, member.2.using change) := by
  unfold written Table.mapValues
  rw [List.filter_map]
  rfl

end Layout

namespace Placement
open Layout
variable {placement : Placement} {generation : Generation} {change : Declaration → NameSet}

/-! Layouts of other references -/

def usingSection (change : Declaration → NameSet) (part : Section) : Section :=
  { part with drafts := part.drafts.map (Draft.using change) }

theorem typesSection_using (types : Declarations) :
    placement.typesSection (types.mapValues (Declaration.using change)) =
      usingSection change (placement.typesSection types) := by
  unfold typesSection
  rw [written_using]
  cases placement.modes.types with
  | singleFile => cases written types <;> rfl
  | files => simp [usingSection, apiece, Draft.using, draft, Function.comp_def]

theorem groupSection_using (title : String) (types : Declarations) :
    placement.groupSection title (types.mapValues (Declaration.using change)) =
      usingSection change (placement.groupSection title types) := by
  unfold groupSection
  rw [written_using]
  cases written types with
  | nil => rfl
  | cons first rest =>
    cases placement.modes.groups with
    | singleFile => rfl
    | folderWithFiles => simp [usingSection, apiece, Draft.using, draft, Function.comp_def]

theorem sections_using : placement.sections (generation.using change) =
    (placement.sections generation).map (usingSection change) := by
  unfold sections
  rw [List.map_cons, List.map_map, ← typesSection_using]
  show _ :: (generation.groups.entries.map _).map _ = _
  rw [List.map_map]
  congr 1
  exact List.map_congr_left fun group _ => groupSection_using group.1 group.2

theorem drafts_using : placement.drafts (generation.using change) =
    (placement.drafts generation).map (Draft.using change) := by
  unfold drafts
  rw [sections_using, List.flatMap_map, List.map_flatMap]
  rfl

theorem exporters_using :
    placement.exporters (generation.using change) = placement.exporters generation := by
  unfold exporters
  dsimp only
  rw [sections_using, List.flatMap_map, List.flatMap_map]
  rfl

/-! What is imported -/

structure Imports (placement : Placement) (drafts : List Draft) (draft : Draft)
    (file : PlannedFile) : Prop where
  declares : file.Declares draft.members
  increasing : (file.imports.map Import.name).Pairwise (· < ·)
  imported : ∀ name, name ∈ file.imports.map Import.name ↔
    (∃ member ∈ draft.members, name ∈ member.2.references) ∧ name ∉ file.types ∧
      ∃ other ∈ drafts, name ∈ other.names
  leads : ∀ used ∈ file.imports, ∃ target, IsFirst drafts used.name target ∧
    used.specifier = draft.module.directory.specifier target.module
  path : file.path = draft.path
  /-- Seen from the file a module is where it is seen from the module of the file, as long as the
  stem is a name and the extension does not lead into a folder. -/
  beside : ∀ slot, placement.Sits slot draft → IsOrdinary slot.stem →
    '/' ∉ placement.extension.toList → ∀ target,
      draft.module.directory.specifier target = file.path.directory.specifier target

/-- Files sit in the slots of their types and groups and import what they use and others declare,
and what no file declares makes no difference. -/
structure ImportsExactly (placement : Placement) (generation : Generation) (layout : Layout) :
    Prop where
  slots : List.Forall₂ placement.Sits (placement.fileSlots generation)
    (placement.drafts generation)
  files : List.Forall₂ (placement.Imports (placement.drafts generation))
    (placement.drafts generation) layout.files
  dropped : ∀ change : Declaration → NameSet,
    (∀ declaration : Declaration, ∀ file ∈ layout.files, ∀ name ∈ file.types,
      (name ∈ change declaration ↔ name ∈ declaration.references)) →
    placement.layout (generation.using change) = layout

theorem imports_finish (draft : Draft) :
    placement.Imports (placement.drafts generation) draft
      (draft.finish (placement.drafts generation)) where
  declares := declares_finish _ draft
  increasing := imports_increasing
  imported _ := mem_names_imports
  leads _ isUsed := first_of_imports isUsed
  path := rfl
  beside slot sits ordinary whole target := by
    have module : draft.module.directory.place = (placement.folder slot.folder).place := by
      rw [sits.module]
      exact Path.place_directory_join _ ordinary
    have file : draft.path.directory.place = (placement.folder slot.folder).place := by
      rw [sits.path]
      exact Path.place_directory_join _ (ordinary.append whole)
    exact Path.specifier_congr (module.trans file.symm) target

/-- Every file imports exactly the names that its types use and another file declares. -/
theorem imports_exact (placement : Placement) (generation : Generation) :
    placement.ImportsExactly generation (placement.layout generation) where
  slots := sits_drafts
  files := by
    apply List.forall₂_map_right_iff.mpr
    apply List.forall₂_same.mpr
    exact fun draft _ => imports_finish draft
  dropped change same := by
    have declared : ∀ declaration : Declaration, ∀ draft ∈ placement.drafts generation,
        ∀ name ∈ draft.names, (name ∈ change declaration ↔ name ∈ declaration.references) := by
      intro declaration draft isDraft
      exact same declaration _ (List.mem_map_of_mem isDraft)
    unfold layout
    dsimp only
    rw [drafts_using, exporters_using, List.map_map]
    congr 1
    exact List.map_congr_left fun draft _ => finish_using declared draft

end Placement

namespace GroupFolders

/-- A type uses a name that no file declares; the layout does not change when the use goes away. -/
theorem missing_type_is_passed_over :
    (pets.types.find? "Owner").map (·.references.toList) = some ["Missing", "Pet"] ∧
      placement.layout (pets.using (·.references.erase "Missing")) = placement.layout pets := by
  refine ⟨by decide +kernel, ?_⟩
  apply (Placement.imports_exact placement pets).dropped
  intro declaration file isFile name isType
  have undeclared : ∀ file ∈ (placement.layout pets).files, "Missing" ∉ file.types := by
    decide +kernel
  have other : name ≠ "Missing" := by
    rintro rfl
    exact undeclared file isFile isType
  simp [other]

def nested : Placement := { placement with extension := "/index.ts" }

/-- The specifier leads to the module from the folder above the one of the file. -/
theorem import_from_nested_file :
    Layout.moduleOf? (nested.drafts pets) "Owner" = some (Path.ofString "/out/Owner") ∧
    ∃ file ∈ (nested.layout pets).files, file.path = Path.ofString "/out/Pet/index.ts" ∧
      ⟨"Owner", "./Owner"⟩ ∈ file.imports ∧
      file.path.directory.specifier (Path.ofString "/out/Owner") = "../Owner" := by
  decide +kernel

end GroupFolders

end Typewright
