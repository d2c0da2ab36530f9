import Typewright.Proofs.Binding
import Typewright.Proofs.Specifier

/-!
Where the imports of a layout lead. Files lie in the directory of the output or in the folder of a
group, under the name of a type or group. An import leads to the file that declares its name, unless
the module is called like the folder of the importing file: then the specifier only says `./`.
-/
namespace Typewright

open Typewright.Path (IsOrdinary)

def Generation.names (generation : Generation) : List String :=
  generation.types.keys ++ generation.groups.entries.flatMap fun (title, types) => title :: types.keys

namespace Placement
open Layout
variable {placement : Placement} {generation : Generation} {draft : Draft}
variable {title : Option String} {stem : String}

def folder (placement : Placement) : Option String → Path
  | none => placement.directory
  | some title => placement.directory.join (Path.ofString title)

structure Lies (placement : Placement) (names : List String) (draft : Draft)
    (title : Option String) (stem : String) : Prop where
  module : draft.module = (placement.folder title).join (Path.ofString stem)
  path : draft.path = (placement.folder title).join (Path.ofString (stem ++ placement.extension))
  titled : ∀ name ∈ title, name ∈ names
  stemmed : stem = typesStem ∨ stem ∈ names

theorem lies_of_drafts (isIn : draft ∈ placement.drafts generation) :
    ∃ title stem, placement.Lies generation.names draft title stem := by
  have known {name : String} (member : name ∈ generation.types.keys) : name ∈ generation.names :=
    List.mem_append_left _ member
  have grouped {title name : String} {types : Declarations}
      (listed : (title, types) ∈ generation.groups.entries) (member : name ∈ title :: types.keys) :
      name ∈ generation.names :=
    List.mem_append_right _ (List.mem_flatMap.mpr ⟨(title, types), listed, member⟩)
  cases drafted_of_drafts isIn with
  | types => exact ⟨none, typesStem, rfl, rfl, nofun, .inl rfl⟩
  | type isWritten => exact ⟨none, _, rfl, rfl, nofun, .inr (known (name_of_written isWritten))⟩
  | @group title types listed =>
    exact ⟨none, title, rfl, rfl, nofun, .inr (grouped listed List.mem_cons_self)⟩
  | @groupType title types member listed isWritten =>
    have inGroup := List.mem_cons_of_mem title (name_of_written isWritten)
    refine ⟨some title, member.1, rfl, rfl, ?_, .inr (grouped listed inGroup)⟩
    rintro name ⟨⟩
    exact grouped listed List.mem_cons_self

theorem segment_known {names : List String} (lies : placement.Lies names draft title stem) :
    ∀ segment ∈ title.toList ++ [stem], segment = typesStem ∨ segment ∈ names := by
  intro segment member
  rcases List.mem_append.mp member with group | file
  · exact .inr (lies.titled segment (Option.mem_toList.mp group))
  · rw [List.mem_singleton.mp file]
    exact lies.stemmed

/-! Places -/

theorem known_ordinary {segment : String}
    (ordinary : ∀ name ∈ generation.names, IsOrdinary name)
    (known : segment = typesStem ∨ segment ∈ generation.names) : IsOrdinary segment := by
  rcases known with rfl | named
  · exact ⟨rfl, by decide⟩
  · exact ordinary segment named

section Places
variable (ordinary : ∀ name ∈ generation.names, IsOrdinary name)
variable (whole : '/' ∉ placement.extension.toList)
variable (lies : placement.Lies generation.names draft title stem)
include ordinary lies

theorem folder_place :
    (placement.folder title).place = placement.directory.place.descend title.toList := by
  cases title with
  | none => exact (Path.Place.descend_nil _).symm
  | some name => exact Path.place_join_name _ (ordinary name (lies.titled name rfl))

theorem module_place :
    draft.module.place = placement.directory.place.descend (title.toList ++ [stem]) := by
  rw [lies.module, Path.place_join_name _ (known_ordinary ordinary lies.stemmed),
    folder_place ordinary lies, Path.Place.descend_append]

theorem module_directory_place :
    draft.module.directory.place = placement.directory.place.descend title.toList := by
  rw [lies.module, Path.place_directory_join _ (known_ordinary ordinary lies.stemmed),
    folder_place ordinary lies]

include whole

theorem path_place :
    draft.path.place =
      placement.directory.place.descend (title.toList ++ [stem ++ placement.extension]) := by
  have stemmed := (known_ordinary ordinary lies.stemmed).append whole
  rw [lies.path, Path.place_join_name _ stemmed, folder_place ordinary lies,
    Path.Place.descend_append]

theorem path_directory_place :
    draft.path.directory.place = placement.directory.place.descend title.toList := by
  have stemmed := (known_ordinary ordinary lies.stemmed).append whole
  rw [lies.path, Path.place_directory_join _ stemmed, folder_place ordinary lies]

end Places

/-! Imports -/

theorem ahead_or_folder (title other : Option String) (stem : String) :
    (Path.apart title.toList (other.toList ++ [stem])).2 ≠ [] ∨
      title = some stem ∧ other = none := by
  cases title with
  | none =>
    left
    cases other <;> simp [Path.apart]
  | some name =>
    cases other with
    | none =>
      by_cases same : name = stem
      · right
        exact ⟨congrArg some same, rfl⟩
      · left
        simp [Path.apart, same]
    | some group =>
      left
      by_cases same : name = group <;> simp [Path.apart, same]

/-- The specifier leads from the file to the target. Where the target is called like the folder of
the file and lies beside it, the specifier is `./` instead. -/
inductive LeadsTo (placement : Placement) (file target : PlannedFile) (specifier : String) : Prop
    where
  | file (same : (file.path.directory.join
      (Path.ofString (specifier ++ placement.extension))).normalize = target.path.normalize)
  | folder (title : String) (here : specifier = "./")
      (inside : file.path.directory.normalize = (placement.folder (some title)).normalize)
      (beside : target.path =
        placement.directory.join (Path.ofString (title ++ placement.extension)))

section Imports
variable {target : Draft} {other : Option String} {name : String} {drafts : List Draft}
variable (ordinary : ∀ name ∈ generation.names, IsOrdinary name)
variable (lies : placement.Lies generation.names draft title stem)
variable (targetLies : placement.Lies generation.names target other name)
include ordinary lies targetLies

theorem specifier_leadsTo (whole : '/' ∉ placement.extension.toList) :
    placement.LeadsTo (draft.finish drafts) (target.finish drafts)
      (draft.module.directory.specifier target.module) := by
  have source := module_directory_place ordinary lies
  have ahead := module_place ordinary targetLies
  rcases ahead_or_folder title other name with filled | ⟨rfl, rfl⟩
  · refine .file (Path.normalize_of_place ?_)
    have names : ∀ segment ∈ other.toList ++ [name], IsOrdinary segment := by
      intro segment member
      exact known_ordinary ordinary (segment_known targetLies segment member)
    have beside := path_directory_place ordinary whole lies
    have same : draft.module.directory.specifier target.module =
        draft.path.directory.specifier target.module :=
      Path.specifier_congr (source.trans beside.symm) _
    have leads := Path.specifier_leads beside ahead names whole filled
    rw [← path_place ordinary whole targetLies, ← same] at leads
    exact leads
  · refine .folder name ?_ ?_ ?_
    · exact Path.specifier_here source ahead
    · exact Path.normalize_of_place ((path_directory_place ordinary whole lies).trans
        (folder_place ordinary lies).symm)
    · exact targetLies.path

theorem specifier_relative
    (notDots : ∀ name ∈ generation.names, Text.startsWith name ".." = false) :
    Text.startsWith (draft.module.directory.specifier target.module) "./" = true ∨
      Text.startsWith (draft.module.directory.specifier target.module) "../" = true := by
  apply Path.specifier_starts (module_directory_place ordinary lies)
    (module_place ordinary targetLies)
  · intro segment member
    rcases segment_known targetLies segment member with rfl | named
    · rfl
    · exact notDots segment named
  · intro none
    rcases ahead_or_folder title other name with filled | ⟨rfl, rfl⟩
    · exact absurd none filled
    · simp [Path.apart]

end Imports

theorem import_of_draft {drafts : List Draft} {used : Import} (isIn : used ∈ draft.imports drafts) :
    ∃ target ∈ drafts, used.name ∈ target.names ∧ used.name ∉ draft.names ∧
      used.specifier = draft.module.directory.specifier target.module := by
  obtain ⟨name, foreign, made⟩ := List.mem_filterMap.mp isIn
  obtain ⟨path, found, same⟩ := Option.map_eq_some_iff.mp made
  obtain ⟨target, first, isPath⟩ := Option.map_eq_some_iff.mp found
  have declares : name ∈ target.names := by simpa using List.find?_some first
  have notOwn : name ∉ draft.names := (mem_foreign.mp foreign).2
  subst same
  refine ⟨target, List.mem_of_find?_eq_some first, declares, notOwn, ?_⟩
  rw [isPath]

/-- Every import leads to another file, which declares its name, and its specifier says that it is
relative unless a name could be taken for a step up. -/
def ImportsLead (placement : Placement) (generation : Generation) : Prop :=
  ∀ file ∈ (placement.layout generation).files, ∀ used ∈ file.imports,
    (∃ target ∈ (placement.layout generation).files, target ≠ file ∧ used.name ∈ target.types ∧
      placement.LeadsTo file target used.specifier) ∧
    ((∀ name ∈ generation.names, Text.startsWith name ".." = false) →
      Text.startsWith used.specifier "./" = true ∨ Text.startsWith used.specifier "../" = true)

theorem imports_lead_to_declarations (ordinary : ∀ name ∈ generation.names, IsOrdinary name)
    (whole : '/' ∉ placement.extension.toList) : placement.ImportsLead generation := by
  intro file isFile used isUsed
  obtain ⟨draft, isDraft, rfl⟩ := List.mem_map.mp isFile
  obtain ⟨target, isTarget, declares, foreign, made⟩ := import_of_draft isUsed
  obtain ⟨title, stem, lies⟩ := lies_of_drafts isDraft
  obtain ⟨other, name, targetLies⟩ := lies_of_drafts isTarget
  refine ⟨⟨_, List.mem_map_of_mem isTarget, ?_, declares, ?_⟩, ?_⟩
  · intro same
    have types : target.names = draft.names := congrArg PlannedFile.types same
    rw [types] at declares
    exact foreign declares
  · rw [made]
    exact specifier_leadsTo ordinary lies targetLies whole
  · rw [made]
    exact specifier_relative ordinary lies targetLies

end Placement

namespace GroupFolders

/-! Types with a file each and groups with a folder each. -/

def declaration (references : List String) : Declaration :=
  { Declaration.pending "" with content := "type", references := .ofList references }

def declarations (types : List (String × List String)) : Declarations :=
  Table.ofList (types.map fun (name, references) => (name, declaration references))

def placement : Placement where
  directory := Path.ofString "/out"
  extension := ".ts"
  exporterName := "index"
  modes := { types := .files, groups := .folderWithFiles }

def pets : Generation :=
  ⟨declarations [("Pet", ["Owner", "Id"]), ("Owner", ["Pet", "Missing"])],
    Table.ofList [("Shared", declarations [("Id", ["Pet"])])]⟩

def namesake : Generation :=
  ⟨declarations [("Pet", [])], Table.ofList [("Pet", declarations [("Id", ["Pet"])])]⟩

def imports (generation : Generation) : List (String × List (Import × String)) :=
  (placement.layout generation).files.map fun file =>
    (file.path.toString, file.imports.map fun used =>
      (used, ((file.path.directory.join
        (Path.ofString (used.specifier ++ placement.extension))).normalize).toString))

theorem imports_of_pets :
    imports pets = [("/out/Pet.ts", [(⟨"Id", "./Shared/Id"⟩, "/out/Shared/Id.ts"),
        (⟨"Owner", "./Owner"⟩, "/out/Owner.ts")]),
      ("/out/Owner.ts", [(⟨"Pet", "./Pet"⟩, "/out/Pet.ts")]),
      ("/out/Shared/Id.ts", [(⟨"Pet", "../Pet"⟩, "/out/Pet.ts")])] ∧
    (∀ name ∈ pets.names, IsOrdinary name) ∧ '/' ∉ placement.extension.toList ∧
    placement.ImportsLead pets := by
  have ordinary : ∀ name ∈ pets.names, IsOrdinary name := by decide +kernel
  have whole : '/' ∉ placement.extension.toList := by decide
  exact ⟨by decide +kernel, ordinary, whole,
    Placement.imports_lead_to_declarations ordinary whole⟩

/-- The import of the namesake of a folder from inside the folder leads to no file. -/
theorem import_of_namesake_is_lost :
    (∀ name ∈ namesake.names, IsOrdinary name) ∧
    imports namesake = [("/out/Pet.ts", []),
      ("/out/Pet/Id.ts", [(⟨"Pet", "./"⟩, "/out/Pet/.ts")])] := by
  decide +kernel

end GroupFolders

end Typewright
