import Typewright.Proofs.Imports

/-!
Which file declares which type. A layout loses no declaration that has text and repeats none: the
types outside of groups come first, then those of each group, all of a table in one file or each in
a file of its own. A file with one type of a group lies below the folder of the group, as long as
the name of the type leads down from there.
-/
namespace Typewright

namespace Path

/-! Paths below a directory -/

def IsBelow (path directory : Path) : Prop :=
  ∃ names, names ≠ [] ∧ path.place = directory.place.descend names

structure LeadsDown (q : Path) : Prop where
  relative : q.isAbsolute = false
  within : q.place.ups = 0
  named : q.place.names ≠ []

instance (q : Path) : Decidable q.LeadsDown :=
  decidable_of_iff (q.isAbsolute = false ∧ q.place.ups = 0 ∧ q.place.names ≠ [])
    ⟨fun ⟨relative, within, named⟩ => ⟨relative, within, named⟩,
      fun down => ⟨down.relative, down.within, down.named⟩⟩

theorem isBelow_join (p : Path) {q : Path} (down : q.LeadsDown) : (p.join q).IsBelow p := by
  have relative : q.IsRelative := ⟨down.relative, fun empty => down.named (by
    obtain ⟨segments⟩ := q
    subst empty
    rfl)⟩
  refine ⟨q.place.names, down.named, ?_⟩
  rw [place_join_relative p relative, down.within]
  rfl

end Path

/-- The declarations with text, those outside of groups first, then group by group. -/
def Generation.withText (generation : Generation) : List (String × Declaration) :=
  (generation.types.entries ++ generation.groups.entries.flatMap fun group =>
    group.2.entries).filter fun entry => entry.2.content ≠ ""

/-- The file declares these types and no other, in this order. -/
structure PlannedFile.Declares (file : PlannedFile) (entries : List (String × Declaration)) :
    Prop where
  types : file.types = entries.map Prod.fst
  content : file.content = String.join (entries.map fun entry => entry.2.content)
  primitives : ∀ token, token ∈ file.primitives ↔ ∃ entry ∈ entries, token ∈ entry.2.primitives

namespace Layout

variable {entries : List (String × Declaration)} {files : List PlannedFile}

inductive Together (path : Path) : List (String × Declaration) → List PlannedFile → Prop where
  | nothing : Together path [] []
  | file {entries : List (String × Declaration)} {file : PlannedFile} (filled : entries ≠ [])
    (declares : file.Declares entries) (here : file.path = path) : Together path entries [file]

/-- The file declares one type, and lies in the directory under the name of the type. -/
structure Alone (directory : Path) (extension : String) (entry : String × Declaration)
    (file : PlannedFile) : Prop where
  declares : file.Declares [entry]
  path : file.path = directory.join (Path.ofString (entry.1 ++ extension))
  below : (Path.ofString (entry.1 ++ extension)).LeadsDown → file.path.IsBelow directory

abbrev Apart (directory : Path) (extension : String) :
    List (String × Declaration) → List PlannedFile → Prop :=
  List.Forall₂ (Alone directory extension)

theorem names_together {path : Path} (together : Together path entries files) :
    files.flatMap PlannedFile.types = entries.map Prod.fst := by
  cases together with
  | nothing => rfl
  | file _ declares _ => rw [List.flatMap_singleton, declares.types]

theorem names_apart {directory : Path} {extension : String}
    (apart : Apart directory extension entries files) :
    files.flatMap PlannedFile.types = entries.map Prod.fst := by
  induction apart with
  | nil => rfl
  | cons first _ ih => rw [List.flatMap_cons, first.declares.types, ih]; rfl

theorem declares_finish (drafts : List Draft) (draft : Draft) :
    (draft.finish drafts).Declares draft.members where
  types := rfl
  content := rfl
  primitives token := by
    have tokens (members : List (String × Declaration)) (set : NameSet) :
        token ∈ members.foldl (fun tokens member => tokens ∪ member.2.primitives) set ↔
          token ∈ set ∨ ∃ member ∈ members, token ∈ member.2.primitives := by
      induction members generalizing set with
      | nil => simp
      | cons first rest ih => simp [ih, or_assoc]
    exact (tokens draft.members ∅).trans (by simp)

theorem written_eq (types : Declarations) :
    written types = types.entries.filter fun entry => entry.2.content ≠ "" := by
  refine List.filter_congr fun entry _ => ?_
  rw [Bool.eq_iff_iff, Bool.not_eq_true', ← Bool.not_eq_true, String.isEmpty_iff,
    decide_eq_true_iff]

end Layout

namespace Placement

open Layout
variable {placement : Placement} {types : Declarations}

def filePath (placement : Placement) (directory : Path) (stem : String) : Path :=
  directory.join (Path.ofString (stem ++ placement.extension))

def DividesTypes (placement : Placement) (entries : List (String × Declaration))
    (files : List PlannedFile) : Prop :=
  match placement.modes.types with
  | .singleFile => Together (placement.filePath placement.directory typesStem) entries files
  | .files => Apart placement.directory placement.extension entries files

def DividesGroup (placement : Placement) (title : String) (entries : List (String × Declaration))
    (files : List PlannedFile) : Prop :=
  match placement.modes.groups with
  | .singleFile => Together (placement.filePath placement.directory title) entries files
  | .folderWithFiles =>
    Apart (placement.directory.join (Path.ofString title)) placement.extension entries files

theorem names_dividesTypes {entries : List (String × Declaration)} {files : List PlannedFile}
    (divides : placement.DividesTypes entries files) :
    files.flatMap PlannedFile.types = entries.map Prod.fst := by
  unfold DividesTypes at divides
  split at divides
  · exact names_together divides
  · exact names_apart divides

theorem names_dividesGroup {title : String} {entries : List (String × Declaration)}
    {files : List PlannedFile} (divides : placement.DividesGroup title entries files) :
    files.flatMap PlannedFile.types = entries.map Prod.fst := by
  unfold DividesGroup at divides
  split at divides
  · exact names_together divides
  · exact names_apart divides

theorem together_draft (drafts : List Draft) (stem : String)
    {entries : List (String × Declaration)} (filled : entries ≠ []) :
    Together (placement.filePath placement.directory stem) entries
      [(placement.draft placement.directory stem entries).finish drafts] :=
  .file filled (declares_finish drafts (placement.draft placement.directory stem entries)) rfl

theorem apart_apiece (drafts : List Draft) (directory : Path)
    (entries : List (String × Declaration)) :
    Apart directory placement.extension entries
      ((placement.apiece directory entries).map (Draft.finish drafts)) := by
  induction entries with
  | nil => exact .nil
  | cons entry rest ih =>
    exact .cons ⟨declares_finish drafts (placement.draft directory entry.1 [entry]), rfl,
      fun down => Path.isBelow_join directory down⟩ ih

theorem typesSection_divides (placement : Placement) (drafts : List Draft)
    (types : Declarations) : placement.DividesTypes (written types)
      ((placement.typesSection types).drafts.map (Draft.finish drafts)) := by
  unfold DividesTypes typesSection
  cases placement.modes.types with
  | singleFile =>
    dsimp only
    split
    · next empty =>
      rw [List.isEmpty_iff.mp empty]
      exact .nothing
    · next filled => exact together_draft drafts typesStem fun empty => filled (by simp [empty])
  | files => exact apart_apiece drafts placement.directory (written types)

theorem groupSection_divides (placement : Placement) (drafts : List Draft) (title : String)
    (types : Declarations) : placement.DividesGroup title (written types)
      ((placement.groupSection title types).drafts.map (Draft.finish drafts)) := by
  unfold DividesGroup groupSection
  by_cases empty : (written types).isEmpty
  · rw [List.isEmpty_iff.mp empty]
    cases placement.modes.groups with
    | singleFile => exact .nothing
    | folderWithFiles => exact .nil
  · dsimp only
    rw [if_neg empty]
    cases placement.modes.groups with
    | singleFile =>
      exact together_draft drafts title fun none => empty (List.isEmpty_iff.mpr none)
    | folderWithFiles =>
      exact apart_apiece drafts (placement.directory.join (Path.ofString title)) (written types)

structure Divides (placement : Placement) (generation : Generation) (files own : List PlannedFile)
    (grouped : List (List PlannedFile)) : Prop where
  files : files = own ++ grouped.flatten
  types : placement.DividesTypes
    (generation.types.entries.filter fun entry => entry.2.content ≠ "") own
  groups : List.Forall₂ (fun group files => placement.DividesGroup group.1
    (group.2.entries.filter fun entry => entry.2.content ≠ "") files)
    generation.groups.entries grouped

theorem names_divides {generation : Generation} {files own : List PlannedFile}
    {grouped : List (List PlannedFile)} (divides : placement.Divides generation files own grouped) :
    files.flatMap PlannedFile.types = generation.withText.map Prod.fst := by
  have nested {groups : List (String × Declarations)} {grouped : List (List PlannedFile)}
      (divided : List.Forall₂ (fun group files => placement.DividesGroup group.1
        (group.2.entries.filter fun entry => entry.2.content ≠ "") files) groups grouped) :
      grouped.flatten.flatMap PlannedFile.types = ((groups.flatMap fun group =>
        group.2.entries).filter fun entry => entry.2.content ≠ "").map Prod.fst := by
    induction divided with
    | nil => rfl
    | cons first _ ih =>
      rw [List.flatten_cons, List.flatMap_append, names_dividesGroup first, ih, List.flatMap_cons,
        List.filter_append, List.map_append]
  rw [divides.files, List.flatMap_append, names_dividesTypes divides.types, nested divides.groups,
    Generation.withText, List.filter_append, List.map_append]

/-- Every declaration with text stands in one file, once and in order, and no other stands in any:
how many share a file is decided by the modes alone. -/
theorem types_filed_once (placement : Placement) (generation : Generation) :
    (∃ own grouped, placement.Divides generation (placement.layout generation).files own grouped) ∧
      (placement.layout generation).files.flatMap PlannedFile.types =
        generation.withText.map Prod.fst := by
  let finish := Draft.finish (placement.drafts generation)
  have divides : placement.Divides generation (placement.layout generation).files
      ((placement.typesSection generation.types).drafts.map finish)
      (generation.groups.entries.map fun group =>
        (placement.groupSection group.1 group.2).drafts.map finish) :=
    { files := by
        simp only [layout, drafts, sections, List.flatMap_cons, List.map_append, List.map_flatMap,
          List.flatMap_map, ← List.flatMap_def, finish]
      types := written_eq generation.types ▸
        placement.typesSection_divides (placement.drafts generation) generation.types
      groups := List.forall₂_map_right_iff.mpr (List.forall₂_same.mpr fun group _ =>
        written_eq group.2 ▸
          placement.groupSection_divides (placement.drafts generation) group.1 group.2) }
  exact ⟨⟨_, _, divides⟩, names_divides divides⟩

end Placement

namespace GroupFolders

def stray : Generation := ⟨∅, Table.ofList [("Shared", declarations [("/Id", [])])]⟩

/-- The file of the stray type is not below the folder of its group. -/
theorem absolute_name_leaves_its_group : ∃ file ∈ (placement.layout stray).files,
    file.types = ["/Id"] ∧
      ¬file.path.IsBelow (placement.directory.join (Path.ofString "Shared")) := by
  refine ⟨_, List.mem_cons_self, rfl, ?_⟩
  rintro ⟨names, -, same⟩
  have own : (Path.ofString "/Id.ts").place = ⟨true, 0, ["Id.ts"]⟩ := by decide
  have folder : (placement.directory.join (Path.ofString "Shared")).place =
      ⟨true, 0, ["out", "Shared"]⟩ := by decide
  rw [folder] at same
  have heads : some "Id.ts" = some "out" :=
    congrArg (fun place : Path.Place => place.names.head?) (own.symm.trans same)
  exact absurd heads (by decide)

end GroupFolders

end Typewright
