import Mathlib.Data.List.Nodup
import Typewright.Layout

/-!
The files of a layout. A file holds the written types of one table, all of them or one alone, and
lies in the directory of the output or in the folder of a group.
-/
namespace Typewright.Placement

open Layout
variable {placement : Placement} {generation : Generation} {draft : Draft}

/-- The four ways in which a file comes into a layout. -/
inductive Drafted (placement : Placement) (generation : Generation) : Draft → Prop where
  | types : Drafted placement generation
      (placement.draft placement.directory typesStem (written generation.types))
  | type {member : String × Declaration} (isWritten : member ∈ written generation.types) :
    Drafted placement generation (placement.draft placement.directory member.1 [member])
  | group {title : String} {types : Declarations}
    (listed : (title, types) ∈ generation.groups.entries) :
    Drafted placement generation (placement.draft placement.directory title (written types))
  | groupType {title : String} {types : Declarations} {member : String × Declaration}
    (listed : (title, types) ∈ generation.groups.entries) (isWritten : member ∈ written types) :
    Drafted placement generation
      (placement.draft (placement.directory.join (Path.ofString title)) member.1 [member])

theorem mem_apiece {directory : Path} {members : List (String × Declaration)}
    (isIn : draft ∈ placement.apiece directory members) :
    ∃ member ∈ members, draft = placement.draft directory member.1 [member] := by
  obtain ⟨member, listed, rfl⟩ := List.mem_map.mp isIn
  exact ⟨member, listed, rfl⟩

theorem drafted_of_drafts (isIn : draft ∈ placement.drafts generation) :
    placement.Drafted generation draft := by
  obtain ⟨part, listed, isIn⟩ := List.mem_flatMap.mp isIn
  rcases List.mem_cons.mp listed with rfl | listed
  · unfold typesSection at isIn
    dsimp only at isIn
    split at isIn
    · split at isIn
      · cases isIn
      · rw [List.mem_singleton.mp isIn]
        exact .types
    · obtain ⟨member, isWritten, rfl⟩ := mem_apiece isIn
      exact .type isWritten
  · obtain ⟨⟨title, types⟩, grouped, rfl⟩ := List.mem_map.mp listed
    unfold groupSection at isIn
    dsimp only at isIn
    split at isIn
    · cases isIn
    · split at isIn
      · rw [List.mem_singleton.mp isIn]
        exact .group grouped
      · obtain ⟨member, isWritten, rfl⟩ := mem_apiece isIn
        exact .groupType grouped isWritten

theorem name_of_written {types : Declarations} {member : String × Declaration}
    (isWritten : member ∈ written types) : member.1 ∈ types.keys :=
  List.mem_map_of_mem (List.mem_filter.mp isWritten).1

theorem written_nodup (types : Declarations) : ((written types).map Prod.fst).Nodup :=
  types.nodup.sublist (List.filter_sublist.map Prod.fst)

theorem names_nodup (isIn : draft ∈ placement.drafts generation) : draft.names.Nodup := by
  cases drafted_of_drafts isIn with
  | types => exact written_nodup generation.types
  | type => exact List.nodup_singleton _
  | group => exact written_nodup _
  | groupType => exact List.nodup_singleton _

end Typewright.Placement
