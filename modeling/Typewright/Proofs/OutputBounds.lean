import Typewright.Proofs.FiledTypes
import Typewright.Proofs.LexicalWalk
import Typewright.Proofs.OutputPaths
import Typewright.Proofs.ResultShape
import Typewright.Proofs.SurvivingTypes

/-!
Whether a run writes outside of its directory. Names of types and groups are joined to the directory
as they stand, and nothing looks at what they say: a name that is an absolute path replaces the
directory, and one with `..` leaves it. Where the names of the document stay where they are joined,
so do all paths of the run: the titles that come from the names of other documents have no dots and
no slashes.
-/
namespace Typewright

/-! Characters of titles -/

namespace Text

/-- A character that neither cuts a path nor makes a segment that leads elsewhere. -/
def IsHarmless (c : Char) : Prop := c ≠ '/' ∧ c ≠ '.'

instance (c : Char) : Decidable (IsHarmless c) := inferInstanceAs (Decidable (_ ∧ _))

theorem harmless_of_toNat {c : Char} (above : 47 < c.toNat) : IsHarmless c := by
  constructor
  · rintro rfl
    exact absurd above (by decide)
  · rintro rfl
    exact absurd above (by decide)

theorem harmless_ofNat {n : Nat} (above : 47 < n) : IsHarmless (Char.ofNat n) := by
  by_cases valid : n.isValidChar
  · apply harmless_of_toNat
    rw [Char.ofNat, dif_pos valid]
    exact above
  · rw [Char.ofNat, dif_neg valid]
    decide

theorem harmless_of_ascii (change : Char → Char)
    (keeps : ∀ n < 128, IsHarmless (Char.ofNat n) → IsHarmless (change (Char.ofNat n))) {c : Char}
    (ascii : isAscii c = true) (harmless : IsHarmless c) : IsHarmless (change c) := by
  have small : c.toNat < 128 := by simpa [isAscii] using ascii
  have same : Char.ofNat c.toNat = c := Char.ofNat_toNat c
  rw [← same] at harmless ⊢
  exact keeps c.toNat small harmless

theorem shifted_harmless {table : List (Nat × Nat × Nat × Int)}
    (far : ∀ entry ∈ table, 47 < entry.1 + entry.2.2.2) {c : Char} (other : isAscii c = false) :
    IsHarmless ((shifted? table c).getD c) := by
  have own : IsHarmless c := by
    apply harmless_of_toNat
    have large : 128 ≤ c.toNat := by simpa [isAscii] using other
    omega
  unfold shifted?
  cases found : table.find? _ with
  | none => exact own
  | some entry =>
    have inRange := List.find?_some found
    have start := far entry (List.mem_of_find?_eq_some found)
    obtain ⟨first, last, step, distance⟩ := entry
    simp only [Bool.and_eq_true, decide_eq_true_eq] at inRange
    dsimp only at start
    exact harmless_ofNat (by omega)

theorem upperForm_harmless {c : Char} (harmless : IsHarmless c) :
    ∀ d ∈ upperForm c, IsHarmless d := by
  intro d member
  unfold upperForm at member
  split at member
  · next ascii =>
    rw [List.mem_singleton.mp member]
    exact harmless_of_ascii Char.toUpper (by decide +kernel) ascii harmless
  · next other =>
    split at member
    · next form found =>
      have spellings : ∀ entry ∈ CharacterTables.upperSpelling, ∀ n ∈ entry.2, 47 < n := by
        decide +kernel
      obtain ⟨n, isIn, rfl⟩ := List.mem_map.mp member
      exact harmless_ofNat (spellings _ (List.mem_of_find?_eq_some found) n isIn)
    · rw [List.mem_singleton.mp member]
      exact shifted_harmless (by decide +kernel) (by simpa using other)

theorem lowerForm_harmless {c : Char} (harmless : IsHarmless c) :
    ∀ d ∈ lowerForm c, IsHarmless d := by
  intro d member
  unfold lowerForm at member
  split at member
  · next ascii =>
    rw [List.mem_singleton.mp member]
    exact harmless_of_ascii Char.toLower (by decide +kernel) ascii harmless
  · next other =>
    split at member
    · have forms : ∀ d ∈ ['i', Char.ofNat 0x307], IsHarmless d :=
        List.forall_mem_cons.mpr
          ⟨by decide, List.forall_mem_singleton.mpr (harmless_ofNat (by decide))⟩
      exact forms d member
    · rw [List.mem_singleton.mp member]
      exact shifted_harmless (by decide +kernel) (by simpa using other)

theorem lowerWord_harmless {word : List Char} (harmless : ∀ c ∈ word, IsHarmless c) :
    ∀ d ∈ lowerWord word, IsHarmless d := by
  fun_induction lowerWord word with
  | case1 => simp
  | case2 => exact List.forall_mem_singleton.mpr (harmless_ofNat (by decide))
  | case3 c => exact lowerForm_harmless (harmless c List.mem_cons_self)
  | case4 c rest _ ih =>
    intro d member
    rcases List.mem_append.mp member with first | later
    · exact lowerForm_harmless (harmless c List.mem_cons_self) d first
    · exact ih (fun e isIn => harmless e (List.mem_cons_of_mem c isIn)) d later

theorem mem_cutRun {mode : Mode} {word run piece : List Char}
    (member : piece ∈ cutRun mode word run) : ∀ c ∈ piece, c ∈ word ∨ c ∈ run := by
  fun_induction cutRun mode word run <;> grind

theorem words_alphanumeric (text : String) :
    ∀ word ∈ words text, ∀ c ∈ word, isAlphanumeric c = true := by
  intro word member c inside
  obtain ⟨run, isRun, cut⟩ := List.mem_flatMap.mp member
  have free := splitOnP_free (fun c => !isAlphanumeric c) text.toList run isRun c
  rcases mem_cutRun cut c inside with none | inRun
  · cases none
  · simpa using free inRun

theorem pascalCase_harmless (text : String) : ∀ c ∈ (pascalCase text).toList, IsHarmless c := by
  intro c member
  unfold pascalCase at member
  rw [String.toList_ofList] at member
  obtain ⟨word, isWord, inside⟩ := List.mem_flatMap.mp member
  have harmless : ∀ c ∈ word, IsHarmless c := by
    intro c isIn
    have alphanumeric := words_alphanumeric text word isWord c isIn
    constructor
    · rintro rfl
      exact absurd alphanumeric (by decide)
    · rintro rfl
      exact absurd alphanumeric (by decide)
  cases word with
  | nil => cases inside
  | cons first rest =>
    obtain ⟨own, others⟩ := List.forall_mem_cons.mp harmless
    rcases List.mem_append.mp inside with upper | lower
    · exact upperForm_harmless own c upper
    · exact lowerWord_harmless others c lower

end Text

namespace Path

/-! Below a directory -/

def LiesBelow (path directory : Path) : Prop :=
  ∃ names, names ≠ [] ∧
    path.normalize.components = directory.normalize.components ++ names.map .name

theorem liesBelow_iff {path directory : Path} :
    path.LiesBelow directory ↔ path.IsBelow directory := by
  unfold LiesBelow IsBelow
  simp only [normalize_components, ← Place.components_descend]
  refine exists_congr fun names => and_congr_right fun _ => ⟨fun same => ?_, congrArg _⟩
  have leads := foldl_step_components (place_proper path)
  have start := foldl_step_components (place_proper directory)
  rw [same, Place.components_descend, List.foldl_append, start, Place.foldl_step_names] at leads
  exact leads.symm

/-! What a join leads to -/

theorem join_filled (p : Path) {q : Path} (filled : q.segments ≠ []) :
    (p.join q).segments ≠ [] := by
  unfold join
  split
  · exact filled
  · split <;> simp [filled]

theorem place_join_join (p : Path) {t q : Path} (titled : t.segments ≠ [])
    (filled : q.segments ≠ []) :
    (p.join (t.join q)).place = ((p.join t).join q).place := by
  cases absolute : q.isAbsolute with
  | true => rw [join_absolute t absolute, join_absolute p absolute, join_absolute _ absolute]
  | false =>
    have last : q.IsRelative := ⟨absolute, filled⟩
    cases rooted : t.isAbsolute with
    | true => rw [join_absolute p ((join_isAbsolute t last).trans rooted), join_absolute p rooted]
    | false =>
      have first : t.IsRelative := ⟨rooted, titled⟩
      have both : (t.join q).IsRelative :=
        ⟨(join_isAbsolute t last).trans rooted, join_filled t filled⟩
      rw [place_join p both, ← foldl_step_relative both, place_join _ last, place_join p first,
        ← foldl_step_relative first]
      cases empty : t.isEmpty with
      | true =>
        have same : t.join q = q := by simp [join, empty]
        rw [same, components_of_isEmpty empty, foldl_step_relative last]
        rfl
      | false => rw [components_join empty last, List.foldl_append]

/-! Routes -/

def undone (route directory : Path) : List String :=
  directory.place.names.drop (directory.place.names.length - route.place.ups)

/-- Joined to the directory, the route ends below it: it is a longer path itself, or it follows the
names again that its steps up undo, and goes on. -/
inductive EndsBelow (route directory : Path) : Prop where
  | absolute {more : List String} (rooted : directory.isAbsolute = true)
    (replaces : route.isAbsolute = true) (filled : more ≠ [])
    (names : route.place.names = directory.place.names ++ more)
  | relative {more : List String} (relative : route.isAbsolute = false)
    (within : directory.isAbsolute = true ∨ route.place.ups ≤ directory.place.names.length)
    (filled : more ≠ []) (names : route.place.names = route.undone directory ++ more)

theorem isBelow_iff_relative {route : Path} (relative : route.IsRelative) (directory : Path) :
    (directory.join route).IsBelow directory ↔
      (directory.isAbsolute = true ∨ route.place.ups ≤ directory.place.names.length) ∧
        ∃ more, more ≠ [] ∧ route.place.names = route.undone directory ++ more := by
  have whole (more : List String) : directory.place.names ++ more =
      directory.place.names.take (directory.place.names.length - route.place.ups) ++
        (route.undone directory ++ more) := by
    rw [← List.append_assoc, undone, List.take_append_drop]
  have counted : (if directory.place.rooted then directory.place.ups
      else directory.place.ups + (route.place.ups - directory.place.names.length)) =
        directory.place.ups ↔
      directory.isAbsolute = true ∨ route.place.ups ≤ directory.place.names.length := by
    rw [place_rooted]
    cases directory.isAbsolute with
    | true => simp
    | false =>
      simp only [Bool.false_eq_true, if_false, false_or]
      omega
  unfold IsBelow
  rw [place_join_relative directory relative, foldl_step_back, ← counted]
  simp only [Place.descend, Place.mk.injEq, true_and, whole, List.append_cancel_left_eq]
  constructor
  · rintro ⟨more, filled, ups, names⟩
    exact ⟨ups, more, filled, names⟩
  · rintro ⟨ups, more, filled, names⟩
    exact ⟨more, filled, ups, names⟩

theorem isBelow_iff_absolute {route : Path} (absolute : route.isAbsolute = true)
    (directory : Path) : (directory.join route).IsBelow directory ↔
      directory.isAbsolute = true ∧
        ∃ more, more ≠ [] ∧ route.place.names = directory.place.names ++ more := by
  have rooted := (place_rooted route).trans absolute
  have noUps := (place_proper route).2 rooted
  unfold IsBelow
  rw [join_absolute directory absolute]
  constructor
  · rintro ⟨more, filled, same⟩
    have isRooted : directory.place.rooted = true := by
      rw [← rooted, same]
      rfl
    exact ⟨(place_rooted directory).symm.trans isRooted, more, filled,
      congrArg Place.names same⟩
  · rintro ⟨isAbsolute, more, filled, names⟩
    have isRooted := (place_rooted directory).trans isAbsolute
    have noSteps := (place_proper directory).2 isRooted
    refine ⟨more, filled, ?_⟩
    unfold Place.descend
    rw [← names, isRooted, noSteps, ← rooted, ← noUps]

theorem liesBelow_join_iff {route : Path} (filled : route.segments ≠ []) (directory : Path) :
    (directory.join route).LiesBelow directory ↔ route.EndsBelow directory := by
  rw [liesBelow_iff]
  cases absolute : route.isAbsolute with
  | true =>
    rw [isBelow_iff_absolute absolute]
    constructor
    · rintro ⟨rooted, more, filled, names⟩
      exact .absolute rooted absolute filled names
    · intro ends
      cases ends with
      | absolute rooted _ filled names => exact ⟨rooted, _, filled, names⟩
      | relative relative => exact absurd absolute (by simp [relative])
  | false =>
    rw [isBelow_iff_relative ⟨absolute, filled⟩]
    constructor
    · rintro ⟨within, more, filled, names⟩
      exact .relative absolute within filled names
    · intro ends
      cases ends with
      | absolute _ replaces => exact absurd replaces (by simp [absolute])
      | relative _ within filled names => exact ⟨within, _, filled, names⟩

/-- Only what leads down ends below every directory. -/
theorem endsBelow_everywhere {route : Path} :
    (∀ directory, route.EndsBelow directory) ↔ route.LeadsDown := by
  constructor
  · intro ends
    -- a relative directory without names tells them apart
    cases ends ⟨[""]⟩ with
    | absolute rooted => cases rooted
    | relative relative within filled names =>
      have noUps : route.place.ups = 0 := Nat.le_zero.mp (within.resolve_left nofun)
      refine ⟨relative, noUps, ?_⟩
      rw [names]
      simp [filled]
  · intro down directory
    have undoes : route.undone directory = [] := by simp [undone, down.within]
    apply EndsBelow.relative down.relative (.inr (by simp [down.within])) down.named
    rw [undoes, List.nil_append]

/-! Names that stay where they are joined -/

structure Stays (q : Path) : Prop where
  relative : q.isAbsolute = false
  within : q.place.ups = 0

instance (q : Path) : Decidable q.Stays :=
  decidable_of_iff (q.isAbsolute = false ∧ q.place.ups = 0)
    ⟨fun ⟨relative, within⟩ => ⟨relative, within⟩, fun stays => ⟨stays.relative, stays.within⟩⟩

theorem stays_join {t q : Path} (stays : t.Stays) (down : q.LeadsDown) : (t.join q).LeadsDown := by
  obtain ⟨names, filled, place⟩ := isBelow_join t down
  refine ⟨?_, ?_, ?_⟩
  · rw [← place_rooted, place]
    exact (place_rooted t).trans stays.relative
  · rw [place]
    exact stays.within
  · rw [place]
    simp [Place.descend, filled]

theorem stays_harmless {title : String} (harmless : ∀ c ∈ title.toList, Text.IsHarmless c) :
    (ofString title).Stays := by
  have whole : '/' ∉ title.toList := fun slash => (harmless _ slash).1 rfl
  have notUp : title ≠ ".." := by
    rintro rfl
    exact absurd (harmless '.' (by decide)) (by decide)
  have relative : (⟨[title]⟩ : Path).IsRelative := ⟨by simp [isAbsolute], by simp⟩
  rw [ofString_whole whole]
  refine ⟨relative.relative, ?_⟩
  rw [place_relative relative]
  by_cases silent : title = "" ∨ title = "."
  · simp [Component.ofSegment?, silent, Place.start]
  · simp [Component.ofSegment?, silent, notUp, Place.step, Place.start]

theorem step_ups (place : Place) {component : Component} (notRoot : component ≠ .root) :
    place.ups ≤ (place.step component).ups := by
  cases component with
  | root => exact absurd rfl notRoot
  | here => exact le_rfl
  | name => exact le_rfl
  | up =>
    simp only [Place.step]
    split
    · split
      · exact le_rfl
      · exact Nat.le_succ _
    · exact le_rfl

theorem ofString_append (name : String) {more : String} (whole : '/' ∉ more.toList) :
    ∃ before last, ofString name = ⟨before ++ [last]⟩ ∧
      ofString (name ++ more) = ⟨before ++ [last ++ more]⟩ := by
  obtain ⟨before, last, pieces⟩ : ∃ before last, Text.pieces '/' name = before ++ [last] := by
    rcases List.eq_nil_or_concat (Text.pieces '/' name) with none | ⟨before, last, same⟩
    · exact absurd none (Text.pieces_ne_nil '/' name)
    · exact ⟨before, last, by simpa using same⟩
  have free := Text.pieces_free '/' name
  have glued := Text.glue_pieces '/' name
  rw [pieces] at free glued
  refine ⟨before, last, by rw [ofString, pieces], ?_⟩
  rw [← glued, Text.glue_append, ofString, Text.pieces_glue (by simp)]
  intro piece member
  rcases List.mem_append.mp member with early | late
  · exact free piece (List.mem_append_left _ early)
  · rw [List.mem_singleton.mp late, String.toList_append, List.mem_append, not_or]
    exact ⟨free last (by simp), whole⟩

theorem isAbsolute_last (before : List String) (last other : String) :
    (⟨before ++ [last]⟩ : Path).isAbsolute = (⟨before ++ [other]⟩ : Path).isAbsolute := by
  cases before with
  | nil => simp [isAbsolute]
  | cons head rest =>
    by_cases rooted : head = ""
    · subst rooted
      cases rest <;> rfl
    · simp [isAbsolute, rooted]

theorem stays_before {before : List String} {last : String}
    (stays : (⟨before ++ [last]⟩ : Path).Stays) :
    ((before.filterMap Component.ofSegment?).foldl Place.step Place.start).ups = 0 := by
  have within := stays.within
  rw [place_relative ⟨stays.relative, by simp⟩, List.filterMap_append, List.foldl_append] at within
  cases step : Component.ofSegment? last with
  | none => simpa [step] using within
  | some component =>
    have notRoot : component ≠ .root := by
      rintro rfl
      exact not_root_of_segment step
    rw [List.filterMap_cons_some step, List.filterMap_nil, List.foldl_cons, List.foldl_nil]
      at within
    exact Nat.le_zero.mp (within ▸ step_ups _ notRoot)

theorem stays_append {name extension : String} (stays : (ofString name).Stays)
    (ordinary : IsOrdinary extension) : (ofString (name ++ extension)).LeadsDown := by
  obtain ⟨before, last, named, extended⟩ := ofString_append name ordinary.whole
  rw [named] at stays
  have relative : (⟨before ++ [last ++ extension]⟩ : Path).IsRelative :=
    ⟨(isAbsolute_last before _ last).trans stays.relative, by simp⟩
  have own : Component.ofSegment? (last ++ extension) = some (.name (last ++ extension)) :=
    ordinary.plain.preceded last
  have place : (⟨before ++ [last ++ extension]⟩ : Path).place =
      ((before.filterMap Component.ofSegment?).foldl Place.step Place.start).descend
        [last ++ extension] := by
    rw [place_relative relative, List.filterMap_append, List.foldl_append]
    simp [own, Place.step, Place.descend]
  rw [extended]
  refine ⟨relative.relative, ?_, ?_⟩
  · rw [place]
    exact stays_before stays
  · rw [place]
    simp [Place.descend]

end Path

/-! Paths of slots -/

def Slot.route (extension : String) (slot : Slot) : Path :=
  (Path.ofString (slot.folder.getD "")).join (Path.ofString (slot.stem ++ extension))

theorem Slot.route_filled (extension : String) (slot : Slot) :
    (slot.route extension).segments ≠ [] :=
  Path.join_filled _ (Text.pieces_ne_nil '/' _)

namespace Placement

variable {placement : Placement} {generation : Generation} {slot : Slot}

theorem place_slotPath (placement : Placement) (slot : Slot) :
    (placement.slotPath slot).place =
      (placement.directory.join (slot.route placement.extension)).place := by
  obtain ⟨folder, stem⟩ := slot
  cases folder with
  | none =>
    have own : Slot.route placement.extension ⟨none, stem⟩ =
        Path.ofString (stem ++ placement.extension) := by
      have empty : (Path.ofString "").isEmpty = true := by decide
      simp [Slot.route, Path.join, empty]
    rw [own]
    rfl
  | some title =>
    exact (Path.place_join_join placement.directory (Text.pieces_ne_nil '/' title)
      (Text.pieces_ne_nil '/' _)).symm

theorem liesBelow_slotPath (placement : Placement) (slot : Slot) :
    (placement.slotPath slot).LiesBelow placement.directory ↔
      (slot.route placement.extension).EndsBelow placement.directory := by
  rw [← Path.liesBelow_join_iff (slot.route_filled _)]
  unfold Path.LiesBelow
  rw [Path.normalize_of_place (placement.place_slotPath slot)]

structure Knows (placement : Placement) (generation : Generation) (slot : Slot) : Prop where
  stem : slot.stem ∈ placement.typeStems generation.types ++ placement.folderStems generation ∨
    slot.stem = placement.exporterName ∨ slot.stem ∈ generation.groups.keys
  folder : ∀ title ∈ slot.folder, title ∈ generation.groups.keys

theorem knows_slots (isSlot : slot ∈ placement.slots generation) :
    placement.Knows generation slot := by
  rcases List.mem_append.mp isSlot with isFile | isExporter
  · rcases List.mem_append.mp isFile with isType | isGroup
    · obtain ⟨stem, isStem, rfl⟩ := List.mem_map.mp isType
      exact ⟨.inl (List.mem_append_left _ isStem), nofun⟩
    · obtain ⟨group, listed, inGroup⟩ := List.mem_flatMap.mp isGroup
      have isTitle : slot.folder.getD slot.stem ∈ generation.groups.keys := by
        rw [groupSlots_titled inGroup]
        exact List.mem_map_of_mem listed
      obtain ⟨folder, stem⟩ := slot
      cases folder with
      | none => exact ⟨.inr (.inr isTitle), nofun⟩
      | some title =>
        have isStem := folder_of_groups.mpr ⟨title, isGroup⟩
        refine ⟨.inl (List.mem_append_right _ isStem), ?_⟩
        rintro _ ⟨⟩
        exact isTitle
  · rcases List.mem_append.mp isExporter with isRoot | isGroup
    · split at isRoot
      · cases isRoot
      · rw [List.mem_singleton.mp isRoot]
        exact ⟨.inr (.inl rfl), nofun⟩
    · obtain ⟨group, listed, inGroup⟩ := List.mem_flatMap.mp isGroup
      rw [groupExporters_titled inGroup]
      refine ⟨.inr (.inl rfl), ?_⟩
      rintro _ ⟨⟩
      exact List.mem_map_of_mem listed

structure NamesStay (placement : Placement) (spec : Spec) (generation : Generation) : Prop where
  extension : Path.IsOrdinary placement.extension
  exporter : (Path.ofString placement.exporterName).Stays
  types : ∀ stem ∈ placement.typeStems generation.types ++ placement.folderStems generation,
    (Path.ofString stem).Stays
  titles : ∀ title ∈ spec.groups.elim [] Table.keys, (Path.ofString title).Stays

theorem route_leadsDown (ordinary : Path.IsOrdinary placement.extension)
    (stem : (Path.ofString slot.stem).Stays)
    (folder : ∀ title ∈ slot.folder, (Path.ofString title).Stays) :
    (slot.route placement.extension).LeadsDown := by
  have down := Path.stays_append stem ordinary
  unfold Slot.route
  cases isFolder : slot.folder with
  | none =>
    have empty : (Path.ofString "").Stays := by decide
    exact Path.stays_join empty down
  | some title => exact Path.stays_join (folder title isFolder) down

/-- Which paths of a generation lie below the directory of the output. -/
structure Bounds (placement : Placement) (spec : Spec) (generation : Generation) : Prop where
  /-- Each path is a route from the directory, and lies below it if the route ends there. -/
  here : List.Forall₂
    (fun slot path =>
      path.normalize = (placement.directory.join (slot.route placement.extension)).normalize ∧
        (path.LiesBelow placement.directory ↔
          (slot.route placement.extension).EndsBelow placement.directory))
    (placement.slots generation) (placement.layout generation).paths
  everywhere :
    (∀ directory, ∀ path ∈ ({ placement with directory }.layout generation).paths,
      path.LiesBelow directory) ↔
        ∀ slot ∈ placement.slots generation, (slot.route placement.extension).LeadsDown
  /-- All of them, if the names stay where they are joined. The titles of further groups do. -/
  inside : placement.NamesStay spec generation →
    ∀ path ∈ (placement.layout generation).paths, path.LiesBelow placement.directory

theorem bounds_of_titles {spec : Spec}
    (further : ∀ title ∈ generation.groups.keys, title ∉ spec.groups.elim [] Table.keys →
      ∃ text, title = Text.pascalCase text) : placement.Bounds spec generation := by
  have everywhere : (∀ directory, ∀ path ∈ ({ placement with directory }.layout generation).paths,
      path.LiesBelow directory) ↔
        ∀ slot ∈ placement.slots generation, (slot.route placement.extension).LeadsDown := by
    have paths (directory : Path) : ({ placement with directory }.layout generation).paths =
        (placement.slots generation).map ({ placement with directory }.slotPath) := paths_layout
    simp only [paths, List.forall_mem_map]
    constructor
    · intro below slot isSlot
      apply Path.endsBelow_everywhere.mp
      intro directory
      exact (liesBelow_slotPath { placement with directory } slot).mp (below directory slot isSlot)
    · intro down directory slot isSlot
      apply (liesBelow_slotPath { placement with directory } slot).mpr
      exact Path.endsBelow_everywhere.mpr (down slot isSlot) directory
  refine ⟨?here, everywhere, ?inside⟩
  case here =>
    rw [paths_layout, List.forall₂_map_right_iff, List.forall₂_same]
    intro slot _
    exact ⟨Path.normalize_of_place (placement.place_slotPath slot),
      placement.liesBelow_slotPath slot⟩
  case inside =>
    intro stays
    refine everywhere.mpr ?_ placement.directory
    intro slot isSlot
    have titled (title : String) (isTitle : title ∈ generation.groups.keys) :
        (Path.ofString title).Stays := by
      by_cases given : title ∈ spec.groups.elim [] Table.keys
      · exact stays.titles title given
      · obtain ⟨text, rfl⟩ := further title isTitle given
        exact Path.stays_harmless (Text.pascalCase_harmless text)
    obtain ⟨stem, folder⟩ := knows_slots isSlot
    refine route_leadsDown stays.extension ?_ fun title isFolder =>
      titled title (folder title isFolder)
    rcases stem with isType | isExporter | isTitle
    · exact stays.types slot.stem isType
    · rw [isExporter]
      exact stays.exporter
    · exact titled slot.stem isTitle

end Placement

/-- Of the paths of a run that succeeds, those lie below its directory whose routes end there. Only
names of the document and of the settings can lead elsewhere. -/
theorem Settings.outputs_bounded {settings : Settings} {templates : TemplateSet} {library : Library}
    {current : Path} {outcome : Outcome} {session : Session}
    (run : settings.declare templates library current = (.ok outcome, session)) :
    settings.placement.Bounds outcome.spec outcome.generation := by
  obtain ⟨body, _, _, declares⟩ := Workspace.declareDocument_ok run
  have shapes := Workspace.generation_shaped _ [.load _] [] declares
  apply Placement.bounds_of_titles
  intro title isTitle further
  obtain ⟨expansion, _, _, same⟩ := shapes.others title isTitle further
  exact ⟨_, same⟩

namespace LeavingNames
open SameName (mapping single object info)

/-! A type with a name of its own, and a type of another document that it refers to. -/

def library (name : String) : Library where
  documents := [
    (Path.ofString "/spec.yaml", .ok (mapping [info, ("types", mapping [
      (name, object [("owner", single "$ref" "people.yaml#/types/Person")])])])),
    (Path.ofString "/people.yaml", .ok (mapping [("types", mapping [("Person", object [])])]))]

def settings : Settings := MeetingStems.settings .files .folderWithFiles ".ts"

def templates : TemplateSet := ⟨[.text "type"], [.text "exports"], [.text "types"], none, none⟩

def run (name : String) : Except Failure Outcome × Session :=
  settings.declare templates (library name) (Path.ofString "/")

theorem returning_name_stays : ∃ outcome session, run "cats/../Pet" = (.ok outcome, session) ∧
    ∀ path ∈ (settings.placement.layout outcome.generation).paths,
      path.LiesBelow settings.placement.directory := by
  have given : ((run "cats/../Pet").1.toOption.map fun outcome =>
      (settings.placement.typeStems outcome.generation.types ++
        settings.placement.folderStems outcome.generation,
          outcome.spec.groups.elim [] Table.keys)) =
      some (["cats/../Pet", "Person"], []) := by decide +kernel
  rcases done : run "cats/../Pet" with ⟨result, session⟩
  rw [done] at given
  cases result with
  | error failure => cases given
  | ok outcome =>
    obtain ⟨types, titles⟩ := Prod.mk.inj (Option.some.inj given)
    have stays : settings.placement.NamesStay outcome.spec outcome.generation :=
      { extension := by decide +kernel
        exporter := by decide +kernel
        types := by
          rw [types]
          decide +kernel
        titles := by
          rw [titles]
          decide }
    exact ⟨outcome, session, rfl, (Settings.outputs_bounded done).inside stays⟩

/-- The file of a type called `../Pet` lies beside the directory of the output. -/
theorem parent_name_leaves_the_directory : ∃ outcome session,
    run "../Pet" = (.ok outcome, session) ∧
      ∃ path ∈ (settings.placement.layout outcome.generation).paths,
        ¬path.LiesBelow settings.placement.directory := by
  have planned : ((run "../Pet").1.toOption.map fun outcome =>
      (settings.placement.layout outcome.generation).paths) =
      some (["out/../Pet.ts", "out/People/Person.ts", "out/index.ts", "out/People/index.ts"].map
        Path.ofString) := by decide +kernel
  rcases done : run "../Pet" with ⟨result, session⟩
  rw [done] at planned
  cases result with
  | error failure => cases planned
  | ok outcome =>
    have paths : (settings.placement.layout outcome.generation).paths = _ :=
      Option.some.inj planned
    refine ⟨outcome, session, rfl, Path.ofString "out/../Pet.ts", ?_, ?_⟩
    · rw [paths]
      exact List.mem_cons_self
    · rintro ⟨names, -, same⟩
      have own : (Path.ofString "out/../Pet.ts").normalize.components = [.name "Pet.ts"] := by
        decide +kernel
      have directory : settings.placement.directory.normalize.components = [.name "out"] := by
        decide +kernel
      rw [own, directory] at same
      exact absurd (List.cons.inj same).1 (by decide)

end LeavingNames

end Typewright
