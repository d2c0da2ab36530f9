import Mathlib.Data.List.DropRight
import Mathlib.Data.List.Infix
import Typewright.Proofs.NormalPath

/-!
Joined paths. A relative path leads on from the place of the directory that it is seen from, and the
directory of a joined name is where the name was joined.
-/
namespace Typewright

namespace Text

theorem glue_cons {c : Char} {first : String} {parts : List String} (more : parts ≠ []) :
    glue c (first :: parts) = first ++ String.singleton c ++ glue c parts := by
  have others : parts.map String.toList ≠ [] := by simpa using more
  unfold glue
  rw [List.map_cons, List.intercalate_cons_of_ne_nil others]
  apply String.toList_inj.mp
  simp

theorem glue_singleton (c : Char) (part : String) : glue c [part] = part := by
  simp [glue]

theorem pieces_glue {c : Char} {parts : List String} (more : parts ≠ [])
    (free : ∀ part ∈ parts, c ∉ part.toList) : pieces c (glue c parts) = parts := by
  have lists : ([c].intercalate (parts.map String.toList)).splitOn c = parts.map String.toList := by
    apply List.splitOn_intercalate
    · intro list member
      obtain ⟨part, isIn, rfl⟩ := List.mem_map.mp member
      exact free part isIn
    · simpa using more
  unfold pieces glue
  rw [String.toList_ofList, lists, List.map_map]
  have same : String.ofList ∘ String.toList = id := by
    funext part
    simp
  rw [same, List.map_id]

theorem pieces_append {c : Char} {first more : String} (free : c ∉ first.toList) :
    pieces c (first ++ more) = (pieces c more).modifyHead (first ++ ·) := by
  have cut (chars : List Char) (free : c ∉ chars) : (chars ++ more.toList).splitOn c =
      (more.toList.splitOn c).modifyHead (chars ++ ·) := by
    induction chars with
    | nil =>
      rw [List.nil_append]
      cases more.toList.splitOn c <;> rfl
    | cons char rest ih =>
      obtain ⟨other, later⟩ := not_or.mp (mt List.mem_cons.mpr free)
      rw [List.cons_append, List.splitOn_cons_eq_if_modifyHead,
        if_neg (by simpa using Ne.symm other), ih later, List.modifyHead_modifyHead]
      rfl
  unfold pieces
  rw [String.toList_append, cut first.toList free]
  cases more.toList.splitOn c with
  | nil => rfl
  | cons head tail => simp [String.ofList_append]

theorem glue_append (c : Char) (parts : List String) (last more : String) :
    glue c (parts ++ [last]) ++ more = glue c (parts ++ [last ++ more]) := by
  induction parts with
  | nil => simp only [List.nil_append, glue_singleton]
  | cons first rest ih =>
    have filled (text : String) : rest ++ [text] ≠ [] := by simp
    rw [List.cons_append, List.cons_append, glue_cons (filled _), glue_cons (filled _),
      String.append_assoc, ih]

end Text

namespace Path

/-! Components of a join -/

theorem components_append {first more : List String} (filled : first ≠ [])
    (notEmpty : first ≠ [""]) : (⟨first ++ more⟩ : Path).components =
      (⟨first⟩ : Path).components ++ more.filterMap Component.ofSegment? := by
  match first with
  | [] => exact absurd rfl filled
  | [head] =>
    have named : head ≠ "" := by
      rintro rfl
      exact notEmpty rfl
    by_cases here : head = "."
    · subst here
      simp [components]
    · rw [List.singleton_append, components_relative named here, components_relative named here,
        ← List.filterMap_append]
      rfl
  | head :: second :: rest =>
    by_cases rooted : head = ""
    · subst rooted
      simp [components, ← List.filterMap_append]
    · by_cases here : head = "."
      · subst here
        simp [components, ← List.filterMap_append]
      · rw [List.cons_append, components_relative rooted here, components_relative rooted here,
          ← List.filterMap_append]
        rfl

structure IsRelative (q : Path) : Prop where
  relative : q.isAbsolute = false
  filled : q.segments ≠ []

theorem components_join {p q : Path} (notEmpty : p.isEmpty = false) (relative : q.IsRelative) :
    (p.join q).components = p.components ++ q.segments.filterMap Component.ofSegment? := by
  obtain ⟨segments⟩ := p
  have filled : segments ≠ [] := by
    rintro rfl
    simp [isEmpty] at notEmpty
  have named : segments ≠ [""] := by
    rintro rfl
    simp [isEmpty] at notEmpty
  unfold join
  rw [relative.relative, notEmpty]
  simp only [Bool.or_self, Bool.false_eq_true, if_false]
  split
  · next trailing =>
    -- the slash at the end is written as an empty last segment, which the joined path replaces
    obtain ⟨body, rfl⟩ := List.getLast?_eq_some_iff.mp trailing
    rw [List.dropLast_concat]
    by_cases rooted : body = [""]
    · subst rooted
      cases more : q.segments with
      | nil => exact absurd more relative.filled
      | cons head rest => rfl
    · have filledBody : body ≠ [] := by
        rintro rfl
        exact named rfl
      rw [components_append filledBody rooted, components_append filledBody rooted]
      simp [Component.ofSegment?]
  · exact components_append filled named

theorem components_of_isEmpty {p : Path} (empty : p.isEmpty = true) : p.components = [] := by
  obtain ⟨segments⟩ := p
  have either : segments = [] ∨ segments = [""] := by simpa [isEmpty] using empty
  rcases either with rfl | rfl
  · rfl
  · rfl

theorem components_join_plain (p : Path) {first : String} {rest : List String}
    (plain : IsPlain first) : (p.join ⟨first :: rest⟩).components =
      p.components ++ .name first :: rest.filterMap Component.ofSegment? := by
  obtain ⟨named, notHere⟩ := plain_ne_empty plain
  have relative : (⟨first :: rest⟩ : Path).IsRelative := by
    refine ⟨?_, List.cons_ne_nil _ _⟩
    unfold isAbsolute
    split
    · next rooted =>
      cases rooted
      exact absurd rfl named
    · rfl
  have own : (first :: rest).filterMap Component.ofSegment? =
      .name first :: rest.filterMap Component.ofSegment? :=
    List.filterMap_cons_some plain
  cases empty : p.isEmpty with
  | true =>
    have same : p.join ⟨first :: rest⟩ = ⟨first :: rest⟩ := by simp [join, empty]
    rw [same, components_relative named notHere, own, components_of_isEmpty empty]
    rfl
  | false => rw [components_join empty relative, own]

theorem place_of_isEmpty {p : Path} (empty : p.isEmpty = true) : p.place = Place.start := by
  rw [place, components_of_isEmpty empty]
  rfl

/-- A leading `.` is a component, but leads nowhere. -/
theorem foldl_step_relative {q : Path} (relative : q.IsRelative) (place : Place) :
    q.components.foldl Place.step place =
      (q.segments.filterMap Component.ofSegment?).foldl Place.step place := by
  obtain ⟨segments⟩ := q
  unfold components
  split
  · next rooted =>
    cases rooted
    exact absurd relative.relative (by simp [isAbsolute])
  · next here =>
    cases here
    rfl
  · rfl

theorem place_relative {q : Path} (relative : q.IsRelative) :
    q.place = (q.segments.filterMap Component.ofSegment?).foldl Place.step Place.start :=
  foldl_step_relative relative Place.start

theorem place_join (p : Path) {q : Path} (relative : q.IsRelative) :
    (p.join q).place = (q.segments.filterMap Component.ofSegment?).foldl Place.step p.place := by
  cases empty : p.isEmpty with
  | true =>
    have same : p.join q = q := by simp [join, empty]
    rw [same, place_of_isEmpty empty, place_relative relative]
  | false =>
    show (p.join q).components.foldl Place.step Place.start = _
    rw [components_join empty relative, List.foldl_append]
    rfl

/-! The directory of a path -/

theorem trimEnd_eq (segments : List String) :
    trimEnd segments = segments.rdropWhile fun s => s == "" || s == "." := rfl

theorem trimEnd_filterMap (segments : List String) :
    (trimEnd segments).filterMap Component.ofSegment? =
      segments.filterMap Component.ofSegment? := by
  induction segments using List.reverseRecOn with
  | nil => rfl
  | append_singleton body last ih =>
    rw [trimEnd_eq, List.rdropWhile_concat]
    by_cases silent : last = "" ∨ last = "."
    · have nothing : Component.ofSegment? last = none := by simp [Component.ofSegment?, silent]
      rw [if_pos (by simpa using silent), ← trimEnd_eq, ih]
      simp [nothing]
    · rw [if_neg (by simpa using silent)]

theorem trimEnd_last {segments : List String} (filled : trimEnd segments ≠ []) :
    ∃ component, Component.ofSegment? ((trimEnd segments).getLast filled) = some component := by
  have loud : ¬((trimEnd segments).getLast filled = "" ∨
      (trimEnd segments).getLast filled = ".") := by
    have stops := List.rdropWhile_last_not (fun s => s == "" || s == ".") segments filled
    rw [Bool.or_eq_true, beq_iff_eq, beq_iff_eq] at stops
    exact stops
  unfold Component.ofSegment?
  rw [if_neg loud]
  split
  · exact ⟨.up, rfl⟩
  · exact ⟨_, rfl⟩

theorem trimEnd_dropLast {segments : List String} {before : List Component} {last : Component}
    (named : segments.filterMap Component.ofSegment? = before ++ [last]) :
    trimEnd segments ≠ [] ∧
      (trimEnd (trimEnd segments).dropLast).filterMap Component.ofSegment? = before := by
  have trimmed := (trimEnd_filterMap segments).trans named
  have filled : trimEnd segments ≠ [] := by
    intro none
    rw [none] at trimmed
    simp at trimmed
  obtain ⟨component, speaks⟩ := trimEnd_last filled
  refine ⟨filled, ?_⟩
  rw [← List.dropLast_append_getLast filled, List.filterMap_append,
    List.filterMap_cons_some speaks, List.filterMap_nil] at trimmed
  rw [trimEnd_filterMap]
  exact (List.append_inj' trimmed rfl).1

theorem components_shorter {segments shorter : List String} (beginning : shorter <+: segments)
    (notRooted : ∀ second rest, segments ≠ "" :: second :: rest)
    (notHere : ∀ rest, segments ≠ "." :: rest) (speaks : trimEnd segments ≠ []) :
    (⟨shorter⟩ : Path).components = shorter.filterMap Component.ofSegment? := by
  cases shorter with
  | nil => rfl
  | cons head rest =>
    obtain ⟨more, rfl⟩ := beginning
    apply components_relative
    · rintro rfl
      cases after : rest ++ more with
      | nil =>
        rw [List.cons_append, after] at speaks
        exact speaks rfl
      | cons second others =>
        rw [List.cons_append, after] at notRooted
        exact notRooted second others rfl
    · rintro rfl
      exact notHere (rest ++ more) rfl

theorem components_directory {p : Path} {before : List Component} {text : String}
    (named : p.components = before ++ [.name text]) : p.directory.components = before := by
  obtain ⟨segments⟩ := p
  unfold components at named
  unfold directory parent?
  dsimp only at named ⊢
  -- the path starts at the root, with a dot, or with neither
  split at named
  · next second rest =>
    cases before with
    | nil => cases named
    | cons head before =>
      obtain ⟨rfl, inner⟩ := List.cons.inj named
      obtain ⟨filled, shorter⟩ := trimEnd_dropLast inner
      split
      · next none => exact absurd none filled
      · split
        · next none =>
          rw [none] at shorter
          rw [← shorter]
          rfl
        · next more =>
          cases left : trimEnd (trimEnd (second :: rest)).dropLast with
          | nil => exact absurd left more
          | cons first others =>
            rw [← shorter, left]
            rfl
  · next rest =>
    cases before with
    | nil => cases named
    | cons head before =>
      obtain ⟨rfl, inner⟩ := List.cons.inj named
      obtain ⟨filled, shorter⟩ := trimEnd_dropLast inner
      split
      · next none => exact absurd none filled
      · rw [← shorter]
        rfl
  · next notRooted notHere =>
    obtain ⟨filled, shorter⟩ := trimEnd_dropLast named
    have beginning : trimEnd (trimEnd segments).dropLast <+: segments :=
      (List.rdropWhile_prefix _ _).trans
        ((List.dropLast_prefix _).trans (List.rdropWhile_prefix _ _))
    have components := components_shorter beginning notRooted notHere filled
    split
    · next none => exact absurd none filled
    · split
      · next none =>
        rw [none] at shorter
        rw [← shorter]
        rfl
      · exact components.trans shorter

/-! Names joined to a directory -/

/-- A segment that is a component of its own name and is not cut. -/
structure IsOrdinary (name : String) : Prop where
  plain : IsPlain name
  whole : '/' ∉ name.toList

instance (segment : String) : Decidable (IsPlain segment) := inferInstanceAs (Decidable (_ = _))

instance (name : String) : Decidable (IsOrdinary name) :=
  decidable_of_iff (IsPlain name ∧ '/' ∉ name.toList)
    ⟨fun ⟨plain, whole⟩ => ⟨plain, whole⟩, fun ordinary => ⟨ordinary.plain, ordinary.whole⟩⟩

theorem dots_of_part {name : String} (part : name.toList.Sublist ['.', '.']) :
    name = "" ∨ name = "." ∨ name = ".." := by
  have named (text : String) (same : name.toList = text.toList) : name = text :=
    String.toList_inj.mp same
  rcases List.sublist_cons_iff.mp part with later | ⟨rest, same, later⟩
  · rcases List.sublist_cons_iff.mp later with none | ⟨last, same, done⟩
    · exact .inl (named "" (List.sublist_nil.mp none))
    · rw [List.sublist_nil.mp done] at same
      exact .inr (.inl (named "." same))
  · rcases List.sublist_cons_iff.mp later with none | ⟨last, rfl, done⟩
    · rw [List.sublist_nil.mp none] at same
      exact .inr (.inl (named "." same))
    · rw [List.sublist_nil.mp done] at same
      exact .inr (.inr (named ".." same))

theorem plain_of_part {part whole : String} (plain : IsPlain part)
    (inside : part.toList.Sublist whole.toList) : IsPlain whole := by
  have notDots : ¬(part = "" ∨ part = "." ∨ part = "..") := by
    rintro (rfl | rfl | rfl) <;> simp [IsPlain, Component.ofSegment?] at plain
  have apart (text : String) (short : text.toList.Sublist ['.', '.']) : whole ≠ text := by
    rintro rfl
    exact notDots (dots_of_part (inside.trans short))
  unfold IsPlain Component.ofSegment?
  rw [if_neg (not_or.mpr ⟨apart "" (by decide), apart "." (by decide)⟩),
    if_neg (apart ".." (by decide))]

theorem IsPlain.append {name : String} (plain : IsPlain name) (more : String) :
    IsPlain (name ++ more) := by
  apply plain_of_part plain
  rw [String.toList_append]
  exact List.sublist_append_left _ _

theorem IsPlain.preceded {more : String} (plain : IsPlain more) (first : String) :
    IsPlain (first ++ more) := by
  apply plain_of_part plain
  rw [String.toList_append]
  exact List.sublist_append_right _ _

theorem IsOrdinary.append {name more : String} (ordinary : IsOrdinary name)
    (whole : '/' ∉ more.toList) : IsOrdinary (name ++ more) := by
  refine ⟨ordinary.plain.append more, ?_⟩
  rw [String.toList_append, List.mem_append]
  exact not_or.mpr ⟨ordinary.whole, whole⟩

theorem ofString_whole {name : String} (whole : '/' ∉ name.toList) :
    ofString name = ⟨[name]⟩ := by
  have cut : Text.pieces '/' (Text.glue '/' [name]) = [name] := by
    apply Text.pieces_glue
    · simp
    · simpa using whole
  rw [Text.glue_singleton] at cut
  rw [ofString, cut]

theorem ofString_ordinary {name : String} (ordinary : IsOrdinary name) :
    ofString name = ⟨[name]⟩ := ofString_whole ordinary.whole

theorem relative_ordinary {name : String} (ordinary : IsOrdinary name) :
    (ofString name).IsRelative := by
  rw [ofString_ordinary ordinary]
  exact ⟨by simp [isAbsolute], by simp⟩

namespace Place

def descend (place : Place) (names : List String) : Place :=
  { place with names := place.names ++ names }

theorem descend_nil (place : Place) : place.descend [] = place := by simp [descend]

theorem descend_append (place : Place) (names more : List String) :
    place.descend (names ++ more) = (place.descend names).descend more := by
  simp [descend]

theorem foldl_step_names (place : Place) (names : List String) :
    (names.map .name).foldl step place = place.descend names := by
  induction names generalizing place with
  | nil => exact place.descend_nil.symm
  | cons first rest ih =>
    rw [List.map_cons, List.foldl_cons, ih]
    simp [step, descend]

theorem foldl_step_ups (place : Place) (names : List String) :
    (List.replicate names.length .up).foldl step (place.descend names) = place := by
  induction names using List.reverseRecOn with
  | nil => exact place.descend_nil
  | append_singleton earlier last ih =>
    have back : (place.descend (earlier ++ [last])).step .up = place.descend earlier := by
      simp [step, descend, ← List.append_assoc]
    rw [List.length_append, List.length_singleton, List.replicate_succ, List.foldl_cons, back, ih]

theorem components_descend (place : Place) (names : List String) :
    (place.descend names).components = place.components ++ names.map .name := by
  unfold components descend
  rw [List.map_append, ← List.append_assoc]

end Place

theorem not_root_of_segment {segment : String} :
    Component.ofSegment? segment ≠ some .root := by
  unfold Component.ofSegment?
  split
  · simp
  · split <;> simp

theorem root_not_in_segments (segments : List String) :
    .root ∉ segments.filterMap Component.ofSegment? := by
  intro member
  obtain ⟨segment, _, isRoot⟩ := List.mem_filterMap.mp member
  exact not_root_of_segment isRoot

/-- Without a root, components lead from any place as they do from the start: first so many steps
up, then down. -/
theorem foldl_step_from (place : Place) {components : List Component}
    (notRoot : .root ∉ components) :
    (components.foldl Place.step Place.start).rooted = false ∧
      components.foldl Place.step place =
        ((List.replicate (components.foldl Place.step Place.start).ups .up).foldl Place.step
          place).descend (components.foldl Place.step Place.start).names := by
  induction components using List.reverseRecOn with
  | nil => exact ⟨rfl, (place.descend_nil).symm⟩
  | append_singleton before last ih =>
    obtain ⟨unrooted, same⟩ := ih fun member => notRoot (List.mem_append_left _ member)
    rw [List.foldl_concat, List.foldl_concat, same]
    generalize before.foldl Place.step Place.start = reached at unrooted
    obtain ⟨rooted, ups, names⟩ := reached
    cases last with
    | root => exact absurd (List.mem_append_right before List.mem_cons_self) notRoot
    | here => exact ⟨unrooted, rfl⟩
    | name text => exact ⟨unrooted, by simp [Place.step, Place.descend]⟩
    | up =>
      rcases List.eq_nil_or_concat names with rfl | ⟨some, last, rfl⟩
      · have unrooted : rooted = false := unrooted
        subst unrooted
        simp [Place.step, Place.descend_nil, List.replicate_succ']
      · exact ⟨by simpa [Place.step] using unrooted, by
          simp [Place.step, Place.descend, -List.append_assoc]⟩

theorem place_join_relative (p : Path) {q : Path} (relative : q.IsRelative) :
    (p.join q).place =
      ((List.replicate q.place.ups Component.up).foldl Place.step p.place).descend
        q.place.names := by
  have leads := (foldl_step_from p.place (root_not_in_segments q.segments)).2
  rw [place_join p relative, leads, ← place_relative relative]

theorem place_join_name (p : Path) {name : String} (ordinary : IsOrdinary name) :
    (p.join (ofString name)).place = p.place.descend [name] := by
  rw [place_join p (relative_ordinary ordinary), ofString_ordinary ordinary]
  have single : [name].filterMap Component.ofSegment? = [.name name] := by
    simp [show Component.ofSegment? name = some (.name name) from ordinary.plain]
  rw [single]
  rfl

theorem place_directory_join (p : Path) {name : String} (ordinary : IsOrdinary name) :
    (p.join (ofString name)).directory.place = p.place := by
  have single : [name].filterMap Component.ofSegment? = [.name name] := by
    simp [show Component.ofSegment? name = some (.name name) from ordinary.plain]
  cases empty : p.isEmpty with
  | true =>
    have same : p.join (ofString name) = ⟨[name]⟩ := by
      rw [ofString_ordinary ordinary]
      simp [join, empty]
    obtain ⟨named, notHere⟩ := plain_ne_empty ordinary.plain
    have components : (⟨[name]⟩ : Path).components = [] ++ [.name name] := by
      rw [components_relative named notHere, single]
      rfl
    rw [same, place_of_isEmpty empty, place, components_directory components]
    rfl
  | false =>
    have components := components_join empty (relative_ordinary ordinary)
    rw [ofString_ordinary ordinary, single] at components
    rw [ofString_ordinary ordinary, place, components_directory components]
    rfl

theorem normalize_of_place {p q : Path} (same : p.place = q.place) : p.normalize = q.normalize :=
  congrArg Place.toPath same

end Path

end Typewright
