import Typewright.Proofs.JoinedPath

/-!
Specifiers. A module in one directory imports a module in another by what their paths do not have in
common: so many steps up, and then down by names. Read as a path from the first directory, the
specifier leads to the other module.
-/
namespace Typewright.Path

section Apart
variable {α β : Type} [DecidableEq α] [DecidableEq β]

theorem apart_append (common as bs : List α) :
    apart (common ++ as) (common ++ bs) = apart as bs := by
  induction common with
  | nil => rfl
  | cons first rest ih => simpa [apart] using ih

theorem apart_map {f : α → β} (injective : Function.Injective f) (as bs : List α) :
    apart (as.map f) (bs.map f) = ((apart as bs).1.map f, (apart as bs).2.map f) := by
  induction as generalizing bs with
  | nil => simp [apart]
  | cons a as ih =>
    cases bs with
    | nil => simp [apart]
    | cons b bs =>
      by_cases same : a = b
      · subst same
        simpa [apart] using ih bs
      · have images : f a ≠ f b := fun equal => same (injective equal)
        simp [apart, same, images]

theorem apart_common (as bs : List α) :
    ∃ common, as = common ++ (apart as bs).1 ∧ bs = common ++ (apart as bs).2 := by
  induction as generalizing bs with
  | nil => exact ⟨[], by simp [apart]⟩
  | cons a as ih =>
    cases bs with
    | nil => exact ⟨[], by simp [apart]⟩
    | cons b bs =>
      by_cases same : a = b
      · subst same
        obtain ⟨common, first, second⟩ := ih bs
        refine ⟨a :: common, ?_⟩
        simpa [apart] using ⟨first, second⟩
      · exact ⟨[], by simp [apart, same]⟩

end Apart

def stepsBetween (source target : List String) : List String :=
  List.replicate (apart source target).1.length ".." ++ (apart source target).2

theorem specifier_congr {source other : Path} (same : source.place = other.place) (target : Path) :
    source.specifier target = other.specifier target := by
  unfold specifier
  rw [same]

theorem specifier_below {source target : Path} {base : Place} {back ahead : List String}
    (isBack : source.place = base.descend back) (isAhead : target.place = base.descend ahead) :
    source.specifier target =
      let text := Text.glue '/' (stepsBetween back ahead)
      if Text.startsWith text ".." then text else "./" ++ text := by
  have injective : Function.Injective Component.name := fun a b same => by
    injection same
  unfold specifier
  rw [isBack, isAhead, Place.components_descend, Place.components_descend, apart_append,
    apart_map injective]
  dsimp only
  have texts : (apart back ahead).2.map (Component.text ∘ Component.name) =
      (apart back ahead).2 := by
    rw [show Component.text ∘ Component.name = id from rfl, List.map_id]
  rw [List.length_map, List.map_map, texts]
  rfl

theorem specifier_here {source target : Path} {base : Place} {names : List String}
    (isBack : source.place = base.descend names) (isAhead : target.place = base.descend names) :
    source.specifier target = "./" := by
  have none : stepsBetween names names = [] := by
    have nothing : apart names names = ([], []) := by simpa [apart] using apart_append names [] []
    rw [stepsBetween, nothing]
    rfl
  rw [specifier_below isBack isAhead, none]
  rfl

theorem specifier_glued {source target : Path} {base : Place} {back ahead : List String}
    (isBack : source.place = base.descend back) (isAhead : target.place = base.descend ahead)
    (filled : stepsBetween back ahead ≠ []) :
    ∃ lead, (lead = [] ∨ lead = ["."]) ∧
      source.specifier target = Text.glue '/' (lead ++ stepsBetween back ahead) := by
  rw [specifier_below isBack isAhead]
  dsimp only
  split
  · exact ⟨[], .inl rfl, rfl⟩
  · refine ⟨["."], .inr rfl, ?_⟩
    rw [List.singleton_append, Text.glue_cons filled]
    rfl

theorem relative_of_named {segments : List String} (filled : segments ≠ [])
    (named : ∀ segment ∈ segments, segment ≠ "") : (⟨segments⟩ : Path).IsRelative := by
  constructor
  · cases segments with
    | nil => exact absurd rfl filled
    | cons head rest =>
      have notEmpty := named head List.mem_cons_self
      unfold isAbsolute
      split
      · next same =>
        cases same
        exact absurd rfl notEmpty
      · rfl
  · exact filled

/-- So many steps up, and then down by ordinary names. -/
structure IsClimb (segments : List String) (ups : Nat) (names : List String) : Prop where
  shape : ∃ lead, (lead = [] ∨ lead = ["."]) ∧ segments = lead ++ List.replicate ups ".." ++ names
  filled : names ≠ []
  ordinary : ∀ name ∈ names, IsOrdinary name

theorem IsClimb.segment {segments names : List String} {ups : Nat}
    (climb : IsClimb segments ups names) :
    ∀ segment ∈ segments, segment ≠ "" ∧ '/' ∉ segment.toList := by
  obtain ⟨lead, either, rfl⟩ := climb.shape
  intro segment member
  rcases List.mem_append.mp member with before | below
  · rcases List.mem_append.mp before with first | up
    · have here : segment = "." := by
        rcases either with rfl | rfl
        · cases first
        · exact List.mem_singleton.mp first
      subst here
      decide
    · rw [List.eq_of_mem_replicate up]
      decide
  · have ordinary := climb.ordinary segment below
    exact ⟨(plain_ne_empty ordinary.plain).1, ordinary.whole⟩

theorem IsClimb.ofString {segments names : List String} {ups : Nat}
    (climb : IsClimb segments ups names) : ofString (Text.glue '/' segments) = ⟨segments⟩ := by
  have filled : segments ≠ [] := by
    obtain ⟨lead, _, rfl⟩ := climb.shape
    simp [climb.filled]
  unfold Path.ofString
  rw [Text.pieces_glue filled fun segment member => (climb.segment segment member).2]

theorem IsClimb.place_join {segments names left : List String} {p : Path} {base : Place}
    (climb : IsClimb segments left.length names) (below : p.place = base.descend left) :
    (p.join ⟨segments⟩).place = base.descend names := by
  have filled : segments ≠ [] := by
    obtain ⟨lead, _, rfl⟩ := climb.shape
    simp [climb.filled]
  have relative := relative_of_named filled fun segment member => (climb.segment segment member).1
  rw [Path.place_join p relative]
  obtain ⟨lead, either, rfl⟩ := climb.shape
  have silent : lead.filterMap Component.ofSegment? = [] := by
    rcases either with rfl | rfl <;> simp [Component.ofSegment?]
  have ups : (List.replicate left.length "..").filterMap Component.ofSegment? =
      List.replicate left.length .up := by
    rw [List.filterMap_replicate]
    rfl
  have downs : names.filterMap Component.ofSegment? = names.map .name := by
    have plain := fun name member => (climb.ordinary name member).plain
    exact (List.filterMap_congr plain).trans (by simp)
  rw [List.filterMap_append, List.filterMap_append, silent, ups, downs, List.nil_append,
    List.foldl_append, below, Place.foldl_step_ups, Place.foldl_step_names]

/-- A specifier leads from the directory that it was made for to the module, and with the extension
of a file behind it to the file beside the module. -/
theorem specifier_leads {source target : Path} {base : Place} {back down : List String}
    {last more : String} (isBack : source.place = base.descend back)
    (isAhead : target.place = base.descend (down ++ [last]))
    (ordinary : ∀ name ∈ down ++ [last], IsOrdinary name) (whole : '/' ∉ more.toList)
    (filled : (apart back (down ++ [last])).2 ≠ []) :
    (source.join (ofString (source.specifier target ++ more))).place =
      base.descend (down ++ [last ++ more]) := by
  -- `back` and the target go on from `common`: the steps undo the one and follow the other
  obtain ⟨common, backSplit, aheadSplit⟩ := apart_common back (down ++ [last])
  obtain ⟨rest, isRest⟩ : ∃ rest, (apart back (down ++ [last])).2 = rest ++ [last] := by
    have ends := congrArg List.getLast? aheadSplit
    rw [List.getLast?_concat, List.getLast?_append_of_ne_nil _ filled] at ends
    exact List.getLast?_eq_some_iff.mp ends.symm
  have isDown : down = common ++ rest := by
    rw [isRest, ← List.append_assoc] at aheadSplit
    exact (List.append_inj' aheadSplit rfl).1
  have steps : stepsBetween back (down ++ [last]) =
      List.replicate (apart back (down ++ [last])).1.length ".." ++ (rest ++ [last]) := by
    rw [stepsBetween, isRest]
  obtain ⟨lead, either, glued⟩ := specifier_glued isBack isAhead (by simp [steps])
  have climb : IsClimb
      (lead ++ List.replicate (apart back (down ++ [last])).1.length ".." ++ (rest ++ [last ++ more]))
      (apart back (down ++ [last])).1.length (rest ++ [last ++ more]) := by
    refine ⟨⟨lead, either, rfl⟩, by simp, ?_⟩
    intro name member
    rcases List.mem_append.mp member with above | file
    · exact ordinary name (by simp [isDown, above])
    · rw [List.mem_singleton.mp file]
      exact (ordinary last (by simp)).append whole
  have text : source.specifier target ++ more = Text.glue '/'
      (lead ++ List.replicate (apart back (down ++ [last])).1.length ".." ++
        (rest ++ [last ++ more])) := by
    rw [glued, steps, ← List.append_assoc, ← List.append_assoc, Text.glue_append,
      List.append_assoc, List.append_assoc]
  have below : source.place = (base.descend common).descend (apart back (down ++ [last])).1 := by
    rw [← Place.descend_append, ← backSplit, isBack]
  rw [text, climb.ofString, climb.place_join below, ← Place.descend_append, isDown,
    List.append_assoc]

theorem startsWith_iff {text start : String} :
    Text.startsWith text start = true ↔ start.toList <+: text.toList :=
  List.isPrefixOf_iff_prefix

theorem not_dots_slash {chars more : List Char} (notDots : ¬['.', '.'] <+: chars) :
    ¬['.', '.'] <+: chars ++ '/' :: more := by
  intro dots
  match chars with
  | [] => simp at dots
  | [c] => simp at dots
  | a :: b :: rest =>
    apply notDots
    simpa using dots

theorem glue_notDots {names : List String}
    (notDots : ∀ name ∈ names, Text.startsWith name ".." = false) :
    Text.startsWith (Text.glue '/' names) ".." = false := by
  cases names with
  | nil => rfl
  | cons first rest =>
    have own : ¬['.', '.'] <+: first.toList := by
      intro dots
      have starts : Text.startsWith first ".." = true := startsWith_iff.mpr dots
      rw [notDots first List.mem_cons_self] at starts
      cases starts
    rw [Bool.eq_false_iff, ne_eq, startsWith_iff]
    cases rest with
    | nil =>
      rw [Text.glue_singleton]
      exact own
    | cons second others =>
      rw [Text.glue_cons (List.cons_ne_nil second others), String.toList_append,
        String.toList_append, List.append_assoc]
      exact not_dots_slash own

theorem specifier_starts {source target : Path} {base : Place} {back ahead : List String}
    (isBack : source.place = base.descend back) (isAhead : target.place = base.descend ahead)
    (notDots : ∀ name ∈ ahead, Text.startsWith name ".." = false)
    (filled : (apart back ahead).2 = [] → (apart back ahead).1 = []) :
    Text.startsWith (source.specifier target) "./" = true ∨
      Text.startsWith (source.specifier target) "../" = true := by
  rw [specifier_below isBack isAhead]
  dsimp only
  split
  · next dots =>
    refine .inr ?_
    obtain ⟨common, _, aheadSplit⟩ := apart_common back ahead
    unfold stepsBetween at dots ⊢
    cases up : (apart back ahead).1 with
    | nil =>
      have none : Text.startsWith (Text.glue '/' (apart back ahead).2) ".." = false := by
        apply glue_notDots
        intro name member
        apply notDots
        rw [aheadSplit]
        exact List.mem_append_right _ member
      rw [up] at dots
      exact absurd dots (by simpa using none)
    | cons first others =>
      have more : List.replicate others.length ".." ++ (apart back ahead).2 ≠ [] := by
        intro none
        have both := List.append_eq_nil_iff.mp none
        exact absurd (up.symm.trans (filled both.2)) (List.cons_ne_nil first others)
      rw [List.length_cons, List.replicate_succ, List.cons_append, Text.glue_cons more,
        startsWith_iff, String.toList_append]
      exact List.prefix_append _ _
  · refine .inl ?_
    rw [startsWith_iff, String.toList_append]
    exact List.prefix_append _ _

end Typewright.Path
