import Typewright.Proofs.LexicalWalk
import Typewright.Proofs.Specifier

/-!
Specifiers and joins. Joined to the directory that it was made for, a specifier leads to its target
again, wherever steps up and down can lead there at all: both paths are absolute, or both are
relative and the target lies as far up at least as the directory. Only the normal forms of the two
paths matter.
-/
namespace Typewright.Path

def leadingUps (p : Path) : Nat := (p.normalize.components.takeWhile (· == .up)).length

/-- The target can be found from the directory `source` by the text of both paths. -/
inductive Reaches (source target : Path) : Prop where
  | absolute (rooted : source.isAbsolute = true) (targeted : target.isAbsolute = true)
  | relative (unrooted : source.isAbsolute = false) (untargeted : target.isAbsolute = false)
    (above : source.leadingUps ≤ target.leadingUps)

theorem leadingUps_relative {p : Path} (relative : p.isAbsolute = false) :
    p.leadingUps = p.place.ups := by
  have unrooted : p.place.rooted = false := (place_rooted p).trans relative
  have none : (p.place.names.map Component.name).takeWhile (· == .up) = [] := by
    cases p.place.names <;> simp
  unfold leadingUps
  rw [normalize_components, Place.components, unrooted, if_neg Bool.false_ne_true, List.nil_append,
    List.takeWhile_append_of_pos (by simp), none]
  simp

def Component.IsStep (component : Component) : Prop :=
  component = .up ∨ ∃ name, component = .name name ∧ IsOrdinary name

theorem step_segment {component : Component} (step : component.IsStep) :
    Component.ofSegment? component.text = some component ∧ '/' ∉ component.text.toList := by
  rcases step with rfl | ⟨name, rfl, ordinary⟩
  · decide
  · exact ⟨ordinary.plain, ordinary.whole⟩

theorem place_steps {text : String} {component : Component}
    (member : component ∈ (ofString text).place.components) (notRoot : component ≠ .root) :
    component.IsStep := by
  unfold Place.components at member
  rcases List.mem_append.mp member with before | below
  · rcases List.mem_append.mp before with root | up
    · split at root
      · exact absurd (List.mem_singleton.mp root) notRoot
      · cases root
    · exact .inl (List.eq_of_mem_replicate up)
  · obtain ⟨name, isIn, rfl⟩ := List.mem_map.mp below
    exact .inr ⟨name, rfl, (place_proper _).1 name isIn, place_whole text name isIn⟩

/-! How a specifier is read -/

section Reading
variable {source target : Path} {back ahead : List Component}

theorem specifier_components
    (split : apart source.place.components target.place.components = (back, ahead))
    (steps : ∀ component ∈ ahead, component.IsStep) :
    (ofString (source.specifier target)).segments.filterMap Component.ofSegment? =
      List.replicate back.length .up ++ ahead := by
  have made : source.specifier target =
      let text := Text.glue '/' (List.replicate back.length ".." ++ ahead.map Component.text)
      if Text.startsWith text ".." then text else "./" ++ text := by
    unfold specifier
    rw [split]
  have read : (List.replicate back.length ".." ++ ahead.map Component.text).filterMap
      Component.ofSegment? = List.replicate back.length .up ++ ahead := by
    have ups : (List.replicate back.length "..").filterMap Component.ofSegment? =
        List.replicate back.length .up := by
      rw [List.filterMap_replicate]
      rfl
    have rest : (ahead.map Component.text).filterMap Component.ofSegment? = ahead := by
      rw [List.filterMap_map]
      have own : ∀ component ∈ ahead,
          (Component.ofSegment? ∘ Component.text) component = some component :=
        fun component member => (step_segment (steps component member)).1
      exact (List.filterMap_congr own).trans List.filterMap_some
    rw [List.filterMap_append, ups, rest]
  have free : ∀ segment ∈ List.replicate back.length ".." ++ ahead.map Component.text,
      '/' ∉ segment.toList := by
    intro segment member
    rcases List.mem_append.mp member with up | step
    · rw [List.eq_of_mem_replicate up]
      decide
    · obtain ⟨component, isIn, rfl⟩ := List.mem_map.mp step
      exact (step_segment (steps component isIn)).2
  rw [made, ← read]
  generalize List.replicate back.length ".." ++ ahead.map Component.text = segments at free
  dsimp only
  cases segments with
  | nil => rfl
  | cons first rest =>
    have filled : first :: rest ≠ [] := List.cons_ne_nil first rest
    split
    · rw [ofString, Text.pieces_glue filled free]
    · have lead : "./" ++ Text.glue '/' (first :: rest) = Text.glue '/' ("." :: first :: rest) := by
        rw [Text.glue_cons filled]
        rfl
      have whole : ∀ segment ∈ "." :: first :: rest, '/' ∉ segment.toList :=
        List.forall_mem_cons.mpr ⟨by decide, free⟩
      rw [lead, ofString, Text.pieces_glue (List.cons_ne_nil _ _) whole]
      rfl

theorem relative_of_dot {text : String} {rest : List Char} (dot : text.toList = '.' :: rest) :
    (ofString text).isAbsolute = false := by
  have cut : ('.' :: rest).splitOn '/' = (rest.splitOn '/').modifyHead ('.' :: ·) := by
    rw [List.splitOn_cons_eq_if_modifyHead, if_neg (by decide)]
  unfold ofString Text.pieces isAbsolute
  rw [dot, cut]
  cases rest.splitOn '/' with
  | nil => rfl
  | cons first others => simp

theorem specifier_isRelative (source target : Path) :
    (ofString (source.specifier target)).IsRelative := by
  apply relative_of_pieces
  unfold specifier
  dsimp only
  split
  · next dots =>
    obtain ⟨rest, same⟩ := startsWith_iff.mp dots
    exact relative_of_dot same.symm
  · exact relative_of_dot (String.toList_append ..)

theorem specifier_leads_on
    (split : apart source.place.components target.place.components = (back, ahead))
    (steps : ∀ component ∈ ahead, component.IsStep) :
    (source.join (ofString (source.specifier target))).place =
      (List.replicate back.length Component.up ++ ahead).foldl Place.step source.place := by
  rw [place_join source (specifier_isRelative source target), specifier_components split steps]

theorem specifier_place {common rest : List Component} {names : List String}
    (isBack : source.place.components = common ++ names.map .name)
    (isAhead : target.place.components = common ++ rest)
    (steps : ∀ component ∈ rest, component.IsStep) :
    (source.join (ofString (source.specifier target))).place = target.place := by
  -- what the names and the rest still have in common is not left either
  obtain ⟨shared, sourceSplit, targetSplit⟩ := apart_common (names.map Component.name) rest
  cases split : apart (names.map Component.name) rest with
  | mk back ahead =>
    rw [split] at sourceSplit targetSplit
    obtain ⟨taken, left, -, -, rfl⟩ := List.map_eq_append_iff.mp sourceSplit
    have whole : apart source.place.components target.place.components =
        (left.map Component.name, ahead) := by
      rw [isBack, isAhead, apart_append, split]
    have onward : ∀ component ∈ ahead, component.IsStep := by
      intro component member
      apply steps
      rw [targetSplit]
      exact List.mem_append_right _ member
    rw [specifier_leads_on whole onward, List.length_map, List.foldl_append]
    generalize isBase : (common ++ shared).foldl Place.step Place.start = base
    have begins : source.place = base.descend left := by
      rw [← foldl_step_components (place_proper source), isBack, sourceSplit, ← List.append_assoc,
        List.foldl_append, isBase, Place.foldl_step_names]
    rw [begins, Place.foldl_step_ups, ← foldl_step_components (place_proper target), isAhead,
      targetSplit, ← List.append_assoc, List.foldl_append, isBase]

end Reading

/-! Where a specifier leads -/

theorem place_components_absolute {p : Path} (absolute : p.isAbsolute = true) :
    p.place.components = .root :: p.place.names.map .name := by
  have rooted : p.place.rooted = true := (place_rooted p).trans absolute
  unfold Place.components
  rw [if_pos rooted, (place_proper p).2 rooted]
  rfl

theorem place_components_relative {p : Path} (relative : p.isAbsolute = false) :
    p.place.components = List.replicate p.place.ups .up ++ p.place.names.map .name := by
  have unrooted : p.place.rooted = false := (place_rooted p).trans relative
  unfold Place.components
  rw [unrooted]
  rfl

theorem specifier_found {source : Path} {text : String} (reaches : Reaches source (ofString text)) :
    (source.join (ofString (source.specifier (ofString text)))).place = (ofString text).place := by
  cases reaches with
  | absolute rooted targeted =>
    have isBack : source.place.components = [.root] ++ source.place.names.map .name :=
      place_components_absolute rooted
    have isAhead : (ofString text).place.components =
        [.root] ++ (ofString text).place.names.map .name := place_components_absolute targeted
    apply specifier_place isBack isAhead
    intro component member
    apply place_steps (isAhead ▸ List.mem_append_right _ member)
    rintro rfl
    simp at member
  | relative unrooted untargeted above =>
    rw [leadingUps_relative unrooted, leadingUps_relative untargeted] at above
    -- the target goes on from the ups of the directory, by more ups and by names
    obtain ⟨more, further⟩ := Nat.exists_eq_add_of_le above
    have isAhead := place_components_relative untargeted
    rw [further, List.replicate_add, List.append_assoc] at isAhead
    apply specifier_place (place_components_relative unrooted) isAhead
    intro component member
    apply place_steps (isAhead ▸ List.mem_append_right _ member)
    rintro rfl
    simp [List.mem_replicate] at member

theorem join_specifier_ups {source : Path} {text : String} (unrooted : source.isAbsolute = false)
    (untargeted : (ofString text).isAbsolute = false)
    (beyond : (ofString text).place.ups < source.place.ups) :
    (source.join (ofString (source.specifier (ofString text)))).place.ups =
      source.place.ups + (source.place.ups - (ofString text).place.ups) := by
  obtain ⟨more, further⟩ := Nat.exists_eq_add_of_lt beyond
  have isBack := place_components_relative unrooted
  have isAhead := place_components_relative untargeted
  have nothing (back : List Component) (names : List String) :
      apart (.up :: back) (names.map Component.name) = (.up :: back, names.map .name) := by
    cases names <;> simp [apart]
  have split : apart source.place.components (ofString text).place.components =
      (List.replicate (more + 1) .up ++ source.place.names.map .name,
        (ofString text).place.names.map .name) := by
    rw [isBack, isAhead, further, Nat.add_assoc, List.replicate_add, List.append_assoc,
      apart_append, List.replicate_succ, List.cons_append, nothing]
  have steps : ∀ component ∈ (ofString text).place.names.map Component.name, component.IsStep := by
    intro component member
    apply place_steps (isAhead ▸ List.mem_append_right _ member)
    rintro rfl
    simp at member
  have here : source.place.rooted = false := (place_rooted source).trans unrooted
  rw [specifier_leads_on split steps, List.length_append, List.length_replicate, List.length_map,
    List.foldl_append, foldl_step_back, Place.foldl_step_names, here]
  simp only [Place.descend, Bool.false_eq_true, if_false]
  omega

theorem reaches_of_found {source : Path} {text : String}
    (found : (source.join (ofString (source.specifier (ofString text)))).place =
      (ofString text).place) :
    Reaches source (ofString text) := by
  have alike : source.isAbsolute = (ofString text).isAbsolute := by
    rw [← join_isAbsolute source (specifier_isRelative source (ofString text)), ← place_rooted,
      found, place_rooted]
  cases absolute : source.isAbsolute with
  | true => exact .absolute absolute (alike ▸ absolute)
  | false =>
    have untargeted : (ofString text).isAbsolute = false := alike ▸ absolute
    apply Reaches.relative absolute untargeted
    rw [leadingUps_relative absolute, leadingUps_relative untargeted]
    by_contra beyond
    have twice := join_specifier_ups absolute untargeted (Nat.lt_of_not_le beyond)
    rw [found] at twice
    omega

/-- A specifier leads from its directory to its target wherever the target can be found at all, and
is the same text however the directory and the target are written. -/
theorem specifier_inverts_join (source target : String) :
    (((ofString source).join
        (ofString ((ofString source).specifier (ofString target)))).normalize =
      (ofString target).normalize ↔ Reaches (ofString source) (ofString target)) ∧
    ∀ origin aim : Path, origin.normalize = (ofString source).normalize →
      aim.normalize = (ofString target).normalize →
      origin.specifier aim = (ofString source).specifier (ofString target) := by
  rw [normalize_eq_iff]
  refine ⟨⟨reaches_of_found, specifier_found⟩, ?_⟩
  intro origin aim sameOrigin sameAim
  unfold specifier
  rw [normalize_eq_iff.mp sameOrigin, normalize_eq_iff.mp sameAim]

theorem specifier_inverts_join_dotted :
    (ofString "/out/./Animals/../Shared/").normalize = (ofString "/out/Shared").normalize ∧
    (ofString "/out/Shared/../Pet").normalize = (ofString "/out/Pet").normalize ∧
    (ofString "/out/./Animals/../Shared/").specifier (ofString "/out/Shared/../Pet") =
      (ofString "/out/Shared").specifier (ofString "/out/Pet") ∧
    ((ofString "/out/Shared").join
      (ofString ((ofString "/out/Shared").specifier (ofString "/out/Pet")))).normalize =
        (ofString "/out/Pet").normalize := by
  obtain ⟨leads, alike⟩ := specifier_inverts_join "/out/Shared" "/out/Pet"
  have origin : (ofString "/out/./Animals/../Shared/").normalize =
      (ofString "/out/Shared").normalize := by decide +kernel
  have aim : (ofString "/out/Shared/../Pet").normalize = (ofString "/out/Pet").normalize := by
    decide +kernel
  have rooted : (ofString "/out/Shared").isAbsolute = true := by decide +kernel
  have targeted : (ofString "/out/Pet").isAbsolute = true := by decide +kernel
  exact ⟨origin, aim, alike _ _ origin aim, leads.mpr (.absolute rooted targeted)⟩

end Typewright.Path
