import Mathlib.Data.List.Basic
import Typewright.Path

/-!
Normalised paths. Their components say how they are written, so two of them that are the same path
are equal.
-/
namespace Typewright.Path

def IsPlain (segment : String) : Prop := Component.ofSegment? segment = some (.name segment)

theorem plain_of_component {segment text : String}
    (component : Component.ofSegment? segment = some (.name text)) : IsPlain text := by
  simp only [Component.ofSegment?] at component
  split at component
  · cases component
  · split at component
    · cases component
    · next notEmpty notUp =>
      cases component
      simp [IsPlain, Component.ofSegment?, notEmpty, notUp]

theorem plain_ne_empty {segment : String} (plain : IsPlain segment) :
    segment ≠ "" ∧ segment ≠ "." := by
  constructor <;> rintro rfl <;> simp [IsPlain, Component.ofSegment?] at plain

namespace Place

def IsProper (place : Place) : Prop :=
  (∀ name ∈ place.names, IsPlain name) ∧ (place.rooted = true → place.ups = 0)

theorem start_proper : start.IsProper := by simp [IsProper, start]

theorem step_proper {place : Place} {component : Component} (proper : place.IsProper)
    (plain : ∀ text, component = .name text → IsPlain text) :
    (place.step component).IsProper := by
  cases component with
  | root => simp [IsProper, step]
  | here => exact proper
  | up =>
    simp only [step]
    split
    · split
      · exact proper
      · next notRooted => exact ⟨proper.1, fun rooted => absurd rooted notRooted⟩
    · exact ⟨fun name member => proper.1 name (List.dropLast_subset _ member), proper.2⟩
  | name text =>
    refine ⟨fun name member => ?_, proper.2⟩
    rcases List.mem_append.mp member with old | new
    · exact proper.1 name old
    · rw [List.mem_singleton.mp new]
      exact plain text rfl

theorem foldl_step_proper {components : List Component} {place : Place} (proper : place.IsProper)
    (plain : ∀ text, .name text ∈ components → IsPlain text) :
    (components.foldl step place).IsProper := by
  induction components generalizing place with
  | nil => exact proper
  | cons component rest ih =>
    refine ih (step_proper proper ?_) fun text member => plain text (List.mem_cons_of_mem _ member)
    rintro text rfl
    exact plain text List.mem_cons_self

theorem components_body {place : Place} (proper : place.IsProper) :
    (List.replicate place.ups ".." ++ place.names).filterMap Component.ofSegment? =
      List.replicate place.ups .up ++ place.names.map .name := by
  rw [List.filterMap_append]
  congr 1
  · rw [List.filterMap_replicate]
    rfl
  · exact (List.filterMap_congr proper.1).trans (by simp)

end Place

theorem components_plain {p : Path} {text : String} (member : .name text ∈ p.components) :
    IsPlain text := by
  have inSegments : ∀ segments : List String,
      .name text ∈ segments.filterMap Component.ofSegment? → IsPlain text := by
    intro segments member
    obtain ⟨segment, _, component⟩ := List.mem_filterMap.mp member
    exact plain_of_component component
  unfold components at member
  split at member
  · exact inSegments _ ((List.mem_cons.mp member).resolve_left nofun)
  · exact inSegments _ ((List.mem_cons.mp member).resolve_left nofun)
  · exact inSegments _ member

theorem place_proper (p : Path) : p.place.IsProper :=
  Place.foldl_step_proper Place.start_proper fun _ => components_plain

theorem components_relative {head : String} {rest : List String}
    (notEmpty : head ≠ "") (notHere : head ≠ ".") :
    (⟨head :: rest⟩ : Path).components = (head :: rest).filterMap Component.ofSegment? := by
  unfold components
  split
  · next same =>
    cases same
    exact absurd rfl notEmpty
  · next same =>
    cases same
    exact absurd rfl notHere
  · rfl

theorem components_toPath {place : Place} (proper : place.IsProper) :
    place.toPath.components = place.components := by
  have named := Place.components_body proper
  have fine : ∀ segment ∈ List.replicate place.ups ".." ++ place.names,
      segment ≠ "" ∧ segment ≠ "." := by
    intro segment member
    rcases List.mem_append.mp member with up | name
    · rw [List.eq_of_mem_replicate up]
      decide
    · exact plain_ne_empty (proper.1 segment name)
  simp only [Place.toPath, Place.components]
  rw [List.append_assoc, ← named]
  generalize List.replicate place.ups ".." ++ place.names = body at fine
  cases body with
  | nil => cases place.rooted <;> rfl
  | cons head rest =>
    obtain ⟨notEmpty, notHere⟩ := fine head List.mem_cons_self
    cases place.rooted with
    | true => rfl
    | false => exact components_relative notEmpty notHere

def ofComponents (components : List Component) : Path :=
  match (components.filter (· ≠ .root)).map Component.text with
  | [] => if .root ∈ components then ⟨["", ""]⟩ else ⟨[""]⟩
  | body => if .root ∈ components then ⟨"" :: body⟩ else ⟨body⟩

theorem toPath_ofComponents (place : Place) : place.toPath = ofComponents place.components := by
  have named : (place.components.filter (· ≠ .root)).map Component.text =
      List.replicate place.ups ".." ++ place.names := by
    cases rooted : place.rooted <;>
      simp [Place.components, rooted, Component.text, List.filter_map, Function.comp_def]
  have rooted : .root ∈ place.components ↔ place.rooted = true := by
    simp [Place.components, List.mem_replicate]
  unfold Place.toPath ofComponents
  rw [named]
  generalize List.replicate place.ups ".." ++ place.names = body
  cases body <;> simp [rooted]

theorem normalize_ofComponents (p : Path) : p.normalize = ofComponents p.normalize.components := by
  show p.place.toPath = ofComponents p.place.toPath.components
  rw [components_toPath (place_proper p)]
  exact toPath_ofComponents p.place

theorem normalize_same {p q : Path} (same : p.normalize.same q.normalize) :
    p.normalize = q.normalize := by
  rw [normalize_ofComponents p, normalize_ofComponents q, eq_of_beq same]

end Typewright.Path
