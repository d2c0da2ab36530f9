import Mathlib.Data.List.Forall2
import Typewright.Reference
import Typewright.Spec

/-!
Values inside values. What a pointer leads to, what a map lists and what the groups of a spec hold
all stand inside the document that they are read from.
-/
namespace Typewright

/-! Computations that succeed -/

theorem bind_eq_ok {x : Except ε α} {f : α → Except ε β} {result : β} :
    (x >>= f) = .ok result ↔ ∃ value, x = .ok value ∧ f value = .ok result := by
  cases x with
  | error failure =>
    constructor
    · exact fun same => absurd same nofun
    · rintro ⟨_, same, _⟩
      cases same
  | ok value =>
    constructor
    · exact fun later => ⟨value, rfl, later⟩
    · rintro ⟨_, same, later⟩
      cases same
      exact later

theorem map_eq_ok {x : Except ε α} {f : α → β} {result : β} :
    x.map f = .ok result ↔ ∃ value, x = .ok value ∧ f value = result := by
  cases x <;> simp [Except.map]

theorem mapM_eq_ok {f : α → Except ε β} {xs : List α} {ys : List β} :
    xs.mapM f = .ok ys ↔ List.Forall₂ (fun x y => f x = .ok y) xs ys := by
  induction xs generalizing ys with
  | nil =>
    rw [List.mapM_nil, List.forall₂_nil_left_iff]
    exact ⟨fun same => by cases same; rfl, fun same => by rw [same]; rfl⟩
  | cons x rest ih =>
    rw [List.mapM_cons, List.forall₂_cons_left_iff]
    constructor
    · intro mapped
      obtain ⟨value, first, later⟩ := bind_eq_ok.mp mapped
      obtain ⟨values, others, same⟩ := bind_eq_ok.mp later
      cases same
      exact ⟨value, values, first, ih.mp others, rfl⟩
    · rintro ⟨value, values, first, others, rfl⟩
      exact bind_eq_ok.mpr ⟨value, first, bind_eq_ok.mpr ⟨values, ih.mpr others, rfl⟩⟩

theorem exists_of_forall₂ {related : α → β → Prop} {xs : List α} {ys : List β}
    (listed : List.Forall₂ related xs ys) {y : β} (member : y ∈ ys) : ∃ x ∈ xs, related x y := by
  induction listed with
  | nil => cases member
  | cons first _ ih =>
    rcases List.mem_cons.mp member with rfl | later
    · exact ⟨_, List.mem_cons_self, first⟩
    · obtain ⟨x, known, fits⟩ := ih later
      exact ⟨x, List.mem_cons_of_mem _ known, fits⟩

theorem mem_of_mapM_ok {f : α → Except ε β} {xs : List α} {ys : List β}
    (mapped : xs.mapM f = .ok ys) {y : β} (member : y ∈ ys) : ∃ x ∈ xs, f x = .ok y :=
  exists_of_forall₂ (mapM_eq_ok.mp mapped) member

namespace Yaml.Value

/-- The second value stands in the first one, at any depth; keys are not counted. -/
inductive Contains : Value → Value → Prop where
  | whole (value : Value) : Contains value value
  | item {items : List Value} {item part : Value} (member : item ∈ items)
    (inside : Contains item part) : Contains (sequence items) part
  | entry {entries : List (Value × Value)} {entry : Value × Value} {part : Value}
    (member : entry ∈ entries) (inside : Contains entry.2 part) : Contains (mapping entries) part
  | tagged {tag : String} {value part : Value} (inside : Contains value part) :
    Contains (tagged tag value) part

variable {value part : Value}

theorem contains_trans {inner : Value} (outside : value.Contains part)
    (inside : part.Contains inner) : value.Contains inner := by
  induction outside with
  | whole value => exact inside
  | item member _ ih => exact .item member (ih inside)
  | entry member _ ih => exact .entry member (ih inside)
  | tagged _ ih => exact .tagged (ih inside)

theorem contains_untagged (contains : value.untagged.Contains part) : value.Contains part := by
  fun_induction untagged value with
  | case1 tag value ih => exact .tagged (ih contains)
  | case2 value notTagged => exact contains

theorem contains_entry {entries : List (Value × Value)} (isMapping : value.entries? = some entries)
    {entry : Value × Value} (member : entry ∈ entries) : value.Contains entry.2 := by
  unfold entries? at isMapping
  split at isMapping
  · next same =>
    cases isMapping
    apply contains_untagged
    rw [same]
    exact .entry member (.whole _)
  · cases isMapping

theorem contains_lookup {entries : List (Value × Value)}
    (isMapping : value.entries? = some entries) {name : String}
    (found : lookup? name entries = some part) : value.Contains part := by
  obtain ⟨entry, known, rfl⟩ := Option.map_eq_some_iff.mp found
  exact contains_entry isMapping (List.mem_of_find?_eq_some known)

end Yaml.Value

theorem Reference.read_contains {reference : String} {keys : List String}
    {value found : Yaml.Value} (read : Reference.read reference keys value = .ok found) :
    value.Contains found := by
  induction keys generalizing value with
  | nil =>
    cases read
    exact .whole _
  | cons key rest ih =>
    unfold Reference.read at read ih
    rw [List.foldlM_cons] at read
    unfold follow at read
    split at read
    · next inner isInner =>
      obtain ⟨entries, isMapping, isEntry⟩ := Option.bind_eq_some_iff.mp isInner
      exact Yaml.Value.contains_trans (Yaml.Value.contains_lookup isMapping isEntry) (ih read)
    · cases read

theorem TypeMap.decode_contains {context : String} {value : Yaml.Value} {types : TypeMap}
    (decoded : TypeMap.decode context value = .ok types) {entry : String × Yaml.Value}
    (member : entry ∈ types.entries) : value.Contains entry.2 := by
  unfold decode at decoded
  split at decoded
  · cases decoded
  · next entries isMapping =>
    obtain ⟨pairs, mapped, same⟩ := bind_eq_ok.mp decoded
    cases same
    obtain ⟨⟨key, part⟩, written, read⟩ := mem_of_mapM_ok mapped (Table.mem_ofList member)
    obtain ⟨name, _, same⟩ := bind_eq_ok.mp read
    cases same
    exact Yaml.Value.contains_entry isMapping written

namespace Group

variable {name : String} {body : Yaml.Value}

theorem decode_types {types : TypeMap} (decoded : decode name body = .ok (.types types)) :
    TypeMap.decode name body = .ok types := by
  unfold decode at decoded
  split at decoded
  · cases decoded
  · obtain ⟨map, read, same⟩ := map_eq_ok.mp decoded
    cases same
    exact read

theorem decode_reference {target : String} (decoded : decode name body = .ok (.reference target)) :
    reference? body = some target := by
  unfold decode at decoded
  split at decoded
  · next isReference =>
    cases decoded
    exact isReference
  · obtain ⟨_, _, same⟩ := map_eq_ok.mp decoded
    cases same

theorem decode_contains {group : Group} (decoded : decode name body = .ok group)
    {value : Yaml.Value} (member : value ∈ group.values) : body.Contains value := by
  cases group with
  | types types =>
    obtain ⟨entry, listed, rfl⟩ := List.mem_map.mp member
    exact TypeMap.decode_contains (decode_types decoded) listed
  | reference target => cases member

end Group

namespace Spec

theorem part_contains {document part : Yaml.Value} {entries : List (Yaml.Value × Yaml.Value)}
    (isMapping : document.entries? = some entries) {name : String}
    (present : part? name entries = some part) : document.Contains part := by
  unfold part? at present
  split at present
  · cases present
  · exact Yaml.Value.contains_lookup isMapping present

theorem decode_parts {document : Yaml.Value} {spec : Spec} (decoded : decode document = .ok spec) :
    ∃ entries, document.entries? = some entries ∧ decodeTypes entries = .ok spec.types ∧
      decodeGroups entries = .ok spec.groups := by
  unfold decode at decoded
  split at decoded
  · cases decoded
  · next entries isMapping =>
    obtain ⟨info, _, decoded⟩ := bind_eq_ok.mp decoded
    obtain ⟨types, isTypes, decoded⟩ := bind_eq_ok.mp decoded
    obtain ⟨groups, isGroups, decoded⟩ := bind_eq_ok.mp decoded
    split at decoded
    · cases decoded
    · cases decoded
      exact ⟨entries, isMapping, isTypes, isGroups⟩

theorem decode_types {document : Yaml.Value} {spec : Spec} (decoded : decode document = .ok spec)
    {types : TypeMap} (isTypes : spec.types = some types) :
    ∃ value, document.Contains value ∧ TypeMap.decode "types" value = .ok types := by
  obtain ⟨entries, isMapping, read, _⟩ := decode_parts decoded
  rw [isTypes] at read
  unfold decodeTypes at read
  split at read
  · cases read
  · next value present =>
    obtain ⟨map, read, same⟩ := map_eq_ok.mp read
    cases same
    exact ⟨value, part_contains isMapping present, read⟩

theorem decode_groups {document : Yaml.Value} {spec : Spec} (decoded : decode document = .ok spec)
    {groups : Table Group} (isGroups : spec.groups = some groups) {title : String} {group : Group}
    (member : (title, group) ∈ groups.entries) :
    ∃ value, document.Contains value ∧ Group.decode title value = .ok group := by
  obtain ⟨entries, isMapping, _, read⟩ := decode_parts decoded
  rw [isGroups] at read
  unfold decodeGroups at read
  split at read
  · cases read
  · next part present =>
    split at read
    · cases read
    · next bodies isBodies =>
      obtain ⟨pairs, mapped, same⟩ := bind_eq_ok.mp read
      cases same
      obtain ⟨⟨key, body⟩, written, read⟩ := mem_of_mapM_ok mapped (Table.mem_ofList member)
      obtain ⟨name, _, read⟩ := bind_eq_ok.mp read
      obtain ⟨other, decoded, same⟩ := bind_eq_ok.mp read
      cases same
      have inside := part_contains isMapping present
      exact ⟨body, Yaml.Value.contains_trans inside (Yaml.Value.contains_entry isBodies written),
        decoded⟩

theorem decode_contains {document : Yaml.Value} {spec : Spec}
    (decoded : decode document = .ok spec) {value : Yaml.Value} (member : value ∈ spec.values) :
    document.Contains value := by
  rcases List.mem_append.mp member with listed | grouped
  · cases isTypes : spec.types with
    | none => simp [isTypes] at listed
    | some types =>
      rw [isTypes] at listed
      obtain ⟨entry, isIn, rfl⟩ := List.mem_map.mp listed
      obtain ⟨part, inside, read⟩ := decode_types decoded isTypes
      exact Yaml.Value.contains_trans inside (TypeMap.decode_contains read isIn)
  · cases isGroups : spec.groups with
    | none => simp [isGroups] at grouped
    | some groups =>
      rw [isGroups] at grouped
      obtain ⟨group, listed, member⟩ := List.mem_flatMap.mp grouped
      obtain ⟨⟨title, group⟩, isIn, rfl⟩ := List.mem_map.mp listed
      obtain ⟨part, inside, read⟩ := decode_groups decoded isGroups isIn
      exact Yaml.Value.contains_trans inside (Group.decode_contains read member)

end Spec

end Typewright
