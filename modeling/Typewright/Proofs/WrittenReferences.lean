import Typewright.Proofs.SchemaGrammar

/-!
References written in documents. What stands in a value refers only to what is written in the
value, and so does the schema that is decoded from it.
-/
namespace Typewright

namespace Yaml.Value

theorem references_sequence (items : List Value) :
    (sequence items).references = referencesOfItems items := rfl

theorem references_mapping (entries : List (Value × Value)) :
    (mapping entries).references = referencesOfEntries entries := rfl

theorem references_tagged (tag : String) (value : Value) :
    (tagged tag value).references = value.references := rfl

theorem referencesOfItems_cons (item : Value) (rest : List Value) :
    referencesOfItems (item :: rest) = item.references ++ referencesOfItems rest := rfl

theorem referencesOfEntries_cons (key value : Value) (rest : List (Value × Value)) :
    referencesOfEntries ((key, value) :: rest) =
      (if key.text? = some referenceKey then value.text?.toList else []) ++ references value ++
      referencesOfEntries rest := rfl

theorem references_untagged (value : Value) : value.untagged.references = value.references := by
  fun_induction untagged value with
  | case1 tag value ih => rw [ih, references_tagged]
  | case2 value notTagged => rfl

theorem references_item {item : Value} {items : List Value} (member : item ∈ items) :
    item.references ⊆ (sequence items).references := by
  rw [references_sequence]
  induction items with
  | nil => cases member
  | cons first rest ih =>
    intro reference written
    rw [referencesOfItems_cons, List.mem_append]
    rcases List.mem_cons.mp member with rfl | member
    · exact .inl written
    · exact .inr (ih member written)

theorem references_entry {entry : Value × Value} {entries : List (Value × Value)}
    (member : entry ∈ entries) : entry.2.references ⊆ (mapping entries).references := by
  rw [references_mapping]
  induction entries with
  | nil => cases member
  | cons first rest ih =>
    intro reference written
    rw [referencesOfEntries_cons, List.mem_append, List.mem_append]
    rcases List.mem_cons.mp member with rfl | member
    · exact .inl (.inr written)
    · exact .inr (ih member written)

theorem reference_written {key value : Value} {entries : List (Value × Value)}
    {reference : String} (member : (key, value) ∈ entries) (keyed : key.text? = some referenceKey)
    (text : value.text? = some reference) : reference ∈ (mapping entries).references := by
  rw [references_mapping]
  induction entries with
  | nil => cases member
  | cons first rest ih =>
    rw [referencesOfEntries_cons, List.mem_append, List.mem_append]
    rcases List.mem_cons.mp member with rfl | member
    · exact .inl (.inl (by simp [keyed, text]))
    · exact .inr (ih member)

theorem references_entries {value : Value} {entries : List (Value × Value)}
    (found : value.entries? = some entries) :
    (mapping entries).references = value.references := by
  unfold entries? at found
  split at found
  · next same =>
    cases found
    rw [← same, references_untagged]
  · cases found

theorem references_of_contains {value part : Value} (contains : value.Contains part) :
    part.references ⊆ value.references := by
  induction contains with
  | whole value => exact List.Subset.refl _
  | item member _ ih => exact List.Subset.trans ih (references_item member)
  | entry member _ ih => exact List.Subset.trans ih (references_entry member)
  | tagged _ ih =>
    rw [references_tagged]
    exact ih

end Yaml.Value

theorem Reference.read_references {reference : String} {keys : List String}
    {value found : Yaml.Value} (read : Reference.read reference keys value = .ok found) :
    found.references ⊆ value.references :=
  Yaml.Value.references_of_contains (read_contains read)

theorem Spec.decode_references {document : Yaml.Value} {spec : Spec}
    (decoded : decode document = .ok spec) {value : Yaml.Value} (member : value ∈ spec.values) :
    value.references ⊆ document.references :=
  Yaml.Value.references_of_contains (decode_contains decoded member)

namespace Schema

mutual

def references : Schema → List String
  | object properties _ _ => referencesOfProperties properties
  | enumeration .. => []
  | union variants _ => referencesOfVariants variants
  | array items _ => references items
  | reference target _ => [target]
  | primitive .. => []

def referencesOfProperties : List (String × Schema) → List String
  | [] => []
  | (_, schema) :: rest => references schema ++ referencesOfProperties rest

def referencesOfVariants : List Schema → List String
  | [] => []
  | schema :: rest => references schema ++ referencesOfVariants rest

end

theorem referencesOfProperties_subset {written : List String}
    {properties : List (String × Schema)}
    (inside : ∀ schema ∈ properties.map Prod.snd, schema.references ⊆ written) :
    referencesOfProperties properties ⊆ written := by
  induction properties with
  | nil => exact List.nil_subset written
  | cons property rest ih =>
    obtain ⟨here, later⟩ := List.forall_mem_cons.mp inside
    exact List.append_subset.mpr ⟨here, ih later⟩

theorem referencesOfVariants_subset {written : List String} {variants : List Schema}
    (inside : ∀ schema ∈ variants, schema.references ⊆ written) :
    referencesOfVariants variants ⊆ written := by
  induction variants with
  | nil => exact List.nil_subset written
  | cons schema rest ih =>
    obtain ⟨here, later⟩ := List.forall_mem_cons.mp inside
    exact List.append_subset.mpr ⟨here, ih later⟩

theorem reference_of_fields {value : Yaml.Value} {fields : Fields} {target : String}
    (has : HasFields value fields) (given : fields.reference = some target) :
    target ∈ value.references := by
  obtain ⟨entries, isMapping, -, shows⟩ := has
  obtain ⟨part, known, isText⟩ := holds_some given (shows .reference)
  obtain ⟨key, listed, isKey⟩ := mem_valuesUnder known
  rw [← Yaml.Value.references_entries isMapping]
  exact Yaml.Value.reference_written listed isKey isText

theorem references_of_derives {value : Yaml.Value} {schema : Schema}
    (derives : Derives value schema) : schema.references ⊆ value.references := by
  obtain ⟨fields, has, rule⟩ := derives_iff.mp derives
  have child {part : Yaml.Value} {inner : Schema} (member : part ∈ fields.children)
      (derived : Derives part inner) : inner.references ⊆ value.references :=
    List.Subset.trans (references_of_derives derived)
      (Yaml.Value.references_of_contains (child_contained has member))
  cases rule with
  | object _ _ _ inside =>
    refine referencesOfProperties_subset fun inner member => ?_
    obtain ⟨part, known, derived⟩ := exists_of_forall₂ inside member
    exact child (List.mem_append_left _ (List.mem_append_left _ known)) derived
  | enumeration => exact List.nil_subset _
  | union _ _ _ _ given _ inside =>
    refine referencesOfVariants_subset fun inner member => ?_
    obtain ⟨part, known, derived⟩ := exists_of_forall₂ inside member
    exact child (List.mem_append_right _ (by rwa [given])) derived
  | array _ _ _ _ given inside =>
    rw [references]
    exact child (List.mem_append_left _ (List.mem_append_right _ (Option.mem_toList.mpr given)))
      inside
  | reference _ given => simpa [references] using reference_of_fields has given
  | primitive => exact List.nil_subset _
termination_by value.height
decreasing_by exact child_below has member

theorem decodeNamed_references {name : String} {value : Yaml.Value} {schema : Schema}
    (decoded : decodeNamed name value = .ok schema) : schema.references ⊆ value.references :=
  references_of_derives (decodeNamed_iff.mp decoded)

end Schema

end Typewright
