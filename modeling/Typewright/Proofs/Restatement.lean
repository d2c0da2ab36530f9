import Typewright.Proofs.SchemaGrammar

/-!
Other ways to state a node. The order of its fields, unknown fields and explicit nulls are left to
the one who writes it, and so they are for each node inside it. The order of properties, of
variants and of listed values is not.
-/
namespace Typewright.Schema

/-- The second value states the node of the first in another way. -/
inductive Restates : Yaml.Value → Yaml.Value → Prop where
  | same (value : Yaml.Value) : Restates value value
  | back {value other : Yaml.Value} (restates : Restates value other) : Restates other value
  | next {value other third : Yaml.Value} (first : Restates value other)
    (second : Restates other third) : Restates value third
  | reordered {entries others : List (Yaml.Value × Yaml.Value)} (same : entries.Perm others) :
    Restates (.mapping entries) (.mapping others)
  | unknown {entries : List (Yaml.Value × Yaml.Value)} {key part : Yaml.Value} {name : String}
    (isKey : key.text? = some name) (unknown : ∀ field : Field, field.name ≠ name) :
    Restates (.mapping entries) (.mapping ((key, part) :: entries))
  | null {entries : List (Yaml.Value × Yaml.Value)} {key : Yaml.Value} {field : Field}
    (isKey : key.text? = some field.name) (absent : valuesUnder field.name entries = []) :
    Restates (.mapping entries) (.mapping ((key, .null) :: entries))
  | tagged {tag : String} {value other : Yaml.Value} (restates : Restates value other) :
    Restates (.tagged tag value) (.tagged tag other)
  | items {entries : List (Yaml.Value × Yaml.Value)} {key part other : Yaml.Value}
    (isKey : key.text? = some Field.items.name) (restates : Restates part other) :
    Restates (.mapping ((key, part) :: entries)) (.mapping ((key, other) :: entries))
  | property {entries before after : List (Yaml.Value × Yaml.Value)}
    {key name value other listed relisted : Yaml.Value}
    (isKey : key.text? = some Field.properties.name)
    (lists : listed.untagged = .mapping (before ++ (name, value) :: after))
    (relists : relisted.untagged = .mapping (before ++ (name, other) :: after))
    (restates : Restates value other) :
    Restates (.mapping ((key, listed) :: entries)) (.mapping ((key, relisted) :: entries))
  | variant {entries : List (Yaml.Value × Yaml.Value)} {before after : List Yaml.Value}
    {key value other listed relisted : Yaml.Value} (isKey : key.text? = some Field.oneOf.name)
    (lists : listed.untagged = .sequence (before ++ value :: after))
    (relists : relisted.untagged = .sequence (before ++ other :: after))
    (restates : Restates value other) :
    Restates (.mapping ((key, listed) :: entries)) (.mapping ((key, relisted) :: entries))

/-! One node -/

theorem holds_perm {α : Type} {shape : Yaml.Value → α → Prop} {values others : List Yaml.Value}
    {content : Option α} (same : values.Perm others) (holds : Holds shape values content) :
    Holds shape others content := by
  cases holds with
  | absent => exact List.nil_perm.mp same ▸ .absent
  | null => exact List.singleton_perm.mp same ▸ .null
  | value present fits => exact List.singleton_perm.mp same ▸ .value present fits

theorem holds_null {α : Type} {shape : Yaml.Value → α → Prop} {content : Option α} :
    Holds shape [.null] content ↔ Holds shape [] content := by
  rw [holds_nil]
  constructor
  · rintro (_ | _ | ⟨present, _⟩)
    · rfl
    · exact absurd rfl present
  · rintro rfl
    exact .null

namespace Fields

theorem shows_perm {fields : Fields} {values others : List Yaml.Value} {field : Field}
    (same : values.Perm others) (shows : fields.Shows values field) :
    fields.Shows others field := by
  cases field <;> exact holds_perm same shows

theorem shows_null {fields : Fields} {field : Field} :
    fields.Shows [.null] field ↔ fields.Shows [] field := by
  cases field <;> exact holds_null

end Fields

section Node

variable {entries others : List (Yaml.Value × Yaml.Value)} {key part : Yaml.Value}
  {fields : Fields} {field : Field}

theorem hasFields_mapping : HasFields (.mapping entries) fields ↔
    (∀ entry ∈ entries, ∃ name, entry.1.text? = some name) ∧
      ∀ field : Field, fields.Shows (valuesUnder field.name entries) field :=
  ⟨fun ⟨_, same, has⟩ => Option.some.inj same ▸ has, fun has => ⟨entries, rfl, has⟩⟩

theorem hasFields_perm (same : entries.Perm others) (has : HasFields (.mapping entries) fields) :
    HasFields (.mapping others) fields := by
  obtain ⟨keys, shows⟩ := hasFields_mapping.mp has
  refine hasFields_mapping.mpr ⟨fun entry member => keys entry (same.mem_iff.mpr member),
    fun field => Fields.shows_perm ((same.filter _).map _) (shows field)⟩

theorem hasFields_unknown {name : String} (isKey : key.text? = some name)
    (unknown : ∀ field : Field, field.name ≠ name) :
    HasFields (.mapping entries) fields ↔ HasFields (.mapping ((key, part) :: entries)) fields := by
  have passed (field : Field) :
      valuesUnder field.name ((key, part) :: entries) = valuesUnder field.name entries :=
    valuesUnder_other isKey (unknown field)
  simp only [hasFields_mapping, passed, List.forall_mem_cons]
  exact ⟨fun ⟨keys, shows⟩ => ⟨⟨⟨name, isKey⟩, keys⟩, shows⟩,
    fun ⟨⟨_, keys⟩, shows⟩ => ⟨keys, shows⟩⟩

theorem hasFields_cons (isKey : key.text? = some field.name) :
    HasFields (.mapping ((key, part) :: entries)) fields ↔
      (∀ entry ∈ entries, ∃ name, entry.1.text? = some name) ∧
        fields.Shows (part :: valuesUnder field.name entries) field ∧
          ∀ other : Field, other ≠ field → fields.Shows (valuesUnder other.name entries) other := by
  have own : valuesUnder field.name ((key, part) :: entries) =
      part :: valuesUnder field.name entries := valuesUnder_own isKey
  have others (other : Field) (differ : other ≠ field) :
      valuesUnder other.name ((key, part) :: entries) = valuesUnder other.name entries :=
    valuesUnder_other isKey fun same => differ (name_injective same)
  rw [hasFields_mapping, List.forall_mem_cons]
  constructor
  · rintro ⟨⟨-, keys⟩, shows⟩
    exact ⟨keys, own ▸ shows field, fun other differ => others other differ ▸ shows other⟩
  · rintro ⟨keys, shown, shows⟩
    refine ⟨⟨⟨_, isKey⟩, keys⟩, fun other => ?_⟩
    by_cases same : other = field
    · exact same ▸ own ▸ shown
    · exact others other same ▸ shows other same

theorem hasFields_null (isKey : key.text? = some field.name)
    (absent : valuesUnder field.name entries = []) :
    HasFields (.mapping entries) fields ↔
      HasFields (.mapping ((key, .null) :: entries)) fields := by
  rw [hasFields_cons isKey, absent, Fields.shows_null, hasFields_mapping]
  refine and_congr_right fun _ => ⟨fun shows => ⟨absent ▸ shows field, fun other _ => shows other⟩,
    fun ⟨shown, shows⟩ other => ?_⟩
  by_cases same : other = field
  · exact same ▸ absent.symm ▸ shown
  · exact shows other same

end Node

/-! Nodes inside a node -/

/-- The fields are the same but for the nodes inside, which are related one by one. -/
structure Fields.Matches (related : Yaml.Value → Yaml.Value → Prop) (fields others : Fields) :
    Prop where
  declared : fields.type = others.type
  format : fields.format = others.format
  required : fields.required = others.required
  reference : fields.reference = others.reference
  enum : fields.enum = others.enum
  note : fields.note = others.note
  names : Pairs.keys (fields.properties.getD []) = Pairs.keys (others.properties.getD [])
  properties : List.Forall₂ related ((fields.properties.getD []).map Prod.snd)
    ((others.properties.getD []).map Prod.snd)
  items : ∀ value, fields.items = some value → ∃ other, others.items = some other ∧
    related value other
  whole : fields.oneOf = none → others.oneOf = none
  oneOf : ∀ values, fields.oneOf = some values → ∃ replaced, others.oneOf = some replaced ∧
    List.Forall₂ related values replaced

section Matches

variable {related : Yaml.Value → Yaml.Value → Prop} {inner : Yaml.Value → Schema → Prop}
  {fields others : Fields}

theorem forall₂_trans_imp
    (carries : ∀ value other, related value other → ∀ schema, inner value schema →
      inner other schema) {values others : List Yaml.Value} {schemas : List Schema}
    (listed : List.Forall₂ related values others) (inside : List.Forall₂ inner values schemas) :
    List.Forall₂ inner others schemas := by
  induction listed generalizing schemas with
  | nil => exact inside
  | cons first _ ih =>
    cases inside with
    | cons here later => exact .cons (carries _ _ first _ here) (ih later)

theorem rule_matches (carries : ∀ value other, related value other → ∀ schema, inner value schema →
      inner other schema) (same : fields.Matches related others) {schema : Schema}
    (rule : Rule inner schema fields) : Rule inner schema others := by
  have declares {type : Option DataType} (declared : fields.Declares type) :
      others.Declares type := same.declared.symm.trans declared
  cases rule with
  | object declared alone names inside =>
    rw [same.required, same.note]
    exact .object (declares declared) (same.reference ▸ alone) (names.trans same.names)
      (forall₂_trans_imp carries same.properties inside)
  | enumeration declared alone listed enumerable some fit =>
    rw [same.note]
    exact .enumeration (declares declared) (same.reference ▸ alone) (same.enum ▸ listed)
      enumerable some fit
  | union declared other alone unlisted given some inside =>
    obtain ⟨replaced, given', listed⟩ := same.oneOf _ given
    rw [same.note]
    refine .union (declares declared) other (same.reference ▸ alone) (same.enum ▸ unlisted) given'
      ?_ (forall₂_trans_imp carries listed inside)
    rintro rfl
    exact some (List.forall₂_nil_right_iff.mp listed)
  | array declared alone unlisted whole given inside =>
    obtain ⟨replaced, given', related⟩ := same.items _ given
    rw [same.note]
    exact .array (declares declared) (same.reference ▸ alone) (same.enum ▸ unlisted)
      (same.whole whole) given' (carries _ _ related _ inside)
  | reference undeclared given unlisted alone =>
    rw [same.note]
    exact .reference (declares undeclared) (same.reference ▸ given) (same.enum ▸ unlisted)
      (same.whole alone)
  | primitive declared other single alone unlisted given =>
    rw [same.format, same.note]
    exact .primitive (declares declared) other single (same.reference ▸ alone)
      (same.enum ▸ unlisted) (same.whole given)

theorem forall₂_related (reflexive : ∀ value, related value value) (values : List Yaml.Value) :
    List.Forall₂ related values values := by
  induction values with
  | nil => exact .nil
  | cons value rest ih => exact .cons (reflexive value) ih

theorem matches_self (reflexive : ∀ value, related value value) (fields : Fields) :
    fields.Matches related fields where
  declared := rfl
  format := rfl
  required := rfl
  reference := rfl
  enum := rfl
  note := rfl
  names := rfl
  properties := forall₂_related reflexive _
  items value given := ⟨value, given, reflexive value⟩
  whole := id
  oneOf values given := ⟨values, given, forall₂_related reflexive values⟩

theorem hasFields_replaced {entries : List (Yaml.Value × Yaml.Value)} {key part other : Yaml.Value}
    {field : Field} (isKey : key.text? = some field.name)
    (replaces : fields.Shows [part] field → ∃ others : Fields, others.Shows [other] field ∧
      (∀ kept, kept ≠ field → others.Agree fields kept) ∧ fields.Matches related others)
    (has : HasFields (.mapping ((key, part) :: entries)) fields) :
    ∃ others, HasFields (.mapping ((key, other) :: entries)) others ∧
      fields.Matches related others := by
  obtain ⟨keys, shown, shows⟩ := (hasFields_cons isKey).mp has
  cases last : valuesUnder field.name entries with
  | cons second rest => exact absurd (last ▸ shown) Fields.not_shows_pair
  | nil =>
    obtain ⟨others, shown', kept, same⟩ := replaces (last ▸ shown)
    exact ⟨others, (hasFields_cons isKey).mpr ⟨keys, last.symm ▸ shown', fun field differ =>
      (Fields.shows_congr (kept field differ)).mpr (shows field differ)⟩, same⟩

end Matches

/-! Properties with one value in place of another -/

section Named

variable {related : Yaml.Value → Yaml.Value → Prop}

def SameName (related : Yaml.Value → Yaml.Value → Prop) (pair other : String × Yaml.Value) : Prop :=
  pair.1 = other.1 ∧ related pair.2 other.2

theorem sameName_put {pair other : String × Yaml.Value} {pairs others : List (String × Yaml.Value)}
    (same : SameName related pair other) (listed : List.Forall₂ (SameName related) pairs others) :
    List.Forall₂ (SameName related) (Pairs.put pair.1 pair.2 pairs)
      (Pairs.put other.1 other.2 others) := by
  induction listed with
  | nil => exact .cons same .nil
  | cons first later ih =>
    rw [Pairs.put, Pairs.put, ← first.1, ← same.1]
    split
    · exact .cons ⟨rfl, same.2⟩ later
    · exact .cons ⟨rfl, first.2⟩ (same.1 ▸ ih)

theorem sameName_collect {pairs others : List (String × Yaml.Value)}
    (listed : List.Forall₂ (SameName related) pairs others) :
    List.Forall₂ (SameName related) (Pairs.collect pairs) (Pairs.collect others) :=
  List.rel_foldl (P := List.Forall₂ (SameName related)) (R := SameName related)
    (fun _ _ done _ _ same => sameName_put same done) .nil listed

theorem sameName_names {pairs others : List (String × Yaml.Value)}
    (listed : List.Forall₂ (SameName related) pairs others) :
    Pairs.keys pairs = Pairs.keys others ∧
      List.Forall₂ related (pairs.map Prod.snd) (others.map Prod.snd) := by
  induction listed with
  | nil => exact ⟨rfl, .nil⟩
  | cons first _ ih => exact ⟨congrArg₂ List.cons first.1 ih.1, .cons first.2 ih.2⟩

theorem pairs_replaced (reflexive : ∀ value, related value value)
    {before after : List (Yaml.Value × Yaml.Value)} {name value other : Yaml.Value}
    (replaces : related value other) {pairs : List (String × Yaml.Value)}
    (listed : List.Forall₂ (fun entry pair => IsText entry.1 pair.1 ∧ pair.2 = entry.2)
      (before ++ (name, value) :: after) pairs) :
    ∃ others, List.Forall₂ (fun entry pair => IsText entry.1 pair.1 ∧ pair.2 = entry.2)
      (before ++ (name, other) :: after) others ∧
        List.Forall₂ (SameName related) pairs others := by
  induction before generalizing pairs with
  | nil =>
    cases listed with
    | @cons _ pair _ rest first later =>
      refine ⟨(pair.1, other) :: rest, .cons ⟨first.1, rfl⟩ later, .cons ⟨rfl, ?_⟩ ?_⟩
      · exact first.2 ▸ replaces
      · exact List.forall₂_same.mpr fun pair _ => ⟨rfl, reflexive pair.2⟩
  | cons entry before ih =>
    cases listed with
    | @cons _ pair _ rest first later =>
      obtain ⟨others, listed', same⟩ := ih later
      exact ⟨pair :: others, .cons first listed', .cons ⟨rfl, reflexive pair.2⟩ same⟩

theorem isNamed_replaced (reflexive : ∀ value, related value value)
    {before after : List (Yaml.Value × Yaml.Value)} {name value other listed relisted : Yaml.Value}
    (lists : listed.untagged = .mapping (before ++ (name, value) :: after))
    (relists : relisted.untagged = .mapping (before ++ (name, other) :: after))
    (replaces : related value other) {properties : List (String × Yaml.Value)}
    (isNamed : IsNamed listed properties) :
    ∃ others, IsNamed relisted others ∧ List.Forall₂ (SameName related) properties others := by
  obtain ⟨entries, pairs, isMapping, found, rfl⟩ := isNamed
  cases isMapping with
  | nothing isNull => exact nomatch isNull.symm.trans lists
  | entries isMapping =>
    cases isMapping.symm.trans lists
    obtain ⟨others, found', same⟩ := pairs_replaced reflexive replaces found
    exact ⟨Pairs.collect others, ⟨_, others, .entries relists, found', rfl⟩, sameName_collect same⟩

end Named

/-! A node inside a node, stated in another way -/

section Inside

variable {entries : List (Yaml.Value × Yaml.Value)} {key part other : Yaml.Value} {schema : Schema}

def Carries (value other : Yaml.Value) : Prop :=
  ∀ schema, Derives value schema → Derives other schema

theorem carries_self (value : Yaml.Value) : Carries value value := fun _ => id

theorem carries_field {field : Field} (isKey : key.text? = some field.name)
    (replaces : ∀ fields : Fields, fields.Shows [part] field →
      ∃ others : Fields, others.Shows [other] field ∧
        (∀ kept, kept ≠ field → others.Agree fields kept) ∧ fields.Matches Carries others) :
    Carries (.mapping ((key, part) :: entries)) (.mapping ((key, other) :: entries)) := by
  rintro schema ⟨has, rule⟩
  obtain ⟨others, has', same⟩ := hasFields_replaced isKey (replaces _) has
  exact .node has' (rule_matches (fun _ _ carries => carries) same rule)

theorem carries_items (isKey : key.text? = some Field.items.name)
    (present : part = .null ↔ other = .null) (carries : Carries part other) :
    Carries (.mapping ((key, part) :: entries)) (.mapping ((key, other) :: entries)) := by
  refine carries_field isKey fun fields shows => ?_
  have shows : Holds Eq [part] fields.items := shows
  cases given : fields.items with
  | none =>
    rw [given] at shows
    cases shows
    obtain rfl := present.mp rfl
    have shown : fields.Shows [.null] .items := by
      rw [Fields.Shows, given]
      exact .null
    exact ⟨fields, shown, fun _ _ => Fields.agree_refl, matches_self carries_self fields⟩
  | some value =>
    rw [given] at shows
    cases shows with
    | value isValue same =>
      cases same
      refine ⟨{ fields with items := some other }, .value (mt present.mpr isValue) rfl,
        fun field differ => Fields.take_keeps fields { fields with items := some other } differ, ?_⟩
      exact { matches_self carries_self fields with
        items := fun _ same => ⟨other, rfl, Option.some.inj (given.symm.trans same) ▸ carries⟩ }

theorem carries_property {before after : List (Yaml.Value × Yaml.Value)}
    {name value part : Yaml.Value}
    {listed relisted : Yaml.Value} (isKey : key.text? = some Field.properties.name)
    (lists : listed.untagged = .mapping (before ++ (name, value) :: after))
    (relists : relisted.untagged = .mapping (before ++ (name, part) :: after))
    (carries : Carries value part) :
    Carries (.mapping ((key, listed) :: entries)) (.mapping ((key, relisted) :: entries)) := by
  refine carries_field isKey fun fields shows => ?_
  have shows : Holds IsNamed [listed] fields.properties := shows
  cases given : fields.properties with
  | none =>
    rw [given] at shows
    cases shows
    cases lists
  | some properties =>
    rw [given] at shows
    cases shows with
    | value isValue isNamed =>
      obtain ⟨others, isNamed', same⟩ :=
        isNamed_replaced carries_self lists relists carries isNamed
      have isValue' : relisted ≠ .null := by
        rintro rfl
        cases relists
      obtain ⟨names, inside⟩ := sameName_names same
      refine ⟨{ fields with properties := some others }, .value isValue' isNamed',
        fun field differ =>
          Fields.take_keeps fields { fields with properties := some others } differ, ?_⟩
      exact { matches_self carries_self fields with
        names := by rw [given]; exact names
        properties := by rw [given]; exact inside }

theorem carries_variant {before after : List Yaml.Value} {value part listed relisted : Yaml.Value}
    (isKey : key.text? = some Field.oneOf.name)
    (lists : listed.untagged = .sequence (before ++ value :: after))
    (relists : relisted.untagged = .sequence (before ++ part :: after))
    (carries : Carries value part) :
    Carries (.mapping ((key, listed) :: entries)) (.mapping ((key, relisted) :: entries)) := by
  refine carries_field isKey fun fields shows => ?_
  have shows : Holds IsSequence [listed] fields.oneOf := shows
  cases given : fields.oneOf with
  | none =>
    rw [given] at shows
    cases shows
    cases lists
  | some values =>
    rw [given] at shows
    cases shows with
    | value isValue isSequence =>
      cases isSequence with
      | nothing isNull => exact nomatch isNull.symm.trans lists
      | items isSequence =>
        cases isSequence.symm.trans lists
        have isValue' : relisted ≠ .null := by
          rintro rfl
          cases relists
        have inside : List.Forall₂ Carries (before ++ value :: after) (before ++ part :: after) :=
          List.rel_append (forall₂_related carries_self before)
            (.cons carries (forall₂_related carries_self after))
        refine ⟨{ fields with oneOf := some (before ++ part :: after) },
          .value isValue' (.items relists), fun field differ => Fields.take_keeps fields
            { fields with oneOf := some (before ++ part :: after) } differ, ?_⟩
        exact { matches_self carries_self fields with
          whole := fun whole => nomatch given.symm.trans whole
          oneOf := fun _ same => ⟨_, rfl, Option.some.inj (given.symm.trans same) ▸ inside⟩ }

end Inside

theorem null_of_restates {value other : Yaml.Value} (restates : Restates value other) :
    value = .null ↔ other = .null := by
  induction restates with
  | same => exact .rfl
  | back _ ih => exact ih.symm
  | next _ _ ih ih' => exact ih.trans ih'
  | reordered | unknown | null | tagged | items | property | variant => exact ⟨nofun, nofun⟩

theorem derives_tagged {tag : String} {value : Yaml.Value} {schema : Schema} :
    Derives (.tagged tag value) schema ↔ Derives value schema := by
  constructor
  · rintro ⟨⟨entries, isMapping, has⟩, rule⟩
    exact .node ⟨entries, isMapping, has⟩ rule
  · rintro ⟨⟨entries, isMapping, has⟩, rule⟩
    exact .node ⟨entries, isMapping, has⟩ rule

theorem derives_iff_of_fields {value other : Yaml.Value}
    (same : ∀ fields, HasFields value fields ↔ HasFields other fields) (schema : Schema) :
    Derives value schema ↔ Derives other schema :=
  ⟨fun ⟨has, rule⟩ => .node ((same _).mp has) rule,
    fun ⟨has, rule⟩ => .node ((same _).mpr has) rule⟩

theorem derives_iff_of_restates {value other : Yaml.Value} (restates : Restates value other)
    (schema : Schema) : Derives value schema ↔ Derives other schema := by
  induction restates generalizing schema with
  | same => exact .rfl
  | back _ ih => exact (ih schema).symm
  | next _ _ ih ih' => exact (ih schema).trans (ih' schema)
  | reordered same =>
    exact derives_iff_of_fields (fun _ => ⟨hasFields_perm same, hasFields_perm same.symm⟩) schema
  | unknown isKey unknown =>
    exact derives_iff_of_fields (fun _ => hasFields_unknown isKey unknown) schema
  | null isKey absent => exact derives_iff_of_fields (fun _ => hasFields_null isKey absent) schema
  | tagged _ ih => rw [derives_tagged, derives_tagged, ih]
  | items isKey restates ih =>
    have present := null_of_restates restates
    exact ⟨carries_items isKey present (fun schema => (ih schema).mp) schema,
      carries_items isKey present.symm (fun schema => (ih schema).mpr) schema⟩
  | property isKey lists relists _ ih =>
    exact ⟨carries_property isKey lists relists (fun schema => (ih schema).mp) schema,
      carries_property isKey relists lists (fun schema => (ih schema).mpr) schema⟩
  | variant isKey lists relists _ ih =>
    exact ⟨carries_variant isKey lists relists (fun schema => (ih schema).mp) schema,
      carries_variant isKey relists lists (fun schema => (ih schema).mpr) schema⟩

/-- Decoding finds exactly the schemas that the grammar derives, and finds the same however the
nodes are stated. -/
theorem decodes_grammar (path : String) (value : Yaml.Value) :
    (∀ schema, decodeNamed path value = .ok schema ↔ Derives value schema) ∧
      ∀ other, Restates value other → ∀ schema,
        decodeNamed path value = .ok schema ↔ decodeNamed path other = .ok schema := by
  refine ⟨fun schema => decodeNamed_iff, fun other restates schema => ?_⟩
  rw [decodeNamed_iff, decodeNamed_iff]
  exact derives_iff_of_restates restates schema

namespace RestatedNode

def node (fields : List (String × Yaml.Value)) : Yaml.Value :=
  .mapping (fields.map fun field => (.string field.1, field.2))

def text : Yaml.Value := node [("type", .string "string")]

def trees (leaf : Yaml.Value) : Yaml.Value :=
  node [("items", node [("properties", node [("leaf", leaf)]), ("type", .string "object")]),
    ("type", .string "array")]

def restatedText : Yaml.Value :=
  node [("default", .bool true), ("type", .string "string"), ("enum", .null)]

def schema : Schema :=
  .array (.object [("leaf", .primitive .string none {})] [] {}) {}

theorem restates_text : Restates text restatedText := by
  have nulled : Restates text (node [("enum", .null), ("type", .string "string")]) :=
    .null (rfl : _ = some Field.enum.name) rfl
  have extended : Restates (node [("enum", .null), ("type", .string "string")])
      (node [("default", .bool true), ("enum", .null), ("type", .string "string")]) :=
    .unknown rfl (by rintro ⟨⟩ <;> decide +kernel)
  exact .next nulled (.next extended (.reordered (.cons _ (.swap _ _ _))))

theorem restates_trees : Restates (trees text) (trees restatedText) := by
  have listed : (node [("leaf", text)]).untagged =
      .mapping ([] ++ (.string "leaf", text) :: []) := rfl
  exact .items rfl (.property rfl listed rfl restates_text)

theorem restated_trees_decode : Restates (trees text) (trees restatedText) ∧
    decodeNamed "Trees" (trees restatedText) = .ok schema :=
  ⟨restates_trees,
    ((decodes_grammar "Trees" (trees text)).2 (trees restatedText) restates_trees schema).mp rfl⟩

end RestatedNode

end Typewright.Schema
