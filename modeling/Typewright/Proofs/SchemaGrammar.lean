import Typewright.Proofs.ContainedValues
import Typewright.Proofs.FieldReading

/-!
Which values are schemas. The kind of a node is a rule about its fields, and at most one rule fits;
the rules say nothing of how a value is read. Decoding finds exactly the schemas that the rules
derive.
-/
namespace Typewright.Schema

/-- The type that is declared. A text that names no type is not the same as no type. -/
def Fields.Declares (fields : Fields) (type : Option DataType) : Prop :=
  fields.type = type.map DataType.name

/-- The kinds of nodes. Each rule excludes the kinds that come before it. -/
inductive Rule (inner : Yaml.Value → Schema → Prop) : Schema → Fields → Prop where
  | object {fields : Fields} {properties : List (String × Schema)}
    (declared : fields.Declares (some .object)) (alone : fields.reference = none)
    (names : Pairs.keys properties = Pairs.keys (fields.properties.getD []))
    (inside : List.Forall₂ inner ((fields.properties.getD []).map Prod.snd)
      (properties.map Prod.snd)) :
    Rule inner (.object properties (fields.required.getD []) fields.note) fields
  | enumeration {fields : Fields} {type : DataType} {values : List Literal}
    (declared : fields.Declares (some type)) (alone : fields.reference = none)
    (listed : fields.enum = some values) (enumerable : type.isEnumerable = true)
    (some : values ≠ []) (fit : ∀ value ∈ values, value.fits type = true) :
    Rule inner (.enumeration type values fields.note) fields
  | union {fields : Fields} {type : Option DataType} {values : List Yaml.Value}
    {variants : List Schema} (declared : fields.Declares type) (other : type ≠ .some .object)
    (alone : fields.reference = none) (unlisted : fields.enum = none)
    (given : fields.oneOf = .some values) (some : values ≠ [])
    (inside : List.Forall₂ inner values variants) :
    Rule inner (.union variants fields.note) fields
  | array {fields : Fields} {value : Yaml.Value} {items : Schema}
    (declared : fields.Declares (some .array)) (alone : fields.reference = none)
    (unlisted : fields.enum = none) (whole : fields.oneOf = none)
    (given : fields.items = .some value) (inside : inner value items) :
    Rule inner (.array items fields.note) fields
  | reference {fields : Fields} {target : String} (undeclared : fields.Declares none)
    (given : fields.reference = some target) (unlisted : fields.enum = none)
    (whole : fields.oneOf = none) :
    Rule inner (.reference target fields.note) fields
  | primitive {fields : Fields} {type : DataType} (declared : fields.Declares (some type))
    (other : type ≠ .object) (single : type ≠ .array) (alone : fields.reference = none)
    (unlisted : fields.enum = none) (whole : fields.oneOf = none) :
    Rule inner (.primitive type fields.format fields.note) fields

/-- The value has the fields of a node, and a rule makes the schema of them. -/
inductive Derives : Yaml.Value → Schema → Prop where
  | node {value : Yaml.Value} {fields : Fields} {schema : Schema} (has : HasFields value fields)
    (rule : Rule Derives schema fields) : Derives value schema

/-! Decoding by the rules -/

theorem ofName?_iff {name : String} {type : DataType} :
    DataType.ofName? name = some type ↔ type.name = name := by
  constructor
  · intro found
    unfold DataType.ofName? at found
    exact beq_iff_eq.mp (List.find?_some found :)
  · rintro rfl
    cases type <;> decide +kernel

theorem declared_iff {fields : Fields} {type : Option DataType} :
    declared? fields = .ok type ↔ fields.Declares type := by
  unfold declared? Fields.Declares
  cases fields.type with
  | none => cases type <;> simp
  | some name =>
    cases type with
    | none => cases found : DataType.ofName? name <;> simp [found, refuse]
    | some type =>
      have named :
          some name = (some type).map DataType.name ↔ DataType.ofName? name = some type := by
        rw [ofName?_iff, Option.map_some, Option.some.injEq, eq_comm]
      rw [named]
      cases found : DataType.ofName? name <;> simp [found, refuse]

theorem atStep_iff {step : SchemaStep} {result : Decoded α} {value : α} :
    atStep step result = .ok value ↔ result = .ok value := by
  cases result <;> simp [atStep, Except.mapError]

section Children

variable {child : Yaml.Value → Decoded Schema} {inner : Yaml.Value → Schema → Prop}

theorem decodeProperties_iff {pairs : List (String × Yaml.Value)}
    {properties : List (String × Schema)}
    (agree : ∀ value ∈ pairs.map Prod.snd, ∀ schema,
      child value = .ok schema ↔ inner value schema) :
    decodeProperties child pairs = .ok properties ↔ Pairs.keys properties = Pairs.keys pairs ∧
      List.Forall₂ inner (pairs.map Prod.snd) (properties.map Prod.snd) := by
  induction pairs generalizing properties with
  | nil =>
    simp only [decodeProperties, Except.ok.injEq, List.map_nil, List.forall₂_nil_left_iff,
      List.map_eq_nil_iff, Pairs.keys]
    exact ⟨fun same => ⟨same ▸ rfl, same.symm⟩, fun same => same.2.symm⟩
  | cons pair rest ih =>
    obtain ⟨name, value⟩ := pair
    obtain ⟨here, later⟩ := List.forall_mem_cons.mp agree
    constructor
    · intro decoded
      obtain ⟨schema, found, more⟩ := bind_eq_ok.mp decoded
      obtain ⟨others, found', same⟩ := bind_eq_ok.mp more
      cases same
      obtain ⟨names, inside⟩ := (ih later).mp found'
      exact ⟨congrArg (name :: ·) names, .cons ((here schema).mp (atStep_iff.mp found)) inside⟩
    · rintro ⟨names, inside⟩
      cases properties with
      | nil => cases names
      | cons property others =>
        obtain ⟨_, schema⟩ := property
        obtain ⟨same, others'⟩ := List.cons.inj names
        cases same
        obtain ⟨found, inside⟩ := List.forall₂_cons.mp inside
        exact bind_eq_ok.mpr ⟨schema, atStep_iff.mpr ((here schema).mpr found),
          bind_eq_ok.mpr ⟨others, (ih later).mpr ⟨others', inside⟩, rfl⟩⟩

theorem decodeVariants_iff {position : Nat} {values : List Yaml.Value} {variants : List Schema}
    (agree : ∀ value ∈ values, ∀ schema, child value = .ok schema ↔ inner value schema) :
    decodeVariants child position values = .ok variants ↔ List.Forall₂ inner values variants := by
  induction values generalizing position variants with
  | nil =>
    simp only [decodeVariants, Except.ok.injEq, List.forall₂_nil_left_iff]
    exact eq_comm
  | cons value rest ih =>
    obtain ⟨here, later⟩ := List.forall_mem_cons.mp agree
    rw [List.forall₂_cons_left_iff]
    constructor
    · intro decoded
      obtain ⟨schema, found, more⟩ := bind_eq_ok.mp decoded
      obtain ⟨others, found', same⟩ := bind_eq_ok.mp more
      cases same
      exact ⟨schema, others, (here schema).mp (atStep_iff.mp found), (ih later).mp found', rfl⟩
    · rintro ⟨schema, others, found, inside, rfl⟩
      exact bind_eq_ok.mpr ⟨schema, atStep_iff.mpr ((here schema).mpr found),
        bind_eq_ok.mpr ⟨others, (ih later).mpr inside, rfl⟩⟩

end Children

theorem decodeEnumeration_iff {type : Option DataType} {values : List Literal} {note : Annotation}
    {schema : Schema} :
    decodeEnumeration type values note = .ok schema ↔
      ∃ known, type = some known ∧ known.isEnumerable = true ∧ values ≠ [] ∧
        (∀ value ∈ values, value.fits known = true) ∧ schema = .enumeration known values note := by
  unfold decodeEnumeration
  cases enumerable : type.filter DataType.isEnumerable with
  | none =>
    refine iff_of_false (by simp [refuse]) ?_
    rintro ⟨known, rfl, isEnumerable, -⟩
    simp [Option.filter, isEnumerable] at enumerable
  | some known =>
    obtain ⟨rfl, isEnumerable⟩ := Option.filter_eq_some_iff.mp enumerable
    cases values with
    | nil => simp [refuse]
    | cons first rest =>
      cases misfit : (first :: rest).find? fun value => !value.fits known with
      | some value =>
        refine iff_of_false (by simp [misfit, refuse]) ?_
        rintro ⟨_, ⟨⟩, -, -, fit, -⟩
        have found := List.find?_some misfit
        rw [fit value (List.mem_of_find?_eq_some misfit)] at found
        cases found
      | none =>
        have fit : ∀ value ∈ first :: rest, value.fits known = true := by
          simpa using List.find?_eq_none.mp misfit
        simp only [List.isEmpty_cons, Bool.false_eq_true, ↓reduceIte, misfit, Except.ok.injEq]
        constructor
        · rintro rfl
          exact ⟨known, rfl, isEnumerable, List.cons_ne_nil first rest, fit, rfl⟩
        · rintro ⟨_, ⟨⟩, -, -, -, rfl⟩
          rfl

def Fields.children (fields : Fields) : List Yaml.Value :=
  (fields.properties.getD []).map Prod.snd ++ fields.items.toList ++ fields.oneOf.getD []

section Rules

variable {child : Yaml.Value → Decoded Schema} {inner : Yaml.Value → Schema → Prop}
variable {fields : Fields} {schema : Schema}

theorem rule_of_classify (agree : ∀ value ∈ fields.children, ∀ schema,
    child value = .ok schema ↔ inner value schema)
    (classified : classify child fields = .ok schema) : Rule inner schema fields := by
  simp only [Fields.children, List.mem_append, or_imp, forall_and] at agree
  obtain ⟨⟨ofProperties, ofItems⟩, ofVariants⟩ := agree
  obtain ⟨type, found, kind⟩ := bind_eq_ok.mp classified
  have declared := declared_iff.mp found
  split at kind
  · cases kind
  next pure =>
  have alone (mixed : type.isSome ∨ fields.oneOf.isSome) : fields.reference = none := by
    simpa [mixed] using pure
  split at kind
  · next isObject =>
    obtain rfl := isObject
    obtain ⟨properties, decoded, same⟩ := bind_eq_ok.mp kind
    cases same
    obtain ⟨names, inside⟩ := (decodeProperties_iff ofProperties).mp decoded
    exact .object declared (alone (.inl rfl)) names inside
  next other =>
  split at kind
  · next listed =>
    obtain ⟨known, rfl, enumerable, some, fit, rfl⟩ := decodeEnumeration_iff.mp kind
    exact .enumeration declared (alone (.inl rfl)) listed enumerable some fit
  · cases kind
  · next some unlisted given =>
    obtain ⟨variants, decoded, same⟩ := bind_eq_ok.mp kind
    cases same
    rw [given] at alone ofVariants
    exact .union declared other (alone (.inr rfl)) unlisted given some
      ((decodeVariants_iff ofVariants).mp decoded)
  · next unlisted whole =>
    split at kind
    · cases kind
    · next value given =>
      obtain ⟨items, decoded, same⟩ := bind_eq_ok.mp kind
      cases same
      rw [given] at ofItems
      exact .array declared (alone (.inl rfl)) unlisted whole given
        ((ofItems value (List.mem_singleton_self value) items).mp (atStep_iff.mp decoded))
  · next unlisted whole _ given =>
    cases kind
    have undeclared := mt (fun typed => alone (.inl typed)) (given ▸ Option.some_ne_none _)
    rw [Option.not_isSome_iff_eq_none] at undeclared
    exact .reference (undeclared ▸ declared) given unlisted whole
  · next single unlisted whole _ =>
    cases kind
    exact .primitive declared (fun same => other (congrArg some same)) single
      (alone (.inl rfl)) unlisted whole
  · cases kind

theorem classify_of_rule (agree : ∀ value ∈ fields.children, ∀ schema,
    child value = .ok schema ↔ inner value schema) (rule : Rule inner schema fields) :
    classify child fields = .ok schema := by
  simp only [Fields.children, List.mem_append, or_imp, forall_and] at agree
  obtain ⟨⟨ofProperties, ofItems⟩, ofVariants⟩ := agree
  cases rule with
  | object declared alone names inside =>
    have decoded := (decodeProperties_iff ofProperties).mpr ⟨names, inside⟩
    rw [classify, declared_iff.mpr declared]
    simp [alone, decoded, bind, Except.bind, pure, Except.pure]
  | @enumeration _ type values declared alone listed enumerable some fit =>
    have decoded : decodeEnumeration (.some type) values fields.note = .ok _ :=
      decodeEnumeration_iff.mpr ⟨type, rfl, enumerable, some, fit, rfl⟩
    have other : type ≠ .object := by
      rintro rfl
      cases enumerable
    rw [classify, declared_iff.mpr declared]
    simp [alone, listed, other, decoded, bind, Except.bind]
  | @union _ type values variants declared other alone unlisted given some inside =>
    rw [given] at ofVariants
    have decoded : decodeVariants child 1 values = .ok variants :=
      (decodeVariants_iff ofVariants).mpr inside
    rw [classify, declared_iff.mpr declared]
    simp [alone, unlisted, given, other, decoded, bind, Except.bind, pure, Except.pure]
  | array declared alone unlisted whole given inside =>
    have decoded := (ofItems _ (by simp [given]) _).mpr inside
    rw [classify, declared_iff.mpr declared]
    simp [alone, unlisted, whole, given, atStep, decoded, Except.mapError, bind, Except.bind,
      pure, Except.pure]
  | reference undeclared given unlisted whole =>
    rw [classify, declared_iff.mpr undeclared]
    simp [given, unlisted, whole, bind, Except.bind, pure, Except.pure]
  | primitive declared other single alone unlisted whole =>
    rw [classify, declared_iff.mpr declared]
    simp [alone, unlisted, whole, other, bind, Except.bind, pure, Except.pure]

theorem classify_iff (agree : ∀ value ∈ fields.children, ∀ schema,
    child value = .ok schema ↔ inner value schema) :
    classify child fields = .ok schema ↔ Rule inner schema fields :=
  ⟨rule_of_classify agree, classify_of_rule agree⟩

end Rules

end Typewright.Schema

namespace Typewright.Yaml.Value

theorem height_pos (value : Value) : 0 < value.height := by
  cases value <;> simp [height]

theorem height_item {items : List Value} {item : Value} (member : item ∈ items) :
    item.height ≤ heightItems items := by
  induction items with
  | nil => cases member
  | cons first rest ih =>
    rw [heightItems]
    rcases List.mem_cons.mp member with rfl | later
    · exact Nat.le_max_left ..
    · exact Nat.le_trans (ih later) (Nat.le_max_right ..)

theorem height_entry {entries : List (Value × Value)} {entry : Value × Value}
    (member : entry ∈ entries) : entry.2.height ≤ heightEntries entries := by
  induction entries with
  | nil => cases member
  | cons first rest ih =>
    rw [heightEntries]
    rcases List.mem_cons.mp member with rfl | later
    · exact Nat.le_trans (Nat.le_max_right ..) (Nat.le_max_left ..)
    · exact Nat.le_trans (ih later) (Nat.le_max_right ..)

theorem height_of_contains {value part : Value} (contains : value.Contains part) :
    part.height ≤ value.height := by
  induction contains with
  | whole value => exact Nat.le_refl _
  | item member _ ih => exact Nat.le_succ_of_le (Nat.le_trans ih (height_item member))
  | entry member _ ih => exact Nat.le_succ_of_le (Nat.le_trans ih (height_entry member))
  | tagged _ ih => exact Nat.le_succ_of_le ih

theorem height_untagged (value : Value) : value.untagged.height ≤ value.height := by
  fun_induction untagged value with
  | case1 tag value ih => exact Nat.le_succ_of_le ih
  | case2 value notTagged => exact Nat.le_refl _

end Typewright.Yaml.Value

namespace Typewright.Schema

theorem mem_valuesUnder {name : String} {entries : List (Yaml.Value × Yaml.Value)}
    {value : Yaml.Value} (member : value ∈ valuesUnder name entries) :
    ∃ key, (key, value) ∈ entries ∧ key.text? = some name := by
  obtain ⟨⟨key, _⟩, known, rfl⟩ := List.mem_map.mp member
  obtain ⟨listed, isKey⟩ := List.mem_filter.mp known
  exact ⟨key, listed, of_decide_eq_true isKey⟩

theorem holds_some {α : Type} {shape : Yaml.Value → α → Prop} {values : List Yaml.Value}
    {content? : Option α} {content : α} (given : content? = some content)
    (holds : Holds shape values content?) : ∃ value ∈ values, shape value content := by
  subst given
  cases holds with
  | value present fits => exact ⟨_, List.mem_singleton_self _, fits⟩

theorem isSequence_contains {value item : Yaml.Value} {items : List Yaml.Value}
    (isSequence : IsSequence value items) (member : item ∈ items) : value.Contains item := by
  cases isSequence with
  | items same =>
    apply Yaml.Value.contains_untagged
    rw [same]
    exact .item member (.whole item)
  | nothing => cases member

theorem isNamed_contains {value : Yaml.Value} {properties : List (String × Yaml.Value)}
    {property : String × Yaml.Value} (isNamed : IsNamed value properties)
    (member : property ∈ properties) : value.Contains property.2 := by
  obtain ⟨entries, pairs, isMapping, listed, rfl⟩ := isNamed
  obtain ⟨entry, known, -, same⟩ := exists_of_forall₂ listed (Pairs.mem_collect member)
  rw [same]
  cases isMapping with
  | entries isMapping =>
    exact Yaml.Value.contains_entry (by rw [Yaml.Value.entries?, isMapping]) known
  | nothing => cases known

theorem child_of_entry {fields : Fields} {entries : List (Yaml.Value × Yaml.Value)}
    (shows : ∀ field : Field, fields.Shows (valuesUnder field.name entries) field)
    {value : Yaml.Value} (member : value ∈ fields.children) :
    ∃ entry ∈ entries, entry.2.Contains value := by
  suffices found : ∃ (field : Field), ∃ part ∈ valuesUnder field.name entries,
      part.Contains value by
    obtain ⟨field, part, isPart, contains⟩ := found
    obtain ⟨key, known, _⟩ := mem_valuesUnder isPart
    exact ⟨(key, part), known, contains⟩
  simp only [Fields.children, List.mem_append] at member
  rcases member with (member | member) | member
  · cases given : fields.properties with
    | none => simp [given] at member
    | some properties =>
      rw [given] at member
      obtain ⟨property, known, rfl⟩ := List.mem_map.mp member
      obtain ⟨part, isPart, isNamed⟩ := holds_some given (shows .properties)
      exact ⟨.properties, part, isPart, isNamed_contains isNamed known⟩
  · have given : fields.items = some value := Option.mem_toList.mp member
    obtain ⟨part, isPart, rfl⟩ := holds_some given (shows .items)
    exact ⟨.items, part, isPart, .whole part⟩
  · cases given : fields.oneOf with
    | none => simp [given] at member
    | some values =>
      rw [given] at member
      obtain ⟨part, isPart, isSequence⟩ := holds_some given (shows .oneOf)
      exact ⟨.oneOf, part, isPart, isSequence_contains isSequence member⟩

theorem child_contained {node value : Yaml.Value} {fields : Fields} (has : HasFields node fields)
    (member : value ∈ fields.children) : node.Contains value := by
  obtain ⟨entries, isMapping, -, shows⟩ := has
  obtain ⟨entry, known, contains⟩ := child_of_entry shows member
  exact Yaml.Value.contains_trans (Yaml.Value.contains_entry isMapping known) contains

theorem child_below {node value : Yaml.Value} {fields : Fields} (has : HasFields node fields)
    (member : value ∈ fields.children) : value.height < node.height := by
  obtain ⟨entries, isMapping, -, shows⟩ := has
  obtain ⟨entry, known, contains⟩ := child_of_entry shows member
  have inside := Nat.le_trans (Yaml.Value.height_of_contains contains)
    (Yaml.Value.height_entry known)
  have whole := Yaml.Value.height_untagged node
  unfold Yaml.Value.entries? at isMapping
  split at isMapping
  · next same =>
    cases isMapping
    rw [same, Yaml.Value.height] at whole
    exact Nat.lt_of_le_of_lt inside whole
  · cases isMapping

theorem derives_iff {value : Yaml.Value} {schema : Schema} :
    Derives value schema ↔ ∃ fields, HasFields value fields ∧ Rule Derives schema fields := by
  constructor
  · rintro ⟨has, rule⟩
    exact ⟨_, has, rule⟩
  · rintro ⟨fields, has, rule⟩
    exact .node has rule

theorem decodeWithin_iff {depth : Nat} {value : Yaml.Value} {schema : Schema}
    (deep : value.height ≤ depth) :
    decodeWithin depth value = .ok schema ↔ Derives value schema := by
  induction depth generalizing value schema with
  | zero => exact absurd (Yaml.Value.height_pos value) (Nat.not_lt.mpr deep)
  | succ depth ih =>
    rw [derives_iff, decodeWithin, decodeNode]
    cases isRead : Fields.read value with
    | error fault =>
      refine iff_of_false (by simp [refuse]) ?_
      rintro ⟨fields, has, -⟩
      cases isRead.symm.trans (Fields.read_iff.mpr (.inl has))
    | ok fields =>
      rcases Fields.read_iff.mp isRead with has | ⟨isNull, rfl⟩
      · have classifies : classify (decodeWithin depth) fields = .ok schema ↔
            Rule Derives schema fields :=
          classify_iff fun child member _ =>
            ih (Nat.le_of_lt_succ (Nat.lt_of_lt_of_le (child_below has member) deep))
        refine classifies.trans ⟨fun rule => ⟨fields, has, rule⟩, ?_⟩
        rintro ⟨others, also, rule⟩
        -- a node has its fields in one way only
        cases isRead.symm.trans (Fields.read_iff.mpr (.inl also))
        exact rule
      · refine iff_of_false (by rintro ⟨⟩) ?_
        rintro ⟨others, ⟨entries, isMapping, -⟩, -⟩
        rw [Yaml.Value.entries?, isNull] at isMapping
        cases isMapping

theorem decodeNamed_iff {path : String} {value : Yaml.Value} {schema : Schema} :
    decodeNamed path value = .ok schema ↔ Derives value schema := by
  rw [← decodeWithin_iff (Nat.le_refl value.height), decodeNamed, decode]
  cases decodeWithin value.height value <;> simp [Except.mapError]

end Typewright.Schema
