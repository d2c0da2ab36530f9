import Typewright.Proofs.SchemaGrammar

/-!
Values that are no schemas. Decoding blames one node: the way to it leads through nodes that keep
the rules about their own fields, past children that are schemas, and the node itself breaks a rule.
The way and the rule are all that a message says; the name that a value is decoded under only stands
in front of the way.
-/
namespace Typewright

theorem bind_eq_error {x : Except ε α} {f : α → Except ε β} {failure : ε} :
    (x >>= f) = .error failure ↔
      x = .error failure ∨ ∃ value, x = .ok value ∧ f value = .error failure := by
  cases x with
  | error other => simp [bind, Except.bind]
  | ok value => simp [bind, Except.bind]

theorem NodeFault.message_around (fault : NodeFault) :
    ∃ front back, ∀ location, fault.message location = front ++ location ++ back := by
  have ends (first : String) :
      ∃ front back, ∀ location, first ++ location = front ++ location ++ back :=
    ⟨first, "", fun _ => String.append_empty.symm⟩
  cases fault with
  | fields fault =>
    refine ⟨"Invalid type for: ", " (" ++ fault.message ++ ")", fun location => ?_⟩
    show "Invalid type for: " ++ location ++ " (" ++ fault.message ++ ")" = _
    simp only [String.append_assoc]
  | unknownType name => exact ends ("Invalid type '" ++ name ++ "' for: ")
  | mixedReference => exact ends "$ref cannot be combined with type or oneOf for: "
  | enumType => exact ends "Invalid enum type for: "
  | emptyEnum => exact ends "Empty enum for: "
  | enumValue value type =>
    exact ends ("Enum value " ++ value.listing ++ " is not a " ++ type.name ++ " for: ")
  | noVariants => exact ends "Invalid oneOf type for: "
  | noItems => exact ends "Invalid array type for: "
  | noKind => exact ends "Invalid property type for: "

namespace Schema

def Bears (node : Yaml.Value) (fields : Fields) : Prop :=
  HasFields node fields ∨ node.untagged = .null ∧ fields = {}

namespace Fields

def Exclusive (fields : Fields) : Prop :=
  fields.reference ≠ none → fields.type = none ∧ fields.oneOf = none

/-- Why these values are no enumeration of this type: the first reason. -/
inductive NoEnumeration : Option DataType → List Literal → NodeFault → Prop where
  | type {type : Option DataType} {values : List Literal}
    (other : ∀ known, type = some known → known.isEnumerable = false) :
    NoEnumeration type values .enumType
  | empty {type : DataType} (enumerable : type.isEnumerable = true) :
    NoEnumeration (some type) [] .emptyEnum
  | value {type : DataType} {before after : List Literal} {value : Literal}
    (enumerable : type.isEnumerable = true) (fit : ∀ earlier ∈ before, earlier.fits type = true)
    (unfit : value.fits type = false) :
    NoEnumeration (some type) (before ++ value :: after) (.enumValue value type)

/-- The rules about the fields of one node. Each is asked for where those before it are kept. -/
inductive Breaks (fields : Fields) : NodeFault → Prop where
  | unknownType {name : String} (given : fields.type = some name)
    (unknown : ∀ type : DataType, type.name ≠ name) : Breaks fields (.unknownType name)
  | mixedReference {type : Option DataType} (declared : fields.Declares type)
    (mixed : ¬fields.Exclusive) : Breaks fields .mixedReference
  | enumeration {type : Option DataType} {values : List Literal} {fault : NodeFault}
    (declared : fields.Declares type) (exclusive : fields.Exclusive) (other : type ≠ some .object)
    (listed : fields.enum = some values) (none : NoEnumeration type values fault) :
    Breaks fields fault
  | noVariants {type : Option DataType} (declared : fields.Declares type)
    (other : type ≠ some .object) (alone : fields.reference = none)
    (unlisted : fields.enum = none) (given : fields.oneOf = some []) : Breaks fields .noVariants
  | noItems (declared : fields.Declares (some .array)) (alone : fields.reference = none)
    (unlisted : fields.enum = none) (whole : fields.oneOf = none)
    (missing : fields.items = none) : Breaks fields .noItems
  | noKind (undeclared : fields.Declares none) (alone : fields.reference = none)
    (unlisted : fields.enum = none) (whole : fields.oneOf = none) : Breaks fields .noKind

inductive Inside (valid : Yaml.Value → Prop) (fields : Fields) : SchemaStep → Yaml.Value → Prop where
  | property {before after : List (String × Yaml.Value)} {name : String} {value : Yaml.Value}
    (declared : fields.Declares (some .object)) (alone : fields.reference = none)
    (given : fields.properties = some (before ++ (name, value) :: after))
    (earlier : ∀ property ∈ before, valid property.2) : Inside valid fields (.property name) value
  | variant {type : Option DataType} {before after : List Yaml.Value} {value : Yaml.Value}
    (declared : fields.Declares type) (other : type ≠ some .object)
    (alone : fields.reference = none) (unlisted : fields.enum = none)
    (given : fields.oneOf = some (before ++ value :: after))
    (earlier : ∀ variant ∈ before, valid variant) :
    Inside valid fields (.variant (before.length + 1)) value
  | items {value : Yaml.Value} (declared : fields.Declares (some .array))
    (alone : fields.reference = none) (unlisted : fields.enum = none)
    (whole : fields.oneOf = none) (given : fields.items = some value) :
    Inside valid fields .items value

end Fields

def IsSchema (value : Yaml.Value) : Prop := ∃ schema, Derives value schema

/-- The steps lead from a node to one inside it, and all that is passed on the way is a schema. -/
inductive Leads : Yaml.Value → List SchemaStep → Yaml.Value → Prop where
  | here (node : Yaml.Value) : Leads node [] node
  | step {node child last : Yaml.Value} {fields : Fields} {step : SchemaStep}
    {steps : List SchemaStep} (has : HasFields node fields)
    (inside : fields.Inside IsSchema step child) (onward : Leads child steps last) :
    Leads node (step :: steps) last

/-- The node breaks a rule by its own fields. A node that bears no fields cannot be read. -/
inductive Offends (node : Yaml.Value) : NodeFault → Prop where
  | fields {fault : FieldFault} (none : ∀ fields, ¬Bears node fields)
    (refused : Fields.read node = .error fault) : Offends node (.fields fault)
  | rule {fields : Fields} {fault : NodeFault} (bears : Bears node fields)
    (breaks : fields.Breaks fault) : Offends node fault

/-! Children that do not decode -/

section Children

variable {child : Yaml.Value → Decoded Schema} {misfit : Misfit}

theorem atStep_error {step : SchemaStep} {result : Decoded α} :
    atStep step result = .error misfit ↔
      ∃ inner, result = .error inner ∧ misfit = inner.under step := by
  cases result with
  | error inner => simp [atStep, Except.mapError, eq_comm]
  | ok value => simp [atStep, Except.mapError]

theorem decodeProperties_error {pairs : List (String × Yaml.Value)} :
    decodeProperties child pairs = .error misfit ↔
      ∃ before name value after inner, pairs = before ++ (name, value) :: after ∧
        (∀ property ∈ before, ∃ schema, child property.2 = .ok schema) ∧
        child value = .error inner ∧ misfit = inner.under (.property name) := by
  induction pairs with
  | nil => simp [decodeProperties]
  | cons pair rest ih =>
    obtain ⟨name, value⟩ := pair
    constructor
    · intro fails
      rcases bind_eq_error.mp fails with here | ⟨schema, decoded, later⟩
      · obtain ⟨inner, isError, same⟩ := atStep_error.mp here
        exact ⟨[], name, value, rest, inner, rfl, List.forall_mem_nil _, isError, same⟩
      · rcases bind_eq_error.mp later with onward | ⟨others, _, ended⟩
        · obtain ⟨before, other, part, after, inner, rfl, earlier, isError, same⟩ := ih.mp onward
          refine ⟨(name, value) :: before, other, part, after, inner, rfl, ?_, isError, same⟩
          exact List.forall_mem_cons.mpr ⟨⟨schema, atStep_iff.mp decoded⟩, earlier⟩
        · cases ended
    · intro fails
      obtain ⟨before, other, part, after, inner, split, earlier, isError, same⟩ := fails
      cases before with
      | nil =>
        cases split
        exact bind_eq_error.mpr (.inl (atStep_error.mpr ⟨inner, isError, same⟩))
      | cons first before =>
        obtain ⟨rfl, rfl⟩ := List.cons.inj split
        obtain ⟨⟨schema, decoded⟩, earlier⟩ := List.forall_mem_cons.mp earlier
        have onward := ih.mpr ⟨before, other, part, after, inner, rfl, earlier, isError, same⟩
        exact bind_eq_error.mpr (.inr ⟨schema, atStep_iff.mpr decoded,
          bind_eq_error.mpr (.inl onward)⟩)

theorem decodeVariants_error {position : Nat} {values : List Yaml.Value} :
    decodeVariants child position values = .error misfit ↔
      ∃ before value after inner, values = before ++ value :: after ∧
        (∀ variant ∈ before, ∃ schema, child variant = .ok schema) ∧
        child value = .error inner ∧ misfit = inner.under (.variant (before.length + position)) := by
  induction values generalizing position with
  | nil => simp [decodeVariants]
  | cons value rest ih =>
    constructor
    · intro fails
      rcases bind_eq_error.mp fails with here | ⟨schema, decoded, later⟩
      · obtain ⟨inner, isError, same⟩ := atStep_error.mp here
        exact ⟨[], value, rest, inner, rfl, List.forall_mem_nil _, isError, by simpa using same⟩
      · rcases bind_eq_error.mp later with onward | ⟨others, _, ended⟩
        · obtain ⟨before, part, after, inner, rfl, earlier, isError, same⟩ := ih.mp onward
          refine ⟨value :: before, part, after, inner, rfl, ?_, isError, ?_⟩
          · exact List.forall_mem_cons.mpr ⟨⟨schema, atStep_iff.mp decoded⟩, earlier⟩
          · rw [same, List.length_cons, Nat.add_right_comm, Nat.add_assoc]
        · cases ended
    · intro fails
      obtain ⟨before, part, after, inner, split, earlier, isError, same⟩ := fails
      cases before with
      | nil =>
        cases split
        exact bind_eq_error.mpr (.inl (atStep_error.mpr ⟨inner, isError, by simpa using same⟩))
      | cons first before =>
        obtain ⟨rfl, rfl⟩ := List.cons.inj split
        obtain ⟨⟨schema, decoded⟩, earlier⟩ := List.forall_mem_cons.mp earlier
        have further : misfit = inner.under (.variant (before.length + (position + 1))) := by
          rw [same, List.length_cons, Nat.add_right_comm, Nat.add_assoc]
        have onward := ih.mpr ⟨before, part, after, inner, rfl, earlier, isError, further⟩
        exact bind_eq_error.mpr (.inr ⟨schema, atStep_iff.mpr decoded,
          bind_eq_error.mpr (.inl onward)⟩)

/-! Nodes that do not decode -/

theorem declared_error {fields : Fields} :
    declared? fields = .error misfit ↔ ∃ name, fields.type = some name ∧
      (∀ type : DataType, type.name ≠ name) ∧ misfit = ⟨[], .unknownType name⟩ := by
  unfold declared?
  cases fields.type with
  | none => simp
  | some name =>
    cases found : DataType.ofName? name with
    | some type =>
      have known : type.name = name := ofName?_iff.mp found
      simp only [found, reduceCtorEq, Option.some.injEq, false_iff]
      rintro ⟨_, rfl, unknown, -⟩
      exact unknown type known
    | none =>
      have unknown (type : DataType) : type.name ≠ name := by
        intro known
        cases found.symm.trans (ofName?_iff.mpr known)
      simp only [found, refuse, Except.error.injEq, Option.some.injEq]
      constructor
      · intro same
        exact ⟨name, rfl, unknown, same.symm⟩
      · rintro ⟨_, rfl, -, same⟩
        exact same.symm

theorem decodeEnumeration_error {type : Option DataType} {values : List Literal}
    {note : Annotation} : decodeEnumeration type values note = .error misfit ↔
      misfit.steps = [] ∧ Fields.NoEnumeration type values misfit.fault := by
  constructor
  · intro fails
    unfold decodeEnumeration at fails
    split at fails
    · next other =>
      cases fails
      refine ⟨rfl, .type fun known same => ?_⟩
      simpa [same] using other
    · next known isKnown =>
      obtain ⟨rfl, enumerable⟩ := Option.filter_eq_some_iff.mp isKnown
      split at fails
      · next empty =>
        cases fails
        rw [List.isEmpty_iff.mp empty]
        exact ⟨rfl, .empty enumerable⟩
      · split at fails
        · next value found =>
          cases fails
          obtain ⟨unfit, before, after, rfl, fit⟩ := List.find?_eq_some_iff_append.mp found
          exact ⟨rfl, .value enumerable (by simpa using fit) (by simpa using unfit)⟩
        · cases fails
  · rintro ⟨none, fails⟩
    obtain ⟨steps, fault⟩ := misfit
    cases none
    unfold decodeEnumeration
    cases fails with
    | type other =>
      cases type with
      | none => rfl
      | some known => simp [Option.filter, other known rfl, refuse]
    | empty enumerable => simp [Option.filter, enumerable, refuse]
    | @value known before after value enumerable fit unfit =>
      have found : (before ++ value :: after).find? (fun value => !value.fits known) =
          some value := by
        refine List.find?_eq_some_iff_append.mpr ⟨by simp [unfit], before, after, rfl, ?_⟩
        simpa using fit
      simp [Option.filter, enumerable, refuse, found]

theorem exclusive_iff {fields : Fields} {type : Option DataType} (declared : fields.Declares type) :
    fields.Exclusive ↔ ¬(fields.reference.isSome ∧ (type.isSome ∨ fields.oneOf.isSome)) := by
  unfold Fields.Exclusive
  rw [show fields.type = type.map DataType.name from declared]
  cases type <;> cases fields.reference <;> cases fields.oneOf <;> simp

theorem classify_of_breaks {fields : Fields} {fault : NodeFault} (breaks : fields.Breaks fault) :
    classify child fields = .error ⟨[], fault⟩ := by
  cases breaks with
  | unknownType given unknown =>
    rw [classify, declared_error.mpr ⟨_, given, unknown, rfl⟩]
    rfl
  | mixedReference declared mixed =>
    rw [exclusive_iff declared, Classical.not_not] at mixed
    rw [classify, declared_iff.mpr declared]
    simp [mixed, refuse, bind, Except.bind]
  | enumeration declared exclusive other listed none =>
    have fails : decodeEnumeration _ _ fields.note = .error ⟨[], fault⟩ :=
      decodeEnumeration_error.mpr ⟨rfl, none⟩
    rw [exclusive_iff declared] at exclusive
    rw [classify, declared_iff.mpr declared]
    simp [exclusive, other, listed, fails, bind, Except.bind]
  | noVariants declared other alone unlisted given =>
    rw [classify, declared_iff.mpr declared]
    simp [alone, other, unlisted, given, refuse, bind, Except.bind]
  | noItems declared alone unlisted whole missing =>
    rw [classify, declared_iff.mpr declared]
    simp [alone, unlisted, whole, missing, refuse, bind, Except.bind]
  | noKind undeclared alone unlisted whole =>
    rw [classify, declared_iff.mpr undeclared]
    simp [alone, unlisted, whole, refuse, bind, Except.bind]

theorem classify_of_inside {fields : Fields} {step : SchemaStep} {value : Yaml.Value}
    {inner : Misfit}
    (inside : fields.Inside (fun value => ∃ schema, child value = .ok schema) step value)
    (isError : child value = .error inner) :
    classify child fields = .error (inner.under step) := by
  cases inside with
  | @property before after name _ declared alone given earlier =>
    have fails := decodeProperties_error.mpr
      ⟨before, name, value, after, inner, rfl, earlier, isError, rfl⟩
    rw [classify, declared_iff.mpr declared]
    simp [alone, given, fails, bind, Except.bind]
  | @variant type before after _ declared other alone unlisted given earlier =>
    have fails : decodeVariants child 1 (before ++ value :: after) =
        .error (inner.under (.variant (before.length + 1))) :=
      decodeVariants_error.mpr ⟨before, value, after, inner, rfl, earlier, isError, rfl⟩
    rw [classify, declared_iff.mpr declared]
    simp [alone, other, unlisted, given, fails, bind, Except.bind]
  | items declared alone unlisted whole given =>
    rw [classify, declared_iff.mpr declared]
    simp [alone, unlisted, whole, given, isError, atStep, Except.mapError, bind, Except.bind]

theorem classify_error {fields : Fields} :
    classify child fields = .error misfit ↔
      misfit.steps = [] ∧ fields.Breaks misfit.fault ∨
      ∃ step value inner, fields.Inside (fun value => ∃ schema, child value = .ok schema) step
        value ∧ child value = .error inner ∧ misfit = inner.under step := by
  constructor
  · intro fails
    rcases bind_eq_error.mp fails with undeclared | ⟨type, found, kind⟩
    · obtain ⟨name, given, unknown, rfl⟩ := declared_error.mp undeclared
      exact .inl ⟨rfl, .unknownType given unknown⟩
    have declared := declared_iff.mp found
    split at kind
    · next mixed =>
      cases kind
      exact .inl ⟨rfl, .mixedReference declared fun exclusive =>
        (exclusive_iff declared).mp exclusive mixed⟩
    next pure =>
    have exclusive : fields.Exclusive := (exclusive_iff declared).mpr pure
    have alone (mixed : type.isSome ∨ fields.oneOf.isSome) : fields.reference = none := by
      simpa [mixed] using pure
    split at kind
    · next isObject =>
      cases isObject
      rcases bind_eq_error.mp kind with inside | ⟨properties, _, ended⟩
      · obtain ⟨before, name, value, after, inner, split, earlier, isError, same⟩ :=
          decodeProperties_error.mp inside
        cases given : fields.properties with
        | none => simp [given] at split
        | some pairs =>
          obtain rfl : pairs = before ++ (name, value) :: after := by simpa [given] using split
          exact .inr ⟨_, value, inner, .property declared (alone (.inl rfl)) given earlier, isError,
            same⟩
      · cases ended
    next other =>
    split at kind
    · next listed =>
      obtain ⟨whole, none⟩ := decodeEnumeration_error.mp kind
      exact .inl ⟨whole, .enumeration declared exclusive other listed none⟩
    · next unlisted given =>
      cases kind
      exact .inl ⟨rfl, .noVariants declared other (alone (.inr (by simp [given]))) unlisted given⟩
    · next values _ unlisted given =>
      rcases bind_eq_error.mp kind with inside | ⟨variants, _, ended⟩
      · obtain ⟨before, value, after, inner, rfl, earlier, isError, same⟩ :=
          decodeVariants_error.mp inside
        exact .inr ⟨_, value, inner, .variant declared other (alone (.inr (by simp [given])))
          unlisted given earlier, isError, same⟩
      · cases ended
    · next unlisted whole =>
      split at kind
      · next missing =>
        cases kind
        exact .inl ⟨rfl, .noItems declared (alone (.inl rfl)) unlisted whole missing⟩
      · next value given =>
        rcases bind_eq_error.mp kind with inside | ⟨items, _, ended⟩
        · obtain ⟨inner, isError, same⟩ := atStep_error.mp inside
          exact .inr ⟨_, value, inner, .items declared (alone (.inl rfl)) unlisted whole given,
            isError, same⟩
        · cases ended
    · cases kind
    · cases kind
    · next unlisted whole none =>
      cases kind
      exact .inl ⟨rfl, .noKind declared none unlisted whole⟩
  · rintro (⟨whole, breaks⟩ | ⟨step, value, inner, inside, isError, rfl⟩)
    · obtain ⟨steps, fault⟩ := misfit
      cases whole
      exact classify_of_breaks breaks
    · exact classify_of_inside inside isError

end Children

/-! Nodes on the way -/

section Way

variable {fields : Fields} {step : SchemaStep} {value : Yaml.Value}
variable {valid other : Yaml.Value → Prop}

theorem child_of_inside (inside : fields.Inside valid step value) : value ∈ fields.children := by
  unfold Fields.children
  cases inside with
  | property declared alone given earlier => simp [given]
  | variant declared other alone unlisted given earlier => simp [given]
  | items declared alone unlisted whole given => simp [given]

theorem inside_mono (onward : ∀ child ∈ fields.children, valid child → other child)
    (inside : fields.Inside valid step value) : fields.Inside other step value := by
  unfold Fields.children at onward
  cases inside with
  | property declared alone given earlier =>
    refine .property declared alone given fun pair before => onward pair.2 ?_ (earlier pair before)
    simp only [given, Option.getD_some, List.map_append, List.mem_append]
    exact .inl (.inl (.inl (List.mem_map_of_mem before)))
  | variant declared notObject alone unlisted given earlier =>
    refine .variant declared notObject alone unlisted given fun variant before =>
      onward variant ?_ (earlier variant before)
    simp [given, before]
  | items declared alone unlisted whole given =>
    exact .items declared alone unlisted whole given

theorem not_inside_null (inside : Fields.Inside valid {} step value) : False := by
  cases inside with
  | property declared => cases declared
  | variant declared other alone unlisted given => cases given
  | items declared => cases declared

end Way

theorem decodeNode_error {child : Yaml.Value → Decoded Schema} {value : Yaml.Value}
    {misfit : Misfit} : decodeNode child value = .error misfit ↔
      misfit.steps = [] ∧ Offends value misfit.fault ∨
      ∃ fields step part inner, HasFields value fields ∧
        fields.Inside (fun part => ∃ schema, child part = .ok schema) step part ∧
        child part = .error inner ∧ misfit = inner.under step := by
  unfold decodeNode
  cases isRead : Fields.read value with
  | error fault =>
    have none (fields : Fields) : ¬Bears value fields := by
      intro bears
      cases isRead.symm.trans (Fields.read_iff.mpr bears)
    constructor
    · intro fails
      cases fails
      exact .inl ⟨rfl, .fields none isRead⟩
    · rintro (⟨whole, offends⟩ | ⟨fields, _, _, _, has, _⟩)
      · obtain ⟨steps, reported⟩ := misfit
        cases whole
        cases offends with
        | fields _ refused =>
          cases isRead.symm.trans refused
          rfl
        | rule bears _ => exact absurd bears (none _)
      · exact absurd (.inl has) (none fields)
  | ok fields =>
    have bears : Bears value fields := Fields.read_iff.mp isRead
    -- a node has its fields in one way only
    have own {others : Fields} (again : Bears value others) : fields = others := by
      cases isRead.symm.trans (Fields.read_iff.mpr again)
      rfl
    have itself {fault : NodeFault} : fields.Breaks fault ↔ Offends value fault := by
      constructor
      · exact .rule bears
      · intro offends
        cases offends with
        | fields none => exact absurd bears (none fields)
        | rule again breaks => rwa [own again]
    refine classify_error.trans (or_congr (and_congr_right' itself) ?_)
    constructor
    · rintro ⟨step, part, inner, inside, fails, same⟩
      rcases bears with has | ⟨_, rfl⟩
      · exact ⟨fields, step, part, inner, has, inside, fails, same⟩
      · exact (not_inside_null inside).elim
    · rintro ⟨others, step, part, inner, has, inside, fails, same⟩
      rw [← own (.inl has)] at inside
      exact ⟨step, part, inner, inside, fails, same⟩

theorem decodeWithin_error {depth : Nat} {value : Yaml.Value} {misfit : Misfit}
    (deep : value.height ≤ depth) :
    decodeWithin depth value = .error misfit ↔
      ∃ last, Leads value misfit.steps last ∧ Offends last misfit.fault := by
  induction depth generalizing value misfit with
  | zero => exact absurd (Yaml.Value.height_pos value) (Nat.not_lt.mpr deep)
  | succ depth ih =>
    have below {fields : Fields} (has : HasFields value fields) {child : Yaml.Value}
        (member : child ∈ fields.children) : child.height ≤ depth :=
      Nat.le_of_lt_succ (Nat.lt_of_lt_of_le (child_below has member) deep)
    have decodes {fields : Fields} (has : HasFields value fields) {child : Yaml.Value}
        (member : child ∈ fields.children) :
        (∃ schema, decodeWithin depth child = .ok schema) ↔ IsSchema child :=
      exists_congr fun schema => decodeWithin_iff (below has member)
    rw [decodeWithin, decodeNode_error]
    constructor
    · rintro (⟨whole, offends⟩ | ⟨fields, step, child, inner, has, inside, fails, rfl⟩)
      · rw [whole]
        exact ⟨value, .here value, offends⟩
      · obtain ⟨last, onward, offends⟩ := (ih (below has (child_of_inside inside))).mp fails
        have passed := inside_mono (fun part isPart => (decodes has isPart).mp) inside
        exact ⟨last, .step has passed onward, offends⟩
    · rintro ⟨last, leads, offends⟩
      obtain ⟨steps, reported⟩ := misfit
      cases leads with
      | here => exact .inl ⟨rfl, offends⟩
      | @step _ child _ fields step steps has inside onward =>
        have fails : decodeWithin depth child = .error ⟨steps, reported⟩ :=
          (ih (below has (child_of_inside inside))).mpr ⟨last, onward, offends⟩
        have passed := inside_mono (fun part isPart => (decodes has isPart).mpr) inside
        exact .inr ⟨fields, step, child, ⟨steps, reported⟩, has, passed, fails, rfl⟩

/-- A value decodes to the same schema under every name, or it fails under every name in the same
way: messages differ in the name alone, and the steps behind the name lead to the first node that
breaks a rule, past nothing but schemas. -/
theorem misfits_name_offenders (value : Yaml.Value) (p q : String) :
    (∃ schema, decodeNamed p value = .ok schema ∧ decodeNamed q value = .ok schema) ∨
      ∃ misfit : Misfit,
        decodeNamed p value = .error (.invalidSpec (.node p misfit)) ∧
        decodeNamed q value = .error (.invalidSpec (.node q misfit)) ∧
        (∃ front back, ∀ name, (Failure.invalidSpec (.node name misfit)).message =
          front ++ (name ++ String.join (misfit.steps.map SchemaStep.text)) ++ back) ∧
        (∃ last, Leads value misfit.steps last ∧ Offends last misfit.fault) ∧
        ∀ other : Misfit, (∃ last, Leads value other.steps last ∧ Offends last other.fault) →
          other = misfit := by
  unfold decodeNamed decode
  cases decoded : decodeWithin value.height value with
  | ok schema => exact .inl ⟨schema, rfl, rfl⟩
  | error misfit =>
    have blames {other : Misfit} : decodeWithin value.height value = .error other ↔
        ∃ last, Leads value other.steps last ∧ Offends last other.fault :=
      decodeWithin_error (Nat.le_refl value.height)
    refine .inr ⟨misfit, rfl, rfl, ?_, blames.mp decoded, fun other blamed => ?_⟩
    · obtain ⟨front, back, around⟩ := misfit.fault.message_around
      refine ⟨"Bad spec file: " ++ front, back, fun name => ?_⟩
      show "Bad spec file: " ++ misfit.fault.message _ = _
      rw [around]
      simp only [String.append_assoc]
    · cases decoded.symm.trans (blames.mpr blamed)
      rfl

/-- The second property is reported: the first one is a schema, and what is wrong with the third one
is not looked at. -/
example : decodeNamed "Pet" (.mapping [(.string "type", .string "object"),
    (.string "properties", .mapping [
      (.string "id", .mapping [(.string "type", .string "string")]),
      (.string "tags", .mapping [(.string "type", .string "array")]),
      (.string "owner", .mapping [])])]) =
    .error (.invalidSpec (.node "Pet" ⟨[.property "tags"], .noItems⟩)) := rfl

end Schema

end Typewright
