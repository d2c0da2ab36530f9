import Typewright.Proofs.ContainedValues

/-!
The fields of a schema node, said without reading them one after another. A node is a mapping with
texts as keys. Each known field occurs at most once and is null or has its shape; where it is null
or missing, there is nothing. Reading finds exactly these fields.
-/
namespace Typewright.Schema

/-- The values under a name. Keys are seen through their tags, so there can be several. -/
def valuesUnder (name : String) (entries : List (Yaml.Value × Yaml.Value)) : List Yaml.Value :=
  (entries.filter fun entry => entry.1.text? = some name).map Prod.snd

/-- A field is absent, null, or present once in its shape. -/
inductive Holds {α : Type} (shape : Yaml.Value → α → Prop) : List Yaml.Value → Option α → Prop where
  | absent : Holds shape [] none
  | null : Holds shape [.null] none
  | value {value : Yaml.Value} {content : α} (present : value ≠ .null)
    (fits : shape value content) : Holds shape [value] (some content)

/-! Shapes -/

def IsText (value : Yaml.Value) (text : String) : Prop := value.text? = some text

inductive IsSequence (value : Yaml.Value) : List Yaml.Value → Prop where
  | items {items : List Yaml.Value} (same : value.untagged = .sequence items) :
    IsSequence value items
  | nothing (same : value.untagged = .null) : IsSequence value []

inductive IsMapping (value : Yaml.Value) : List (Yaml.Value × Yaml.Value) → Prop where
  | entries {entries : List (Yaml.Value × Yaml.Value)} (same : value.untagged = .mapping entries) :
    IsMapping value entries
  | nothing (same : value.untagged = .null) : IsMapping value []

def IsListOf {α : Type} (shape : Yaml.Value → α → Prop) (value : Yaml.Value)
    (contents : List α) : Prop :=
  ∃ items, IsSequence value items ∧ List.Forall₂ shape items contents

/-- Values by name in document order. Of two values of one name the later one counts. -/
def IsNamed (value : Yaml.Value) (properties : List (String × Yaml.Value)) : Prop :=
  ∃ entries pairs, IsMapping value entries ∧
    List.Forall₂ (fun entry pair => IsText entry.1 pair.1 ∧ pair.2 = entry.2) entries pairs ∧
    properties = Pairs.collect pairs

inductive IsLiteral : Yaml.Value → Literal → Prop where
  | bool (value : Bool) : IsLiteral (.bool value) (.bool value)
  | whole {n : Int} (fits : fitsSigned 64 n = true) : IsLiteral (.number (.int n)) (.int n)
  | large {n : Int} (wide : fitsSigned 64 n = false) :
    IsLiteral (.number (.int n)) (.float (Binary64.ofInt n))
  | float (x : Binary64) : IsLiteral (.number (.float x)) (.float x)
  | text (text : String) : IsLiteral (.string text) (.string text)

namespace Fields

def Shows (fields : Fields) (values : List Yaml.Value) : Field → Prop
  | .type => Holds IsText values fields.type
  | .format => Holds IsText values fields.format
  | .properties => Holds IsNamed values fields.properties
  | .required => Holds (IsListOf IsText) values fields.required
  | .items => Holds Eq values fields.items
  | .reference => Holds IsText values fields.reference
  | .oneOf => Holds IsSequence values fields.oneOf
  | .enum => Holds (IsListOf IsLiteral) values fields.enum
  | .description => Holds IsText values fields.note.description
  | .summary => Holds IsText values fields.note.summary
  | .exampleField => Holds Eq values fields.note.example?

def Agree (fields others : Fields) : Field → Prop
  | .type => fields.type = others.type
  | .format => fields.format = others.format
  | .properties => fields.properties = others.properties
  | .required => fields.required = others.required
  | .items => fields.items = others.items
  | .reference => fields.reference = others.reference
  | .oneOf => fields.oneOf = others.oneOf
  | .enum => fields.enum = others.enum
  | .description => fields.note.description = others.note.description
  | .summary => fields.note.summary = others.note.summary
  | .exampleField => fields.note.example? = others.note.example?

end Fields

/-- The node is a mapping with texts as keys, and these are its fields. -/
structure HasFields (node : Yaml.Value) (fields : Fields) : Prop where
  entries : ∃ entries, node.entries? = some entries ∧
    (∀ entry ∈ entries, ∃ name, entry.1.text? = some name) ∧
    ∀ field : Field, fields.Shows (valuesUnder field.name entries) field

/-! Reading a field -/

theorem holds_nil {α : Type} {shape : Yaml.Value → α → Prop} {content : Option α} :
    Holds shape [] content ↔ content = none := by
  constructor
  · rintro ⟨⟩
    rfl
  · rintro rfl
    exact .absent

theorem not_holds_pair {α : Type} {shape : Yaml.Value → α → Prop} {content : Option α}
    {first second : Yaml.Value} {rest : List Yaml.Value} :
    ¬Holds shape (first :: second :: rest) content := nofun

namespace Fields

theorem optional_iff {α : Type} {read : Yaml.Value → Except FieldFault α}
    {shape : Yaml.Value → α → Prop} (reads : ∀ value content,
      read value = .ok content ↔ shape value content) {value : Yaml.Value} {content : Option α} :
    optional read value = .ok content ↔ Holds shape [value] content := by
  by_cases isNull : value = .null
  · subst isNull
    constructor
    · rintro ⟨⟩
      exact .null
    · rintro (_ | _ | ⟨present, _⟩)
      · rfl
      · exact absurd rfl present
  · have mapped : optional read value = (read value).map some := by
      cases value with
      | null => exact absurd rfl isNull
      | _ => rfl
    rw [mapped, map_eq_ok]
    constructor
    · rintro ⟨found, isRead, rfl⟩
      exact .value isNull ((reads value found).mp isRead)
    · rintro (_ | _ | ⟨_, fits⟩)
      · exact absurd rfl isNull
      · exact ⟨_, (reads value _).mpr fits, rfl⟩

theorem ok_iff {α : Type} (value content : α) :
    (.ok value : Except FieldFault α) = .ok content ↔ value = content := by
  rw [Except.ok.injEq]

theorem text_iff {expected : Expected} (value : Yaml.Value) (content : String) :
    text expected value = .ok content ↔ IsText value content := by
  unfold text IsText
  cases value.text? <;> simp

theorem sequence_iff (value : Yaml.Value) (items : List Yaml.Value) :
    sequence value = .ok items ↔ IsSequence value items := by
  unfold sequence
  constructor
  · intro found
    split at found
    · next same =>
      cases found
      exact .items same
    · next same =>
      cases found
      exact .nothing same
    · cases found
  · rintro (same | same) <;> rw [same]

theorem mapping_iff {expected : Expected} (value : Yaml.Value)
    (entries : List (Yaml.Value × Yaml.Value)) :
    mapping expected value = .ok entries ↔ IsMapping value entries := by
  unfold mapping
  constructor
  · intro found
    split at found
    · next same =>
      cases found
      exact .entries same
    · next same =>
      cases found
      exact .nothing same
    · cases found
  · rintro (same | same) <;> rw [same]

theorem literal_iff (value : Yaml.Value) (content : Literal) :
    literal value = .ok content ↔ IsLiteral value content := by
  constructor
  · intro found
    unfold literal at found
    split at found
    · cases found
    · split at found
      · cases found
        exact .bool _
      · split at found
        · next fits =>
          cases found
          exact .whole fits
        · next wide =>
          cases found
          exact .large (Bool.not_eq_true _ ▸ wide)
      · cases found
        exact .float _
      · cases found
        exact .text _
      · cases found
  · rintro (_ | fits | wide | _ | _)
    · rfl
    · simp [literal, carriesTag, fits]
    · simp [literal, carriesTag, wide]
    · rfl
    · rfl

theorem listOf_iff {α : Type} {read : Yaml.Value → Except FieldFault α}
    {shape : Yaml.Value → α → Prop} (reads : ∀ value content,
      read value = .ok content ↔ shape value content) (value : Yaml.Value) (contents : List α) :
    (do (← sequence value).mapM read) = .ok contents ↔ IsListOf shape value contents := by
  refine bind_eq_ok.trans (exists_congr fun items => and_congr (sequence_iff value items) ?_)
  rw [mapM_eq_ok]
  simp only [reads]

theorem named_iff (value : Yaml.Value) (properties : List (String × Yaml.Value)) :
    named value = .ok properties ↔ IsNamed value properties := by
  refine bind_eq_ok.trans (exists_congr fun entries => ?_)
  have entry (found : Yaml.Value × Yaml.Value) (pair : String × Yaml.Value) :
      (do return (← text .text found.1, found.2)) = Except.ok (ε := FieldFault) pair ↔
        IsText found.1 pair.1 ∧ pair.2 = found.2 := by
    refine bind_eq_ok.trans ?_
    constructor
    · rintro ⟨name, isText, same⟩
      cases same
      exact ⟨(text_iff _ _).mp isText, rfl⟩
    · obtain ⟨name, body⟩ := pair
      rintro ⟨isText, rfl⟩
      exact ⟨name, (text_iff _ _).mpr isText, rfl⟩
  rw [mapping_iff]
  constructor
  · rintro ⟨isMapping, found⟩
    obtain ⟨pairs, mapped, same⟩ := bind_eq_ok.mp found
    cases same
    exact ⟨pairs, isMapping, (mapM_eq_ok.mp mapped).imp fun found pair => (entry found pair).mp,
      rfl⟩
  · rintro ⟨pairs, isMapping, listed, rfl⟩
    exact ⟨isMapping, bind_eq_ok.mpr ⟨pairs,
      mapM_eq_ok.mpr (listed.imp fun found pair => (entry found pair).mpr), rfl⟩⟩

theorem same_of_agree {fields others : Fields} (agree : ∀ field, fields.Agree others field) :
    fields = others := by
  obtain ⟨_, _, _, _, _, _, _, _, _, _, _⟩ := fields
  obtain ⟨_, _, _, _, _, _, _, _, _, _, _⟩ := others
  cases agree .type
  cases agree .format
  cases agree .properties
  cases agree .required
  cases agree .items
  cases agree .reference
  cases agree .oneOf
  cases agree .enum
  cases agree .description
  cases agree .summary
  cases agree .exampleField
  rfl

theorem shows_nil {fields : Fields} {field : Field} :
    fields.Shows [] field ↔ fields.Agree {} field := by
  cases field <;> exact holds_nil

theorem agree_refl {fields : Fields} {field : Field} : fields.Agree fields field := by
  cases field <;> rfl

theorem agree_symm {fields others : Fields} {field : Field} (agree : fields.Agree others field) :
    others.Agree fields field := by
  cases field <;> exact Eq.symm agree

theorem agree_trans {fields others third : Fields} {field : Field}
    (agree : fields.Agree others field) (next : others.Agree third field) :
    fields.Agree third field := by
  cases field <;> exact Eq.trans agree next

theorem shows_congr {fields others : Fields} {values : List Yaml.Value} {field : Field}
    (agree : fields.Agree others field) :
    fields.Shows values field ↔ others.Shows values field := by
  cases field <;> exact iff_of_eq (congrArg (Holds _ values) agree)

theorem not_shows_pair {fields : Fields} {first second : Yaml.Value} {rest : List Yaml.Value}
    {field : Field} : ¬fields.Shows (first :: second :: rest) field := by
  cases field <;> exact not_holds_pair

def take (fields others : Fields) : Field → Fields
  | .type => { fields with type := others.type }
  | .format => { fields with format := others.format }
  | .properties => { fields with properties := others.properties }
  | .required => { fields with required := others.required }
  | .items => { fields with items := others.items }
  | .reference => { fields with reference := others.reference }
  | .oneOf => { fields with oneOf := others.oneOf }
  | .enum => { fields with enum := others.enum }
  | .description =>
    { fields with note := { fields.note with description := others.note.description } }
  | .summary => { fields with note := { fields.note with summary := others.note.summary } }
  | .exampleField => { fields with note := { fields.note with example? := others.note.example? } }

theorem take_agrees (fields others : Fields) (field : Field) :
    (fields.take others field).Agree others field := by
  cases field <;> rfl

theorem take_keeps (fields others : Fields) {field other : Field} (differ : other ≠ field) :
    (fields.take others field).Agree fields other := by
  cases field <;> cases other <;> first | rfl | exact absurd rfl differ

theorem put_iff {α : Type} {fields result : Fields} {field : Field} {value : Yaml.Value}
    {read : Yaml.Value → Except FieldFault α} {shape : Yaml.Value → α → Prop}
    (reads : ∀ value content, read value = .ok content ↔ shape value content)
    (put : Option α → Fields) (get : Fields → Option α)
    (back : ∀ content, get (put content) = content)
    (shown : ∀ fields : Fields, fields.Shows [value] field ↔ Holds shape [value] (get fields))
    (agreed : ∀ fields others : Fields, fields.Agree others field ↔ get fields = get others)
    (kept : ∀ content other, other ≠ field → (put content).Agree fields other) :
    (do return put (← optional read value)) = .ok result ↔
      result.Shows [value] field ∧ ∀ other, other ≠ field → result.Agree fields other := by
  refine bind_eq_ok.trans ?_
  constructor
  · rintro ⟨content, found, same⟩
    cases same
    rw [shown, back]
    exact ⟨(optional_iff reads).mp found, kept content⟩
  · rintro ⟨shows, agree⟩
    refine ⟨get result, (optional_iff reads).mpr ((shown result).mp shows), congrArg Except.ok ?_⟩
    refine same_of_agree fun other => ?_
    by_cases own : other = field
    · rw [own, agreed, back]
    · exact agree_trans (kept _ other own) (agree_symm (agree other own))

theorem set_iff {fields result : Fields} {field : Field} {value : Yaml.Value} :
    fields.set field value = .ok result ↔
      result.Shows [value] field ∧ ∀ other, other ≠ field → result.Agree fields other := by
  have keeps (put : Fields) (same : put = fields.take put field) (other : Field)
      (differ : other ≠ field) : put.Agree fields other := same ▸ take_keeps fields put differ
  cases field with
  | type =>
    exact put_iff text_iff (fun content => { fields with type := content }) Fields.type
      (fun _ => rfl) (fun _ => .rfl) (fun _ _ => .rfl) fun _ => keeps _ rfl
  | format =>
    exact put_iff text_iff (fun content => { fields with format := content }) Fields.format
      (fun _ => rfl) (fun _ => .rfl) (fun _ _ => .rfl) fun _ => keeps _ rfl
  | properties =>
    exact put_iff named_iff (fun content => { fields with properties := content })
      Fields.properties (fun _ => rfl) (fun _ => .rfl) (fun _ _ => .rfl) fun _ => keeps _ rfl
  | required =>
    exact put_iff (listOf_iff text_iff) (fun content => { fields with required := content })
      Fields.required (fun _ => rfl) (fun _ => .rfl) (fun _ _ => .rfl) fun _ => keeps _ rfl
  | items =>
    exact put_iff ok_iff (fun content => { fields with items := content }) Fields.items
      (fun _ => rfl) (fun _ => .rfl) (fun _ _ => .rfl) fun _ => keeps _ rfl
  | reference =>
    exact put_iff text_iff (fun content => { fields with reference := content }) Fields.reference
      (fun _ => rfl) (fun _ => .rfl) (fun _ _ => .rfl) fun _ => keeps _ rfl
  | oneOf =>
    exact put_iff sequence_iff (fun content => { fields with oneOf := content }) Fields.oneOf
      (fun _ => rfl) (fun _ => .rfl) (fun _ _ => .rfl) fun _ => keeps _ rfl
  | enum =>
    exact put_iff (listOf_iff literal_iff) (fun content => { fields with enum := content })
      Fields.enum (fun _ => rfl) (fun _ => .rfl) (fun _ _ => .rfl) fun _ => keeps _ rfl
  | description =>
    exact put_iff text_iff
      (fun content => { fields with note := { fields.note with description := content } })
      (fun fields => fields.note.description)
      (fun _ => rfl) (fun _ => .rfl) (fun _ _ => .rfl) fun _ => keeps _ rfl
  | summary =>
    exact put_iff text_iff
      (fun content => { fields with note := { fields.note with summary := content } })
      (fun fields => fields.note.summary)
      (fun _ => rfl) (fun _ => .rfl) (fun _ _ => .rfl) fun _ => keeps _ rfl
  | exampleField =>
    exact put_iff ok_iff
      (fun content => { fields with note := { fields.note with example? := content } })
      (fun fields => fields.note.example?)
      (fun _ => rfl) (fun _ => .rfl) (fun _ _ => .rfl) fun _ => keeps _ rfl

/-! Reading the fields -/

theorem ofName?_eq_some {name : String} {field : Field} :
    Field.ofName? name = some field ↔ field.name = name := by
  constructor
  · intro found
    unfold Field.ofName? at found
    exact beq_iff_eq.mp (List.find?_some found :)
  · rintro rfl
    cases field <;> decide +kernel

theorem name_ne_of_none {name : String} (unknown : Field.ofName? name = none) (field : Field) :
    field.name ≠ name :=
  fun same => nomatch unknown.symm.trans (ofName?_eq_some.mpr same)

end Fields

theorem valuesUnder_own {name : String} {entry : Yaml.Value × Yaml.Value}
    {rest : List (Yaml.Value × Yaml.Value)} (isKey : entry.1.text? = some name) :
    valuesUnder name (entry :: rest) = entry.2 :: valuesUnder name rest := by
  simp [valuesUnder, isKey]

theorem valuesUnder_other {name other : String} {entry : Yaml.Value × Yaml.Value}
    {rest : List (Yaml.Value × Yaml.Value)} (isKey : entry.1.text? = some other)
    (differ : name ≠ other) : valuesUnder name (entry :: rest) = valuesUnder name rest := by
  simp [valuesUnder, isKey, differ.symm]

theorem name_injective {field other : Field} (same : field.name = other.name) : field = other :=
  Option.some.inj ((Fields.ofName?_eq_some.mpr same).symm.trans (Fields.ofName?_eq_some.mpr rfl))

/-- The entries are what completes the fields to the result when some of them are seen before. -/
structure Completes (fields : Fields) (seen : List Field)
    (entries : List (Yaml.Value × Yaml.Value)) (result : Fields) : Prop where
  keys : ∀ entry ∈ entries, ∃ name, entry.1.text? = some name
  known : ∀ field ∈ seen, valuesUnder field.name entries = [] ∧ result.Agree fields field
  shown : ∀ field ∉ seen, result.Shows (valuesUnder field.name entries) field

section Completes

variable {fields result : Fields} {seen : List Field} {entry : Yaml.Value × Yaml.Value}
  {rest : List (Yaml.Value × Yaml.Value)} {field : Field}

theorem completes_nil (fresh : ∀ field, field ∉ seen → fields.Agree {} field) :
    Completes fields seen [] result ↔ fields = result := by
  constructor
  · rintro ⟨-, known, shown⟩
    refine Fields.same_of_agree fun field => ?_
    by_cases isSeen : field ∈ seen
    · exact Fields.agree_symm (known field isSeen).2
    · exact Fields.agree_trans (fresh field isSeen)
        (Fields.agree_symm (Fields.shows_nil.mp (shown field isSeen)))
  · rintro rfl
    exact ⟨nofun, fun _ _ => ⟨rfl, Fields.agree_refl⟩,
      fun field unseen => Fields.shows_nil.mpr (fresh field unseen)⟩

theorem completes_unknown {name : String} (isKey : entry.1.text? = some name)
    (unknown : Field.ofName? name = none) :
    Completes fields seen (entry :: rest) result ↔ Completes fields seen rest result := by
  have passed (field : Field) :
      valuesUnder field.name (entry :: rest) = valuesUnder field.name rest :=
    valuesUnder_other isKey (Fields.name_ne_of_none unknown field)
  constructor
  · rintro ⟨keys, known, shown⟩
    simp only [passed] at known shown
    exact ⟨(List.forall_mem_cons.mp keys).2, known, shown⟩
  · rintro ⟨keys, known, shown⟩
    refine ⟨List.forall_mem_cons.mpr ⟨⟨name, isKey⟩, keys⟩, ?_, ?_⟩ <;> simp only [passed]
    exacts [known, shown]

theorem not_completes_again (isKey : entry.1.text? = some field.name) (again : field ∈ seen) :
    ¬Completes fields seen (entry :: rest) result :=
  fun completes => nomatch (valuesUnder_own isKey).symm.trans (completes.known field again).1

theorem completes_known (isKey : entry.1.text? = some field.name) (unseen : field ∉ seen) :
    Completes fields seen (entry :: rest) result ↔
      ∃ next : Fields, (next.Shows [entry.2] field ∧
        ∀ other, other ≠ field → next.Agree fields other) ∧
          Completes next (field :: seen) rest result := by
  have own : valuesUnder field.name (entry :: rest) = entry.2 :: valuesUnder field.name rest :=
    valuesUnder_own isKey
  have others (other : Field) (differ : other ≠ field) :
      valuesUnder other.name (entry :: rest) = valuesUnder other.name rest :=
    valuesUnder_other isKey fun same => differ (name_injective same)
  constructor
  · rintro ⟨keys, known, shown⟩
    have shows := shown field unseen
    rw [own] at shows
    cases later : valuesUnder field.name rest with
    | cons second more => exact absurd (later ▸ shows) Fields.not_shows_pair
    | nil =>
      have agree := Fields.take_agrees fields result field
      have kept (other : Field) (differ : other ≠ field) := Fields.take_keeps fields result differ
      refine ⟨fields.take result field, ⟨(Fields.shows_congr agree).mpr (later ▸ shows), kept⟩,
        (List.forall_mem_cons.mp keys).2, List.forall_mem_cons.mpr
          ⟨⟨later, Fields.agree_symm agree⟩, fun other isSeen => ?_⟩, fun other new => ?_⟩
      · have differ : other ≠ field := fun same => unseen (same ▸ isSeen)
        rw [← others other differ]
        exact ⟨(known other isSeen).1, Fields.agree_trans (known other isSeen).2
          (Fields.agree_symm (kept other differ))⟩
      · rw [← others other (List.ne_of_not_mem_cons new)]
        exact shown other (List.not_mem_of_not_mem_cons new)
  · rintro ⟨next, ⟨shows, kept⟩, keys, known, shown⟩
    obtain ⟨⟨last, agree⟩, known⟩ := List.forall_mem_cons.mp known
    refine ⟨List.forall_mem_cons.mpr ⟨⟨_, isKey⟩, keys⟩, fun other isSeen => ?_,
      fun other new => ?_⟩
    · have differ : other ≠ field := fun same => unseen (same ▸ isSeen)
      rw [others other differ]
      exact ⟨(known other isSeen).1,
        Fields.agree_trans (known other isSeen).2 (kept other differ)⟩
    · by_cases same : other = field
      · subst same
        rw [own, last]
        exact (Fields.shows_congr agree).mpr shows
      · rw [others other same]
        exact shown other (List.not_mem_cons_of_ne_of_not_mem same new)

end Completes

namespace Fields

theorem readEntries_iff {fields result : Fields} {seen : List Field}
    {rest : List (Yaml.Value × Yaml.Value)}
    (fresh : ∀ field, field ∉ seen → fields.Agree {} field) :
    readEntries fields seen rest = .ok result ↔ Completes fields seen rest result := by
  induction rest generalizing fields seen with
  | nil => rw [completes_nil fresh, readEntries, Except.ok.injEq]
  | cons entry rest ih =>
    cases isKey : entry.1.text? with
    | none =>
      constructor
      · simp [readEntries, text, isKey, bind, Except.bind]
      · rintro ⟨keys, -, -⟩
        obtain ⟨name, isName⟩ := keys entry List.mem_cons_self
        exact nomatch isKey.symm.trans isName
    | some name =>
      have isText : text .fieldName entry.1 = .ok name := (text_iff entry.1 name).mpr isKey
      simp only [readEntries, isText, bind, Except.bind]
      cases found : Field.ofName? name with
      | none => exact (ih fresh).trans (completes_unknown isKey found).symm
      | some field =>
        obtain rfl : field.name = name := ofName?_eq_some.mp found
        by_cases again : field ∈ seen
        · refine iff_of_false ?_ (not_completes_again isKey again)
          simp [again, throw, throwThe, MonadExceptOf.throw]
        · simp only [again, ↓reduceIte]
          refine .trans (bind_eq_ok.trans (exists_congr fun next => ?_))
            (completes_known isKey again).symm
          rw [set_iff]
          refine and_congr_right fun ⟨_, kept⟩ => ih fun other unseen => ?_
          exact agree_trans (kept other (List.ne_of_not_mem_cons unseen))
            (fresh other (List.not_mem_of_not_mem_cons unseen))

theorem read_iff {node : Yaml.Value} {fields : Fields} :
    read node = .ok fields ↔ HasFields node fields ∨ node.untagged = .null ∧ fields = {} := by
  have whole (entries : List (Yaml.Value × Yaml.Value)) :
      readEntries {} [] entries = .ok fields ↔
        (∀ entry ∈ entries, ∃ name, entry.1.text? = some name) ∧
          ∀ field : Field, fields.Shows (valuesUnder field.name entries) field := by
    refine (readEntries_iff fun _ _ => agree_refl).trans ?_
    exact ⟨fun completes => ⟨completes.keys, fun field => completes.shown field List.not_mem_nil⟩,
      fun ⟨keys, shown⟩ => ⟨keys, nofun, fun field _ => shown field⟩⟩
  refine bind_eq_ok.trans ?_
  simp only [mapping_iff, whole]
  constructor
  · rintro ⟨entries, same | same, keys, shows⟩
    · exact .inl ⟨entries, by rw [Yaml.Value.entries?, same], keys, shows⟩
    · exact .inr ⟨same, same_of_agree fun field => shows_nil.mp (shows field)⟩
  · rintro (⟨entries, same, keys, shows⟩ | ⟨same, rfl⟩)
    · refine ⟨entries, .entries ?_, keys, shows⟩
      unfold Yaml.Value.entries? at same
      split at same
      · cases same
        assumption
      · cases same
    · exact ⟨[], .nothing same, nofun, fun _ => shows_nil.mpr agree_refl⟩

end Fields

end Typewright.Schema
