import Mathlib.Data.List.Nodup
import Typewright.Declaration.Json
import Typewright.Proofs.SchemaGrammar

/-!
Items of enumerations. A node that lists texts and whole numbers is an enumeration exactly if all of
them fit the declared type, and it has one literal for each item. Texts and whole numbers of 64
signed bits come through as they are, up to the templates; a larger number is rounded to a float,
which is a number but no integer, and may be the float of another item as well.
-/
namespace Typewright.Schema

structure IsEnumNode (node : Yaml.Value) (type : DataType) (items : List Yaml.Value)
    (fields : Fields) : Prop where
  entries : ∃ entries listed, node.entries? = some entries ∧
    (∀ entry ∈ entries, ∃ name, entry.1.text? = some name) ∧
    (∀ field, field ≠ .enum → fields.Shows (valuesUnder field.name entries) field) ∧
    valuesUnder Field.enum.name entries = [listed] ∧ listed ≠ .null ∧ IsSequence listed items
  declared : fields.Declares (some type)
  alone : fields.reference = none

inductive IsItem : Yaml.Value → Prop where
  | text (text : String) : IsItem (.string text)
  | whole (n : Int) : IsItem (.number (.int n))

/-- Whole numbers of more than 64 signed bits are numbers and no integers. -/
inductive Suits : DataType → Yaml.Value → Prop where
  | string (text : String) : Suits .string (.string text)
  | integer {n : Int} (fits : fitsSigned 64 n = true) : Suits .integer (.number (.int n))
  | number (n : Int) : Suits .number (.number (.int n))

inductive Keeps : Yaml.Value → Json → Prop where
  | text (text : String) : Keeps (.string text) (.string text)
  | whole (n : Int) : Keeps (.number (.int n)) (.int n)

/-! One literal for each item -/

variable {item node : Yaml.Value} {items : List Yaml.Value} {values : List Literal}
variable {type : DataType} {fields : Fields}

theorem literal_of_item (isItem : IsItem item) : ∃ literal, IsLiteral item literal := by
  cases isItem with
  | text text => exact ⟨_, .text text⟩
  | whole n =>
    cases fits : fitsSigned 64 n with
    | true => exact ⟨_, .whole fits⟩
    | false => exact ⟨_, .large fits⟩

theorem literals_of_items (areItems : ∀ item ∈ items, IsItem item) :
    ∃ values, List.Forall₂ IsLiteral items values := by
  induction items with
  | nil => exact ⟨[], .nil⟩
  | cons item rest ih =>
    obtain ⟨isItem, others⟩ := List.forall_mem_cons.mp areItems
    obtain ⟨literal, here⟩ := literal_of_item isItem
    obtain ⟨values, later⟩ := ih others
    exact ⟨literal :: values, .cons here later⟩

theorem fits_iff_suits {literal : Literal} (isItem : IsItem item)
    (isLiteral : IsLiteral item literal) (enumerable : type.isEnumerable = true) :
    literal.fits type = true ↔ Suits type item := by
  cases isItem with
  | text text =>
    cases isLiteral
    cases type with
    | string => exact iff_of_true rfl (.string text)
    | number => exact iff_of_false (by simp [Literal.fits]) nofun
    | integer => exact iff_of_false (by simp [Literal.fits]) nofun
    | boolean | array | object | unknown => cases enumerable
  | whole n =>
    cases type with
    | string =>
      refine iff_of_false ?_ nofun
      cases isLiteral <;> simp [Literal.fits]
    | number =>
      refine iff_of_true ?_ (.number n)
      cases isLiteral <;> rfl
    | integer =>
      cases isLiteral with
      | whole fits => exact iff_of_true rfl (.integer fits)
      | large wide =>
        refine iff_of_false (by simp [Literal.fits]) ?_
        intro suits
        cases suits with
        | integer fits => cases wide.symm.trans fits
    | boolean | array | object | unknown => cases enumerable

theorem all_fit_iff (areItems : ∀ item ∈ items, IsItem item)
    (literals : List.Forall₂ IsLiteral items values) (enumerable : type.isEnumerable = true) :
    (∀ literal ∈ values, literal.fits type = true) ↔ ∀ item ∈ items, Suits type item := by
  induction literals with
  | nil => exact ⟨nofun, nofun⟩
  | cons here later ih =>
    obtain ⟨isItem, others⟩ := List.forall_mem_cons.mp areItems
    rw [List.forall_mem_cons, List.forall_mem_cons, fits_iff_suits isItem here enumerable,
      ih others]

/-! Nodes that are enumerations -/

theorem declares_unique {one other : Option DataType} (declared : fields.Declares one)
    (again : fields.Declares other) : one = other :=
  Except.ok.inj ((declared_iff.mpr declared).symm.trans (declared_iff.mpr again))

theorem IsEnumNode.hasFields (isNode : IsEnumNode node type items fields)
    (literals : List.Forall₂ IsLiteral items values) :
    HasFields node { fields with enum := some values } := by
  obtain ⟨entries, listed, isMapping, keys, shows, under, present, isSequence⟩ := isNode.entries
  refine ⟨entries, isMapping, keys, fun field => ?_⟩
  by_cases own : field = .enum
  · rw [own, under]
    exact .value present ⟨items, isSequence, literals⟩
  · have kept := Fields.take_keeps fields { fields with enum := some values } own
    exact (Fields.shows_congr kept).mpr (shows field own)

theorem IsEnumNode.derives_iff (isNode : IsEnumNode node type items fields)
    (literals : List.Forall₂ IsLiteral items values) (enumerable : type.isEnumerable = true)
    {schema : Schema} :
    Derives node schema ↔ values ≠ [] ∧ (∀ literal ∈ values, literal.fits type = true) ∧
      schema = .enumeration type values fields.note := by
  have has := isNode.hasFields literals
  constructor
  · rintro ⟨bears, rule⟩
    -- a node has its fields in one way only
    cases (Fields.read_iff.mpr (.inl bears)).symm.trans (Fields.read_iff.mpr (.inl has))
    cases rule with
    | object isObject =>
      cases declares_unique isNode.declared isObject
      cases enumerable
    | enumeration isType alone listed _ filled fit =>
      cases listed
      cases declares_unique isNode.declared isType
      exact ⟨filled, fit, rfl⟩
    | union _ _ _ unlisted => cases unlisted
    | array _ _ unlisted => cases unlisted
    | reference _ _ unlisted => cases unlisted
    | primitive _ _ _ _ unlisted => cases unlisted
  · rintro ⟨filled, fit, rfl⟩
    refine .node has ?_
    have rule : Rule Derives (.enumeration type values _) { fields with enum := some values } :=
      .enumeration isNode.declared isNode.alone rfl enumerable filled fit
    exact rule

/-! Items that come through -/

theorem keeps_of_literal {literal : Literal} (isLiteral : IsLiteral item literal)
    (isItem : IsItem item) (narrow : ∀ n, item = .number (.int n) → fitsSigned 64 n = true) :
    Keeps item literal.toJson := by
  cases isLiteral with
  | text text => exact .text text
  | @whole n fits => exact .whole n
  | large wide => cases wide.symm.trans (narrow _ rfl)
  | bool | float => cases isItem

theorem all_keep (literals : List.Forall₂ IsLiteral items values)
    (areItems : ∀ item ∈ items, IsItem item)
    (narrow : ∀ n, .number (.int n) ∈ items → fitsSigned 64 n = true) :
    List.Forall₂ Keeps items (values.map Literal.toJson) := by
  induction literals with
  | nil => exact .nil
  | cons here later ih =>
    obtain ⟨isItem, others⟩ := List.forall_mem_cons.mp areItems
    refine .cons (keeps_of_literal here isItem fun n same => narrow n ?_)
      (ih others fun n member => narrow n (List.mem_cons_of_mem _ member))
    rw [same]
    exact List.mem_cons_self

theorem keeps_biUnique : Relator.BiUnique Keeps := by
  constructor
  · intro one other json keeps again
    cases keeps <;> cases again <;> rfl
  · intro item json other keeps again
    cases keeps <;> cases again <;> rfl

/-- A node that lists texts and whole numbers decodes if there are any and all of them suit its
type, and the enumeration has the literals of the items in order. As long as no number is wider than
64 signed bits, all items come through to the templates as they are, and different ones stay
different. -/
theorem enumerations_keep_items (path : String) (enumerable : type.isEnumerable = true)
    (isNode : IsEnumNode node type items fields) (areItems : ∀ item ∈ items, IsItem item) :
    (∀ schema, decodeNamed path node = .ok schema ↔
      items ≠ [] ∧ (∀ item ∈ items, Suits type item) ∧ ∃ values,
        List.Forall₂ IsLiteral items values ∧
          schema = .enumeration type values fields.note) ∧
    ∀ values, List.Forall₂ IsLiteral items values →
      (∀ n, .number (.int n) ∈ items → fitsSigned 64 n = true) →
        List.Forall₂ Keeps items (values.map Literal.toJson) ∧
          ((values.map Literal.toJson).Nodup ↔ items.Nodup) := by
  have some_iff {values : List Literal} (literals : List.Forall₂ IsLiteral items values) :
      values ≠ [] ↔ items ≠ [] := by
    cases literals <;> simp
  constructor
  · intro schema
    rw [decodeNamed_iff]
    constructor
    · intro derives
      obtain ⟨values, literals⟩ := literals_of_items areItems
      obtain ⟨filled, fit, same⟩ := (isNode.derives_iff literals enumerable).mp derives
      exact ⟨(some_iff literals).mp filled, (all_fit_iff areItems literals enumerable).mp fit,
        values, literals, same⟩
    · rintro ⟨filled, suit, values, literals, same⟩
      exact (isNode.derives_iff literals enumerable).mpr ⟨(some_iff literals).mpr filled,
        (all_fit_iff areItems literals enumerable).mpr suit, same⟩
  · intro values literals narrow
    have keep := all_keep literals areItems narrow
    exact ⟨keep, (List.rel_nodup keeps_biUnique keep).symm⟩

namespace WideIntegers

/-! Whole numbers at the ends of 64 bits. -/

def enumNode (type : DataType) (items : List Yaml.Value) : Yaml.Value :=
  .mapping [(.string "type", .string type.name), (.string "enum", .sequence items)]

def wholes (numbers : List Int) : List Yaml.Value :=
  numbers.map fun n => .number (.int n)

def ends : List Int := [-9223372036854775808, 9223372036854775807]

theorem ends_are_kept : DataType.integer.isEnumerable = true ∧
    IsEnumNode (enumNode .integer (wholes ends)) .integer (wholes ends)
      { type := some "integer" } ∧
    (∀ item ∈ wholes ends, IsItem item) ∧
    decodeNamed "Level" (enumNode .integer (wholes ends)) =
      .ok (.enumeration .integer (ends.map .int) {}) := by
  have isNode : IsEnumNode (enumNode .integer (wholes ends)) .integer (wholes ends)
      { type := some "integer" } := by
    refine ⟨⟨_, .sequence (wholes ends), rfl, ?_, ?_, rfl, nofun, .items rfl⟩, rfl, rfl⟩
    · intro entry member
      rcases List.mem_cons.mp member with rfl | member
      · exact ⟨"type", rfl⟩
      · rw [List.mem_singleton.mp member]
        exact ⟨"enum", rfl⟩
    · intro field other
      cases field with
      | type => exact .value nofun rfl
      | enum => exact absurd rfl other
      | _ => exact .absent
  have areItems : ∀ item ∈ wholes ends, IsItem item := by
    intro item member
    obtain ⟨n, _, rfl⟩ := List.mem_map.mp member
    exact .whole n
  have suit : ∀ item ∈ wholes ends, Suits .integer item := by
    intro item member
    obtain ⟨n, isEnd, rfl⟩ := List.mem_map.mp member
    have fits : ∀ n ∈ ends, fitsSigned 64 n = true := by decide
    exact .integer (fits n isEnd)
  refine ⟨rfl, isNode, areItems, ?_⟩
  exact ((enumerations_keep_items "Level" rfl isNode areItems).1 _).mpr
    ⟨List.cons_ne_nil _ _, suit, _, .cons (.whole (by decide)) (.cons (.whole (by decide)) .nil), rfl⟩

def decoded (node : Yaml.Value) : Option (List Literal) :=
  match decodeNamed "Level" node with
  | .ok (.enumeration _ values _) => some values
  | _ => none

/-- The least number beyond 64 signed bits is refused as an integer, and the two greatest numbers of
64 unsigned bits are one number. -/
theorem wide_integers_are_lost :
    decoded (enumNode .integer (wholes [9223372036854775808])) = none ∧
    decoded (enumNode .number (wholes [18446744073709551614, 18446744073709551615])) =
      some [.float ⟨false, 1087, 0⟩, .float ⟨false, 1087, 0⟩] := by
  decide +kernel

end WideIntegers

end Typewright.Schema
