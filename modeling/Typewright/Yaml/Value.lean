import Typewright.Binary64.Text
import Typewright.Text.Quoted
import Typewright.Json
import Typewright.Table

/-!
The values that a YAML document can hold. The keys of a mapping are values themselves; a mapping
that was read from a document has no two equal keys.
-/
namespace Typewright.Yaml

inductive Number where
  | int (value : Int)
  | float (value : Binary64)
deriving Inhabited, DecidableEq

namespace Number

/-- Two floats that are not numbers are equal here, and so are the two zeros. -/
def same : Number → Number → Bool
  | int a, int b => a == b
  | float a, float b => (a.isNotANumber && b.isNotANumber) || a.sameValue b
  | _, _ => false

def floatLayout : Binary64.Layout := ⟨some (-4, 16), true, false, ".inf", ".nan"⟩

def text : Number → String
  | int n => toString n
  | float x => floatLayout.write x

end Number

inductive Value where
  | null
  | bool (value : Bool)
  | number (value : Number)
  | string (text : String)
  | sequence (items : List Value)
  | mapping (entries : List (Value × Value))
  | tagged (tag : String) (value : Value)
deriving Inhabited

namespace Value

/-- The value under its tags. -/
def untagged : Value → Value
  | tagged _ value => untagged value
  | value => value

def entries? (v : Value) : Option (List (Value × Value)) :=
  match v.untagged with
  | mapping entries => some entries
  | _ => none

def text? (v : Value) : Option String :=
  match v.untagged with
  | string text => some text
  | _ => none

def isText (name : String) : Value → Bool
  | string text => text == name
  | _ => false

/-- The value under the key that is the plain text `name`; a tagged key is not that text. -/
def lookup? (name : String) (entries : List (Value × Value)) : Option Value :=
  (entries.find? fun entry => isText name entry.1).map Prod.snd

mutual

def same : Value → Value → Bool
  | null, null => true
  | bool a, bool b => a == b
  | number a, number b => a.same b
  | string a, string b => a == b
  | sequence a, sequence b => sameItems a b
  | mapping a, mapping b => a.length == b.length && sameEntries a b
  | tagged s a, tagged t b => s == t && same a b
  | _, _ => false

def sameItems : List Value → List Value → Bool
  | [], [] => true
  | a :: as, b :: bs => same a b && sameItems as bs
  | _, _ => false

def sameEntries : List (Value × Value) → List (Value × Value) → Bool
  | [], _ => true
  | (key, value) :: rest, others =>
    others.any (fun other => same key other.1 && same value other.2) && sameEntries rest others

end

mutual

def height : Value → Nat
  | sequence items => heightItems items + 1
  | mapping entries => heightEntries entries + 1
  | tagged _ value => height value + 1
  | _ => 1

def heightItems : List Value → Nat
  | [] => 0
  | item :: rest => max (height item) (heightItems rest)

def heightEntries : List (Value × Value) → Nat
  | [] => 0
  | (key, value) :: rest => max (max (height key) (height value)) (heightEntries rest)

end

def referenceKey : String := "$ref"

mutual

/-- The references written in a value: the texts that stand under the key of references. -/
def references : Value → List String
  | sequence items => referencesOfItems items
  | mapping entries => referencesOfEntries entries
  | tagged _ value => references value
  | _ => []

def referencesOfItems : List Value → List String
  | [] => []
  | item :: rest => references item ++ referencesOfItems rest

def referencesOfEntries : List (Value × Value) → List String
  | [] => []
  | (key, value) :: rest =>
    (if key.text? = some referenceKey then value.text?.toList else []) ++ references value ++
      referencesOfEntries rest

end

def listedKey : Value → Option String
  | bool value => some (if value then "true" else "false")
  | number value => some value.text
  | string text => some (Text.quoted text)
  | _ => none

mutual

def listing : Value → String
  | null => "Null"
  | bool value => "Bool(" ++ (if value then "true" else "false") ++ ")"
  | number value => "Number(" ++ value.text ++ ")"
  | string text => "String(" ++ Text.quoted text ++ ")"
  | sequence items => "Sequence [" ++ listingOfItems items ++ "]"
  | mapping entries => "Mapping \x7b" ++ listingOfEntries entries ++ "\x7d"
  | tagged tag value =>
    "TaggedValue \x7b tag: " ++ tag ++ ", value: " ++ listing value ++ " \x7d"

def listingOfItems : List Value → String
  | [] => ""
  | [item] => listing item
  | item :: rest => listing item ++ ", " ++ listingOfItems rest

def listingOfEntries : List (Value × Value) → String
  | [] => ""
  | (key, value) :: rest =>
    (listedKey key).getD (listing key) ++ ": " ++ listing value ++
      (if rest.isEmpty then "" else ", ") ++ listingOfEntries rest

end

def memberName? : Value → Option String
  | string text => some text
  | bool value => some (if value then "true" else "false")
  | number (.int n) => some (toString n)
  | _ => none

mutual

/-- The value in JSON; a tagged value becomes an object with the tag as its only member. A key
that cannot name a member has no JSON. -/
def toJson? : Value → Option Json
  | null => some .null
  | bool value => some (.bool value)
  | number (.int n) => some (.int n)
  | number (.float x) => some (Json.ofBinary64 x)
  | string text => some (.string text)
  | sequence items => (itemsToJson? items).map .array
  | mapping entries => (entriesToJson? entries).map fun members => .object (Pairs.collect members)
  | tagged tag value => (toJson? value).map fun json => .object [(tag, json)]

def itemsToJson? : List Value → Option (List Json)
  | [] => some []
  | item :: rest => do return (← toJson? item) :: (← itemsToJson? rest)

def entriesToJson? : List (Value × Value) → Option (List (String × Json))
  | [] => some []
  | (key, value) :: rest => do
    return ((← memberName? key), (← toJson? value)) :: (← entriesToJson? rest)

end

end Value

end Typewright.Yaml
