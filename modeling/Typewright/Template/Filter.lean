import Typewright.Template.Operation
import Typewright.Text.Words

/-!
Filters of templates: functions from a value and named arguments to a value.
-/
namespace Typewright.Template.Filter

abbrev Arguments := List (String × Json)

def text (value : Json) : Evaluated String :=
  match value with
  | .string text => .ok text
  | _ => .error .wrongKind

def items (value : Json) : Evaluated (List Json) :=
  match value with
  | .array items => .ok items
  | _ => .error .wrongKind

def argument (args : Arguments) (name : String) : Evaluated Json :=
  match Pairs.find? name args with
  | some value => .ok value
  | none => .error (.missingArgument name)

def onText (f : String → String) (value : Json) : Evaluated Json := do
  return .string (f (← text value))

def capitalize (text : String) : String :=
  match text.toList with
  | [] => ""
  | c :: rest => String.ofList (Text.upperForm c) ++ Text.lower (String.ofList rest)

def isTitlePart (c : Char) : Bool := Text.isWordPart c || c.toNat == 0x27

def titleWord (word : List Char) : List Char :=
  let lead := word.takeWhile fun c => c.toNat == 0x27
  match word.drop lead.length with
  | [] => lead
  | c :: rest => lead ++ Text.upperForm c ++ (Text.lower (String.ofList rest)).toList

def titleFrom (word : List Char) : List Char → List Char
  | [] => titleWord word.reverse
  | c :: rest =>
    if isTitlePart c then titleFrom (c :: word) rest
    else titleWord word.reverse ++ c :: titleFrom [] rest

def title (text : String) : String := String.ofList (titleFrom [] text.toList)

def trimStart (text : String) : String := String.ofList (text.toList.dropWhile Text.isBlank)

def trimEnd (text : String) : String :=
  String.ofList (text.toList.reverse.dropWhile Text.isBlank).reverse

def escapeChar (c : Char) : List Char :=
  match c with
  | '&' => "&amp;".toList
  | '<' => "&lt;".toList
  | '>' => "&gt;".toList
  | '"' => "&quot;".toList
  | '/' => "&#x2F;".toList
  | c => if c.toNat = 0x27 then "&#x27;".toList else [c]

def escape (text : String) : String := String.ofList (text.toList.flatMap escapeChar)

def length (value : Json) : Evaluated Json :=
  match value with
  | .array items => .ok (.int items.length)
  | .object members => .ok (.int members.length)
  | .string text => .ok (.int text.length)
  | _ => .error .wrongKind

def reverse (value : Json) : Evaluated Json :=
  match value with
  | .array items => .ok (.array items.reverse)
  | .string text => .ok (.string (String.ofList text.toList.reverse))
  | _ => .error .wrongKind

def item (pick : List Json → Option Json) (value : Json) : Evaluated Json := do
  return (pick (← items value)).getD (.string "")

def position (value : Json) : Evaluated Nat :=
  match value with
  | .int n => if 0 ≤ n then .ok n.toNat else .error .wrongKind
  | _ => .error .wrongKind

def replace (args : Arguments) (value : Json) : Evaluated Json := do
  let value ← text value
  let old ← text (← argument args "from")
  let new ← text (← argument args "to")
  return .string (Text.replaceAll old new value)

/-- Joins the texts of items. In the separator `\n` and `\t` stand for a line break and a tab. -/
def join (args : Arguments) (value : Json) : Evaluated Json := do
  let items ← items value
  let separator ←
    match Pairs.find? "sep" args with
    | some separator => text separator
    | none => pure ""
  let separator := Text.replaceAll "\\t" "\t" (Text.replaceAll "\\n" "\n" separator)
  return .string (separator.intercalate (items.map shown))

def indent (depth : Nat) : String := String.ofList (List.replicate (2 * depth) ' ')

mutual

def pretty (depth : Nat) : Json → String
  | .array [] => "[]"
  | .array items => "[\n" ++ prettyItems (depth + 1) items ++ "\n" ++ indent depth ++ "]"
  | .object [] => "\x7b\x7d"
  | .object members =>
    "\x7b\n" ++ prettyMembers (depth + 1) members ++ "\n" ++ indent depth ++ "\x7d"
  | value => value.write

def prettyItems (depth : Nat) : List Json → String
  | [] => ""
  | [item] => indent depth ++ pretty depth item
  | item :: rest => indent depth ++ pretty depth item ++ ",\n" ++ prettyItems depth rest

def prettyMembers (depth : Nat) : List (String × Json) → String
  | [] => ""
  | [(name, value)] => indent depth ++ Json.quoted name ++ ": " ++ pretty depth value
  | (name, value) :: rest =>
    indent depth ++ Json.quoted name ++ ": " ++ pretty depth value ++ ",\n" ++
      prettyMembers depth rest

end

def encode (args : Arguments) (value : Json) : String :=
  match Pairs.find? "pretty" args with
  | some (.bool true) => pretty 0 value
  | _ => value.write

def apply (name : String) (args : Arguments) (value : Json) : Evaluated Json :=
  match name with
  | "pascal_case" => onText Text.pascalCase value
  | "camel_case" => onText Text.camelCase value
  | "json_encode" => .ok (.string (encode args value))
  | "length" => length value
  | "upper" => onText Text.upper value
  | "lower" => onText Text.lower value
  | "capitalize" => onText capitalize value
  | "title" => onText title value
  | "trim" => onText (fun text => trimEnd (trimStart text)) value
  | "trim_start" => onText trimStart value
  | "trim_end" => onText trimEnd value
  | "replace" => replace args value
  | "join" => join args value
  | "first" => item List.head? value
  | "last" => item List.getLast? value
  | "nth" => do
    let items ← items value
    let n ← position (← argument args "n")
    return items[n]?.getD (.string "")
  | "reverse" => reverse value
  | "escape" => onText escape value
  | name => .error (.unknownFilter name)

end Typewright.Template.Filter
