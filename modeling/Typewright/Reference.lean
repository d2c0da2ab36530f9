import Typewright.Failure
import Typewright.Text.Split

/-!
References between schema nodes: their three forms, the pointer behind the `#`, and the value that
a pointer leads to.
-/
namespace Typewright.Reference

inductive Kind where
  | inside
  | outside
  | url
deriving DecidableEq, Repr

def isSchemeChar (c : Char) : Bool := c.isAlphanum || c == '+' || c == '-' || c == '.'

def hasScheme (text : List Char) : Bool :=
  (text.head?.any Char.isAlpha) &&
    "://".toList.isPrefixOf (text.dropWhile isSchemeChar)

/-- The kind of a reference is decided by its text alone. -/
def classify (reference : String) : Kind :=
  let text := reference.toList
  if text.head? = some '#' then .inside
  else if hasScheme text then .url
  else .outside

def unescape (segment : String) : String :=
  Text.replaceAll "~0" "~" (Text.replaceAll "~1" "/" segment)

def escape (key : String) : String :=
  Text.replaceAll "/" "~1" (Text.replaceAll "~" "~0" key)

def keys (pointer : String) : List String :=
  ((Text.pieces '/' pointer).filter (· ≠ "")).map unescape

def follow (reference : String) (value : Yaml.Value) (key : String) :
    Except Failure Yaml.Value :=
  match value.entries?.bind (Yaml.Value.lookup? key) with
  | some inner => .ok inner
  | none => .error (.invalidSpec (.missingKey reference key))

def read (reference : String) (keys : List String) (value : Yaml.Value) :
    Except Failure Yaml.Value :=
  keys.foldlM (follow reference) value

end Typewright.Reference
