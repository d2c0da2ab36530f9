/-!
The tokens of YAML text. Indentation has become tokens that open and close blocks, and a key
without its own sign has one in front of it.
-/
namespace Typewright.Yaml

inductive Fault where
  | character
  | token
  | arrangement
  | severalDocuments
  | unknownAlias
  | repetition
  | depth
  | duplicateKey
  | scalar
deriving DecidableEq, Repr

/-- How a scalar is written; only a plain one can stand for something else than its text. -/
inductive Style where
  | plain
  | single
  | double
  | literal
  | folded
deriving DecidableEq, Repr

inductive Token where
  | version (major minor : Nat)
  | tagDirective (handle start : String)
  | documentStart
  | documentEnd
  | blockSequenceStart
  | blockMappingStart
  | blockEnd
  | flowSequenceStart
  | flowSequenceEnd
  | flowMappingStart
  | flowMappingEnd
  | blockEntry
  | flowEntry
  | key
  | value
  | alias (name : String)
  | anchor (name : String)
  | tag (handle suffix : String)
  | scalar (text : String) (style : Style)
deriving DecidableEq, Repr

end Typewright.Yaml
