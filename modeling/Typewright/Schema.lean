import Typewright.DataType
import Typewright.Yaml.Value

/-!
Schemas: what a node of a document declares.
-/
namespace Typewright

/-- What is said about a node and carried through to templates unchanged. -/
structure Annotation where
  description : Option String := none
  summary : Option String := none
  example? : Option Yaml.Value := none
deriving Inhabited

inductive Schema where
  | object (properties : List (String × Schema)) (required : List String) (note : Annotation)
  | enumeration (type : DataType) (values : List Literal) (note : Annotation)
  | union (variants : List Schema) (note : Annotation)
  | array (items : Schema) (note : Annotation)
  | reference (target : String) (note : Annotation)
  | primitive (type : DataType) (format : Option String) (note : Annotation)
deriving Inhabited

namespace Schema

def note : Schema → Annotation
  | object _ _ note => note
  | enumeration _ _ note => note
  | union _ note => note
  | array _ note => note
  | reference _ note => note
  | primitive _ _ note => note

def declaredType? : Schema → Option DataType
  | object .. => some .object
  | enumeration type _ _ => some type
  | array .. => some .array
  | primitive type _ _ => some type
  | union .. => none
  | reference .. => none

def isReference : Schema → Bool
  | reference .. => true
  | _ => false

end Schema

end Typewright
