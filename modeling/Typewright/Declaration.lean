import Typewright.NameSet
import Typewright.Table
import Typewright.Schema

/-!
Declarations: the text generated for a type, with the names and primitive tokens that it uses and
the input that templates see.
-/
namespace Typewright

structure Property where
  type : String
  required : Bool
  referenced : Bool
  /-- The declared schema type, `object` when none is declared. -/
  primitiveType : String
  itemType : Option String
  note : Annotation

structure ObjectInput where
  name : String
  type : String
  properties : List (String × Property)
  note : Annotation

structure EnumInput where
  name : String
  type : String
  valueType : String
  values : List Literal
  note : Annotation

/-- A branch of a union: the name of a type declared elsewhere, or an input of its own. -/
inductive Composition (Input : Type) where
  | referenced (name : String)
  | inlined (declaredType : Option String) (input : Input) (content : String)

structure UnionInput (Input : Type) where
  name : String
  type : String
  compositions : List (Composition Input)
  note : Annotation

structure PlainInput where
  name : String
  type : String
  itemType : Option String
  note : Annotation

inductive TemplateInput where
  | object (input : ObjectInput)
  | enumeration (input : EnumInput)
  | union (input : UnionInput TemplateInput)
  | plain (input : PlainInput)

namespace TemplateInput

def name : TemplateInput → String
  | object input => input.name
  | enumeration input => input.name
  | union input => input.name
  | plain input => input.name

def type : TemplateInput → String
  | object input => input.type
  | enumeration input => input.type
  | union input => input.type
  | plain input => input.type

def itemType? : TemplateInput → Option String
  | plain input => input.itemType
  | _ => none

end TemplateInput

structure Declaration where
  content : String
  references : NameSet
  primitives : NameSet
  input : TemplateInput

namespace Declaration

def name (declaration : Declaration) : String := declaration.input.name

/-- Stands for a type whose expansion has begun and not ended: its name and nothing else. -/
def pending (name : String) : Declaration :=
  ⟨"", ∅, ∅, .plain ⟨name, name, none, {}⟩⟩

def referring (name : String) (declaration : Declaration) : Declaration :=
  { declaration with references := declaration.references.insert name }

def withoutSelf (name : String) (declaration : Declaration) : Declaration :=
  { declaration with references := declaration.references.erase name }

end Declaration

abbrev Declarations := Table Declaration

structure Generation where
  types : Declarations
  groups : Table Declarations

def Generation.count (generation : Generation) : Nat :=
  generation.groups.values.foldl (fun count types => count + types.size) generation.types.size

end Typewright
