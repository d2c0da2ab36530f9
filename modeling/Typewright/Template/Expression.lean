import Typewright.Binary64
import Typewright.Text.Split

/-!
Expressions of templates as they are written. Filters belong to a whole operand, so
`1 + a | length` takes the length of the sum.
-/
namespace Typewright.Template

inductive Arithmetic where
  | add
  | subtract
  | multiply
  | divide
  | remainder
deriving DecidableEq, Repr

inductive Comparison where
  | less
  | lessEqual
  | greater
  | greaterEqual
  | equal
  | unequal
deriving DecidableEq, Repr

inductive Connective where
  | or
  | and
deriving DecidableEq, Repr

mutual

inductive Expr where
  | mk (operand : Operand) (filters : List Call) (negated : Bool)

inductive Operand where
  | bool (value : Bool)
  | int (value : Int)
  | float (value : Binary64)
  | text (value : String)
  | array (items : List Expr)
  | lookup (place : Place)
  | call (call : Call)
  | arithmetic (operation : Arithmetic) (left right : Expr)
  | comparison (operation : Comparison) (left right : Expr)
  | connective (operation : Connective) (left right : Expr)
  | contains (member container : Expr) (negated : Bool)
  | test (place : Place) (name : String) (args : List Expr) (negated : Bool)
  | concat (parts : List Operand)

inductive Place where
  | mk (name : String) (steps : List Step)

inductive Step where
  | key (key : String)
  | computed (place : Place)

inductive Call where
  | mk (name : String) (args : List (String × Expr))

end

instance : Inhabited Expr := ⟨.mk (.bool false) [] false⟩
instance : Inhabited Place := ⟨.mk "" []⟩

def Place.name : Place → String
  | .mk name _ => name

namespace Call

def name : Call → String
  | mk name _ => name

def args : Call → List (String × Expr)
  | mk _ args => args

end Call

namespace Expr

def operand : Expr → Operand
  | mk operand _ _ => operand

def filters : Expr → List Call
  | mk _ filters _ => filters

def negated : Expr → Bool
  | mk _ _ negated => negated

def ofOperand (operand : Operand) : Expr := mk operand [] false

end Expr

end Typewright.Template
