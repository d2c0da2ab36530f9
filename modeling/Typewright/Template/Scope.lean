import Typewright.Template.Operation

/-!
What names stand for while a template is rendered: the values assigned in the loops around a place
and outside of them, the values of these loops, and last the context that was given.
-/
namespace Typewright.Template

structure Round where
  keyName : Option String
  valueName : String
  key : String
  value : Json
  index : Nat
  count : Nat

structure Frame where
  assigned : List (String × Json) := []
  round : Option Round := none

/-- The frames of loops, the innermost first, and the frame outside of all loops. -/
structure Scope where
  loops : List Frame := []
  outside : Frame := {}
  context : List (String × Json)

def descend : List String → Json → Option Json
  | [], value => some value
  | key :: rest, value => (child? key value).bind (descend rest)

def Round.fact? (round : Round) : List String → Option Json
  | ["index"] => some (.int (round.index + 1))
  | ["index0"] => some (.int round.index)
  | ["first"] => some (.bool (round.index == 0))
  | ["last"] => some (.bool (round.index + 1 == round.count))
  | _ => none

def Round.find? (round : Round) (name : String) (keys : List String) : Option Json :=
  let fact := if name = "loop" then round.fact? keys else none
  match fact with
  | some value => some value
  | none =>
    if name = round.valueName then descend keys round.value
    else if some name = round.keyName ∧ keys = [] then some (.string round.key)
    else none

def Frame.find? (frame : Frame) (name : String) (keys : List String) : Option Json :=
  ((Pairs.find? name frame.assigned).bind (descend keys)).or
    (frame.round.bind fun round => round.find? name keys)

namespace Scope

def find? (scope : Scope) (name : String) (keys : List String) : Option Json :=
  ((scope.loops ++ [scope.outside]).findSome? fun frame => frame.find? name keys).or
    ((Pairs.find? name scope.context).bind (descend keys))

def assign (scope : Scope) (everywhere : Bool) (name : String) (value : Json) : Scope :=
  match everywhere, scope.loops with
  | false, frame :: rest =>
    { scope with loops := { frame with assigned := Pairs.put name value frame.assigned } :: rest }
  | _, _ =>
    { scope with outside :=
      { scope.outside with assigned := Pairs.put name value scope.outside.assigned } }

def begin (scope : Scope) (outer : List Frame) (round : Round) : Scope :=
  { scope with loops := { round := some round } :: outer }

end Scope

end Typewright.Template
