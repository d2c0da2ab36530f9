import Typewright.Template.Meaning
import Typewright.Template.Node

/-!
The text of a template in a context. Rendering carries the scope along; a node also says how its
surroundings go on after it.
-/
namespace Typewright.Template

/-- How the nodes around a node go on. -/
inductive Flow where
  | onward
  | leave
  | again
deriving DecidableEq

abbrev Rendering := StateT Scope Evaluated

/-- What a loop can go through; each entry has a key, which is empty in arrays and texts. -/
def entries (keyed : Bool) (container : Json) : Evaluated (List (String × Json)) :=
  match container, keyed with
  | .array items, false => .ok (items.map fun item => ("", item))
  | .string text, false => .ok (text.toList.map fun c => ("", .string (String.singleton c)))
  | .object members, true => .ok members
  | _, _ => .error .wrongKind

def rounds (keyName : Option String) (valueName : String) (entries : List (String × Json)) :
    List Round :=
  entries.mapIdx fun index (key, value) => ⟨keyName, valueName, key, value, index, entries.length⟩

def isContainer : Expr → Bool
  | .mk (.lookup _) .. => true
  | .mk (.call _) .. => true
  | .mk (.array _) .. => true
  | _ => false

def loopRounds (scope : Scope) (keyName : Option String) (valueName : String) (container : Expr) :
    Evaluated (List Round) := do
  if isContainer container then
    let entries ← entries keyName.isSome (← (meaning scope container).value)
    return rounds keyName valueName entries
  else throw .wrongKind

def eachRound (outer : List Frame) (body : Rendering (String × Flow)) :
    List Round → Rendering String
  | [] => return ""
  | round :: rest => do
    modify fun scope => scope.begin outer round
    let (text, flow) ← body
    match flow with
    | .leave => return text
    | _ => return text ++ (← eachRound outer body rest)

/-- Renders a loop with at least one round. What happened to its frame is forgotten behind it. -/
def repeated (rounds : List Round) (body : Rendering (String × Flow)) :
    Rendering (String × Flow) := do
  let outer := (← get).loops
  let text ← eachRound outer body rounds
  modify fun scope => { scope with loops := outer }
  return (text, .onward)

def inLoop (flow : Flow) : Rendering (String × Flow) := do
  match (← get).loops with
  | [] => throw .outsideLoop
  | _ => return ("", flow)

mutual

def renderNode : Node → Rendering (String × Flow)
  | .text text => return (text, .onward)
  | .output expr => do
    let value ← liftM (meaning (← get) expr).value
    return (shown value, .onward)
  | .assign everywhere name expr => do
    let value ← liftM (meaning (← get) expr).value
    modify fun scope => scope.assign everywhere name value
    return ("", .onward)
  | .cond branches otherwise => renderBranches branches (renderNodes otherwise)
  | .loop keyName valueName container body ifEmpty => do
    match ← liftM (loopRounds (← get) keyName valueName container) with
    | [] => renderNodes ifEmpty
    | rounds => repeated rounds (renderNodes body)
  | .stopLoop => inLoop .leave
  | .nextRound => inLoop .again

def renderNodes : List Node → Rendering (String × Flow)
  | [] => return ("", .onward)
  | node :: rest => do
    let (text, flow) ← renderNode node
    match flow with
    | .onward => do
      let (more, flow) ← renderNodes rest
      return (text ++ more, flow)
    | flow => return (text, flow)

def renderBranches (branches : List (Expr × List Node))
    (otherwise : Rendering (String × Flow)) : Rendering (String × Flow) :=
  match branches with
  | [] => otherwise
  | (condition, body) :: rest => do
    if ← liftM (meaning (← get) condition).condition then renderNodes body
    else renderBranches rest otherwise

end

def render (template : List Node) (context : List (String × Json)) : Evaluated String := do
  let ((text, _), _) ← (renderNodes template).run { context }
  return text

end Typewright.Template
