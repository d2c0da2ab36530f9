import Typewright.Spec
import Typewright.Workspace

/-!
Walks over schemas. A walk says what is recorded, which references are asked for and what is made
of the answers; how references are expanded is left to the one who follows the walk.
-/
namespace Typewright

inductive Walk (α : Type) where
  | done (value : α)
  | failed (failure : Failure)
  | noting (event : Event) (rest : Walk α)
  /-- Asks for the declaration behind a reference in `scope`. -/
  | asking (scope : Document) (reference : String) (rest : Declaration → Walk α)
  | grouping (scope : Document) (reference : String) (rest : Target × TypeMap → Walk α)

namespace Walk

def bind : Walk α → (α → Walk β) → Walk β
  | done value, next => next value
  | failed failure, _ => failed failure
  | noting event rest, next => noting event (rest.bind next)
  | asking scope reference rest, next =>
    asking scope reference fun answer => (rest answer).bind next
  | grouping scope reference rest, next =>
    grouping scope reference fun answer => (rest answer).bind next

instance : Monad Walk where
  pure := done
  bind := bind

def note (event : Event) : Walk Unit := noting event (done ())

def ask (scope : Document) (reference : String) : Walk Declaration :=
  asking scope reference done

def group (scope : Document) (reference : String) : Walk (Target × TypeMap) :=
  grouping scope reference done

def ofExcept : Except Failure α → Walk α
  | .ok value => done value
  | .error failure => failed failure

end Walk

namespace Workspace

def readGroup (workspace : Workspace) (scope : Document) (reference : String) :
    Resolve (Target × TypeMap) := do
  let (target, value) ← workspace.readTarget scope reference
  return (target, ← Resolve.ofExcept (TypeMap.decode target.name value))

/-- Follows a walk in a session; `expand` expands the references that it asks for. -/
def follow (workspace : Workspace) (expand : Document → String → Resolve Declaration) :
    Walk α → Resolve α
  | .done value => return value
  | .failed failure => throw failure
  | .noting event rest => do
    Resolve.record event
    workspace.follow expand rest
  | .asking scope reference rest => do
    let answer ← expand scope reference
    workspace.follow expand (rest answer)
  | .grouping scope reference rest => do
    let answer ← workspace.readGroup scope reference
    workspace.follow expand (rest answer)

end Workspace

end Typewright
