import Typewright.Yaml.Scalar

/-!
Values read from YAML text. Aliases stand for the values of their targets, a mapping refuses equal
keys, and nesting and the following of aliases are bounded.
-/
namespace Typewright.Yaml

def depthLimit : Nat := 128

abbrev Builder := StateT Nat (Except Fault)

namespace Tree

def followLimit (tree : Tree) : Nat := 100 * tree.root.steps

def follow (tree : Tree) : Node → Builder Node
  | .alias number => do
    modify (· + 1)
    if tree.followLimit < (← get) then throw .repetition
    match tree.target? number with
    | some node => return node
    | none => throw .unknownAlias
  | node => return node

/-- Adds an entry to a mapping, unless it has an equal key. The key is judged before the value is
built. -/
def addEntry (entries : List (Value × Value)) (key : Value) (value : Builder Value) :
    Builder (List (Value × Value)) := do
  if entries.any fun entry => key.same entry.1 then throw .duplicateKey
  return entries ++ [(key, ← value)]

def withTag (tag : Option String) (value : Value) : Value :=
  match tag.bind Scalar.ownTag? with
  | some own => .tagged own value
  | none => value

def build (tree : Tree) : Nat → Node → Builder Value
  | depth, node => do
    match ← tree.follow node with
    | .scalar tag text style => Scalar.value tag text style
    | .sequence tag items =>
      match depth with
      | 0 => throw .depth
      | depth + 1 => return withTag tag (.sequence (← items.mapM (tree.build depth)))
    | .mapping tag entries =>
      match depth with
      | 0 => throw .depth
      | depth + 1 =>
        let built ← entries.foldlM (fun done (key, value) => do
          addEntry done (← tree.build depth key) (tree.build depth value)) []
        return withTag tag (.mapping built)
    | .alias _ => throw .unknownAlias

end Tree

/-- The value of a text. A text without a document is null. -/
def read (text : String) : Except Fault Value := do
  let tree ← Tree.read text
  return (← (tree.build depthLimit tree.root).run 0).1

end Typewright.Yaml
