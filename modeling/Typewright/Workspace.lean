import Typewright.Declaration
import Typewright.Reference
import Typewright.Schema.Decode
import Typewright.TokenTable

/-!
What a run works with and what it remembers. A workspace is fixed: the root document, the library
of other documents, the target tokens and the renderer. A session grows: the documents loaded, the
references under expansion, the references expanded, and a trace of loads and renderings.
-/
namespace Typewright

structure Document where
  path : Path
  body : Yaml.Value

def Document.directory (document : Document) : Path := document.path.directory

/-- The documents that can be loaded, by the text of their paths; some of them fail to load. -/
structure Library where
  documents : List (Path × Except Failure Yaml.Value)
  absent : Path → Failure := fun path => .io (.noDocument path)

def Library.load (library : Library) (path : Path) : Except Failure Yaml.Value :=
  match library.documents.lookup path with
  | some result => result
  | none => .error (library.absent path)

inductive DeclarationKind where
  | object
  | enumeration
  | union
deriving DecidableEq, Repr

structure Renderer where
  object : ObjectInput → Except Failure String
  enumeration : EnumInput → Except Failure String
  union : UnionInput TemplateInput → Except Failure String

structure Workspace where
  root : Document
  library : Library
  tokens : TokenTable
  renderer : Renderer

/-- The node or group that a reference leads to. -/
structure Target where
  document : Document
  keys : List String
  name : String
  isRemote : Bool

structure Expansion where
  target : Target
  declaration : Declaration

inductive Event where
  | load (path : Path)
  | render (kind : DeclarationKind) (name : String)

structure Session where
  documents : List Document := []
  /-- The references under expansion, the innermost first, with the names of their targets. -/
  opened : List (String × String) := []
  memo : Table Expansion := ∅
  /-- What happened, the latest first. -/
  trace : List Event := []

/-- A computation in a session. What it has remembered stays when it fails. -/
abbrev Resolve := ExceptT Failure (StateM Session)

namespace Resolve

def ofExcept (result : Except Failure α) : Resolve α := ExceptT.mk (pure result)

def record (event : Event) : Resolve Unit :=
  modify fun session => { session with trace := event :: session.trace }

/-- Runs `action` while the reference `key` counts as open. It is closed again in any case. -/
def whileOpen (key name : String) (action : Resolve α) : Resolve α :=
  ExceptT.mk fun session =>
    let (result, after) := action.run { session with opened := (key, name) :: session.opened }
    (result, { after with opened := session.opened })

end Resolve

namespace Workspace

def isRoot (workspace : Workspace) (document : Document) : Bool :=
  document.path.same workspace.root.path

def document (workspace : Workspace) (path : Path) : Resolve Document := do
  if path.same workspace.root.path then return workspace.root
  match (← get).documents.find? fun document => document.path.same path with
  | some document => return document
  | none =>
    Resolve.record (.load path)
    let body ← Resolve.ofExcept (workspace.library.load path)
    let document : Document := ⟨path, body⟩
    modify fun session => { session with documents := session.documents ++ [document] }
    return document

def place (workspace : Workspace) (scope : Document) (reference : String) :
    Resolve (Document × String) :=
  match Reference.classify reference with
  | .url => throw (.unsupported (.urlReference reference))
  | .inside => return (scope, String.ofList (reference.toList.drop 1))
  | .outside =>
    match Text.splitFirst '#' reference with
    | none => throw (.invalidSpec (.brokenReference reference))
    | some (file, pointer) => do
      let path := (scope.directory.join (Path.ofString file)).normalize
      return (← workspace.document path, pointer)

def locate (workspace : Workspace) (scope : Document) (reference : String) : Resolve Target := do
  let (document, pointer) ← workspace.place scope reference
  let keys := Reference.keys pointer
  match keys.getLast? with
  | none => throw (.invalidSpec (.brokenReference reference))
  | some name => return ⟨document, keys, name, !workspace.isRoot document⟩

def readTarget (workspace : Workspace) (scope : Document) (reference : String) :
    Resolve (Target × Yaml.Value) := do
  let target ← workspace.locate scope reference
  let value ← Resolve.ofExcept (Reference.read reference target.keys target.document.body)
  return (target, value)

def readSchema (workspace : Workspace) (scope : Document) (reference : String) :
    Resolve (Target × Schema) := do
  let (target, value) ← workspace.readTarget scope reference
  return (target, ← Resolve.ofExcept (Schema.decodeNamed target.name value))

/-- A reference is known by its text in the root document, and by path and text elsewhere. -/
def key (workspace : Workspace) (scope : Document) (reference : String) : String :=
  if workspace.isRoot scope then reference else scope.path.toString ++ "::" ++ reference

end Workspace

end Typewright
