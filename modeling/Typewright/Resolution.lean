import Typewright.Text.Words
import Typewright.Walk

/-!
Declarations made from schemas. A reference is expanded once in a session; while it is under
expansion its name stands for it, so that every cycle of references ends. Inline nodes are cut
when they would declare a name that is being declared around them.
-/
namespace Typewright

structure Member where
  name : String
  schema : Schema
  declaration : Declaration

structure Branch where
  schema : Schema
  declaration : Declaration

def arrayMarker : String := "Array"

def unionOf (sets : List NameSet) : NameSet := sets.foldl (· ∪ ·) ∅

def joinContents (declarations : List Declaration) : String :=
  String.join (declarations.map Declaration.content)

namespace Member

def isNested (member : Member) : Bool :=
  match member.schema with
  | .object .. => true
  | .union .. => true
  | .array .. => true
  | _ => false

def isEnumeration (member : Member) : Bool :=
  match member.schema with
  | .enumeration .. => true
  | _ => false

def property (required : List String) (member : Member) : String × Property :=
  let input := member.declaration.input
  (member.name,
    { type := if member.schema.isReference then input.name else input.type
      required := required.contains member.name
      referenced := member.schema.isReference
      primitiveType := (member.schema.declaredType?.getD .object).name
      itemType := input.itemType?
      note := member.schema.note })

end Member

namespace Branch

def composition (branch : Branch) : Composition TemplateInput :=
  let declaration := branch.declaration
  if branch.schema.isReference then .referenced declaration.name
  else .inlined (branch.schema.declaredType?.map DataType.name) declaration.input
    declaration.content

def references (branch : Branch) : NameSet :=
  if branch.schema.isReference then NameSet.ofList [branch.declaration.name]
  else branch.declaration.references

def primitives (branch : Branch) : NameSet :=
  if branch.schema.isReference then ∅ else branch.declaration.primitives

def content (branch : Branch) : String :=
  if branch.schema.isReference then "" else branch.declaration.content

end Branch

namespace Workspace

def render (kind : DeclarationKind) (name : String) (text : Except Failure String) :
    Walk String := do
  Walk.note (.render kind name)
  Walk.ofExcept text

def declareObject (workspace : Workspace) (name : String) (required : List String)
    (note : Annotation) (members : List Member) : Walk Declaration := do
  let input : ObjectInput := ⟨name, name, members.map (Member.property required), note⟩
  let own ← render .object name (workspace.renderer.object input)
  let declarations := members.map Member.declaration
  return {
    content := own ++ joinContents ((members.filter Member.isNested).map Member.declaration) ++
      joinContents ((members.filter Member.isEnumeration).map Member.declaration)
    references := unionOf (declarations.map Declaration.references)
    primitives := unionOf (declarations.map Declaration.primitives)
    input := .object input }

def declareEnumeration (workspace : Workspace) (name : String) (type : DataType)
    (values : List Literal) (note : Annotation) : Walk Declaration := do
  let input : EnumInput := ⟨name, name, type.name, values, note⟩
  let own ← render .enumeration name (workspace.renderer.enumeration input)
  return ⟨own, ∅, ∅, .enumeration input⟩

def declareUnion (workspace : Workspace) (name : String) (note : Annotation)
    (branches : List Branch) : Walk Declaration := do
  let input : UnionInput TemplateInput := ⟨name, name, branches.map Branch.composition, note⟩
  let own ← render .union name (workspace.renderer.union input)
  return {
    content := own ++ String.join (branches.map Branch.content)
    references := unionOf (branches.map Branch.references)
    primitives := unionOf (branches.map Branch.primitives)
    input := .union input }

def declareArray (workspace : Workspace) (name : String) (items : Schema) (note : Annotation)
    (item : Declaration) : Walk Declaration := do
  let itemType := if items.isReference then item.input.name else item.input.type
  let type ← Walk.ofExcept (workspace.tokens.array itemType)
  return {
    content := if items.isReference then "" else item.content
    references := item.references
    primitives := item.primitives.insert arrayMarker
    input := .plain ⟨name, type, some itemType, note⟩ }

def declarePrimitive (workspace : Workspace) (name : String) (type : DataType)
    (format : Option String) (note : Annotation) : Walk Declaration := do
  let token ← Walk.ofExcept (workspace.tokens.primitive type format)
  return ⟨"", ∅, NameSet.ofList [token], .plain ⟨name, token, none, note⟩⟩

/-- A name that is being declared around this place stands for itself. -/
def unlessOpen (ancestry : List String) (name : String) (declare : Walk Declaration) :
    Walk Declaration :=
  if name ∈ ancestry then return .pending name else declare

def propertyTypeName (property : String) : String := Text.pascalCase property

def enumTypeName (property : String) : String := Text.pascalCase property ++ "Enum"

def itemTypeName (array : String) : String := Text.pascalCase array ++ "Item"

def branchTypeName (union : String) (position : Nat) : String := union ++ toString position

/-- Declares the schema of a property with `declare`. Objects and enumerations are cut at a name
being declared around them; unions are not, and arrays and primitives declare no name. -/
def declareProperty (ancestry : List String) (property : String)
    (declare : List String → String → Walk Declaration) : Schema → Walk Declaration
  | .object .. =>
    let name := propertyTypeName property
    unlessOpen ancestry name (declare (name :: ancestry) name)
  | .enumeration .. =>
    let name := enumTypeName property
    unlessOpen ancestry name (declare (name :: ancestry) name)
  | .union .. =>
    let name := propertyTypeName property
    declare (name :: ancestry) name
  | _ => declare ancestry property

def declareBranch (ancestry : List String) (name : String)
    (declare : List String → String → Walk Declaration) (schema : Schema) : Walk Declaration :=
  if schema.isReference then declare ancestry name
  else unlessOpen ancestry name (declare (name :: ancestry) name)

mutual

/-- Declares a schema of the document `scope` under `name`. `ancestry` holds the names being
declared around it, `name` included where the schema declares a type. -/
def declareNode (workspace : Workspace) (scope : Document) (ancestry : List String)
    (name : String) : Schema → Walk Declaration
  | .object properties required note => do
    declareObject workspace name required note
      (← declareProperties workspace scope ancestry properties)
  | .enumeration type values note => declareEnumeration workspace name type values note
  | .union variants note => do
    declareUnion workspace name note
      (← declareVariants workspace scope ancestry name 1 variants)
  | .array items note => do
    let itemName := itemTypeName name
    let item ← unlessOpen ancestry itemName
      (declareNode workspace scope (itemName :: ancestry) itemName items)
    declareArray workspace name items note item
  | .reference target _ => Walk.ask scope target
  | .primitive type format note => declarePrimitive workspace name type format note

def declareProperties (workspace : Workspace) (scope : Document) (ancestry : List String) :
    List (String × Schema) → Walk (List Member)
  | [] => return []
  | (property, schema) :: rest => do
    let declaration ← declareProperty ancestry property
      (fun around name => declareNode workspace scope around name schema) schema
    let members ← declareProperties workspace scope ancestry rest
    return ⟨property, schema, declaration⟩ :: members

def declareVariants (workspace : Workspace) (scope : Document) (ancestry : List String)
    (union : String) (position : Nat) : List Schema → Walk (List Branch)
  | [] => return []
  | schema :: rest => do
    let declaration ← declareBranch ancestry (branchTypeName union position)
      (fun around name => declareNode workspace scope around name schema) schema
    let branches ← declareVariants workspace scope ancestry union (position + 1) rest
    return ⟨schema, declaration⟩ :: branches

end

def declareUnder (workspace : Workspace) (scope : Document) (ancestry : List String)
    (name : String) (schema : Schema) : Walk Declaration :=
  unlessOpen ancestry name (workspace.declareNode scope (name :: ancestry) name schema)

def declare (workspace : Workspace) (scope : Document) (name : String) (schema : Schema) :
    Walk Declaration :=
  workspace.declareUnder scope [] name schema

end Workspace

/-- The declaration behind a reference, from the one made for its target. A target that is a
reference itself has the name of its own target. -/
def Target.finish (target : Target) (schema : Schema) (declared : Declaration) : Declaration :=
  if schema.isReference then declared else declared.referring target.name

namespace Workspace

def expandTarget (workspace : Workspace) (expand : Document → String → Resolve Declaration)
    (scope : Document) (key reference : String) : Resolve Declaration := do
  let (target, schema) ← workspace.readSchema scope reference
  let declared ← Resolve.whileOpen key target.name
    (workspace.follow expand (workspace.declare target.document target.name schema))
  let declaration := target.finish schema declared
  modify fun session =>
    { session with memo := session.memo.put key ⟨target, declaration⟩ }
  return declaration

def expandWith (workspace : Workspace) (expand : Document → String → Resolve Declaration)
    (scope : Document) (reference : String) : Resolve Declaration := do
  let key := workspace.key scope reference
  let session ← get
  match session.memo.find? key, session.opened.lookup key with
  | some expansion, _ => return expansion.declaration
  | none, some name => return (Declaration.pending name).referring name
  | none, none => expandTarget workspace expand scope key reference

def expandWithin (workspace : Workspace) : Nat → Document → String → Resolve Declaration
  | 0, _, _ => throw (.runtime .nesting)
  | depth + 1, scope, reference =>
    workspace.expandWith (workspace.expandWithin depth) scope reference

end Workspace

def Document.sites (document : Document) (values : List Yaml.Value) : List (Path × String) :=
  (values.flatMap Yaml.Value.references).map fun reference => (document.path, reference)

namespace Workspace

def sites (workspace : Workspace) : List (Path × String) :=
  workspace.root.sites [workspace.root.body] ++
    workspace.library.documents.flatMap fun (path, result) =>
      match result with
      | .ok body => Document.sites ⟨path, body⟩ [body]
      | .error _ => []

/-- A bound on nested expansions: on one chain of them no reference occurs twice. -/
def nestingBound (workspace : Workspace) (more : List (Path × String)) : Nat :=
  (workspace.sites ++ more).length + 1

/-- Follows a walk. The references that it asks for are written in the documents of the workspace
or listed in `more`. -/
def perform (workspace : Workspace) (more : List (Path × String)) (walk : Walk α) : Resolve α :=
  workspace.follow (workspace.expandWithin (workspace.nestingBound more)) walk

def list (name : String) (schema : Schema) (declaration : Declaration)
    (declared : Declarations) : Declarations :=
  if schema.isReference then declared else declared.put name (declaration.withoutSelf name)

def declareEntries (workspace : Workspace) (scope : Document) :
    List (String × Yaml.Value) → Declarations → Walk Declarations
  | [], declared => return declared
  | (name, value) :: rest, declared => do
    let schema ← Walk.ofExcept (Schema.decodeNamed name value)
    let declaration ← workspace.declare scope name schema
    declareEntries workspace scope rest (list name schema declaration declared)

def listTypes (workspace : Workspace) (scope : Document) (types : TypeMap) :
    Walk Declarations :=
  workspace.declareEntries scope types.entries ∅

def listGroup (workspace : Workspace) : Group → Walk Declarations
  | .types types => workspace.listTypes workspace.root types
  | .reference reference => do
    let (target, types) ← Walk.group workspace.root reference
    workspace.listTypes target.document types

def listGroups (workspace : Workspace) :
    List (String × Group) → Table Declarations → Walk (Table Declarations)
  | [], declared => return declared
  | (name, group) :: rest, declared => do
    let declarations ← workspace.listGroup group
    workspace.listGroups rest (declared.put name declarations)

def listAll (workspace : Workspace) (spec : Spec) : Walk Generation := do
  let types ← spec.types.elim (pure ∅) (workspace.listTypes workspace.root)
  let groups ← spec.groups.elim (pure ∅) fun groups => workspace.listGroups groups.entries ∅
  return ⟨types, groups⟩

def declareTypes (workspace : Workspace) (scope : Document) (types : TypeMap) :
    Resolve Declarations :=
  workspace.perform (scope.sites (scope.body :: types.values)) (workspace.listTypes scope types)

end Workspace

def Target.groupName (target : Target) : String :=
  let path := target.document.path
  Text.pascalCase (path.fileStem?.getD (path.fileName?.getD ""))

/-- Puts an expanded type of another document into the group of that document. A reference to a
reference declares nothing of its own. -/
def surface (groups : Table Declarations) (expansion : Expansion) : Table Declarations :=
  let target := expansion.target
  if target.isRemote ∧ expansion.declaration.name = target.name then
    let group := (groups.find? target.groupName).getD ∅
    groups.put target.groupName
      (group.put target.name (expansion.declaration.withoutSelf target.name))
  else groups

def surfaceAll (memo : Table Expansion) (groups : Table Declarations) : Table Declarations :=
  memo.values.foldl surface groups

namespace Generation

def surfacing (memo : Table Expansion) (generation : Generation) : Generation :=
  { generation with groups := surfaceAll memo generation.groups }

end Generation

def Workspace.declareAll (workspace : Workspace) (spec : Spec) : Resolve Generation := do
  let listed ← workspace.perform (workspace.root.sites spec.values) (workspace.listAll spec)
  return listed.surfacing (← get).memo

end Typewright
