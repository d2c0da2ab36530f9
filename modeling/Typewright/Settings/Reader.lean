import Typewright.Settings
import Typewright.Yaml.Document

/-!
Settings read from YAML text. They are read from the nodes as written and not from values, so a
field that wants text takes any scalar as it stands: `5`, `true` and `null` are texts there.
-/
namespace Typewright.Settings.Reader

abbrev Readable := Except SettingsFault

def target (tree : Yaml.Tree) : Yaml.Node → Yaml.Node
  | .alias number => (tree.target? number).getD .nothing
  | node => node

def text (tree : Yaml.Tree) (field : String) (node : Yaml.Node) : Readable String :=
  match target tree node with
  | .scalar _ text _ => .ok text
  | _ => .error (.wrongType field)

def bool (tree : Yaml.Tree) (field : String) (node : Yaml.Node) : Readable Bool :=
  match target tree node with
  | .scalar tag text style =>
    let readable := style = Yaml.Style.plain ∨ (style = Yaml.Style.literal ∧ tag = some Yaml.Scalar.boolTag)
    match Yaml.Scalar.bool? text with
    | some value => if readable then .ok value else .error (.wrongType field)
    | none => .error (.wrongType field)
  | _ => .error (.wrongType field)

def optionalText (tree : Yaml.Tree) (field : String) (node : Yaml.Node) :
    Readable (Option String) :=
  match target tree node with
  | .scalar tag text style =>
    if style ≠ Yaml.Style.plain then .ok (some text)
    else
      match tag with
      | none => .ok (if text.isEmpty || Yaml.Scalar.isNull text then none else some text)
      | some tag =>
        if tag = Yaml.Scalar.nullTag then
          if Yaml.Scalar.isNull text then .ok none else .error (.wrongType field)
        else .ok (some text)
  | _ => .error (.wrongType field)

def choice (tree : Yaml.Tree) (field : String) (ofName? : String → Option α) (node : Yaml.Node) :
    Readable α :=
  match target tree node with
  | .scalar tag text style =>
    let name? :=
      match tag.bind Yaml.Scalar.ownTag? with
      | none => some text
      | some own =>
        if style = Yaml.Style.plain ∧ (text.isEmpty ∨ Yaml.Scalar.isNull text) then
          some (String.ofList (own.toList.drop 1))
        else none
    match name?.bind ofName? with
    | some value => .ok value
    | none => .error (.wrongType field)
  | _ => .error (.wrongType field)

def entries (tree : Yaml.Tree) (field : String) (node : Yaml.Node) :
    Readable (List (Yaml.Node × Yaml.Node)) :=
  match target tree node with
  | .mapping _ entries => .ok entries
  | .scalar _ text style =>
    if text.isEmpty ∧ style = Yaml.Style.plain then .ok [] else .error (.wrongType field)
  | _ => .error (.wrongType field)

/-- Fields by name. A known field may occur once; unknown ones may occur at will. -/
def fields (tree : Yaml.Tree) (field : String) (known : List String) (node : Yaml.Node) :
    Readable (List (String × Yaml.Node)) := do
  (← entries tree field node).foldlM (fun done (key, value) => do
    let name ← text tree field key
    if !known.contains name then return done
    if (Pairs.find? name done).isSome then throw (.duplicate name)
    return done ++ [(name, value)]) []

def required (fields : List (String × Yaml.Node)) (name : String) : Readable Yaml.Node :=
  match Pairs.find? name fields with
  | some node => .ok node
  | none => .error (.missing name)

def optional (fields : List (String × Yaml.Node)) (name : String) (default : α)
    (read : Yaml.Node → Readable α) : Readable α :=
  match Pairs.find? name fields with
  | some node => read node
  | none => .ok default

def modes (tree : Yaml.Tree) (node : Yaml.Node) : Readable Modes := do
  let fields ← fields tree "writerMode" ["types", "groupedTypes"] node
  let types ← optional fields "types" .singleFile (choice tree "types" TypesMode.ofName?)
  let groups ← optional fields "groupedTypes" .singleFile
    (choice tree "groupedTypes" GroupsMode.ofName?)
  return ⟨types, groups⟩

def output (tree : Yaml.Tree) (node : Yaml.Node) : Readable OutputSettings := do
  let fields ← fields tree "output" ["cleanWrite", "fileExtension", "directory", "writerMode"] node
  let clean ← optional fields "cleanWrite" true (bool tree "cleanWrite")
  let extension ← text tree "fileExtension" (← required fields "fileExtension")
  let directory ← text tree "directory" (← required fields "directory")
  let modes ← optional fields "writerMode" {} (modes tree)
  return ⟨clean, extension, Path.ofString directory, modes⟩

def templates (tree : Yaml.Tree) (node : Yaml.Node) : Readable TemplateTexts := do
  let names := ["objectSyntax", "exporterModuleSyntax", "typesFileSyntax", "enumSyntax",
    "oneOfSyntax"]
  let fields ← fields tree "template" names node
  let needed (name : String) : Readable String := do text tree name (← required fields name)
  let object ← needed "objectSyntax"
  let exporter ← needed "exporterModuleSyntax"
  let typesFile ← needed "typesFileSyntax"
  let enumeration ← optional fields "enumSyntax" none (optionalText tree "enumSyntax")
  let union ← optional fields "oneOfSyntax" none (optionalText tree "oneOfSyntax")
  return ⟨object, exporter, typesFile, enumeration, union⟩

def typedText? (tree : Yaml.Tree) (node : Yaml.Node) : Option String :=
  match target tree node with
  | .scalar tag text style =>
    match Yaml.Scalar.value tag text style with
    | .ok (.string text) => some text
    | _ => none
  | _ => none

def tokenEntry (tree : Yaml.Tree) (field : String) (node : Yaml.Node) : Readable TokenEntry :=
  match target tree node with
  | .mapping tag entries =>
    if (tag.bind Yaml.Scalar.ownTag?).isSome then .error (.wrongType field)
    else
      let pairs? := entries.mapM fun (key, value) => do
        return (← typedText? tree key, ← typedText? tree value)
      match pairs? with
      | some pairs => .ok (.formats (Table.ofList pairs))
      | none => .error (.wrongType field)
  | node =>
    match typedText? tree node with
    | some token => .ok (.direct token)
    | none => .error (.wrongType field)

def tokens (tree : Yaml.Tree) (node : Yaml.Node) : Readable TokenTable := do
  let pairs ← (← entries tree "typeMapper" node).mapM fun (key, value) => do
    let name ← text tree "typeMapper" key
    return (name, ← tokenEntry tree name value)
  return Table.ofList pairs

def ofTree (tree : Yaml.Tree) : Readable Settings := do
  let top ← fields tree "settings" ["input", "output", "template", "language"] tree.root
  let input ← text tree "input" (← required top "input")
  let output ← output tree (← required top "output")
  let templates ← templates tree (← required top "template")
  let language ← fields tree "language" ["exporterModuleName", "typeMapper"]
    (← required top "language")
  let exporterName ← text tree "exporterModuleName" (← required language "exporterModuleName")
  let tokens ← tokens tree (← required language "typeMapper")
  return ⟨Path.ofString input, output, templates, exporterName, tokens⟩

end Reader

def ofText (source : String) : Except Failure Settings :=
  match Yaml.Tree.read source with
  | .error fault => .error (.settings (.text fault))
  | .ok tree => (Reader.ofTree tree).mapError .settings

end Typewright.Settings
