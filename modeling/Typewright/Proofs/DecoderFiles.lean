import Typewright.Output
import Typewright.Proofs.CalledDecoders

/-!
Which decoders a file calls and which it has at hand. A file defines the decoders of the types that
it declares, imports those of the types that other files declare for it, and has the decoders that
every file imports.
-/
namespace Typewright

open Settings

def IsPlain (sources : List (String × Schema)) (name : String) : Prop :=
  ∃ source ∈ sources, Workspace.PlainAt source.2 source.1 name

/-- The texts of these inputs and the imports of their file provide this decoder. -/
inductive AtHand (imports : List Import) (inputs : List TemplateInput) (callee : String) :
    Prop where
  | defined {input : TemplateInput} (isIn : input ∈ inputs) (declares : input.kind? ≠ none)
    (named : input.name = callee)
  | imported {item : Import} (isIn : item ∈ imports) (named : item.name = callee)
  | shared (isIn : callee ∈ DecoderTexts.sharedDecoders)

/-- Why a decoder that is called can be missing. -/
inductive Missed (sources : List (String × Schema)) (found : String → Prop) : String → Prop where
  | plain {name : String} (isPlain : IsPlain sources name) : Missed sources found name
  /-- The decoder is called in another case than it is defined in. -/
  | respelled {name : String} (isFound : found name ∨ IsPlain sources name)
    (differs : Text.pascalCase name ≠ name) : Missed sources found (Text.pascalCase name)
  /-- The decoder of a primitive is called like its declared type: `Integer` or `Unknown`. -/
  | primitive {type : DataType}
    (missing : Text.pascalCase type.name ∉ DecoderTexts.sharedDecoders) :
    Missed sources found (Text.pascalCase type.name)
  /-- The decoder of primitive items is called like their token: `Date` or `Unknown`. -/
  | token {type : DataType} {format : Option String} {token : String}
    (isToken : Presets.tokens.primitive type format = .ok token)
    (missing : Text.pascalCase token ∉ DecoderTexts.sharedDecoders) :
    Missed sources found (Text.pascalCase token)
  | object {format : Option String} {token : String}
    (isToken : Presets.tokens.primitive .object format = .ok token) : Missed sources found token
  /-- An array whose type is taken for the name of an enumeration. -/
  | brackets {item : String} (isEnum : Text.contains (item ++ "[]") "Enum" = true) :
    Missed sources found (item ++ "[]")

theorem missed_of_called {sources : List (String × Schema)} {imports : List Import}
    {inputs : List TemplateInput} {callee : String}
    (called : Called (fun name => AtHand imports inputs name ∨ IsPlain sources name) callee) :
    AtHand imports inputs callee ∨ Missed sources (AtHand imports inputs) callee := by
  cases called with
  | name isKnown => exact isKnown.imp_right .plain
  | array => exact .inl (.shared (by decide))
  | primitive type =>
    by_cases shared : Text.pascalCase type.name ∈ DecoderTexts.sharedDecoders
    · exact .inl (.shared shared)
    · exact .inr (.primitive shared)
  | @token _ _ token isToken =>
    by_cases shared : Text.pascalCase token ∈ DecoderTexts.sharedDecoders
    · exact .inl (.shared shared)
    · exact .inr (.token isToken shared)
  | object isToken => exact .inr (.object isToken)
  | @respelled name isKnown =>
    by_cases same : Text.pascalCase name = name
    · rw [same]
      exact isKnown.imp_right .plain
    · exact .inr (.respelled isKnown same)
  | brackets isEnum => exact .inr (.brackets isEnum)

namespace Workspace
variable {workspace : Workspace} {trace : List Event} {requests : List Request}

theorem generated_declared {begun : Walk Declaration → Session → Prop} {scope : Document}
    {name : String} {schema : Schema} {calls : List Call} {declaration : Declaration}
    (preset : workspace.tokens = Presets.tokens)
    (generated : Generated workspace begun scope name schema calls declaration) :
    ∃ inputs, workspace.Writes declaration.content inputs (schema.typeNodes name) ∧
      Accounts [name] calls inputs (schema.HasPlain name) fun _ => True := by
  obtain ⟨s, declared, t, _, notReference, follows, rfl⟩ := generated
  have inner : workspace.Follows (workspace.declareNode scope [name] name schema) s calls
      (.done declared) t := follows
  obtain ⟨inputs, made⟩ := declareNode_declared preset schema _ _ [] _ _ _ _ inner
  have writes := made.writes
  simp only [ownContent, notReference, Bool.false_eq_true, if_false] at writes
  exact ⟨inputs, writes, accounts_imp made.accounts fun _ _ => trivial⟩

structure Gathered (workspace : Workspace) (members : List (String × Declaration))
    (sources : List (String × Schema)) (inputs : List TemplateInput) : Prop where
  writes : workspace.Writes (String.join (members.map fun member => member.2.content)) inputs
    ((fileNodes sources).map Prod.snd)
  includes : ∀ source ∈ sources, Includes source.2 source.1 inputs
  called : ∀ known : String → Prop, (∀ name, IsPlain sources name → known name) →
    (∀ input ∈ inputs, known input.name) → (∀ source ∈ sources, known source.1) →
    (∀ member ∈ members, ∀ used ∈ member.2.references, known used) →
    ∀ input ∈ inputs, ∀ callee ∈ input.callees, Called known callee

theorem gathered_of_sources {members : List (String × Declaration)}
    {sources : List (String × Schema)} (preset : workspace.tokens = Presets.tokens)
    (made : List.Forall₂ (MadeFrom workspace (workspace.Begins trace requests)) members sources) :
    ∃ inputs, workspace.Gathered members sources inputs := by
  induction made with
  | nil =>
    exact ⟨[], writes_nil, List.forall_mem_nil _, fun _ _ _ _ _ => List.forall_mem_nil _⟩
  | @cons member source members sources own _ ih =>
    obtain ⟨others, gathered⟩ := ih
    obtain ⟨sameName, scope, calls, generated⟩ := own
    obtain ⟨inputs, writes, accounts⟩ := generated_declared preset generated
    refine ⟨inputs ++ others, ?_, ?_, ?_⟩
    · rw [List.map_cons, String.join_cons, fileNodes_cons]
      exact writes_append writes gathered.writes
    · refine List.forall_mem_cons.mpr ⟨fun declares => ?_, fun source isIn declares => ?_⟩
      · obtain ⟨input, isIn, own⟩ := includes_of_nodes writes.declared declares
        exact ⟨input, List.mem_append_left _ isIn, own⟩
      · obtain ⟨input, isIn, own⟩ := gathered.includes source isIn declares
        exact ⟨input, List.mem_append_right _ isIn, own⟩
    · intro known plain defined types used
      obtain ⟨ownType, otherTypes⟩ := List.forall_mem_cons.mp types
      obtain ⟨ownUses, otherUses⟩ := List.forall_mem_cons.mp used
      refine List.forall_mem_append.mpr ⟨(accounts known ⟨?_, ?_, ?_, ?_⟩).2,
        gathered.called known ?_ (fun input isIn => defined input (List.mem_append_right _ isIn))
          otherTypes otherUses⟩
      · exact List.forall_mem_singleton.mpr ownType
      · intro call asked
        rcases generated_uses generated asked with uses | same
        · exact ownUses _ uses
        · exact same ▸ ownType
      · exact fun input isIn => defined input (List.mem_append_left _ isIn)
      · exact fun name inside => plain name ⟨source, List.mem_cons_self, .inr inside⟩
      · rintro name ⟨other, isIn, here⟩
        exact plain name ⟨other, List.mem_cons_of_mem _ isIn, here⟩

end Workspace

open Layout

namespace Placement
variable {placement : Placement} {generation : Generation} {draft : Draft} {name : String}

theorem imports_of_complete (complete : placement.missing generation = [])
    (isIn : draft ∈ placement.drafts generation) (foreign : name ∈ draft.foreign) :
    ∃ item ∈ draft.imports (placement.drafts generation), item.name = name := by
  cases isModule : moduleOf? (placement.drafts generation) name with
  | none =>
    have missing : (name, draft.path) ∈ placement.missing generation := by
      refine List.mem_flatMap.mpr ⟨draft, isIn, List.mem_map.mpr ⟨name, ?_, rfl⟩⟩
      exact List.mem_filter.mpr ⟨foreign, by simp [isModule]⟩
    rw [complete] at missing
    cases missing
  | some target =>
    refine ⟨⟨name, draft.module.directory.specifier target⟩, ?_, rfl⟩
    exact List.mem_filterMap.mpr ⟨name, foreign, by simp [isModule]⟩

end Placement

/-- What is known of the decoders in a file of types that were made from these schemas. The inputs
are those of the declared nodes, and the content of the file has one text for each input, with the
calls of that input in it. -/
structure FileDecodes (workspace : Workspace) (begun : Walk Declaration → Session → Prop)
    (drafts : List Draft) (draft : Draft) (sources : List (String × Schema))
    (inputs : List TemplateInput) : Prop where
  made : List.Forall₂ (MadeFrom workspace begun) draft.members sources
  declared : List.Forall₂ InlineNode.IsOf ((fileNodes sources).map Prod.snd) inputs
  written : ∃ texts, (draft.finish drafts).content = String.join texts ∧
    List.Forall₂ (fun input text => DecoderTexts.inputText input = .ok text) inputs texts
  called : ∀ input ∈ inputs, ∀ callee ∈ input.callees,
    AtHand (draft.finish drafts).imports inputs callee ∨
      Missed sources (AtHand (draft.finish drafts).imports inputs) callee

theorem fileDecodes_of_sources {workspace : Workspace} {trace : List Event}
    {requests : List Workspace.Request} {placement : Placement} {generation : Generation}
    {draft : Draft} {sources : List (String × Schema)} (preset : workspace.tokens = Presets.tokens)
    (renders : workspace.renderer = Template.decoderSet.renderer)
    (complete : placement.missing generation = [])
    (isIn : draft ∈ placement.drafts generation)
    (made : List.Forall₂ (MadeFrom workspace (workspace.Begins trace requests)) draft.members
      sources) :
    ∃ inputs, FileDecodes workspace (workspace.Begins trace requests)
      (placement.drafts generation) draft sources inputs := by
  obtain ⟨inputs, gathered⟩ := Workspace.gathered_of_sources preset made
  refine ⟨inputs, made, gathered.writes.declared, ?_, ?_⟩
  · obtain ⟨texts, content, rendered⟩ := gathered.writes.texts
    rw [renders] at rendered
    exact ⟨texts, content, rendered.imp fun _ _ => decoderSet_text⟩
  have declaring (input : TemplateInput) (isInput : input ∈ inputs) : input.kind? ≠ none := by
    obtain ⟨node, _, isKind, _⟩ := exists_of_forall₂ gathered.writes.declared isInput
    simp [isKind]
  let imports := draft.imports (placement.drafts generation)
  let known (name : String) : Prop := AtHand imports inputs name ∨ IsPlain sources name
  have types : ∀ source ∈ sources, known source.1 := by
    intro source isSource
    by_cases plain : source.2.kind? = none
    · exact .inr ⟨source, isSource, .inl ⟨rfl, plain⟩⟩
    · obtain ⟨input, isInput, declares, named⟩ := gathered.includes source isSource plain
      exact .inl (.defined isInput declares named)
  have uses : ∀ member ∈ draft.members, ∀ used ∈ member.2.references, known used := by
    intro member isMember used isUsed
    by_cases own : used ∈ draft.names
    · rw [Draft.names, names_of_made made] at own
      obtain ⟨source, isSource, rfl⟩ := List.mem_map.mp own
      exact types source isSource
    · obtain ⟨item, isItem, named⟩ := Placement.imports_of_complete complete isIn
        (mem_foreign.mpr ⟨⟨member, isMember, isUsed⟩, own⟩)
      exact .inl (.imported isItem named)
  intro input isInput callee isCallee
  exact missed_of_called (gathered.called known (fun _ => .inr)
    (fun input isInput => .inl (.defined isInput (declaring input isInput) rfl)) types uses input
    isInput callee isCallee)

theorem preset_decoders {language : String} {input directory : Path} {modes : Modes}
    {settings : Settings} (isNamed : Text.lower language = "typescript-with-decoders")
    (preset : Settings.preset language input directory modes = .ok settings) :
    settings.templates = Presets.decoders ∧ settings.tokens = Presets.tokens ∧
      settings.input = input := by
  have templates : Presets.templates? language = some Presets.decoders := by
    simp [Presets.templates?, isNamed]
  simp only [Settings.preset, templates] at preset
  cases preset
  exact ⟨rfl, rfl, rfl⟩

def Outcome.Decodes (outcome : Outcome) (workspace : Workspace) (templates : TemplateSet)
    (placement : Placement) : Prop :=
  let begun := workspace.Begins [.load workspace.root.path] [.all outcome.spec]
  let drafts := placement.drafts outcome.generation
  ∀ draft ∈ drafts,
    (∃ sources, List.Forall₂ (MadeFrom workspace begun) draft.members sources) ∧
      (∀ sources, List.Forall₂ (MadeFrom workspace begun) draft.members sources →
        ∃ inputs, FileDecodes workspace begun drafts draft sources inputs) ∧
      let input := Layout.fileInput outcome.spec.info (draft.finish drafts)
      templates.renderFile input = .ok (String.join (DecoderTexts.fileTexts input))

/-- With the preset for types with decoders, however the output is laid out: if every type that is
used is declared in some file, a decoder that is called in a file is defined there, imported, or
shared by all files, or it is missing for one of a few reasons. -/
theorem called_decoders {language : String} {input directory current : Path} {modes : Modes}
    {settings : Settings} {templates : TemplateSet} {library : Library} {outcome : Outcome}
    {session : Session} (isNamed : Text.lower language = "typescript-with-decoders")
    (preset : Settings.preset language input directory modes = .ok settings)
    (read : TemplateSet.ofTexts settings.templates = .ok templates)
    (run : settings.declare templates library current = (.ok outcome, session))
    (complete : settings.placement.missing outcome.generation = []) :
    ∃ body, library.load (rootPath current input) = .ok body ∧
      outcome.Decodes
        ⟨⟨rootPath current input, body⟩, library, settings.tokens, templates.renderer⟩ templates
        settings.placement := by
  obtain ⟨isDecoders, isPreset, rfl⟩ := preset_decoders isNamed preset
  rw [isDecoders, Template.ofTexts_decoders] at read
  cases read
  obtain ⟨body, loaded, _, declares⟩ := Workspace.declareDocument_ok run
  exact ⟨body, loaded, fun draft isIn => ⟨made_of_draft declares isIn,
    fun _ => fileDecodes_of_sources isPreset rfl complete isIn, decoderSet_file _⟩⟩

namespace MissingDecoders
open SameName (mapping single object info)

/-! A pet with an age, which is a whole number, and its owner, in files of their own. -/

def array (items : Yaml.Value) : Yaml.Value :=
  .mapping [(.string "type", .string "array"), (.string "items", items)]

def library : Library where
  documents := [(Path.ofString "/spec.yaml", .ok (mapping [info, ("types", mapping [
    ("Pet", object [("age", single "type" "integer")]),
    ("Owner", object [("name", single "type" "string"),
      ("pets", array (single "$ref" "#/types/Pet"))])])]))]

def settings : Settings where
  input := Path.ofString "spec.yaml"
  output := { extension := ".ts", directory := Path.ofString "out", modes := { types := .files } }
  templates := Presets.decoders
  exporterName := "index"
  tokens := Presets.tokens

def current : Path := Path.ofString "/"

def run : Except Failure Outcome × Session :=
  settings.declare Template.decoderSet library current

def pet : TemplateInput :=
  .object ⟨"Pet", "Pet", [("age", ⟨"number", false, false, "integer", none, {}⟩)], {}⟩

def owner : TemplateInput :=
  .object ⟨"Owner", "Owner", [("name", ⟨"string", false, false, "string", none, {}⟩),
    ("pets", ⟨"Pet[]", false, false, "array", some "Pet", {}⟩)], {}⟩

theorem pets_are_accounted_for : ∃ outcome session body, run = (.ok outcome, session) ∧
    settings.placement.missing outcome.generation = [] ∧
    library.load (rootPath current settings.input) = .ok body ∧
    outcome.Decodes ⟨⟨rootPath current settings.input, body⟩, library, settings.tokens,
      Template.decoderSet.renderer⟩ Template.decoderSet settings.placement := by
  have isNamed : Text.lower "typescript-with-decoders" = "typescript-with-decoders" := by
    decide +kernel
  have preset : Settings.preset "typescript-with-decoders" settings.input
      settings.output.directory settings.output.modes = .ok settings := by
    simp only [Settings.preset, Presets.templates?, isNamed]
    rfl
  have complete : (run.1.toOption.map fun outcome =>
      settings.placement.missing outcome.generation) = some [] := by decide +kernel
  rcases done : run with ⟨result, session⟩
  rw [done] at complete
  cases result with
  | error failure => cases complete
  | ok outcome =>
    have complete : settings.placement.missing outcome.generation = [] :=
      Option.some.inj complete
    obtain ⟨body, loaded, decodes⟩ :=
      called_decoders isNamed preset Template.ofTexts_decoders done complete
    exact ⟨outcome, session, body, rfl, complete, loaded, decodes⟩

/-- No type is missing, and the file of the pet calls a decoder that it does not have. -/
theorem integers_have_no_decoder :
    (run.1.toOption.map fun outcome =>
      (settings.placement.missing outcome.generation,
        (settings.placement.layout outcome.generation).files.map fun file =>
          (file.path.toString, file.imports, some file.content))) =
      some ([], [("out/Pet.ts", [], (DecoderTexts.inputText pet).toOption),
        ("out/Owner.ts", [⟨"Pet", "./Pet"⟩], (DecoderTexts.inputText owner).toOption)]) ∧
    (DecoderTexts.inputText pet).toOption = some (String.join [
      "export type Pet = \x7b\n  age: number | null;\n\x7d;\n\n",
      "export function decodePet(rawInput: unknown): Pet | null \x7b\n",
      "  if (isJSON(rawInput)) \x7b\n",
      "    const decodedAge = decodeInteger(rawInput['age']);\n",
      "    return \x7b\n      age: decodedAge,\n    \x7d;\n  \x7d\n  return null;\n\x7d\n\n"]) ∧
    pet.callees = ["Integer"] ∧ ¬AtHand [] [pet] "Integer" := by
  refine ⟨by decide +kernel, by decide +kernel, by decide +kernel, fun found => ?_⟩
  cases found with
  | defined isIn _ named =>
    rw [List.mem_singleton.mp isIn] at named
    exact absurd named (by decide)
  | imported isIn => cases isIn
  | shared isIn => exact absurd isIn (by decide)

def reasons : Library where
  documents := [(Path.ofString "/spec.yaml", .ok (mapping [info, ("types", mapping [
    ("Tags", array (object [])),
    ("PetEnum", mapping [("type", .string "string"), ("enum", .sequence [.string "a"])]),
    ("Pet", object [("any", single "type" "unknown"), ("a_b", array (object [])),
      ("born", array (mapping [("type", .string "string"), ("format", .string "date")])),
      ("kinds", array (single "$ref" "#/types/PetEnum")),
      ("tags", single "$ref" "#/types/Tags")])])]))]

/-- The items of `a_b` are declared as `ABItem`, and `Tags` declares its items only. -/
example : ((settings.declare Template.decoderSet reasons current).1.toOption.map fun outcome =>
    outcome.generation.types.entries.map fun (name, declaration) =>
      (name, declaration.input.callees)) =
    some [("Tags", []), ("PetEnum", []),
      ("Pet", ["Unknown", "Array", "AbItem", "Array", "Date", "PetEnum[]", "Tags"])] := by
  decide +kernel

end MissingDecoders

end Typewright
