import Typewright.Declaration.Json
import Typewright.Layout
import Typewright.Spec
import Typewright.Template.Rendering
import Typewright.Workspace

/-!
The templates of one target language: one for each kind of declaration, one for files of
declarations, and one for modules that export others.
-/
namespace Typewright

structure FileInput where
  info : SpecInfo
  content : String
  imports : List Import
  primitives : List String

def Import.toJson (item : Import) : Json :=
  .object [("name", .string item.name), ("path", .string item.specifier)]

def FileInput.members (input : FileInput) : List (String × Json) := [
  ("info", .object [("version", .string input.info.version), ("title", .string input.info.title)]),
  ("typesContent", .string input.content),
  ("referencedTypes", .array (input.imports.map Import.toJson)),
  ("primitives", Json.strings input.primitives)]

structure TemplateSet where
  object : List Template.Node
  exporter : List Template.Node
  typesFile : List Template.Node
  enumeration : Option (List Template.Node)
  union : Option (List Template.Node)

namespace TemplateSet

def readTemplate (text : String) : Except Failure (List Template.Node) :=
  match Template.read text with
  | some template => .ok template
  | none => .error (.template .malformed)

/-- Reads all templates, also those that no declaration will need. -/
def ofTexts (texts : TemplateTexts) : Except Failure TemplateSet := do
  return {
    object := ← readTemplate texts.object
    exporter := ← readTemplate texts.exporter
    typesFile := ← readTemplate texts.typesFile
    enumeration := ← texts.enumeration.mapM readTemplate
    union := ← texts.union.mapM readTemplate }

def fill (template : List Template.Node) (context : Option (List (String × Json))) :
    Except Failure String :=
  match context with
  | some context => (Template.render template context).mapError .template
  | none => .error (.template .unserializable)

def fillOptional (kind : String) (template : Option (List Template.Node))
    (context : Option (List (String × Json))) : Except Failure String :=
  match template with
  | some template => fill template context
  | none => .error (.runtime (.noTemplate kind))

def renderObject (set : TemplateSet) (input : ObjectInput) : Except Failure String :=
  fill set.object (input.members? .object)

def renderEnumeration (set : TemplateSet) (input : EnumInput) : Except Failure String :=
  fillOptional "enum" set.enumeration input.members?

def renderUnion (set : TemplateSet) (input : UnionInput TemplateInput) : Except Failure String :=
  fillOptional "one-of" set.union (TemplateInput.unionMembers? .object input)

def renderFile (set : TemplateSet) (input : FileInput) : Except Failure String :=
  fill set.typesFile (some input.members)

def renderExporter (set : TemplateSet) (modules : List String) : Except Failure String :=
  fill set.exporter (some [("modules", Json.strings modules)])

def renderer (set : TemplateSet) : Renderer where
  object := set.renderObject
  enumeration := set.renderEnumeration
  union := set.renderUnion

end TemplateSet

end Typewright
