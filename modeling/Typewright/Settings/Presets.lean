import Typewright.Settings
import Typewright.Text.Character

/-!
Settings that come with the program: declarations of TypeScript types, alone or with decoders for
them. The braces of templates are written by their codes.
-/
namespace Typewright.Settings.Presets

def typesObject : String := String.join [
  "\x7b% if description %\x7d/**\n",
  " * \x7b\x7b description \x7d\x7d\n",
  " */\n",
  "\x7b% endif %\x7dexport type \x7b\x7b typeName \x7d\x7d = \x7b\n",
  "\x7b%- for name, property in properties %\x7d\n",
  "\x7b%- if property.description %\x7d\n",
  "  /** \x7b\x7b property.description \x7d\x7d */\n",
  "\x7b%- endif %\x7d\n",
  "  \x7b\x7b name \x7d\x7d\x7b% if not property.required %\x7d?\x7b% endif %\x7d: \x7b\x7b ",
  "property.type \x7d\x7d;\n",
  "\x7b%- endfor %\x7d\n",
  "\x7d;\n",
  "\n"]

def typesEnumeration : String := String.join [
  "\x7b% if description %\x7d/**\n",
  " * \x7b\x7b description \x7d\x7d\n",
  " */\n",
  "\x7b% endif %\x7dexport type \x7b\x7b typeName \x7d\x7d = \x7b% for value in values ",
  "%\x7d\x7b% if not loop.first %\x7d | \x7b% endif %\x7d\x7b\x7b value | json_encode() ",
  "\x7d\x7d\x7b% endfor %\x7d;\n",
  "\n"]

def typesUnion : String := String.join [
  "\x7b% if description %\x7d/**\n",
  " * \x7b\x7b description \x7d\x7d\n",
  " */\n",
  "\x7b% endif %\x7dexport type \x7b\x7b typeName \x7d\x7d = \x7b% for composition in ",
  "compositions %\x7d\x7b% if not loop.first %\x7d | \x7b% endif %\x7d\x7b% if ",
  "composition.source == \"referenced\" %\x7d\x7b\x7b composition.referencedType ",
  "\x7d\x7d\x7b% else %\x7d\x7b\x7b composition.templateInput.type \x7d\x7d\x7b% endif ",
  "%\x7d\x7b% endfor %\x7d;\n",
  "\n"]

def typesFile : String := String.join [
  "\x7b% for reference in referencedTypes -%\x7d\n",
  "import type \x7b \x7b\x7b reference.name \x7d\x7d \x7d from '\x7b\x7b reference.path ",
  "\x7d\x7d';\n",
  "\x7b% endfor %\x7d\x7b% if referencedTypes | length > 0 %\x7d\n",
  "\x7b% endif %\x7d\x7b\x7b typesContent \x7d\x7d\n"]

def exporter : String := String.join [
  "\x7b% for module in modules %\x7dexport * from './\x7b\x7b module \x7d\x7d';\n",
  "\x7b% endfor %\x7d"]

def decodersObject : String := String.join [
  "\x7b% if description %\x7d/**\n",
  " * \x7b\x7b description \x7d\x7d\n",
  " */\n",
  "\x7b% endif %\x7dexport type \x7b\x7b typeName \x7d\x7d = \x7b\n",
  "\x7b%- for name, property in properties %\x7d\n",
  "\x7b%- if property.description %\x7d\n",
  "  /** \x7b\x7b property.description \x7d\x7d */\n",
  "\x7b%- endif %\x7d\n",
  "  \x7b\x7b name \x7d\x7d: \x7b\x7b property.type \x7d\x7d\x7b% if not property.required ",
  "%\x7d | null\x7b% endif %\x7d;\n",
  "\x7b%- endfor %\x7d\n",
  "\x7d;\n",
  "\n",
  "export function decode\x7b\x7b typeName \x7d\x7d(rawInput: unknown): \x7b\x7b typeName ",
  "\x7d\x7d | null \x7b\n",
  "  if (isJSON(rawInput)) \x7b\n",
  "\x7b%- for name, property in properties %\x7d\n",
  "    const decoded\x7b\x7b name | pascal_case \x7d\x7d = \x7b% if property.referenced or ",
  "property.primitiveType == \"object\" or \"Enum\" in property.type %\x7ddecode\x7b\x7b ",
  "property.type \x7d\x7d\x7b% elif property.primitiveType == \"array\" %\x7d((value: ",
  "unknown) => decodeArray(value, decode\x7b\x7b property.composerType | pascal_case ",
  "\x7d\x7d))\x7b% else %\x7ddecode\x7b\x7b property.primitiveType | pascal_case ",
  "\x7d\x7d\x7b% endif %\x7d(rawInput['\x7b\x7b name \x7d\x7d']);\n",
  "\x7b%- endfor %\x7d\n",
  "\x7b%- for name, property in properties %\x7d\x7b% if property.required %\x7d\n",
  "    if (decoded\x7b\x7b name | pascal_case \x7d\x7d === null) \x7b\n",
  "      return null;\n",
  "    \x7d\n",
  "\x7b%- endif %\x7d\x7b% endfor %\x7d\n",
  "    return \x7b\n",
  "\x7b%- for name, property in properties %\x7d\n",
  "      \x7b\x7b name \x7d\x7d: decoded\x7b\x7b name | pascal_case \x7d\x7d,\n",
  "\x7b%- endfor %\x7d\n",
  "    \x7d;\n",
  "  \x7d\n",
  "  return null;\n",
  "\x7d\n",
  "\n"]

def decodersEnumeration : String := String.join [
  "\x7b% if description %\x7d/**\n",
  " * \x7b\x7b description \x7d\x7d\n",
  " */\n",
  "\x7b% endif %\x7dexport type \x7b\x7b typeName \x7d\x7d = \x7b% for value in values ",
  "%\x7d\x7b% if not loop.first %\x7d | \x7b% endif %\x7d\x7b\x7b value | json_encode() ",
  "\x7d\x7d\x7b% endfor %\x7d;\n",
  "\n",
  "export function decode\x7b\x7b typeName \x7d\x7d(rawInput: unknown): \x7b\x7b typeName ",
  "\x7d\x7d | null \x7b\n",
  "  switch (rawInput) \x7b\n",
  "\x7b%- for value in values %\x7d\n",
  "    case \x7b\x7b value | json_encode() \x7d\x7d:\n",
  "\x7b%- endfor %\x7d\n",
  "      return rawInput;\n",
  "  \x7d\n",
  "  return null;\n",
  "\x7d\n",
  "\n"]

def decodersUnion : String := String.join [
  "\x7b% if description %\x7d/**\n",
  " * \x7b\x7b description \x7d\x7d\n",
  " */\n",
  "\x7b% endif %\x7dexport type \x7b\x7b typeName \x7d\x7d = \x7b% for composition in ",
  "compositions %\x7d\x7b% if not loop.first %\x7d | \x7b% endif %\x7d\x7b% if ",
  "composition.source == \"referenced\" %\x7d\x7b\x7b composition.referencedType ",
  "\x7d\x7d\x7b% else %\x7d\x7b\x7b composition.templateInput.type \x7d\x7d\x7b% endif ",
  "%\x7d\x7b% endfor %\x7d;\n",
  "\n",
  "export function decode\x7b\x7b typeName \x7d\x7d(rawInput: unknown): \x7b\x7b typeName ",
  "\x7d\x7d | null \x7b\n",
  "\x7b%- for composition in compositions %\x7d\n",
  "  const result\x7b\x7b loop.index \x7d\x7d = decode\x7b% if composition.source == ",
  "\"referenced\" %\x7d\x7b\x7b composition.referencedType \x7d\x7d\x7b% else %\x7d\x7b\x7b ",
  "composition.templateInput.type | pascal_case \x7d\x7d\x7b% endif %\x7d(rawInput);\n",
  "  if (result\x7b\x7b loop.index \x7d\x7d !== null) \x7b\n",
  "    return result\x7b\x7b loop.index \x7d\x7d;\n",
  "  \x7d\n",
  "\x7b%- endfor %\x7d\n",
  "  return null;\n",
  "\x7d\n",
  "\n"]

def decodersFile : String := String.join [
  "import \x7b isJSON, decodeArray, decodeBoolean, decodeNumber, decodeString \x7d from ",
  "'type-decoder';\n",
  "\x7b% for reference in referencedTypes -%\x7d\n",
  "import \x7b type \x7b\x7b reference.name \x7d\x7d, decode\x7b\x7b reference.name \x7d\x7d ",
  "\x7d from '\x7b\x7b reference.path \x7d\x7d';\n",
  "\x7b% endfor %\x7d\n",
  "\x7b\x7b typesContent \x7d\x7d\n"]

def types : TemplateTexts :=
  ⟨typesObject, exporter, typesFile, some typesEnumeration, some typesUnion⟩

def decoders : TemplateTexts :=
  ⟨decodersObject, exporter, decodersFile, some decodersEnumeration, some decodersUnion⟩

def tokens : TokenTable := Table.ofList [
  ("string", .formats (Table.ofList [("default", "string"), ("date", "Date")])),
  ("number", .formats (Table.ofList [("default", "number")])),
  ("integer", .formats (Table.ofList [("default", "number")])),
  ("boolean", .direct "boolean"),
  ("array", .direct (itemMark ++ "[]")),
  ("object", .direct "type"),
  ("unknown", .direct "unknown")]

def templates? (language : String) : Option TemplateTexts :=
  let name := Text.lower language
  if name = "typescript" then some types
  else if name = "typescript-with-decoders" then some decoders
  else none

end Presets

def preset (language : String) (input directory : Path) (modes : Modes) :
    Except Failure Settings :=
  match Presets.templates? language with
  | none => .error (.unknownLanguage language)
  | some templates => .ok
    { input, templates
      output := { extension := ".ts", directory, modes }
      exporterName := "index"
      tokens := Presets.tokens }

end Typewright.Settings
