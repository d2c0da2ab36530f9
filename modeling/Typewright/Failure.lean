import Typewright.DataType
import Typewright.Path
import Typewright.Yaml.Token
import Typewright.Yaml.Value

/-!
Everything that can go wrong, as causes. `Failure.message` is the only place where causes become
words.
-/
namespace Typewright

inductive Expected where
  | text
  | sequence
  | mapping
  | node
  | fieldName
deriving DecidableEq, Repr

def Expected.phrase : Expected → String
  | text => "a string"
  | sequence => "a sequence"
  | mapping => "a map"
  | node => "struct RawTypeInfo"
  | fieldName => "field identifier"

def foundPhrase (value : Yaml.Value) : String :=
  match value.untagged with
  | .null => "unit value"
  | .bool value => "boolean \x60" ++ (if value then "true" else "false") ++ "\x60"
  | .number (.int n) => "integer \x60" ++ toString n ++ "\x60"
  | .number (.float x) => "floating point \x60" ++ Binary64.pointed.write x ++ "\x60"
  | .string text => "string " ++ Text.quoted text
  | .sequence _ => "sequence"
  | .mapping _ => "map"
  | .tagged .. => "enum"

inductive FieldFault where
  | wrongType (found : Yaml.Value) (expected : Expected)
  | duplicate (field : String)
  | notLiteral
  | taggedLiteral

def FieldFault.message : FieldFault → String
  | wrongType found expected =>
    "invalid type: " ++ foundPhrase found ++ ", expected " ++ expected.phrase
  | duplicate field => "duplicate field \x60" ++ field ++ "\x60"
  | notLiteral => "data did not match any variant of untagged enum Literal"
  | taggedLiteral => "untagged and internally tagged enums do not support enum input"

inductive NodeFault where
  | fields (fault : FieldFault)
  | unknownType (name : String)
  | mixedReference
  | enumType
  | emptyEnum
  | enumValue (value : Literal) (type : DataType)
  | noVariants
  | noItems
  | noKind

def NodeFault.message (location : String) : NodeFault → String
  | fields fault => "Invalid type for: " ++ location ++ " (" ++ fault.message ++ ")"
  | unknownType name => "Invalid type '" ++ name ++ "' for: " ++ location
  | mixedReference => "$ref cannot be combined with type or oneOf for: " ++ location
  | enumType => "Invalid enum type for: " ++ location
  | emptyEnum => "Empty enum for: " ++ location
  | enumValue value type =>
    "Enum value " ++ value.listing ++ " is not a " ++ type.name ++ " for: " ++ location
  | noVariants => "Invalid oneOf type for: " ++ location
  | noItems => "Invalid array type for: " ++ location
  | noKind => "Invalid property type for: " ++ location

inductive SchemaStep where
  | property (name : String)
  | variant (position : Nat)
  | items
deriving DecidableEq, Repr

def SchemaStep.text : SchemaStep → String
  | property name => "." ++ name
  | variant position => "[" ++ toString position ++ "]"
  | items => ".items"

/-- A fault with the way from the node that was decoded to the node at fault. -/
structure Misfit where
  steps : List SchemaStep
  fault : NodeFault

def Misfit.under (step : SchemaStep) (misfit : Misfit) : Misfit :=
  { misfit with steps := step :: misfit.steps }

def Misfit.message (name : String) (misfit : Misfit) : String :=
  misfit.fault.message (name ++ String.join (misfit.steps.map SchemaStep.text))

inductive SpecFault where
  | notMapping
  | noInfo
  | noInfoField (field : String)
  | groupsNotMapping
  | typesNotMapping (context : String)
  | keyNotText (context : String) (key : Yaml.Value)
  | nothingDeclared
  | unknownType (name : String)
  | node (name : String) (misfit : Misfit)
  | brokenReference (reference : String)
  | missingKey (reference key : String)
  | noDefaultFormat (type : DataType)
  | arrayToken
  | stated (text : String)

/-- The place of the item type in the token of arrays. -/
def itemMark : String := "~ItemType~"

def SpecFault.message : SpecFault → String
  | notMapping => "Spec file must be a mapping"
  | noInfo => "Missing info block"
  | noInfoField field => "Missing info." ++ field
  | groupsNotMapping => "groupedTypes must be a mapping"
  | typesNotMapping context => context ++ " must be a mapping of types"
  | keyNotText context key => "Non-string key in " ++ context ++ ": " ++ key.listing
  | nothingDeclared => "Neither types nor groupedTypes found!"
  | unknownType name => "Unknown data type '" ++ name ++ "'"
  | node name misfit => misfit.message name
  | brokenReference reference => "Invalid reference at: " ++ reference
  | missingKey reference key =>
    "Invalid reference path for: " ++ reference ++ " (no '" ++ key ++ "')"
  | noDefaultFormat type => "Type mapping for '" ++ type.name ++ "' has no 'default' entry"
  | arrayToken => "Array type mapping must be a string containing " ++ itemMark
  | stated text => text

inductive UnsupportedFault where
  | urlReference (reference : String)
  | stated (text : String)

def UnsupportedFault.message : UnsupportedFault → String
  | urlReference reference => "URL references are not supported yet: " ++ reference
  | stated text => text

inductive RuntimeFault where
  | noTemplate (kind : String)
  /-- More nested expansions than there are references. -/
  | nesting
  | stated (text : String)

def RuntimeFault.message : RuntimeFault → String
  | noTemplate kind => "No " ++ kind ++ " template configured"
  | nesting => "References are nested too deeply"
  | stated text => text

inductive FileCause where
  | notFound
  | occupied
  | notDirectory
  | isDirectory
  | invalidArgument
  | notEmpty
  | busy
  | notText
  | other (text : String)
deriving DecidableEq, Repr

def FileCause.message : FileCause → String
  | notFound => "No such file or directory (os error 2)"
  | occupied => "File exists (os error 17)"
  | notDirectory => "Not a directory (os error 20)"
  | isDirectory => "Is a directory (os error 21)"
  | invalidArgument => "Invalid argument (os error 22)"
  | notEmpty => "Directory not empty (os error 39)"
  | busy => "Device or resource busy (os error 16)"
  | notText => "stream did not contain valid UTF-8"
  | other text => text

inductive FileFault where
  | noDocument (path : Path)
  | reading (path : Path) (cause : FileCause)
  | creating (path : Path) (cause : FileCause)
  | writing (path : Path) (cause : FileCause)
  | removing (path : Path) (cause : FileCause)
  | bare (cause : FileCause)

def FileFault.message : FileFault → String
  | noDocument path => "no document at " ++ path.toString
  | reading path cause => "failed to read file on path " ++ path.toString ++ ": " ++ cause.message
  | creating path cause => "creating directory " ++ path.toString ++ ": " ++ cause.message
  | writing path cause => "writing generated file " ++ path.toString ++ ": " ++ cause.message
  | removing path cause => "removing directory " ++ path.toString ++ ": " ++ cause.message
  | bare cause => cause.message

inductive TemplateFault where
  | malformed
  | unknownName (name : String)
  | unknownFilter (name : String)
  | unknownTest (name : String)
  | unknownFunction (name : String)
  | wrongKind
  | missingArgument (name : String)
  | overflow
  | divisionByZero
  | outsideLoop
  | unserializable
deriving DecidableEq, Repr

def TemplateFault.message : TemplateFault → String
  | malformed => "the text is not a template"
  | unknownName name => "'" ++ name ++ "' is not defined"
  | unknownFilter name => "there is no filter '" ++ name ++ "'"
  | unknownTest name => "there is no test '" ++ name ++ "'"
  | unknownFunction name => "there is no function '" ++ name ++ "'"
  | wrongKind => "a value has the wrong kind"
  | missingArgument name => "the argument '" ++ name ++ "' is missing"
  | overflow => "a number is out of range"
  | divisionByZero => "division by zero"
  | outsideLoop => "there is no loop to leave or to go on with"
  | unserializable => "an example has a key that is not a string"

inductive SettingsFault where
  | text (fault : Yaml.Fault)
  | missing (field : String)
  | duplicate (field : String)
  | wrongType (field : String)
deriving DecidableEq, Repr

inductive Failure where
  | invalidSpec (fault : SpecFault)
  | unsupported (fault : UnsupportedFault)
  | runtime (fault : RuntimeFault)
  | noToken (type : String) (format : Option String)
  | unknownLanguage (name : String)
  | badParameter (key value : String)
  | yaml (fault : Yaml.Fault)
  | settings (fault : SettingsFault)
  | template (fault : TemplateFault)
  | io (fault : FileFault)

inductive Category where
  | invalidSpec
  | unsupported
  | runtime
  | usage
  | io
deriving DecidableEq, Repr

def Yaml.Fault.message : Yaml.Fault → String
  | character => "a character is not allowed"
  | token => "characters form no token"
  | arrangement => "tokens form no document"
  | severalDocuments => "there are several documents"
  | unknownAlias => "an alias has no anchor"
  | repetition => "aliases are followed too often"
  | depth => "collections are nested too deeply"
  | duplicateKey => "a mapping has two equal keys"
  | scalar => "a scalar does not fit its tag"

def SettingsFault.message : SettingsFault → String
  | text fault => fault.message
  | missing field => "missing field '" ++ field ++ "'"
  | duplicate field => "duplicate field '" ++ field ++ "'"
  | wrongType field => "a value does not fit the field '" ++ field ++ "'"

namespace Failure

def category : Failure → Category
  | invalidSpec _ | noToken .. | yaml _ | settings _ => .invalidSpec
  | unsupported _ => .unsupported
  | runtime _ | template _ => .runtime
  | unknownLanguage _ | badParameter .. => .usage
  | io _ => .io

def message : Failure → String
  | invalidSpec fault => "Bad spec file: " ++ fault.message
  | unsupported fault => "Unsupported feature: " ++ fault.message
  | runtime fault => "Runtime error: " ++ fault.message
  | noToken type format =>
    "No type mapping for '" ++ type ++ "'" ++
      match format with
      | some format => " (format '" ++ format ++ "')"
      | none => ""
  | unknownLanguage name => "Language " ++ name ++ " not supported"
  | badParameter key value => "Invalid param " ++ value ++ " for " ++ key
  | yaml fault => "YAML error: " ++ fault.message
  | settings fault => "YAML error: " ++ fault.message
  | template fault => "Template error: " ++ fault.message
  | io fault => "IO error: " ++ fault.message

def cause? : Failure → Option String
  | io fault => some fault.message
  | yaml fault => some fault.message
  | settings fault => some fault.message
  | template fault => some fault.message
  | _ => none

end Failure

end Typewright
