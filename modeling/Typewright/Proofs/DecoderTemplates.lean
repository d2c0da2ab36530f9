import Typewright.Settings.Presets
import Typewright.Template.Set

/-!
The templates of types with decoders as trees. Reading the text of a template gives its tree; the
characters of a text are taken from its bytes there, which is how they can be computed.
-/
namespace Typewright

namespace Text

def smallChars (text : String) : List Char :=
  text.toByteArray.data.toList.map fun byte => Char.ofNat byte.toNat

/-- Characters beyond the small ones end in a byte that is not small. -/
theorem char_of_small_bytes {c : Char}
    (small : ∀ byte ∈ String.utf8EncodeChar c, byte.toNat < 128) :
    (String.utf8EncodeChar c).map (fun byte => Char.ofNat byte.toNat) = [c] := by
  have last (n : Nat) : ¬(UInt8.ofNat (n % 64 + 128)).toNat < 128 := by
    rw [UInt8.toNat_ofNat']
    omega
  unfold String.utf8EncodeChar at small ⊢
  simp only at small ⊢
  split
  · next isSmall =>
    have same : (UInt8.ofNat c.val.toNat).toNat = c.val.toNat := by
      rw [UInt8.toNat_ofNat']
      omega
    rw [List.map_singleton, same]
    exact congrArg (fun x => [x]) (Char.ofNat_toNat c)
  · next isLarge =>
    rw [if_neg isLarge] at small
    refine absurd (small (UInt8.ofNat (c.val.toNat % 64 + 128)) ?_) (last _)
    split
    · simp
    · split <;> simp

theorem toList_of_small {text : String}
    (small : text.toByteArray.data.toList.all (fun byte => byte.toNat < 128) = true) :
    text.toList = smallChars text := by
  obtain ⟨chars, rfl⟩ : ∃ chars, text = String.ofList chars := ⟨text.toList, by simp⟩
  have bytes : (String.ofList chars).toByteArray.data.toList =
      chars.flatMap String.utf8EncodeChar := by
    rw [String.toByteArray_ofList, List.utf8Encode, List.data_toByteArray]
  unfold smallChars
  rw [bytes, List.all_flatMap] at small
  rw [bytes, String.toList_ofList]
  clear bytes
  induction chars with
  | nil => rfl
  | cons c rest ih =>
    rw [List.all_cons, Bool.and_eq_true] at small
    have first : ∀ byte ∈ String.utf8EncodeChar c, byte.toNat < 128 := by
      simpa using small.1
    rw [List.flatMap_cons, List.map_append, char_of_small_bytes first, ← ih small.2]
    rfl

end Text

namespace Template

/-! Trees are compared as far as their parts occur in the templates below. -/

def stepsAgree : List Step → List Step → Bool
  | [], [] => true
  | .key a :: steps, .key b :: more => a == b && stepsAgree steps more
  | _, _ => false

def Place.agrees : Place → Place → Bool
  | .mk name steps, .mk other more => name == other && stepsAgree steps more

def callsAgree : List Call → List Call → Bool
  | [], [] => true
  | .mk name [] :: calls, .mk other [] :: more => name == other && callsAgree calls more
  | _, _ => false

mutual

def Expr.agrees : Expr → Expr → Bool
  | .mk a filters negated, .mk b others also =>
    a.agrees b && callsAgree filters others && negated == also

def Operand.agrees : Operand → Operand → Bool
  | .text a, .text b => a == b
  | .lookup a, .lookup b => a.agrees b
  | .comparison operation a b, .comparison other c d =>
    operation == other && a.agrees c && b.agrees d
  | .connective operation a b, .connective other c d =>
    operation == other && a.agrees c && b.agrees d
  | .contains a b negated, .contains c d also => a.agrees c && b.agrees d && negated == also
  | _, _ => false

end

mutual

def Node.agrees : Node → Node → Bool
  | .text a, .text b => a == b
  | .output a, .output b => a.agrees b
  | .cond branches otherwise, .cond others rest =>
    branchesAgree branches others && nodesAgree otherwise rest
  | .loop key value container body ifEmpty, .loop other also source round rest =>
    key == other && value == also && container.agrees source && nodesAgree body round &&
      nodesAgree ifEmpty rest
  | _, _ => false

def nodesAgree : List Node → List Node → Bool
  | [], [] => true
  | a :: nodes, b :: others => a.agrees b && nodesAgree nodes others
  | _, _ => false

def branchesAgree : List (Expr × List Node) → List (Expr × List Node) → Bool
  | [], [] => true
  | (a, nodes) :: branches, (b, others) :: rest =>
    a.agrees b && nodesAgree nodes others && branchesAgree branches rest
  | _, _ => false

end

theorem eq_of_stepsAgree : (steps others : List Step) → stepsAgree steps others = true →
    steps = others
  | [], [], _ => rfl
  | .key a :: steps, .key b :: others, agree => by
    simp only [stepsAgree, Bool.and_eq_true, beq_iff_eq] at agree
    rw [agree.1, eq_of_stepsAgree steps others agree.2]
  | [], _ :: _, agree => by simp [stepsAgree] at agree
  | .key _ :: _, [], agree => by simp [stepsAgree] at agree
  | .key _ :: _, .computed _ :: _, agree => by simp [stepsAgree] at agree
  | .computed _ :: _, _, agree => by simp [stepsAgree] at agree

theorem eq_of_callsAgree : (calls others : List Call) → callsAgree calls others = true →
    calls = others
  | [], [], _ => rfl
  | .mk name [] :: calls, .mk other [] :: others, agree => by
    simp only [callsAgree, Bool.and_eq_true, beq_iff_eq] at agree
    rw [agree.1, eq_of_callsAgree calls others agree.2]
  | [], _ :: _, agree => by simp [callsAgree] at agree
  | .mk _ [] :: _, [], agree => by simp [callsAgree] at agree
  | .mk _ [] :: _, .mk _ (_ :: _) :: _, agree => by simp [callsAgree] at agree
  | .mk _ (_ :: _) :: _, _, agree => by simp [callsAgree] at agree

theorem Place.eq_of_agrees {a b : Place} (agree : a.agrees b = true) : a = b := by
  obtain ⟨name, steps⟩ := a
  obtain ⟨other, more⟩ := b
  simp only [Place.agrees, Bool.and_eq_true, beq_iff_eq] at agree
  rw [agree.1, eq_of_stepsAgree steps more agree.2]

mutual

theorem Expr.eq_of_agrees : (a b : Expr) → a.agrees b = true → a = b
  | .mk a filters negated, .mk b others also, agree => by
    simp only [Expr.agrees, Bool.and_eq_true, beq_iff_eq] at agree
    obtain ⟨⟨operand, calls⟩, rfl⟩ := agree
    rw [Operand.eq_of_agrees a b operand, eq_of_callsAgree filters others calls]

theorem Operand.eq_of_agrees : (a b : Operand) → a.agrees b = true → a = b
  | .text a, b, agree => by
    cases b with
    | text => simpa [Operand.agrees] using agree
    | _ => simp [Operand.agrees] at agree
  | .lookup a, b, agree => by
    cases b with
    | lookup other =>
      have places : a.agrees other = true := by simpa [Operand.agrees] using agree
      rw [Place.eq_of_agrees places]
    | _ => simp [Operand.agrees] at agree
  | .comparison operation a b, other, agree => by
    cases other with
    | comparison also c d =>
      simp only [Operand.agrees, Bool.and_eq_true, beq_iff_eq] at agree
      obtain ⟨⟨rfl, left⟩, right⟩ := agree
      rw [Expr.eq_of_agrees a c left, Expr.eq_of_agrees b d right]
    | _ => simp [Operand.agrees] at agree
  | .connective operation a b, other, agree => by
    cases other with
    | connective also c d =>
      simp only [Operand.agrees, Bool.and_eq_true, beq_iff_eq] at agree
      obtain ⟨⟨rfl, left⟩, right⟩ := agree
      rw [Expr.eq_of_agrees a c left, Expr.eq_of_agrees b d right]
    | _ => simp [Operand.agrees] at agree
  | .contains a b negated, other, agree => by
    cases other with
    | contains c d also =>
      simp only [Operand.agrees, Bool.and_eq_true, beq_iff_eq] at agree
      obtain ⟨⟨left, right⟩, rfl⟩ := agree
      rw [Expr.eq_of_agrees a c left, Expr.eq_of_agrees b d right]
    | _ => simp [Operand.agrees] at agree
  | .bool _, _, agree => by simp [Operand.agrees] at agree
  | .int _, _, agree => by simp [Operand.agrees] at agree
  | .float _, _, agree => by simp [Operand.agrees] at agree
  | .array _, _, agree => by simp [Operand.agrees] at agree
  | .call _, _, agree => by simp [Operand.agrees] at agree
  | .arithmetic .., _, agree => by simp [Operand.agrees] at agree
  | .test .., _, agree => by simp [Operand.agrees] at agree
  | .concat _, _, agree => by simp [Operand.agrees] at agree

end

mutual

theorem Node.eq_of_agrees : (a b : Node) → a.agrees b = true → a = b
  | .text a, b, agree => by
    cases b with
    | text => simpa [Node.agrees] using agree
    | _ => simp [Node.agrees] at agree
  | .output a, b, agree => by
    cases b with
    | output other => rw [Expr.eq_of_agrees a other (by simpa [Node.agrees] using agree)]
    | _ => simp [Node.agrees] at agree
  | .cond branches otherwise, b, agree => by
    cases b with
    | cond others rest =>
      simp only [Node.agrees, Bool.and_eq_true] at agree
      rw [eq_of_branchesAgree branches others agree.1, eq_of_nodesAgree otherwise rest agree.2]
    | _ => simp [Node.agrees] at agree
  | .loop key value container body ifEmpty, b, agree => by
    cases b with
    | loop other also source round rest =>
      simp only [Node.agrees, Bool.and_eq_true, beq_iff_eq] at agree
      obtain ⟨⟨⟨⟨rfl, rfl⟩, containers⟩, bodies⟩, rests⟩ := agree
      rw [Expr.eq_of_agrees container source containers, eq_of_nodesAgree body round bodies,
        eq_of_nodesAgree ifEmpty rest rests]
    | _ => simp [Node.agrees] at agree
  | .assign .., _, agree => by simp [Node.agrees] at agree
  | .stopLoop, _, agree => by simp [Node.agrees] at agree
  | .nextRound, _, agree => by simp [Node.agrees] at agree

theorem eq_of_nodesAgree : (nodes others : List Node) → nodesAgree nodes others = true →
    nodes = others
  | [], [], _ => rfl
  | a :: nodes, b :: others, agree => by
    simp only [nodesAgree, Bool.and_eq_true] at agree
    rw [Node.eq_of_agrees a b agree.1, eq_of_nodesAgree nodes others agree.2]
  | [], _ :: _, agree => by simp [nodesAgree] at agree
  | _ :: _, [], agree => by simp [nodesAgree] at agree

theorem eq_of_branchesAgree : (branches others : List (Expr × List Node)) →
    branchesAgree branches others = true → branches = others
  | [], [], _ => rfl
  | (a, nodes) :: branches, (b, others) :: rest, agree => by
    simp only [branchesAgree, Bool.and_eq_true] at agree
    obtain ⟨⟨conditions, bodies⟩, later⟩ := agree
    rw [Expr.eq_of_agrees a b conditions, eq_of_nodesAgree nodes others bodies,
      eq_of_branchesAgree branches rest later]
  | [], _ :: _, agree => by simp [branchesAgree] at agree
  | _ :: _, [], agree => by simp [branchesAgree] at agree

end

theorem read_of_agrees {text : String} {tree : List Node}
    (small : text.toByteArray.data.toList.all (fun byte => byte.toNat < 128) = true)
    (reads : ((Reader.pieces true (10 * (Text.smallChars text).length + 60)).run
      (Text.smallChars text)).any (fun (pieces, rest) =>
        rest.isEmpty && nodesAgree (Piece.settle false false pieces) tree) = true) :
    read text = some tree := by
  unfold read
  rw [Text.toList_of_small small]
  simp only
  cases run : (Reader.pieces true (10 * (Text.smallChars text).length + 60)).run
      (Text.smallChars text) with
  | none =>
    rw [run] at reads
    cases reads
  | some found =>
    obtain ⟨pieces, rest⟩ := found
    rw [run, Option.any_some, Bool.and_eq_true, List.isEmpty_iff] at reads
    obtain ⟨rfl, agree⟩ := reads
    exact congrArg some (eq_of_nodesAgree _ _ agree)

/-! The trees -/

namespace Decoders

def named (name : String) : Expr := .ofOperand (.lookup (.mk name []))

def member (name key : String) : Expr := .ofOperand (.lookup (.mk name [.key key]))

def through (filter name : String) (keys : List String) : Expr :=
  .mk (.lookup (.mk name (keys.map .key))) [.mk filter []] false

def negation : Expr → Expr
  | .mk operand filters negated => .mk operand filters !negated

def isText (expr : Expr) (text : String) : Expr :=
  .ofOperand (.comparison .equal expr (.ofOperand (.text text)))

def either (left right : Expr) : Expr := .ofOperand (.connective .or left right)

def comment : Node :=
  .cond [(named "description",
    [.text "/**\n * ", .output (named "description"), .text "\n */\n"])] []

def signature : List Node := [
  .output (named "typeName"), .text "(rawInput: unknown): ", .output (named "typeName")]

def eachProperty (body : List Node) : Node :=
  .loop (some "name") "property" (named "properties") body []

def pascalName : Node := .output (through "pascal_case" "name" [])

def propertyType : Node :=
  eachProperty [
    .cond [(member "property" "description",
      [.text "\n  /** ", .output (member "property" "description"), .text " */"])] [],
    .text "\n  ", .output (named "name"), .text ": ", .output (member "property" "type"),
    .cond [(negation (member "property" "required"), [.text " | null"])] [], .text ";"]

def isDirect : Expr :=
  either
    (either (member "property" "referenced")
      (isText (member "property" "primitiveType") "object"))
    (.ofOperand (.contains (.ofOperand (.text "Enum")) (member "property" "type") false))

def decoderCall : Node :=
  .cond [
    (isDirect, [.text "decode", .output (member "property" "type")]),
    (isText (member "property" "primitiveType") "array", [
      .text "((value: unknown) => decodeArray(value, decode",
      .output (through "pascal_case" "property" ["composerType"]), .text "))"])]
    [.text "decode", .output (through "pascal_case" "property" ["primitiveType"])]

def propertyDecoder : Node :=
  eachProperty [
    .text "\n    const decoded", pascalName, .text " = ", decoderCall,
    .text "(rawInput['", .output (named "name"), .text "']);"]

def propertyCheck : Node :=
  eachProperty [
    .cond [(member "property" "required", [
      .text "\n    if (decoded", pascalName,
      .text " === null) \x7b\n      return null;\n    \x7d"])] []]

def propertyResult : Node :=
  eachProperty [
    .text "\n      ", .output (named "name"), .text ": decoded", pascalName, .text ","]

def object : List Node :=
  [comment, .text "export type ", .output (named "typeName"), .text " = \x7b", propertyType,
    .text "\n\x7d;\n\nexport function decode"] ++ signature ++
  [.text " | null \x7b\n  if (isJSON(rawInput)) \x7b", propertyDecoder, propertyCheck,
    .text "\n    return \x7b", propertyResult,
    .text "\n    \x7d;\n  \x7d\n  return null;\n\x7d\n\n"]

def notFirst : Node := .cond [(negation (member "loop" "first"), [.text " | "])] []

def eachBranch (body : List Node) : Node :=
  .loop none "composition" (named "compositions") body []

def branchName (otherwise : Expr) : Node :=
  .cond [(isText (member "composition" "source") "referenced",
    [.output (member "composition" "referencedType")])] [.output otherwise]

def branchType : Node :=
  eachBranch [notFirst, branchName
    (.ofOperand (.lookup (.mk "composition" [.key "templateInput", .key "type"])))]

def loopIndex : Node := .output (member "loop" "index")

def branchDecoder : Node :=
  eachBranch [
    .text "\n  const result", loopIndex, .text " = decode",
    branchName (through "pascal_case" "composition" ["templateInput", "type"]),
    .text "(rawInput);\n  if (result", loopIndex, .text " !== null) \x7b\n    return result",
    loopIndex, .text ";\n  \x7d"]

def union : List Node :=
  [comment, .text "export type ", .output (named "typeName"), .text " = ", branchType,
    .text ";\n\nexport function decode"] ++ signature ++
  [.text " | null \x7b", branchDecoder, .text "\n  return null;\n\x7d\n\n"]

def eachValue (body : List Node) : Node := .loop none "value" (named "values") body []

def encodedValue : Node := .output (through "json_encode" "value" [])

def enumeration : List Node :=
  [comment, .text "export type ", .output (named "typeName"), .text " = ",
    eachValue [notFirst, encodedValue], .text ";\n\nexport function decode"] ++ signature ++
  [.text " | null \x7b\n  switch (rawInput) \x7b",
    eachValue [.text "\n    case ", encodedValue, .text ":"],
    .text "\n      return rawInput;\n  \x7d\n  return null;\n\x7d\n\n"]

def header : String :=
  "import \x7b isJSON, decodeArray, decodeBoolean, decodeNumber, decodeString \x7d " ++
    "from 'type-decoder';\n"

def file : List Node := [
  .text header,
  .loop none "reference" (named "referencedTypes") [
    .text "import \x7b type ", .output (member "reference" "name"), .text ", decode",
    .output (member "reference" "name"), .text " \x7d from '",
    .output (member "reference" "path"), .text "';\n"] [],
  .text "\n", .output (named "typesContent"), .text "\n"]

def exporter : List Node := [
  .loop none "module" (named "modules")
    [.text "export * from './", .output (named "module"), .text "';\n"] []]

end Decoders

open Decoders Settings

theorem read_object : read Presets.decodersObject = some object :=
  read_of_agrees (by decide +kernel) (by decide +kernel)

theorem read_union : read Presets.decodersUnion = some union :=
  read_of_agrees (by decide +kernel) (by decide +kernel)

theorem read_enumeration : read Presets.decodersEnumeration = some enumeration :=
  read_of_agrees (by decide +kernel) (by decide +kernel)

theorem read_file : read Presets.decodersFile = some file :=
  read_of_agrees (by decide +kernel) (by decide +kernel)

theorem read_exporter : read Presets.exporter = some exporter :=
  read_of_agrees (by decide +kernel) (by decide +kernel)

theorem readTemplate_of_read {text : String} {tree : List Node} (reads : read text = some tree) :
    TemplateSet.readTemplate text = .ok tree := by
  unfold TemplateSet.readTemplate
  rw [reads]

theorem ofTexts_of_read {texts : TemplateTexts} {set : TemplateSet}
    {enumerationText unionText : String} {enumeration union : List Node}
    (objectReads : read texts.object = some set.object)
    (exporterReads : read texts.exporter = some set.exporter)
    (fileReads : read texts.typesFile = some set.typesFile)
    (enumerationGiven : texts.enumeration = some enumerationText)
    (enumerationReads : read enumerationText = some enumeration)
    (unionGiven : texts.union = some unionText) (unionReads : read unionText = some union)
    (enumerationSet : set.enumeration = some enumeration) (unionSet : set.union = some union) :
    TemplateSet.ofTexts texts = .ok set := by
  obtain ⟨object, exporter, file, _, _⟩ := set
  cases enumerationSet
  cases unionSet
  unfold TemplateSet.ofTexts
  rw [readTemplate_of_read objectReads, readTemplate_of_read exporterReads,
    readTemplate_of_read fileReads, enumerationGiven, unionGiven]
  simp [readTemplate_of_read enumerationReads, readTemplate_of_read unionReads, bind, Except.bind,
    pure, Except.pure, Functor.map, Except.map]

/-- The templates of types with decoders. -/
def decoderSet : TemplateSet := ⟨object, exporter, file, some enumeration, some union⟩

theorem ofTexts_decoders : TemplateSet.ofTexts Presets.decoders = .ok decoderSet :=
  ofTexts_of_read read_object read_exporter read_file rfl read_enumeration rfl read_union rfl rfl

end Template

end Typewright
