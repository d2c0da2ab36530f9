import Typewright.Yaml.ScalarText

/-!
Tokens read from YAML text. Blocks open and close by the columns at which tokens start. A token
that could be a key is remembered with its position; when the sign of a value follows on the same
line, the sign of a key is put in front of it.
-/
namespace Typewright.Yaml

/-- A token that becomes a key when the sign of a value follows. `number` counts the tokens before
it. A required one starts a line of a block that can only go on with keys. -/
structure Candidate where
  required : Bool
  number : Nat
  index : Nat
  line : Nat
  column : Nat

/-- The state between two tokens; `done` holds the tokens read, the last one first. -/
structure Lexer where
  cursor : Cursor
  done : List Token := []
  /-- The column of the innermost block, `-1` outside of all. -/
  indent : Int := -1
  outer : List Int := []
  keyAllowed : Bool := true
  /-- The possible key of each open flow collection, and last the one of the blocks. -/
  candidates : List (Option Candidate) := [none]

namespace Lexer

def inFlow (lexer : Lexer) : Bool := 1 < lexer.candidates.length

def emit (lexer : Lexer) (token : Token) : Lexer := { lexer with done := token :: lexer.done }

def insertAt (lexer : Lexer) (number : Nat) (token : Token) : Lexer :=
  { lexer with done := lexer.done.insertIdx (lexer.done.length - number) token }

/-- Passes blanks, comments and line breaks before a token. A tab may not indent a token that
could be a key. -/
def skipToToken : Nat → Lexer → Lexer
  | 0, lexer => lexer
  | fuel + 1, lexer =>
    let cursor := if lexer.cursor.index = 0 ∧ lexer.cursor.rest.head? = some (Char.ofNat 0xfeff)
      then lexer.cursor.skip 1 else lexer.cursor
    let tabs := lexer.inFlow || !lexer.keyAllowed
    let cursor := (cursor.run fun c => c == ' ' || (tabs && c == '\t')).2.skipComment
    match cursor.rest with
    | c :: _ =>
      if isBreak c then
        skipToToken fuel { lexer with
          cursor := cursor.skipBreak.2
          keyAllowed := lexer.keyAllowed || !lexer.inFlow }
      else { lexer with cursor }
    | [] => { lexer with cursor }

def Candidate.isStale (cursor : Cursor) (candidate : Candidate) : Bool :=
  candidate.line < cursor.line || candidate.index + 1024 < cursor.index

def dropStale (lexer : Lexer) : Except Fault Lexer := do
  let kept ← lexer.candidates.mapM fun candidate? =>
    match candidate? with
    | some candidate =>
      if Candidate.isStale lexer.cursor candidate then
        if candidate.required then .error .token else .ok none
      else .ok (some candidate)
    | none => .ok none
  return { lexer with candidates := kept }

def dropCandidate (lexer : Lexer) : Except Fault Lexer :=
  match lexer.candidates with
  | some candidate :: rest =>
    if candidate.required then .error .token else .ok { lexer with candidates := none :: rest }
  | _ => .ok lexer

def remember (lexer : Lexer) : Except Fault Lexer :=
  if lexer.keyAllowed then do
    let lexer ← lexer.dropCandidate
    let cursor := lexer.cursor
    let candidate : Candidate :=
      ⟨!lexer.inFlow && lexer.indent == cursor.column, lexer.done.length, cursor.index,
        cursor.line, cursor.column⟩
    return { lexer with candidates := some candidate :: lexer.candidates.drop 1 }
  else .ok lexer

def closeBlocks (column : Int) : List Int → Lexer → Lexer
  | [], lexer => lexer
  | outer :: rest, lexer =>
    if column < lexer.indent then
      closeBlocks column rest { lexer.emit .blockEnd with indent := outer, outer := rest }
    else lexer

def unroll (lexer : Lexer) (column : Int) : Lexer :=
  if lexer.inFlow then lexer else closeBlocks column lexer.outer lexer

/-- Opens a block at `column` when it is indented more than the current one; its token goes to
position `number`. -/
def roll (lexer : Lexer) (column number : Nat) (token : Token) : Lexer :=
  if lexer.inFlow || column ≤ lexer.indent then lexer
  else { lexer.insertAt number token with
    indent := column, outer := lexer.indent :: lexer.outer }

def advance (lexer : Lexer) (count : Nat) : Lexer :=
  { lexer with cursor := lexer.cursor.skip count }

/-! Directives. -/

def versionNumber (cursor : Cursor) : Except Fault (Nat × Cursor) :=
  let (digits, next) := cursor.run Char.isDigit
  if digits.isEmpty || 9 < digits.length then .error .token
  else .ok (digits.foldl (fun n c => 10 * n + (c.toNat - '0'.toNat)) 0, next)

def versionDirective (cursor : Cursor) : Except Fault (Token × Cursor) := do
  let (major, cursor) ← versionNumber cursor.skipBlanks
  if cursor.rest.head? ≠ some '.' then throw .token
  let (minor, cursor) ← versionNumber (cursor.skip 1)
  return (.version major minor, cursor)

def uriByte? : List Char → Option Nat
  | '%' :: a :: b :: _ => do return 16 * (← hexValue? a) + (← hexValue? b)
  | _ => none

def uriEscape? (text : List Char) : Option (Char × Nat) := do
  let first ← uriByte? text
  let (count, lead) ←
    if first < 0x80 then some (1, first)
    else if first / 32 = 6 then some (2, first % 32)
    else if first / 16 = 14 then some (3, first % 16)
    else if first / 8 = 30 then some (4, first % 8)
    else none
  let tail ← (List.range (count - 1)).mapM fun i => do
    let byte ← uriByte? (text.drop (3 * (i + 1)))
    if byte / 64 = 2 then some (byte % 64) else none
  some (Char.ofNat (tail.foldl (fun n d => 64 * n + d) lead), count)

def isUriChar (verbatim : Bool) (c : Char) : Bool :=
  isNameChar c || ";/?:@&=+$.!~*()".toList.contains c || c == apostrophe ||
    (verbatim && ",[]".toList.contains c)

def readUri (verbatim : Bool) : Nat → List Char → Cursor → Except Fault (List Char × Cursor)
  | 0, text, cursor => .ok (text, cursor)
  | fuel + 1, text, cursor =>
    match cursor.rest with
    | [] => .ok (text, cursor)
    | c :: _ =>
      if c = '%' then
        match uriEscape? cursor.rest with
        | some (escaped, count) => readUri verbatim fuel (text ++ [escaped]) (cursor.skip (3 * count))
        | none => .error .token
      else if isUriChar verbatim c then readUri verbatim fuel (text ++ [c]) (cursor.skip 1)
      else .ok (text, cursor)

def uri (verbatim : Bool) (cursor : Cursor) : Except Fault (List Char × Cursor) :=
  readUri verbatim cursor.rest.length [] cursor

/-- A handle is `!`, `!!` or `!name!`; without the closing sign the name belongs to the suffix. -/
def tagHandle (cursor : Cursor) : Except Fault (List Char × Cursor) :=
  match cursor.rest with
  | '!' :: _ =>
    let (name, next) := (cursor.skip 1).run isNameChar
    if next.rest.head? = some '!' then .ok ('!' :: name ++ ['!'], next.skip 1)
    else .ok ('!' :: name, next)
  | _ => .error .token

def tagDirective (cursor : Cursor) : Except Fault (Token × Cursor) := do
  let (handle, cursor) ← tagHandle cursor.skipBlanks
  if handle ≠ ['!'] ∧ (handle.length < 2 ∨ handle.getLast? ≠ some '!') then throw .token
  if !(cursor.rest.head?.any isBlank) then throw .token
  let (start, cursor) ← uri true cursor.skipBlanks
  if start.isEmpty || !wordEnds cursor.rest then throw .token
  return (.tagDirective (String.ofList handle) (String.ofList start), cursor)

def directive (lexer : Lexer) : Except Fault Lexer := do
  let lexer ← (lexer.unroll (-1)).dropCandidate
  let (name, cursor) := (lexer.cursor.skip 1).run isNameChar
  if name.isEmpty || !wordEnds cursor.rest then throw .token
  let (token, cursor) ←
    if name = "YAML".toList then versionDirective cursor
    else if name = "TAG".toList then tagDirective cursor
    else throw .token
  let cursor := cursor.skipBlanks.skipComment
  if !lineEnds cursor.rest then throw .token
  return { lexer.emit token with cursor := cursor.skipBreak.2, keyAllowed := false }

/-! Tokens. -/

def documentMark (lexer : Lexer) (token : Token) : Except Fault Lexer := do
  let lexer ← (lexer.unroll (-1)).dropCandidate
  return { (lexer.emit token).advance 3 with keyAllowed := false }

def openFlow (lexer : Lexer) (token : Token) : Except Fault Lexer := do
  let lexer ← lexer.remember
  return { (lexer.emit token).advance 1 with
    candidates := none :: lexer.candidates, keyAllowed := true }

def closeFlow (lexer : Lexer) (token : Token) : Except Fault Lexer := do
  let lexer ← lexer.dropCandidate
  let candidates := if lexer.inFlow then lexer.candidates.drop 1 else lexer.candidates
  return { (lexer.emit token).advance 1 with candidates, keyAllowed := false }

def flowEntry (lexer : Lexer) : Except Fault Lexer := do
  let lexer ← lexer.dropCandidate
  return { (lexer.emit .flowEntry).advance 1 with keyAllowed := true }

def blockEntry (lexer : Lexer) : Except Fault Lexer := do
  if !lexer.inFlow && !lexer.keyAllowed then throw .token
  let lexer := lexer.roll lexer.cursor.column lexer.done.length .blockSequenceStart
  let lexer ← lexer.dropCandidate
  return { (lexer.emit .blockEntry).advance 1 with keyAllowed := true }

def keySign (lexer : Lexer) : Except Fault Lexer := do
  if !lexer.inFlow && !lexer.keyAllowed then throw .token
  let lexer := lexer.roll lexer.cursor.column lexer.done.length .blockMappingStart
  let lexer ← lexer.dropCandidate
  return { (lexer.emit .key).advance 1 with keyAllowed := !lexer.inFlow }

def valueSign (lexer : Lexer) : Except Fault Lexer :=
  match lexer.candidates with
  | some candidate :: rest =>
    let lexer := (lexer.insertAt candidate.number .key).roll candidate.column candidate.number
      .blockMappingStart
    .ok { (lexer.emit .value).advance 1 with candidates := none :: rest, keyAllowed := false }
  | _ =>
    if !lexer.inFlow && !lexer.keyAllowed then .error .token
    else
      let lexer := lexer.roll lexer.cursor.column lexer.done.length .blockMappingStart
      .ok { (lexer.emit .value).advance 1 with keyAllowed := !lexer.inFlow }

def name (lexer : Lexer) (token : String → Token) : Except Fault Lexer := do
  let lexer ← lexer.remember
  let (name, cursor) := (lexer.cursor.skip 1).run isNameChar
  let ends := wordEnds cursor.rest ||
    cursor.rest.head?.any fun c => "?:,]\x7d%@\x60".toList.contains c
  if name.isEmpty || !ends then throw .token
  return { lexer.emit (token (String.ofList name)) with cursor, keyAllowed := false }

def readTag (cursor : Cursor) : Except Fault (Token × Cursor) :=
  match cursor.rest with
  | '!' :: '<' :: _ => do
    let (text, cursor) ← uri true (cursor.skip 2)
    if text.isEmpty || cursor.rest.head? ≠ some '>' then throw .token
    return (.tag "" (String.ofList text), cursor.skip 1)
  | _ => do
    let (handle, cursor) ← tagHandle cursor
    if 1 < handle.length ∧ handle.getLast? = some '!' then
      let (suffix, cursor) ← uri false cursor
      if suffix.isEmpty then throw .token
      return (.tag (String.ofList handle) (String.ofList suffix), cursor)
    else
      let (more, cursor) ← uri false cursor
      let suffix := handle.drop 1 ++ more
      return (if suffix.isEmpty then .tag "" "!" else .tag "!" (String.ofList suffix), cursor)

def tag (lexer : Lexer) : Except Fault Lexer := do
  let lexer ← lexer.remember
  let (token, cursor) ← readTag lexer.cursor
  if !(wordEnds cursor.rest || (lexer.inFlow && cursor.rest.head? == some ',')) then throw .token
  return { lexer.emit token with cursor, keyAllowed := false }

def block (lexer : Lexer) (folded : Bool) : Except Fault Lexer := do
  let lexer ← lexer.dropCandidate
  let (text, cursor) ← readBlock folded lexer.indent (lexer.cursor.skip 1)
  let style : Style := if folded then .folded else .literal
  return { lexer.emit (.scalar (String.ofList text) style) with cursor, keyAllowed := true }

def quoted (lexer : Lexer) (single : Bool) : Except Fault Lexer := do
  let lexer ← lexer.remember
  let cursor := lexer.cursor.skip 1
  let (text, cursor) ← readQuoted single (cursor.rest.length + 1) [] cursor
  let style : Style := if single then .single else .double
  return { lexer.emit (.scalar (String.ofList text) style) with cursor, keyAllowed := false }

def plain (lexer : Lexer) : Except Fault Lexer := do
  let lexer ← lexer.remember
  let cursor := lexer.cursor
  let (text, cursor, brokenLine) ←
    readPlain lexer.inFlow (lexer.indent + 1).toNat (cursor.rest.length + 1) [] {} cursor
  return { lexer.emit (.scalar (String.ofList text) .plain) with cursor, keyAllowed := brokenLine }

def startsPlain (inFlow : Bool) (c : Char) (rest : List Char) : Bool :=
  let sign := c == apostrophe || "-?:,[]\x7b\x7d#&*!|>\"%@\x60".toList.contains c
  !(isBlank c || isBreak c || sign) || (c == '-' && !(rest.head?.any isBlank)) ||
    (!inFlow && (c == '?' || c == ':') && !wordEnds rest)

def readToken (lexer : Lexer) (c : Char) (rest : List Char) : Except Fault Lexer :=
  if lexer.cursor.column = 0 ∧ c = '%' then lexer.directive
  else if lexer.cursor.atDocumentMark then
    lexer.documentMark (if c = '-' then .documentStart else .documentEnd)
  else if c = '[' then lexer.openFlow .flowSequenceStart
  else if c = '{' then lexer.openFlow .flowMappingStart
  else if c = ']' then lexer.closeFlow .flowSequenceEnd
  else if c = '}' then lexer.closeFlow .flowMappingEnd
  else if c = ',' then lexer.flowEntry
  else if c = '-' ∧ wordEnds rest then lexer.blockEntry
  else if c = '?' ∧ (lexer.inFlow ∨ wordEnds rest) then lexer.keySign
  else if c = ':' ∧ (lexer.inFlow ∨ wordEnds rest) then lexer.valueSign
  else if c = '*' then lexer.name .alias
  else if c = '&' then lexer.name .anchor
  else if c = '!' then lexer.tag
  else if c = '|' ∧ !lexer.inFlow then lexer.block false
  else if c = '>' ∧ !lexer.inFlow then lexer.block true
  else if c = apostrophe then lexer.quoted true
  else if c = '"' then lexer.quoted false
  else if startsPlain lexer.inFlow c rest then lexer.plain
  else .error .token

def finish (lexer : Lexer) : Except Fault (List Token) := do
  let lexer ← (lexer.unroll (-1)).dropCandidate
  return lexer.done.reverse

def readAll : Nat → Lexer → Except Fault (List Token)
  | 0, _ => .error .token
  | fuel + 1, lexer => do
    let lexer ← (lexer.skipToToken (lexer.cursor.rest.length + 1)).dropStale
    let lexer := lexer.unroll lexer.cursor.column
    match lexer.cursor.rest with
    | [] => lexer.finish
    | c :: rest => readAll fuel (← lexer.readToken c rest)

end Lexer

def Token.scan (text : String) : Except Fault (List Token) :=
  let chars := text.toList
  if chars.all isAllowed then
    Lexer.readAll (chars.length + 1) { cursor := { rest := chars } }
  else .error .character

end Typewright.Yaml
