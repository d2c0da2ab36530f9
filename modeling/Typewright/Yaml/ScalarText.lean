import Typewright.Yaml.Cursor

/-!
The texts of scalars: plain, in quotes, and in blocks. Line breaks inside a scalar are folded into
spaces unless empty lines follow them or the scalar is literal.
-/
namespace Typewright.Yaml

/-- A run of blanks and line breaks inside a scalar. -/
structure Gap where
  blanks : List Char := []
  broken : Bool := false
  firstBreak : List Char := []
  moreBreaks : List Char := []

/-- What the run stands for: a single line break is a space, and of several the first is left
out. -/
def Gap.text (gap : Gap) : List Char :=
  if !gap.broken then gap.blanks
  else if gap.firstBreak = ['\n'] then
    if gap.moreBreaks.isEmpty then [' '] else gap.moreBreaks
  else gap.firstBreak ++ gap.moreBreaks

def readGap (indent : Nat) : Nat → Gap → Cursor → Except Fault (Gap × Cursor)
  | 0, gap, cursor => .ok (gap, cursor)
  | fuel + 1, gap, cursor =>
    match cursor.rest with
    | [] => .ok (gap, cursor)
    | c :: _ =>
      if isBlank c then
        if gap.broken then
          if c = '\t' ∧ cursor.column < indent then .error .token
          else readGap indent fuel gap (cursor.skip 1)
        else readGap indent fuel { gap with blanks := gap.blanks ++ [c] } (cursor.skip 1)
      else if isBreak c then
        let (text, next) := cursor.skipBreak
        if gap.broken then
          readGap indent fuel { gap with moreBreaks := gap.moreBreaks ++ text } next
        else readGap indent fuel { gap with broken := true, firstBreak := text } next
      else .ok (gap, cursor)

def plainRun (inFlow : Bool) : List Char → Except Fault (List Char)
  | [] => .ok []
  | c :: rest =>
    if isBlank c || isBreak c then .ok []
    else if inFlow && c == ':' && (rest.head?.any fun d => ",?[]\x7b\x7d".toList.contains d) then
      .error .token
    else if (c == ':' && wordEnds rest) || (inFlow && ",[]\x7b\x7d".toList.contains c) then .ok []
    else (plainRun inFlow rest).map (c :: ·)

def readPlain (inFlow : Bool) (indent : Nat) :
    Nat → List Char → Gap → Cursor → Except Fault (List Char × Cursor × Bool)
  | 0, text, gap, cursor => .ok (text, cursor, gap.broken)
  | fuel + 1, text, gap, cursor =>
    if cursor.atDocumentMark || cursor.rest.head? == some '#' then .ok (text, cursor, gap.broken)
    else do
      let run ← plainRun inFlow cursor.rest
      let after := cursor.skip run.length
      let (text, gap) := if run.isEmpty then (text, gap) else (text ++ gap.text ++ run, {})
      match after.rest with
      | c :: _ =>
        if isBlank c || isBreak c then
          let (gap, next) ← readGap indent after.rest.length gap after
          if !inFlow && next.column < indent then .ok (text, next, gap.broken)
          else readPlain inFlow indent fuel text gap next
        else .ok (text, after, gap.broken)
      | [] => .ok (text, after, gap.broken)

def hexValue? (c : Char) : Option Nat :=
  if c.isDigit then some (c.toNat - '0'.toNat)
  else if 'a' ≤ c ∧ c ≤ 'f' then some (c.toNat - 'a'.toNat + 10)
  else if 'A' ≤ c ∧ c ≤ 'F' then some (c.toNat - 'A'.toNat + 10)
  else none

def codedChar? (count : Nat) (text : List Char) : Option Char := do
  let digits ← (text.take count).mapM hexValue?
  let code := digits.foldl (fun n d => 16 * n + d) 0
  if digits.length = count ∧ (code < 0xd800 ∨ 0xdfff < code) ∧ code ≤ 0x10ffff then
    some (Char.ofNat code)
  else none

def escape? : List Char → Option (Char × Nat)
  | [] => none
  | c :: rest =>
    match c with
    | '0' => some (Char.ofNat 0, 1)
    | 'a' => some (Char.ofNat 7, 1)
    | 'b' => some (Char.ofNat 8, 1)
    | 't' => some ('\t', 1)
    | '\t' => some ('\t', 1)
    | 'n' => some ('\n', 1)
    | 'v' => some (Char.ofNat 11, 1)
    | 'f' => some (Char.ofNat 12, 1)
    | 'r' => some ('\r', 1)
    | 'e' => some (Char.ofNat 27, 1)
    | ' ' => some (' ', 1)
    | '"' => some ('"', 1)
    | '/' => some ('/', 1)
    | '\\' => some ('\\', 1)
    | 'N' => some (Char.ofNat 0x85, 1)
    | '_' => some (Char.ofNat 0xa0, 1)
    | 'L' => some (Char.ofNat 0x2028, 1)
    | 'P' => some (Char.ofNat 0x2029, 1)
    | 'x' => (codedChar? 2 rest).map (·, 3)
    | 'u' => (codedChar? 4 rest).map (·, 5)
    | 'U' => (codedChar? 8 rest).map (·, 9)
    | _ => none

def apostrophe : Char := Char.ofNat 0x27

/-- Reads the words of a scalar in quotes up to the next blank, break or closing quote. The last
component says whether an escaped line break ended the run. -/
def quotedRun (single : Bool) :
    Nat → List Char → Cursor → Except Fault (List Char × Cursor × Bool)
  | 0, text, cursor => .ok (text, cursor, false)
  | fuel + 1, text, cursor =>
    match cursor.rest with
    | [] => .ok (text, cursor, false)
    | c :: rest =>
      if isBlank c || isBreak c then .ok (text, cursor, false)
      else if single then
        if c = apostrophe then
          if rest.head? = some apostrophe then
            quotedRun single fuel (text ++ [apostrophe]) (cursor.skip 2)
          else .ok (text, cursor, false)
        else quotedRun single fuel (text ++ [c]) (cursor.skip 1)
      else if c = '"' then .ok (text, cursor, false)
      else if c = '\\' then
        if rest.head?.any isBreak then .ok (text, (cursor.skip 1).skipBreak.2, true)
        else
          match escape? rest with
          | some (escaped, count) =>
            quotedRun single fuel (text ++ [escaped]) (cursor.skip (count + 1))
          | none => .error .token
      else quotedRun single fuel (text ++ [c]) (cursor.skip 1)

def readQuoted (single : Bool) : Nat → List Char → Cursor → Except Fault (List Char × Cursor)
  | 0, _, _ => .error .token
  | fuel + 1, text, cursor =>
    if cursor.atDocumentMark || cursor.rest.isEmpty then .error .token
    else do
      let (run, after, escapedBreak) ← quotedRun single cursor.rest.length [] cursor
      if after.rest.head? == some (if single then apostrophe else '"') then
        .ok (text ++ run, after.skip 1)
      else
        let (gap, next) ← readGap 0 after.rest.length { broken := escapedBreak } after
        readQuoted single fuel (text ++ run ++ gap.text) next

inductive Chomp where
  | strip
  | clip
  | keep
deriving DecidableEq

def chomp? : Char → Option Chomp
  | '+' => some .keep
  | '-' => some .strip
  | _ => none

def blockHeader (cursor : Cursor) : Except Fault (Chomp × Nat × Cursor) :=
  let indentation (cursor : Cursor) : Except Fault (Nat × Cursor) :=
    match cursor.rest with
    | c :: _ =>
      if c = '0' then .error .token
      else if c.isDigit then .ok (c.toNat - '0'.toNat, cursor.skip 1)
      else .ok (0, cursor)
    | [] => .ok (0, cursor)
  match cursor.rest.head?.bind chomp? with
  | some chomp => do
    let (indent, next) ← indentation (cursor.skip 1)
    return (chomp, indent, next)
  | none => do
    let (indent, next) ← indentation cursor
    if indent = 0 then return (.clip, 0, next)
    else
      match next.rest.head?.bind chomp? with
      | some chomp => return (chomp, indent, next.skip 1)
      | none => return (.clip, indent, next)

/-- Passes empty lines of a block and the indentation of the next line. Without a known
indentation (`0`) all spaces are passed, and the deepest column seen is recorded. -/
def blockBreaks (indent : Nat) :
    Nat → Nat → List Char → Cursor → Except Fault (Nat × List Char × Cursor)
  | 0, deepest, breaks, cursor => .ok (deepest, breaks, cursor)
  | fuel + 1, deepest, breaks, cursor =>
    let spaces := (cursor.rest.takeWhile (· == ' ')).length
    let cursor := cursor.skip (if indent = 0 then spaces else min spaces (indent - cursor.column))
    let deepest := max deepest cursor.column
    match cursor.rest with
    | c :: _ =>
      if c = '\t' ∧ (indent = 0 ∨ cursor.column < indent) then .error .token
      else if isBreak c then
        let (text, next) := cursor.skipBreak
        blockBreaks indent fuel deepest (breaks ++ text) next
      else .ok (deepest, breaks, cursor)
    | [] => .ok (deepest, breaks, cursor)

/-- What has been read of a block: the text, the break that ends its last line, the empty lines
after it, and whether the last line began with a blank. -/
structure BlockText where
  text : List Char := []
  lineBreak : List Char := []
  emptyLines : List Char := []
  blankLed : Bool := false

/-- Joins the next line to the block. In a folded block a break between two lines that do not
begin with blanks becomes a space. -/
def BlockText.add (folded : Bool) (block : BlockText) (line : List Char) : List Char :=
  let blankNow := line.head?.any isBlank
  if folded && block.lineBreak == ['\n'] && !block.blankLed && !blankNow then
    block.text ++ (if block.emptyLines.isEmpty then [' '] else block.emptyLines) ++ line
  else block.text ++ block.lineBreak ++ block.emptyLines ++ line

def readBlockLines (folded : Bool) (indent : Nat) :
    Nat → BlockText → Cursor → Except Fault (BlockText × Cursor)
  | 0, block, cursor => .ok (block, cursor)
  | fuel + 1, block, cursor =>
    if cursor.column ≠ indent ∨ cursor.rest.isEmpty then .ok (block, cursor)
    else do
      let (line, after) := cursor.run fun c => !isBreak c
      let (lineBreak, next) := after.skipBreak
      let (_, emptyLines, next) ← blockBreaks indent (next.rest.length + 1) 0 [] next
      readBlockLines folded indent fuel
        ⟨block.add folded line, lineBreak, emptyLines, line.head?.any isBlank⟩ next

def readBlock (folded : Bool) (outer : Int) (cursor : Cursor) :
    Except Fault (List Char × Cursor) := do
  let (chomp, increment, cursor) ← blockHeader cursor
  let cursor := cursor.skipBlanks.skipComment
  if !lineEnds cursor.rest then throw .token
  let cursor := cursor.skipBreak.2
  let known := if increment = 0 then 0 else (max outer 0).toNat + increment
  let (deepest, breaks, cursor) ← blockBreaks known (cursor.rest.length + 1) 0 [] cursor
  let indent := if known = 0 then max (max deepest (outer + 1).toNat) 1 else known
  let (block, cursor) ←
    readBlockLines folded indent (cursor.rest.length + 1) { emptyLines := breaks } cursor
  let ending := match chomp with
    | .strip => []
    | .clip => block.lineBreak
    | .keep => block.lineBreak ++ block.emptyLines
  return (block.text ++ ending, cursor)

end Typewright.Yaml
