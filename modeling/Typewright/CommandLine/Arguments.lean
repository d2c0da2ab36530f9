import Typewright.Path

/-!
The arguments of the command line: switches, one option with a value, and words by their position.
A command line that asks for help is answered at the place where it asks, and one that cannot be
read is refused at the first place that does not fit.
-/
namespace Typewright.CommandLine

structure Request where
  language : String
  input : Path
  output : Path
  typesMode : Option String := none
  groupsMode : Option String := none
  settings : Option Path := none
  keep : Bool := false

inductive Invocation where
  | generate (request : Request) (verbose quiet : Bool)
  | inform
  | misuse

structure Switches where
  verbose : Bool := false
  quiet : Bool := false

namespace Switches

def conflict (switches : Switches) : Bool := switches.verbose && switches.quiet

def both (a b : Switches) : Switches := ⟨a.verbose || b.verbose, a.quiet || b.quiet⟩

end Switches

inductive Reading (α : Type) where
  | onward (state : α)
  | inform
  | misuse

def Reading.bind (reading : Reading α) (next : α → Reading β) : Reading β :=
  match reading with
  | onward state => next state
  | inform => .inform
  | misuse => .misuse

structure Draft where
  words : List String := []
  settings : Option String := none
  keep : Bool := false
  switches : Switches := {}

def maxWords : Nat := 5

namespace Draft

def takeWord (draft : Draft) (word : String) : Reading Draft :=
  let place := draft.words.length
  if maxWords ≤ place then .misuse
  else if word.isEmpty && (place == 1 || place == 2) then .misuse
  else .onward { draft with words := draft.words ++ [word] }

def takeWords (draft : Draft) : List String → Reading Draft
  | [] => .onward draft
  | word :: rest => (draft.takeWord word).bind fun draft => draft.takeWords rest

def takeVerbose (draft : Draft) : Reading Draft :=
  if draft.switches.verbose then .misuse
  else .onward { draft with switches := { draft.switches with verbose := true } }

def takeQuiet (draft : Draft) : Reading Draft :=
  if draft.switches.quiet then .misuse
  else .onward { draft with switches := { draft.switches with quiet := true } }

def takeKeep (draft : Draft) : Reading Draft :=
  if draft.keep then .misuse else .onward { draft with keep := true }

def takeSettings (draft : Draft) (value : String) : Reading Draft :=
  if draft.settings.isSome || value.isEmpty then .misuse
  else .onward { draft with settings := some value }

def takeLong (draft : Draft) (name : String) : Reading Draft :=
  match name with
  | "help" => .inform
  | "verbose" => draft.takeVerbose
  | "quiet" => draft.takeQuiet
  | "no-clean" => draft.takeKeep
  | _ => .misuse

/-- Takes switches by their letters, which can share a dash. -/
def takeLetters (draft : Draft) : List Char → Reading Draft
  | [] => .onward draft
  | 'h' :: _ => .inform
  | 'v' :: rest => draft.takeVerbose.bind fun draft => draft.takeLetters rest
  | _ => .misuse

end Draft

inductive Shape where
  | wordsOnly
  | long (name : String) (value : Option String)
  | letters (marks : List Char)
  | word (text : String)

def Shape.ofText (text : String) : Shape :=
  match text.toList with
  | ['-', '-'] => .wordsOnly
  | '-' :: '-' :: rest =>
    match Text.splitFirst '=' (String.ofList rest) with
    | some (name, value) => .long name (some value)
    | none => .long (String.ofList rest) none
  | ['-'] => .word text
  | '-' :: marks => .letters marks
  | _ => .word text

def isValue (text : String) : Bool :=
  match Shape.ofText text with
  | .word _ => true
  | _ => false

def readCommand (draft : Draft) : List String → Reading Draft
  | [] => .onward draft
  | text :: rest =>
    match Shape.ofText text with
    | .wordsOnly => draft.takeWords rest
    | .long "config" (some value) =>
      (draft.takeSettings value).bind fun draft => readCommand draft rest
    | .long "config" none =>
      match rest with
      | [] => .misuse
      | value :: rest =>
        if isValue value then (draft.takeSettings value).bind fun draft => readCommand draft rest
        else .misuse
    | .long name none => (draft.takeLong name).bind fun draft => readCommand draft rest
    | .long _ (some _) => .misuse
    | .letters marks => (draft.takeLetters marks).bind fun draft => readCommand draft rest
    | .word word => (draft.takeWord word).bind fun draft => readCommand draft rest

def Draft.request? (draft : Draft) : Option Request :=
  match draft.words with
  | language :: input :: output :: modes => some
    { language
      input := Path.ofString input
      output := Path.ofString output
      typesMode := modes[0]?
      groupsMode := modes[1]?
      settings := draft.settings.map Path.ofString
      keep := draft.keep }
  | _ => none

/-- The command behind switches: it needs its first three words, and no part of the command line
may contradict itself. -/
def command (outer : Switches) (args : List String) : Invocation :=
  match readCommand {} args with
  | .inform => .inform
  | .misuse => .misuse
  | .onward draft =>
    match draft.request? with
    | none => .misuse
    | some request =>
      if outer.conflict || draft.switches.conflict then .misuse
      else
        let switches := outer.both draft.switches
        .generate request switches.verbose switches.quiet

def help (args : List String) : Invocation :=
  match args with
  | [] => .inform
  | ["generate"] => .inform
  | ["help"] => .inform
  | _ => .misuse

def outerLetters (switches : Switches) : List Char → Reading Switches
  | [] => .onward switches
  | 'h' :: _ => .inform
  | 'V' :: _ => .inform
  | 'v' :: rest =>
    if switches.verbose then .misuse else outerLetters { switches with verbose := true } rest
  | _ => .misuse

def outer (switches : Switches) (text : String) : Reading Switches :=
  match Shape.ofText text with
  | .long "help" none => .inform
  | .long "version" none => .inform
  | .long "verbose" none =>
    if switches.verbose then .misuse else .onward { switches with verbose := true }
  | .long "quiet" none =>
    if switches.quiet then .misuse else .onward { switches with quiet := true }
  | .letters marks => outerLetters switches marks
  | _ => .misuse

def invocationFrom (switches : Switches) : List String → Invocation
  | [] => .misuse
  | "generate" :: rest => command switches rest
  | "help" :: rest => help rest
  | text :: rest =>
    match outer switches text with
    | .onward switches => invocationFrom switches rest
    | .inform => .inform
    | .misuse => .misuse

def Invocation.ofArguments (args : List String) : Invocation := invocationFrom {} args

end Typewright.CommandLine
