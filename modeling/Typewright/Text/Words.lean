import Typewright.Text.Character

/-!
Words inside identifiers, and identifiers made of words. Words are separated by characters that
are neither letters nor digits, by a capital after a small letter (`petStatus`), and before the
last capital of a run that goes on in small letters (`XMLName`).
-/
namespace Typewright.Text

inductive Mode where
  | boundary
  | lower
  | upper
deriving DecidableEq

def Mode.after (mode : Mode) (c : Char) : Mode :=
  if isLower c then .lower else if isUpper c then .upper else mode

/-- Cuts a run of letters and digits into words; `word` holds the current word in reverse. -/
def cutRun (mode : Mode) (word : List Char) : List Char → List (List Char)
  | [] => []
  | [c] => [(c :: word).reverse]
  | c :: next :: rest =>
    if mode.after c = .lower ∧ isUpper next then
      (c :: word).reverse :: cutRun .boundary [] (next :: rest)
    else if mode = .upper ∧ isUpper c ∧ isLower next then
      word.reverse :: cutRun .boundary [c] (next :: rest)
    else cutRun (mode.after c) (c :: word) (next :: rest)

def words (text : String) : List (List Char) :=
  (text.toList.splitOnP fun c => !isAlphanumeric c).flatMap (cutRun .boundary [])

def lowerWord : List Char → List Char
  | [] => []
  | [c] => if c = capitalSigma then [finalSigma] else lowerForm c
  | c :: rest => lowerForm c ++ lowerWord rest

def capitalize : List Char → List Char
  | [] => []
  | c :: rest => upperForm c ++ lowerWord rest

/-- `pet_status`, `pet-status` and `petStatus` become `PetStatus`. -/
def pascalCase (text : String) : String := String.ofList ((words text).flatMap capitalize)

def camelCase (text : String) : String :=
  match words text with
  | [] => ""
  | first :: rest => String.ofList (lowerWord first ++ rest.flatMap capitalize)

end Typewright.Text
