/-!
Cutting and replacing inside texts. Both work on the characters, so that facts about texts come
from facts about lists.
-/
namespace Typewright.Text

/-- The pieces between the occurrences of `c`; there is one more piece than occurrences. -/
def pieces (c : Char) (text : String) : List String :=
  (text.toList.splitOn c).map String.ofList

def glue (c : Char) (parts : List String) : String :=
  String.ofList ([c].intercalate (parts.map String.toList))

def splitFirst (c : Char) (text : String) : Option (String × String) :=
  match text.toList.dropWhile (· != c) with
  | [] => none
  | _ :: rest => some (String.ofList (text.toList.takeWhile (· != c)), String.ofList rest)

def splitLast (c : Char) (text : String) : Option (String × String) :=
  match text.toList.reverse.dropWhile (· != c) with
  | [] => none
  | _ :: rest => some (String.ofList rest.reverse,
      String.ofList (text.toList.reverse.takeWhile (· != c)).reverse)

/-- Replaces the leftmost occurrences of a non-empty pattern, which never overlap. The first
argument counts the characters that belong to an occurrence already replaced. -/
def substitute (pattern value : List Char) : Nat → List Char → List Char
  | _, [] => []
  | n + 1, _ :: rest => substitute pattern value n rest
  | 0, c :: rest =>
    if pattern.isPrefixOf (c :: rest) then
      value ++ substitute pattern value (pattern.length - 1) rest
    else c :: substitute pattern value 0 rest

def replaceAll (pattern value text : String) : String :=
  if pattern.isEmpty then
    String.ofList (text.toList.flatMap (value.toList ++ [·]) ++ value.toList)
  else String.ofList (substitute pattern.toList value.toList 0 text.toList)

def occursIn (pattern : List Char) : List Char → Bool
  | [] => pattern.isEmpty
  | c :: rest => pattern.isPrefixOf (c :: rest) || occursIn pattern rest

def contains (text pattern : String) : Bool := occursIn pattern.toList text.toList

def startsWith (text start : String) : Bool := start.toList.isPrefixOf text.toList

end Typewright.Text
