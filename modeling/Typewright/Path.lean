import Typewright.Text.Split

/-!
Paths of documents and files. A path is kept as written; it is read as a list of components, and
two paths are the same when their components are. `normalize` resolves `.` and `..` by the text
alone, through the place that the path names.
-/
namespace Typewright

/-- A path as written, cut at every slash. The cuts keep empty segments, so no character is lost. -/
structure Path where
  segments : List String
deriving DecidableEq, Repr, Inhabited

namespace Path

def ofString (text : String) : Path := ⟨Text.pieces '/' text⟩

def toString (p : Path) : String := Text.glue '/' p.segments

instance : ToString Path := ⟨toString⟩

inductive Component where
  | root
  | here
  | up
  | name (text : String)
deriving DecidableEq, Repr

def Component.text : Component → String
  | root => "/"
  | here => "."
  | up => ".."
  | name text => text

def Component.ofSegment? (segment : String) : Option Component :=
  if segment = "" ∨ segment = "." then none
  else if segment = ".." then some .up
  else some (.name segment)

/-- Empty segments and `.` name nothing, except that a leading `.` is a component of its own. -/
def components (p : Path) : List Component :=
  match p.segments with
  | "" :: second :: rest => .root :: (second :: rest).filterMap Component.ofSegment?
  | "." :: rest => .here :: rest.filterMap Component.ofSegment?
  | segments => segments.filterMap Component.ofSegment?

def same (p q : Path) : Bool := p.components == q.components

def isAbsolute (p : Path) : Bool :=
  match p.segments with
  | "" :: _ :: _ => true
  | _ => false

def isEmpty (p : Path) : Bool := p.segments == [] || p.segments == [""]

def join (p q : Path) : Path :=
  if q.isAbsolute || p.isEmpty then q
  else if p.segments.getLast? = some "" then ⟨p.segments.dropLast ++ q.segments⟩
  else ⟨p.segments ++ q.segments⟩

def trimEnd (segments : List String) : List String :=
  (segments.reverse.dropWhile fun s => s == "" || s == ".").reverse

def parent? (p : Path) : Option Path :=
  match p.segments with
  | "" :: second :: rest =>
    match trimEnd (second :: rest) with
    | [] => none
    | body =>
      match trimEnd body.dropLast with
      | [] => some ⟨["", ""]⟩
      | shorter => some ⟨"" :: shorter⟩
  | "." :: rest =>
    match trimEnd rest with
    | [] => some ⟨[""]⟩
    | body => some ⟨"." :: trimEnd body.dropLast⟩
  | segments =>
    match trimEnd segments with
    | [] => none
    | body =>
      match trimEnd body.dropLast with
      | [] => some ⟨[""]⟩
      | shorter => some ⟨shorter⟩

def directory (p : Path) : Path := p.parent?.getD ⟨[""]⟩

def fileName? (p : Path) : Option String :=
  match p.components.getLast? with
  | some (.name text) => some text
  | _ => none

def fileStem? (p : Path) : Option String :=
  p.fileName?.map fun name =>
    match Text.splitLast '.' name with
    | some (stem, _) => if stem = "" then name else stem
    | none => name

/-- Where a path leads: from the root, or so many directories up, then down through `names`. -/
structure Place where
  rooted : Bool
  ups : Nat
  names : List String
deriving DecidableEq, Repr

namespace Place

def start : Place := ⟨false, 0, []⟩

/-- `..` undoes the last name, is dropped at the root, and is kept when nothing is left to undo. -/
def step (place : Place) : Component → Place
  | .root => ⟨true, 0, []⟩
  | .here => place
  | .up =>
    if place.names.isEmpty then
      if place.rooted then place else { place with ups := place.ups + 1 }
    else { place with names := place.names.dropLast }
  | .name text => { place with names := place.names ++ [text] }

def components (place : Place) : List Component :=
  (if place.rooted then [.root] else []) ++ List.replicate place.ups .up ++
    place.names.map .name

def toPath (place : Place) : Path :=
  match List.replicate place.ups ".." ++ place.names with
  | [] => if place.rooted then ⟨["", ""]⟩ else ⟨[""]⟩
  | body => if place.rooted then ⟨"" :: body⟩ else ⟨body⟩

end Place

def place (p : Path) : Place := p.components.foldl Place.step Place.start

def normalize (p : Path) : Path := p.place.toPath

def apart [DecidableEq α] : List α → List α → List α × List α
  | a :: as, b :: bs => if a = b then apart as bs else (a :: as, b :: bs)
  | as, bs => (as, bs)

/-- The specifier by which a module in the directory `source` imports the module `target`: up to
the last common directory, then down. -/
def specifier (source target : Path) : String :=
  let (back, ahead) := apart source.place.components target.place.components
  let text := Text.glue '/' (List.replicate back.length ".." ++ ahead.map Component.text)
  if Text.startsWith text ".." then text else "./" ++ text

end Path

end Typewright
