import Typewright.Failure

/-!
File trees without links, and what reading, writing and removing do to them. A place is a list of
names from the root; a path leads to a place from the working directory, and every name on the way
has to be that of a directory.
-/
namespace Typewright

inductive Entry where
  | file (text : String)
  | directory
deriving DecidableEq, Repr

abbrev Spot := List String

structure FileTree where
  entries : List (Spot × Entry)
deriving Inhabited

namespace FileTree

def empty : FileTree := ⟨[]⟩

def find? (tree : FileTree) (spot : Spot) : Option Entry :=
  if spot = [] then some .directory else tree.entries.lookup spot

def isDirectory (tree : FileTree) (spot : Spot) : Bool := tree.find? spot == some .directory

def put (tree : FileTree) (spot : Spot) (entry : Entry) : FileTree :=
  ⟨(spot, entry) :: tree.entries.filter fun old => old.1 ≠ spot⟩

def remove (tree : FileTree) (spot : Spot) : FileTree :=
  ⟨tree.entries.filter fun old => !spot.isPrefixOf old.1⟩

def clear (tree : FileTree) (spot : Spot) : FileTree :=
  ⟨tree.entries.filter fun old => !(spot.isPrefixOf old.1 && old.1 ≠ spot)⟩

theorem lookup_filter (keep : Spot → Bool) (spot : Spot) (entries : List (Spot × Entry)) :
    (entries.filter fun old => keep old.1).lookup spot =
      if keep spot then entries.lookup spot else none := by
  induction entries with
  | nil => simp
  | cons old rest ih =>
    obtain ⟨place, entry⟩ := old
    by_cases same : spot = place
    · subst same
      by_cases kept : keep spot = true <;> simp [kept, ih]
    · have other : (spot == place) = false := by simpa using same
      by_cases kept : keep place = true <;> simp [kept, ih, List.lookup_cons, other]

theorem find?_put {tree : FileTree} {spot other : Spot} {entry : Entry} (inside : other ≠ []) :
    (tree.put spot entry).find? other =
      if other = spot then some entry else tree.find? other := by
  simp only [find?, put, inside, ↓reduceIte, List.lookup_cons]
  rw [lookup_filter (fun place => decide (place ≠ spot))]
  by_cases same : other = spot
  · simp [same]
  · have apart : (other == spot) = false := by simpa using same
    simp [same, apart]

theorem find?_remove {tree : FileTree} {spot other : Spot} (inside : other ≠ []) :
    (tree.remove spot).find? other =
      if spot.isPrefixOf other then none else tree.find? other := by
  simp only [find?, remove, inside, ↓reduceIte]
  rw [lookup_filter (fun place => !spot.isPrefixOf place)]
  cases spot.isPrefixOf other <;> rfl

theorem find?_clear {tree : FileTree} {spot other : Spot} (inside : other ≠ []) :
    (tree.clear spot).find? other =
      if spot.isPrefixOf other ∧ other ≠ spot then none else tree.find? other := by
  simp only [find?, clear, inside, ↓reduceIte]
  rw [lookup_filter (fun place => !(spot.isPrefixOf place && decide (place ≠ spot)))]
  by_cases same : other = spot <;> cases spot.isPrefixOf other <;> simp [same]

def files (tree : FileTree) : List (Spot × String) :=
  tree.entries.filterMap fun (spot, entry) =>
    match entry with
    | .file text => some (spot, text)
    | .directory => none

def enter (tree : FileTree) (spot : Spot) : Except FileCause Unit :=
  match tree.find? spot with
  | some .directory => .ok ()
  | some (.file _) => .error .notDirectory
  | none => .error .notFound

/-- Follows the segments of a path. The last name need not exist. -/
def follow (tree : FileTree) (spot : Spot) : List String → Except FileCause Spot
  | [] => .ok spot
  | segment :: rest => do
    tree.enter spot
    if segment = "" ∨ segment = "." then tree.follow spot rest
    else if segment = ".." then tree.follow spot.dropLast rest
    else tree.follow (spot ++ [segment]) rest

def start (current : Spot) (path : Path) : Spot × List String :=
  if path.isAbsolute then ([], path.segments.drop 1) else (current, path.segments)

def locate (tree : FileTree) (current : Spot) (path : Path) : Except FileCause Spot :=
  if path.isEmpty then .error .notFound
  else
    let (spot, segments) := start current path
    tree.follow spot segments

def read (tree : FileTree) (current : Spot) (path : Path) : Except FileCause String := do
  match tree.find? (← tree.locate current path) with
  | some (.file text) => return text
  | some .directory => throw .isDirectory
  | none => throw .notFound

inductive Leaf where
  | root
  | here
  | up
  | name (text : String)

def cutLeaf (segments : List String) : List String × Leaf :=
  match segments.reverse.dropWhile (· = "") with
  | [] => ([], .root)
  | "." :: above => (above.reverse, .here)
  | ".." :: above => (above.reverse, .up)
  | name :: above => (above.reverse, .name name)

/-- A change of the tree; what has changed before a refusal stays changed. -/
abbrev Change := ExceptT FileCause (StateM FileTree)

def Change.ofExcept (result : Except FileCause α) : Change α := ExceptT.mk (pure result)

def makeIn (spot : Spot) (segments : List String) (leaf : String) : Change Unit := do
  let tree ← get
  let parent ← Change.ofExcept (tree.follow spot segments)
  Change.ofExcept (tree.enter parent)
  if leaf = ".." then throw .occupied
  match tree.find? (parent ++ [leaf]) with
  | some _ => throw .occupied
  | none => set (tree.put (parent ++ [leaf]) .directory)

def ensureIn (spot : Spot) (segments : List String) (leaf : String) : Change Unit :=
  tryCatch (makeIn spot segments leaf) fun cause => do
    let tree ← get
    match tree.follow spot (segments ++ [leaf]) with
    | .ok found => if tree.isDirectory found then return () else throw cause
    | .error _ => throw cause

def makeAbove (spot : Spot) : List String → Change Unit
  | [] => return ()
  | leaf :: above =>
    if leaf = "" ∨ leaf = "." then makeAbove spot above
    else
      tryCatch (ensureIn spot above.reverse leaf) fun cause =>
        if cause = .notFound then do
          makeAbove spot above
          ensureIn spot above.reverse leaf
        else throw cause

def makeDirectories (current : Spot) (path : Path) : Change Unit :=
  let (spot, segments) := start current path
  makeAbove spot segments.reverse

def writeFile (current : Spot) (path : Path) (text : String) : Change Unit := do
  if path.isEmpty then throw .notFound
  let tree ← get
  let (spot, segments) := start current path
  let (above, leaf) := cutLeaf segments
  let parent ← Change.ofExcept (tree.follow spot above)
  Change.ofExcept (tree.enter parent)
  match leaf, segments.getLast? with
  | .name _, some "" => throw .isDirectory
  | .name name, _ =>
    if tree.isDirectory (parent ++ [name]) then throw .isDirectory
    set (tree.put (parent ++ [name]) (.file text))
  | _, _ => throw .isDirectory

/-- Removes the entry of an empty directory, which its path has to name. -/
def removeEntry (current : Spot) (path : Path) (spot : Spot) : Change Unit := do
  let tree ← get
  let (origin, segments) := start current path
  let (above, leaf) := cutLeaf segments
  match leaf, tree.follow origin above with
  | .name _, _ => set (tree.remove spot)
  | .root, _ => throw .busy
  | .here, _ => throw .invalidArgument
  | .up, .ok parent => if tree.isDirectory parent then throw .notEmpty else throw .notFound
  | .up, .error cause => throw cause

def removeDirectory (current : Spot) (path : Path) : Change Unit := do
  let tree ← get
  let spot ← Change.ofExcept (tree.locate current path)
  Change.ofExcept (tree.enter spot)
  set (tree.clear spot)
  removeEntry current path spot

def removeIfPresent (current : Spot) (path : Path) : Change Unit :=
  tryCatch (removeDirectory current path) fun cause =>
    if cause = .notFound then return () else throw cause

end FileTree

end Typewright
