import Typewright.Script

/-!
What writing does to a file tree. A path leads to one spot in whatever tree it leads anywhere, since
there are no links. Making directories only adds to a tree. A file that is written takes its own
spot, which was no directory, so every other file is still read where it was.
-/
namespace Typewright.FileTree

variable {tree between after : FileTree} {current spot found last : Spot} {segments : List String}
variable {path : Path} {text : String}

/-! Spots -/

def next (spot : Spot) (segment : String) : Spot :=
  if segment = "" ∨ segment = "." then spot
  else if segment = ".." then spot.dropLast
  else spot ++ [segment]

def walk (spot : Spot) (segments : List String) : Spot := segments.foldl next spot

theorem walk_append (spot : Spot) (segments more : List String) :
    walk spot (segments ++ more) = walk (walk spot segments) more :=
  List.foldl_append

/-- The spot that a path names, seen from the working directory. -/
def spotOf (current : Spot) (path : Path) : Spot :=
  walk (start current path).1 (start current path).2

theorem enter_ok : tree.enter spot = .ok () ↔ tree.find? spot = some .directory := by
  unfold enter
  split
  · next here => simp [here]
  · next here => simp [here]
  · next here => simp [here]

theorem follow_step (segment : String) (rest : List String) :
    tree.follow spot (segment :: rest) =
      (tree.enter spot).bind fun _ => tree.follow (next spot segment) rest := by
  unfold next
  rw [follow]
  split
  · rfl
  · split
    · rfl
    · rfl

theorem follow_cons {segment : String} {rest : List String} :
    tree.follow spot (segment :: rest) = .ok found ↔
      tree.find? spot = some .directory ∧ tree.follow (next spot segment) rest = .ok found := by
  rw [follow_step, ← enter_ok]
  cases tree.enter spot with
  | error cause => exact ⟨nofun, nofun⟩
  | ok done => exact ⟨fun follows => ⟨rfl, follows⟩, And.right⟩

/-- A tree decides whether segments lead anywhere, not where. -/
theorem follow_walk (follows : tree.follow spot segments = .ok found) :
    found = walk spot segments := by
  induction segments generalizing spot with
  | nil =>
    cases follows
    rfl
  | cons segment rest ih => exact ih (follow_cons.mp follows).2

theorem follow_append {more : List String} (first : tree.follow spot segments = .ok found)
    (second : tree.follow found more = .ok last) :
    tree.follow spot (segments ++ more) = .ok last := by
  induction segments generalizing spot with
  | nil =>
    cases first
    exact second
  | cons segment rest ih =>
    obtain ⟨isDirectory, onward⟩ := follow_cons.mp first
    exact follow_cons.mpr ⟨isDirectory, ih onward⟩

def textOf : Option Entry → Except FileCause String
  | some (.file text) => .ok text
  | some .directory => .error .isDirectory
  | none => .error .notFound

theorem textOf_ok {entry : Option Entry} : textOf entry = .ok text ↔ entry = some (.file text) := by
  rcases entry with _ | _ | _ <;> simp [textOf]

theorem read_ok : tree.read current path = .ok text ↔ path.isEmpty = false ∧
    tree.follow (start current path).1 (start current path).2 = .ok (spotOf current path) ∧
    tree.find? (spotOf current path) = some (.file text) := by
  have run : tree.read current path = (if path.isEmpty then .error .notFound
      else tree.follow (start current path).1 (start current path).2).bind fun found =>
        textOf (tree.find? found) := rfl
  rw [run]
  cases path.isEmpty with
  | true => simp [Except.bind]
  | false =>
    rw [if_neg Bool.false_ne_true]
    cases follows : tree.follow (start current path).1 (start current path).2 with
    | error cause => simp [Except.bind]
    | ok found =>
      have isSpot : found = spotOf current path := follow_walk follows
      simp [Except.bind, isSpot, textOf_ok]

/-! Trees that grow -/

def KeepsDirectories (tree after : FileTree) : Prop :=
  ∀ spot, tree.find? spot = some .directory → after.find? spot = some .directory

theorem KeepsDirectories.follow (keeps : tree.KeepsDirectories after)
    (follows : tree.follow spot segments = .ok found) :
    after.follow spot segments = .ok found := by
  induction segments generalizing spot with
  | nil => exact follows
  | cons segment rest ih =>
    obtain ⟨isDirectory, onward⟩ := follow_cons.mp follows
    exact follow_cons.mpr ⟨keeps spot isDirectory, ih onward⟩

/-- Everything but what is at `spot` stays as it is, and `spot` stays a directory if it is one. -/
structure Spares (spot : Spot) (tree after : FileTree) : Prop where
  others : ∀ place ≠ spot, ∀ entry, tree.find? place = some entry → after.find? place = some entry
  directory : tree.find? spot = some .directory → after.find? spot = some .directory

namespace Spares

theorem refl (spot : Spot) (tree : FileTree) : Spares spot tree tree :=
  ⟨fun _ _ _ here => here, fun here => here⟩

theorem trans (first : Spares spot tree between) (second : Spares spot between after) :
    Spares spot tree after where
  others place apart entry here :=
    second.others place apart entry (first.others place apart entry here)
  directory here := second.directory (first.directory here)

theorem keepsDirectories (spares : Spares spot tree after) : tree.KeepsDirectories after := by
  intro place isDirectory
  by_cases same : place = spot
  · subst same
    exact spares.directory isDirectory
  · exact spares.others place same .directory isDirectory

theorem put {entry : Entry} (free : tree.find? spot ≠ some .directory) :
    Spares spot tree (tree.put spot entry) := by
  constructor
  · intro place apart old here
    by_cases root : place = []
    · rw [root] at here ⊢
      exact here
    · rw [find?_put root, if_neg apart, here]
  · exact fun here => absurd here free

theorem read (spares : Spares spot tree after) (apart : spotOf current path ≠ spot)
    (reads : tree.read current path = .ok text) : after.read current path = .ok text := by
  obtain ⟨filled, follows, isFile⟩ := read_ok.mp reads
  exact read_ok.mpr ⟨filled, spares.keepsDirectories.follow follows,
    spares.others _ apart _ isFile⟩

end Spares

def Grows (tree after : FileTree) : Prop :=
  ∀ spot entry, tree.find? spot = some entry → after.find? spot = some entry

theorem Grows.spares (grows : tree.Grows after) (spot : Spot) : Spares spot tree after :=
  ⟨fun place _ => grows place, grows spot .directory⟩

def AddsNoFile (tree after : FileTree) : Prop :=
  ∀ spot text, after.find? spot = some (.file text) → tree.find? spot = some (.file text)

/-! Changes that only make directories -/

/-- A relation that leads from a tree to the trees that come from it when directories are made. -/
structure Building (R : FileTree → FileTree → Prop) : Prop where
  refl : ∀ tree, R tree tree
  trans : ∀ {tree between after}, R tree between → R between after → R tree after
  made : ∀ {tree : FileTree} {spot}, tree.find? spot = none → R tree (tree.put spot .directory)

theorem building_grows : Building Grows where
  refl _ _ _ here := here
  trans first second spot entry here := second spot entry (first spot entry here)
  made := by
    intro tree spot free place entry here
    have isNew : tree.find? spot ≠ some .directory := by simp [free]
    refine (Spares.put isNew).others place ?_ entry here
    rintro rfl
    cases free.symm.trans here

theorem building_addsNoFile : Building AddsNoFile where
  refl _ _ _ here := here
  trans first second spot text here := first spot text (second spot text here)
  made := by
    intro tree spot _ place text here
    by_cases root : place = []
    · subst root
      cases here
    · rw [find?_put root] at here
      split at here
      · cases here
      · exact here

namespace Change
variable {α β : Type} {R : FileTree → FileTree → Prop}

def Leads (R : FileTree → FileTree → Prop) (change : Change α) : Prop :=
  ∀ tree : FileTree, R tree (change.run tree).2

def Adds (change : Change α) : Prop :=
  ∀ tree : FileTree, tree.Grows (change.run tree).2

theorem run_bind (change : Change α) (onward : α → Change β) (tree : FileTree) :
    (change >>= onward).run tree = match change.run tree with
      | (.ok value, between) => (onward value).run between
      | (.error cause, between) => (.error cause, between) := by
  show (change.run >>= ExceptT.bindCont onward) tree = _
  show (ExceptT.bindCont onward (change.run tree).1) (change.run tree).2 = _
  rcases change.run tree with ⟨cause | value, between⟩
  · rfl
  · rfl

theorem run_tryCatch (change : Change α) (handle : FileCause → Change α) (tree : FileTree) :
    (tryCatch change handle).run tree = match change.run tree with
      | (.ok value, between) => (.ok value, between)
      | (.error cause, between) => (handle cause).run between := by
  rcases ran : change.run tree with ⟨cause | value, between⟩ <;>
    simp only [tryCatch, tryCatchThe, MonadExceptOf.tryCatch, ExceptT.tryCatch, ExceptT.run_mk,
      bind, StateT.bind] <;>
    rw [show (change : StateM FileTree (Except FileCause α)) tree = _ from ran] <;>
    rfl

section Leads
variable (building : Building R)
include building

theorem leads_tryCatch {change : Change α} {handle : FileCause → Change α} (first : change.Leads R)
    (second : ∀ cause, (handle cause).Leads R) : (tryCatch change handle).Leads R := by
  intro tree
  have before := first tree
  rw [run_tryCatch]
  generalize change.run tree = result at before ⊢
  rcases result with ⟨cause | value, between⟩
  · exact building.trans before (second cause between)
  · exact before

theorem leads_bind {change : Change α} {onward : α → Change β} (first : change.Leads R)
    (second : ∀ value, (onward value).Leads R) : (change >>= onward).Leads R := by
  intro tree
  have before := first tree
  rw [run_bind]
  generalize change.run tree = result at before ⊢
  rcases result with ⟨cause | value, between⟩
  · exact before
  · exact building.trans before (second value between)

theorem leads_throw (cause : FileCause) : (throw cause : Change α).Leads R :=
  fun tree => building.refl tree

theorem leads_return (value : α) : (return value : Change α).Leads R :=
  fun tree => building.refl tree

end Leads

theorem leads_get {onward : FileTree → Change α}
    (each : ∀ tree : FileTree, R tree ((onward tree).run tree).2) :
    (get >>= onward : Change α).Leads R := by
  intro tree
  rw [run_bind]
  exact each tree

end Change

open Change

section Building
variable {R : FileTree → FileTree → Prop} (building : Building R)
include building

theorem leads_makeIn (spot : Spot) (segments : List String) (leaf : String) :
    (makeIn spot segments leaf).Leads R := by
  refine leads_get fun tree => ?_
  cases tree.follow spot segments with
  | error cause => exact building.refl tree
  | ok parent =>
    show R tree ((Change.ofExcept (tree.enter parent) >>= _ : Change Unit).run tree).2
    cases tree.enter parent with
    | error cause => exact building.refl tree
    | ok done =>
      show R tree ((ite (leaf = "..") _ _ : Change Unit).run tree).2
      split
      · exact building.refl tree
      · cases free : tree.find? (parent ++ [leaf]) with
        | some old => exact building.refl tree
        | none => exact building.made free

theorem leads_ensureIn (spot : Spot) (segments : List String) (leaf : String) :
    (ensureIn spot segments leaf).Leads R := by
  refine leads_tryCatch building (leads_makeIn building spot segments leaf) fun cause => ?_
  refine leads_get fun tree => ?_
  cases tree.follow spot (segments ++ [leaf]) with
  | error other => exact building.refl tree
  | ok found =>
    dsimp only
    split
    · exact building.refl tree
    · exact building.refl tree

theorem leads_makeAbove (spot : Spot) (segments : List String) :
    (makeAbove spot segments).Leads R := by
  induction segments with
  | nil => exact leads_return building ()
  | cons leaf above ih =>
    unfold makeAbove
    split
    · exact ih
    · refine leads_tryCatch building (leads_ensureIn building spot above.reverse leaf)
        fun cause => ?_
      split
      · exact leads_bind building ih fun _ => leads_ensureIn building spot above.reverse leaf
      · exact leads_throw building cause

theorem leads_makeDirectories (current : Spot) (path : Path) :
    (makeDirectories current path).Leads R :=
  leads_makeAbove building _ _

end Building

theorem adds_makeDirectories (current : Spot) (path : Path) :
    (makeDirectories current path).Adds :=
  leads_makeDirectories building_grows current path

/-! Files -/

theorem cutLeaf_name (spot : Spot) {above : List String} {name : String}
    (cut : cutLeaf segments = (above, .name name)) (unended : segments.getLast? ≠ some "") :
    segments = above ++ [name] ∧ next spot name = spot ++ [name] := by
  have reversed : segments.reverse.dropWhile (· = "") = segments.reverse := by
    rw [← List.head?_reverse] at unended
    cases backward : segments.reverse with
    | nil => rfl
    | cons last rest =>
      have filled : last ≠ "" := by
        rintro rfl
        exact unended (by rw [backward]; rfl)
      simp [filled]
  unfold cutLeaf at cut
  rw [reversed] at cut
  cases backward : segments.reverse with
  | nil =>
    rw [backward] at cut
    cases cut
  | cons last rest =>
    have whole : segments = rest.reverse ++ [last] := by
      rw [← List.reverse_reverse segments, backward, List.reverse_cons]
    rw [backward] at cut
    split at cut
    · cases cut
    · cases cut
    · cases cut
    · next word beyond notHere notUp same =>
      obtain ⟨rfl, rfl⟩ := List.cons.inj same
      cases cut
      have plain : ¬(name = "" ∨ name = ".") := by
        rintro (rfl | here)
        · exact unended (by rw [whole, List.getLast?_concat])
        · exact notHere here
      refine ⟨whole, ?_⟩
      unfold next
      rw [if_neg plain, if_neg notUp]

theorem spotOf_leaf {above : List String} {name : String} {parent : Spot}
    (whole : (start current path).2 = above ++ [name])
    (follows : tree.follow (start current path).1 above = .ok parent)
    (named : next parent name = parent ++ [name]) : parent ++ [name] = spotOf current path := by
  rw [spotOf, whole, walk_append, ← follow_walk follows]
  exact named.symm

theorem writeFile_cases (current : Spot) (path : Path) (text : String) (tree : FileTree) :
    (∃ cause, (writeFile current path text).run tree = (.error cause, tree)) ∨
    ∃ above name parent, path.isEmpty = false ∧ (start current path).2 = above ++ [name] ∧
      next parent name = parent ++ [name] ∧
      tree.follow (start current path).1 above = .ok parent ∧
      tree.find? parent = some .directory ∧ tree.find? (parent ++ [name]) ≠ some .directory ∧
      (writeFile current path text).run tree =
        (.ok (), tree.put (parent ++ [name]) (.file text)) := by
  generalize ran : (writeFile current path text).run tree = result
  unfold writeFile at ran
  cases filled : path.isEmpty with
  | true =>
    rw [filled] at ran
    exact .inl ⟨_, ran.symm⟩
  | false =>
    rcases cut : cutLeaf (start current path).2 with ⟨above, leaf⟩
    rw [filled, if_neg Bool.false_ne_true] at ran
    dsimp only at ran
    rw [cut] at ran
    change (Change.ofExcept (tree.follow (start current path).1 above) >>= _).run tree = _ at ran
    cases follows : tree.follow (start current path).1 above with
    | error cause =>
      rw [follows] at ran
      exact .inl ⟨cause, ran.symm⟩
    | ok parent =>
      rw [follows] at ran
      change (Change.ofExcept (tree.enter parent) >>= _).run tree = _ at ran
      cases enters : tree.enter parent with
      | error cause =>
        rw [enters] at ran
        exact .inl ⟨cause, ran.symm⟩
      | ok done =>
        rw [enters, Change.run_bind] at ran
        dsimp only [Change.ofExcept, ExceptT.run_mk, pure, StateT.pure] at ran
        split at ran
        · exact .inl ⟨_, ran.symm⟩
        · next _ name unended =>
          split at ran
          · exact .inl ⟨_, ran.symm⟩
          · next free =>
            obtain ⟨whole, named⟩ := cutLeaf_name parent cut unended
            have isFree : tree.find? (parent ++ [name]) ≠ some .directory := by
              simpa [isDirectory] using free
            exact .inr ⟨above, name, parent, rfl, whole, named, follows, enter_ok.mp enters, isFree,
              ran.symm⟩
        · exact .inl ⟨_, ran.symm⟩

theorem writeFile_writes (writes : (writeFile current path text).run tree = (.ok (), after)) :
    Spares (spotOf current path) tree after ∧ after.read current path = .ok text := by
  rcases writeFile_cases current path text tree with ⟨cause, refused⟩ |
    ⟨above, name, parent, filled, whole, named, follows, enters, free, ran⟩
  · cases writes.symm.trans refused
  · have placed : after = tree.put (parent ++ [name]) (.file text) := by
      cases writes.symm.trans ran
      rfl
    have isSpot := spotOf_leaf whole follows named
    rw [isSpot] at placed free
    have spares : Spares (spotOf current path) tree after := placed ▸ Spares.put free
    refine ⟨spares, read_ok.mpr ⟨filled, ?_, ?_⟩⟩
    · rw [whole]
      refine spares.keepsDirectories.follow (follow_append follows ?_)
      exact follow_cons.mpr ⟨enters, congrArg Except.ok (named.trans isSpot)⟩
    · have inside : spotOf current path ≠ [] := isSpot ▸ List.concat_ne_nil name parent
      rw [placed, find?_put inside, if_pos rfl]

end Typewright.FileTree

namespace Typewright.Step

open FileTree

theorem refusing_ok {fault : FileCause → FileFault} {change : FileTree.Change Unit}
    {tree after : FileTree} (made : refusing fault change tree = (.ok (), after)) :
    change.run tree = (.ok (), after) := by
  unfold refusing at made
  rcases ran : change.run tree with ⟨cause | value, later⟩
  · rw [ran] at made
    cases made
  · rw [ran] at made
    cases made
    rfl

theorem write_writes {current : Spot} {path : Path} {text : String} {tree after : FileTree}
    (act : (Step.write path text).act current tree = (.ok (), after)) :
    Spares (spotOf current path) tree after ∧ after.read current path = .ok text := by
  simp only [Step.act, writeIn] at act
  cases parent : path.parent? with
  | none =>
    simp only [parent] at act
    exact writeFile_writes (refusing_ok act)
  | some directory =>
    simp only [parent] at act
    split at act
    · next between made =>
      obtain ⟨spares, reads⟩ := writeFile_writes (refusing_ok act)
      have grows : tree.Grows between := by
        have only := adds_makeDirectories current directory tree
        rwa [refusing_ok made] at only
      exact ⟨(grows.spares _).trans spares, reads⟩
    · next failed =>
      rw [act] at failed
      exact absurd rfl (failed after)

end Typewright.Step
