import Typewright.Proofs.NormalPath
import Typewright.Proofs.Scripts
import Typewright.Proofs.TreeWrites

/-!
Files that a script spares. A file stands at a spot as long as all above it are directories. Writing
another file leaves it there, whether the writing is refused or not, and clearing a directory takes
away what is below that directory and nothing else.
-/
namespace Typewright

/-! Absolute paths -/

namespace Path

theorem normalize_rooted {p : Path} (rooted : p.place.rooted = true) :
    p.normalize = ofSpot p.place.names := by
  have above : p.place.ups = 0 := (place_proper p).2 rooted
  unfold normalize Place.toPath ofSpot
  rw [above, rooted, List.replicate_zero, List.nil_append]
  split
  · next none => rw [none, if_pos rfl, if_pos rfl]
  · next filled => rw [if_pos rfl, if_neg filled]

theorem absolute_ofSpot (spot : Spot) : (ofSpot spot).isAbsolute = true := by
  unfold ofSpot
  split
  · rfl
  · next filled =>
    cases spot with
    | nil => exact absurd rfl filled
    | cons name rest => rfl

theorem rooted_of_normal {p : Path} (absolute : p.normalize.isAbsolute = true) :
    p.place.rooted = true := by
  cases rooted : p.place.rooted with
  | true => rfl
  | false =>
    unfold normalize Place.toPath at absolute
    rw [rooted] at absolute
    split at absolute
    · cases absolute
    · next filled =>
      have proper := (place_proper p).1
      cases isAbove : p.place.ups with
      | succ more => simp [isAbove, List.replicate_succ, isAbsolute] at absolute
      | zero =>
        cases names : p.place.names with
        | nil => exact absurd (by simp [isAbove, names]) filled
        | cons name rest =>
          have plain := (plain_ne_empty (proper name (by simp [names]))).1
          simp [isAbove, names, isAbsolute, plain] at absolute

theorem names_of_normal {p : Path} (absolute : p.normalize.isAbsolute = true) :
    ∃ names : Spot, p.normalize = ofSpot names ∧ ∀ name ∈ names, IsPlain name :=
  ⟨p.place.names, normalize_rooted (rooted_of_normal absolute), (place_proper p).1⟩

end Path

namespace FileTree
variable {tree between after : FileTree} {current spot place found : Spot} {path : Path}
variable {text : String}

/-! Files that stand somewhere -/

structure Shows (tree : FileTree) (spot : Spot) (text : String) : Prop where
  file : tree.find? spot = some (.file text)
  above : ∀ before rest, spot = before ++ rest → rest ≠ [] → tree.find? before = some .directory

theorem next_plain {name : String} (plain : Path.IsPlain name) : next spot name = spot ++ [name] := by
  obtain ⟨filled, notHere⟩ := Path.plain_ne_empty plain
  have notUp : name ≠ ".." := by
    rintro rfl
    simp [Path.IsPlain, Path.Component.ofSegment?] at plain
  simp [next, filled, notHere, notUp]

theorem follow_plain {names : List String} (plain : ∀ name ∈ names, Path.IsPlain name) :
    tree.follow spot names = .ok (spot ++ names) ↔
      ∀ before rest, names = before ++ rest → rest ≠ [] →
        tree.find? (spot ++ before) = some .directory := by
  induction names generalizing spot with
  | nil =>
    constructor
    · intro _ before rest split filled
      exact absurd (List.append_eq_nil_iff.mp split.symm).2 filled
    · intro _
      simp [follow]
  | cons name others ih =>
    obtain ⟨here, onward⟩ := List.forall_mem_cons.mp plain
    have below : spot ++ name :: others = (spot ++ [name]) ++ others := by simp
    rw [follow_cons, next_plain here, below, ih onward]
    constructor
    · rintro ⟨isDirectory, later⟩ before rest split filled
      cases before with
      | nil => simpa using isDirectory
      | cons head more =>
        obtain ⟨rfl, same⟩ := List.cons.inj split
        simpa using later more rest same filled
    · intro all
      refine ⟨by simpa using all [] (name :: others) rfl (by simp), ?_⟩
      intro before rest split filled
      simpa using all (name :: before) rest (by simp [split]) filled

theorem walk_plain {names : List String} (plain : ∀ name ∈ names, Path.IsPlain name) :
    walk spot names = spot ++ names := by
  induction names generalizing spot with
  | nil => simp [walk]
  | cons name others ih =>
    obtain ⟨here, onward⟩ := List.forall_mem_cons.mp plain
    show walk (next spot name) others = _
    rw [ih onward, next_plain here]
    simp

theorem start_ofSpot (filled : spot ≠ []) : start current (Path.ofSpot spot) = ([], spot) := by
  have absolute := Path.absolute_ofSpot spot
  unfold start
  rw [absolute, if_pos rfl, Path.ofSpot, if_neg filled]
  rfl

theorem spotOf_ofSpot (plain : ∀ name ∈ spot, Path.IsPlain name) :
    spotOf current (Path.ofSpot spot) = spot := by
  by_cases root : spot = []
  · subst root
    rfl
  · rw [spotOf, start_ofSpot root]
    exact walk_plain plain

theorem read_shows (plain : ∀ name ∈ spot, Path.IsPlain name) :
    tree.read current (Path.ofSpot spot) = .ok text ↔ tree.Shows spot text := by
  rw [read_ok, spotOf_ofSpot plain]
  by_cases root : spot = []
  · subst root
    constructor
    · rintro ⟨_, _, isFile⟩
      cases isFile
    · rintro ⟨isFile, _⟩
      cases isFile
  · have written : (Path.ofSpot spot).isEmpty = false := by
      simp [Path.ofSpot, root, Path.isEmpty]
    have leads : tree.follow [] spot = .ok spot ↔ _ := follow_plain plain
    simp only [List.nil_append] at leads
    rw [start_ofSpot root]
    dsimp only
    rw [leads]
    constructor
    · rintro ⟨_, above, isFile⟩
      exact ⟨isFile, above⟩
    · rintro ⟨isFile, above⟩
      exact ⟨written, above, isFile⟩

theorem Shows.spared (shows_ : tree.Shows spot text) (spares : Spares place tree after)
    (apart : place ≠ spot) : after.Shows spot text where
  file := spares.others spot apart.symm _ shows_.file
  above before rest split filled :=
    spares.keepsDirectories before (shows_.above before rest split filled)

/-! Writing -/

/-- At most the file at `spot` is new or changed. -/
structure WritesAt (spot : Spot) (tree after : FileTree) : Prop extends Spares spot tree after where
  files : ∀ place text, after.find? place = some (.file text) →
    place = spot ∨ tree.find? place = some (.file text)

theorem WritesAt.refl (spot : Spot) (tree : FileTree) : WritesAt spot tree tree :=
  ⟨.refl spot tree, fun _ _ => .inr⟩

theorem WritesAt.after_building (grows : tree.Grows between) (noFile : tree.AddsNoFile between)
    (writes : WritesAt spot between after) : WritesAt spot tree after where
  toSpares := (grows.spares spot).trans writes.toSpares
  files place text here := (writes.files place text here).imp_right (noFile place text)

theorem writeFile_confined (current : Spot) (path : Path) (text : String) (tree : FileTree) :
    WritesAt (spotOf current path) tree ((writeFile current path text).run tree).2 := by
  rcases writeFile_cases current path text tree with ⟨cause, refused⟩ |
    ⟨above, name, parent, _, whole, named, follows, _, free, ran⟩
  · rw [refused]
    exact .refl _ tree
  · have isSpot := spotOf_leaf whole follows named
    rw [ran]
    rw [isSpot] at free ⊢
    refine ⟨Spares.put free, ?_⟩
    intro place other here
    by_cases root : place = []
    · subst root
      cases here
    · rw [find?_put root] at here
      split at here
      · next same => exact .inl same
      · exact .inr here

/-! Clearing -/

/-- What clearing a directory makes of a tree: it takes away what is below, or what is below and the
directory itself. Where the path leads to no directory, nothing changes. -/
inductive Clearing (current : Spot) (path : Path) (tree : FileTree) : FileTree → Prop where
  | kept (missing : ∀ spot, tree.locate current path = .ok spot →
      tree.find? spot ≠ some .directory) : Clearing current path tree tree
  | emptied {spot : Spot} {after : FileTree} (leads : tree.locate current path = .ok spot)
    (isDirectory : tree.find? spot = some .directory)
    (same : after = tree.clear spot ∨ after = (tree.clear spot).remove spot) :
    Clearing current path tree after

theorem locate_spot (leads : tree.locate current path = .ok found) :
    found = spotOf current path := by
  unfold locate at leads
  split at leads
  · cases leads
  · exact follow_walk leads

theorem removeEntry_tree (current : Spot) (path : Path) (spot : Spot) (tree : FileTree) :
    ((removeEntry current path spot).run tree).2 = tree ∨
      ((removeEntry current path spot).run tree).2 = tree.remove spot := by
  have get_run : (get : Change FileTree).run tree = (.ok tree, tree) := rfl
  rcases cut : cutLeaf (start current path).2 with ⟨above, leaf⟩
  unfold removeEntry
  simp only [Change.run_bind, get_run, cut]
  cases leaf with
  | name text => exact .inr rfl
  | root => exact .inl rfl
  | here => exact .inl rfl
  | up =>
    cases follows : tree.follow (start current path).1 above with
    | error cause => exact .inl rfl
    | ok parent =>
      dsimp only
      split
      · exact .inl rfl
      · exact .inl rfl

theorem removeDirectory_run (current : Spot) (path : Path) (tree : FileTree) :
    (removeDirectory current path).run tree = match tree.locate current path with
      | .error cause => (.error cause, tree)
      | .ok spot => match tree.enter spot with
        | .error cause => (.error cause, tree)
        | .ok _ => (removeEntry current path spot).run (tree.clear spot) := by
  unfold removeDirectory
  show (Change.ofExcept (tree.locate current path) >>= _ : Change Unit).run tree = _
  cases tree.locate current path with
  | error cause => rfl
  | ok spot =>
    show (Change.ofExcept (tree.enter spot) >>= _ : Change Unit).run tree = _
    cases enters : tree.enter spot with
    | error cause => simp only [enters]; rfl
    | ok done => simp only [enters]; rfl

theorem removeDirectory_clearing (current : Spot) (path : Path) (tree : FileTree) :
    Clearing current path tree ((removeDirectory current path).run tree).2 := by
  rw [removeDirectory_run]
  cases leads : tree.locate current path with
  | error cause => exact .kept (by simp [leads])
  | ok spot =>
    dsimp only
    cases enters : tree.enter spot with
    | error cause =>
      refine .kept fun other same isDirectory => ?_
      cases leads.symm.trans same
      cases enters.symm.trans (enter_ok.mpr isDirectory)
    | ok done => exact .emptied leads (enter_ok.mp enters) (removeEntry_tree current path spot _)

theorem removeIfPresent_clearing (current : Spot) (path : Path) (tree : FileTree) :
    Clearing current path tree ((removeIfPresent current path).run tree).2 := by
  have clearing := removeDirectory_clearing current path tree
  unfold removeIfPresent
  rw [Change.run_tryCatch]
  generalize (removeDirectory current path).run tree = result at clearing ⊢
  rcases result with ⟨cause | done, after⟩
  · dsimp only at clearing ⊢
    split
    · exact clearing
    · exact clearing
  · exact clearing

section Clearing
variable (clearing : Clearing current path tree after)
include clearing

theorem Clearing.outside (apart : ¬spotOf current path <+: spot) :
    after.find? spot = tree.find? spot := by
  cases clearing with
  | kept => rfl
  | emptied leads _ same =>
    cases locate_spot leads
    by_cases root : spot = []
    · subst root
      rfl
    · have notBelow : (spotOf current path).isPrefixOf spot = false := by
        cases below : (spotOf current path).isPrefixOf spot with
        | false => rfl
        | true => exact absurd (List.isPrefixOf_iff_prefix.mp below) apart
      rcases same with rfl | rfl
      · simp [find?_clear root, notBelow]
      · simp [find?_remove root, find?_clear root, notBelow]

theorem Clearing.left (below : spotOf current path <+: spot)
    (isFile : after.find? spot = some (.file text)) : after = tree ∧
      ∀ found, tree.locate current path = .ok found → tree.find? found ≠ some .directory := by
  cases clearing with
  | kept missing => exact ⟨rfl, missing⟩
  | emptied leads isDirectory same =>
    cases locate_spot leads
    have inside : spot ≠ [] := by
      rintro rfl
      cases isFile
    have isBelow := List.isPrefixOf_iff_prefix.mpr below
    rcases same with rfl | rfl
    · rw [find?_clear inside] at isFile
      split at isFile
      · cases isFile
      · next free =>
        have here : spot = spotOf current path := by simpa [isBelow] using free
        rw [here, isDirectory] at isFile
        cases isFile
    · simp [find?_remove inside, isBelow] at isFile

theorem Clearing.shows (shown : tree.Shows spot text)
    (apart : ∀ cleared, tree.locate current path = .ok cleared → cleared <+: spot →
      cleared = spot) : after.Shows spot text := by
  by_cases inside : spotOf current path <+: spot
  · cases clearing with
    | kept => exact shown
    | emptied leads isDirectory =>
      cases locate_spot leads
      rw [apart _ leads inside] at isDirectory
      cases shown.file.symm.trans isDirectory
  · have spared (place : Spot) (beginning : place <+: spot) :
        after.find? place = tree.find? place :=
      clearing.outside fun below => inside (below.trans beginning)
    refine ⟨(spared spot List.prefix_rfl).trans shown.file, ?_⟩
    intro before rest split filled
    rw [spared before ⟨rest, split.symm⟩]
    exact shown.above before rest split filled

theorem Clearing.gone (shown : tree.Shows spot text) {cleared : Spot}
    (leads : tree.locate current path = .ok cleared) (below : cleared <+: spot)
    (other : cleared ≠ spot) : after.find? spot = none := by
  obtain ⟨rest, split⟩ := below
  have filled : rest ≠ [] := by
    rintro rfl
    exact other (by simpa using split)
  have inside : spot ≠ [] := by
    rintro rfl
    cases shown.file
  have isBelow : cleared.isPrefixOf spot = true := List.isPrefixOf_iff_prefix.mpr ⟨rest, split⟩
  cases clearing with
  | kept missing => exact absurd (shown.above cleared rest split.symm filled) (missing _ leads)
  | emptied again _ same =>
    cases leads.symm.trans again
    rcases same with rfl | rfl
    · simp [find?_clear inside, isBelow, other.symm]
    · simp [find?_remove inside, isBelow]

end Clearing

end FileTree

/-! Steps and scripts -/

namespace Step
open FileTree
variable {current : Spot}

theorem refusing_tree (fault : FileCause → FileFault) (change : FileTree.Change Unit)
    (tree : FileTree) : (refusing fault change tree).2 = (change.run tree).2 := by
  unfold refusing
  rcases change.run tree with ⟨result, after⟩
  rfl

theorem act_clear (directory : Path) (tree : FileTree) :
    Clearing current directory tree ((Step.clear directory).act current tree).2 := by
  unfold act
  dsimp only
  rw [refusing_tree]
  exact removeIfPresent_clearing current directory tree

theorem act_write (path : Path) (text : String) (tree : FileTree) :
    WritesAt (spotOf current path) tree ((Step.write path text).act current tree).2 := by
  simp only [act, writeIn]
  cases parent : path.parent? with
  | none =>
    dsimp only
    rw [refusing_tree]
    exact writeFile_confined current path text tree
  | some directory =>
    have grows := leads_makeDirectories building_grows current directory tree
    have noFile := leads_makeDirectories building_addsNoFile current directory tree
    rw [← refusing_tree (FileFault.creating directory)] at grows noFile
    dsimp only
    generalize refusing (FileFault.creating directory) (makeDirectories current directory) tree =
      result at grows noFile ⊢
    rcases result with ⟨failure | done, between⟩
    · exact (WritesAt.refl _ _).after_building grows noFile
    · dsimp only at grows noFile ⊢
      rw [refusing_tree]
      exact (writeFile_confined current path text between).after_building grows noFile

end Step

namespace Script
variable {α : Type} {current : Spot} {ending : Except Failure α} {P : FileTree → Prop}
variable {step : Step} {steps : List Step} {tree : FileTree}

theorem runSteps_cons (first : P (step.act current tree).2)
    (later : ∀ between, P between → P (runSteps current ending steps between).2) :
    P (runSteps current ending (step :: steps) tree).2 := by
  unfold runSteps
  generalize step.act current tree = result at first ⊢
  rcases result with ⟨failure | done, between⟩
  · exact first
  · exact later between first

/-- What every step keeps is kept by a run, wherever it stops. -/
theorem runSteps_keeps (each : ∀ step ∈ steps, ∀ tree, P tree → P (step.act current tree).2)
    (start : P tree) : P (runSteps current ending steps tree).2 := by
  induction steps generalizing tree with
  | nil => exact start
  | cons step rest ih =>
    obtain ⟨own, others⟩ := List.forall_mem_cons.mp each
    exact runSteps_cons (own tree start) fun between here => ih others here

theorem runSteps_notices (notices : List Notice) :
    (runSteps current ending (notices.map .notify ++ steps) tree).2 =
      (runSteps current ending steps tree).2 := by
  induction notices with
  | nil => rfl
  | cons notice rest ih => exact ih

end Script

end Typewright
