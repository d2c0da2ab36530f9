import Typewright.Proofs.UsedNames

/-!
Loading. A document is asked for only if it is neither the root nor loaded, and it is loaded then or
the run is over. So no path is asked for twice, however the references spell it.
-/
namespace Typewright

/-- The paths are normalised, the first one is that of the root, and no two of them are the same. -/
structure LoadsOnce (root : Path) (paths : List Path) : Prop where
  first : ∃ others, paths = root :: others
  apart : paths.Pairwise fun p q => p.same q = false
  normal : ∀ p ∈ paths, ∃ q : Path, p = q.normalize

namespace Session

theorem loads_of_trace {s t : Session} (same : t.trace = s.trace) : t.loads = s.loads := by
  rw [loads, same, loads]

@[simp] theorem loads_noted_load (s : Session) (path : Path) :
    (s.noted (.load path)).loads = s.loads ++ [path] := by
  simp [loads, noted]

@[simp] theorem loads_noted_render (s : Session) (kind : DeclarationKind) (name : String) :
    (s.noted (.render kind name)).loads = s.loads := by
  simp [loads, noted]

structure IsSettled (workspace : Workspace) (s : Session) : Prop where
  loads : s.loads = workspace.root.path :: s.documents.map Document.path
  once : LoadsOnce workspace.root.path s.loads

theorem settled_of_same {workspace : Workspace} {s t : Session} (settled : s.IsSettled workspace)
    (trace : t.trace = s.trace) (documents : t.documents = s.documents) :
    t.IsSettled workspace := by
  have loads := loads_of_trace trace
  constructor
  · rw [loads, documents]
    exact settled.loads
  · rw [loads]
    exact settled.once

end Session

theorem same_comm (p q : Path) : p.same q = q.same p := by
  simp only [Path.same]
  exact BEq.comm

theorem loadsOnce_append {root path : Path} {paths : List Path} (once : LoadsOnce root paths)
    (new : ∀ p ∈ paths, p.same path = false) (normal : ∃ q : Path, path = q.normalize) :
    LoadsOnce root (paths ++ [path]) := by
  obtain ⟨others, first⟩ := once.first
  refine ⟨⟨others ++ [path], by simp [first]⟩, ?_, ?_⟩
  · refine List.pairwise_append.mpr ⟨once.apart, List.pairwise_singleton _ _, ?_⟩
    intro p member q last
    rw [List.mem_singleton.mp last]
    exact new p member
  · intro p member
    rcases List.mem_append.mp member with old | last
    · exact once.normal p old
    · rw [List.mem_singleton.mp last]
      exact normal

namespace Resolve
variable {workspace : Workspace}

/-- From a settled session the action asks for no path twice, and where it ends well the session is
settled again. -/
def Settles (workspace : Workspace) (action : Resolve α) : Prop :=
  ∀ s r t, s.IsSettled workspace → action.run s = (r, t) →
    LoadsOnce workspace.root.path t.loads ∧ ∀ value, r = .ok value → t.IsSettled workspace

theorem settles_ofExcept (result : Except Failure α) : Settles workspace (ofExcept result) := by
  intro s r t settled run
  cases run
  exact ⟨settled.once, fun _ _ => settled⟩

theorem settles_bind {action : Resolve α} {next : α → Resolve β}
    (first : Settles workspace action) (second : ∀ value, Settles workspace (next value)) :
    Settles workspace (action >>= next) := by
  intro s r t settled run
  rw [run_bind] at run
  rcases done : action.run s with ⟨failure | value, u⟩
  · rw [done] at run
    cases run
    exact ⟨(first s _ _ settled done).1, nofun⟩
  · rw [done] at run
    have between := (first s _ _ settled done).2 value rfl
    exact second value u r t between run

theorem settles_partwise (workspace : Workspace) : Partwise (Settles workspace) :=
  ⟨settles_ofExcept, settles_bind⟩

end Resolve

namespace Workspace
open Resolve
variable {workspace : Workspace} {scope : Document} {reference : String} {s t : Session}

theorem settles_document (path : Path) : Settles workspace (workspace.document path.normalize) := by
  intro s r t settled run
  unfold document at run
  by_cases atRoot : path.normalize.same workspace.root.path
  · simp only [atRoot, ↓reduceIte, run_pure] at run
    cases run
    exact ⟨settled.once, fun _ _ => settled⟩
  · simp only [atRoot, Bool.false_eq_true, ↓reduceIte, run_bind, run_get] at run
    cases known : s.documents.find? fun document => document.path.same path.normalize with
    | some document =>
      simp only [known, run_pure] at run
      cases run
      exact ⟨settled.once, fun _ _ => settled⟩
    | none =>
      have new : ∀ p ∈ s.loads, p.same path.normalize = false := by
        intro p member
        rw [settled.loads] at member
        rcases List.mem_cons.mp member with rfl | loaded
        · rw [same_comm]
          simpa using atRoot
        · obtain ⟨document, inside, rfl⟩ := List.mem_map.mp loaded
          simpa using List.find?_eq_none.mp known document inside
      have once := loadsOnce_append settled.once new ⟨path, rfl⟩
      rw [← Session.loads_noted_load] at once
      simp only [known, run_bind, run_record, run_ofExcept] at run
      cases loaded : workspace.library.load path.normalize with
      | error failure =>
        rw [loaded] at run
        cases run
        exact ⟨once, nofun⟩
      | ok body =>
        rw [loaded] at run
        cases run
        refine ⟨once, fun _ _ => ⟨?_, once⟩⟩
        show (s.noted (.load path.normalize)).loads = _
        simp [settled.loads]

theorem settles_readSchema : Settles workspace (workspace.readSchema scope reference) :=
  (settles_partwise workspace).readSchema settles_document

theorem settles_readGroup : Settles workspace (workspace.readGroup scope reference) :=
  (settles_partwise workspace).readGroup settles_document

end Workspace

/-! Walks load nothing themselves -/

def Walk.OnlyRenders : Walk α → Prop
  | .done _ => True
  | .failed _ => True
  | .noting event rest => (∃ kind name, event = .render kind name) ∧ rest.OnlyRenders
  | .asking _ _ rest => ∀ answer, (rest answer).OnlyRenders
  | .grouping _ _ rest => ∀ group, (rest group).OnlyRenders

namespace Workspace
variable {workspace : Workspace} {scope : Document} {s t : Session}

theorem onlyRenders_bind {walk : Walk α} {next : α → Walk β} (first : walk.OnlyRenders)
    (later : ∀ value, (next value).OnlyRenders) : (walk >>= next).OnlyRenders := by
  induction walk with
  | done value => exact later value
  | failed failure => trivial
  | noting event rest ih => exact ⟨first.1, ih first.2⟩
  | asking scope reference rest ih => exact fun answer => ih answer (first answer)
  | grouping scope reference rest ih => exact fun group => ih group (first group)

theorem onlyRenders_ofExcept (result : Except Failure α) : (Walk.ofExcept result).OnlyRenders := by
  cases result <;> trivial

theorem onlyRenders_render (kind : DeclarationKind) (name : String)
    (text : Except Failure String) : (render kind name text).OnlyRenders :=
  ⟨⟨kind, name, rfl⟩, onlyRenders_ofExcept text⟩

theorem onlyRenders_partwise : Walk.Partwise Walk.OnlyRenders :=
  ⟨onlyRenders_ofExcept, onlyRenders_render, onlyRenders_bind⟩

theorem declare_onlyRenders (name : String) (schema : Schema) :
    (workspace.declare scope name schema).OnlyRenders :=
  onlyRenders_partwise.declareUnder fun _ _ _ => trivial

theorem declareEntries_onlyRenders {entries : List (String × Yaml.Value)}
    {declared : Declarations} :
    (workspace.declareEntries scope entries declared).OnlyRenders :=
  onlyRenders_partwise.declareEntries fun _ _ _ _ _ => trivial

theorem listGroup_onlyRenders (group : Group) : (workspace.listGroup group).OnlyRenders := by
  cases group with
  | types types => exact declareEntries_onlyRenders
  | reference reference => exact fun _ => declareEntries_onlyRenders

theorem listGroups_onlyRenders {groups : List (String × Group)} {declared : Table Declarations} :
    (workspace.listGroups groups declared).OnlyRenders := by
  induction groups generalizing declared with
  | nil => trivial
  | cons entry rest ih => exact onlyRenders_bind (listGroup_onlyRenders entry.2) fun _ => ih

theorem listAll_onlyRenders (spec : Spec) : (workspace.listAll spec).OnlyRenders := by
  refine onlyRenders_bind ?_ fun _ => onlyRenders_bind ?_ fun _ => trivial
  · cases spec.types with
    | none => trivial
    | some types => exact declareEntries_onlyRenders
  · cases spec.groups with
    | none => trivial
    | some groups => exact listGroups_onlyRenders

theorem runs_settled {walk : Walk α} {r : Except Failure α} (run : workspace.Runs walk s r t)
    (renders : walk.OnlyRenders) (settled : s.IsSettled workspace) :
    LoadsOnce workspace.root.path t.loads ∧ ∀ value, r = .ok value → t.IsSettled workspace := by
  induction run with
  | done value s => exact ⟨settled.once, fun _ _ => settled⟩
  | failed failure s => exact ⟨settled.once, fun _ _ => settled⟩
  | @noting _ event _ s _ _ later ih =>
    obtain ⟨⟨kind, name, rfl⟩, rest⟩ := renders
    have loads := Session.loads_noted_render s kind name
    apply ih rest
    constructor
    · rw [loads]
      exact settled.loads
    · rw [loads]
      exact settled.once
  | grouped read later ih =>
    exact ih (renders _) ((settles_readGroup _ _ _ settled read).2 _ rfl)
  | ungrouped read => exact ⟨(settles_readGroup _ _ _ settled read).1, nofun⟩
  | remembered known later ih => exact ih (renders _) settled
  | pending unknown isOpen later ih => exact ih (renders _) settled
  | unreadable isNew read => exact ⟨(settles_readSchema _ _ _ settled read).1, nofun⟩
  | broken enters inner ih =>
    have reading := (settles_readSchema _ _ _ settled enters.read).2 _ rfl
    have inside := ih (declare_onlyRenders _ _) (Session.settled_of_same reading rfl rfl)
    exact ⟨inside.1, nofun⟩
  | expanded enters inner later ih ihLater =>
    have reading := (settles_readSchema _ _ _ settled enters.read).2 _ rfl
    have inside := ih (declare_onlyRenders _ _) (Session.settled_of_same reading rfl rfl)
    exact ihLater (renders _) (Session.settled_of_same (inside.2 _ rfl) rfl rfl)

end Workspace

/-- In a run over a document no path is asked for twice, and the document itself is asked for
first. -/
theorem declareDocument_loadsOnce (library : Library) (tokens : TokenTable) (renderer : Renderer)
    (directory input : Path) :
    LoadsOnce (rootPath directory input)
      ((declareDocument library tokens renderer (rootPath directory input)).run {}).2.loads := by
  have root : LoadsOnce (rootPath directory input) [rootPath directory input] :=
    ⟨⟨[], rfl⟩, List.pairwise_singleton _ _, by simp [rootPath]⟩
  generalize rootPath directory input = path at root ⊢
  simp only [declareDocument, Start.load, Resolve.run_bind, Resolve.run_record,
    Resolve.run_ofExcept]
  cases loaded : library.load path with
  | error failure => exact root
  | ok body =>
  cases decoded : Spec.decode body with
  | error failure =>
    simp only [decoded]
    exact root
  | ok spec =>
    let workspace : Workspace := ⟨⟨path, body⟩, library, tokens, renderer⟩
    have empty : ({ trace := [.load path] } : Session).IsLoaded workspace := by
      simp [Session.IsLoaded]
    have settled : ({ trace := [.load path] } : Session).IsSettled workspace := ⟨rfl, root⟩
    obtain ⟨r, t, run, same⟩ := Workspace.declareAll_runs spec empty
    have once := (Workspace.runs_settled run (Workspace.listAll_onlyRenders spec) settled).1
    simp only [decoded, Resolve.run_pure, same, workspace] at once ⊢
    cases r <;> exact once

end Typewright
