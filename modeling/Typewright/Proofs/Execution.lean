import Typewright.Resolution

/-!
What following a walk does, said without a bound on nested expansions. `Runs` has a derivation
exactly where the recursion over references ends. A moment of a run is what is left of the
innermost walk, the session at that point and the chain of references under expansion.
-/
namespace Typewright

namespace Resolve
variable (s : Session)

@[simp] theorem run_pure (value : α) : (pure value : Resolve α).run s = (.ok value, s) := rfl

@[simp] theorem run_throw (failure : Failure) :
    (throw failure : Resolve α).run s = (.error failure, s) := rfl

@[simp] theorem run_get : (get : Resolve Session).run s = (.ok s, s) := rfl

@[simp] theorem run_modify (f : Session → Session) :
    (modify f : Resolve Unit).run s = (.ok (), f s) := rfl

@[simp] theorem run_ofExcept (result : Except Failure α) :
    (ofExcept result).run s = (result, s) := rfl

@[simp] theorem run_record (event : Event) :
    (record event).run s = (.ok (), { s with trace := event :: s.trace }) := rfl

theorem run_bind (action : Resolve α) (next : α → Resolve β) :
    (action >>= next).run s =
      match action.run s with
      | (.ok value, t) => (next value).run t
      | (.error failure, t) => (.error failure, t) := by
  show (ExceptT.bindCont next (action.run s).1 : StateM Session (Except Failure β))
    (action.run s).2 = _
  rcases action.run s with ⟨result, t⟩
  cases result <;> rfl

@[simp] theorem run_whileOpen (key name : String) (action : Resolve α) :
    (whileOpen key name action).run s =
      ((action.run { s with opened := (key, name) :: s.opened }).1,
        { (action.run { s with opened := (key, name) :: s.opened }).2 with
          opened := s.opened }) := rfl

end Resolve

namespace Session

def noted (session : Session) (event : Event) : Session :=
  { session with trace := event :: session.trace }

def opening (session : Session) (key name : String) : Session :=
  { session with opened := (key, name) :: session.opened }

def closing (session earlier : Session) : Session := { session with opened := earlier.opened }

def remembering (session : Session) (key : String) (expansion : Expansion) : Session :=
  { session with memo := session.memo.put key expansion }

/-- Neither remembered nor open: such a reference is expanded when it is asked for. -/
def IsNew (session : Session) (key : String) : Prop :=
  session.memo.find? key = none ∧ session.opened.lookup key = none

end Session

structure Call where
  scope : Document
  reference : String
  answer : Declaration

theorem Walk.bind_done (walk : Walk α) : walk >>= Walk.done = walk := by
  induction walk with
  | done value => rfl
  | failed failure => rfl
  | noting event rest ih => exact congrArg (Walk.noting event) ih
  | asking scope reference rest ih => exact congrArg (Walk.asking scope reference) (funext ih)
  | grouping scope reference rest ih => exact congrArg (Walk.grouping scope reference) (funext ih)

theorem Walk.bind_assoc (walk : Walk α) (f : α → Walk β) (g : β → Walk γ) :
    walk >>= f >>= g = walk >>= fun value => f value >>= g := by
  induction walk with
  | done value => rfl
  | failed failure => rfl
  | noting event rest ih => exact congrArg (Walk.noting event) ih
  | asking scope reference rest ih => exact congrArg (Walk.asking scope reference) (funext ih)
  | grouping scope reference rest ih => exact congrArg (Walk.grouping scope reference) (funext ih)

namespace Workspace

/-- The expansion of a new reference begins: its target is read, and `u` is the session then. -/
structure Enters (workspace : Workspace) (scope : Document) (reference : String) (s : Session)
    (target : Target) (schema : Schema) (u : Session) : Prop where
  isNew : s.IsNew (workspace.key scope reference)
  read : (workspace.readSchema scope reference).run s = (.ok (target, schema), u)

def inside (workspace : Workspace) (scope : Document) (reference : String) (target : Target)
    (u : Session) : Session :=
  u.opening (workspace.key scope reference) target.name

def outside (workspace : Workspace) (scope : Document) (reference : String) (target : Target)
    (declaration : Declaration) (u v : Session) : Session :=
  (v.closing u).remembering (workspace.key scope reference) ⟨target, declaration⟩

/-- Following the walk from `s` ends with the result `r` in `t`. -/
inductive Runs (workspace : Workspace) :
    {α : Type} → Walk α → Session → Except Failure α → Session → Prop where
  | done {α : Type} (value : α) (s : Session) : Runs workspace (.done value) s (.ok value) s
  | failed {α : Type} (failure : Failure) (s : Session) :
    Runs workspace (.failed failure : Walk α) s (.error failure) s
  | noting {α : Type} {event : Event} {rest : Walk α} {s t : Session} {r : Except Failure α}
    (later : Runs workspace rest (s.noted event) r t) :
    Runs workspace (.noting event rest) s r t
  | grouped {α : Type} {scope : Document} {reference : String} {rest : Target × TypeMap → Walk α}
    {s t u : Session} {r : Except Failure α} {group : Target × TypeMap}
    (read : (workspace.readGroup scope reference).run s = (.ok group, u))
    (later : Runs workspace (rest group) u r t) :
    Runs workspace (.grouping scope reference rest) s r t
  | ungrouped {α : Type} {scope : Document} {reference : String}
    {rest : Target × TypeMap → Walk α} {s t : Session} {failure : Failure}
    (read : (workspace.readGroup scope reference).run s = (.error failure, t)) :
    Runs workspace (.grouping scope reference rest) s (.error failure) t
  | remembered {α : Type} {scope : Document} {reference : String} {rest : Declaration → Walk α}
    {s t : Session} {r : Except Failure α} {expansion : Expansion}
    (known : s.memo.find? (workspace.key scope reference) = some expansion)
    (later : Runs workspace (rest expansion.declaration) s r t) :
    Runs workspace (.asking scope reference rest) s r t
  | pending {α : Type} {scope : Document} {reference : String} {rest : Declaration → Walk α}
    {s t : Session} {r : Except Failure α} {name : String}
    (unknown : s.memo.find? (workspace.key scope reference) = none)
    (isOpen : s.opened.lookup (workspace.key scope reference) = some name)
    (later : Runs workspace (rest ((Declaration.pending name).referring name)) s r t) :
    Runs workspace (.asking scope reference rest) s r t
  | unreadable {α : Type} {scope : Document} {reference : String} {rest : Declaration → Walk α}
    {s t : Session} {failure : Failure}
    (isNew : s.IsNew (workspace.key scope reference))
    (read : (workspace.readSchema scope reference).run s = (.error failure, t)) :
    Runs workspace (.asking scope reference rest) s (.error failure) t
  | broken {α : Type} {scope : Document} {reference : String} {rest : Declaration → Walk α}
    {s u v : Session} {target : Target} {schema : Schema} {failure : Failure}
    (enters : workspace.Enters scope reference s target schema u)
    (inner : Runs workspace (workspace.declare target.document target.name schema)
      (workspace.inside scope reference target u) (.error failure) v) :
    Runs workspace (.asking scope reference rest) s (.error failure) (v.closing u)
  | expanded {α : Type} {scope : Document} {reference : String} {rest : Declaration → Walk α}
    {s t u v : Session} {r : Except Failure α} {target : Target} {schema : Schema}
    {declared : Declaration}
    (enters : workspace.Enters scope reference s target schema u)
    (inner : Runs workspace (workspace.declare target.document target.name schema)
      (workspace.inside scope reference target u) (.ok declared) v)
    (later : Runs workspace (rest (target.finish schema declared))
      (workspace.outside scope reference target (target.finish schema declared) u v) r t) :
    Runs workspace (.asking scope reference rest) s r t

def Answers (workspace : Workspace) (scope : Document) (reference : String) (s : Session)
    (result : Except Failure Declaration) (t : Session) : Prop :=
  workspace.Runs (Walk.ask scope reference) s result t

variable {workspace : Workspace} {scope : Document} {reference : String} {s t u v : Session}

theorem runs_done {value : α} {r : Except Failure α} :
    workspace.Runs (.done value) s r t ↔ r = .ok value ∧ t = s := by
  constructor
  · intro run
    cases run
    exact ⟨rfl, rfl⟩
  · rintro ⟨rfl, rfl⟩
    exact .done value _

theorem runs_failed {failure : Failure} {r : Except Failure α} :
    workspace.Runs (.failed failure) s r t ↔ r = .error failure ∧ t = s := by
  constructor
  · intro run
    cases run
    exact ⟨rfl, rfl⟩
  · rintro ⟨rfl, rfl⟩
    exact .failed failure _

theorem runs_noting {event : Event} {rest : Walk α} {r : Except Failure α} :
    workspace.Runs (.noting event rest) s r t ↔ workspace.Runs rest (s.noted event) r t := by
  constructor
  · intro run
    cases run with
    | noting later => exact later
  · exact .noting

theorem runs_grouping {rest : Target × TypeMap → Walk α} {r : Except Failure α} :
    workspace.Runs (.grouping scope reference rest) s r t ↔
      (∃ group u, (workspace.readGroup scope reference).run s = (.ok group, u) ∧
        workspace.Runs (rest group) u r t) ∨
      ∃ failure, r = .error failure ∧
        (workspace.readGroup scope reference).run s = (.error failure, t) := by
  constructor
  · intro run
    cases run with
    | grouped read later => exact .inl ⟨_, _, read, later⟩
    | ungrouped read => exact .inr ⟨_, rfl, read⟩
  · rintro (⟨group, u, read, later⟩ | ⟨failure, rfl, read⟩)
    · exact .grouped read later
    · exact .ungrouped read

theorem runs_asking {rest : Declaration → Walk α} {r : Except Failure α} :
    workspace.Runs (.asking scope reference rest) s r t ↔
      (∃ answer u, workspace.Answers scope reference s (.ok answer) u ∧
        workspace.Runs (rest answer) u r t) ∨
      ∃ failure, r = .error failure ∧ workspace.Answers scope reference s (.error failure) t := by
  constructor
  · intro run
    cases run with
    | remembered known later => exact .inl ⟨_, _, .remembered known (.done _ _), later⟩
    | pending unknown isOpen later =>
      exact .inl ⟨_, _, .pending unknown isOpen (.done _ _), later⟩
    | unreadable isNew read => exact .inr ⟨_, rfl, .unreadable isNew read⟩
    | broken enters inner => exact .inr ⟨_, rfl, .broken enters inner⟩
    | expanded enters inner later =>
      exact .inl ⟨_, _, .expanded enters inner (.done _ _), later⟩
  · rintro (⟨answer, u, answers, later⟩ | ⟨failure, rfl, answers⟩)
    · unfold Answers Walk.ask at answers
      cases answers with
      | remembered known last =>
        obtain ⟨same, rfl⟩ := runs_done.mp last
        cases same
        exact .remembered known later
      | pending unknown isOpen last =>
        obtain ⟨same, rfl⟩ := runs_done.mp last
        cases same
        exact .pending unknown isOpen later
      | expanded enters inner last =>
        obtain ⟨same, rfl⟩ := runs_done.mp last
        cases same
        exact .expanded enters inner later
    · unfold Answers Walk.ask at answers
      cases answers with
      | remembered known last => exact absurd (runs_done.mp last).1 nofun
      | pending unknown isOpen last => exact absurd (runs_done.mp last).1 nofun
      | unreadable isNew read => exact .unreadable isNew read
      | broken enters inner => exact .broken enters inner
      | expanded enters inner last => exact absurd (runs_done.mp last).1 nofun

theorem runs_unique {walk : Walk α} {r q : Except Failure α} (run : workspace.Runs walk s r t)
    (other : workspace.Runs walk s q u) : r = q ∧ t = u := by
  induction run generalizing u with
  | done value s =>
    obtain ⟨rfl, rfl⟩ := runs_done.mp other
    exact ⟨rfl, rfl⟩
  | failed failure s =>
    obtain ⟨rfl, rfl⟩ := runs_failed.mp other
    exact ⟨rfl, rfl⟩
  | noting later ih => exact ih (runs_noting.mp other)
  | grouped read later ih =>
    rcases runs_grouping.mp other with ⟨group, v, again, last⟩ | ⟨failure, rfl, again⟩
    · cases read.symm.trans again
      exact ih last
    · cases read.symm.trans again
  | ungrouped read =>
    rcases runs_grouping.mp other with ⟨group, v, again, last⟩ | ⟨failure, rfl, again⟩
    · cases read.symm.trans again
    · cases read.symm.trans again
      exact ⟨rfl, rfl⟩
  | remembered known later ih =>
    cases other with
    | remembered again last =>
      cases known.symm.trans again
      exact ih last
    | pending unknown => cases known.symm.trans unknown
    | unreadable isNew => cases known.symm.trans isNew.1
    | broken enters => cases known.symm.trans enters.isNew.1
    | expanded enters => cases known.symm.trans enters.isNew.1
  | pending unknown isOpen later ih =>
    cases other with
    | remembered known => cases known.symm.trans unknown
    | pending _ again last =>
      cases isOpen.symm.trans again
      exact ih last
    | unreadable isNew => cases isOpen.symm.trans isNew.2
    | broken enters => cases isOpen.symm.trans enters.isNew.2
    | expanded enters => cases isOpen.symm.trans enters.isNew.2
  | unreadable isNew read =>
    cases other with
    | remembered known => cases known.symm.trans isNew.1
    | pending _ isOpen => cases isOpen.symm.trans isNew.2
    | unreadable _ again =>
      cases read.symm.trans again
      exact ⟨rfl, rfl⟩
    | broken enters => cases read.symm.trans enters.read
    | expanded enters => cases read.symm.trans enters.read
  | broken enters inner ih =>
    cases other with
    | remembered known => cases known.symm.trans enters.isNew.1
    | pending _ isOpen => cases isOpen.symm.trans enters.isNew.2
    | unreadable _ read => cases read.symm.trans enters.read
    | broken again last =>
      cases enters.read.symm.trans again.read
      obtain ⟨same, rfl⟩ := ih last
      cases same
      exact ⟨rfl, rfl⟩
    | expanded again last =>
      cases enters.read.symm.trans again.read
      cases (ih last).1
  | expanded enters inner later ih ihLater =>
    cases other with
    | remembered known => cases known.symm.trans enters.isNew.1
    | pending _ isOpen => cases isOpen.symm.trans enters.isNew.2
    | unreadable _ read => cases read.symm.trans enters.read
    | broken again last =>
      cases enters.read.symm.trans again.read
      cases (ih last).1
    | expanded again last after =>
      cases enters.read.symm.trans again.read
      obtain ⟨same, rfl⟩ := ih last
      cases same
      exact ihLater after

/-- A walk followed from `s` with these answers; `rest` is left of it in `t`. -/
inductive Follows (workspace : Workspace) {α : Type} :
    Walk α → Session → List Call → Walk α → Session → Prop where
  | here (walk : Walk α) (s : Session) : Follows workspace walk s [] walk s
  | noting {event : Event} {rest left : Walk α} {s t : Session} {calls : List Call}
    (later : Follows workspace rest (s.noted event) calls left t) :
    Follows workspace (.noting event rest) s calls left t
  | grouping {scope : Document} {reference : String} {rest : Target × TypeMap → Walk α}
    {left : Walk α} {s t u : Session} {calls : List Call} {group : Target × TypeMap}
    (read : (workspace.readGroup scope reference).run s = (.ok group, u))
    (later : Follows workspace (rest group) u calls left t) :
    Follows workspace (.grouping scope reference rest) s calls left t
  | asking {scope : Document} {reference : String} {rest : Declaration → Walk α}
    {left : Walk α} {s t u : Session} {calls : List Call} {answer : Declaration}
    (answers : workspace.Answers scope reference s (.ok answer) u)
    (later : Follows workspace (rest answer) u calls left t) :
    Follows workspace (.asking scope reference rest) s (⟨scope, reference, answer⟩ :: calls) left t

/-- What a run that starts with `start` in `s` passes through: the references under expansion, the
innermost first, what is left of the innermost walk, and the session. -/
inductive Moment (workspace : Workspace) {γ : Type} (start : Walk γ) (s : Session) :
    List (Document × String) → {α : Type} → Walk α → Session → Prop where
  | outer {calls : List Call} {left : Walk γ} {t : Session}
    (follows : workspace.Follows start s calls left t) :
    Moment workspace start s [] left t
  | inner {α : Type} {chain : List (Document × String)} {scope : Document} {reference : String}
    {rest : Declaration → Walk α} {t u v : Session} {target : Target} {schema : Schema}
    {calls : List Call} {left : Walk Declaration}
    (around : Moment workspace start s chain (.asking scope reference rest) t)
    (enters : workspace.Enters scope reference t target schema u)
    (follows : workspace.Follows (workspace.declare target.document target.name schema)
      (workspace.inside scope reference target u) calls left v) :
    Moment workspace start s ((scope, reference) :: chain) left v

theorem answers_ok {answer : Declaration} :
    workspace.Answers scope reference s (.ok answer) t ↔
      (∃ expansion, s.memo.find? (workspace.key scope reference) = some expansion ∧
        answer = expansion.declaration ∧ t = s) ∨
      (∃ name, s.memo.find? (workspace.key scope reference) = none ∧
        s.opened.lookup (workspace.key scope reference) = some name ∧
        answer = (Declaration.pending name).referring name ∧ t = s) ∨
      ∃ target schema declared u v, workspace.Enters scope reference s target schema u ∧
        workspace.Runs (workspace.declare target.document target.name schema)
          (workspace.inside scope reference target u) (.ok declared) v ∧
        answer = target.finish schema declared ∧
        t = workspace.outside scope reference target answer u v := by
  constructor
  · intro answers
    unfold Answers Walk.ask at answers
    cases answers with
    | remembered known last =>
      obtain ⟨same, rfl⟩ := runs_done.mp last
      cases same
      exact .inl ⟨_, known, rfl, rfl⟩
    | pending unknown isOpen last =>
      obtain ⟨same, rfl⟩ := runs_done.mp last
      cases same
      exact .inr (.inl ⟨_, unknown, isOpen, rfl, rfl⟩)
    | expanded enters inner last =>
      obtain ⟨same, rfl⟩ := runs_done.mp last
      cases same
      exact .inr (.inr ⟨_, _, _, _, _, enters, inner, rfl, rfl⟩)
  · rintro (⟨expansion, known, rfl, rfl⟩ | ⟨name, unknown, isOpen, rfl, rfl⟩ |
      ⟨target, schema, declared, u, v, enters, inner, rfl, rfl⟩)
    · exact .remembered known (.done _ _)
    · exact .pending unknown isOpen (.done _ _)
    · exact .expanded enters inner (.done _ _)

theorem follows_trans {walk middle left : Walk α} {first second : List Call}
    (before : workspace.Follows walk s first middle t)
    (after : workspace.Follows middle t second left u) :
    workspace.Follows walk s (first ++ second) left u := by
  induction before with
  | here walk s => exact after
  | noting later ih => exact .noting (ih after)
  | grouping read later ih => exact .grouping read (ih after)
  | asking answers later ih => exact .asking answers (ih after)

theorem follows_bind {walk left : Walk α} {next : α → Walk β} {calls : List Call}
    (follows : workspace.Follows walk s calls left t) :
    workspace.Follows (walk >>= next) s calls (left >>= next) t := by
  induction follows with
  | here walk s => exact .here _ s
  | noting later ih => exact .noting ih
  | grouping read later ih => exact .grouping read ih
  | asking answers later ih => exact .asking answers ih

theorem follows_bind_done {walk : Walk α} {next : α → Walk β} {calls : List Call} {result : β}
    (follows : workspace.Follows (walk >>= next) s calls (.done result) t) :
    ∃ value first second u, calls = first ++ second ∧
      workspace.Follows walk s first (.done value) u ∧
      workspace.Follows (next value) u second (.done result) t := by
  induction walk generalizing s calls with
  | done value => exact ⟨value, [], calls, s, rfl, .here _ s, follows⟩
  | failed failure => cases follows
  | noting event rest ih =>
    cases follows with
    | noting later =>
      obtain ⟨value, first, second, u, same, before, after⟩ := ih later
      exact ⟨value, first, second, u, same, .noting before, after⟩
  | asking scope reference rest ih =>
    cases follows with
    | asking answers later =>
      obtain ⟨value, first, second, u, rfl, before, after⟩ := ih _ later
      exact ⟨value, _ :: first, second, u, rfl, .asking answers before, after⟩
  | grouping scope reference rest ih =>
    cases follows with
    | grouping read later =>
      obtain ⟨value, first, second, u, same, before, after⟩ := ih _ later
      exact ⟨value, first, second, u, same, .grouping read before, after⟩

theorem follows_of_runs {walk : Walk α} {r : Except Failure α} {value : α}
    (run : workspace.Runs walk s r t) (isOk : r = .ok value) :
    ∃ calls, workspace.Follows walk s calls (.done value) t := by
  induction run with
  | done value s =>
    cases isOk
    exact ⟨[], .here _ s⟩
  | failed failure s => cases isOk
  | noting later ih =>
    obtain ⟨calls, follows⟩ := ih isOk
    exact ⟨calls, .noting follows⟩
  | grouped read later ih =>
    obtain ⟨calls, follows⟩ := ih isOk
    exact ⟨calls, .grouping read follows⟩
  | ungrouped read => cases isOk
  | remembered known later ih =>
    obtain ⟨calls, follows⟩ := ih isOk
    exact ⟨_ :: calls, .asking (.remembered known (.done _ _)) follows⟩
  | pending unknown isOpen later ih =>
    obtain ⟨calls, follows⟩ := ih isOk
    exact ⟨_ :: calls, .asking (.pending unknown isOpen (.done _ _)) follows⟩
  | unreadable isNew read => cases isOk
  | broken enters inner ih => cases isOk
  | expanded enters inner later ih ihLater =>
    obtain ⟨calls, follows⟩ := ihLater isOk
    exact ⟨_ :: calls, .asking (.expanded enters inner (.done _ _)) follows⟩

theorem moment_follows {start : Walk γ} {walk left : Walk α} {chain : List (Document × String)}
    {calls : List Call} (moment : workspace.Moment start s chain walk t)
    (follows : workspace.Follows walk t calls left u) :
    workspace.Moment start s chain left u := by
  cases moment with
  | outer before => exact .outer (follows_trans before follows)
  | inner around enters before => exact .inner around enters (follows_trans before follows)

end Workspace

end Typewright
