import Typewright.Proofs.NodeReferences
import Typewright.Proofs.Termination

/-!
What sessions remember. A property of expansions that every new expansion has, given the answers
that it is made from, holds of all that is remembered at every moment of a history of requests.
-/
namespace Typewright

namespace Session

def Remembers (s : Session) (property : String → Expansion → Prop) : Prop :=
  ∀ key expansion, s.memo.find? key = some expansion → property key expansion

end Session

/-- The answer is a remembered one with the property, or it stands for an open reference. -/
def Call.Answered (workspace : Workspace) (property : String → Expansion → Prop)
    (opened : List (String × String)) (call : Call) : Prop :=
  (∃ expansion, property (workspace.key call.scope call.reference) expansion ∧
    call.answer = expansion.declaration) ∨
  ∃ name, opened.lookup (workspace.key call.scope call.reference) = some name ∧
    call.answer = (Declaration.pending name).referring name

namespace Workspace
variable {workspace : Workspace} {scope : Document} {reference : String} {s t u : Session}

theorem asks_anything (walk : Walk α) : workspace.Asks (fun _ _ => True) walk := by
  induction walk with
  | done value => trivial
  | failed failure => trivial
  | noting event rest ih => exact ih
  | asking scope reference rest ih => exact ⟨trivial, ih⟩
  | grouping scope reference rest ih => exact fun group _ => ih group

theorem follows_loaded {walk left : Walk α} {calls : List Call}
    (follows : workspace.Follows walk s calls left t) (loaded : s.IsLoaded workspace) :
    t.IsLoaded workspace := (follows_keeps follows loaded (asks_anything walk)).1

theorem moment_loaded {start : Walk γ} {walk : Walk α} {chain : List (Document × String)}
    (moment : workspace.Moment start s chain walk t) (loaded : s.IsLoaded workspace) :
    t.IsLoaded workspace := by
  induction moment with
  | outer follows => exact follows_loaded follows loaded
  | inner around enters follows ih =>
    exact follows_loaded follows (readSchema_reads ih enters.read).2.loaded

/-- Every expansion made in a run from `s` has the property, given that the answers in it have. -/
def Passes (workspace : Workspace) (start : Walk γ) (s : Session)
    (property : String → Expansion → Prop) : Prop :=
  ∀ {α : Type} (chain : List (Document × String)) (scope : Document) (reference : String)
    (rest : Declaration → Walk α) (t u v : Session) (target : Target) (schema : Schema)
    (calls : List Call) (declared : Declaration),
    workspace.Moment start s chain (.asking scope reference rest) t →
    workspace.Enters scope reference t target schema u →
    workspace.Follows (workspace.declare target.document target.name schema)
      (workspace.inside scope reference target u) calls (.done declared) v →
    (∀ call ∈ calls, call.Answered workspace property
      (workspace.inside scope reference target u).opened) →
    property (workspace.key scope reference) ⟨target, target.finish schema declared⟩

section Remembers
variable {property : String → Expansion → Prop} {start : Walk γ} {origin : Session}

theorem remembers_of_memo (known : s.Remembers property) (same : t.memo = s.memo) :
    t.Remembers property := by
  rw [Session.Remembers, same]
  exact known

theorem outside_remembers {target : Target} {declaration : Declaration}
    (known : t.Remembers property)
    (new : property (workspace.key scope reference) ⟨target, declaration⟩) :
    (workspace.outside scope reference target declaration u t).Remembers property := by
  intro key expansion found
  have found : (t.memo.put (workspace.key scope reference) ⟨target, declaration⟩).find? key =
      some expansion := found
  rw [Table.find?_put] at found
  split at found
  · next same =>
    cases found
    exact same ▸ new
  · exact known key expansion found

theorem runs_remembers (passes : workspace.Passes start origin property) {walk : Walk α}
    {r : Except Failure α} (run : workspace.Runs walk s r t) (loaded : s.IsLoaded workspace)
    {chain : List (Document × String)} (moment : workspace.Moment start origin chain walk s)
    (known : s.Remembers property) :
    t.Remembers property ∧ ∀ value, r = .ok value →
      ∃ calls, workspace.Follows walk s calls (.done value) t ∧
        ∀ call ∈ calls, call.Answered workspace property s.opened := by
  induction run generalizing chain with
  | done value s =>
    refine ⟨known, fun other same => ?_⟩
    cases same
    exact ⟨[], .here _ s, by simp⟩
  | failed failure s => exact ⟨known, nofun⟩
  | noting later ih =>
    obtain ⟨kept, answers⟩ := ih loaded (moment_follows moment (.noting (.here _ _))) known
    refine ⟨kept, fun value same => ?_⟩
    obtain ⟨calls, follows, good⟩ := answers value same
    exact ⟨calls, .noting follows, good⟩
  | grouped read later ih =>
    obtain ⟨_, reads⟩ := readGroup_reads loaded read
    obtain ⟨kept, answers⟩ := ih reads.loaded (moment_follows moment (.grouping read (.here _ _)))
      (remembers_of_memo known reads.memo)
    refine ⟨kept, fun value same => ?_⟩
    obtain ⟨calls, follows, good⟩ := answers value same
    exact ⟨calls, .grouping read follows, reads.opened ▸ good⟩
  | ungrouped read =>
    obtain ⟨_, reads⟩ := readGroup_reads loaded read
    exact ⟨remembers_of_memo known reads.memo, nofun⟩
  | remembered found later ih =>
    have answers := Runs.remembered found (.done _ _)
    obtain ⟨kept, rest⟩ := ih loaded (moment_follows moment (.asking answers (.here _ _))) known
    refine ⟨kept, fun value same => ?_⟩
    obtain ⟨calls, follows, good⟩ := rest value same
    exact ⟨_ :: calls, .asking answers follows,
      List.forall_mem_cons.mpr ⟨.inl ⟨_, known _ _ found, rfl⟩, good⟩⟩
  | pending unknown isOpen later ih =>
    have answers := Runs.pending unknown isOpen (.done _ _)
    obtain ⟨kept, rest⟩ := ih loaded (moment_follows moment (.asking answers (.here _ _))) known
    refine ⟨kept, fun value same => ?_⟩
    obtain ⟨calls, follows, good⟩ := rest value same
    exact ⟨_ :: calls, .asking answers follows,
      List.forall_mem_cons.mpr ⟨.inr ⟨_, isOpen, rfl⟩, good⟩⟩
  | unreadable isNew read =>
    obtain ⟨_, reads⟩ := readSchema_reads loaded read
    exact ⟨remembers_of_memo known reads.memo, nofun⟩
  | broken enters inner ih =>
    obtain ⟨_, reads⟩ := readSchema_reads loaded enters.read
    obtain ⟨kept, _⟩ := ih reads.loaded (.inner moment enters (.here _ _))
      (remembers_of_memo known reads.memo)
    exact ⟨kept, nofun⟩
  | expanded enters inner later ih ihLater =>
    obtain ⟨_, reads⟩ := readSchema_reads loaded enters.read
    obtain ⟨inside, answered⟩ := ih reads.loaded (.inner moment enters (.here _ _))
      (remembers_of_memo known reads.memo)
    obtain ⟨made, follows, good⟩ := answered _ rfl
    have new := passes _ _ _ _ _ _ _ _ _ _ _ moment enters follows good
    have answers := Runs.expanded enters inner (.done _ _)
    obtain ⟨kept, rest⟩ := ihLater (runs_keeps inner reads.loaded).1
      (moment_follows moment (.asking answers (.here _ _))) (outside_remembers inside new)
    refine ⟨kept, fun value same => ?_⟩
    obtain ⟨calls, follows, good⟩ := rest value same
    exact ⟨_ :: calls, .asking answers follows,
      List.forall_mem_cons.mpr ⟨.inl ⟨_, new, rfl⟩, reads.opened ▸ good⟩⟩

theorem answers_remembers (passes : workspace.Passes start origin property)
    {rest : Declaration → Walk α} {answer : Declaration}
    (answers : workspace.Answers scope reference s (.ok answer) t) (loaded : s.IsLoaded workspace)
    {chain : List (Document × String)}
    (moment : workspace.Moment start origin chain (.asking scope reference rest) s)
    (known : s.Remembers property) : t.Remembers property ∧
      Call.Answered workspace property s.opened ⟨scope, reference, answer⟩ := by
  rcases answers_ok.mp answers with ⟨expansion, found, rfl, rfl⟩ | ⟨name, _, isOpen, rfl, rfl⟩ |
    ⟨target, schema, declared, u, v, enters, inner, rfl, rfl⟩
  · exact ⟨known, .inl ⟨expansion, known _ _ found, rfl⟩⟩
  · exact ⟨known, .inr ⟨name, isOpen, rfl⟩⟩
  · obtain ⟨_, reads⟩ := readSchema_reads loaded enters.read
    obtain ⟨inside, answered⟩ := runs_remembers passes inner reads.loaded
      (.inner moment enters (.here _ _))
      (remembers_of_memo known reads.memo)
    obtain ⟨made, follows, good⟩ := answered _ rfl
    have new := passes _ _ _ _ _ _ _ _ _ _ _ moment enters follows good
    exact ⟨outside_remembers inside new, .inl ⟨_, new, rfl⟩⟩

theorem follows_remembers (passes : workspace.Passes start origin property) {walk left : Walk α}
    {calls : List Call} (follows : workspace.Follows walk s calls left t)
    (loaded : s.IsLoaded workspace) {chain : List (Document × String)}
    (moment : workspace.Moment start origin chain walk s) (known : s.Remembers property) :
    t.Remembers property ∧ ∀ call ∈ calls, call.Answered workspace property s.opened := by
  induction follows with
  | here walk s => exact ⟨known, by simp⟩
  | noting later ih => exact ih loaded (moment_follows moment (.noting (.here _ _))) known
  | grouping read later ih =>
    obtain ⟨_, reads⟩ := readGroup_reads loaded read
    rw [← reads.opened]
    exact ih reads.loaded (moment_follows moment (.grouping read (.here _ _)))
      (remembers_of_memo known reads.memo)
  | asking answers later ih =>
    obtain ⟨kept, good⟩ := answers_remembers passes answers loaded moment known
    obtain ⟨after, same⟩ := answers_keeps loaded answers
    obtain ⟨last, others⟩ := ih after (moment_follows moment (.asking answers (.here _ _))) kept
    exact ⟨last, List.forall_mem_cons.mpr ⟨good, same ▸ others⟩⟩

theorem moment_remembers (passes : workspace.Passes start origin property) {walk : Walk α}
    {chain : List (Document × String)} (moment : workspace.Moment start origin chain walk t)
    (loaded : origin.IsLoaded workspace) (known : origin.Remembers property) :
    t.Remembers property := by
  induction moment with
  | outer follows =>
    exact (follows_remembers passes follows loaded (.outer (.here _ _)) known).1
  | inner around enters follows ih =>
    obtain ⟨_, reads⟩ := readSchema_reads (moment_loaded around loaded) enters.read
    exact (follows_remembers passes follows reads.loaded (.inner around enters (.here _ _))
      (remembers_of_memo ih reads.memo)).1

end Remembers

theorem old_of_same {key : String} (memo : t.memo.find? key = s.memo.find? key)
    (opened : t.opened = s.opened) (old : ¬s.IsNew key) : ¬t.IsNew key := by
  rwa [Session.IsNew, memo, opened]

theorem old_inside {key : String} {target : Target} (old : ¬u.IsNew key) :
    ¬(workspace.inside scope reference target u).IsNew key := by
  rintro ⟨unknown, closed⟩
  have absent := not_open.mp closed
  exact old ⟨unknown, not_open.mpr fun member => absent (List.mem_cons_of_mem _ member)⟩

theorem outside_find {key : String} {target : Target} {declaration : Declaration}
    (other : key ≠ workspace.key scope reference) :
    (workspace.outside scope reference target declaration u t).memo.find? key =
      t.memo.find? key := by
  show (t.memo.put _ _).find? key = _
  rw [Table.find?_put, if_neg other]

theorem outside_find_own {target : Target} {declaration : Declaration} :
    (workspace.outside scope reference target declaration u t).memo.find?
      (workspace.key scope reference) = some ⟨target, declaration⟩ := by
  show (t.memo.put _ _).find? _ = _
  rw [Table.find?_put, if_pos rfl]

theorem runs_old {walk : Walk α} {r : Except Failure α} (run : workspace.Runs walk s r t)
    (loaded : s.IsLoaded workspace) {key : String} (old : ¬s.IsNew key) :
    t.memo.find? key = s.memo.find? key := by
  induction run with
  | done value s => rfl
  | failed failure s => rfl
  | noting later ih => exact ih loaded old
  | grouped read later ih =>
    obtain ⟨_, reads⟩ := readGroup_reads loaded read
    have still := old_of_same (by rw [reads.memo]) reads.opened old
    rw [ih reads.loaded still, reads.memo]
  | ungrouped read => rw [(readGroup_reads loaded read).2.memo]
  | remembered known later ih => exact ih loaded old
  | pending unknown isOpen later ih => exact ih loaded old
  | unreadable isNew read => rw [(readSchema_reads loaded read).2.memo]
  | broken enters inner ih =>
    obtain ⟨_, reads⟩ := readSchema_reads loaded enters.read
    have still := old_of_same (by rw [reads.memo]) reads.opened old
    exact (ih reads.loaded (old_inside still)).trans (by rw [inside, Session.opening, reads.memo])
  | @expanded _ scope reference _ s _ u v _ target schema declared enters inner later ih ihLater =>
    obtain ⟨_, reads⟩ := readSchema_reads loaded enters.read
    have still := old_of_same (by rw [reads.memo]) reads.opened old
    have kept : v.memo.find? key = s.memo.find? key :=
      (ih reads.loaded (old_inside still)).trans (by rw [inside, Session.opening, reads.memo])
    have other : key ≠ workspace.key scope reference := by
      rintro rfl
      exact old enters.isNew
    have after : (workspace.outside scope reference target (target.finish schema declared) u
        v).memo.find? key = s.memo.find? key := (outside_find other).trans kept
    have later := ihLater (runs_keeps inner reads.loaded).1 (old_of_same after reads.opened old)
    exact later.trans after

/-! Histories of requests -/

def Request.Begins (workspace : Workspace) (s : Session) (walk : Walk β) (t : Session) :
    Request → Prop
  | types scope map =>
    ∃ (α : Type) (chain : List (Document × String)) (next : β → Walk α),
      workspace.Moment (workspace.listTypes scope map) s chain (walk >>= next) t
  | all spec =>
    ∃ (α : Type) (chain : List (Document × String)) (next : β → Walk α),
      workspace.Moment (workspace.listAll spec) s chain (walk >>= next) t

/-- A history of requests comes to `t` with `walk` to be followed next. -/
def Begins (workspace : Workspace) (trace : List Event) (requests : List Request)
    (walk : Walk β) (t : Session) : Prop :=
  ∃ earlier request later, requests = earlier ++ request :: later ∧
    request.Begins workspace (workspace.after trace earlier) walk t

/-- A session that a history of requests passes through. -/
def Visits (workspace : Workspace) (trace : List Event) (requests : List Request)
    (t : Session) : Prop :=
  ∃ (β : Type) (walk : Walk β), workspace.Begins trace requests walk t

def PassesAlways (workspace : Workspace) (trace : List Event) (requests : List Request)
    (property : String → Expansion → Prop) : Prop :=
  ∀ earlier request later, requests = earlier ++ request :: later →
    match request with
    | .types scope types =>
      workspace.Passes (workspace.listTypes scope types) (workspace.after trace earlier) property
    | .all spec =>
      workspace.Passes (workspace.listAll spec) (workspace.after trace earlier) property

theorem Request.begins_iff {request : Request} {walk : Walk β} :
    request.Begins workspace s walk t ↔
      ∃ (α : Type) (chain : List (Document × String)) (next : β → Walk α),
        workspace.Moment (request.walk workspace) s chain (walk >>= next) t := by
  cases request <;> exact Iff.rfl

section Visits
variable {property : String → Expansion → Prop} {trace : List Event} {requests : List Request}

theorem begins_within {earlier later : List Request} {request : Request} {walk : Walk β}
    {chain : List (Document × String)} {next : β → Walk α}
    (moment : workspace.Moment (request.walk workspace) (workspace.after trace earlier) chain
      (walk >>= next) t) : workspace.Begins trace (earlier ++ request :: later) walk t :=
  ⟨earlier, request, later, rfl, Request.begins_iff.mpr ⟨α, chain, next, moment⟩⟩

theorem begins_of_moment {earlier later : List Request} {request : Request} {walk : Walk β}
    {chain : List (Document × String)}
    (moment : workspace.Moment (request.walk workspace) (workspace.after trace earlier) chain
      walk t) : workspace.Begins trace (earlier ++ request :: later) walk t := by
  rw [← Walk.bind_done walk] at moment
  exact begins_within moment

theorem begins_walk (trace : List Event) (earlier : List Request) (request : Request)
    (later : List Request) :
    workspace.Begins trace (earlier ++ request :: later) (request.walk workspace)
      (workspace.after trace earlier) := begins_of_moment (.outer (.here _ _))

theorem passesAlways_iff : workspace.PassesAlways trace requests property ↔
    ∀ earlier request later, requests = earlier ++ request :: later →
      workspace.Passes (request.walk workspace) (workspace.after trace earlier) property := by
  refine forall_congr' fun earlier => forall_congr' fun request => ?_
  cases request <;> exact Iff.rfl

theorem passes_at (passes : workspace.PassesAlways trace requests property)
    {earlier later : List Request} {request : Request}
    (split : requests = earlier ++ request :: later) :
    workspace.Passes (request.walk workspace) (workspace.after trace earlier) property :=
  passesAlways_iff.mp passes earlier request later split

theorem after_append (earlier : List Request) (request : Request) :
    workspace.after trace (earlier ++ [request]) =
      request.after workspace (workspace.after trace earlier) := by
  simp [after]

theorem after_remembers (passes : workspace.PassesAlways trace requests property)
    (earlier later : List Request) (split : requests = earlier ++ later) :
    (workspace.after trace earlier).Remembers property := by
  induction earlier using List.reverseRecOn generalizing later with
  | nil => exact fun key expansion found => nomatch found
  | append_singleton earlier request ih =>
    have split : requests = earlier ++ request :: later := by simpa using split
    have known := ih (request :: later) split
    obtain ⟨loaded, _⟩ := workspace.after_keeps trace earlier
    obtain ⟨r, run⟩ := request.runs loaded
    rw [after_append]
    exact (runs_remembers (passes_at passes split) run loaded (.outer (.here _ _)) known).1

theorem visits_loaded (visits : workspace.Visits trace requests t) : t.IsLoaded workspace := by
  obtain ⟨_, _, earlier, request, later, _, begins⟩ := visits
  obtain ⟨_, _, _, moment⟩ := Request.begins_iff.mp begins
  exact moment_loaded moment (workspace.after_keeps trace earlier).1

theorem visits_remembers (passes : workspace.PassesAlways trace requests property)
    (visits : workspace.Visits trace requests t) : t.Remembers property := by
  obtain ⟨_, _, earlier, request, later, split, begins⟩ := visits
  have known := after_remembers passes earlier _ split
  obtain ⟨_, _, _, moment⟩ := Request.begins_iff.mp begins
  exact moment_remembers (passes_at passes split) moment (workspace.after_keeps trace earlier).1
    known

end Visits

end Workspace

end Typewright
