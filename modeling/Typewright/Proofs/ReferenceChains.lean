import Typewright.Proofs.Binding
import Typewright.Proofs.Unfolding

/-!
Chains of references to references, and what is written for them. Where a run succeeds, each of its
moments is followed by an end of the walk at hand, so that whatever is open at a moment is
remembered later. A reference that leads through others to a type is answered with the name of that
type, unless one of those on the way leads back to itself.
-/
namespace Typewright

namespace Workspace
variable {workspace : Workspace} {scope : Document} {reference : String} {s t u v : Session}

/-! Moments of runs that succeed -/

theorem runs_of_follows {walk left : Walk α} {calls : List Call}
    (follows : workspace.Follows walk s calls left t) {r : Except Failure α}
    (run : workspace.Runs left t r u) : workspace.Runs walk s r u := by
  induction follows with
  | here walk s => exact run
  | noting later ih => exact .noting (ih run)
  | grouping read later ih => exact .grouped read (ih run)
  | asking answers later ih => exact runs_asking.mpr (.inl ⟨_, _, answers, ih run⟩)

theorem runs_left {walk left : Walk α} {calls : List Call}
    (follows : workspace.Follows walk s calls left t) {r : Except Failure α}
    (run : workspace.Runs walk s r u) : workspace.Runs left t r u := by
  induction follows with
  | here walk s => exact run
  | noting later ih => exact ih (runs_noting.mp run)
  | grouping read later ih =>
    rcases runs_grouping.mp run with ⟨group, v, again, last⟩ | ⟨failure, rfl, again⟩
    · cases read.symm.trans again
      exact ih last
    · cases read.symm.trans again
  | asking answers later ih =>
    rcases runs_asking.mp run with ⟨answer, v, again, last⟩ | ⟨failure, rfl, again⟩
    · obtain ⟨same, rfl⟩ := runs_unique answers again
      cases same
      exact ih last
    · cases (runs_unique answers again).1

def Keeps (s t : Session) : Prop :=
  ∀ key expansion, s.memo.find? key = some expansion → t.memo.find? key = some expansion

theorem keeps_has {key : String} (keeps : Keeps s t) (has : s.Has key) : t.Has key := by
  obtain ⟨expansion, found⟩ := has
  exact ⟨expansion, keeps key expansion found⟩

theorem keeps_trans (first : Keeps s t) (second : Keeps t u) : Keeps s u :=
  fun key expansion found => second key expansion (first key expansion found)

theorem keeps_runs {walk : Walk α} {r : Except Failure α} (run : workspace.Runs walk s r t)
    (loaded : s.IsLoaded workspace) : Keeps s t := by
  intro key expansion found
  have old : ¬s.IsNew key := by
    rintro ⟨unknown, _⟩
    cases found.symm.trans unknown
  exact (runs_old run loaded old).trans found

theorem keeps_outside {target : Target} {declaration declared : Declaration}
    (loaded : s.IsLoaded workspace) {schema : Schema}
    (enters : workspace.Enters scope reference s target schema u)
    (inner : workspace.Runs (workspace.declare target.document target.name schema)
      (workspace.inside scope reference target u) (.ok declared) v) :
    Keeps v (workspace.outside scope reference target declaration u v) := by
  obtain ⟨_, reads⟩ := readSchema_reads loaded enters.read
  intro key expansion found
  have other : key ≠ workspace.key scope reference := by
    rintro rfl
    have isOpen : ¬(workspace.inside scope reference target u).IsNew
        (workspace.key scope reference) := by
      rintro ⟨_, closed⟩
      exact not_open.mp closed List.mem_cons_self
    rw [runs_old inner reads.loaded isOpen, inside, Session.opening, reads.memo] at found
    cases found.symm.trans enters.isNew.1
  exact (outside_find other).trans found

/-- Every walk that has begun in a run comes to an end in it. If the run succeeds, then so does the
walk, and all that is open meanwhile is remembered in the end. -/
theorem moment_ends {start : Walk γ} {r : Except Failure γ} (run : workspace.Runs start s r t)
    (loaded : s.IsLoaded workspace) {chain : List (Document × String)} {walk : Walk α}
    (moment : workspace.Moment start s chain walk u) :
    ∃ other v, workspace.Runs walk u other v ∧ Keeps v t ∧ ∀ value, r = .ok value →
      other.isOk = true ∧ ∀ pair ∈ chain, t.Has (workspace.key pair.1 pair.2) := by
  induction moment with
  | outer follows =>
    refine ⟨r, t, runs_left follows run, fun _ _ => id, ?_⟩
    rintro value rfl
    exact ⟨rfl, by simp⟩
  | @inner _ chain scope reference _ before u _ target schema _ left around enters follows ih =>
    obtain ⟨other, v, asking, keeps, succeeds⟩ := ih
    have loadedBefore := moment_loaded around loaded
    obtain ⟨_, reads⟩ := readSchema_reads loadedBefore enters.read
    cases asking with
    | remembered known => cases known.symm.trans enters.isNew.1
    | pending _ isOpen => cases isOpen.symm.trans enters.isNew.2
    | unreadable _ read => cases enters.read.symm.trans read
    | @broken _ _ _ _ _ _ inside _ _ failure again inner =>
      cases enters.read.symm.trans again.read
      refine ⟨.error failure, inside, runs_left follows inner, keeps, fun value same => ?_⟩
      cases (succeeds value same).1
    | @expanded _ _ _ _ _ _ _ inside _ _ _ declared again inner later =>
      cases enters.read.symm.trans again.read
      have loadedOutside : (workspace.outside scope reference target
          (target.finish schema declared) u inside).IsLoaded workspace :=
        (runs_keeps inner reads.loaded).1
      have toEnd := keeps_trans (keeps_runs later loadedOutside) keeps
      have own : (workspace.outside scope reference target (target.finish schema declared) u
          inside).memo.find? (workspace.key scope reference) = some ⟨target, _⟩ :=
        outside_find_own
      exact ⟨.ok declared, inside, runs_left follows inner,
        keeps_trans (keeps_outside loadedBefore enters inner) toEnd, fun value same =>
          ⟨rfl, List.forall_mem_cons.mpr ⟨⟨_, toEnd _ _ own⟩, (succeeds value same).2⟩⟩⟩

theorem asked_remembered {start : Walk γ} {value : γ}
    {good : Document → Prop} {sites : List (Path × String)}
    (run : workspace.Runs start s (.ok value) t) (loaded : s.IsLoaded workspace)
    {chain : List (Document × String)} {rest : Declaration → Walk α}
    (moment : workspace.Moment start s chain (.asking scope reference rest) u)
    (chained : workspace.Chained good sites chain (.asking scope reference rest) u) :
    t.Has (workspace.key scope reference) := by
  obtain ⟨other, v, asking, keeps, succeeds⟩ := moment_ends run loaded moment
  obtain ⟨ends, opened⟩ := succeeds value rfl
  cases asking with
  | remembered known later =>
    exact keeps_has (keeps_trans (keeps_runs later chained.loaded) keeps) ⟨_, known⟩
  | pending _ isOpen _ =>
    obtain ⟨before, after, split, _⟩ := List.lookup_eq_some_iff.mp isOpen
    have isKey : workspace.key scope reference ∈ workspace.chainKeys chain := by
      rw [← chained.opened, split]
      simp
    obtain ⟨pair, isIn, same⟩ := List.mem_map.mp isKey
    exact same ▸ opened pair isIn
  | expanded enters inner later =>
    obtain ⟨_, reads⟩ := readSchema_reads chained.loaded enters.read
    have kept := keeps_runs later (runs_keeps inner reads.loaded).1
    exact keeps_has (keeps_trans kept keeps) ⟨_, outside_find_own⟩
  | unreadable => cases ends
  | broken => cases ends

/-! Moments of histories -/

section Begins
variable {requests : List Request} {trace : List Event}

theorem begins_follows {walk left : Walk α} {calls : List Call}
    (begins : workspace.Begins trace requests walk s)
    (follows : workspace.Follows walk s calls left t) :
    workspace.Begins trace requests left t := by
  obtain ⟨earlier, request, later, split, begins⟩ := begins
  obtain ⟨β, chain, next, moment⟩ := Request.begins_iff.mp begins
  refine ⟨earlier, request, later, split, Request.begins_iff.mpr ⟨β, chain, next, ?_⟩⟩
  exact moment_follows moment (follows_bind follows)

theorem begins_moment {start : Walk β} {walk : Walk α} {chain : List (Document × String)}
    (begins : workspace.Begins trace requests start s)
    (moment : workspace.Moment start s chain walk t) :
    workspace.Begins trace requests walk t := by
  induction moment with
  | outer follows => exact begins_follows begins follows
  | inner _ enters follows ih =>
    obtain ⟨earlier, request, later, rfl, around⟩ := ih
    obtain ⟨β, chain, next, moment⟩ := Request.begins_iff.mp around
    exact begins_of_moment (.inner moment enters follows)

def Made (workspace : Workspace) (trace : List Event) (requests : List Request) (call : Call) :
    Prop :=
  ∃ (α : Type) (rest : Declaration → Walk α) (u v : Session),
    workspace.Begins trace requests (.asking call.scope call.reference rest) u ∧
      workspace.Answers call.scope call.reference u (.ok call.answer) v

theorem begins_made {walk left : Walk α} {calls : List Call}
    (begins : workspace.Begins trace requests walk s)
    (follows : workspace.Follows walk s calls left t) :
    ∀ call ∈ calls, workspace.Made trace requests call := by
  induction follows with
  | here walk s => simp
  | noting later ih => exact ih (begins_follows begins (.noting (.here _ _)))
  | grouping read later ih => exact ih (begins_follows begins (.grouping read (.here _ _)))
  | asking answers later ih =>
    exact List.forall_mem_cons.mpr
      ⟨⟨_, _, _, _, begins, answers⟩, ih (begins_follows begins (.asking answers (.here _ _)))⟩

end Begins

/-! Chains -/

/-- Behind the reference stands `last`, a target that is no reference, after as many references to
references as it takes. -/
inductive EndsAt (workspace : Workspace) : Document → String → Target → Prop where
  | here {scope : Document} {reference : String} {target : Target} {schema : Schema}
    (found : workspace.schemaAt scope reference = .ok (target, schema))
    (notReference : schema.isReference = false) : EndsAt workspace scope reference target
  | onward {scope : Document} {reference next : String} {target last : Target} {note : Annotation}
    (found : workspace.schemaAt scope reference = .ok (target, .reference next note))
    (later : EndsAt workspace target.document next last) : EndsAt workspace scope reference last

/-- One of the references to references on the way from here leads back to itself. -/
inductive Strays (workspace : Workspace) : Document → String → Prop where
  | back {scope : Document} {reference next : String} {target : Target} {note : Annotation}
    (found : workspace.schemaAt scope reference = .ok (target, .reference next note))
    (itself : Relation.TransGen workspace.Edge (scope, reference) (scope, reference)) :
    Strays workspace scope reference
  | onward {scope : Document} {reference next : String} {target : Target} {note : Annotation}
    (found : workspace.schemaAt scope reference = .ok (target, .reference next note))
    (later : Strays workspace target.document next) : Strays workspace scope reference

/-- The name is that of the type at the end of the chain, unless the chain leads back to itself. -/
def IsNamedFor (workspace : Workspace) (scope : Document) (reference name : String) : Prop :=
  workspace.Strays scope reference ∨
    ∃ last, workspace.EndsAt scope reference last ∧ name = last.name

theorem isNamedFor_onward {target : Target} {next name : String} {note : Annotation}
    (found : workspace.schemaAt scope reference = .ok (target, .reference next note))
    (later : workspace.IsNamedFor target.document next name) :
    workspace.IsNamedFor scope reference name :=
  later.imp (.onward found) fun ⟨last, ends, same⟩ => ⟨last, .onward found ends, same⟩

variable {sites : List (Path × String)}

structure Tracks (workspace : Workspace) (sites : List (Path × String)) (walk : Walk α)
    (s : Session) : Prop where
  loaded : s.IsLoaded workspace
  asks : workspace.Asks (workspace.Reached sites s.opened) walk
  named : ∀ pair ∈ s.opened, ∃ a q target schema, Lists workspace.Serves sites a q ∧
    pair = (workspace.key a q, target.name) ∧ workspace.schemaAt a q = .ok (target, schema)

theorem tracks_of_closed (loaded : s.IsLoaded workspace) (closed : s.opened = [])
    {walk : Walk α} (asks : workspace.Asks (Lists workspace.Serves sites) walk) :
    workspace.Tracks sites walk s where
  loaded := loaded
  asks := asks_mono (fun scope reference listed => ⟨listed, by simp [closed]⟩) asks
  named := by simp [closed]

theorem tracks_of_bind {walk : Walk α} {next : α → Walk β}
    (tracks : workspace.Tracks sites (walk >>= next) s) : workspace.Tracks sites walk s :=
  ⟨tracks.loaded, asks_of_bind tracks.asks, tracks.named⟩

theorem follows_tracks {walk left : Walk α} {calls : List Call}
    (follows : workspace.Follows walk s calls left t) (tracks : workspace.Tracks sites walk s) :
    workspace.Tracks sites left t := by
  obtain ⟨after, same, rest⟩ := follows_keeps follows tracks.loaded tracks.asks
  exact ⟨after, same ▸ rest, same ▸ tracks.named⟩

theorem moment_tracks (covering : workspace.Covering workspace.Serves sites) {start : Walk γ}
    (tracks : workspace.Tracks sites start s) {walk : Walk α} {chain : List (Document × String)}
    (moment : workspace.Moment start s chain walk t) : workspace.Tracks sites walk t := by
  induction moment with
  | outer follows => exact follows_tracks follows tracks
  | inner around enters follows ih =>
    obtain ⟨found, reads⟩ := readSchema_reads ih.loaded enters.read
    refine follows_tracks follows ⟨reads.loaded, ?_, ?_⟩
    · exact target_reached covering ih.asks.1 found.symm reads.opened
    · rw [inside, Session.opening, reads.opened]
      exact List.forall_mem_cons.mpr
        ⟨⟨_, _, _, _, ih.asks.1.1, rfl, found.symm⟩, ih.named⟩

def Settled (workspace : Workspace) (trace : List Event) (requests : List Request) (key : String)
    (expansion : Expansion) : Prop :=
  ∃ scope reference schema, key = workspace.key scope reference ∧
    Lists workspace.Serves (workspace.reach requests) scope reference ∧
    workspace.schemaAt scope reference = .ok (expansion.target, schema) ∧
    workspace.IsNamedFor scope reference expansion.declaration.name ∧
    ∀ next note, schema = .reference next note →
      ∃ answer, workspace.Made trace requests ⟨expansion.target.document, next, answer⟩

section Settled
variable {requests : List Request} {trace : List Event}
variable (apart : workspace.KeysApart (workspace.reach requests))
include apart

theorem answer_named {call : Call} {rest : Declaration → Walk α}
    (tracks : workspace.Tracks (workspace.reach requests)
      (.asking call.scope call.reference rest) s)
    (answered : call.Answered workspace (workspace.Settled trace requests) s.opened) :
    workspace.IsNamedFor call.scope call.reference call.answer.name := by
  obtain ⟨⟨listed, reached⟩, _⟩ := tracks.asks
  rcases answered with ⟨expansion, settled, same⟩ | ⟨name, isOpen, same⟩
  · obtain ⟨a, q, schema, key, known, _, named, _⟩ := settled
    obtain ⟨rfl, rfl⟩ := same_of_key apart listed known key
    rwa [same]
  · obtain ⟨before, after, split, _⟩ := List.lookup_eq_some_iff.mp isOpen
    have member : (workspace.key call.scope call.reference, name) ∈ s.opened := by simp [split]
    obtain ⟨a, q, target, schema, known, pair, found⟩ := tracks.named _ member
    obtain ⟨key, rfl⟩ := Prod.mk.inj pair
    obtain ⟨rfl, rfl⟩ := same_of_key apart listed known key
    cases isReference : schema.isReference with
    | false =>
      refine .inr ⟨target, .here found isReference, ?_⟩
      rw [same]
      rfl
    | true =>
      -- an open reference that is asked for leads back to itself
      obtain ⟨a, q, known, key, back⟩ := reached _ member
      obtain ⟨rfl, rfl⟩ := same_of_key apart known listed key
      cases schema with
      | reference next note => exact .inl (.back found back)
      | _ => cases isReference

theorem passes_settled {start : Walk γ}
    (tracks : workspace.Tracks (workspace.reach requests) start s)
    (begins : workspace.Begins trace requests start s) :
    workspace.Passes start s (workspace.Settled trace requests) := by
  intro α chain scope reference rest t u v target schema calls declared moment enters follows
    answered
  have tracked := moment_tracks (covering_reach requests) tracks moment
  obtain ⟨found, _⟩ := readSchema_reads tracked.loaded enters.read
  have made := begins_made (begins_moment begins (.inner moment enters (.here _ _))) follows
  refine ⟨scope, reference, schema, rfl, tracked.asks.1.1, found.symm, ?_, ?_⟩
  · cases isReference : schema.isReference with
    | false =>
      have named : declared.name = target.name := declare_name follows isReference
      refine .inr ⟨target, .here found.symm isReference, ?_⟩
      simpa [Target.finish, isReference, Declaration.referring, Declaration.name] using named
    | true =>
      cases schema with
      | reference next note =>
        have single : calls = [⟨target.document, next, declared⟩] := declare_reference follows
        subst single
        have inside : workspace.Tracks (workspace.reach requests)
            (.asking target.document next .done) (workspace.inside scope reference target u) :=
          moment_tracks (covering_reach requests) tracks (.inner moment enters (.here _ _))
        exact isNamedFor_onward found.symm
          (answer_named apart inside (answered _ (List.mem_singleton_self _)))
      | _ => cases isReference
  · rintro next note rfl
    have single : calls = [⟨target.document, next, declared⟩] := declare_reference follows
    exact ⟨declared, made _ (single ▸ List.mem_singleton_self _)⟩

end Settled

/-! Histories of requests -/

def Request.Succeeds (workspace : Workspace) (s : Session) : Request → Prop
  | types scope map => ∃ declared t, (workspace.declareTypes scope map).run s = (.ok declared, t)
  | all spec => ∃ generation t, (workspace.declareAll spec).run s = (.ok generation, t)

def Succeed (workspace : Workspace) (trace : List Event) (requests : List Request) : Prop :=
  ∀ earlier request later, requests = earlier ++ request :: later →
    request.Succeeds workspace (workspace.after trace earlier)

variable {requests : List Request} {trace : List Event}

theorem succeed_append {request : Request} (succeed : workspace.Succeed trace requests)
    (last : request.Succeeds workspace (workspace.after trace requests)) :
    workspace.Succeed trace (requests ++ [request]) := by
  intro earlier other later split
  rcases List.append_eq_append_iff.mp split with ⟨middle, rfl, rest⟩ | ⟨middle, rfl, rest⟩
  · cases middle with
    | nil =>
      obtain ⟨rfl, rfl⟩ := List.cons.inj rest
      simpa using last
    | cons => simp at rest
  · cases middle with
    | nil =>
      obtain ⟨rfl, rfl⟩ := List.cons.inj rest
      simpa using last
    | cons first more =>
      obtain ⟨rfl, rfl⟩ := List.cons.inj rest
      exact succeed earlier _ more rfl

theorem keeps_request (request : Request) (loaded : s.IsLoaded workspace) :
    Keeps s (request.after workspace s) := by
  obtain ⟨r, run⟩ := request.runs loaded
  exact keeps_runs run loaded

theorem keeps_after (earlier later : List Request) :
    Keeps (workspace.after trace earlier) (workspace.after trace (earlier ++ later)) := by
  induction later using List.reverseRecOn with
  | nil => simp [Keeps]
  | append_singleton before request ih =>
    rw [← List.append_assoc, after_append]
    exact keeps_trans ih (keeps_request request (workspace.after_keeps trace _).1)

theorem begins_start (served : ∀ request ∈ requests, request.IsServed workspace) {walk : Walk β}
    (begins : workspace.Begins trace requests walk t) :
    ∃ earlier request later, requests = earlier ++ request :: later ∧
      workspace.Asks (Lists workspace.Serves (workspace.reach requests))
        (request.walk workspace) ∧
      ∃ (α : Type) (chain : List (Document × String)) (next : β → Walk α),
        workspace.Moment (request.walk workspace) (workspace.after trace earlier) chain
          (walk >>= next) t := by
  obtain ⟨earlier, request, later, split, begins⟩ := begins
  have member : request ∈ requests := by simp [split]
  exact ⟨earlier, request, later, split, request_asks served member,
    Request.begins_iff.mp begins⟩

theorem Request.Succeeds.runs {request : Request} (succeeds : request.Succeeds workspace s)
    (loaded : s.IsLoaded workspace) :
    ∃ value, workspace.Runs (request.walk workspace) s (.ok value)
      (request.after workspace s) := by
  cases request with
  | types scope types =>
    obtain ⟨declared, t, succeeds⟩ := succeeds
    obtain ⟨r, u, run, same⟩ := declareTypes_runs scope types loaded
    cases same.symm.trans succeeds
    simp only [Request.after, same]
    exact ⟨declared, run⟩
  | all spec =>
    obtain ⟨generation, t, succeeds⟩ := succeeds
    obtain ⟨r, u, run, same⟩ := declareAll_runs spec loaded
    cases r with
    | error failure => cases same.symm.trans succeeds
    | ok listed =>
      simp only [Request.after, same]
      exact ⟨listed, run⟩

section Histories
variable (served : ∀ request ∈ requests, request.IsServed workspace)
include served

theorem begins_tracks {walk : Walk β} (begins : workspace.Begins trace requests walk t) :
    workspace.Tracks (workspace.reach requests) walk t := by
  obtain ⟨earlier, _, _, _, asks, _, _, _, moment⟩ := begins_start served begins
  obtain ⟨loaded, closed⟩ := workspace.after_keeps trace earlier
  exact tracks_of_bind
    (moment_tracks (covering_reach requests) (tracks_of_closed loaded closed asks) moment)

theorem answered_remembered (acyclic : workspace.Acyclic)
    (apart : workspace.KeysApart (workspace.reach requests)) {call : Call}
    {rest : Declaration → Walk β}
    (begins : workspace.Begins trace requests (.asking call.scope call.reference rest) s)
    (answers : workspace.Answers call.scope call.reference s (.ok call.answer) t) :
    t.Has (workspace.key call.scope call.reference) := by
  have tracks := begins_tracks served begins
  rcases answers_ok.mp answers with ⟨expansion, known, _, rfl⟩ | ⟨name, _, isOpen, _⟩ |
    ⟨target, schema, declared, u, v, _, _, _, rfl⟩
  · exact ⟨expansion, known⟩
  · cases isOpen.symm.trans (not_open_of_reached acyclic apart tracks.asks.1)
  · exact ⟨_, outside_find_own⟩

/-- Whatever was answered in a history is remembered after it, if there are no cycles or no request
of the history failed. -/
theorem made_remembered (apart : workspace.KeysApart (workspace.reach requests))
    (whole : workspace.Acyclic ∨ workspace.Succeed trace requests) {call : Call}
    (made : workspace.Made trace requests call) :
    (workspace.after trace requests).Has (workspace.key call.scope call.reference) := by
  obtain ⟨β, rest, u, v, begins, answers⟩ := made
  obtain ⟨earlier, request, later, split, asks, _, _, _, moment⟩ := begins_start served begins
  obtain ⟨loaded, closed⟩ := workspace.after_keeps trace earlier
  have kept : Keeps (workspace.after trace (earlier ++ [request]))
      (workspace.after trace (earlier ++ [request] ++ later)) := keeps_after _ later
  rw [List.append_assoc, List.singleton_append, ← split] at kept
  refine keeps_has kept ?_
  rw [after_append]
  rcases whole with acyclic | succeed
  · obtain ⟨r, run⟩ := request.runs loaded
    have has := answered_remembered served acyclic apart begins answers
    obtain ⟨other, w, asking, keeps, _⟩ := moment_ends run loaded moment
    have loadedAfter := (answers_keeps (moment_loaded moment loaded) answers).1
    rcases runs_asking.mp asking with ⟨answer, x, again, onward⟩ | ⟨failure, _, again⟩
    · obtain ⟨_, rfl⟩ := runs_unique answers again
      exact keeps_has (keeps_trans (keeps_runs onward loadedAfter) keeps) has
    · cases (runs_unique answers again).1
  · obtain ⟨value, run⟩ := (succeed earlier request later split).runs loaded
    have chained := moment_chained (covering_reach requests) loaded closed asks moment
    exact asked_remembered run loaded moment chained

end Histories

theorem passesAlways_settled (served : ∀ request ∈ requests, request.IsServed workspace)
    (apart : workspace.KeysApart (workspace.reach requests)) :
    workspace.PassesAlways trace requests (workspace.Settled trace requests) := by
  refine passesAlways_iff.mpr ?_
  rintro earlier request later rfl
  obtain ⟨loaded, closed⟩ := workspace.after_keeps trace earlier
  have member : request ∈ earlier ++ request :: later := by simp
  have tracks := tracks_of_closed loaded closed (request_asks served member)
  show workspace.Passes (request.walk workspace) _ _
  exact passes_settled apart tracks (begins_walk trace earlier request later)

end Workspace

end Typewright
