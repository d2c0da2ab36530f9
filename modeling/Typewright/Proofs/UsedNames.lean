import Typewright.Proofs.Listing
import Typewright.Run

/-!
The names that declarations use: the name behind every reference in a schema is used, and every used
name belongs to a reference that has been expanded.
-/
namespace Typewright

def Expansion.UsesItself (expansion : Expansion) : Prop :=
  expansion.declaration.name ∈ expansion.declaration.references

theorem answered_usesItself {workspace : Workspace} {opened : List (String × String)} {call : Call}
    (answered : call.Answered workspace (fun _ => Expansion.UsesItself) opened) :
    call.answer.name ∈ call.answer.references := by
  rcases answered with ⟨expansion, uses, same⟩ | ⟨name, _, same⟩
  · rw [same]
    exact uses
  · simp [same, Declaration.referring, Declaration.pending, Declaration.name, TemplateInput.name]

/-- The declaration was made from a schema of a document, where `begun` says which walks were
followed and where they began. -/
def Generated (workspace : Workspace) (begun : Walk Declaration → Session → Prop)
    (scope : Document) (name : String) (schema : Schema) (calls : List Call)
    (declaration : Declaration) : Prop :=
  ∃ s declared t, begun (workspace.declare scope name schema) s ∧ schema.isReference = false ∧
    workspace.Follows (workspace.declare scope name schema) s calls (.done declared) t ∧
    declaration = declared.withoutSelf name

def Expansion.Originates (workspace : Workspace) (begun : Walk Declaration → Session → Prop)
    (expansion : Expansion) : Prop :=
  (∃ name, expansion.declaration = (Declaration.pending name).referring name) ∨
    ∃ scope schema calls, Generated workspace begun scope expansion.declaration.name schema calls
      (expansion.declaration.withoutSelf expansion.declaration.name)

theorem withoutSelf_referring (declaration : Declaration) (name : String) :
    (declaration.referring name).withoutSelf name = declaration.withoutSelf name := by
  simp [Declaration.withoutSelf, Declaration.referring, NameSet.erase_insert]

namespace Session

def Knows (s : Session) (name : String) : Prop :=
  (∃ key expansion, s.memo.find? key = some expansion ∧ expansion.target.name = name) ∨
    name ∈ s.opened.map Prod.snd

structure Accounts (s : Session) (declaration : Declaration) : Prop where
  name : s.Knows declaration.name
  references : ∀ name ∈ declaration.references, s.Knows name

def IsAccounted (s : Session) : Prop :=
  s.Remembers fun _ expansion => s.Accounts expansion.declaration

theorem accounts_mono {s t : Session} {declaration : Declaration}
    (grows : ∀ name, s.Knows name → t.Knows name) (accounts : s.Accounts declaration) :
    t.Accounts declaration :=
  ⟨grows _ accounts.name, fun name member => grows name (accounts.references name member)⟩

theorem knows_of_same {s t : Session} (memo : t.memo = s.memo) (opened : t.opened = s.opened) :
    t.Knows = s.Knows := by
  funext name
  rw [Knows, memo, opened, Knows]

theorem accounted_of_same {s t : Session} (known : s.IsAccounted) (memo : t.memo = s.memo)
    (opened : t.opened = s.opened) : t.IsAccounted := by
  have same := knows_of_same memo opened
  intro key expansion found
  rw [memo] at found
  exact accounts_mono (fun _ => by rw [same]; exact id) (known key expansion found)

end Session

namespace Workspace
variable {workspace : Workspace} {scope : Document} {s t u : Session} {calls : List Call}

theorem finish_reference {target : Target} {schema : Schema} {declared : Declaration}
    (follows : workspace.Follows (workspace.declare target.document target.name schema) s calls
      (.done declared) t) (isReference : schema.isReference = true) :
    target.finish schema declared = declared ∧ ∃ call ∈ calls, call.answer = declared := by
  refine ⟨if_pos isReference, ?_⟩
  cases schema with
  | reference reference note =>
    rw [declare_reference follows]
    exact ⟨_, List.mem_singleton_self _, rfl⟩
  | _ => cases isReference

theorem passes_usesItself (start : Walk γ) (s : Session) :
    workspace.Passes start s fun _ => Expansion.UsesItself := by
  intro α chain scope reference rest t u v target schema calls declared _ _ follows answered
  cases isReference : schema.isReference with
  | true =>
    obtain ⟨same, call, member, answer⟩ := finish_reference follows isReference
    rw [Expansion.UsesItself, same, ← answer]
    exact answered_usesItself (answered call member)
  | false =>
    have same : target.finish schema declared = declared.referring target.name := by
      simp [Target.finish, isReference]
    have named : declared.name = target.name := declare_name follows isReference
    rw [Expansion.UsesItself, same]
    exact NameSet.mem_insert.mpr (.inl named)

theorem passesAlways_usesItself (trace : List Event) (requests : List Request) :
    workspace.PassesAlways trace requests fun _ => Expansion.UsesItself := by
  refine passesAlways_iff.mpr fun earlier request later _ => ?_
  exact passes_usesItself _ _

theorem passes_originates {begun : Walk Declaration → Session → Prop} {start : Walk γ}
    (begins : ∀ (chain : List (Document × String)) (walk : Walk Declaration) (t : Session),
      workspace.Moment start s chain walk t → begun walk t) :
    workspace.Passes start s fun _ => Expansion.Originates workspace begun := by
  intro α chain scope reference rest t u v target schema calls declared moment enters follows
    answered
  cases isReference : schema.isReference with
  | true =>
    obtain ⟨same, call, member, answer⟩ := finish_reference follows isReference
    rw [Expansion.Originates, same, ← answer]
    rcases answered call member with ⟨expansion, originates, found⟩ | ⟨name, _, found⟩
    · rw [found]
      exact originates
    · exact .inl ⟨name, found⟩
  | false =>
    have same : target.finish schema declared = declared.referring target.name := by
      simp [Target.finish, isReference]
    have declaredName : declared.name = target.name := declare_name follows isReference
    have named : (declared.referring target.name).name = target.name := declaredName
    refine .inr ⟨target.document, schema, calls, ?_⟩
    simp only [same, named, withoutSelf_referring]
    exact ⟨_, declared, v, begins _ _ _ (.inner moment enters (.here _ _)), isReference,
      follows, rfl⟩

theorem passesAlways_originates (workspace : Workspace) (trace : List Event)
    (requests : List Request) :
    workspace.PassesAlways trace requests fun _ =>
      Expansion.Originates workspace (workspace.Begins trace requests) := by
  refine passesAlways_iff.mpr ?_
  rintro earlier request later rfl
  exact passes_originates fun _ _ _ => begins_of_moment

/-- In a session that a history passes through, a schema's declaration uses the name behind every
reference that is asked for in the schema. -/
theorem visited_uses {trace : List Event} {requests : List Request} {ancestry : List String}
    {name : String} {schema : Schema} {declared : Declaration}
    (visited : workspace.Visits trace requests s)
    (follows : workspace.Follows (workspace.declareUnder scope ancestry name schema) s calls
      (.done declared) t) {call : Call} (member : call ∈ calls) :
    call.answer.name ∈ declared.references := by
  have known := visits_remembers (passesAlways_usesItself trace requests) visited
  obtain ⟨_, answered⟩ := follows_remembers (passes_usesItself _ s) follows
    (visits_loaded visited) (.outer (.here _ _)) known
  exact (declareUnder_gathers follows).complete call member
    (answered_usesItself (answered call member))

/-- Everything that a generation holds was made in its history, or only stands for a name. -/
theorem holds_generated {trace : List Event} {requests : List Request} {spec : Spec}
    {generation : Generation} {name : String} {declaration : Declaration}
    (run : (workspace.declareAll spec).run (workspace.after trace requests) = (.ok generation, t))
    (holds : generation.Holds name declaration) :
    declaration = .pending name ∨ ∃ scope schema calls,
      Generated workspace (workspace.Begins trace (requests ++ [.all spec])) scope name schema
        calls declaration := by
  obtain ⟨loaded, _⟩ := workspace.after_keeps trace requests
  obtain ⟨r, v, runs, same⟩ := declareAll_runs spec loaded
  rw [run] at same
  cases r with
  | error failure => cases same
  | ok listed =>
    cases same
    rcases surfacing_holds holds with here | ⟨key, expansion, known, surfaced, rfl, rfl⟩
    · obtain ⟨calls, follows⟩ := follows_of_runs runs rfl
      obtain ⟨scope, schema, declared, notReference, rfl, declares⟩ :=
        listAll_brings follows here
      cases declares with
      | intro first own after =>
        exact .inr ⟨scope, schema, _, _, declared, _,
          begins_within (.outer first), notReference, own, rfl⟩
    · have split : requests ++ [.all spec] = (requests ++ [.all spec]) ++ [] := by simp
      have remembers := after_remembers
        (workspace.passesAlways_originates trace (requests ++ [.all spec])) _ [] split
      rw [after_append, Request.after, run] at remembers
      rcases remembers key expansion known with ⟨name, same⟩ | made
      · have named : expansion.declaration.name = name := by
          rw [same]
          rfl
        rw [← surfaced.2, named, same]
        exact .inl (withoutSelf_referring _ _)
      · rw [← surfaced.2]
        exact .inr made

theorem begins_visits {trace : List Event} {requests : List Request} {walk : Walk α}
    (begins : workspace.Begins trace requests walk s) : workspace.Visits trace requests s :=
  ⟨α, walk, begins⟩

theorem generated_uses {trace : List Event} {requests : List Request} {name : String}
    {schema : Schema} {declaration : Declaration}
    (generated : Generated workspace (workspace.Begins trace requests) scope name schema calls
      declaration) {call : Call} (member : call ∈ calls) :
    call.answer.name ∈ declaration.references ∨ call.answer.name = name := by
  obtain ⟨s, declared, t, begins, notReference, follows, rfl⟩ := generated
  have used := visited_uses (begins_visits begins) follows member
  by_cases own : call.answer.name = name
  · exact .inr own
  · exact .inl (NameSet.mem_erase.mpr ⟨used, own⟩)

theorem runs_knows {walk : Walk α} {r : Except Failure α} (run : workspace.Runs walk s r t)
    (loaded : s.IsLoaded workspace) (name : String) (known : s.Knows name) : t.Knows name := by
  obtain ⟨_, opened⟩ := runs_keeps run loaded
  rcases known with ⟨key, expansion, found, same⟩ | isOpen
  · have old : ¬s.IsNew key := by
      intro isNew
      cases found.symm.trans isNew.1
    exact .inl ⟨key, expansion, (runs_old run loaded old).trans found, same⟩
  · rw [← opened] at isOpen
    exact .inr isOpen

theorem outside_knows {reference : String} {target : Target} {schema : Schema}
    {declared : Declaration} {v : Session} (declaration : Declaration)
    (loaded : s.IsLoaded workspace)
    (enters : workspace.Enters scope reference s target schema u)
    (inner : workspace.Runs (workspace.declare target.document target.name schema)
      (workspace.inside scope reference target u) (.ok declared) v)
    (name : String) (known : v.Knows name) :
    (workspace.outside scope reference target declaration u v).Knows name := by
  obtain ⟨_, reads⟩ := readSchema_reads loaded enters.read
  have loadedInside : (workspace.inside scope reference target u).IsLoaded workspace := reads.loaded
  obtain ⟨_, opened⟩ := runs_keeps inner loadedInside
  have unknown : v.memo.find? (workspace.key scope reference) = none := by
    have old : ¬(workspace.inside scope reference target u).IsNew
        (workspace.key scope reference) := by
      intro isNew
      exact not_open.mp isNew.2 List.mem_cons_self
    rw [runs_old inner loadedInside old, inside, Session.opening, reads.memo]
    exact enters.isNew.1
  rcases known with ⟨key, expansion, found, same⟩ | isOpen
  · have other : key ≠ workspace.key scope reference := by
      rintro rfl
      cases unknown.symm.trans found
    exact .inl ⟨key, expansion, (outside_find other).trans found, same⟩
  · rw [opened] at isOpen
    rcases List.mem_cons.mp isOpen with rfl | around
    · exact .inl ⟨_, _, outside_find_own, rfl⟩
    · exact .inr around

theorem finish_accounted {target : Target} {schema : Schema} {declared : Declaration}
    (follows : workspace.Follows (workspace.declare target.document target.name schema) s calls
      (.done declared) t)
    (answered : ∀ call ∈ calls, u.Accounts call.answer) (own : u.Knows target.name) :
    u.Accounts (target.finish schema declared) := by
  cases isReference : schema.isReference with
  | true =>
    obtain ⟨same, call, member, answer⟩ := finish_reference follows isReference
    rw [same, ← answer]
    exact answered call member
  | false =>
    have same : target.finish schema declared = declared.referring target.name := by
      simp [Target.finish, isReference]
    have named : declared.name = target.name := declare_name follows isReference
    rw [same]
    refine ⟨?_, fun name member => ?_⟩
    · show u.Knows declared.name
      rwa [named]
    · rcases NameSet.mem_insert.mp member with rfl | used
      · exact own
      · obtain ⟨call, inside, origin⟩ := (declareUnder_gathers follows).sound name used
        rcases origin with rfl | used
        · exact (answered call inside).name
        · exact (answered call inside).references name used

theorem runs_accounted {walk : Walk α} {r : Except Failure α} (run : workspace.Runs walk s r t)
    (loaded : s.IsLoaded workspace) (known : s.IsAccounted) :
    ∀ value, r = .ok value → t.IsAccounted ∧
      ∃ calls, workspace.Follows walk s calls (.done value) t ∧
        ∀ call ∈ calls, t.Accounts call.answer := by
  induction run with
  | done value s =>
    intro other same
    cases same
    exact ⟨known, [], .here _ s, by simp⟩
  | failed failure s => exact nofun
  | noting later ih =>
    intro value same
    obtain ⟨accounted, calls, follows, answers⟩ :=
      ih loaded (Session.accounted_of_same known rfl rfl) value same
    exact ⟨accounted, calls, .noting follows, answers⟩
  | grouped read later ih =>
    intro value same
    obtain ⟨_, reads⟩ := readGroup_reads loaded read
    obtain ⟨accounted, calls, follows, answers⟩ :=
      ih reads.loaded (Session.accounted_of_same known reads.memo reads.opened) value same
    exact ⟨accounted, calls, .grouping read follows, answers⟩
  | ungrouped read => exact nofun
  | remembered found later ih =>
    intro value same
    obtain ⟨accounted, calls, follows, answers⟩ := ih loaded known value same
    refine ⟨accounted, _, .asking (.remembered found (.done _ _)) follows,
      List.forall_mem_cons.mpr ⟨?_, answers⟩⟩
    exact Session.accounts_mono (runs_knows later loaded) (known _ _ found)
  | @pending _ scope reference _ s _ _ name unknown isOpen later ih =>
    intro value same
    obtain ⟨accounted, calls, follows, answers⟩ := ih loaded known value same
    refine ⟨accounted, _, .asking (.pending unknown isOpen (.done _ _)) follows,
      List.forall_mem_cons.mpr ⟨?_, answers⟩⟩
    have own : s.Knows name := by
      obtain ⟨before, after, split, _⟩ := List.lookup_eq_some_iff.mp isOpen
      exact .inr (by simp [split])
    refine Session.accounts_mono (runs_knows later loaded) ⟨own, fun other member => ?_⟩
    rcases NameSet.mem_insert.mp member with rfl | none
    · exact own
    · exact absurd none (NameSet.not_mem_empty other)
  | unreadable isNew read => exact nofun
  | broken enters inner ih => exact nofun
  | @expanded _ scope reference _ s _ u v _ target schema declared enters inner later ih ihLater =>
    intro value same
    obtain ⟨_, reads⟩ := readSchema_reads loaded enters.read
    have opening : ∀ name, s.Knows name →
        (workspace.inside scope reference target u).Knows name := by
      rintro name (⟨key, expansion, found, named⟩ | isOpen)
      · exact .inl ⟨key, expansion, by rw [inside, Session.opening, reads.memo, found], named⟩
      · exact .inr (List.mem_cons_of_mem _ (by rwa [reads.opened]))
    have before : (workspace.inside scope reference target u).IsAccounted := by
      intro key expansion found
      rw [inside, Session.opening, reads.memo] at found
      exact Session.accounts_mono opening (known key expansion found)
    obtain ⟨accounted, calls, follows, answers⟩ := ih reads.loaded before declared rfl
    have closing := outside_knows (target.finish schema declared) loaded enters inner
    have made : (workspace.outside scope reference target (target.finish schema declared) u
        v).Accounts (target.finish schema declared) := by
      refine finish_accounted follows (fun call member => ?_) ?_
      · exact Session.accounts_mono closing (answers call member)
      · exact .inl ⟨_, _, outside_find_own, rfl⟩
    have after : (workspace.outside scope reference target (target.finish schema declared) u
        v).Remembers fun _ expansion => (workspace.outside scope reference target
          (target.finish schema declared) u v).Accounts expansion.declaration :=
      outside_remembers (fun key expansion found =>
        Session.accounts_mono closing (accounted key expansion found)) made
    have still := (runs_keeps inner reads.loaded).1
    obtain ⟨last, others, rest, good⟩ := ihLater still after value same
    refine ⟨last, _, .asking (.expanded enters inner (.done _ _)) rest,
      List.forall_mem_cons.mpr ⟨?_, good⟩⟩
    exact Session.accounts_mono (runs_knows later still) made

theorem follows_accounted {walk left : Walk α}
    (follows : workspace.Follows walk s calls left t) (loaded : s.IsLoaded workspace)
    (known : s.IsAccounted) : t.IsAccounted ∧ (∀ name, s.Knows name → t.Knows name) ∧
      ∀ call ∈ calls, t.Accounts call.answer := by
  induction follows with
  | here walk s => exact ⟨known, fun _ => id, by simp⟩
  | noting later ih => exact ih loaded (Session.accounted_of_same known rfl rfl)
  | grouping read later ih =>
    obtain ⟨_, reads⟩ := readGroup_reads loaded read
    obtain ⟨accounted, grows, answers⟩ :=
      ih reads.loaded (Session.accounted_of_same known reads.memo reads.opened)
    rw [Session.knows_of_same reads.memo reads.opened] at grows
    exact ⟨accounted, grows, answers⟩
  | asking answers later ih =>
    obtain ⟨accounted, asked, follows, good⟩ := runs_accounted answers loaded known _ rfl
    obtain ⟨last, grows, others⟩ := ih (answers_keeps loaded answers).1 accounted
    rw [follows_ask follows] at good
    have answered := good _ (List.mem_singleton_self _)
    refine ⟨last, fun name known => grows name (runs_knows answers loaded name known),
      List.forall_mem_cons.mpr ⟨Session.accounts_mono grows answered, others⟩⟩

theorem holds_known {spec : Spec} {generation : Generation} {name : String}
    {declaration : Declaration} (loaded : s.IsLoaded workspace) (closed : s.opened = [])
    (known : s.IsAccounted)
    (run : (workspace.declareAll spec).run s = (.ok generation, t))
    (holds : generation.Holds name declaration) {used : String}
    (member : used ∈ declaration.references) :
    ∃ key expansion, t.memo.find? key = some expansion ∧ expansion.target.name = used := by
  obtain ⟨r, v, runs, same⟩ := declareAll_runs spec loaded
  rw [run] at same
  cases r with
  | error failure => cases same
  | ok listed =>
    cases same
    obtain ⟨_, opened⟩ := runs_keeps runs loaded
    have remembered : t.Knows used →
        ∃ key expansion, t.memo.find? key = some expansion ∧ expansion.target.name = used := by
      rintro (known | isOpen)
      · exact known
      · simp [opened, closed] at isOpen
    obtain ⟨accounted, calls, follows, _⟩ := runs_accounted runs loaded known listed rfl
    rcases surfacing_holds holds with here | ⟨key, expansion, found, _, rfl, rfl⟩
    · obtain ⟨scope, schema, declared, notReference, rfl, declares⟩ := listAll_brings follows here
      cases declares with
      | intro before own after =>
      have loadedBefore := follows_loaded before loaded
      obtain ⟨accountedBefore, _, _⟩ := follows_accounted before loaded known
      obtain ⟨accountedThen, _, answers⟩ := follows_accounted own loadedBefore accountedBefore
      obtain ⟨_, grows, _⟩ :=
        follows_accounted after (follows_loaded own loadedBefore) accountedThen
      have inside := (NameSet.mem_erase.mp member).1
      obtain ⟨call, isIn, origin⟩ := (declareUnder_gathers own).sound used inside
      refine remembered (grows used ?_)
      rcases origin with rfl | uses
      · exact (answers call isIn).name
      · exact (answers call isIn).references used uses
    · have inside := (NameSet.mem_erase.mp member).1
      exact remembered ((accounted key expansion found).references used inside)

theorem load_ok {library : Library} {path : Path} {start : Start}
    (run : (Start.load library path).run s = (.ok start, t)) :
    ∃ body, library.load path = .ok body ∧ Spec.decode body = .ok start.spec ∧
      start.document = ⟨path, body⟩ ∧ t = s.noted (.load path) := by
  simp only [Start.load, Resolve.run_bind, Resolve.run_record, Resolve.run_ofExcept] at run
  cases loaded : library.load path with
  | error failure =>
    rw [loaded] at run
    cases run
  | ok body =>
    simp only [loaded] at run
    cases decoded : Spec.decode body with
    | error failure =>
      rw [decoded] at run
      cases run
    | ok spec =>
      rw [decoded] at run
      cases run
      exact ⟨body, rfl, decoded, rfl, rfl⟩

theorem declareDocument_ok {library : Library} {tokens : TokenTable} {renderer : Renderer}
    {path : Path} {outcome : Outcome}
    (run : (declareDocument library tokens renderer path).run {} = (.ok outcome, t)) :
    ∃ body, library.load path = .ok body ∧ Spec.decode body = .ok outcome.spec ∧
      (Workspace.declareAll ⟨⟨path, body⟩, library, tokens, renderer⟩ outcome.spec).run
        { trace := [.load path] } = (.ok outcome.generation, t) := by
  obtain ⟨start, u, loads, later⟩ := Resolve.run_bind_ok.mp run
  obtain ⟨generation, v, declared, same⟩ := Resolve.run_bind_ok.mp later
  obtain ⟨body, loaded, decoded, document, rfl⟩ := load_ok loads
  cases same
  rw [document] at declared
  exact ⟨body, loaded, decoded, declared⟩

end Workspace

end Typewright
