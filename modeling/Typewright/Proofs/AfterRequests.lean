import Typewright.Proofs.ReferenceChains
import Typewright.Proofs.SingleExpansion

/-!
What a request leaves behind, also where it fails. Nothing stays open, the entries of the memo keep
their places, and the new ones stand behind them: one for each expansion that came to its end, and
none for an expansion that broke off. The documents only gain those whose load succeeded.
-/
namespace Typewright

/-! Loaded documents -/

def Library.loaded (library : Library) (events : List Event) : List Document :=
  events.filterMap fun event =>
    match event with
    | .load path => (library.load path).toOption.map fun body => ⟨path, body⟩
    | .render .. => none

theorem Library.loaded_append (library : Library) (first second : List Event) :
    library.loaded (first ++ second) = library.loaded first ++ library.loaded second :=
  List.filterMap_append

def Session.Collects (workspace : Workspace) (s t : Session) : Prop :=
  ∃ events, t.trace = events.reverse ++ s.trace ∧
    t.documents = s.documents ++ workspace.library.loaded events

section Collects
variable {workspace : Workspace} {s t u : Session}

theorem collects_of_same (trace : t.trace = s.trace) (documents : t.documents = s.documents) :
    s.Collects workspace t :=
  ⟨[], by simp [trace], by simp [documents, Library.loaded]⟩

theorem collects_trans (first : s.Collects workspace t) (second : t.Collects workspace u) :
    s.Collects workspace u := by
  obtain ⟨early, earlyTrace, earlyDocuments⟩ := first
  obtain ⟨late, lateTrace, lateDocuments⟩ := second
  refine ⟨early ++ late, ?_, ?_⟩
  · simp [lateTrace, earlyTrace]
  · simp [lateDocuments, earlyDocuments, Library.loaded_append]

theorem collects_rendering (s : Session) (kind : DeclarationKind) (name : String) :
    s.Collects workspace (s.noted (.render kind name)) :=
  ⟨[.render kind name], rfl, by simp [Library.loaded, Session.noted]⟩

namespace Resolve

def Collects (workspace : Workspace) (action : Resolve α) : Prop :=
  ∀ s r t, action.run s = (r, t) → s.Collects workspace t

theorem collects_result (result : Except Failure α) : Collects workspace (ofExcept result) := by
  intro s r t run
  cases run
  exact collects_of_same rfl rfl

theorem collects_bind {action : Resolve α} {next : α → Resolve β}
    (first : Collects workspace action) (second : ∀ value, Collects workspace (next value)) :
    Collects workspace (action >>= next) := by
  intro s r t run
  rw [run_bind] at run
  rcases done : action.run s with ⟨failure | value, u⟩
  · rw [done] at run
    cases run
    exact first s _ _ done
  · rw [done] at run
    exact collects_trans (first s _ u done) (second value u r t run)

theorem collects_partwise (workspace : Workspace) : Partwise (Collects workspace) :=
  ⟨collects_result, collects_bind⟩

end Resolve

end Collects

namespace Workspace
open Resolve
variable {workspace : Workspace} {scope : Document} {reference : String} {s t u v : Session}

theorem collects_document (path : Path) : Collects workspace (workspace.document path) := by
  intro s r t run
  unfold document at run
  split at run
  · cases run
    exact collects_of_same rfl rfl
  · simp only [run_bind, run_get] at run
    split at run
    · cases run
      exact collects_of_same rfl rfl
    · simp only [run_bind, run_record, run_ofExcept] at run
      refine ⟨[.load path], ?_⟩
      cases loaded : workspace.library.load path with
      | error failure =>
        rw [loaded] at run
        cases run
        exact ⟨rfl, by simp [Library.loaded, loaded, Except.toOption]⟩
      | ok body =>
        rw [loaded] at run
        cases run
        exact ⟨rfl, by simp [Library.loaded, loaded, Except.toOption]⟩

theorem collects_readSchema : Collects workspace (workspace.readSchema scope reference) :=
  (collects_partwise workspace).readSchema fun path => collects_document path.normalize

theorem collects_readGroup : Collects workspace (workspace.readGroup scope reference) :=
  (collects_partwise workspace).readGroup fun path => collects_document path.normalize

theorem runs_collects {walk : Walk α} {r : Except Failure α} (run : workspace.Runs walk s r t)
    (renders : walk.OnlyRenders) : s.Collects workspace t := by
  induction run with
  | done value s => exact collects_of_same rfl rfl
  | failed failure s => exact collects_of_same rfl rfl
  | noting later ih =>
    obtain ⟨⟨kind, name, rfl⟩, rest⟩ := renders
    exact collects_trans (collects_rendering _ kind name) (ih rest)
  | grouped read later ih => exact collects_trans (collects_readGroup _ _ _ read) (ih (renders _))
  | ungrouped read => exact collects_readGroup _ _ _ read
  | remembered known later ih => exact ih (renders _)
  | pending unknown isOpen later ih => exact ih (renders _)
  | unreadable isNew read => exact collects_readSchema _ _ _ read
  | broken enters inner ih =>
    have reading := collects_readSchema _ _ _ enters.read
    exact collects_trans reading (ih (declare_onlyRenders _ _))
  | expanded enters inner later ih ihLater =>
    have reading := collects_readSchema _ _ _ enters.read
    have inside := collects_trans reading (ih (declare_onlyRenders _ _))
    exact collects_trans inside (ihLater (renders _))

/-! Remembered expansions -/

theorem entries_outside {target : Target} {declaration : Declaration}
    (unknown : v.memo.find? (workspace.key scope reference) = none) :
    (workspace.outside scope reference target declaration u v).memo.entries =
      v.memo.entries ++ [(workspace.key scope reference, ⟨target, declaration⟩)] :=
  Pairs.put_absent unknown

theorem runs_entries {walk : Walk α} {r : Except Failure α} (run : workspace.Runs walk s r t)
    (loaded : s.IsLoaded workspace) : s.memo.entries <+: t.memo.entries := by
  induction run with
  | done value s => exact List.prefix_rfl
  | failed failure s => exact List.prefix_rfl
  | noting later ih => exact ih loaded
  | grouped read later ih =>
    obtain ⟨_, reads⟩ := readGroup_reads loaded read
    exact reads.memo ▸ ih reads.loaded
  | ungrouped read =>
    obtain ⟨_, reads⟩ := readGroup_reads loaded read
    rw [reads.memo]
  | remembered known later ih => exact ih loaded
  | pending unknown isOpen later ih => exact ih loaded
  | unreadable isNew read =>
    obtain ⟨_, reads⟩ := readSchema_reads loaded read
    rw [reads.memo]
  | broken enters inner ih =>
    obtain ⟨_, reads⟩ := readSchema_reads loaded enters.read
    exact reads.memo ▸ ih reads.loaded
  | expanded enters inner later ih ihLater =>
    obtain ⟨_, reads⟩ := readSchema_reads loaded enters.read
    have before := reads.memo ▸ ih reads.loaded
    have own := unknown_inside loaded enters inner
    have after := ihLater (runs_keeps inner reads.loaded).1
    exact (before.trans ⟨_, (entries_outside own).symm⟩).trans after

/-- In a run from `s` a reference with this key is expanded, and its expansion comes to its end. -/
inductive Completes (workspace : Workspace) (start : Walk γ) (s : Session) (key : String)
    (expansion : Expansion) : Prop where
  | intro {α : Type} {chain : List (Document × String)} {scope : Document} {reference : String}
    {rest : Declaration → Walk α} {t u v : Session} {schema : Schema} {declared : Declaration}
    (named : key = workspace.key scope reference)
    (asked : workspace.Moment start s chain (.asking scope reference rest) t)
    (enters : workspace.Enters scope reference t expansion.target schema u)
    (inner : workspace.Runs
      (workspace.declare expansion.target.document expansion.target.name schema)
      (workspace.inside scope reference expansion.target u) (.ok declared) v)
    (finished : expansion.declaration = expansion.target.finish schema declared)

theorem follows_leads {walk left : Walk α} {calls : List Call}
    (follows : workspace.Follows walk s calls left t) (loaded : s.IsLoaded workspace) :
    s.Leads t := by
  induction follows with
  | here walk s => exact Session.leads_refl s
  | noting later ih =>
    have noted : Session.Leads _ _ := ih loaded
    exact ⟨noted.kept, noted.old⟩
  | grouping read later ih =>
    obtain ⟨_, reads⟩ := readGroup_reads loaded read
    exact Session.leads_trans (Session.leads_of_same reads.memo reads.opened) (ih reads.loaded)
  | asking answers later ih =>
    exact Session.leads_trans (runs_leads answers loaded) (ih (answers_keeps loaded answers).1)

theorem moment_leads {start : Walk γ} {walk : Walk α} {chain : List (Document × String)}
    (moment : workspace.Moment start s chain walk t) (loaded : s.IsLoaded workspace) :
    s.Leads t := by
  induction moment with
  | outer follows => exact follows_leads follows loaded
  | inner around enters follows ih =>
    have before := moment_loaded around loaded
    obtain ⟨_, reads⟩ := readSchema_reads before enters.read
    exact Session.leads_trans (Session.leads_trans ih (inside_leads before enters))
      (follows_leads follows reads.loaded)

section Completes
variable {start : Walk γ} {r : Except Failure γ} {key : String} {expansion : Expansion}

theorem completes_new (completes : workspace.Completes start s key expansion)
    (loaded : s.IsLoaded workspace) : s.memo.find? key = none := by
  obtain ⟨rfl, asked, enters, _, _⟩ := completes
  have leads := moment_leads asked loaded
  cases known : s.memo.find? (workspace.key _ _) with
  | none => rfl
  | some other => cases enters.isNew.1.symm.trans (leads.kept _ other known)

theorem completes_remembered (run : workspace.Runs start s r t) (loaded : s.IsLoaded workspace)
    (completes : workspace.Completes start s key expansion) :
    t.memo.find? key = some expansion := by
  obtain ⟨target, declaration⟩ := expansion
  obtain ⟨rfl, asked, enters, inner, finished⟩ := completes
  dsimp only at enters inner finished
  subst finished
  obtain ⟨other, v, asking, keeps, _⟩ := moment_ends run loaded asked
  cases asking with
  | remembered known => cases known.symm.trans enters.isNew.1
  | pending _ isOpen => cases isOpen.symm.trans enters.isNew.2
  | unreadable _ read => cases enters.read.symm.trans read
  | broken again broken =>
    cases enters.read.symm.trans again.read
    cases (runs_unique inner broken).1
  | expanded again ended later =>
    cases enters.read.symm.trans again.read
    obtain ⟨same, rfl⟩ := runs_unique inner ended
    cases same
    obtain ⟨_, reads⟩ := readSchema_reads (moment_loaded asked loaded) enters.read
    have kept := keeps_runs later (runs_keeps inner reads.loaded).1
    exact keeps _ _ (kept _ _ outside_find_own)

theorem remembered_completes (run : workspace.Runs start s r t) (loaded : s.IsLoaded workspace)
    (known : t.memo.find? key = some expansion) :
    s.memo.find? key = some expansion ∨ workspace.Completes start s key expansion := by
  have passes : workspace.Passes start s fun key expansion =>
      s.memo.find? key = some expansion ∨ workspace.Completes start s key expansion := by
    intro _ chain scope reference rest u v w target schema calls declared asked enters follows _
    exact .inr ⟨rfl, asked, enters, runs_of_follows follows (.done _ _), rfl⟩
  have before : s.Remembers fun key expansion =>
      s.memo.find? key = some expansion ∨ workspace.Completes start s key expansion :=
    fun _ _ => .inl
  exact (runs_remembers passes run loaded (.outer (.here _ _)) before).1 key expansion known

end Completes

/-- A run from a session with nothing open leaves nothing open. Behind what was remembered stand the
expansions that came to their end in the run and no others, the documents are those of before and
those whose load succeeded, and no answer from then on stands for an open reference. -/
structure EndsClean (workspace : Workspace) (start : Walk α) (s : Session) (r : Except Failure α)
    (t : Session) : Prop where
  runs : workspace.Runs start s r t
  closed : t.opened = []
  remembered : ∃ added, t.memo.entries = s.memo.entries ++ added ∧
    ∀ key expansion, (key, expansion) ∈ added ↔ workspace.Completes start s key expansion
  collects : s.Collects workspace t
  answered : ∀ scope reference answer u,
    workspace.Answers scope reference t (.ok answer) u →
      ∃ expansion, u.memo.find? (workspace.key scope reference) = some expansion ∧
        answer = expansion.declaration

theorem runs_added {start : Walk α} {r : Except Failure α} (run : workspace.Runs start s r t)
    (loaded : s.IsLoaded workspace) :
    ∃ added, t.memo.entries = s.memo.entries ++ added ∧
      ∀ key expansion, (key, expansion) ∈ added ↔ workspace.Completes start s key expansion := by
  obtain ⟨added, same⟩ := runs_entries run loaded
  refine ⟨added, same.symm, ?_⟩
  intro key expansion
  constructor
  · intro member
    have inside : (key, expansion) ∈ t.memo.entries := same ▸ List.mem_append_right _ member
    rcases remembered_completes run loaded (Table.mem_entries_iff.mp inside) with old | completes
    · -- the keys of the memo are distinct, so none of the old ones stands among the new entries
      have distinct := t.memo.nodup
      rw [← same, Pairs.keys, List.map_append] at distinct
      have early : key ∈ s.memo.entries.map Prod.fst :=
        List.mem_map_of_mem (f := Prod.fst) (Table.mem_entries_iff.mpr old)
      have late : key ∈ added.map Prod.fst := List.mem_map_of_mem (f := Prod.fst) member
      exact absurd rfl ((List.nodup_append.mp distinct).2.2 key early key late)
    · exact completes
  · intro completes
    have known := completes_remembered run loaded completes
    have inside : (key, expansion) ∈ s.memo.entries ++ added :=
      same ▸ Table.mem_entries_iff.mpr known
    rcases List.mem_append.mp inside with old | new
    · cases (completes_new completes loaded).symm.trans (Table.mem_entries_iff.mp old)
    · exact new

theorem answered_closed {answer : Declaration} (closed : s.opened = [])
    (answers : workspace.Answers scope reference s (.ok answer) t) :
    ∃ expansion, t.memo.find? (workspace.key scope reference) = some expansion ∧
      answer = expansion.declaration := by
  rcases answers_ok.mp answers with ⟨expansion, known, rfl, rfl⟩ | ⟨name, _, isOpen, _, _⟩ |
    ⟨target, schema, declared, u, v, _, _, _, rfl⟩
  · exact ⟨expansion, known, rfl⟩
  · rw [closed] at isOpen
    cases isOpen
  · exact ⟨⟨target, answer⟩, outside_find_own, rfl⟩

theorem runs_endsClean {start : Walk α} {r : Except Failure α} (run : workspace.Runs start s r t)
    (renders : start.OnlyRenders) (loaded : s.IsLoaded workspace) (closed : s.opened = []) :
    workspace.EndsClean start s r t := by
  have still : t.opened = [] := (runs_keeps run loaded).2.trans closed
  exact ⟨run, still, runs_added run loaded, runs_collects run renders,
    fun _ _ _ _ => answered_closed still⟩

/-- Every request of a history, whether it ends well or fails at any depth, leaves the session
consistent for the next one. -/
theorem requests_end_clean (workspace : Workspace) (trace : List Event) (earlier : List Request) :
    let s := workspace.after trace earlier
    (∀ scope types, ∃ r t, (workspace.declareTypes scope types).run s = (r, t) ∧
      workspace.EndsClean (workspace.listTypes scope types) s r t) ∧
    ∀ spec, ∃ r t,
      (workspace.declareAll spec).run s = (r.map (Generation.surfacing t.memo), t) ∧
      workspace.EndsClean (workspace.listAll spec) s r t := by
  intro s
  obtain ⟨loaded, closed⟩ := workspace.after_keeps trace earlier
  constructor
  · intro scope types
    obtain ⟨r, t, run, same⟩ := declareTypes_runs scope types loaded
    exact ⟨r, t, same, runs_endsClean run declareEntries_onlyRenders loaded closed⟩
  · intro spec
    obtain ⟨r, t, run, same⟩ := declareAll_runs spec loaded
    exact ⟨r, t, same, runs_endsClean run (listAll_onlyRenders spec) loaded closed⟩

end Workspace

namespace FailedRequest
open SameName (mapping single object info renderer tokens)

/-! An object whose first property leads to a type and whose second leads nowhere. -/

def body : Yaml.Value :=
  mapping [info, ("types", mapping [
    ("Pet", object [("id", single "$ref" "#/types/Id"), ("owner", single "$ref" "#/types/Owner")]),
    ("Id", object [("text", single "type" "string")])])]

def workspace : Workspace :=
  ⟨⟨Path.ofString "/spec.yaml", body⟩, { documents := [] }, tokens, renderer⟩

def afterAll : Session :=
  ((Spec.decode body).toOption.map fun spec => workspace.after [] [.all spec]).getD {}

/-- The request fails in `Pet`. The expansion that had come to its end by then stays, and nothing is
open. -/
example : (afterAll.memo.keys, afterAll.opened) = (["#/types/Id"], []) := by decide +kernel

end FailedRequest

end Typewright
