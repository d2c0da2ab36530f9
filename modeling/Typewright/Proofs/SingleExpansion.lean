import Typewright.Proofs.Loading

/-!
What is expanded once stays. The log of a run lists, in the order in which it happens, where a
reference is asked for and where it is answered. A reference that has been asked for is remembered
or open from then on, so its key is not expanded again; a remembered one is answered at once with
what was answered first.
-/
namespace Typewright

/-- A reference is asked for or answered; the session is the one at that point. -/
inductive Deed where
  | asked (scope : Document) (reference : String) (session : Session)
  | answered (scope : Document) (reference : String) (answer : Declaration) (session : Session)

namespace Deed

def session : Deed → Session
  | asked _ _ session => session
  | answered _ _ _ session => session

def Asks (workspace : Workspace) (key : String) : Deed → Prop
  | asked scope reference _ => workspace.key scope reference = key
  | answered .. => False

def Expands (workspace : Workspace) (key : String) (deed : Deed) : Prop :=
  deed.Asks workspace key ∧ deed.session.IsNew key

def Caches (workspace : Workspace) (key : String) (answer : Declaration) : Deed → Prop
  | asked .. => False
  | answered scope reference given session =>
    workspace.key scope reference = key ∧ given = answer ∧
      ∃ expansion, session.memo.find? key = some expansion

end Deed

namespace Session

structure Leads (s t : Session) : Prop where
  kept : ∀ key expansion, s.memo.find? key = some expansion → t.memo.find? key = some expansion
  old : ∀ key, ¬s.IsNew key → ¬t.IsNew key

theorem leads_refl (s : Session) : s.Leads s := ⟨fun _ _ => id, fun _ => id⟩

theorem leads_trans {s t u : Session} (first : s.Leads t) (second : t.Leads u) : s.Leads u :=
  ⟨fun key expansion known => second.kept key expansion (first.kept key expansion known),
    fun key known => second.old key (first.old key known)⟩

theorem leads_of_same {s t : Session} (memo : t.memo = s.memo) (opened : t.opened = s.opened) :
    s.Leads t := by
  constructor
  · intro key expansion known
    rwa [memo]
  · intro key old
    rwa [IsNew, memo, opened]

def IsApart (s : Session) : Prop :=
  ∀ key expansion, s.memo.find? key = some expansion → s.opened.lookup key = none

end Session

structure Deed.Precedes (workspace : Workspace) (deed : Deed) (s : Session) : Prop where
  leads : deed.session.Leads s
  asked : ∀ key, deed.Asks workspace key → ¬s.IsNew key

namespace Workspace
variable {workspace : Workspace} {scope : Document} {reference : String} {s t u v : Session}
variable {target : Target} {schema : Schema} {declared : Declaration} {log : List Deed}

/-- Following the walk from `s` ends with the result `r` in `t`; on the way references are asked
for and answered as the log says. -/
inductive Logs (workspace : Workspace) :
    {α : Type} → Walk α → Session → List Deed → Except Failure α → Session → Prop where
  | done {α : Type} (value : α) (s : Session) : Logs workspace (.done value) s [] (.ok value) s
  | failed {α : Type} (failure : Failure) (s : Session) :
    Logs workspace (.failed failure : Walk α) s [] (.error failure) s
  | noting {α : Type} {event : Event} {rest : Walk α} {s t : Session} {log : List Deed}
    {r : Except Failure α} (later : Logs workspace rest (s.noted event) log r t) :
    Logs workspace (.noting event rest) s log r t
  | grouped {α : Type} {scope : Document} {reference : String} {rest : Target × TypeMap → Walk α}
    {s t u : Session} {log : List Deed} {r : Except Failure α} {group : Target × TypeMap}
    (read : (workspace.readGroup scope reference).run s = (.ok group, u))
    (later : Logs workspace (rest group) u log r t) :
    Logs workspace (.grouping scope reference rest) s log r t
  | ungrouped {α : Type} {scope : Document} {reference : String}
    {rest : Target × TypeMap → Walk α} {s t : Session} {failure : Failure}
    (read : (workspace.readGroup scope reference).run s = (.error failure, t)) :
    Logs workspace (.grouping scope reference rest) s [] (.error failure) t
  | remembered {α : Type} {scope : Document} {reference : String} {rest : Declaration → Walk α}
    {s t : Session} {log : List Deed} {r : Except Failure α} {expansion : Expansion}
    (known : s.memo.find? (workspace.key scope reference) = some expansion)
    (later : Logs workspace (rest expansion.declaration) s log r t) :
    Logs workspace (.asking scope reference rest) s
      (.asked scope reference s :: .answered scope reference expansion.declaration s :: log) r t
  | pending {α : Type} {scope : Document} {reference : String} {rest : Declaration → Walk α}
    {s t : Session} {log : List Deed} {r : Except Failure α} {name : String}
    (unknown : s.memo.find? (workspace.key scope reference) = none)
    (isOpen : s.opened.lookup (workspace.key scope reference) = some name)
    (later : Logs workspace (rest ((Declaration.pending name).referring name)) s log r t) :
    Logs workspace (.asking scope reference rest) s
      (.asked scope reference s ::
        .answered scope reference ((Declaration.pending name).referring name) s :: log) r t
  | unreadable {α : Type} {scope : Document} {reference : String} {rest : Declaration → Walk α}
    {s t : Session} {failure : Failure}
    (isNew : s.IsNew (workspace.key scope reference))
    (read : (workspace.readSchema scope reference).run s = (.error failure, t)) :
    Logs workspace (.asking scope reference rest) s [.asked scope reference s]
      (.error failure) t
  | broken {α : Type} {scope : Document} {reference : String} {rest : Declaration → Walk α}
    {s u v : Session} {log : List Deed} {target : Target} {schema : Schema} {failure : Failure}
    (enters : workspace.Enters scope reference s target schema u)
    (inner : Logs workspace (workspace.declare target.document target.name schema)
      (workspace.inside scope reference target u) log (.error failure) v) :
    Logs workspace (.asking scope reference rest) s (.asked scope reference s :: log)
      (.error failure) (v.closing u)
  | expanded {α : Type} {scope : Document} {reference : String} {rest : Declaration → Walk α}
    {s t u v : Session} {first last : List Deed} {r : Except Failure α} {target : Target}
    {schema : Schema} {declared : Declaration}
    (enters : workspace.Enters scope reference s target schema u)
    (inner : Logs workspace (workspace.declare target.document target.name schema)
      (workspace.inside scope reference target u) first (.ok declared) v)
    (later : Logs workspace (rest (target.finish schema declared))
      (workspace.outside scope reference target (target.finish schema declared) u v) last r t) :
    Logs workspace (.asking scope reference rest) s
      (.asked scope reference s :: (first ++
        .answered scope reference (target.finish schema declared)
          (workspace.outside scope reference target (target.finish schema declared) u v) ::
          last)) r t

theorem runs_of_logs {walk : Walk α} {r : Except Failure α}
    (logs : workspace.Logs walk s log r t) : workspace.Runs walk s r t := by
  induction logs with
  | done value s => exact .done value s
  | failed failure s => exact .failed failure s
  | noting later ih => exact .noting ih
  | grouped read later ih => exact .grouped read ih
  | ungrouped read => exact .ungrouped read
  | remembered known later ih => exact .remembered known ih
  | pending unknown isOpen later ih => exact .pending unknown isOpen ih
  | unreadable isNew read => exact .unreadable isNew read
  | broken enters inner ih => exact .broken enters ih
  | expanded enters inner later ih ihLater => exact .expanded enters ih ihLater

theorem logs_of_runs {walk : Walk α} {r : Except Failure α} (run : workspace.Runs walk s r t) :
    ∃ log, workspace.Logs walk s log r t := by
  induction run with
  | done value s => exact ⟨_, .done value s⟩
  | failed failure s => exact ⟨_, .failed failure s⟩
  | noting later ih =>
    obtain ⟨log, logs⟩ := ih
    exact ⟨log, .noting logs⟩
  | grouped read later ih =>
    obtain ⟨log, logs⟩ := ih
    exact ⟨log, .grouped read logs⟩
  | ungrouped read => exact ⟨_, .ungrouped read⟩
  | remembered known later ih =>
    obtain ⟨log, logs⟩ := ih
    exact ⟨_, .remembered known logs⟩
  | pending unknown isOpen later ih =>
    obtain ⟨log, logs⟩ := ih
    exact ⟨_, .pending unknown isOpen logs⟩
  | unreadable isNew read => exact ⟨_, .unreadable isNew read⟩
  | broken enters inner ih =>
    obtain ⟨log, logs⟩ := ih
    exact ⟨_, .broken enters logs⟩
  | expanded enters inner later ih ihLater =>
    obtain ⟨first, inside⟩ := ih
    obtain ⟨last, after⟩ := ihLater
    exact ⟨_, .expanded enters inside after⟩

/-! What one expansion and one run do to a session -/

theorem inside_leads (loaded : s.IsLoaded workspace)
    (enters : workspace.Enters scope reference s target schema u) :
    s.Leads (workspace.inside scope reference target u) := by
  obtain ⟨_, reads⟩ := readSchema_reads loaded enters.read
  have opened : u.Leads (workspace.inside scope reference target u) :=
    ⟨fun _ _ => id, fun _ => old_inside⟩
  exact Session.leads_trans (Session.leads_of_same reads.memo reads.opened) opened

theorem own_not_new : ¬(workspace.inside scope reference target u).IsNew
    (workspace.key scope reference) := by
  intro isNew
  exact not_open.mp isNew.2 List.mem_cons_self

theorem runs_leads {walk : Walk α} {r : Except Failure α} (run : workspace.Runs walk s r t)
    (loaded : s.IsLoaded workspace) : s.Leads t := by
  obtain ⟨_, opened⟩ := runs_keeps run loaded
  constructor
  · intro key expansion known
    have old : ¬s.IsNew key := by
      intro isNew
      cases known.symm.trans isNew.1
    rwa [runs_old run loaded old]
  · intro key old
    exact old_of_same (runs_old run loaded old) opened old

theorem unknown_inside (loaded : s.IsLoaded workspace)
    (enters : workspace.Enters scope reference s target schema u) {r : Except Failure Declaration}
    (inner : workspace.Runs (workspace.declare target.document target.name schema)
      (workspace.inside scope reference target u) r v) :
    v.memo.find? (workspace.key scope reference) = none := by
  obtain ⟨_, reads⟩ := readSchema_reads loaded enters.read
  have inside : (workspace.inside scope reference target u).IsLoaded workspace := reads.loaded
  rw [runs_old inner inside own_not_new, Workspace.inside, Session.opening, reads.memo]
  exact enters.isNew.1

theorem outside_leads (loaded : s.IsLoaded workspace)
    (enters : workspace.Enters scope reference s target schema u)
    (inner : workspace.Runs (workspace.declare target.document target.name schema)
      (workspace.inside scope reference target u) (.ok declared) v) (declaration : Declaration) :
    v.Leads (workspace.outside scope reference target declaration u v) := by
  obtain ⟨_, reads⟩ := readSchema_reads loaded enters.read
  have inside : (workspace.inside scope reference target u).IsLoaded workspace := reads.loaded
  have opened := (runs_keeps inner inside).2
  have unknown := unknown_inside loaded enters inner
  constructor
  · intro key expansion known
    have other : key ≠ workspace.key scope reference := by
      rintro rfl
      cases unknown.symm.trans known
    rwa [outside_find other]
  · intro key old isNew
    by_cases own : key = workspace.key scope reference
    · subst own
      have found := isNew.1
      rw [outside_find_own] at found
      cases found
    · apply old
      constructor
      · rw [← outside_find own]
        exact isNew.1
      · have absent := not_open.mp isNew.2
        rw [opened]
        apply not_open.mpr
        intro member
        rcases List.mem_cons.mp member with same | around
        · exact own same
        · exact absent around

/-! The order of a log -/

structure Ordered (workspace : Workspace) (s : Session) (log : List Deed) : Prop where
  later : ∀ deed ∈ log, s.Leads deed.session
  pairwise : log.Pairwise fun first second => first.Precedes workspace second.session

theorem precedes_of_leads {deed : Deed} (precedes : deed.Precedes workspace s)
    (leads : s.Leads t) : deed.Precedes workspace t :=
  ⟨Session.leads_trans precedes.leads leads,
    fun key asked => leads.old key (precedes.asked key asked)⟩

theorem asked_precedes (leads : s.Leads t) (old : ¬t.IsNew (workspace.key scope reference)) :
    (Deed.asked scope reference s).Precedes workspace t := by
  refine ⟨leads, ?_⟩
  intro key same
  rwa [← show workspace.key scope reference = key from same]

theorem answered_precedes (answer : Declaration) (s : Session) :
    (Deed.answered scope reference answer s).Precedes workspace s :=
  ⟨Session.leads_refl s, fun _ asked => asked.elim⟩

theorem ordered_nil (s : Session) : workspace.Ordered s [] := ⟨by simp, List.Pairwise.nil⟩

theorem ordered_cons {deed : Deed} (leads : s.Leads deed.session)
    (precedes : deed.Precedes workspace u) (rest : workspace.Ordered u log) :
    workspace.Ordered s (deed :: log) := by
  have onward := Session.leads_trans leads precedes.leads
  constructor
  · intro other member
    rcases List.mem_cons.mp member with rfl | inside
    · exact leads
    · exact Session.leads_trans onward (rest.later other inside)
  · apply List.pairwise_cons.mpr
    refine ⟨?_, rest.pairwise⟩
    intro other inside
    exact precedes_of_leads precedes (rest.later other inside)

theorem ordered_append {first last : List Deed} (before : workspace.Ordered s first)
    (leads : s.Leads u) (between : ∀ deed ∈ first, deed.Precedes workspace u)
    (after : workspace.Ordered u last) : workspace.Ordered s (first ++ last) := by
  constructor
  · intro deed member
    rcases List.mem_append.mp member with early | late
    · exact before.later deed early
    · exact Session.leads_trans leads (after.later deed late)
  · apply List.pairwise_append.mpr
    refine ⟨before.pairwise, after.pairwise, ?_⟩
    intro deed early other late
    exact precedes_of_leads (between deed early) (after.later other late)

theorem ordered_at_once {r : Except Failure α} {answer : Declaration}
    (old : ¬s.IsNew (workspace.key scope reference)) (onward : s.Leads t)
    (rest : workspace.Ordered s log)
    (ends : ∀ value, r = .ok value → ∀ deed ∈ log, deed.Precedes workspace t) :
    workspace.Ordered s
        (.asked scope reference s :: .answered scope reference answer s :: log) ∧
      ∀ value, r = .ok value →
        ∀ deed ∈ Deed.asked scope reference s :: .answered scope reference answer s :: log,
          deed.Precedes workspace t := by
  have asked := asked_precedes (Session.leads_refl s) old
  have answered : (Deed.answered scope reference answer s).Precedes workspace s :=
    answered_precedes answer s
  constructor
  · have tail := ordered_cons (Session.leads_refl s) answered rest
    exact ordered_cons (Session.leads_refl s) asked tail
  · intro value same
    have after := ends value same
    simp only [List.forall_mem_cons]
    exact ⟨precedes_of_leads asked onward, precedes_of_leads answered onward, after⟩

theorem logs_ordered {walk : Walk α} {r : Except Failure α}
    (logs : workspace.Logs walk s log r t) (loaded : s.IsLoaded workspace) :
    workspace.Ordered s log ∧
      ∀ value, r = .ok value → ∀ deed ∈ log, deed.Precedes workspace t := by
  induction logs with
  | done value s => exact ⟨ordered_nil s, by simp⟩
  | failed failure s => exact ⟨ordered_nil s, by simp⟩
  | @noting _ event _ s _ _ _ later ih =>
    have noted : s.Leads (s.noted event) := Session.leads_of_same rfl rfl
    obtain ⟨ordered, ends⟩ := ih loaded
    exact ⟨ordered_append (ordered_nil s) noted (by simp) ordered, ends⟩
  | grouped read later ih =>
    obtain ⟨_, reads⟩ := readGroup_reads loaded read
    have leads := Session.leads_of_same reads.memo reads.opened
    obtain ⟨ordered, ends⟩ := ih reads.loaded
    exact ⟨ordered_append (ordered_nil _) leads (by simp) ordered, ends⟩
  | ungrouped read => exact ⟨ordered_nil _, by simp⟩
  | remembered known later ih =>
    obtain ⟨ordered, ends⟩ := ih loaded
    have onward := runs_leads (runs_of_logs later) loaded
    refine ordered_at_once ?_ onward ordered ends
    intro isNew
    cases known.symm.trans isNew.1
  | pending unknown isOpen later ih =>
    obtain ⟨ordered, ends⟩ := ih loaded
    have onward := runs_leads (runs_of_logs later) loaded
    refine ordered_at_once ?_ onward ordered ends
    intro isNew
    cases isOpen.symm.trans isNew.2
  | @unreadable _ scope reference _ s t failure isNew read =>
    refine ⟨⟨?_, List.pairwise_singleton _ _⟩, by simp⟩
    intro deed member
    rw [List.mem_singleton.mp member]
    exact Session.leads_refl s
  | @broken _ scope reference _ s u v log target schema failure enters inner ih =>
    obtain ⟨_, reads⟩ := readSchema_reads loaded enters.read
    obtain ⟨ordered, _⟩ := ih reads.loaded
    have asked := asked_precedes (inside_leads loaded enters) own_not_new
    exact ⟨ordered_cons (Session.leads_refl s) asked ordered, by simp⟩
  | @expanded _ scope reference _ s t u v first last r target schema declared enters inner later ih
      ihLater =>
    obtain ⟨_, reads⟩ := readSchema_reads loaded enters.read
    have inside : (workspace.inside scope reference target u).IsLoaded workspace := reads.loaded
    -- the key is open inside and remembered after the answer, so it is new in no later session
    have innerRun := runs_of_logs inner
    have closing := outside_leads loaded enters innerRun (target.finish schema declared)
    have through := runs_leads innerRun inside
    have still := (runs_keeps innerRun inside).1
    have onward := runs_leads (runs_of_logs later) still
    obtain ⟨ordered, ends⟩ := ih inside
    obtain ⟨rest, lastly⟩ := ihLater still
    have asked := asked_precedes (inside_leads loaded enters) own_not_new
    have within : ∀ deed ∈ first, deed.Precedes workspace (workspace.outside scope reference target
        (target.finish schema declared) u v) := by
      intro deed member
      exact precedes_of_leads (ends declared rfl deed member) closing
    have answered : (Deed.answered scope reference (target.finish schema declared)
        (workspace.outside scope reference target (target.finish schema declared) u v)).Precedes
          workspace (workspace.outside scope reference target (target.finish schema declared) u v) :=
      answered_precedes _ _
    refine ⟨ordered_cons (Session.leads_refl s) asked
      (ordered_append ordered (Session.leads_trans through closing) within
        (ordered_cons (Session.leads_refl _) answered rest)), ?_⟩
    intro value same
    have after := lastly value same
    simp only [List.forall_mem_cons, List.forall_mem_append]
    refine ⟨?_, ?_, precedes_of_leads answered onward, after⟩
    · have ending := Session.leads_trans (Session.leads_trans through closing) onward
      exact precedes_of_leads asked ending
    · intro deed member
      exact precedes_of_leads (within deed member) onward

/-! What is answered from memory -/

def Recalls (workspace : Workspace) : List Deed → Prop
  | [] => True
  | .asked scope reference s :: rest =>
    (∀ expansion, s.memo.find? (workspace.key scope reference) = some expansion →
      ∃ later, rest = .answered scope reference expansion.declaration s :: later) ∧
    workspace.Recalls rest
  | .answered scope reference answer s :: rest =>
    (∀ expansion, s.memo.find? (workspace.key scope reference) = some expansion →
      answer = expansion.declaration) ∧
    workspace.Recalls rest

theorem recalls_append {first last : List Deed} (before : workspace.Recalls first)
    (after : workspace.Recalls last) : workspace.Recalls (first ++ last) := by
  induction first with
  | nil => exact after
  | cons deed rest ih =>
    cases deed with
    | asked scope reference s =>
      refine ⟨?_, ih before.2⟩
      intro expansion known
      obtain ⟨later, same⟩ := before.1 expansion known
      exact ⟨later ++ last, by simp [same]⟩
    | answered scope reference answer s => exact ⟨before.1, ih before.2⟩

theorem recalls_last {first last : List Deed} (recalls : workspace.Recalls (first ++ last)) :
    workspace.Recalls last := by
  induction first with
  | nil => exact recalls
  | cons deed rest ih =>
    cases deed with
    | asked => exact ih recalls.2
    | answered => exact ih recalls.2

theorem recalls_caches {key : String} {answer : Declaration} {deed : Deed}
    (recalls : workspace.Recalls log) (member : deed ∈ log)
    (caches : deed.Caches workspace key answer) :
    ∃ expansion, deed.session.memo.find? key = some expansion ∧
      answer = expansion.declaration := by
  obtain ⟨first, last, rfl⟩ := List.append_of_mem member
  have here := recalls_last recalls
  cases deed with
  | asked => exact caches.elim
  | answered scope reference given s =>
    obtain ⟨rfl, rfl, expansion, known⟩ := caches
    exact ⟨expansion, known, here.1 expansion known⟩

theorem logs_recalls {walk : Walk α} {r : Except Failure α}
    (logs : workspace.Logs walk s log r t) : workspace.Recalls log := by
  induction logs with
  | done value s => trivial
  | failed failure s => trivial
  | noting later ih => exact ih
  | grouped read later ih => exact ih
  | ungrouped read => trivial
  | remembered known later ih =>
    refine ⟨?_, ?_, ih⟩
    · intro expansion found
      cases known.symm.trans found
      exact ⟨_, rfl⟩
    · intro expansion found
      cases known.symm.trans found
      rfl
  | pending unknown isOpen later ih =>
    refine ⟨?_, ?_, ih⟩
    · intro expansion found
      cases unknown.symm.trans found
    · intro expansion found
      cases unknown.symm.trans found
  | unreadable isNew read =>
    refine ⟨?_, trivial⟩
    intro expansion found
    cases isNew.1.symm.trans found
  | broken enters inner ih =>
    refine ⟨?_, ih⟩
    intro expansion found
    cases enters.isNew.1.symm.trans found
  | expanded enters inner later ih ihLater =>
    refine ⟨?_, recalls_append ih ⟨?_, ihLater⟩⟩
    · intro expansion found
      cases enters.isNew.1.symm.trans found
    · intro expansion found
      cases outside_find_own.symm.trans found
      rfl

/-- No key is expanded twice. A key that is remembered after an answer is answered at once and
with the same declaration whenever it is asked for again, and the session stays as it is. -/
structure ExpandsOnce (workspace : Workspace) (log : List Deed) : Prop where
  once : ∀ key, log.Pairwise fun first second =>
    first.Expands workspace key → ¬second.Expands workspace key
  recalled : ∀ before scope reference s after, log = before ++ .asked scope reference s :: after →
    ∀ deed ∈ before, ∀ answer, deed.Caches workspace (workspace.key scope reference) answer →
      ∃ later, after = .answered scope reference answer s :: later

theorem logs_expandsOnce {walk : Walk α} {r : Except Failure α}
    (logs : workspace.Logs walk s log r t) (loaded : s.IsLoaded workspace) :
    workspace.ExpandsOnce log := by
  have ordered := (logs_ordered logs loaded).1
  have recalls := logs_recalls logs
  constructor
  · intro key
    apply ordered.pairwise.imp
    intro first second precedes expands again
    exact precedes.asked key expands.1 again.2
  · rintro before scope reference s after rfl deed member answer caches
    obtain ⟨expansion, known, rfl⟩ :=
      recalls_caches recalls (List.mem_append_left _ member) caches
    have precedes := (List.pairwise_append.mp ordered.pairwise).2.2 deed member _
      List.mem_cons_self
    have still : s.memo.find? (workspace.key scope reference) = some expansion :=
      precedes.leads.kept _ expansion known
    exact (recalls_last recalls).1 expansion still

/-! Remembered and open keys -/

theorem runs_apart {walk : Walk α} {r : Except Failure α} (run : workspace.Runs walk s r t)
    (loaded : s.IsLoaded workspace) (apart : s.IsApart) : t.IsApart := by
  intro key expansion known
  rw [(runs_keeps run loaded).2]
  cases isOpen : s.opened.lookup key with
  | none => rfl
  | some name =>
    have old : ¬s.IsNew key := by
      intro isNew
      cases isOpen.symm.trans isNew.2
    rw [runs_old run loaded old] at known
    cases isOpen.symm.trans (apart key expansion known)

theorem inside_apart (loaded : s.IsLoaded workspace) (apart : s.IsApart)
    (enters : workspace.Enters scope reference s target schema u) :
    (workspace.inside scope reference target u).IsApart := by
  obtain ⟨_, reads⟩ := readSchema_reads loaded enters.read
  intro key expansion known
  rw [inside, Session.opening, reads.memo] at known
  apply not_open.mpr
  intro member
  rcases List.mem_cons.mp member with rfl | around
  · cases enters.isNew.1.symm.trans known
  · rw [reads.opened] at around
    exact not_open.mp (apart key expansion known) around

theorem follows_apart {walk left : Walk α} {calls : List Call}
    (follows : workspace.Follows walk s calls left t) (loaded : s.IsLoaded workspace)
    (apart : s.IsApart) : t.IsApart := by
  induction follows with
  | here walk s => exact apart
  | noting later ih => exact ih loaded apart
  | grouping read later ih =>
    obtain ⟨_, reads⟩ := readGroup_reads loaded read
    apply ih reads.loaded
    rwa [Session.IsApart, reads.memo, reads.opened]
  | asking answers later ih =>
    exact ih (answers_keeps loaded answers).1 (runs_apart answers loaded apart)

theorem moment_apart {start : Walk γ} {walk : Walk α} {chain : List (Document × String)}
    (moment : workspace.Moment start s chain walk t) (loaded : s.IsLoaded workspace)
    (apart : s.IsApart) : t.IsApart := by
  induction moment with
  | outer follows => exact follows_apart follows loaded apart
  | inner around enters follows ih =>
    have before := moment_loaded around loaded
    obtain ⟨_, reads⟩ := readSchema_reads before enters.read
    exact follows_apart follows reads.loaded (inside_apart before ih enters)

structure WorksOnce (workspace : Workspace) (walk : Walk α) (s : Session) (r : Except Failure α)
    (t : Session) : Prop where
  logged : ∃ log, workspace.Logs walk s log r t
  once : ∀ log, workspace.Logs walk s log r t → workspace.ExpandsOnce log
  moments : ∀ {β : Type} (chain : List (Document × String)) (left : Walk β) (u : Session),
    workspace.Moment walk s chain left u → u.IsApart
  ending : t.IsApart

theorem runs_worksOnce {walk : Walk α} {r : Except Failure α} (run : workspace.Runs walk s r t)
    (loaded : s.IsLoaded workspace) (apart : s.IsApart) : workspace.WorksOnce walk s r t where
  logged := logs_of_runs run
  once _ logs := logs_expandsOnce logs loaded
  moments _ _ _ moment := moment_apart moment loaded apart
  ending := runs_apart run loaded apart

end Workspace

/-- In every run over a document, whether it ends well or not, no path is asked for twice and the
document itself is asked for once; no reference is expanded twice, and one that is remembered is
answered as before without any work. -/
theorem work_is_done_once (library : Library) (tokens : TokenTable) (renderer : Renderer)
    (directory input : Path) :
    let path := rootPath directory input
    let t := ((declareDocument library tokens renderer path).run {}).2
    LoadsOnce path t.loads ∧
    ∀ body spec, library.load path = .ok body → Spec.decode body = .ok spec →
      let workspace : Workspace := ⟨⟨path, body⟩, library, tokens, renderer⟩
      ∃ r, workspace.WorksOnce (workspace.listAll spec) { trace := [.load path] } r t ∧
        (declareDocument library tokens renderer path).run {} =
          (r.map fun listed => ⟨spec, listed.surfacing t.memo⟩, t) := by
  intro path t
  refine ⟨declareDocument_loadsOnce library tokens renderer directory input, ?_⟩
  intro body spec loaded decoded workspace
  have empty : ({ trace := [.load path] } : Session).IsLoaded workspace := by
    simp [Session.IsLoaded]
  have apart : ({ trace := [.load path] } : Session).IsApart := by
    intro key expansion known
    cases known
  obtain ⟨r, u, run, same⟩ := Workspace.declareAll_runs spec empty
  have whole : (declareDocument library tokens renderer path).run {} =
      (r.map fun listed => ⟨spec, listed.surfacing u.memo⟩, u) := by
    simp only [declareDocument, Start.load, Resolve.run_bind, Resolve.run_record,
      Resolve.run_ofExcept, loaded, decoded, Resolve.run_pure]
    rw [same]
    cases r <;> rfl
  have ending : t = u := congrArg Prod.snd whole
  rw [ending]
  exact ⟨r, Workspace.runs_worksOnce run empty apart, whole⟩

end Typewright
