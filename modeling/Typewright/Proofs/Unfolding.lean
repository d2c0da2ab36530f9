import Mathlib.Logic.Relation
import Typewright.Proofs.History

/-!
Walks without memory. Every reference is expanded anew wherever it is asked for, so what a walk
comes to depends on the documents alone. Where no reference leads back to itself, a session that
remembers unfoldings only comes to the same results and remembers unfoldings again.
-/
namespace Typewright

def Session.Has (s : Session) (key : String) : Prop :=
  ∃ expansion, s.memo.find? key = some expansion

namespace Workspace
variable {workspace : Workspace} {scope : Document} {reference : String} {s t u v : Session}

/-- Without memory the walk comes to the result `r`, and references with these keys are expanded on
the way. -/
inductive Unfolds (workspace : Workspace) :
    {α : Type} → Walk α → List String → Except Failure α → Prop where
  | done {α : Type} (value : α) : Unfolds workspace (.done value) [] (.ok value)
  | failed {α : Type} (failure : Failure) :
    Unfolds workspace (.failed failure : Walk α) [] (.error failure)
  | noting {α : Type} {event : Event} {rest : Walk α} {keys : List String} {r : Except Failure α}
    (later : Unfolds workspace rest keys r) : Unfolds workspace (.noting event rest) keys r
  | grouped {α : Type} {scope : Document} {reference : String} {rest : Target × TypeMap → Walk α}
    {keys : List String} {r : Except Failure α} {group : Target × TypeMap}
    (found : workspace.groupAt scope reference = .ok group)
    (later : Unfolds workspace (rest group) keys r) :
    Unfolds workspace (.grouping scope reference rest) keys r
  | ungrouped {α : Type} {scope : Document} {reference : String}
    {rest : Target × TypeMap → Walk α} {failure : Failure}
    (found : workspace.groupAt scope reference = .error failure) :
    Unfolds workspace (.grouping scope reference rest) [] (.error failure)
  | unreadable {α : Type} {scope : Document} {reference : String} {rest : Declaration → Walk α}
    {failure : Failure} (found : workspace.schemaAt scope reference = .error failure) :
    Unfolds workspace (.asking scope reference rest) [] (.error failure)
  | broken {α : Type} {scope : Document} {reference : String} {rest : Declaration → Walk α}
    {keys : List String} {target : Target} {schema : Schema} {failure : Failure}
    (found : workspace.schemaAt scope reference = .ok (target, schema))
    (inner : Unfolds workspace (workspace.declare target.document target.name schema) keys
      (.error failure)) :
    Unfolds workspace (.asking scope reference rest) keys (.error failure)
  | expanded {α : Type} {scope : Document} {reference : String} {rest : Declaration → Walk α}
    {first last : List String} {r : Except Failure α} {target : Target} {schema : Schema}
    {declared : Declaration}
    (found : workspace.schemaAt scope reference = .ok (target, schema))
    (inner : Unfolds workspace (workspace.declare target.document target.name schema) first
      (.ok declared))
    (later : Unfolds workspace (rest (target.finish schema declared)) last r) :
    Unfolds workspace (.asking scope reference rest)
      (workspace.key scope reference :: first ++ last) r

section Unfolds
variable {keys others : List String}

theorem unfolds_unique {walk : Walk α} {r q : Except Failure α}
    (unfolds : workspace.Unfolds walk keys r) (other : workspace.Unfolds walk others q) :
    keys = others ∧ r = q := by
  induction unfolds generalizing others with
  | done value =>
    cases other
    exact ⟨rfl, rfl⟩
  | failed failure =>
    cases other
    exact ⟨rfl, rfl⟩
  | noting later ih =>
    cases other with
    | noting again => exact ih again
  | grouped found later ih =>
    cases other with
    | grouped again last =>
      cases found.symm.trans again
      exact ih last
    | ungrouped again => cases found.symm.trans again
  | ungrouped found =>
    cases other with
    | grouped again last => cases found.symm.trans again
    | ungrouped again =>
      cases found.symm.trans again
      exact ⟨rfl, rfl⟩
  | unreadable found =>
    cases other with
    | unreadable again =>
      cases found.symm.trans again
      exact ⟨rfl, rfl⟩
    | broken again => cases found.symm.trans again
    | expanded again => cases found.symm.trans again
  | broken found inner ih =>
    cases other with
    | unreadable again => cases found.symm.trans again
    | broken again last =>
      cases found.symm.trans again
      obtain ⟨rfl, same⟩ := ih last
      cases same
      exact ⟨rfl, rfl⟩
    | expanded again last =>
      cases found.symm.trans again
      cases (ih last).2
  | expanded found inner later ih ihLater =>
    cases other with
    | unreadable again => cases found.symm.trans again
    | broken again last =>
      cases found.symm.trans again
      cases (ih last).2
    | expanded again last after =>
      cases found.symm.trans again
      obtain ⟨rfl, same⟩ := ih last
      cases same
      obtain ⟨rfl, same⟩ := ihLater after
      exact ⟨rfl, same⟩

theorem unfolds_grouping {rest : Target × TypeMap → Walk α} {r : Except Failure α} :
    workspace.Unfolds (.grouping scope reference rest) keys r ↔
      (∃ group, workspace.groupAt scope reference = .ok group ∧
        workspace.Unfolds (rest group) keys r) ∨
      ∃ failure, r = .error failure ∧ keys = [] ∧
        workspace.groupAt scope reference = .error failure := by
  constructor
  · intro unfolds
    cases unfolds with
    | grouped found later => exact .inl ⟨_, found, later⟩
    | ungrouped found => exact .inr ⟨_, rfl, rfl, found⟩
  · rintro (⟨group, found, later⟩ | ⟨failure, rfl, rfl, found⟩)
    · exact .grouped found later
    · exact .ungrouped found

theorem unfolds_asking {rest : Declaration → Walk α} {r : Except Failure α} :
    workspace.Unfolds (.asking scope reference rest) keys r ↔
      (∃ answer first last, keys = first ++ last ∧
        workspace.Unfolds (Walk.ask scope reference) first (.ok answer) ∧
        workspace.Unfolds (rest answer) last r) ∨
      ∃ failure, r = .error failure ∧
        workspace.Unfolds (Walk.ask scope reference) keys (.error failure) := by
  constructor
  · intro unfolds
    cases unfolds with
    | unreadable found => exact .inr ⟨_, rfl, .unreadable found⟩
    | broken found inner => exact .inr ⟨_, rfl, .broken found inner⟩
    | @expanded _ _ _ _ first last _ _ _ _ found inner later =>
      refine .inl ⟨_, workspace.key scope reference :: first, last, rfl, ?_, later⟩
      simpa [Walk.ask] using Unfolds.expanded found inner (.done _)
  · unfold Walk.ask
    rintro (⟨answer, first, last, rfl, asked, later⟩ | ⟨failure, rfl, asked⟩)
    · cases asked with
      | expanded found inner done =>
        cases done
        simpa using Unfolds.expanded found inner later
    · cases asked with
      | unreadable found => exact .unreadable found
      | broken found inner => exact .broken found inner
      | expanded found inner done => cases done

theorem unfolds_bind {walk : Walk α} {next : α → Walk β} {r : Except Failure β} :
    workspace.Unfolds (walk >>= next) keys r ↔
      (∃ value first last, keys = first ++ last ∧ workspace.Unfolds walk first (.ok value) ∧
        workspace.Unfolds (next value) last r) ∨
      ∃ failure, r = .error failure ∧ workspace.Unfolds walk keys (.error failure) := by
  induction walk generalizing keys with
  | done value =>
    show workspace.Unfolds (next value) keys r ↔ _
    constructor
    · exact fun unfolds => .inl ⟨value, [], keys, rfl, .done value, unfolds⟩
    · rintro (⟨other, first, last, rfl, done, later⟩ | ⟨failure, _, done⟩)
      · cases done
        exact later
      · cases done
  | failed failure =>
    show workspace.Unfolds (.failed failure) keys r ↔ _
    constructor
    · intro unfolds
      cases unfolds
      exact .inr ⟨failure, rfl, .failed failure⟩
    · rintro (⟨value, first, last, _, failed, _⟩ | ⟨cause, rfl, failed⟩)
      · cases failed
      · cases failed
        exact .failed failure
  | noting event rest ih =>
    show workspace.Unfolds (.noting event (rest >>= next)) keys r ↔ _
    constructor
    · rintro ⟨⟩
      next later =>
      rcases ih.mp later with ⟨value, first, last, same, walked, after⟩ | ⟨failure, same, walked⟩
      · exact .inl ⟨value, first, last, same, .noting walked, after⟩
      · exact .inr ⟨failure, same, .noting walked⟩
    · rintro (⟨value, first, last, same, ⟨⟩, after⟩ | ⟨failure, same, ⟨⟩⟩)
      · next walked => exact .noting (ih.mpr (.inl ⟨value, first, last, same, walked, after⟩))
      · next walked => exact .noting (ih.mpr (.inr ⟨failure, same, walked⟩))
  | asking scope reference rest ih =>
    show workspace.Unfolds (.asking scope reference fun answer => rest answer >>= next) keys r ↔ _
    simp only [unfolds_asking, ih]
    constructor
    · rintro (⟨answer, first, _, rfl, asked, ⟨value, middle, last, rfl, walked, after⟩ |
        ⟨failure, rfl, walked⟩⟩ | ⟨failure, rfl, asked⟩)
      · exact .inl ⟨value, first ++ middle, last, by simp, .inl ⟨answer, first, middle, rfl, asked,
          walked⟩, after⟩
      · exact .inr ⟨failure, rfl, .inl ⟨answer, first, _, rfl, asked, walked⟩⟩
      · exact .inr ⟨failure, rfl, .inr ⟨failure, rfl, asked⟩⟩
    · rintro (⟨value, _, last, rfl, ⟨answer, first, middle, rfl, asked, walked⟩ |
        ⟨failure, same, _⟩, after⟩ | ⟨failure, rfl, ⟨answer, first, last, rfl, asked, walked⟩ |
        ⟨cause, same, asked⟩⟩)
      · exact .inl ⟨answer, first, middle ++ last, by simp, asked, .inl ⟨value, middle, last, rfl,
          walked, after⟩⟩
      · exact absurd same nofun
      · exact .inl ⟨answer, first, last, rfl, asked, .inr ⟨failure, rfl, walked⟩⟩
      · cases same
        exact .inr ⟨failure, rfl, asked⟩
  | grouping scope reference rest ih =>
    show workspace.Unfolds (.grouping scope reference fun answer => rest answer >>= next) keys r ↔ _
    simp only [unfolds_grouping, ih]
    constructor
    · rintro (⟨group, found, ⟨value, first, last, same, walked, after⟩ | ⟨failure, rfl, walked⟩⟩ |
        ⟨failure, rfl, rfl, found⟩)
      · exact .inl ⟨value, first, last, same, .inl ⟨group, found, walked⟩, after⟩
      · exact .inr ⟨failure, rfl, .inl ⟨group, found, walked⟩⟩
      · exact .inr ⟨failure, rfl, .inr ⟨failure, rfl, rfl, found⟩⟩
    · rintro (⟨value, first, last, same, ⟨group, found, walked⟩ | ⟨failure, other, _⟩, after⟩ |
        ⟨failure, rfl, ⟨group, found, walked⟩ | ⟨cause, same, rfl, found⟩⟩)
      · exact .inl ⟨group, found, .inl ⟨value, first, last, same, walked, after⟩⟩
      · exact absurd other nofun
      · exact .inl ⟨group, found, .inr ⟨failure, rfl, walked⟩⟩
      · cases same
        exact .inr ⟨failure, rfl, rfl, found⟩

end Unfolds

/-! The graph of references -/

/-- The second reference is written in what the first one leads to. -/
def Edge (workspace : Workspace) (a b : Document × String) : Prop :=
  ∃ target schema, workspace.schemaAt a.1 a.2 = .ok (target, schema) ∧
    b.1 = target.document ∧ b.2 ∈ schema.references

def Acyclic (workspace : Workspace) : Prop :=
  ∀ scope, workspace.Serves scope → ∀ reference,
    ¬Relation.TransGen workspace.Edge (scope, reference) (scope, reference)

def endsWithin (workspace : Workspace) : Nat → Document → String → Bool
  | 0, _, _ => false
  | depth + 1, scope, reference =>
    match workspace.schemaAt scope reference with
    | .error _ => true
    | .ok (target, schema) => schema.references.all (workspace.endsWithin depth target.document)

theorem not_cyclic_of_endsWithin {depth : Nat} {a : Document × String}
    (ends : workspace.endsWithin depth a.1 a.2 = true) :
    ¬Relation.TransGen workspace.Edge a a := by
  induction depth generalizing a with
  | zero => cases ends
  | succ depth ih =>
    intro cycle
    obtain ⟨b, ⟨target, schema, found, document, written⟩, back⟩ :=
      Relation.TransGen.head'_iff.mp cycle
    simp only [endsWithin, found] at ends
    have below : workspace.endsWithin depth b.1 b.2 = true := by
      rw [document]
      exact List.all_eq_true.mp ends b.2 written
    exact ih below (Relation.TransGen.tail' back ⟨target, schema, found, document, written⟩)

def documents (workspace : Workspace) : List Document :=
  workspace.root :: workspace.library.documents.filterMap fun (path, result) =>
    result.toOption.map fun body => ⟨path, body⟩

theorem mem_documents {document : Document} (served : workspace.Serves document) :
    document ∈ workspace.documents := by
  rcases served with rfl | ⟨path, fetched⟩
  · exact List.mem_cons_self
  · rcases fetch_ok fetched with rfl | ⟨named, loaded⟩
    · exact List.mem_cons_self
    · rw [← named] at loaded
      exact List.mem_cons_of_mem _
        (List.mem_filterMap.mpr ⟨(document.path, .ok document.body), load_mem loaded, rfl⟩)

theorem acyclic_of_endsWithin {depth : Nat}
    (ends : ∀ document ∈ workspace.documents, ∀ reference ∈ document.body.references,
      workspace.endsWithin depth document reference = true) : workspace.Acyclic := by
  intro scope served reference cycle
  obtain ⟨before, _, target, schema, found, document, written⟩ :=
    Relation.TransGen.tail'_iff.mp cycle
  obtain ⟨value, ⟨_, _, _, origin, read⟩, decoded⟩ := schemaAt_leads found
  have inside : reference ∈ scope.body.references := by
    rw [show scope = target.document from document]
    exact Reference.read_references read (Schema.decodeNamed_references decoded written)
  exact not_cyclic_of_endsWithin (ends scope (mem_documents served) reference inside) cycle

def Reached (workspace : Workspace) (sites : List (Path × String))
    (opened : List (String × String)) (scope : Document) (reference : String) : Prop :=
  Lists workspace.Serves sites scope reference ∧
    ∀ pair ∈ opened, ∃ a q, Lists workspace.Serves sites a q ∧ workspace.key a q = pair.1 ∧
      Relation.TransGen workspace.Edge (a, q) (scope, reference)

/-- What is remembered under the key is what a listed reference with this key unfolds to, and
whatever is expanded on the way is remembered as well. -/
def Faithful (workspace : Workspace) (sites : List (Path × String)) (s : Session) (key : String)
    (expansion : Expansion) : Prop :=
  ∃ scope reference schema keys, key = workspace.key scope reference ∧
    Lists workspace.Serves sites scope reference ∧
    workspace.schemaAt scope reference = .ok (expansion.target, schema) ∧
    workspace.Unfolds (Walk.ask scope reference) keys (.ok expansion.declaration) ∧
    ∀ other ∈ keys, s.Has other

structure Ready (workspace : Workspace) (sites : List (Path × String)) (walk : Walk α)
    (s : Session) : Prop where
  loaded : s.IsLoaded workspace
  asks : workspace.Asks (workspace.Reached sites s.opened) walk
  faithful : s.Remembers (workspace.Faithful sites s)

variable {sites : List (Path × String)}

theorem not_open_of_reached (acyclic : workspace.Acyclic) (apart : workspace.KeysApart sites)
    (reached : workspace.Reached sites s.opened scope reference) :
    s.opened.lookup (workspace.key scope reference) = none := by
  refine not_open.mpr fun isOpen => ?_
  obtain ⟨pair, member, same⟩ := List.mem_map.mp isOpen
  obtain ⟨a, q, listed, key, path⟩ := reached.2 pair member
  obtain ⟨rfl, rfl⟩ := same_of_key apart listed reached.1 (key.trans same)
  exact acyclic a listed.2 q path

theorem target_reached (covering : workspace.Covering workspace.Serves sites)
    (reached : workspace.Reached sites s.opened scope reference) {target : Target}
    {schema : Schema} (found : workspace.schemaAt scope reference = .ok (target, schema))
    (same : u.opened = s.opened) :
    workspace.Asks (workspace.Reached sites (workspace.inside scope reference target u).opened)
      (workspace.declare target.document target.name schema) := by
  obtain ⟨value, leads, decoded⟩ := schemaAt_leads found
  obtain ⟨served, listed⟩ := leads_good covering reached.1.2 leads
  refine declareUnder_asks fun other written => ?_
  have edge : workspace.Edge (scope, reference) (target.document, other) :=
    ⟨target, schema, found, rfl, written⟩
  refine ⟨⟨listed other (Schema.decodeNamed_references decoded written), served⟩, ?_⟩
  rw [inside, Session.opening, same]
  refine List.forall_mem_cons.mpr ⟨⟨scope, reference, reached.1, rfl, .single edge⟩, ?_⟩
  intro pair member
  obtain ⟨a, q, outer, key, path⟩ := reached.2 pair member
  exact ⟨a, q, outer, key, path.tail edge⟩

theorem faithful_mono {key : String} {expansion : Expansion}
    (grows : ∀ other, s.Has other → t.Has other)
    (faithful : workspace.Faithful sites s key expansion) :
    workspace.Faithful sites t key expansion := by
  obtain ⟨scope, reference, schema, keys, same, listed, found, unfolds, known⟩ := faithful
  exact ⟨scope, reference, schema, keys, same, listed, found, unfolds,
    fun other member => grows other (known other member)⟩

theorem faithful_of_memo (faithful : s.Remembers (workspace.Faithful sites s))
    (same : t.memo = s.memo) : t.Remembers (workspace.Faithful sites t) := by
  have grows : ∀ other, s.Has other → t.Has other := fun other => by
    rw [Session.Has, Session.Has, same]
    exact id
  intro key expansion found
  rw [same] at found
  exact faithful_mono grows (faithful key expansion found)

theorem unfolds_of_memo (apart : workspace.KeysApart sites)
    (faithful : s.Remembers (workspace.Faithful sites s))
    (listed : Lists workspace.Serves sites scope reference) {expansion : Expansion}
    (known : s.memo.find? (workspace.key scope reference) = some expansion) :
    ∃ keys, workspace.Unfolds (Walk.ask scope reference) keys (.ok expansion.declaration) ∧
      ∀ other ∈ keys, s.Has other := by
  obtain ⟨a, q, schema, keys, same, other, _, unfolds, closed⟩ := faithful _ _ known
  obtain ⟨rfl, rfl⟩ := same_of_key apart listed other same
  exact ⟨keys, unfolds, closed⟩

theorem outside_has {key : String} {target : Target} {declaration : Declaration} :
    (workspace.outside scope reference target declaration u v).Has key ↔
      key = workspace.key scope reference ∨ v.Has key := by
  unfold Session.Has
  by_cases own : key = workspace.key scope reference
  · subst own
    simp [outside_find_own]
  · simp [outside_find own, own]

theorem outside_faithful {keys : List String} {target : Target} {schema : Schema}
    {declaration : Declaration} (listed : Lists workspace.Serves sites scope reference)
    (found : workspace.schemaAt scope reference = .ok (target, schema))
    (unfolds : workspace.Unfolds (Walk.ask scope reference) keys (.ok declaration))
    (known : ∀ other ∈ keys, other = workspace.key scope reference ∨ v.Has other)
    (faithful : v.Remembers (workspace.Faithful sites v)) :
    (workspace.outside scope reference target declaration u v).Remembers
      (workspace.Faithful sites (workspace.outside scope reference target declaration u v)) := by
  intro key expansion remembered
  by_cases own : key = workspace.key scope reference
  · subst own
    rw [outside_find_own] at remembered
    cases remembered
    exact ⟨scope, reference, schema, keys, rfl, listed, found, unfolds,
      fun other member => outside_has.mpr (known other member)⟩
  · rw [outside_find own] at remembered
    exact faithful_mono (fun other has => outside_has.mpr (.inr has))
      (faithful key expansion remembered)

/-- A run from a ready session comes to what its walk unfolds to, and remembers unfoldings only.
What is remembered after a run that succeeds is what was remembered before or is expanded in the
unfolding. -/
theorem runs_unfolds (acyclic : workspace.Acyclic) (apart : workspace.KeysApart sites)
    (covering : workspace.Covering workspace.Serves sites) {walk : Walk α} {r : Except Failure α}
    (run : workspace.Runs walk s r t) (ready : workspace.Ready sites walk s) :
    t.Remembers (workspace.Faithful sites t) ∧ ∃ keys, workspace.Unfolds walk keys r ∧
      ∀ value, r = .ok value → ∀ key, t.Has key ↔ s.Has key ∨ key ∈ keys := by
  induction run with
  | done value s => exact ⟨ready.faithful, [], .done value, by simp⟩
  | failed failure s => exact ⟨ready.faithful, [], .failed failure, nofun⟩
  | noting later ih =>
    obtain ⟨faithful, keys, unfolds, has⟩ := ih ⟨ready.loaded, ready.asks, ready.faithful⟩
    exact ⟨faithful, keys, .noting unfolds, has⟩
  | grouped read later ih =>
    obtain ⟨found, reads⟩ := readGroup_reads ready.loaded read
    obtain ⟨faithful, keys, unfolds, has⟩ := ih ⟨reads.loaded,
      reads.opened ▸ ready.asks _ found.symm, faithful_of_memo ready.faithful reads.memo⟩
    refine ⟨faithful, keys, .grouped found.symm unfolds, fun value same key => ?_⟩
    rw [has value same key, Session.Has, reads.memo, Session.Has]
  | ungrouped read =>
    obtain ⟨found, reads⟩ := readGroup_reads ready.loaded read
    exact ⟨faithful_of_memo ready.faithful reads.memo, [], .ungrouped found.symm, nofun⟩
  | remembered known later ih =>
    obtain ⟨reached, after⟩ := ready.asks
    obtain ⟨first, asked, closed⟩ := unfolds_of_memo apart ready.faithful reached.1 known
    obtain ⟨faithful, last, unfolds, has⟩ := ih ⟨ready.loaded, after _, ready.faithful⟩
    refine ⟨faithful, first ++ last, unfolds_asking.mpr (.inl ⟨_, first, last, rfl, asked,
      unfolds⟩), fun value same key => ?_⟩
    rw [has value same key, List.mem_append]
    constructor
    · exact Or.imp_right .inr
    · rintro (old | inFirst | inLast)
      · exact .inl old
      · exact .inl (closed key inFirst)
      · exact .inr inLast
  | pending unknown isOpen later ih =>
    have closed := not_open_of_reached acyclic apart ready.asks.1
    cases isOpen.symm.trans closed
  | unreadable isNew read =>
    obtain ⟨found, reads⟩ := readSchema_reads ready.loaded read
    exact ⟨faithful_of_memo ready.faithful reads.memo, [], .unreadable found.symm, nofun⟩
  | broken enters inner ih =>
    obtain ⟨found, reads⟩ := readSchema_reads ready.loaded enters.read
    obtain ⟨faithful, keys, unfolds, _⟩ := ih ⟨reads.loaded,
      target_reached covering ready.asks.1 found.symm reads.opened,
      faithful_of_memo ready.faithful reads.memo⟩
    exact ⟨faithful_of_memo faithful rfl, keys, .broken found.symm unfolds, nofun⟩
  | @expanded _ scope reference _ s _ u v _ target schema declared enters inner later ih ihLater =>
    obtain ⟨reached, after⟩ := ready.asks
    obtain ⟨found, reads⟩ := readSchema_reads ready.loaded enters.read
    obtain ⟨inFaithful, first, inUnfolds, inHas⟩ := ih ⟨reads.loaded,
      target_reached covering reached found.symm reads.opened,
      faithful_of_memo ready.faithful reads.memo⟩
    have asked := Unfolds.expanded found.symm inUnfolds (.done _)
    have inside : ∀ key, v.Has key ↔ s.Has key ∨ key ∈ first := fun key => by
      rw [inHas declared rfl key, Session.Has, Session.Has, ← reads.memo]
      rfl
    have known : ∀ other ∈ workspace.key scope reference :: first ++ [],
        other = workspace.key scope reference ∨ v.Has other := by
      intro other member
      rw [List.append_nil] at member
      exact (List.mem_cons.mp member).imp_right fun isIn => (inside other).mpr (.inr isIn)
    have outFaithful := outside_faithful (u := u) reached.1 found.symm asked known inFaithful
    obtain ⟨faithful, last, unfolds, has⟩ := ihLater ⟨(runs_keeps inner reads.loaded).1,
      reads.opened ▸ after _, outFaithful⟩
    refine ⟨faithful, _, .expanded found.symm inUnfolds unfolds, fun value same key => ?_⟩
    rw [has value same key, outside_has, inside key]
    simp only [List.cons_append, List.mem_cons, List.mem_append]
    tauto

section Ready
variable (acyclic : workspace.Acyclic) (apart : workspace.KeysApart sites)
variable (covering : workspace.Covering workspace.Serves sites)
include acyclic apart covering

theorem follows_ready {walk left : Walk α} {calls : List Call}
    (follows : workspace.Follows walk s calls left t) (ready : workspace.Ready sites walk s) :
    workspace.Ready sites left t := by
  induction follows with
  | here walk s => exact ready
  | noting later ih => exact ih ⟨ready.loaded, ready.asks, ready.faithful⟩
  | grouping read later ih =>
    obtain ⟨found, reads⟩ := readGroup_reads ready.loaded read
    exact ih ⟨reads.loaded, reads.opened ▸ ready.asks _ found.symm,
      faithful_of_memo ready.faithful reads.memo⟩
  | asking answers later ih =>
    obtain ⟨kept, same⟩ := answers_keeps ready.loaded answers
    have asked := runs_unfolds acyclic apart covering answers
      ⟨ready.loaded, ⟨ready.asks.1, fun _ => trivial⟩, ready.faithful⟩
    exact ih ⟨kept, same ▸ ready.asks.2 _, asked.1⟩

theorem moment_ready {start : Walk γ} {walk : Walk α} {chain : List (Document × String)}
    (moment : workspace.Moment start s chain walk t) (ready : workspace.Ready sites start s) :
    workspace.Ready sites walk t := by
  induction moment with
  | outer follows => exact follows_ready acyclic apart covering follows ready
  | inner around enters follows ih =>
    obtain ⟨found, reads⟩ := readSchema_reads ih.loaded enters.read
    refine follows_ready acyclic apart covering follows ⟨reads.loaded, ?_, ?_⟩
    · exact target_reached covering ih.asks.1 found.symm reads.opened
    · exact faithful_of_memo ih.faithful reads.memo

end Ready

/-! Histories of requests -/

def Request.IsServed (workspace : Workspace) : Request → Prop
  | types scope _ => workspace.Serves scope
  | all _ => True

def reach (workspace : Workspace) (requests : List Request) : List (Path × String) :=
  workspace.sites ++ requests.flatMap (Request.sites workspace)

/-- No reference leads back to itself, keys tell the references of a history apart, and scopes are
documents that are served. -/
structure IsClear (workspace : Workspace) (requests : List Request) : Prop where
  acyclic : workspace.Acyclic
  apart : workspace.KeysApart (workspace.reach requests)
  served : ∀ request ∈ requests, request.IsServed workspace

variable {requests : List Request} {trace : List Event}

theorem ready_of_closed {walk : Walk α} (loaded : s.IsLoaded workspace) (closed : s.opened = [])
    (faithful : s.Remembers (workspace.Faithful sites s))
    (asks : workspace.Asks (Lists workspace.Serves sites) walk) :
    workspace.Ready sites walk s := by
  refine ⟨loaded, asks_mono (fun scope reference listed => ⟨listed, ?_⟩) asks, faithful⟩
  simp [closed]

theorem mem_reach {request : Request} (member : request ∈ requests) {site : Path × String}
    (inside : site ∈ request.sites workspace) : site ∈ workspace.reach requests :=
  List.mem_append_right _ (List.mem_flatMap.mpr ⟨request, member, inside⟩)

theorem covering_reach (requests : List Request) :
    workspace.Covering workspace.Serves (workspace.reach requests) :=
  covering_served workspace _

theorem types_ask_reach {types other : TypeMap} (served : workspace.Serves scope)
    (member : .types scope types ∈ requests)
    (values : ∀ value ∈ other.values, value ∈ types.values) :
    workspace.Asks (Lists workspace.Serves (workspace.reach requests))
      (workspace.listTypes scope other) :=
  listTypes_asks served fun value isIn _ written =>
    mem_reach member (mem_sites (List.mem_cons_of_mem _ (values value isIn)) written)

theorem all_ask_reach {spec other : Spec} (member : .all spec ∈ requests)
    (values : ∀ value ∈ other.values, value ∈ spec.values) :
    workspace.Asks (Lists workspace.Serves (workspace.reach requests)) (workspace.listAll other) :=
  listAll_asks (covering_reach requests) fun value isIn _ written =>
    mem_reach member (mem_sites (values value isIn) written)

theorem request_asks (served : ∀ request ∈ requests, request.IsServed workspace)
    {request : Request} (member : request ∈ requests) :
    workspace.Asks (Lists workspace.Serves (workspace.reach requests))
      (request.walk workspace) := by
  cases request with
  | types scope types => exact types_ask_reach (served _ member) member fun _ => id
  | all spec => exact all_ask_reach member fun _ => id

theorem request_faithful (clear : workspace.IsClear requests) {request : Request}
    (member : request ∈ requests) (loaded : s.IsLoaded workspace) (closed : s.opened = [])
    (faithful : s.Remembers (workspace.Faithful (workspace.reach requests) s)) :
    (request.after workspace s).Remembers
      (workspace.Faithful (workspace.reach requests) (request.after workspace s)) := by
  obtain ⟨r, run⟩ := request.runs loaded
  have ready := ready_of_closed loaded closed faithful (request_asks clear.served member)
  exact (runs_unfolds clear.acyclic clear.apart (covering_reach requests) run ready).1

theorem after_faithful (clear : workspace.IsClear requests) (earlier later : List Request)
    (split : requests = earlier ++ later) :
    (workspace.after trace earlier).Remembers
      (workspace.Faithful (workspace.reach requests) (workspace.after trace earlier)) := by
  induction earlier using List.reverseRecOn generalizing later with
  | nil => exact fun key expansion found => nomatch found
  | append_singleton earlier request ih =>
    have split : requests = earlier ++ request :: later := by simpa using split
    obtain ⟨loaded, closed⟩ := workspace.after_keeps trace earlier
    rw [after_append]
    exact request_faithful clear (by simp [split]) loaded closed (ih (request :: later) split)

theorem begins_ready (clear : workspace.IsClear requests) {walk : Walk β}
    (begins : workspace.Begins trace requests walk t) :
    ∃ (α : Type) (next : β → Walk α),
      workspace.Ready (workspace.reach requests) (walk >>= next) t := by
  obtain ⟨earlier, request, later, split, begins⟩ := begins
  obtain ⟨α, chain, next, moment⟩ := Request.begins_iff.mp begins
  have member : request ∈ requests := by simp [split]
  have faithful : (workspace.after trace earlier).Remembers
      (workspace.Faithful (workspace.reach requests) (workspace.after trace earlier)) :=
    after_faithful clear earlier _ split
  obtain ⟨loaded, closed⟩ := workspace.after_keeps trace earlier
  have ready := ready_of_closed loaded closed faithful (request_asks clear.served member)
  exact ⟨α, next, moment_ready clear.acyclic clear.apart (covering_reach requests) moment ready⟩

end Workspace

end Typewright
