import Mathlib.Data.Finset.Card
import Mathlib.Data.List.Dedup
import Typewright.Proofs.Reading
import Typewright.Proofs.WrittenReferences

/-!
Resolution ends on every graph of references. A reference is expanded only while it is not open,
so no key occurs twice on a chain of nested expansions, and every key comes from a reference that
is written in one of finitely many documents. The bound of `Workspace.perform` is never reached.
-/
namespace Typewright.Workspace
variable {workspace : Workspace} {scope : Document} {reference : String} {s t u : Session}

def Asks (workspace : Workspace) (allowed : Document → String → Prop) : Walk α → Prop
  | .done _ => True
  | .failed _ => True
  | .noting _ rest => workspace.Asks allowed rest
  | .asking scope reference rest =>
    allowed scope reference ∧ ∀ answer, workspace.Asks allowed (rest answer)
  | .grouping scope reference rest =>
    ∀ group, workspace.groupAt scope reference = .ok group → workspace.Asks allowed (rest group)

section Asks
variable {allowed : Document → String → Prop}

theorem asks_bind {walk : Walk α} {next : α → Walk β} (first : workspace.Asks allowed walk)
    (later : ∀ value, workspace.Asks allowed (next value)) :
    workspace.Asks allowed (walk >>= next) := by
  induction walk with
  | done value => exact later value
  | failed failure => trivial
  | noting event rest ih => exact ih first
  | asking scope reference rest ih => exact ⟨first.1, fun answer => ih answer (first.2 answer)⟩
  | grouping scope reference rest ih => exact fun group found => ih group (first group found)

theorem asks_mono {other : Document → String → Prop} {walk : Walk α}
    (weaker : ∀ scope reference, allowed scope reference → other scope reference)
    (asks : workspace.Asks allowed walk) : workspace.Asks other walk := by
  induction walk with
  | done value => trivial
  | failed failure => trivial
  | noting event rest ih => exact ih asks
  | asking scope reference rest ih =>
    exact ⟨weaker scope reference asks.1, fun answer => ih answer (asks.2 answer)⟩
  | grouping scope reference rest ih => exact fun group found => ih group (asks group found)

theorem asks_ofExcept (result : Except Failure α) :
    workspace.Asks allowed (Walk.ofExcept result) := by
  cases result <;> trivial

theorem asks_render (kind : DeclarationKind) (name : String) (text : Except Failure String) :
    workspace.Asks allowed (render kind name text) :=
  asks_ofExcept text

theorem asks_partwise (workspace : Workspace) (allowed : Document → String → Prop) :
    Walk.Partwise (workspace.Asks allowed) :=
  ⟨asks_ofExcept, asks_render, asks_bind⟩

theorem declareUnder_asks {ancestry : List String} {name : String} {schema : Schema}
    (inside : ∀ reference ∈ schema.references, allowed scope reference) :
    workspace.Asks allowed (workspace.declareUnder scope ancestry name schema) :=
  (asks_partwise workspace allowed).declareUnder fun reference written =>
    ⟨inside reference written, fun _ => trivial⟩

theorem declareEntries_asks {entries : List (String × Yaml.Value)} {declared : Declarations}
    (inside : ∀ entry ∈ entries, ∀ reference ∈ entry.2.references, allowed scope reference) :
    workspace.Asks allowed (workspace.declareEntries scope entries declared) :=
  (asks_partwise workspace allowed).declareEntries fun entry member reference written =>
    ⟨inside entry member reference written, fun _ => trivial⟩

end Asks

/-! Sites -/

def siteKey (workspace : Workspace) (site : Path × String) : String :=
  workspace.key ⟨site.1, .null⟩ site.2

/-- The sites list every reference of the good documents, and the served ones are good. -/
structure Covering (workspace : Workspace) (good : Document → Prop)
    (sites : List (Path × String)) : Prop where
  served : ∀ document, workspace.Serves document → good document
  written : ∀ document, good document → ∀ reference ∈ document.body.references,
    (document.path, reference) ∈ sites

/-- The reference is listed, and its document is good. -/
def Lists (good : Document → Prop) (sites : List (Path × String)) (scope : Document)
    (reference : String) : Prop :=
  (scope.path, reference) ∈ sites ∧ good scope

theorem mem_sites {values : List Yaml.Value} {value : Yaml.Value} (member : value ∈ values)
    (written : reference ∈ value.references) :
    (scope.path, reference) ∈ scope.sites values :=
  List.mem_map.mpr ⟨reference, List.mem_flatMap.mpr ⟨value, member, written⟩, rfl⟩

theorem load_mem {library : Library} {path : Path} {body : Yaml.Value}
    (loaded : library.load path = .ok body) : (path, .ok body) ∈ library.documents := by
  unfold Library.load at loaded
  split at loaded
  · next found =>
    subst loaded
    obtain ⟨before, after, split, _⟩ := List.lookup_eq_some_iff.mp found
    rw [split]
    exact List.mem_append_right before List.mem_cons_self
  · cases loaded

theorem serves_written {document : Document} (served : workspace.Serves document)
    (written : reference ∈ document.body.references) :
    (document.path, reference) ∈ workspace.sites := by
  have atRoot : reference ∈ workspace.root.body.references →
      (workspace.root.path, reference) ∈ workspace.sites :=
    fun inside => List.mem_append_left _ (mem_sites (List.mem_singleton_self _) inside)
  rcases served with rfl | ⟨path, fetched⟩
  · exact atRoot written
  · rcases fetch_ok fetched with rfl | ⟨named, loaded⟩
    · exact atRoot written
    · rw [← named] at loaded
      refine List.mem_append_right _
        (List.mem_flatMap.mpr ⟨(document.path, .ok document.body), ?_, ?_⟩)
      · exact load_mem loaded
      · exact mem_sites (List.mem_singleton_self _) written

theorem covering_served (workspace : Workspace) (more : List (Path × String)) :
    workspace.Covering workspace.Serves (workspace.sites ++ more) :=
  ⟨fun _ => id, fun _ served _ written => List.mem_append_left more (serves_written served written)⟩

theorem covering_listed (more : List (Path × String)) :
    workspace.Covering
      (fun document => ∀ reference ∈ document.body.references,
        (document.path, reference) ∈ workspace.sites ++ more)
      (workspace.sites ++ more) :=
  ⟨(covering_served workspace more).written, fun _ => id⟩

def KeysApart (workspace : Workspace) (sites : List (Path × String)) : Prop :=
  ∀ a ∈ sites, ∀ b ∈ sites, workspace.siteKey a = workspace.siteKey b → a = b

theorem same_of_key {sites : List (Path × String)} {a b : Document} {r q : String}
    (apart : workspace.KeysApart sites) (first : Lists workspace.Serves sites a r)
    (second : Lists workspace.Serves sites b q) (same : workspace.key a r = workspace.key b q) :
    a = b ∧ r = q := by
  have sites := apart _ first.1 _ second.1 same
  exact ⟨serves_unique first.2 second.2 (congrArg Prod.fst sites), congrArg Prod.snd sites⟩

section Covering
variable {good : Document → Prop} {sites : List (Path × String)}

theorem leads_good (covering : workspace.Covering good sites) (isGood : good scope)
    {target : Target} {value : Yaml.Value} (leads : workspace.LeadsTo scope target value) :
    good target.document ∧
      ∀ reference ∈ value.references, (target.document.path, reference) ∈ sites := by
  have reached : good target.document := by
    rcases leads.document with same | served
    · rwa [same]
    · exact covering.served _ served
  obtain ⟨origin, read⟩ := leads.read
  exact ⟨reached, fun reference written =>
    covering.written _ reached reference (Reference.read_references read written)⟩

theorem target_asks (covering : workspace.Covering good sites) (isGood : good scope)
    {target : Target} {schema : Schema}
    (found : workspace.schemaAt scope reference = .ok (target, schema)) :
    workspace.Asks (Lists good sites) (workspace.declare target.document target.name schema) := by
  obtain ⟨value, leads, decoded⟩ := schemaAt_leads found
  obtain ⟨reached, listed⟩ := leads_good covering isGood leads
  exact declareUnder_asks fun other written =>
    ⟨listed other (Schema.decodeNamed_references decoded written), reached⟩

theorem listTypes_asks {types : TypeMap} (isGood : good scope)
    (listed : ∀ value ∈ types.values, ∀ reference ∈ value.references,
      (scope.path, reference) ∈ sites) :
    workspace.Asks (Lists good sites) (workspace.listTypes scope types) :=
  declareEntries_asks fun _ member reference written =>
    ⟨listed _ (List.mem_map_of_mem member) reference written, isGood⟩

theorem listGroup_asks (covering : workspace.Covering good sites) {group : Group}
    (listed : ∀ value ∈ group.values, ∀ reference ∈ value.references,
      (workspace.root.path, reference) ∈ sites) :
    workspace.Asks (Lists good sites) (workspace.listGroup group) := by
  have atRoot : good workspace.root := covering.served _ (.inl rfl)
  cases group with
  | types types => exact listTypes_asks atRoot listed
  | reference reference =>
    rintro ⟨target, types⟩ found
    obtain ⟨value, leads, decoded⟩ := groupAt_leads found
    obtain ⟨reached, inside⟩ := leads_good covering atRoot leads
    refine listTypes_asks reached fun body member other written => inside other ?_
    obtain ⟨entry, isIn, rfl⟩ := List.mem_map.mp member
    exact Yaml.Value.references_of_contains (TypeMap.decode_contains decoded isIn) written

theorem listGroups_asks (covering : workspace.Covering good sites)
    {groups : List (String × Group)} {declared : Table Declarations}
    (listed : ∀ entry ∈ groups, ∀ value ∈ entry.2.values, ∀ reference ∈ value.references,
      (workspace.root.path, reference) ∈ sites) :
    workspace.Asks (Lists good sites) (workspace.listGroups groups declared) := by
  induction groups generalizing declared with
  | nil => trivial
  | cons entry rest ih =>
    exact asks_bind (listGroup_asks covering (listed entry List.mem_cons_self)) fun _ =>
      ih fun other member => listed other (List.mem_cons_of_mem entry member)

theorem listAll_asks (covering : workspace.Covering good sites) {spec : Spec}
    (listed : ∀ value ∈ spec.values, ∀ reference ∈ value.references,
      (workspace.root.path, reference) ∈ sites) :
    workspace.Asks (Lists good sites) (workspace.listAll spec) := by
  obtain ⟨info, types, groups⟩ := spec
  refine asks_bind ?_ fun _ => asks_bind ?_ fun _ => trivial
  · cases types with
    | none => trivial
    | some types =>
      exact listTypes_asks (covering.served _ (.inl rfl)) fun value member =>
        listed value (List.mem_append_left _ member)
  · cases groups with
    | none => trivial
    | some groups =>
      refine listGroups_asks covering fun entry inside value member => listed value ?_
      refine List.mem_append_right _ (List.mem_flatMap.mpr ⟨entry.2, ?_, member⟩)
      exact List.mem_map_of_mem inside

end Covering

/-! Following without a bound -/

theorem runs_keeps {walk : Walk α} {r : Except Failure α} (run : workspace.Runs walk s r t)
    (loaded : s.IsLoaded workspace) : t.IsLoaded workspace ∧ t.opened = s.opened := by
  induction run with
  | done value s => exact ⟨loaded, rfl⟩
  | failed failure s => exact ⟨loaded, rfl⟩
  | noting later ih => exact ih loaded
  | grouped read later ih =>
    obtain ⟨_, reads⟩ := readGroup_reads loaded read
    obtain ⟨after, same⟩ := ih reads.loaded
    exact ⟨after, same.trans reads.opened⟩
  | ungrouped read =>
    obtain ⟨_, reads⟩ := readGroup_reads loaded read
    exact ⟨reads.loaded, reads.opened⟩
  | remembered known later ih => exact ih loaded
  | pending unknown isOpen later ih => exact ih loaded
  | unreadable isNew read =>
    obtain ⟨_, reads⟩ := readSchema_reads loaded read
    exact ⟨reads.loaded, reads.opened⟩
  | broken enters inner ih =>
    obtain ⟨_, reads⟩ := readSchema_reads loaded enters.read
    exact ⟨(ih reads.loaded).1, reads.opened⟩
  | expanded enters inner later ih ihLater =>
    obtain ⟨_, reads⟩ := readSchema_reads loaded enters.read
    obtain ⟨after, same⟩ := ihLater (ih reads.loaded).1
    exact ⟨after, same.trans reads.opened⟩

section Expand
variable {expand : Document → String → Resolve Declaration} {target : Target} {schema : Schema}

theorem expandWith_remembered {expansion : Expansion}
    (known : s.memo.find? (workspace.key scope reference) = some expansion) :
    (workspace.expandWith expand scope reference).run s = (.ok expansion.declaration, s) := by
  simp [expandWith, Resolve.run_bind, known]

theorem expandWith_pending {name : String}
    (unknown : s.memo.find? (workspace.key scope reference) = none)
    (isOpen : s.opened.lookup (workspace.key scope reference) = some name) :
    (workspace.expandWith expand scope reference).run s =
      (.ok ((Declaration.pending name).referring name), s) := by
  simp [expandWith, Resolve.run_bind, unknown, isOpen]

theorem expandWith_unreadable {failure : Failure}
    (isNew : s.IsNew (workspace.key scope reference))
    (read : (workspace.readSchema scope reference).run s = (.error failure, t)) :
    (workspace.expandWith expand scope reference).run s = (.error failure, t) := by
  simp [expandWith, expandTarget, Resolve.run_bind, isNew.1, isNew.2, read]

theorem expandWith_broken {failure : Failure}
    (enters : workspace.Enters scope reference s target schema u)
    (inner : (workspace.follow expand (workspace.declare target.document target.name schema)).run
      (workspace.inside scope reference target u) = (.error failure, t)) :
    (workspace.expandWith expand scope reference).run s = (.error failure, t.closing u) := by
  simp only [inside, Session.opening] at inner
  simp [expandWith, expandTarget, Resolve.run_bind, enters.isNew.1, enters.isNew.2, enters.read,
    inner, Session.closing]

theorem expandWith_expanded {declared : Declaration}
    (enters : workspace.Enters scope reference s target schema u)
    (inner : (workspace.follow expand (workspace.declare target.document target.name schema)).run
      (workspace.inside scope reference target u) = (.ok declared, t)) :
    (workspace.expandWith expand scope reference).run s =
      (.ok (target.finish schema declared),
        workspace.outside scope reference target (target.finish schema declared) u t) := by
  simp only [inside, Session.opening] at inner
  simp only [expandWith, expandTarget, Resolve.run_bind, Resolve.run_get, Resolve.run_whileOpen,
    enters.isNew.1, enters.isNew.2, enters.read, inner]
  rfl

end Expand

def remaining (workspace : Workspace) (sites : List (Path × String)) (s : Session) : Nat :=
  ((sites.map workspace.siteKey).toFinset \ (s.opened.map Prod.fst).toFinset).card

theorem remaining_le {sites : List (Path × String)} :
    workspace.remaining sites s ≤ sites.length :=
  calc workspace.remaining sites s
      ≤ (sites.map workspace.siteKey).toFinset.card := Finset.card_le_card Finset.sdiff_subset
    _ ≤ (sites.map workspace.siteKey).length := List.toFinset_card_le _
    _ = sites.length := List.length_map _

theorem not_open {key : String} : s.opened.lookup key = none ↔ key ∉ s.opened.map Prod.fst := by
  rw [List.lookup_eq_none_iff]
  constructor
  · intro apart member
    obtain ⟨pair, inside, rfl⟩ := List.mem_map.mp member
    simpa using apart pair inside
  · rintro absent pair inside
    simp only [bne_iff_ne]
    rintro rfl
    exact absent (List.mem_map_of_mem inside)

theorem remaining_inside {sites : List (Path × String)} {target : Target} {schema : Schema}
    (listed : (scope.path, reference) ∈ sites) (loaded : s.IsLoaded workspace)
    (enters : workspace.Enters scope reference s target schema u) :
    workspace.remaining sites (workspace.inside scope reference target u) <
      workspace.remaining sites s := by
  obtain ⟨_, reads⟩ := readSchema_reads loaded enters.read
  have fresh := not_open.mp enters.isNew.2
  have member : workspace.key scope reference ∈ (sites.map workspace.siteKey).toFinset :=
    List.mem_toFinset.mpr (List.mem_map_of_mem (f := workspace.siteKey) listed)
  refine Finset.card_lt_card (Finset.ssubset_iff_subset_ne.mpr ⟨?_, ?_⟩)
  · refine Finset.sdiff_subset_sdiff (Finset.Subset.refl _) fun key isOpen => ?_
    rw [List.mem_toFinset] at isOpen ⊢
    exact List.mem_cons_of_mem _ (reads.opened ▸ isOpen)
  · intro same
    have kept : workspace.key scope reference ∈
        (sites.map workspace.siteKey).toFinset \ (s.opened.map Prod.fst).toFinset :=
      Finset.mem_sdiff.mpr ⟨member, fun isOpen => fresh (List.mem_toFinset.mp isOpen)⟩
    rw [← same] at kept
    exact (Finset.mem_sdiff.mp kept).2 (List.mem_toFinset.mpr List.mem_cons_self)

theorem follow_answered {expand : Document → String → Resolve Declaration}
    {rest : Declaration → Walk α} {answer : Declaration}
    (answered : (expand scope reference).run s = (.ok answer, u)) :
    (workspace.follow expand (.asking scope reference rest)).run s =
      (workspace.follow expand (rest answer)).run u := by
  simp only [follow, Resolve.run_bind, answered]

theorem follow_refused {expand : Document → String → Resolve Declaration}
    {rest : Declaration → Walk α} {failure : Failure}
    (refused : (expand scope reference).run s = (.error failure, u)) :
    (workspace.follow expand (.asking scope reference rest)).run s = (.error failure, u) := by
  simp only [follow, Resolve.run_bind, refused]

theorem remaining_same {sites : List (Path × String)} (same : t.opened = s.opened) :
    workspace.remaining sites t = workspace.remaining sites s := by
  rw [remaining, remaining, same]

/-- As long as fewer references than `depth` are left to open, a run ends and needs no more nested
expansions than `depth`. -/
theorem runs_within {good : Document → Prop} {sites : List (Path × String)}
    (covering : workspace.Covering good sites) (depth : Nat) (walk : Walk α)
    (loaded : s.IsLoaded workspace) (asks : workspace.Asks (Lists good sites) walk)
    (few : workspace.remaining sites s < depth) :
    ∃ r t, workspace.Runs walk s r t ∧
      (workspace.follow (workspace.expandWithin depth) walk).run s = (r, t) := by
  induction depth generalizing α walk s with
  | zero => exact absurd few (Nat.not_lt_zero _)
  | succ depth inner =>
    induction walk generalizing s with
    | done value => exact ⟨_, _, .done value s, rfl⟩
    | failed failure => exact ⟨_, _, .failed failure s, rfl⟩
    | noting event rest ih =>
      obtain ⟨r, t, run, same⟩ := ih (s := s.noted event) loaded asks few
      exact ⟨r, t, .noting run, same⟩
    | grouping scope reference rest ih =>
      obtain ⟨u, read, reads⟩ := readGroup_run scope reference loaded
      cases found : workspace.groupAt scope reference with
      | error failure =>
        rw [found] at read
        exact ⟨_, _, .ungrouped read, by simp [follow, Resolve.run_bind, read]⟩
      | ok group =>
        rw [found] at read
        have fewer := (remaining_same reads.opened).trans_lt few
        obtain ⟨r, t, run, same⟩ := ih group reads.loaded (asks group found) fewer
        exact ⟨r, t, .grouped read run, by simpa [follow, Resolve.run_bind, read] using same⟩
    | asking scope reference rest ih =>
      obtain ⟨⟨listed, isGood⟩, after⟩ := asks
      cases known : s.memo.find? (workspace.key scope reference) with
      | some expansion =>
        obtain ⟨r, t, run, same⟩ := ih _ loaded (after _) few
        exact ⟨r, t, .remembered known run,
          (follow_answered (expandWith_remembered known)).trans same⟩
      | none =>
      cases isOpen : s.opened.lookup (workspace.key scope reference) with
      | some name =>
        obtain ⟨r, t, run, same⟩ := ih _ loaded (after _) few
        exact ⟨r, t, .pending known isOpen run,
          (follow_answered (expandWith_pending known isOpen)).trans same⟩
      | none =>
      have isNew : s.IsNew (workspace.key scope reference) := ⟨known, isOpen⟩
      obtain ⟨u, read, reads⟩ := readSchema_run scope reference loaded
      cases found : workspace.schemaAt scope reference with
      | error failure =>
        rw [found] at read
        exact ⟨_, u, .unreadable isNew read, follow_refused (expandWith_unreadable isNew read)⟩
      | ok place =>
        obtain ⟨target, schema⟩ := place
        rw [found] at read
        have enters : workspace.Enters scope reference s target schema u := ⟨isNew, read⟩
        have fewer := remaining_inside listed loaded enters
        obtain ⟨result, v, run, same⟩ := inner (s := workspace.inside scope reference target u)
          (workspace.declare target.document target.name schema) reads.loaded
          (target_asks covering isGood found) (by omega)
        cases result with
        | error failure =>
          exact ⟨_, _, .broken enters run, follow_refused (expandWith_broken enters same)⟩
        | ok declared =>
          obtain ⟨kept, _⟩ := runs_keeps run reads.loaded
          obtain ⟨r, t, later, last⟩ := ih (target.finish schema declared)
            (s := workspace.outside scope reference target (target.finish schema declared) u v)
            kept (after _) ((remaining_same reads.opened).trans_lt few)
          exact ⟨r, t, .expanded enters run later,
            (follow_answered (expandWith_expanded enters same)).trans last⟩

theorem answers_of_expandWith {expand : Document → String → Resolve Declaration}
    (ih : ∀ (walk : Walk Declaration) (s t : Session) (declared : Declaration),
      (workspace.follow expand walk).run s = (.ok declared, t) →
      workspace.Runs walk s (.ok declared) t)
    {answer : Declaration}
    (run : (workspace.expandWith expand scope reference).run s = (.ok answer, t)) :
    workspace.Answers scope reference s (.ok answer) t := by
  cases known : s.memo.find? (workspace.key scope reference) with
  | some expansion =>
    rw [expandWith_remembered known] at run
    cases run
    exact .remembered known (.done _ _)
  | none =>
  cases isOpen : s.opened.lookup (workspace.key scope reference) with
  | some name =>
    rw [expandWith_pending known isOpen] at run
    cases run
    exact .pending known isOpen (.done _ _)
  | none =>
  have isNew : s.IsNew (workspace.key scope reference) := ⟨known, isOpen⟩
  rcases read : (workspace.readSchema scope reference).run s with ⟨failure | place, u⟩
  · rw [expandWith_unreadable isNew read] at run
    cases run
  · obtain ⟨target, schema⟩ := place
    have enters : workspace.Enters scope reference s target schema u := ⟨isNew, read⟩
    rcases inner : (workspace.follow expand
      (workspace.declare target.document target.name schema)).run
        (workspace.inside scope reference target u) with ⟨failure | declared, v⟩
    · rw [expandWith_broken enters inner] at run
      cases run
    · rw [expandWith_expanded enters inner] at run
      cases run
      exact .expanded enters (ih _ _ _ _ inner) (.done _ _)

theorem runs_of_follow (depth : Nat) (walk : Walk α) {value : α}
    (run : (workspace.follow (workspace.expandWithin depth) walk).run s = (.ok value, t)) :
    workspace.Runs walk s (.ok value) t := by
  induction depth generalizing α walk s t with
  | zero =>
    induction walk generalizing s with
    | done other =>
      cases run
      exact .done _ _
    | failed failure => cases run
    | noting event rest ih => exact .noting (ih run)
    | asking scope reference rest ih => cases run
    | grouping scope reference rest ih =>
      obtain ⟨group, u, read, later⟩ := Resolve.run_bind_ok.mp run
      exact .grouped read (ih group later)
  | succ depth inner =>
    induction walk generalizing s with
    | done other =>
      cases run
      exact .done _ _
    | failed failure => cases run
    | noting event rest ih => exact .noting (ih run)
    | asking scope reference rest ih =>
      obtain ⟨answer, u, asked, later⟩ := Resolve.run_bind_ok.mp run
      have answers := answers_of_expandWith (fun walk s t declared => inner walk) asked
      exact runs_asking.mpr (.inl ⟨answer, u, answers, ih answer later⟩)
    | grouping scope reference rest ih =>
      obtain ⟨group, u, read, later⟩ := Resolve.run_bind_ok.mp run
      exact .grouped read (ih group later)

/-! Calls from outside -/

inductive Request where
  | types (scope : Document) (types : TypeMap)
  | all (spec : Spec)

def Request.sites (workspace : Workspace) : Request → List (Path × String)
  | types scope map => scope.sites (scope.body :: map.values)
  | all spec => workspace.root.sites spec.values

def Request.after (workspace : Workspace) (session : Session) : Request → Session
  | types scope map => ((workspace.declareTypes scope map).run session).2
  | all spec => ((workspace.declareAll spec).run session).2

def after (workspace : Workspace) (trace : List Event) (earlier : List Request) : Session :=
  earlier.foldl (Request.after workspace) { trace }

def Request.Listed : Request → Type
  | types .. => Declarations
  | all _ => Generation

def Request.walk (workspace : Workspace) : (request : Request) → Walk request.Listed
  | types scope map => workspace.listTypes scope map
  | all spec => workspace.listAll spec

theorem perform_runs {good : Document → Prop} {more : List (Path × String)} {walk : Walk α}
    (covering : workspace.Covering good (workspace.sites ++ more)) (loaded : s.IsLoaded workspace)
    (asks : workspace.Asks (Lists good (workspace.sites ++ more)) walk) :
    ∃ r t, workspace.Runs walk s r t ∧ (workspace.perform more walk).run s = (r, t) :=
  runs_within covering _ walk loaded asks (Nat.lt_succ_of_le remaining_le)

def Request.reach (workspace : Workspace) (request : Request) : List (Path × String) :=
  workspace.sites ++ request.sites workspace

theorem types_ask {good : Document → Prop} {types : TypeMap} (isGood : good scope) :
    workspace.Asks (Lists good ((Request.types scope types).reach workspace))
      (workspace.listTypes scope types) :=
  listTypes_asks isGood fun _ member _ inside =>
    List.mem_append_right _ (mem_sites (List.mem_cons_of_mem _ member) inside)

theorem all_asks {good : Document → Prop} {spec : Spec}
    (covering : workspace.Covering good ((Request.all spec).reach workspace)) :
    workspace.Asks (Lists good ((Request.all spec).reach workspace)) (workspace.listAll spec) :=
  listAll_asks covering fun _ member _ inside => List.mem_append_right _ (mem_sites member inside)

theorem scope_covered (workspace : Workspace) (scope : Document) (types : TypeMap) :
    ∀ reference ∈ scope.body.references,
      (scope.path, reference) ∈ (Request.types scope types).reach workspace :=
  fun _ written => List.mem_append_right _ (mem_sites List.mem_cons_self written)

theorem declareTypes_runs (scope : Document) (types : TypeMap) (loaded : s.IsLoaded workspace) :
    ∃ r t, workspace.Runs (workspace.listTypes scope types) s r t ∧
      (workspace.declareTypes scope types).run s = (r, t) :=
  perform_runs (covering_listed _) loaded (types_ask (scope_covered workspace scope types))

theorem declareAll_runs (spec : Spec) (loaded : s.IsLoaded workspace) :
    ∃ r t, workspace.Runs (workspace.listAll spec) s r t ∧
      (workspace.declareAll spec).run s = (r.map (Generation.surfacing t.memo), t) := by
  obtain ⟨r, t, run, same⟩ :=
    perform_runs (covering_served _ _) loaded (all_asks (covering_served _ _))
  refine ⟨r, t, run, ?_⟩
  have performed : (workspace.perform (workspace.root.sites spec.values)
      (workspace.listAll spec)).run s = (r, t) := same
  simp only [declareAll, Resolve.run_bind, performed]
  cases r <;> rfl

theorem Request.runs (request : Request) (loaded : s.IsLoaded workspace) :
    ∃ r, workspace.Runs (request.walk workspace) s r (request.after workspace s) := by
  cases request with
  | types scope types =>
    obtain ⟨r, t, run, same⟩ := declareTypes_runs scope types loaded
    simp only [Request.after, same]
    exact ⟨r, run⟩
  | all spec =>
    obtain ⟨r, t, run, same⟩ := declareAll_runs spec loaded
    simp only [Request.after, same]
    exact ⟨r, run⟩

theorem request_keeps (request : Request) (loaded : s.IsLoaded workspace) :
    (request.after workspace s).IsLoaded workspace ∧
      (request.after workspace s).opened = s.opened := by
  obtain ⟨r, run⟩ := request.runs loaded
  exact runs_keeps run loaded

theorem requests_keep (earlier : List Request) (loaded : s.IsLoaded workspace) :
    (earlier.foldl (Request.after workspace) s).IsLoaded workspace ∧
      (earlier.foldl (Request.after workspace) s).opened = s.opened := by
  induction earlier generalizing s with
  | nil => exact ⟨loaded, rfl⟩
  | cons request rest ih =>
    obtain ⟨after, same⟩ := request_keeps request loaded
    obtain ⟨last, closed⟩ := ih after
    exact ⟨last, closed.trans same⟩

theorem after_keeps (workspace : Workspace) (trace : List Event) (earlier : List Request) :
    (workspace.after trace earlier).IsLoaded workspace ∧
      (workspace.after trace earlier).opened = [] :=
  requests_keep earlier (by simp [Session.IsLoaded])

/-! Chains of expansions -/

theorem answers_keeps {answer : Declaration} (loaded : s.IsLoaded workspace)
    (answers : workspace.Answers scope reference s (.ok answer) t) :
    t.IsLoaded workspace ∧ t.opened = s.opened := runs_keeps answers loaded

theorem follows_keeps {allowed : Document → String → Prop} {walk left : Walk α}
    {calls : List Call} (follows : workspace.Follows walk s calls left t)
    (loaded : s.IsLoaded workspace) (asks : workspace.Asks allowed walk) :
    t.IsLoaded workspace ∧ t.opened = s.opened ∧ workspace.Asks allowed left := by
  induction follows with
  | here walk s => exact ⟨loaded, rfl, asks⟩
  | noting later ih => exact ih loaded asks
  | grouping read later ih =>
    obtain ⟨found, reads⟩ := readGroup_reads loaded read
    obtain ⟨after, same, rest⟩ := ih reads.loaded (asks _ found.symm)
    exact ⟨after, same.trans reads.opened, rest⟩
  | asking answers later ih =>
    obtain ⟨kept, closed⟩ := answers_keeps loaded answers
    obtain ⟨after, same, rest⟩ := ih kept (asks.2 _)
    exact ⟨after, same.trans closed, rest⟩

def chainKeys (workspace : Workspace) (chain : List (Document × String)) : List String :=
  chain.map fun (scope, reference) => workspace.key scope reference

/-- What holds at every moment of a run that started with nothing open. -/
structure Chained (workspace : Workspace) (good : Document → Prop) (sites : List (Path × String))
    (chain : List (Document × String)) (walk : Walk α) (t : Session) : Prop where
  loaded : t.IsLoaded workspace
  asks : workspace.Asks (Lists good sites) walk
  opened : t.opened.map Prod.fst = workspace.chainKeys chain
  distinct : (workspace.chainKeys chain).Nodup
  listed : ∀ pair ∈ chain, Lists good sites pair.1 pair.2
  named : ∀ pair ∈ t.opened, ∃ around ∈ chain, ∃ target schema,
    pair = (workspace.key around.1 around.2, target.name) ∧
      workspace.schemaAt around.1 around.2 = .ok (target, schema)

theorem moment_chained {good : Document → Prop} {sites : List (Path × String)} {start : Walk γ}
    {walk : Walk α} {chain : List (Document × String)}
    (covering : workspace.Covering good sites) (loaded : s.IsLoaded workspace)
    (closed : s.opened = []) (asks : workspace.Asks (Lists good sites) start)
    (moment : workspace.Moment start s chain walk t) :
    workspace.Chained good sites chain walk t := by
  induction moment with
  | outer follows =>
    obtain ⟨after, same, rest⟩ := follows_keeps follows loaded asks
    rw [closed] at same
    exact ⟨after, rest, by rw [same]; rfl, List.nodup_nil, by simp, by simp [same]⟩
  | @inner _ chain scope reference _ _ _ _ target schema _ _ around enters follows ih =>
    obtain ⟨found, reads⟩ := readSchema_reads ih.loaded enters.read
    obtain ⟨here, _⟩ := ih.asks
    obtain ⟨after, same, rest⟩ :=
      follows_keeps follows reads.loaded (target_asks covering here.2 found.symm)
    have fresh := not_open.mp enters.isNew.2
    rw [ih.opened] at fresh
    refine ⟨after, rest, ?_, List.nodup_cons.mpr ⟨fresh, ih.distinct⟩,
      List.forall_mem_cons.mpr ⟨here, ih.listed⟩, ?_⟩
    · simp [same, inside, Session.opening, reads.opened, ih.opened, chainKeys]
    · rw [same, inside, Session.opening, reads.opened]
      refine List.forall_mem_cons.mpr
        ⟨⟨_, List.mem_cons_self, target, schema, rfl, found.symm⟩, fun pair member => ?_⟩
      obtain ⟨outer, inside, known⟩ := ih.named pair member
      exact ⟨outer, List.mem_cons_of_mem _ inside, known⟩

theorem chained_length {good : Document → Prop} {sites : List (Path × String)}
    {chain : List (Document × String)} {walk : Walk α}
    (chained : workspace.Chained good sites chain walk t) :
    chain.length ≤ sites.dedup.length := by
  have keys : workspace.chainKeys chain =
      (chain.map fun pair => (pair.1.path, pair.2)).map workspace.siteKey := by
    rw [chainKeys, List.map_map]
    rfl
  have distinct : (chain.map fun pair => (pair.1.path, pair.2)).Nodup :=
    List.Nodup.of_map _ (keys ▸ chained.distinct)
  have inside : chain.map (fun pair => (pair.1.path, pair.2)) ⊆ sites.dedup := by
    intro site member
    obtain ⟨pair, isIn, rfl⟩ := List.mem_map.mp member
    exact List.mem_dedup.mpr (chained.listed pair isIn).1
  simpa using (distinct.subperm inside).length_le

/-- The walk ends with the result `r` in `t`. On every chain of nested expansions that it passes
through, no key occurs twice and there are no more references than sites. -/
structure EndsWithin (workspace : Workspace) (sites : List (Path × String)) (walk : Walk α)
    (s : Session) (r : Except Failure α) (t : Session) : Prop where
  runs : workspace.Runs walk s r t
  distinct : ∀ {β : Type} (chain : List (Document × String)) (left : Walk β) (u : Session),
    workspace.Moment walk s chain left u → (workspace.chainKeys chain).Nodup
  bounded : ∀ {β : Type} (chain : List (Document × String)) (left : Walk β) (u : Session),
    workspace.Moment walk s chain left u → chain.length ≤ sites.dedup.length

theorem runs_endsWithin {good : Document → Prop} {sites : List (Path × String)} {walk : Walk α}
    {r : Except Failure α} (covering : workspace.Covering good sites)
    (loaded : s.IsLoaded workspace) (closed : s.opened = [])
    (asks : workspace.Asks (Lists good sites) walk) (run : workspace.Runs walk s r t) :
    workspace.EndsWithin sites walk s r t where
  runs := run
  distinct _ _ _ moment := (moment_chained covering loaded closed asks moment).distinct
  bounded _ _ _ moment := chained_length (moment_chained covering loaded closed asks moment)

/-- Whatever was asked for before, every request ends, and its nested expansions are bounded by
the references written in the documents and in the request. For the spec of the root document
itself those of the documents are enough. -/
theorem requests_end (workspace : Workspace) (trace : List Event) (earlier : List Request) :
    let s := workspace.after trace earlier
    (∀ scope types, ∃ r t, (workspace.declareTypes scope types).run s = (r, t) ∧
      workspace.EndsWithin (workspace.sites ++ (Request.types scope types).sites workspace)
        (workspace.listTypes scope types) s r t) ∧
    ∀ spec, ∃ r t,
      (workspace.declareAll spec).run s = (r.map (Generation.surfacing t.memo), t) ∧
      workspace.EndsWithin (workspace.sites ++ (Request.all spec).sites workspace)
        (workspace.listAll spec) s r t ∧
      (Spec.decode workspace.root.body = .ok spec →
        workspace.EndsWithin workspace.sites (workspace.listAll spec) s r t) := by
  intro s
  obtain ⟨loaded, closed⟩ := workspace.after_keeps trace earlier
  constructor
  · intro scope types
    obtain ⟨r, t, run, same⟩ := declareTypes_runs scope types loaded
    exact ⟨r, t, same, runs_endsWithin (covering_listed _) loaded closed
      (types_ask (scope_covered workspace scope types)) run⟩
  · intro spec
    obtain ⟨r, t, run, same⟩ := declareAll_runs spec loaded
    refine ⟨r, t, same, runs_endsWithin (covering_served _ _) loaded closed
      (all_asks (covering_served _ _)) run, ?_⟩
    intro decoded
    have covering : workspace.Covering workspace.Serves workspace.sites := by
      simpa using workspace.covering_served []
    refine runs_endsWithin covering loaded closed (listAll_asks covering ?_) run
    exact fun value member reference written =>
      serves_written (.inl rfl) (Spec.decode_references decoded member written)

end Typewright.Workspace
