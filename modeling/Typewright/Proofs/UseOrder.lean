import Typewright.Proofs.SingleExpansion
import Typewright.Proofs.Surfacing

/-!
The order of the memo. A key is first used where its expansion begins, and remembered where its
expansion ends, so what is expanded meanwhile comes before it. The expansions of a run form a
forest: the keys are first used in its preorder and remembered in its postorder. Groups of other
documents, and the types in them, come in the order of the memo.
-/
namespace Typewright

theorem Table.mem_keys_iff {table : Table α} {name : String} :
    name ∈ table.keys ↔ table.find? name ≠ none := by
  rw [Option.ne_none_iff_exists']
  constructor
  · intro member
    obtain ⟨entry, isIn, rfl⟩ := List.mem_map.mp member
    exact ⟨entry.2, Table.mem_entries_iff.mp isIn⟩
  · rintro ⟨value, found⟩
    exact List.mem_map_of_mem (f := Prod.fst) (Table.mem_entries_iff.mpr found)

/-! Keys where they come first -/

def firstCome (keys later : List String) : List String :=
  later.foldl (fun keys key => if key ∈ keys then keys else keys ++ [key]) keys

section FirstCome
variable {keys first last : List String} {key : String}

theorem firstCome_append : firstCome keys (first ++ last) = firstCome (firstCome keys first) last :=
  List.foldl_append

theorem firstCome_known (member : key ∈ keys) :
    firstCome keys (key :: last) = firstCome keys last := by
  unfold firstCome
  rw [List.foldl_cons, if_pos member]

theorem firstCome_new (absent : key ∉ keys) :
    firstCome keys (key :: last) = firstCome (keys ++ [key]) last := by
  unfold firstCome
  rw [List.foldl_cons, if_neg absent]

theorem prefix_firstCome : keys <+: firstCome keys last := by
  induction last generalizing keys with
  | nil => exact List.prefix_rfl
  | cons first rest ih =>
    by_cases member : first ∈ keys
    · rw [firstCome_known member]
      exact ih
    · rw [firstCome_new member]
      exact (List.prefix_append keys [first]).trans ih

end FirstCome

/-! Forests of expansions -/

/-- The expansions of a run in the order in which they begin, each with those inside it. -/
inductive Nesting where
  | none
  | expands (key : String) (inner later : Nesting)

namespace Nesting

def begins : Nesting → List String
  | none => []
  | expands key inner later => key :: (inner.begins ++ later.begins)

def ends : Nesting → List String
  | none => []
  | expands key inner later => inner.ends ++ key :: later.ends

def IsFlat : Nesting → Prop
  | none => True
  | expands _ inner later => inner = none ∧ later.IsFlat

theorem ends_perm (nesting : Nesting) : nesting.ends.Perm nesting.begins := by
  induction nesting with
  | none => exact .nil
  | expands key inner later first last =>
    exact List.perm_middle.trans (.cons key (first.append last))

theorem begins_eq_nil {nesting : Nesting} (empty : nesting.begins = []) : nesting = none := by
  cases nesting with
  | none => rfl
  | expands => cases empty

theorem ends_eq_begins {nesting : Nesting} (nodup : nesting.begins.Nodup) :
    nesting.ends = nesting.begins ↔ nesting.IsFlat := by
  induction nesting with
  | none => simp [ends, begins, IsFlat]
  | expands key inner later _ ih =>
    obtain ⟨own, rest⟩ := List.nodup_cons.mp nodup
    have lastly := (List.nodup_append.mp rest).2.1
    rw [IsFlat, ← ih lastly]
    constructor
    · intro same
      cases inside : inner.ends with
      | nil =>
        have none := begins_eq_nil (List.perm_nil.mp (inside ▸ inner.ends_perm).symm)
        subst none
        exact ⟨rfl, (List.cons.inj same).2⟩
      | cons first others =>
        -- the expansion that ends first lies inside the one that begins first
        rw [ends, begins, inside] at same
        have head : first = key := (List.cons.inj same).1
        have member : first ∈ inner.begins :=
          inner.ends_perm.mem_iff.mp (inside ▸ List.mem_cons_self)
        exact absurd (List.mem_append_left _ (head ▸ member)) own
    · rintro ⟨rfl, same⟩
      rw [ends, begins, same]
      rfl

end Nesting

/-! Keys of a log -/

def Deed.asks? (workspace : Workspace) : Deed → Option String
  | asked scope reference _ => some (workspace.key scope reference)
  | answered .. => none

def Walk.firstAsk? : Walk α → Option (Document × String)
  | .noting _ rest => rest.firstAsk?
  | .asking scope reference _ => some (scope, reference)
  | _ => none

namespace Session

def oldKeys (s : Session) : List String := s.memo.keys ++ s.opened.map Prod.fst

theorem isNew_iff {s : Session} {key : String} : s.IsNew key ↔ key ∉ s.oldKeys := by
  rw [oldKeys, List.mem_append, not_or, Table.mem_keys_iff, not_not, ← Workspace.not_open]
  exact Iff.rfl

end Session

namespace Workspace
variable {workspace : Workspace} {scope : Document} {reference : String} {s t u v : Session}
variable {log : List Deed}

def used (workspace : Workspace) (log : List Deed) : List String :=
  log.filterMap (Deed.asks? workspace)

@[simp] theorem used_asked : workspace.used (.asked scope reference s :: log) =
    workspace.key scope reference :: workspace.used log := rfl

@[simp] theorem used_answered {answer : Declaration} :
    workspace.used (.answered scope reference answer s :: log) = workspace.used log := rfl

@[simp] theorem used_append (first last : List Deed) :
    workspace.used (first ++ last) = workspace.used first ++ workspace.used last :=
  List.filterMap_append

/-- The expansions that begin and end in a log. A key that is not new is answered at once, and the
expansion of a new one reaches up to its answer. -/
inductive Brackets (workspace : Workspace) : List Deed → Nesting → Prop where
  | none : Brackets workspace [] .none
  | atOnce {scope : Document} {reference : String} {s : Session} {answer : Declaration}
    {log : List Deed} {nesting : Nesting} (old : ¬s.IsNew (workspace.key scope reference))
    (later : Brackets workspace log nesting) :
    Brackets workspace (.asked scope reference s :: .answered scope reference answer s :: log)
      nesting
  | expands {scope : Document} {reference : String} {s t : Session} {answer : Declaration}
    {first last : List Deed} {inner later : Nesting}
    (isNew : s.IsNew (workspace.key scope reference)) (inside : Brackets workspace first inner)
    (after : Brackets workspace last later) :
    Brackets workspace
      (.asked scope reference s :: (first ++ .answered scope reference answer t :: last))
      (.expands (workspace.key scope reference) inner later)

/-- From `s` to `t` the keys are first used as the expansions begin, and remembered as they end. -/
structure Nests (workspace : Workspace) (log : List Deed) (s t : Session) (nesting : Nesting) :
    Prop where
  brackets : workspace.Brackets log nesting
  remembered : t.memo.keys = s.memo.keys ++ nesting.ends
  used : ∀ old, (∀ key, key ∈ old ↔ key ∈ s.oldKeys) →
    firstCome old (workspace.used log) = old ++ nesting.begins

theorem mem_oldKeys_inside {target : Target} {key : String} :
    key ∈ (workspace.inside scope reference target u).oldKeys ↔
      key ∈ u.oldKeys ∨ key = workspace.key scope reference := by
  simp only [inside, Session.opening, Session.oldKeys, List.map_cons, List.mem_append,
    List.mem_cons]
  tauto

theorem keys_outside (target : Target) (answer : Declaration)
    (unknown : v.memo.find? (workspace.key scope reference) = none) :
    (workspace.outside scope reference target answer u v).memo.keys =
      v.memo.keys ++ [workspace.key scope reference] := by
  have absent : workspace.key scope reference ∉ v.memo.keys := by
    rw [Table.mem_keys_iff, not_not]
    exact unknown
  show (v.memo.put _ _).keys = _
  rw [Table.keys_put, if_neg absent]

theorem nests_of_same {nesting : Nesting} (nests : workspace.Nests log u t nesting)
    (memo : u.memo = s.memo) (opened : u.opened = s.opened) :
    workspace.Nests log s t nesting := by
  refine ⟨nests.brackets, memo ▸ nests.remembered, ?_⟩
  intro old isOld
  apply nests.used
  rwa [Session.oldKeys, memo, opened]

theorem nests_atOnce {nesting : Nesting} {answer : Declaration}
    (isOld : ¬s.IsNew (workspace.key scope reference)) (nests : workspace.Nests log s t nesting) :
    workspace.Nests (.asked scope reference s :: .answered scope reference answer s :: log) s t
      nesting := by
  refine ⟨.atOnce isOld nests.brackets, nests.remembered, ?_⟩
  intro old same
  have known : workspace.key scope reference ∈ old := by
    rw [same]
    exact not_not.mp (Session.isNew_iff.not.mp isOld)
  exact (firstCome_known known).trans (nests.used old same)

theorem nests_expands {target : Target} {schema : Schema} {declared answer : Declaration}
    {first last : List Deed} {inner later : Nesting} (loaded : s.IsLoaded workspace)
    (enters : workspace.Enters scope reference s target schema u)
    (run : workspace.Runs (workspace.declare target.document target.name schema)
      (workspace.inside scope reference target u) (.ok declared) v)
    (within : workspace.Nests first (workspace.inside scope reference target u) v inner)
    (after : workspace.Nests last (workspace.outside scope reference target answer u v) t later) :
    workspace.Nests (.asked scope reference s :: (first ++
        .answered scope reference answer (workspace.outside scope reference target answer u v) ::
          last)) s t (.expands (workspace.key scope reference) inner later) := by
  obtain ⟨_, reads⟩ := readSchema_reads loaded enters.read
  have inwards : v.memo.keys = s.memo.keys ++ inner.ends := reads.memo ▸ within.remembered
  have closed := keys_outside (u := u) target answer (unknown_inside loaded enters run)
  rw [inwards] at closed
  have before : u.oldKeys = s.oldKeys := by
    rw [Session.oldKeys, Session.oldKeys, reads.memo, reads.opened]
  refine ⟨.expands enters.isNew within.brackets after.brackets, ?_, ?_⟩
  · rw [after.remembered, closed, Nesting.ends]
    simp
  · intro old same
    have absent : workspace.key scope reference ∉ old := by
      rw [same]
      exact Session.isNew_iff.mp enters.isNew
    -- inside the expansion its own key is old, and after it what was expanded inside is old too
    have inside := within.used (old ++ [workspace.key scope reference]) (by
      intro key
      rw [mem_oldKeys_inside, before, List.mem_append, same, List.mem_singleton])
    have outside := after.used (old ++ [workspace.key scope reference] ++ inner.begins) (by
      intro key
      have opened : (workspace.outside scope reference target answer u v).opened = s.opened :=
        reads.opened
      rw [Session.oldKeys, closed, opened]
      simp only [List.mem_append, same, Session.oldKeys, inner.ends_perm.mem_iff]
      tauto)
    rw [used_asked, used_append, used_answered, firstCome_new absent, firstCome_append, inside,
      outside, Nesting.begins]
    simp

theorem logs_nest {walk : Walk α} {r : Except Failure α} (logs : workspace.Logs walk s log r t)
    (loaded : s.IsLoaded workspace) :
    ∀ value, r = .ok value → ∃ nesting, workspace.Nests log s t nesting := by
  induction logs with
  | done value s =>
    intro _ _
    refine ⟨.none, .none, by simp [Nesting.ends], ?_⟩
    intro old _
    simp [used, firstCome, Nesting.begins]
  | failed failure s => exact nofun
  | noting later ih =>
    intro value ok
    obtain ⟨nesting, nests⟩ := ih loaded value ok
    exact ⟨nesting, nests_of_same nests rfl rfl⟩
  | grouped read later ih =>
    intro value ok
    obtain ⟨_, reads⟩ := readGroup_reads loaded read
    obtain ⟨nesting, nests⟩ := ih reads.loaded value ok
    exact ⟨nesting, nests_of_same nests reads.memo reads.opened⟩
  | ungrouped read => exact nofun
  | remembered known later ih =>
    intro value ok
    obtain ⟨nesting, nests⟩ := ih loaded value ok
    refine ⟨nesting, nests_atOnce ?_ nests⟩
    intro isNew
    cases known.symm.trans isNew.1
  | pending unknown isOpen later ih =>
    intro value ok
    obtain ⟨nesting, nests⟩ := ih loaded value ok
    refine ⟨nesting, nests_atOnce ?_ nests⟩
    intro isNew
    cases isOpen.symm.trans isNew.2
  | unreadable isNew read => exact nofun
  | broken enters inner ih => exact nofun
  | expanded enters inner later ih ihLater =>
    intro value ok
    obtain ⟨_, reads⟩ := readSchema_reads loaded enters.read
    have run := runs_of_logs inner
    obtain ⟨nested, within⟩ := ih reads.loaded _ rfl
    obtain ⟨rest, after⟩ := ihLater (runs_keeps run reads.loaded).1 value ok
    exact ⟨_, nests_expands loaded enters run within after⟩

theorem used_of_firstAsk {walk : Walk α} {r : Except Failure α}
    (first : walk.firstAsk? = some (scope, reference)) (logs : workspace.Logs walk s log r t) :
    ∃ later, workspace.used log = workspace.key scope reference :: later := by
  induction logs with
  | done => cases first
  | failed => cases first
  | noting _ ih => exact ih first
  | grouped => cases first
  | ungrouped => cases first
  | remembered => cases first; exact ⟨_, rfl⟩
  | pending => cases first; exact ⟨_, rfl⟩
  | unreadable => cases first; exact ⟨_, rfl⟩
  | broken => cases first; exact ⟨_, rfl⟩
  | expanded => cases first; exact ⟨_, rfl⟩

structure OrdersMemo (workspace : Workspace) (walk : Walk α) (s : Session) (value : α)
    (t : Session) : Prop where
  logged : ∃ log, workspace.Logs walk s log (.ok value) t
  /-- The keys are asked for first in the order in which their expansions begin, and remembered in
  the order in which these end. That is the same order exactly if none lies inside another. -/
  ordered : ∀ log, workspace.Logs walk s log (.ok value) t → ∃ nesting,
    workspace.Brackets log nesting ∧
    firstCome s.memo.keys (workspace.used log) = s.memo.keys ++ nesting.begins ∧
    t.memo.keys = s.memo.keys ++ nesting.ends ∧
    (t.memo.keys = firstCome s.memo.keys (workspace.used log) ↔ nesting.IsFlat)

theorem runs_ordersMemo {walk : Walk α} {value : α} (run : workspace.Runs walk s (.ok value) t)
    (loaded : s.IsLoaded workspace) (closed : s.opened = []) :
    workspace.OrdersMemo walk s value t := by
  refine ⟨logs_of_runs run, ?_⟩
  intro log logs
  obtain ⟨nesting, nests⟩ := logs_nest logs loaded value rfl
  have remembered := nests.remembered
  have used := nests.used s.memo.keys (by simp [Session.oldKeys, closed])
  have nodup : nesting.begins.Nodup := by
    have distinct : t.memo.keys.Nodup := t.memo.nodup
    rw [remembered] at distinct
    exact nesting.ends_perm.nodup_iff.mp (List.nodup_append.mp distinct).2.1
  refine ⟨nesting, nests.brackets, used, remembered, ?_⟩
  rw [used, remembered, List.append_cancel_left_eq]
  exact Nesting.ends_eq_begins nodup

end Workspace

/-! Groups of other documents -/

def namesUnder (groups : Table Declarations) (title : String) : List String :=
  ((groups.find? title).getD ∅).keys

theorem titles_surfaced (expansions : List Expansion) (groups : Table Declarations) :
    (expansions.foldl surface groups).keys =
      firstCome groups.keys ((expansions.filter fun expansion => expansion.IsSurfaced).map
        fun expansion => expansion.target.groupName) := by
  induction expansions generalizing groups with
  | nil => rfl
  | cons expansion rest ih =>
    rw [List.foldl_cons, ih]
    by_cases surfaced : expansion.IsSurfaced
    · rw [List.filter_cons_of_pos (by simpa using surfaced), List.map_cons]
      have put : surface groups expansion = groups.put expansion.target.groupName _ :=
        if_pos surfaced
      rw [put, Table.keys_put]
      rfl
    · rw [List.filter_cons_of_neg (by simpa using surfaced)]
      have same : surface groups expansion = groups := if_neg surfaced
      rw [same]

theorem names_surfaced (expansions : List Expansion) (groups : Table Declarations)
    (title : String) : namesUnder (expansions.foldl surface groups) title =
      firstCome (namesUnder groups title)
        ((expansions.filter fun expansion =>
          expansion.IsSurfaced ∧ title = expansion.target.groupName).map
            fun expansion => expansion.target.name) := by
  induction expansions generalizing groups with
  | nil => rfl
  | cons expansion rest ih =>
    rw [List.foldl_cons, ih]
    by_cases own : expansion.IsSurfaced ∧ title = expansion.target.groupName
    · rw [List.filter_cons_of_pos (by simpa using own), List.map_cons]
      have names : namesUnder (surface groups expansion) title =
          if expansion.target.name ∈ namesUnder groups title then namesUnder groups title
          else namesUnder groups title ++ [expansion.target.name] := by
        unfold namesUnder
        rw [surface_find?, if_pos own, Option.getD_some, Table.keys_put]
      rw [names]
      rfl
    · rw [List.filter_cons_of_neg (by simpa using own)]
      unfold namesUnder
      rw [surface_find?, if_neg own]

/-- The groups of a generation are those of the listed one and then those of the memo, and so are
the names in each group, in the order of the memo. -/
structure Generation.FollowsMemo (listed : Generation) (memo : Table Expansion)
    (generation : Generation) : Prop where
  types : generation.types = listed.types
  titles : generation.groups.keys =
    firstCome listed.groups.keys ((memo.values.filter fun expansion => expansion.IsSurfaced).map
      fun expansion => expansion.target.groupName)
  names : ∀ title, namesUnder generation.groups title =
    firstCome (namesUnder listed.groups title)
      ((memo.values.filter fun expansion =>
        expansion.IsSurfaced ∧ title = expansion.target.groupName).map
          fun expansion => expansion.target.name)

/-- Whatever was asked for before, a request that ends well remembers its expansions in the order in
which they end, and groups of other documents come in that order. -/
theorem memo_in_order_of_ends (workspace : Workspace) (trace : List Event)
    (earlier : List Workspace.Request) :
    let s := workspace.after trace earlier
    (∀ scope types declared t,
      (workspace.declareTypes scope types).run s = (.ok declared, t) →
      workspace.OrdersMemo (workspace.listTypes scope types) s declared t) ∧
    ∀ spec generation t, (workspace.declareAll spec).run s = (.ok generation, t) →
      ∃ listed, workspace.OrdersMemo (workspace.listAll spec) s listed t ∧
        listed.FollowsMemo t.memo generation := by
  intro s
  obtain ⟨loaded, closed⟩ := workspace.after_keeps trace earlier
  constructor
  · intro scope types declared t run
    obtain ⟨r, u, runs, same⟩ := Workspace.declareTypes_runs scope types loaded
    cases same.symm.trans run
    exact Workspace.runs_ordersMemo runs loaded closed
  · intro spec generation t run
    obtain ⟨r, u, runs, same⟩ := Workspace.declareAll_runs spec loaded
    cases r with
    | error failure => cases same.symm.trans run
    | ok listed =>
      cases same.symm.trans run
      refine ⟨listed, Workspace.runs_ordersMemo runs loaded closed, rfl, ?_, ?_⟩
      · exact titles_surfaced t.memo.values listed.groups
      · exact names_surfaced t.memo.values listed.groups

namespace NestedUses
open SameName (mapping single object info renderer tokens)

/-! A pet of another document, and its owner in a third one. -/

def root : Yaml.Value :=
  mapping [info, ("types", mapping [
    ("Main", object [("pet", single "$ref" "pets.yaml#/types/Pet")])])]

def library : Library where
  documents := [
    (Path.ofString "/pets.yaml", .ok (mapping [("types", mapping [
      ("Pet", object [("owner", single "$ref" "people.yaml#/types/Person")])])])),
    (Path.ofString "/people.yaml", .ok (mapping [("types", mapping [("Person", object [])])]))]

def workspace : Workspace := ⟨⟨Path.ofString "/spec.yaml", root⟩, library, tokens, renderer⟩

def spec : Spec := (Spec.decode root).toOption.getD ⟨⟨"", ""⟩, none, none⟩

def run : Except Failure Generation × Session :=
  (workspace.declareAll spec).run (workspace.after [] [])

def types : TypeMap := spec.types.getD ∅

theorem owner_ends_first :
    (∃ declared t, (workspace.declareTypes workspace.root types).run (workspace.after [] []) =
        (.ok declared, t) ∧
      workspace.OrdersMemo (workspace.listTypes workspace.root types) (workspace.after [] [])
        declared t) ∧
    ∃ generation t listed, run = (.ok generation, t) ∧
      workspace.OrdersMemo (workspace.listAll spec) (workspace.after [] []) listed t ∧
      listed.FollowsMemo t.memo generation := by
  obtain ⟨typesOrder, allOrder⟩ := memo_in_order_of_ends workspace [] []
  constructor
  · have declares : ((workspace.declareTypes workspace.root types).run
        (workspace.after [] [])).1.toOption.map Table.keys = some ["Main"] := by decide +kernel
    rcases done : (workspace.declareTypes workspace.root types).run (workspace.after [] []) with
      ⟨failure | declared, t⟩
    · rw [done] at declares
      cases declares
    · exact ⟨declared, t, rfl, typesOrder workspace.root types declared t done⟩
  · have groups : run.1.toOption.map (fun generation => generation.groups.keys) =
        some ["People", "Pets"] := by decide +kernel
    rcases done : run with ⟨failure | generation, t⟩
    · rw [done] at groups
      cases groups
    · obtain ⟨listed, orders, follows⟩ := allOrder spec generation t done
      exact ⟨generation, t, listed, rfl, orders, follows⟩

/-- `Pet` is asked for before `Person`, but remembered after it, and so are their groups. -/
theorem owner_is_remembered_first : ∃ log listed t,
    workspace.Logs (workspace.listAll spec) (workspace.after [] []) log (.ok listed) t ∧
      t.memo.keys ≠ firstCome (workspace.after [] []).memo.keys (workspace.used log) ∧
      t.memo.keys = ["/pets.yaml::people.yaml#/types/Person", "pets.yaml#/types/Pet"] ∧
      (listed.surfacing t.memo).groups.keys = ["People", "Pets"] := by
  have asked : ((workspace.listAll spec).firstAsk?.map fun ask => workspace.key ask.1 ask.2) =
      some "pets.yaml#/types/Pet" := by decide +kernel
  have ending : (run.1.toOption.map fun generation => (generation.groups.keys, run.2.memo.keys)) =
      some (["People", "Pets"],
        ["/pets.yaml::people.yaml#/types/Person", "pets.yaml#/types/Pet"]) := by decide +kernel
  obtain ⟨loaded, _⟩ := workspace.after_keeps [] []
  obtain ⟨r, t, runs, same⟩ := Workspace.declareAll_runs spec loaded
  have whole : run = (r.map (Generation.surfacing t.memo), t) := same
  rw [whole] at ending
  cases r with
  | error failure => cases ending
  | ok listed =>
    obtain ⟨groups, memo⟩ := Prod.mk.inj (Option.some.inj ending)
    obtain ⟨log, logs⟩ := Workspace.logs_of_runs runs
    obtain ⟨⟨scope, reference⟩, first, key⟩ := Option.map_eq_some_iff.mp asked
    obtain ⟨later, used⟩ := Workspace.used_of_firstAsk first logs
    refine ⟨log, listed, t, logs, ?_, memo, groups⟩
    intro order
    rw [memo, used, show workspace.key scope reference = _ from key] at order
    have start : ["pets.yaml#/types/Pet"] <+:
        firstCome (workspace.after [] []).memo.keys ("pets.yaml#/types/Pet" :: later) :=
      (firstCome_new List.not_mem_nil).symm ▸ prefix_firstCome
    rw [← order] at start
    exact absurd start (by decide)

end NestedUses

end Typewright
