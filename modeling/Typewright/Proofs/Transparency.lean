import Typewright.Proofs.Binding
import Typewright.Proofs.Reordering

/-!
Memory is transparent. Where no reference leads back to itself and keys tell references apart,
requests come to the same results as in a new session, whatever was asked for before and in
whatever order the types are listed.
-/
namespace Typewright

theorem referring_withoutSelf (declaration : Declaration) (name : String) :
    (declaration.withoutSelf name).referring name = declaration.referring name := by
  have same : (declaration.references.erase name).insert name =
      declaration.references.insert name := by
    refine NameSet.ext_mem fun other => ?_
    by_cases own : other = name <;> simp [own]
  simp [Declaration.withoutSelf, Declaration.referring, same]

def declarationAt (groups : Table Declarations) (title name : String) : Option Declaration :=
  (groups.find? title).bind fun types => types.find? name

theorem declarationAt_reorders {a b : Table Declarations} (groups : GroupsReorder a b)
    (title name : String) : declarationAt a title name = declarationAt b title name := by
  unfold declarationAt
  have like := groups title
  generalize a.find? title = x at like
  generalize b.find? title = y at like
  cases like with
  | some reorders => exact Table.reorders_iff.mp reorders name
  | none => rfl

def Expansion.Takes (expansion : Expansion) (title name : String) : Prop :=
  expansion.IsSurfaced ∧ expansion.target.groupName = title ∧ expansion.target.name = name

theorem declarationAt_surface {groups : Table Declarations} {expansion : Expansion}
    {title name : String} :
    declarationAt (surface groups expansion) title name = declarationAt groups title name ∨
      expansion.Takes title name ∧
        declarationAt (surface groups expansion) title name =
          some (expansion.declaration.withoutSelf name) := by
  unfold declarationAt
  rw [surface_find?]
  by_cases surfaced : expansion.IsSurfaced ∧ title = expansion.target.groupName
  · rw [if_pos surfaced]
    by_cases own : name = expansion.target.name
    · refine .inr ⟨⟨surfaced.1, surfaced.2.symm, own.symm⟩, ?_⟩
      simp [own]
    · refine .inl ?_
      cases known : groups.find? title <;> simp [own]
  · rw [if_neg surfaced]
    exact .inl rfl

theorem declarationAt_surfaceAll {memo : Table Expansion} {groups : Table Declarations}
    {title name : String} :
    declarationAt (surfaceAll memo groups) title name = declarationAt groups title name ∨
      ∃ expansion ∈ memo.values, expansion.Takes title name ∧
        declarationAt (surfaceAll memo groups) title name =
          some (expansion.declaration.withoutSelf name) := by
  unfold surfaceAll
  induction memo.values generalizing groups with
  | nil => exact .inl rfl
  | cons first rest ih =>
    rcases @ih (surface groups first) with same | ⟨expansion, member, takes, same⟩
    · rw [List.foldl_cons, same]
      exact (declarationAt_surface).imp_right fun taken => ⟨first, List.mem_cons_self, taken⟩
    · exact .inr ⟨expansion, List.mem_cons_of_mem _ member, takes, same⟩

def TypeMap.Lists (types : TypeMap) (name : String) (schema : Schema) : Prop :=
  schema.isReference = false ∧
    ∃ value, (name, value) ∈ types.entries ∧ Schema.decodeNamed name value = .ok schema

namespace Workspace
variable {workspace : Workspace} {scope : Document} {reference : String} {s t u : Session}
variable {requests : List Request} {trace : List Event} {keys : List String}

/-! What is listed -/

theorem declareEntries_keeps {entries : List (String × Yaml.Value)} {before after : Declarations}
    {name : String} (absent : name ∉ Pairs.keys entries)
    (unfolds : workspace.Unfolds (workspace.declareEntries scope entries before) keys
      (.ok after)) : after.find? name = before.find? name := by
  induction entries generalizing before keys with
  | nil =>
    cases unfolds
    rfl
  | cons entry rest ih =>
    obtain ⟨schema, declared, first, last, rfl, decoded, own, later⟩ :=
      declareEntries_cons.mp unfolds
    obtain ⟨other, inRest⟩ := not_or.mp (List.mem_cons.not.mp absent)
    rw [ih inRest later, list]
    split
    · rfl
    · rw [Table.find?_put, if_neg other]

theorem declareEntries_find? {entries : List (String × Yaml.Value)}
    (nodup : (Pairs.keys entries).Nodup) {before after : Declarations} {name : String}
    {value : Yaml.Value} {schema : Schema} (member : (name, value) ∈ entries)
    (decoded : Schema.decodeNamed name value = .ok schema)
    (notReference : schema.isReference = false)
    (unfolds : workspace.Unfolds (workspace.declareEntries scope entries before) keys
      (.ok after)) :
    ∃ own declared, workspace.Unfolds (workspace.declare scope name schema) own (.ok declared) ∧
      after.find? name = some (declared.withoutSelf name) := by
  induction entries generalizing before keys with
  | nil => cases member
  | cons entry rest ih =>
    obtain ⟨absent, distinct⟩ := List.nodup_cons.mp nodup
    obtain ⟨found, declared, first, last, rfl, known, own, later⟩ :=
      declareEntries_cons.mp unfolds
    rcases List.mem_cons.mp member with rfl | member
    · cases decoded.symm.trans known
      refine ⟨first, declared, own, ?_⟩
      rw [declareEntries_keeps absent later]
      simp [list, notReference]
    · exact ih distinct member later

def LeadsToType (workspace : Workspace) (a : Document) (q : String) (scope : Document)
    (name : String) (schema : Schema) : Prop :=
  ∃ target, workspace.schemaAt a q = .ok (target, schema) ∧ target.document = scope ∧
    target.name = name

/-- Whenever a reference to the type is asked for, it is answered with this declaration, which then
uses its own name. -/
def AnswersTo (workspace : Workspace) (trace : List Event) (requests : List Request)
    (scope : Document) (name : String) (schema : Schema) (declaration : Declaration) : Prop :=
  ∀ a q t, workspace.LeadsToType a q scope name schema →
    workspace.Begins trace requests (Walk.ask a q) t →
    ∃ u, workspace.Answers a q t (.ok (declaration.referring name)) u

theorem asked_unfolds {a : Document} {q : String} {name : String} {schema : Schema}
    {declared : Declaration} (leads : workspace.LeadsToType a q scope name schema)
    (notReference : schema.isReference = false)
    (own : workspace.Unfolds (workspace.declare scope name schema) keys (.ok declared)) :
    workspace.Unfolds (Walk.ask a q) (workspace.key a q :: keys ++ [])
      (.ok (declared.referring name)) := by
  obtain ⟨target, found, rfl, rfl⟩ := leads
  have finished : target.finish schema declared = declared.referring target.name := by
    simp [Target.finish, notReference]
  rw [← finished]
  exact .expanded found own (.done _)

theorem listed_answers (clear : workspace.IsClear requests) {name : String} {schema : Schema}
    {declared : Declaration} (notReference : schema.isReference = false)
    (own : workspace.Unfolds (workspace.declare scope name schema) keys (.ok declared)) :
    workspace.AnswersTo trace requests scope name schema (declared.withoutSelf name) := by
  intro a q t leads begins
  obtain ⟨α, next, ready⟩ := begins_ready clear begins
  have covering : workspace.Covering workspace.Serves (workspace.reach requests) :=
    covering_reach requests
  have reached : workspace.Reached (workspace.reach requests) t.opened a q := ready.asks.1
  obtain ⟨r, u, run, _⟩ := runs_within covering _ (Walk.ask a q) ready.loaded
    ⟨reached.1, fun _ => trivial⟩ (Nat.lt_succ_self _)
  obtain ⟨_, others, unfolds, _⟩ := runs_unfolds clear.acyclic clear.apart covering run
    ⟨ready.loaded, ⟨reached, fun _ => trivial⟩, ready.faithful⟩
  have same := (unfolds_unique (asked_unfolds leads notReference own) unfolds).2
  refine ⟨u, ?_⟩
  rw [referring_withoutSelf, same]
  exact run

theorem listGroups_keeps {groups : List (String × Group)} {before after : Table Declarations}
    {title : String} (absent : title ∉ Pairs.keys groups)
    (unfolds : workspace.Unfolds (workspace.listGroups groups before) keys (.ok after)) :
    after.find? title = before.find? title := by
  induction groups generalizing before keys with
  | nil =>
    cases unfolds
    rfl
  | cons entry rest ih =>
    obtain ⟨declared, first, last, rfl, own, later⟩ := listGroups_cons.mp unfolds
    obtain ⟨other, inRest⟩ := not_or.mp (List.mem_cons.not.mp absent)
    rw [ih inRest later, Table.find?_put, if_neg other]

theorem listGroups_find? {groups : List (String × Group)} (nodup : (Pairs.keys groups).Nodup)
    {before after : Table Declarations} {title : String} {group : Group}
    (member : (title, group) ∈ groups)
    (unfolds : workspace.Unfolds (workspace.listGroups groups before) keys (.ok after)) :
    ∃ own declared, workspace.Unfolds (workspace.listGroup group) own (.ok declared) ∧
      after.find? title = some declared := by
  induction groups generalizing before keys with
  | nil => cases member
  | cons entry rest ih =>
    obtain ⟨absent, distinct⟩ := List.nodup_cons.mp nodup
    obtain ⟨declared, first, last, rfl, own, later⟩ := listGroups_cons.mp unfolds
    rcases List.mem_cons.mp member with rfl | member
    · refine ⟨first, declared, own, ?_⟩
      rw [listGroups_keeps absent later, Table.find?_put, if_pos rfl]
    · exact ih distinct member later

def Stands (workspace : Workspace) (scope : Document) (types : TypeMap) : Group → Prop
  | .types listed => listed = types ∧ scope = workspace.root
  | .reference reference => ∃ target,
    workspace.groupAt workspace.root reference = .ok (target, types) ∧ scope = target.document

theorem listGroup_stands {group : Group} {types : TypeMap} {declared : Declarations}
    (stands : workspace.Stands scope types group)
    (unfolds : workspace.Unfolds (workspace.listGroup group) keys (.ok declared)) :
    workspace.Unfolds (workspace.listTypes scope types) keys (.ok declared) := by
  cases group with
  | types listed =>
    obtain ⟨rfl, rfl⟩ := stands
    exact unfolds
  | reference reference =>
    obtain ⟨target, found, rfl⟩ := stands
    rcases unfolds_grouping.mp unfolds with ⟨group, again, later⟩ | ⟨failure, failed, _⟩
    · cases found.symm.trans again
      exact later
    · cases failed

/-! Requests in a history -/

section Requests
variable (clear : workspace.IsClear requests) (loaded : s.IsLoaded workspace)
variable (closed : s.opened = [])
variable (faithful : s.Remembers (workspace.Faithful (workspace.reach requests) s))
include clear loaded closed faithful

theorem declareTypes_unfolds {types other : TypeMap} (member : .types scope types ∈ requests)
    (values : ∀ value ∈ other.values, value ∈ types.values) :
    ∃ keys, workspace.Unfolds (workspace.listTypes scope other) keys
      ((workspace.declareTypes scope other).run s).1 := by
  obtain ⟨r, t, run, same⟩ := declareTypes_runs scope other loaded
  rw [same]
  exact (runs_unfolds clear.acyclic clear.apart (covering_reach requests) run (ready_of_closed
    loaded closed faithful (types_ask_reach (clear.served _ member) member values))).2.imp
      fun _ unfolds => unfolds.1

theorem declareAll_unfolds {spec other : Spec} (member : .all spec ∈ requests)
    (values : ∀ value ∈ other.values, value ∈ spec.values) :
    ∃ keys r t, workspace.Unfolds (workspace.listAll other) keys r ∧
      (workspace.declareAll other).run s = (r.map (Generation.surfacing t.memo), t) ∧
      t.Remembers (workspace.Faithful (workspace.reach requests) t) ∧
      ∀ value, r = .ok value → ∀ key, t.Has key ↔ s.Has key ∨ key ∈ keys := by
  obtain ⟨r, t, run, same⟩ := declareAll_runs other loaded
  obtain ⟨kept, keys, unfolds, has⟩ := runs_unfolds clear.acyclic clear.apart
    (covering_reach requests) run
    (ready_of_closed loaded closed faithful (all_ask_reach member values))
  exact ⟨keys, r, t, unfolds, same, kept, has⟩

end Requests

theorem memo_reorders {sites : List (Path × String)} (apart : workspace.KeysApart sites)
    (first : s.Remembers (workspace.Faithful sites s))
    (second : t.Remembers (workspace.Faithful sites t)) (same : ∀ key, s.Has key ↔ t.Has key) :
    s.memo.Reorders t.memo := by
  refine Table.reorders_iff.mpr fun key => ?_
  cases known : s.memo.find? key with
  | none =>
    cases other : t.memo.find? key with
    | none => rfl
    | some expansion =>
      obtain ⟨old, found⟩ := (same key).mpr ⟨expansion, other⟩
      cases known.symm.trans found
  | some expansion =>
    obtain ⟨other, found⟩ := (same key).mp ⟨expansion, known⟩
    obtain ⟨a, q, schema, keys, rfl, listed, leads, unfolds, _⟩ := first _ _ known
    obtain ⟨b, r, otherSchema, others, key, again, otherLeads, otherUnfolds, _⟩ := second _ _ found
    obtain ⟨rfl, rfl⟩ := same_of_key apart listed again key
    have targets : expansion.target = other.target :=
      congrArg Prod.fst (Except.ok.inj (leads.symm.trans otherLeads))
    have declarations : expansion.declaration = other.declaration :=
      Except.ok.inj (unfolds_unique unfolds otherUnfolds).2
    rw [found]
    cases expansion
    cases other
    cases targets
    cases declarations
    rfl

/-- The types of a map, declared in `s`, come out as in a new session and in any other order, and as
references to them are answered but for their own names. -/
structure TypesTransparent (workspace : Workspace) (trace : List Event) (requests : List Request)
    (s : Session) (scope : Document) (types : TypeMap) : Prop where
  fresh : ((workspace.declareTypes scope types).run s).1 =
    ((workspace.declareTypes scope types).run {}).1
  reordered : ∀ declarations other,
    ((workspace.declareTypes scope types).run s).1 = .ok declarations → types.Reorders other →
    ∃ result, ((workspace.declareTypes scope other).run s).1 = .ok result ∧
      declarations.Reorders result
  listed : ∀ declarations name schema,
    ((workspace.declareTypes scope types).run s).1 = .ok declarations → types.Lists name schema →
    ∃ declaration, declarations.find? name = some declaration ∧
      workspace.AnswersTo trace requests scope name schema declaration

/-- The generation of a document of types, made from `s` to `t`, comes out in any other order if no
two expansions clash. What it holds for a listed type is what references to the type are answered
with, but for its own name; in a group an expansion may have taken the place. -/
structure AllTransparent (workspace : Workspace) (trace : List Event) (requests : List Request)
    (s : Session) (spec : Spec) (generation : Generation) (t : Session) : Prop where
  reordered : (∀ a ∈ t.memo.values, ∀ b ∈ t.memo.values, ¬a.Clashes b) →
    ∀ other, spec.Reorders other →
    ∃ result u, (workspace.declareAll other).run s = (.ok result, u) ∧ generation.Reorders result
  types : ∀ types name schema, spec.types = some types → types.Lists name schema →
    ∃ declaration, generation.types.find? name = some declaration ∧
      workspace.AnswersTo trace requests workspace.root name schema declaration
  groups : ∀ groups title group scope types name schema, spec.groups = some groups →
    (title, group) ∈ groups.entries → workspace.Stands scope types group →
    types.Lists name schema →
    ∃ declaration, declarationAt generation.groups title name = some declaration ∧
      (workspace.AnswersTo trace requests scope name schema declaration ∨
        ∃ expansion ∈ t.memo.values, expansion.Takes title name ∧
          declaration = expansion.declaration.withoutSelf name)

def IsTransparent (workspace : Workspace) (trace : List Event) (requests : List Request) : Prop :=
  ∀ earlier request later, requests = earlier ++ request :: later →
    match request with
    | .types scope types =>
      workspace.TypesTransparent trace requests (workspace.after trace earlier) scope types
    | .all spec => ∀ generation t,
      (workspace.declareAll spec).run (workspace.after trace earlier) = (.ok generation, t) →
      workspace.AllTransparent trace requests (workspace.after trace earlier) spec generation t

theorem listTypes_answers (clear : workspace.IsClear requests) {types : TypeMap}
    {declarations : Declarations} {name : String} {schema : Schema}
    (unfolds : workspace.Unfolds (workspace.listTypes scope types) keys (.ok declarations))
    (listed : types.Lists name schema) :
    ∃ declaration, declarations.find? name = some declaration ∧
      workspace.AnswersTo trace requests scope name schema declaration := by
  obtain ⟨notReference, value, member, decoded⟩ := listed
  obtain ⟨_, declared, own, found⟩ :=
    declareEntries_find? types.nodup member decoded notReference unfolds
  exact ⟨_, found, listed_answers clear notReference own⟩

section Requests
variable (clear : workspace.IsClear requests) (loaded : s.IsLoaded workspace)
variable (closed : s.opened = [])
variable (faithful : s.Remembers (workspace.Faithful (workspace.reach requests) s))
include clear loaded closed faithful

theorem types_transparent {types : TypeMap} (member : .types scope types ∈ requests) :
    workspace.TypesTransparent trace requests s scope types := by
  obtain ⟨keys, unfolds⟩ :=
    declareTypes_unfolds clear loaded closed faithful member fun _ inside => inside
  refine ⟨?_, ?_, ?_⟩
  · obtain ⟨_, again⟩ := declareTypes_unfolds (s := {}) clear Resolve.empty_loaded rfl
      (fun key expansion found => nomatch found) member fun _ inside => inside
    exact (unfolds_unique unfolds again).2
  · intro declarations other run reorders
    rw [run] at unfolds
    obtain ⟨_, result, alike, _, like⟩ := listTypes_reorders reorders unfolds
    obtain ⟨_, again⟩ := declareTypes_unfolds clear loaded closed faithful member
      fun _ inside => (reorders.map Prod.snd).mem_iff.mpr inside
    exact ⟨result, (unfolds_unique again alike).2, like⟩
  · intro declarations name schema run listed
    rw [run] at unfolds
    exact listTypes_answers clear unfolds listed

theorem all_transparent {spec : Spec} (member : .all spec ∈ requests) {generation : Generation}
    (run : (workspace.declareAll spec).run s = (.ok generation, t)) :
    workspace.AllTransparent trace requests s spec generation t := by
  obtain ⟨keys, r, u, unfolds, same, kept, has⟩ :=
    declareAll_unfolds clear loaded closed faithful member fun _ inside => inside
  cases r with
  | error failure => cases same.symm.trans run
  | ok listed =>
  cases same.symm.trans run
  refine ⟨?_, ?_, ?_⟩
  · intro apart other reorders
    obtain ⟨_, result, alike, inside, like⟩ := listAll_reorders reorders unfolds
    obtain ⟨_, q, v, again, other, known, hasOther⟩ := declareAll_unfolds clear loaded closed
      faithful member fun _ inside => specValues_of_reorders reorders inside
    obtain ⟨rfl, rfl⟩ := unfolds_unique again alike
    have memos : t.memo.Reorders v.memo := memo_reorders clear.apart kept known fun key => by
      rw [has _ rfl, hasOther _ rfl, inside]
    exact ⟨_, v, other, surfacing_reorders memos apart like⟩
  · intro types name schema isTypes lists
    obtain ⟨_, _, _, own, _⟩ := listAll_ok.mp unfolds
    rw [isTypes] at own
    exact listTypes_answers clear own lists
  · intro groups title group scope types name schema isGroups member stands lists
    obtain ⟨_, _, _, _, grouped⟩ := listAll_ok.mp unfolds
    rw [isGroups] at grouped
    obtain ⟨_, declared, own, found⟩ := listGroups_find? groups.nodup member grouped
    obtain ⟨declaration, known, answers⟩ : ∃ declaration,
        declared.find? name = some declaration ∧
          workspace.AnswersTo trace requests scope name schema declaration :=
      listTypes_answers clear (listGroup_stands stands own) lists
    have before : declarationAt listed.groups title name = some declaration := by
      simp [declarationAt, found, known]
    rcases @declarationAt_surfaceAll t.memo listed.groups title name with
      same | ⟨expansion, isIn, takes, same⟩
    · exact ⟨declaration, same.trans before, .inl answers⟩
    · exact ⟨_, same, .inr ⟨expansion, isIn, takes, rfl⟩⟩

end Requests

/-- Whatever a history has asked for before, memory makes no difference to its requests. -/
theorem memory_is_transparent (trace : List Event) (clear : workspace.IsClear requests) :
    workspace.IsTransparent trace requests := by
  intro earlier request later split
  have member : request ∈ requests := by simp [split]
  obtain ⟨loaded, closed⟩ := workspace.after_keeps trace earlier
  have faithful : (workspace.after trace earlier).Remembers
      (workspace.Faithful (workspace.reach requests) (workspace.after trace earlier)) :=
    after_faithful clear earlier _ split
  cases request with
  | types scope types => exact types_transparent clear loaded closed faithful member
  | all spec =>
    intro generation t run
    exact all_transparent clear loaded closed faithful member run

end Workspace

namespace SameGroup
open SameName (mapping single object info renderer tokens)
open Workspace

/-! Types that refer to an `Id` each, in documents of the same name. -/

def typeOf (type : String × String) : String × Yaml.Value :=
  (type.1, object [("id", single "$ref" (type.2 ++ "/common.yaml#/types/Id"))])

def library : Library where
  documents := [
    (Path.ofString "/a/common.yaml", .ok (mapping [("types", mapping [
      ("Id", object [("part", single "$ref" "#/types/Part")]),
      ("Part", object [("text", single "type" "string")])])])),
    (Path.ofString "/b/common.yaml", .ok (mapping [("types", mapping [
      ("Id", object [("text", single "type" "string")])])]))]

def types (listed : List (String × String)) : TypeMap := Table.ofList (listed.map typeOf)

def spec (listed : List (String × String)) : Spec := ⟨⟨"1", "t"⟩, some (types listed), none⟩

def root : Document :=
  ⟨Path.ofString "/spec.yaml", mapping [info, ("types", mapping [typeOf ("A", "a")])]⟩

def workspace : Workspace := ⟨root, library, tokens, renderer⟩

def history : List Request :=
  [.types root (types [("A", "a"), ("B", "c")]), .types root (types [("A", "a")]),
    .all (spec [("A", "a"), ("B", "a")]), .all (spec [("A", "a"), ("B", "b")])]

theorem history_clear : workspace.IsClear history where
  acyclic := by
    have ends : ∀ document ∈ workspace.documents, ∀ reference ∈ document.body.references,
        workspace.endsWithin 3 document reference = true := by decide +kernel
    exact acyclic_of_endsWithin ends
  apart := by
    unfold KeysApart
    decide +kernel
  served := by
    intro request member
    simp only [history, List.mem_cons, List.not_mem_nil, or_false] at member
    rcases member with rfl | rfl | rfl | rfl
    · exact .inl rfl
    · exact .inl rfl
    · trivial
    · trivial

theorem spec_reorders (a b : String) :
    (spec [("A", a), ("B", b)]).Reorders (spec [("B", b), ("A", a)]) where
  types := .some (Table.put_put_reorders (fun same => absurd same (by simp)) (List.Perm.refl _))
  groups := .none

theorem transparent_after_failure :
    ((workspace.declareTypes root (types [("A", "a"), ("B", "c")])).run {}).1.isOk = false ∧
    ((workspace.declareTypes root (types [("A", "a")])).run
      (workspace.after [] (history.take 1))).1.isOk = true ∧
    (∃ result, ((workspace.declareAll (spec [("B", "a"), ("A", "a")])).run
      (workspace.after [] (history.take 2))).1 = .ok result) ∧
    workspace.IsTransparent [] history := by
  have transparent := memory_is_transparent [] history_clear
  refine ⟨by decide +kernel, by decide +kernel, ?_, transparent⟩
  have all := transparent (history.take 2) (.all (spec [("A", "a"), ("B", "a")]))
    (history.drop 3) rfl
  have ends : ((workspace.declareAll (spec [("A", "a"), ("B", "a")])).run
      (workspace.after [] (history.take 2))).1.isOk = true := by decide +kernel
  have apart : ((((workspace.declareAll (spec [("A", "a"), ("B", "a")])).run
      (workspace.after [] (history.take 2))).2.memo.values).map fun expansion =>
        (expansion.target.groupName, expansion.target.name)).Nodup := by decide +kernel
  rcases run : (workspace.declareAll (spec [("A", "a"), ("B", "a")])).run
    (workspace.after [] (history.take 2)) with ⟨failure | generation, t⟩
  · simp [run] at ends
    cases ends
  · rw [run] at apart
    obtain ⟨result, u, again, _⟩ := (all generation t run).reordered (not_clash_of_nodup apart) _
      (spec_reorders "a" "a")
    exact ⟨result, congrArg Prod.fst again⟩

def idContent (listed : List (String × String)) : Option String :=
  ((workspace.declareAll (spec listed)).run {}).1.toOption.bind fun generation =>
    (declarationAt generation.groups "Common" "Id").map Declaration.content

/-- The types that refer to documents of one name are declared in two orders. The last one decides
what `Id` is in the group. -/
theorem reordering_changes_a_group :
    (spec [("A", "a"), ("B", "b")]).Reorders (spec [("B", "b"), ("A", "a")]) ∧
    workspace.IsClear history ∧
    ∃ first second,
      ((workspace.declareAll (spec [("A", "a"), ("B", "b")])).run {}).1 = .ok first ∧
      ((workspace.declareAll (spec [("B", "b"), ("A", "a")])).run {}).1 = .ok second ∧
      ¬first.Reorders second := by
  refine ⟨spec_reorders "a" "b", history_clear, ?_⟩
  have firstId : idContent [("A", "a"), ("B", "b")] = some "Id: text" := by decide +kernel
  have secondId : idContent [("B", "b"), ("A", "a")] = some "Id: part" := by decide +kernel
  unfold idContent at firstId secondId
  cases firstRun : ((workspace.declareAll (spec [("A", "a"), ("B", "b")])).run {}).1 with
  | error failure => simp [firstRun, Except.toOption] at firstId
  | ok first =>
    cases secondRun : ((workspace.declareAll (spec [("B", "b"), ("A", "a")])).run {}).1 with
    | error failure => simp [secondRun, Except.toOption] at secondId
    | ok second =>
      refine ⟨first, second, rfl, rfl, fun reorders => ?_⟩
      simp only [firstRun, Except.toOption, Option.bind_some] at firstId
      simp only [secondRun, Except.toOption, Option.bind_some] at secondId
      rw [declarationAt_reorders reorders.groups, secondId] at firstId
      exact absurd firstId (by decide)

end SameGroup

end Typewright
