import Typewright.Proofs.AfterRequests
import Typewright.Proofs.AlikeWalks
import Typewright.Proofs.ReferencedProperties
import Typewright.Proofs.Transparency

/-!
Failures are not masked by what is remembered. A request that fails in a new session fails after
any other requests too, as long as nothing is remembered that was built around a broken reference
and the renderer does not see what is told of references. Between requests that all succeeded, and
where no reference leads back to itself, memory is never built around a broken reference.
-/
namespace Typewright

namespace Workspace
variable {workspace : Workspace} {scope : Document} {reference : String} {s t u v : Session}
variable {requests : List Request} {trace : List Event} {sites : List (Path × String)}

/-! Runs that cannot fail -/

theorem runs_certain {allowed : Document → String → Prop}
    (readable : ∀ a q, allowed a q → ∃ target schema,
      workspace.schemaAt a q = .ok (target, schema) ∧
      Certain True allowed (workspace.declare target.document target.name schema))
    {walk : Walk α} {r : Except Failure α} (run : workspace.Runs walk s r t)
    (loaded : s.IsLoaded workspace) (certain : Certain True allowed walk) : r.isOk = true := by
  induction run with
  | done value s => rfl
  | failed failure s => exact absurd trivial certain
  | noting later ih => exact ih loaded certain
  | grouped => exact certain.elim
  | ungrouped => exact certain.elim
  | remembered known later ih => exact ih loaded (certain.2 _)
  | pending unknown isOpen later ih => exact ih loaded (certain.2 _)
  | unreadable isNew read =>
    obtain ⟨target, schema, found, _⟩ := readable _ _ certain.1
    cases (readSchema_reads loaded read).1.trans found
  | broken enters inner ih =>
    obtain ⟨target, schema, found, inside⟩ := readable _ _ certain.1
    obtain ⟨same, reads⟩ := readSchema_reads loaded enters.read
    cases same.trans found
    cases ih reads.loaded inside
  | expanded enters inner later _ ih =>
    obtain ⟨_, reads⟩ := readSchema_reads loaded enters.read
    exact ih (runs_keeps inner reads.loaded).1 (certain.2 _)

/-! What expansions were built from -/

def Derived (workspace : Workspace) (trace : List Event) (requests : List Request) (key : String)
    (expansion : Expansion) : Prop :=
  ∃ scope reference schema s calls declared t, key = workspace.key scope reference ∧
    Lists workspace.Serves (workspace.reach requests) scope reference ∧
    workspace.schemaAt scope reference = .ok (expansion.target, schema) ∧
    s.IsLoaded workspace ∧
    workspace.Follows (workspace.declare expansion.target.document expansion.target.name schema) s
      calls (.done declared) t ∧
    ∀ call ∈ calls, workspace.Made trace requests call

theorem passes_derived (served : ∀ request ∈ requests, request.IsServed workspace)
    {start : Walk γ} (begins : workspace.Begins trace requests start s) :
    workspace.Passes start s (workspace.Derived trace requests) := by
  intro α chain scope reference rest t u v target schema calls declared moment enters follows _
  have tracked := begins_tracks served (begins_moment begins moment)
  obtain ⟨found, reads⟩ := readSchema_reads tracked.loaded enters.read
  have made := begins_made (begins_moment begins (.inner moment enters (.here _ _))) follows
  exact ⟨scope, reference, schema, workspace.inside scope reference target u, calls, declared, v,
    rfl, tracked.asks.1.1, found.symm, reads.loaded, follows, made⟩

theorem passesAlways_derived (served : ∀ request ∈ requests, request.IsServed workspace) :
    workspace.PassesAlways trace requests (workspace.Derived trace requests) := by
  refine passesAlways_iff.mpr ?_
  rintro earlier request later rfl
  exact passes_derived served (begins_walk trace earlier request later)

theorem asks_of_follows {allowed : Document → String → Prop} {name : String} {schema : Schema}
    {calls : List Call} {declared : Declaration}
    (follows : workspace.Follows (workspace.declare scope name schema) s calls (.done declared) t)
    (asked : ∀ call ∈ calls, allowed call.scope call.reference) :
    workspace.Asks allowed (workspace.declare scope name schema) :=
  asks_of_certain (certain_of_follows follows rfl (declare_matches False.elim) asked)

/-- No expansion is built around a broken reference: behind each reference that is remembered only
remembered ones are asked for. -/
def IsWhole (workspace : Workspace) (sites : List (Path × String)) (s : Session) : Prop :=
  ∀ scope reference target schema, Lists workspace.Serves sites scope reference →
    s.Has (workspace.key scope reference) →
    workspace.schemaAt scope reference = .ok (target, schema) →
    workspace.Asks (fun a q => s.Has (workspace.key a q))
      (workspace.declare target.document target.name schema)

theorem reach_subset (workspace : Workspace) (earlier later : List Request) :
    workspace.reach earlier ⊆ workspace.reach (earlier ++ later) := by
  intro site member
  rw [reach, List.mem_append] at member ⊢
  rw [List.flatMap_append, List.mem_append]
  exact member.imp_right .inl

theorem after_whole {earlier later : List Request}
    (served : ∀ request ∈ earlier, request.IsServed workspace)
    (apart : workspace.KeysApart (workspace.reach (earlier ++ later)))
    (sound : workspace.Acyclic ∨ workspace.Succeed trace earlier) :
    workspace.IsWhole (workspace.reach (earlier ++ later)) (workspace.after trace earlier) := by
  have known : (workspace.after trace earlier).Remembers (workspace.Derived trace earlier) :=
    after_remembers (passesAlways_derived served) earlier [] (by simp)
  have inside := reach_subset workspace earlier later
  rintro scope reference target schema listed ⟨expansion, isKnown⟩ found
  obtain ⟨a, q, _, _, calls, _, _, key, isListed, leads, _, follows, made⟩ := known _ _ isKnown
  obtain ⟨rfl, rfl⟩ := same_of_key apart listed ⟨inside isListed.1, isListed.2⟩ key
  cases found.symm.trans leads
  have earlierApart : workspace.KeysApart (workspace.reach earlier) :=
    fun a isIn b isAlso => apart a (inside isIn) b (inside isAlso)
  exact asks_of_follows follows fun call member =>
    made_remembered served earlierApart sound (made call member)

/-! Runs that succeed -/

section Runs
variable {sites : List (Path × String)} {start : Walk γ} {value : γ}
variable (covering : workspace.Covering workspace.Serves sites)
variable (loaded : s.IsLoaded workspace) (closed : s.opened = [])
variable (asks : workspace.Asks (Lists workspace.Serves sites) start)
variable (run : workspace.Runs start s (.ok value) t)
include covering loaded closed asks run

theorem calls_remembered {walk left : Walk α} {chain : List (Document × String)}
    {calls : List Call} (moment : workspace.Moment start s chain walk u)
    (follows : workspace.Follows walk u calls left v) :
    ∀ call ∈ calls, t.Has (workspace.key call.scope call.reference) := by
  induction follows with
  | here walk u => simp
  | noting later ih => exact ih (moment_follows moment (.noting (.here _ _)))
  | grouping read later ih => exact ih (moment_follows moment (.grouping read (.here _ _)))
  | asking answers later ih =>
    have here := asked_remembered run loaded moment
      (moment_chained covering loaded closed asks moment)
    exact List.forall_mem_cons.mpr ⟨here, ih (moment_follows moment (.asking answers (.here _ _)))⟩

theorem runs_whole (apart : workspace.KeysApart sites) (whole : workspace.IsWhole sites s) :
    workspace.IsWhole sites t := by
  rintro scope reference target schema listed ⟨expansion, known⟩ found
  have kept := keeps_runs run loaded
  rcases remembered_completes run loaded known with old | completes
  · exact asks_mono (fun _ _ => keeps_has kept) (whole _ _ _ _ listed ⟨_, old⟩ found)
  · obtain ⟨key, asked, enters, inner, _⟩ := completes
    have chained := moment_chained covering loaded closed asks asked
    obtain ⟨rfl, rfl⟩ := same_of_key apart listed chained.asks.1 key
    cases found.symm.trans (readSchema_reads chained.loaded enters.read).1.symm
    obtain ⟨calls, follows⟩ := follows_of_runs inner rfl
    exact asks_of_follows follows
      (calls_remembered covering loaded closed asks run (.inner asked enters (.here _ _)) follows)

end Runs

def Stored (workspace : Workspace) (sites : List (Path × String)) (s : Session) (scope : Document)
    (reference : String) : Prop :=
  Lists workspace.Serves sites scope reference ∧ s.Has (workspace.key scope reference)

/-- Where memory is whole and the renderer does not see what is told of references, what is
remembered can be expanded again with any answers, and asks for what is remembered. -/
theorem remembered_certain (blind : workspace.renderer.IsBlind)
    (apart : workspace.KeysApart (workspace.reach requests))
    (whole : workspace.IsWhole (workspace.reach requests) s)
    (derived : s.Remembers (workspace.Derived trace requests))
    (stored : workspace.Stored (workspace.reach requests) s scope reference) :
    ∃ target schema, workspace.schemaAt scope reference = .ok (target, schema) ∧
      Certain True (workspace.Stored (workspace.reach requests) s)
        (workspace.declare target.document target.name schema) := by
  obtain ⟨listed, expansion, known⟩ := stored
  obtain ⟨a, q, schema, u, calls, _, _, key, isListed, found, loaded, follows, _⟩ :=
    derived _ _ known
  obtain ⟨rfl, rfl⟩ := same_of_key apart listed isListed key
  refine ⟨_, schema, found, certain_of_follows follows rfl (declare_matches fun _ => blind) ?_⟩
  intro call member
  exact ⟨follows_allowed follows loaded (target_asks (covering_reach _) listed.2 found) call member,
    follows_allowed follows loaded (whole _ _ _ _ listed ⟨_, known⟩ found) call member⟩

section Requests
variable {earlier : List Request} {types : TypeMap}
variable (served : ∀ request ∈ earlier ++ [.types scope types], request.IsServed workspace)
variable (apart : workspace.KeysApart (workspace.reach (earlier ++ [.types scope types])))
include served apart

theorem succeeds_anywhere (blind : workspace.renderer.IsBlind)
    (whole : workspace.IsWhole (workspace.reach (earlier ++ [.types scope types]))
      (workspace.after trace earlier))
    (succeeds : ((workspace.declareTypes scope types).run (workspace.after trace earlier)).1.isOk =
      true) (loaded : s.IsLoaded workspace) :
    ((workspace.declareTypes scope types).run s).1.isOk = true := by
  obtain ⟨before, closed⟩ := workspace.after_keeps trace earlier
  obtain ⟨r, t, run, same⟩ := declareTypes_runs scope types before
  rw [same] at succeeds
  obtain ⟨value, rfl⟩ : ∃ value, r = .ok value := by
    cases r with
    | error failure => cases succeeds
    | ok value => exact ⟨value, rfl⟩
  have asks := request_asks served (List.mem_append_right _ List.mem_cons_self)
  have wholeAfter := runs_whole (covering_reach _) before closed asks run apart whole
  have derived : (workspace.after trace (earlier ++ [.types scope types])).Remembers
      (workspace.Derived trace (earlier ++ [.types scope types])) :=
    after_remembers (passesAlways_derived served) _ [] (by simp)
  rw [after_append, Request.after, same] at derived
  obtain ⟨calls, follows⟩ := follows_of_runs run rfl
  have stored (call : Call) (member : call ∈ calls) :
      workspace.Stored (workspace.reach (earlier ++ [.types scope types])) t call.scope
        call.reference :=
    ⟨follows_allowed follows before asks call member,
      calls_remembered (covering_reach _) before closed asks run (.outer (.here _ _)) follows call
        member⟩
  have certain : Certain True _ (workspace.listTypes scope types) :=
    certain_of_follows follows rfl (listTypes_matches fun _ => blind) stored
  obtain ⟨again, u, other, made⟩ := declareTypes_runs scope types loaded
  rw [made]
  exact runs_certain (fun _ _ => remembered_certain blind apart wholeAfter derived) other loaded
    certain

/-- What an earlier failure does not hide. Memory is whole unless a request failed and a reference
leads back to itself. Where no reference leads back to itself, or memory is whole and the renderer
does not see what is told of references, types that fail in a new session fail in this one too. -/
theorem failures_not_masked (trace : List Event) :
    (workspace.Acyclic ∨ workspace.Succeed trace earlier →
      workspace.IsWhole (workspace.reach (earlier ++ [.types scope types]))
        (workspace.after trace earlier)) ∧
    (workspace.Acyclic ∨ workspace.renderer.IsBlind ∧
        workspace.IsWhole (workspace.reach (earlier ++ [.types scope types]))
          (workspace.after trace earlier) →
      ((workspace.declareTypes scope types).run {}).1.isOk = false →
      ((workspace.declareTypes scope types).run (workspace.after trace earlier)).1.isOk =
        false) := by
  refine ⟨after_whole (fun request member => served request (List.mem_append_left _ member)) apart,
    ?_⟩
  rintro (acyclic | ⟨blind, whole⟩) failed
  · obtain ⟨loaded, closed⟩ := workspace.after_keeps trace earlier
    have clear : workspace.IsClear (earlier ++ [.types scope types]) := ⟨acyclic, apart, served⟩
    have transparent : workspace.TypesTransparent trace _ _ scope types :=
      types_transparent clear loaded closed (after_faithful clear earlier _ rfl) (by simp)
    rw [transparent.fresh, failed]
  · refine Bool.eq_false_iff.mpr fun succeeds => ?_
    have fresh := succeeds_anywhere served apart blind whole succeeds Resolve.empty_loaded
    cases failed.symm.trans fresh

end Requests

end Workspace

namespace HiddenFailures
open SameName (mapping info)
open ChainedTypes (Types objectOf body workspace)
open WalkOrder (arrayOf)
open Workspace

/-! A document whose types refer to each other, and requests for types beside them. -/

def ringTypes : Types := [
  objectOf "A" [("b", "#/types/B")], objectOf "B" [("a", "#/types/A")],
  objectOf "C" [("b", "#/types/B"), ("bad", "#/types/Missing")]]

def ring : Workspace := { workspace ringTypes [] with library := { documents := [] } }

def first : TypeMap := Table.ofList [objectOf "X" [("c", "#/types/C")]]

def second : TypeMap := Table.ofList [objectOf "Y" [("c", "#/types/C")]]

def sites : List (Path × String) :=
  ring.reach [.types ring.root first, .types ring.root second]

theorem ring_serves {document : Document} (serves : ring.Serves document) :
    document = ring.root := by
  rcases serves with rfl | ⟨path, fetched⟩
  · rfl
  · exact (fetch_ok fetched).resolve_right fun loaded => nomatch loaded.2

theorem ring_whole : ring.IsWhole sites (ring.after [] [.types ring.root first]) := by
  let known (key : String) : Bool :=
    ((ring.after [] [.types ring.root first]).memo.find? key).isSome
  have closed : (sites.all fun site => !known (ring.key ring.root site.2) ||
      (ring.schemaAt ring.root site.2).toOption.all fun found =>
        found.2.references.all fun reference =>
          known (ring.key found.1.document reference)) = true := by decide +kernel
  rintro scope reference target schema ⟨listed, serves⟩ ⟨expansion, has⟩ found
  obtain rfl := ring_serves serves
  have isKnown : known (ring.key ring.root reference) = true := by
    show (Option.isSome _) = true
    rw [has]
    rfl
  refine declareUnder_asks fun other written => Option.isSome_iff_exists.mp ?_
  have inside := List.all_eq_true.mp closed _ listed
  simp only [isKnown, found, Except.toOption, Option.all_some, Bool.not_true, Bool.false_or,
    List.all_eq_true] at inside
  exact inside other written

theorem missing_type_is_found :
    ((ring.declareTypes ring.root first).run {}).1.isOk = false ∧
    (ring.after [] [.types ring.root first]).memo.keys = ["#/types/A", "#/types/B"] ∧
    ring.IsWhole sites (ring.after [] [.types ring.root first]) ∧
    ((ring.declareTypes ring.root second).run {}).1.isOk = false ∧
    ((ring.declareTypes ring.root second).run
      (ring.after [] [.types ring.root first])).1.isOk = false := by
  have fails : ((ring.declareTypes ring.root second).run {}).1.isOk = false := by decide +kernel
  have apart : ring.KeysApart sites := by
    unfold KeysApart
    decide +kernel
  have served : ∀ request ∈ [Request.types ring.root first] ++ [.types ring.root second],
      request.IsServed ring := by
    simp [Request.IsServed, Serves]
  have blind : ring.renderer.IsBlind := ⟨fun _ _ _ => rfl, fun _ _ _ => rfl⟩
  have sound := failures_not_masked served apart []
  refine ⟨by decide +kernel, by decide +kernel, ring_whole, fails, ?_⟩
  exact sound.2 (.inr ⟨blind, ring_whole⟩) fails

def comesOut (workspace : Workspace) (earlier : List Types) (types : Types) : Bool :=
  ((workspace.declareTypes workspace.root (Table.ofList types)).run (workspace.after []
    (earlier.map fun before => .types workspace.root (Table.ofList before)))).1.isOk

def brokenTypes : Types := [
  objectOf "A" [("b", "#/types/B"), ("bad", "#/types/Missing")], objectOf "B" [("a", "#/types/A")]]

def broken : Workspace := workspace brokenTypes []

def forest : Workspace where
  root := ⟨Path.ofString "/spec.yaml", body [
    arrayOf "Trees" "#/types/Forest", objectOf "Forest" [("trees", "#/types/Trees")]]⟩
  library := { documents := [] }
  tokens := Table.ofList [("array", .direct (itemMark ++ "[]"))]
  renderer :=
    { SameName.renderer with
      object := fun input =>
        if input.properties.all fun (_, property) => property.itemType.isSome then .ok input.name
        else .error (.template .wrongKind) }

/-- The key of `/common.yaml::#/types/X` in the root document is that of `#/types/X` in the second
one, where it leads nowhere. -/
def clash : Workspace :=
  workspace [] [("/common.yaml::", [objectOf "X" []]), ("/common.yaml", [objectOf "Z" []])]

def common : Document := ⟨Path.ofString "/common.yaml", body [objectOf "Z" []]⟩

def clashFirst : TypeMap := Table.ofList [objectOf "A" [("x", "/common.yaml::#/types/X")]]

def clashSecond : TypeMap := Table.ofList [objectOf "B" [("x", "#/types/X")]]

/-- Three requests that fail in a new session and succeed after another one: what is remembered was
built around a broken reference, the item type that the renderer refuses to miss was told in another
order, and a key stands for two references. Only the first of the other requests fails. -/
theorem failures_are_hidden :
    (comesOut broken [] [objectOf "X" [("a", "#/types/A")]] = false ∧
      comesOut broken [] [objectOf "Y" [("b", "#/types/B")]] = false ∧
      comesOut broken [[objectOf "X" [("a", "#/types/A")]]]
        [objectOf "Y" [("b", "#/types/B")]] = true) ∧
    (comesOut forest [] [arrayOf "X" "#/types/Forest"] = true ∧
      comesOut forest [] [arrayOf "Y" "#/types/Trees"] = false ∧
      comesOut forest [[arrayOf "X" "#/types/Forest"]] [arrayOf "Y" "#/types/Trees"] = true) ∧
    clash.Serves common ∧
      ((clash.declareTypes clash.root clashFirst).run {}).1.isOk = true ∧
      ((clash.declareTypes common clashSecond).run {}).1.isOk = false ∧
      ((clash.declareTypes common clashSecond).run
        (clash.after [] [.types clash.root clashFirst])).1.isOk = true := by
  refine ⟨⟨?_, ?_, ?_⟩, ⟨?_, ?_, ?_⟩, .inr ⟨Path.ofString "/common.yaml", rfl⟩, ?_, ?_, ?_⟩
  all_goals decide +kernel

end HiddenFailures

end Typewright
