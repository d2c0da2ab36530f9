import Typewright.Proofs.InlineContents

/-!
What stands in the memo. Behind the key of an entry is a chain of references to references. Either
it ends at a node of another kind, and the entry is what this node was declared as, or it comes to a
reference that was under expansion then, and the entry only echoes the name of its target. Where
keys tell references apart, the latter needs a reference to a reference that leads back to itself.
-/
namespace Typewright

namespace Workspace
variable {workspace : Workspace} {scope : Document} {reference : String} {s t u v : Session}

/-! What is asked for in a history -/

section Histories
variable (workspace) (trace : List Event) (requests : List Request)

def IsAsked (a : Document × String) : Prop :=
  ∃ (α : Type) (rest : Declaration → Walk α) (s : Session),
    workspace.Begins trace requests (.asking a.1 a.2 rest) s

def Surrounded (opened : List (String × String)) (scope : Document) (reference : String) : Prop :=
  ∀ pair ∈ opened, ∃ a target schema, workspace.IsAsked trace requests a ∧
    pair = (workspace.key a.1 a.2, target.name) ∧
    workspace.schemaAt a.1 a.2 = .ok (target, schema) ∧
    Relation.TransGen workspace.Edge a (scope, reference)

structure Forwards (a b : Document × String) : Prop where
  asked : workspace.IsAsked trace requests b
  leads : ∃ target next note, workspace.schemaAt a.1 a.2 = .ok (target, .reference next note) ∧
    workspace.key b.1 b.2 = workspace.key target.document next

/-- The reference leads to a node that is no reference itself, and what it was declared as in the
history is this declaration, but for the name of the target among the used ones. -/
def ExpandsNode (a : Document × String) (declaration : Declaration) : Prop :=
  ∃ target schema s calls declared t, workspace.schemaAt a.1 a.2 = .ok (target, schema) ∧
    schema.isReference = false ∧
    workspace.Begins trace requests (workspace.declare target.document target.name schema) s ∧
    workspace.Follows (workspace.declare target.document target.name schema) s calls
      (.done declared) t ∧
    TemplateInput.Mirrors workspace target.document [target.name] target.name schema s calls
      declared.input ∧
    declaration = declared.referring target.name

/-- The reference forwards to one behind which it stands itself. The declaration has nothing but the
name of the target there. -/
def Echoes (a : Document × String) (declaration : Declaration) : Prop :=
  ∃ b outer schema, workspace.Forwards trace requests a b ∧
    Relation.ReflTransGen workspace.Edge b a ∧
    workspace.schemaAt b.1 b.2 = .ok (outer, schema) ∧
    declaration = (Declaration.pending outer.name).referring outer.name

/-- The entry is for a reference that was asked for, and its declaration for the last one of those
that are forwarded to from there on. -/
def StandsFor (explains : Document × String → Declaration → Prop) (key : String)
    (expansion : Expansion) : Prop :=
  ∃ first last schema, workspace.IsAsked trace requests first ∧
    key = workspace.key first.1 first.2 ∧
    workspace.schemaAt first.1 first.2 = .ok (expansion.target, schema) ∧
    Relation.ReflTransGen (workspace.Forwards trace requests) first last ∧
    explains last expansion.declaration

end Histories

section Moments
variable {trace : List Event} {requests : List Request}

theorem moment_surrounded {start : Walk γ} (begins : workspace.Begins trace requests start s)
    (loaded : s.IsLoaded workspace) (closed : s.opened = []) {walk : Walk α}
    {chain : List (Document × String)} (moment : workspace.Moment start s chain walk t) :
    workspace.Asks (workspace.Surrounded trace requests t.opened) walk := by
  induction moment with
  | outer follows =>
    have asks : workspace.Asks (workspace.Surrounded trace requests s.opened) start :=
      asks_mono (fun _ _ _ => by simp [Surrounded, closed]) (asks_anything start)
    obtain ⟨_, same, rest⟩ := follows_keeps follows loaded asks
    exact same ▸ rest
  | @inner _ _ scope reference rest t u _ target schema _ _ around enters follows ih =>
    obtain ⟨found, reads⟩ := readSchema_reads (moment_loaded around loaded) enters.read
    have asked : workspace.IsAsked trace requests (scope, reference) :=
      ⟨_, rest, t, begins_moment begins around⟩
    have asks : workspace.Asks (workspace.Surrounded trace requests
        (workspace.inside scope reference target u).opened)
        (workspace.declare target.document target.name schema) := by
      refine declareUnder_asks fun other written => ?_
      have edge : workspace.Edge (scope, reference) (target.document, other) :=
        ⟨target, schema, found.symm, rfl, written⟩
      -- the reference itself is open now, and what was open before leads on through it
      rw [inside, Session.opening, reads.opened]
      intro pair member
      rcases List.mem_cons.mp member with rfl | around
      · exact ⟨(scope, reference), target, schema, asked, rfl, found.symm, .single edge⟩
      · obtain ⟨a, outer, node, known, same, leads, path⟩ := ih.1 pair around
        exact ⟨a, outer, node, known, same, leads, path.tail edge⟩
    obtain ⟨_, same, rest⟩ := follows_keeps follows reads.loaded asks
    exact same ▸ rest

theorem standsFor_onward {explains : Document × String → Declaration → Prop} {target : Target}
    {next : String} {note : Annotation} {other : Expansion}
    (asked : workspace.IsAsked trace requests (scope, reference))
    (found : workspace.schemaAt scope reference = .ok (target, .reference next note))
    (stands : workspace.StandsFor trace requests explains (workspace.key target.document next)
      other) :
    workspace.StandsFor trace requests explains (workspace.key scope reference)
      ⟨target, other.declaration⟩ := by
  obtain ⟨first, last, schema, known, key, _, chain, explained⟩ := stands
  have forwards : workspace.Forwards trace requests (scope, reference) first :=
    ⟨known, target, next, note, found, key.symm⟩
  exact ⟨(scope, reference), last, _, asked, rfl, found, .head forwards chain, explained⟩

theorem echoes_opened {target : Target} {next name : String} {note : Annotation}
    (asked : workspace.IsAsked trace requests (scope, reference))
    (surrounded : workspace.Surrounded trace requests s.opened scope reference)
    (found : workspace.schemaAt scope reference = .ok (target, .reference next note))
    (isOpen : (workspace.inside scope reference target s).opened.lookup
      (workspace.key target.document next) = some name) :
    workspace.Echoes trace requests (scope, reference)
      ((Declaration.pending name).referring name) := by
  obtain ⟨before, after, split, _⟩ := List.lookup_eq_some_iff.mp isOpen
  have member : (workspace.key target.document next, name) ∈
      (workspace.key scope reference, target.name) :: s.opened := by
    show _ ∈ (workspace.inside scope reference target s).opened
    simp [split]
  rcases List.mem_cons.mp member with own | outer
  · obtain ⟨key, rfl⟩ := Prod.mk.inj own
    exact ⟨(scope, reference), target, _, ⟨asked, target, next, note, found, key.symm⟩, .refl,
      found, rfl⟩
  · obtain ⟨a, around, schema, known, same, leads, path⟩ := surrounded _ outer
    obtain ⟨key, rfl⟩ := Prod.mk.inj same
    exact ⟨a, around, schema, ⟨known, target, next, note, found, key.symm⟩, path.to_reflTransGen,
      leads, rfl⟩

theorem expandsNode_made {target : Target} {schema : Schema} {calls : List Call}
    {declared : Declaration} (found : workspace.schemaAt scope reference = .ok (target, schema))
    (notReference : schema.isReference = false)
    (begins : workspace.Begins trace requests
      (workspace.declare target.document target.name schema) s)
    (follows : workspace.Follows (workspace.declare target.document target.name schema) s calls
      (.done declared) t) :
    workspace.ExpandsNode trace requests (scope, reference) (target.finish schema declared) := by
  have mirrors : TemplateInput.Mirrors workspace target.document [target.name] target.name schema
      s calls declared.input := by
    rw [declare_free] at follows
    exact declareNode_mirrors notReference follows
  have finished : target.finish schema declared = declared.referring target.name := by
    simp [Target.finish, notReference]
  exact ⟨target, schema, s, calls, declared, t, found, notReference, begins, follows, mirrors,
    finished⟩

def Explained (workspace : Workspace) (trace : List Event) (requests : List Request) (key : String)
    (expansion : Expansion) : Prop :=
  workspace.StandsFor trace requests (workspace.ExpandsNode trace requests) key expansion ∨
    workspace.StandsFor trace requests (workspace.Echoes trace requests) key expansion

theorem passes_explained {start : Walk γ} (begins : workspace.Begins trace requests start s)
    (loaded : s.IsLoaded workspace) (closed : s.opened = []) :
    workspace.Passes start s (workspace.Explained trace requests) := by
  intro α chain scope reference rest t u v target schema calls declared moment enters follows
    answered
  obtain ⟨found, reads⟩ := readSchema_reads (moment_loaded moment loaded) enters.read
  have asked : workspace.IsAsked trace requests (scope, reference) :=
    ⟨α, rest, t, begins_moment begins moment⟩
  cases isReference : schema.isReference with
  | false =>
    have began := begins_moment begins (.inner moment enters (.here _ _))
    have made := expandsNode_made found.symm isReference began follows
    exact .inl ⟨(scope, reference), _, schema, asked, rfl, found.symm, .refl, made⟩
  | true =>
    cases schema with
    | reference next note =>
      have single : calls = [⟨target.document, next, declared⟩] := declare_reference follows
      have finished : target.finish (.reference next note) declared = declared := rfl
      rw [finished]
      rcases answered _ (single ▸ List.mem_singleton_self _) with ⟨other, known, same⟩ |
        ⟨name, isOpen, same⟩
      · obtain rfl : declared = other.declaration := same
        exact known.imp (standsFor_onward asked found.symm) (standsFor_onward asked found.symm)
      · obtain rfl : declared = (Declaration.pending name).referring name := same
        -- what only stands for the open reference becomes the entry of the one that leads to it
        have surrounded := (moment_surrounded begins loaded closed moment).1
        rw [← reads.opened] at surrounded
        have echoes := echoes_opened asked surrounded found.symm isOpen
        exact .inr ⟨(scope, reference), _, _, asked, rfl, found.symm, .refl, echoes⟩
    | _ => cases isReference

theorem passesAlways_explained (trace : List Event) (requests : List Request) :
    workspace.PassesAlways trace requests (workspace.Explained trace requests) := by
  refine passesAlways_iff.mpr ?_
  rintro earlier request later rfl
  obtain ⟨loaded, closed⟩ := workspace.after_keeps trace earlier
  exact passes_explained (begins_walk trace earlier request later) loaded closed

theorem after_explained (trace : List Event) (requests : List Request) (key : String)
    (expansion : Expansion)
    (found : (workspace.after trace requests).memo.find? key = some expansion) :
    workspace.Explained trace requests key expansion :=
  after_remembers (passesAlways_explained trace requests) requests [] (by simp) key expansion found

/-! Nodes are not echoes -/

theorem assembles_notable {name : String} {schema : Schema} {parts : List Declaration}
    {result : Declaration} (assembles : workspace.Assembles name schema parts result) :
    result.input.kind? ≠ none ∨ result.primitives ≠ ∅ := by
  cases assembles with
  | object _ _ isInput =>
    left
    simp [TemplateInput.kind?]
  | enumeration isInput =>
    left
    simp [TemplateInput.kind?]
  | union _ _ isInput =>
    left
    simp [TemplateInput.kind?]
  | array filled =>
    right
    intro none
    have marked : arrayMarker ∈ (∅ : NameSet) := none ▸ NameSet.mem_insert.mpr (.inl rfl)
    exact NameSet.not_mem_empty arrayMarker marked
  | @primitive _ _ _ token isToken =>
    right
    intro none
    have used : token ∈ NameSet.ofList [token] :=
      NameSet.mem_ofList.mpr (List.mem_singleton_self token)
    exact NameSet.not_mem_empty token (none ▸ used)

theorem expandsNode_notable {a : Document × String} {declaration : Declaration}
    (expands : workspace.ExpandsNode trace requests a declaration) :
    declaration.input.kind? ≠ none ∨ declaration.primitives ≠ ∅ := by
  obtain ⟨target, schema, s, calls, declared, t, _, notReference, _, follows, _, rfl⟩ := expands
  rw [declare_free] at follows
  obtain ⟨parts, u, _, assembles⟩ := declareNode_assembles notReference follows
  show declared.input.kind? ≠ none ∨ declared.primitives ≠ ∅
  exact assembles_notable assembles

theorem standsForNode_iff {key : String} {expansion : Expansion}
    (explained : workspace.Explained trace requests key expansion) :
    workspace.StandsFor trace requests (workspace.ExpandsNode trace requests) key expansion ↔
      expansion.declaration.input.kind? ≠ none ∨ expansion.declaration.primitives ≠ ∅ := by
  constructor
  · rintro ⟨_, last, _, _, _, _, _, expands⟩
    exact expandsNode_notable expands
  · intro notable
    apply explained.resolve_right
    rintro ⟨_, last, _, _, _, _, _, _, outer, _, _, _, _, same⟩
    rw [same] at notable
    exact notable.elim (absurd rfl) (absurd rfl)

end Moments

/-! Chains without keys -/

def Alias (workspace : Workspace) (a b : Document × String) : Prop :=
  ∃ target note, workspace.schemaAt a.1 a.2 = .ok (target, .reference b.2 note) ∧
    b.1 = target.document

theorem edge_of_alias {a b : Document × String} (next : workspace.Alias a b) :
    workspace.Edge a b := by
  obtain ⟨target, note, found, document⟩ := next
  exact ⟨target, _, found, document, List.mem_singleton_self _⟩

theorem strays_of_chain {a b : Document × String}
    (chain : Relation.ReflTransGen workspace.Alias a b) (strays : workspace.Strays b.1 b.2) :
    workspace.Strays a.1 a.2 := by
  induction chain using Relation.ReflTransGen.head_induction_on with
  | refl => exact strays
  | @head a c next _ ih =>
    obtain ⟨target, note, found, document⟩ := next
    rw [document] at ih
    exact .onward found ih

section Apart
variable {trace : List Event} {requests : List Request} {a b : Document × String}
variable (served : ∀ request ∈ requests, request.IsServed workspace)
include served

theorem asked_listed (asked : workspace.IsAsked trace requests a) :
    Lists workspace.Serves (workspace.reach requests) a.1 a.2 := by
  obtain ⟨_, _, _, begins⟩ := asked
  exact (begins_tracks served begins).asks.1.1

variable (apart : workspace.KeysApart (workspace.reach requests))
include apart

theorem alias_of_forwards (listed : Lists workspace.Serves (workspace.reach requests) a.1 a.2)
    (forwards : workspace.Forwards trace requests a b) : workspace.Alias a b := by
  obtain ⟨asked, target, next, note, found, key⟩ := forwards
  have asks : workspace.Asks (Lists workspace.Serves (workspace.reach requests))
      (workspace.declare target.document target.name (.reference next note)) :=
    target_asks (covering_reach requests) listed.2 found
  obtain ⟨document, text⟩ := same_of_key apart (asked_listed served asked) asks.1 key
  exact ⟨target, note, text ▸ found, document⟩

theorem aliases_of_forwards (listed : Lists workspace.Serves (workspace.reach requests) a.1 a.2)
    (chain : Relation.ReflTransGen (workspace.Forwards trace requests) a b) :
    Relation.ReflTransGen workspace.Alias a b ∧
      Lists workspace.Serves (workspace.reach requests) b.1 b.2 := by
  induction chain with
  | refl => exact ⟨.refl, listed⟩
  | tail _ forwards ih =>
    obtain ⟨aliases, known⟩ := ih
    exact ⟨aliases.tail (alias_of_forwards served apart known forwards),
      asked_listed served forwards.asked⟩

theorem chain_of_standsFor {explains : Document × String → Declaration → Prop}
    {expansion : Expansion}
    (listed : Lists workspace.Serves (workspace.reach requests) scope reference)
    (stands : workspace.StandsFor trace requests explains (workspace.key scope reference)
      expansion) :
    ∃ last, Relation.ReflTransGen workspace.Alias (scope, reference) last ∧
      Lists workspace.Serves (workspace.reach requests) last.1 last.2 ∧
      explains last expansion.declaration := by
  obtain ⟨⟨a, q⟩, last, schema, asked, key, _, chain, explained⟩ := stands
  obtain ⟨rfl, rfl⟩ := same_of_key apart listed (asked_listed served asked) key
  obtain ⟨aliases, known⟩ := aliases_of_forwards served apart listed chain
  exact ⟨last, aliases, known, explained⟩

theorem strays_of_echoes {declaration : Declaration}
    (listed : Lists workspace.Serves (workspace.reach requests) a.1 a.2)
    (echoes : workspace.Echoes trace requests a declaration) : workspace.Strays a.1 a.2 := by
  obtain ⟨b, outer, schema, forwards, back, _, _⟩ := echoes
  have next := alias_of_forwards served apart listed forwards
  have itself : Relation.TransGen workspace.Edge a a := .head' (edge_of_alias next) back
  obtain ⟨target, note, found, document⟩ := next
  exact .back found itself

end Apart

structure MemoHolds (workspace : Workspace) (trace : List Event) (requests : List Request) :
    Prop where
  explained : ∀ key expansion,
    (workspace.after trace requests).memo.find? key = some expansion →
      workspace.Explained trace requests key expansion
  told : ∀ key expansion, (workspace.after trace requests).memo.find? key = some expansion →
    (workspace.StandsFor trace requests (workspace.ExpandsNode trace requests) key expansion ↔
      expansion.declaration.input.kind? ≠ none ∨ expansion.declaration.primitives ≠ ∅)
  /-- Where keys tell references apart, echoes are for references that stray. -/
  straight : (∀ request ∈ requests, request.IsServed workspace) →
    workspace.KeysApart (workspace.reach requests) → ∀ scope reference expansion,
      Lists workspace.Serves (workspace.reach requests) scope reference →
      (workspace.after trace requests).memo.find? (workspace.key scope reference) =
        some expansion →
      ¬workspace.Strays scope reference →
      ∃ last, Relation.ReflTransGen workspace.Alias (scope, reference) last ∧
        workspace.ExpandsNode trace requests last expansion.declaration

/-- Every entry stands for the node at the end of its chain, but for those whose chain leads back
to a reference under expansion. -/
theorem memo_holds_nodes (workspace : Workspace) (trace : List Event) (requests : List Request) :
    workspace.MemoHolds trace requests where
  explained := after_explained trace requests
  told key expansion found := standsForNode_iff (after_explained trace requests key expansion found)
  straight served apart scope reference expansion listed found straight := by
    rcases after_explained trace requests _ _ found with node | echo
    · obtain ⟨last, chain, _, expands⟩ := chain_of_standsFor served apart listed node
      exact ⟨last, chain, expands⟩
    · obtain ⟨last, chain, known, echoes⟩ := chain_of_standsFor served apart listed echo
      have strays := strays_of_echoes served apart known echoes
      exact absurd (strays_of_chain chain strays) straight

theorem not_strays_of_endsWithin {depth : Nat}
    (ends : workspace.endsWithin depth scope reference = true) :
    ¬workspace.Strays scope reference := by
  intro strays
  induction strays generalizing depth with
  | @back scope reference _ _ _ _ itself =>
    exact not_cyclic_of_endsWithin (a := (scope, reference)) ends itself
  | onward found _ ih =>
    cases depth with
    | zero => cases ends
    | succ depth =>
      simp only [endsWithin, found] at ends
      exact ih (List.all_eq_true.mp ends _ (List.mem_singleton_self _))

end Workspace

namespace ChainedTypes
open Workspace

theorem alias_holds_pet : ∃ expansion,
    (home.after [] [.all (spec homeTypes)]).memo.find? "common.yaml#/types/Alias" =
      some expansion ∧
    expansion.target.name = "Alias" ∧ expansion.declaration.name = "Pet" ∧
    ∃ last, Relation.ReflTransGen home.Alias (home.root, "common.yaml#/types/Alias") last ∧
      home.ExpandsNode [] [.all (spec homeTypes)] last expansion.declaration := by
  have names : ((home.after [] [.all (spec homeTypes)]).memo.find?
      "common.yaml#/types/Alias").map (fun expansion =>
        (expansion.target.name, expansion.declaration.name)) = some ("Alias", "Pet") := by
    decide +kernel
  have apart : home.KeysApart (home.reach [.all (spec homeTypes)]) := by
    unfold KeysApart
    decide +kernel
  have listed : Lists home.Serves (home.reach [.all (spec homeTypes)]) home.root
      "common.yaml#/types/Alias" := by
    refine ⟨?_, .inl rfl⟩
    decide +kernel
  have ends : home.endsWithin 3 home.root "common.yaml#/types/Alias" = true := by decide +kernel
  cases found : (home.after [] [.all (spec homeTypes)]).memo.find? "common.yaml#/types/Alias" with
  | none =>
    rw [found] at names
    cases names
  | some expansion =>
    rw [found] at names
    obtain ⟨target, declaration⟩ := Prod.mk.inj (Option.some.inj names)
    exact ⟨expansion, rfl, target, declaration,
      (home.memo_holds_nodes [] [.all (spec homeTypes)]).straight (by simp [Request.IsServed])
        apart home.root "common.yaml#/types/Alias" expansion listed found
        (not_strays_of_endsWithin ends)⟩

end ChainedTypes

namespace AliasLoop
open ChainedTypes (Types chained spec)
open Workspace

/-! Two types that are references to each other. -/

def types : Types := [chained "A" "#/types/B", chained "B" "#/types/A"]

def workspace : Workspace := ChainedTypes.workspace types []

def request : Request := .all (spec types)

def run : Except Failure Generation × Session := (workspace.declareAll (spec types)).run {}

theorem entries_tell :
    (run.2.memo.entries.map fun entry => (entry.1, entry.2.declaration.name,
      entry.2.declaration.input.kind?, entry.2.declaration.primitives)) =
      [("#/types/A", "B", none, ∅), ("#/types/B", "B", none, ∅)] := by
  decide +kernel

theorem run_eq_after : run.2 = workspace.after [] [request] := by
  simp only [run, after, request, List.foldl_cons, List.foldl_nil, Request.after]

/-- The run succeeds and declares nothing, and both entries that it leaves echo the name of `B`. So
neither of them stands for a node. -/
theorem loop_leaves_echoes :
    run.1.toOption.map Generation.count = some 0 ∧ run.2 = workspace.after [] [request] ∧
    run.2.memo.keys = ["#/types/A", "#/types/B"] ∧
    ∀ key expansion, run.2.memo.find? key = some expansion →
      expansion.declaration = (Declaration.pending "B").referring "B" ∧
      ¬workspace.StandsFor [] [request] (workspace.ExpandsNode [] [request]) key expansion := by
  refine ⟨by decide +kernel, run_eq_after, by decide +kernel, ?_⟩
  intro key expansion found
  have listed := List.mem_map_of_mem (f := fun entry => (entry.1, entry.2.declaration.name,
    entry.2.declaration.input.kind?, entry.2.declaration.primitives))
    (Table.mem_entries_iff.mpr found)
  rw [entries_tell] at listed
  obtain ⟨_, isB, plain, unused⟩ : (key = "#/types/A" ∨ key = "#/types/B") ∧
      expansion.declaration.name = "B" ∧ expansion.declaration.input.kind? = none ∧
        expansion.declaration.primitives = ∅ := by
    simpa [or_and_right.symm] using listed
  have explained : workspace.Explained [] [request] key expansion :=
    after_explained [] [request] key expansion (run_eq_after ▸ found)
  have noNode : ¬workspace.StandsFor [] [request] (workspace.ExpandsNode [] [request]) key
      expansion := by
    rw [standsForNode_iff explained]
    simp [plain, unused]
  obtain ⟨_, _, _, _, _, _, _, _, outer, _, _, _, _, same⟩ := explained.resolve_left noNode
  have named : outer.name = "B" := by
    rw [← isB, same]
    rfl
  rw [same, named]
  exact ⟨rfl, noNode⟩

end AliasLoop

end Typewright
