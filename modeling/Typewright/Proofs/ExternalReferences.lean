import Typewright.Proofs.ReferenceChains
import Typewright.Proofs.Surfacing

/-!
References to other documents are closed. Every name that a declaration uses is the answer to a
reference that was resolved, and where the chain behind such a reference ends in another document,
the type at its end stands in the group of that document.
-/
namespace Typewright

namespace Workspace
variable {workspace : Workspace} {trace : List Event} {requests : List Request} {s t : Session}

/-! Used names and the references that they belong to -/

def IsAnswer (workspace : Workspace) (trace : List Event) (requests : List Request)
    (name : String) : Prop :=
  ∃ call, workspace.Made trace requests call ∧ name = call.answer.name

def IsSourced (workspace : Workspace) (trace : List Event) (requests : List Request)
    (expansion : Expansion) : Prop :=
  ∀ name ∈ expansion.declaration.references, workspace.IsAnswer trace requests name

theorem answered_sourced {opened : List (String × String)} {call : Call}
    (made : workspace.Made trace requests call)
    (answered : call.Answered workspace (fun _ => workspace.IsSourced trace requests) opened) :
    ∀ name ∈ call.answer.references, workspace.IsAnswer trace requests name := by
  rcases answered with ⟨expansion, sourced, same⟩ | ⟨other, _, same⟩
  · rw [same]
    exact sourced
  · intro name member
    refine ⟨call, made, ?_⟩
    rw [same] at member ⊢
    simpa [Declaration.referring, Declaration.pending, Declaration.name,
      TemplateInput.name] using member

theorem gathers_sourced {opened : List (String × String)} {calls : List Call} {names : NameSet}
    (gathers : Gathers calls names) (made : ∀ call ∈ calls, workspace.Made trace requests call)
    (answered : ∀ call ∈ calls,
      call.Answered workspace (fun _ => workspace.IsSourced trace requests) opened) :
    ∀ name ∈ names, workspace.IsAnswer trace requests name := by
  intro name member
  obtain ⟨call, inside, rfl | used⟩ := gathers.sound name member
  · exact ⟨call, made call inside, rfl⟩
  · exact answered_sourced (made call inside) (answered call inside) name used

theorem passes_sourced {start : Walk γ} (begins : workspace.Begins trace requests start s) :
    workspace.Passes start s fun _ => workspace.IsSourced trace requests := by
  intro α chain scope reference rest t u v target schema calls declared moment enters follows
    answered
  have made := begins_made (begins_moment begins (.inner moment enters (.here _ _))) follows
  cases isReference : schema.isReference with
  | true =>
    obtain ⟨same, call, member, answer⟩ := finish_reference follows isReference
    rw [IsSourced, same, ← answer]
    exact answered_sourced (made call member) (answered call member)
  | false =>
    have same : target.finish schema declared = declared.referring target.name := by
      simp [Target.finish, isReference]
    have named : declared.name = target.name := declare_name follows isReference
    intro name used
    rw [same] at used
    rcases NameSet.mem_insert.mp used with rfl | used
    · have inner := runs_of_follows follows (.done _ _)
      have answers := Runs.expanded enters inner (.done _ _)
      refine ⟨⟨scope, reference, target.finish schema declared⟩,
        ⟨α, rest, t, _, begins_moment begins moment, answers⟩, ?_⟩
      rw [same]
      exact named.symm
    · exact gathers_sourced (declareUnder_gathers follows) made answered name used

theorem passesAlways_sourced (workspace : Workspace) (trace : List Event)
    (requests : List Request) :
    workspace.PassesAlways trace requests fun _ => workspace.IsSourced trace requests := by
  refine passesAlways_iff.mpr ?_
  rintro earlier request later rfl
  exact passes_sourced (begins_walk trace earlier request later)

theorem holds_sourced {spec : Spec} {generation : Generation} {name : String}
    {declaration : Declaration}
    (run : (workspace.declareAll spec).run (workspace.after trace requests) = (.ok generation, t))
    (holds : generation.Holds name declaration) :
    ∀ used ∈ declaration.references,
      workspace.IsAnswer trace (requests ++ [.all spec]) used := by
  rcases holds_generated run holds with rfl |
    ⟨scope, schema, calls, s, declared, t, begins, _, follows, rfl⟩
  · simp [Declaration.pending]
  · intro used member
    have visited := begins_visits begins
    have known := visits_remembers (workspace.passesAlways_sourced _ _) visited
    obtain ⟨_, answered⟩ := follows_remembers (passes_sourced begins) follows
      (visits_loaded visited) (.outer (.here _ _)) known
    exact gathers_sourced (declareUnder_gathers follows) (begins_made begins follows) answered
      used (NameSet.mem_erase.mp member).1

/-! The ends of chains -/

theorem name_of_end {scope : Document} {reference name : String} {target : Target}
    {schema : Schema} (named : workspace.IsNamedFor scope reference name)
    (found : workspace.schemaAt scope reference = .ok (target, schema))
    (notReference : schema.isReference = false) : name = target.name := by
  rcases named with strays | ⟨last, ends, same⟩
  · cases strays with
    | back leads _ => cases leads.symm.trans found; cases notReference
    | onward leads _ => cases leads.symm.trans found; cases notReference
  · cases ends with
    | here leads _ => cases leads.symm.trans found; exact same
    | onward leads _ => cases leads.symm.trans found; cases notReference

section Ends
variable (served : ∀ request ∈ requests, request.IsServed workspace)
variable (apart : workspace.KeysApart (workspace.reach requests))
variable (whole : workspace.Acyclic ∨ workspace.Succeed trace requests)
include served apart

theorem made_named {call : Call} (made : workspace.Made trace requests call) :
    workspace.IsNamedFor call.scope call.reference call.answer.name := by
  obtain ⟨β, rest, u, v, begins, answers⟩ := made
  have tracks := begins_tracks served begins
  have known := visits_remembers (passesAlways_settled served apart) (begins_visits begins)
  obtain ⟨_, answered⟩ := answers_remembers (passes_settled apart tracks begins) answers
    tracks.loaded (.outer (.here _ _)) known
  exact answer_named apart tracks answered

include whole

theorem made_expanded {call : Call} (made : workspace.Made trace requests call) :
    ∃ expansion ∈ (workspace.after trace requests).memo.values, ∃ schema,
      workspace.schemaAt call.scope call.reference = .ok (expansion.target, schema) ∧
      workspace.IsNamedFor call.scope call.reference expansion.declaration.name ∧
      ∀ next note, schema = .reference next note →
        ∃ answer, workspace.Made trace requests ⟨expansion.target.document, next, answer⟩ := by
  have settled : workspace.PassesAlways trace requests (workspace.Settled trace requests) :=
    passesAlways_settled served apart
  obtain ⟨expansion, has⟩ := made_remembered served apart whole made
  obtain ⟨a, q, schema, key, listed, leads, named, onward⟩ :=
    after_remembers settled requests [] (List.append_nil requests).symm _ _ has
  obtain ⟨β, rest, u, v, begins, _⟩ := made
  have tracks := begins_tracks served begins
  obtain ⟨rfl, rfl⟩ := same_of_key apart tracks.asks.1.1 listed key
  have member : expansion ∈ (workspace.after trace requests).memo.values :=
    List.mem_map.mpr ⟨_, Table.mem_entries_iff.mpr has, rfl⟩
  exact ⟨expansion, member, schema, leads, named, onward⟩

theorem end_remembered {scope : Document} {reference : String} {last : Target}
    (ends : workspace.EndsAt scope reference last) {answer : Declaration}
    (made : workspace.Made trace requests ⟨scope, reference, answer⟩) :
    ∃ expansion ∈ (workspace.after trace requests).memo.values,
      expansion.target = last ∧ expansion.declaration.name = last.name := by
  induction ends generalizing answer with
  | here found notReference =>
    obtain ⟨expansion, member, schema, leads, named, _⟩ := made_expanded served apart whole made
    cases found.symm.trans leads
    exact ⟨expansion, member, rfl, name_of_end named found notReference⟩
  | onward found later ih =>
    obtain ⟨expansion, _, schema, leads, _, onward⟩ := made_expanded served apart whole made
    cases found.symm.trans leads
    obtain ⟨answer, again⟩ := onward _ _ rfl
    exact ih again

end Ends

/-! Runs -/

theorem surfaceAll_place {memo : Table Expansion} {groups : Table Declarations}
    {expansion : Expansion} (member : expansion ∈ memo.values) {title name : String}
    (takes : expansion.Takes title name) :
    (declarationAt (surfaceAll memo groups) title name).isSome = true := by
  unfold surfaceAll
  rw [declarationAt_foldl_surface]
  cases last : lastTaker memo.values title name with
  | none => exact absurd takes (lastTaker_eq_none.mp last expansion member)
  | some other => rfl

/-- What a generation owes to the references of its history. Behind a reference whose chain does not
lead back to itself there is a type, whose name is written for the reference. If a chain ends in
another document, the name at its end is listed in the group of that document. No declaration uses
other names than those written for references. -/
structure Closes (workspace : Workspace) (trace : List Event) (requests : List Request)
    (generation : Generation) : Prop where
  named : ∀ call, workspace.Made trace requests call →
    ¬workspace.Strays call.scope call.reference →
    ∃ last, workspace.EndsAt call.scope call.reference last ∧ call.answer.name = last.name
  listed : ∀ call, workspace.Made trace requests call →
    ∀ last, workspace.EndsAt call.scope call.reference last → last.isRemote →
    (declarationAt generation.groups last.groupName last.name).isSome = true
  sourced : ∀ name declaration, generation.Holds name declaration →
    ∀ used ∈ declaration.references, ∃ call, workspace.Made trace requests call ∧
      used = call.answer.name

/-- References to other documents are closed in every run over a whole document, whatever was asked
for before it, where keys tell references apart and either no reference leads back to itself or no
earlier request failed. -/
theorem external_references_are_closed {earlier : List Request} {spec : Spec}
    {generation : Generation} (served : ∀ request ∈ earlier, request.IsServed workspace)
    (apart : workspace.KeysApart (workspace.reach (earlier ++ [.all spec])))
    (whole : workspace.Acyclic ∨ workspace.Succeed trace earlier)
    (run : (workspace.declareAll spec).run (workspace.after trace earlier) = (.ok generation, t)) :
    workspace.Closes trace (earlier ++ [.all spec]) generation := by
  have allServed : ∀ request ∈ earlier ++ [.all spec], request.IsServed workspace := by
    simpa [or_imp, forall_and, Request.IsServed] using served
  have allWhole : workspace.Acyclic ∨ workspace.Succeed trace (earlier ++ [.all spec]) :=
    whole.imp_right fun succeed => succeed_append succeed ⟨generation, t, run⟩
  have ending : workspace.after trace (earlier ++ [.all spec]) = t := by
    rw [after_append, Request.after, run]
  obtain ⟨loaded, _⟩ := workspace.after_keeps trace earlier
  obtain ⟨groups, grouped⟩ : ∃ groups, generation.groups = surfaceAll t.memo groups := by
    obtain ⟨r, v, _, same⟩ := declareAll_runs spec loaded
    rw [run] at same
    cases r with
    | error failure => cases same
    | ok listed =>
      cases same
      exact ⟨listed.groups, rfl⟩
  refine ⟨fun call made stays => ?_, fun call made last ends remote => ?_, ?_⟩
  · exact (made_named allServed apart made).resolve_left stays
  · obtain ⟨expansion, member, rfl, named⟩ := end_remembered allServed apart allWhole ends made
    rw [ending] at member
    rw [grouped]
    exact surfaceAll_place member ⟨⟨remote, named⟩, rfl, rfl⟩
  · exact fun name declaration holds => holds_sourced run holds

end Workspace

namespace ChainedTypes
open SameName (mapping single object info renderer tokens)
open Workspace

/-! Types of a document of types and of the documents beside it, with references to references among
them. -/

abbrev Types := List (String × Yaml.Value)

def objectOf (name : String) (properties : List (String × String)) : String × Yaml.Value :=
  (name, object (properties.map fun (property, reference) =>
    (property, single "$ref" reference)))

def chained (name reference : String) : String × Yaml.Value := (name, single "$ref" reference)

def body (types : Types) : Yaml.Value := mapping [info, ("types", mapping types)]

def spec (types : Types) : Spec := ⟨⟨"1", "t"⟩, some (Table.ofList types), none⟩

def workspace (types : Types) (others : List (String × Types)) : Workspace where
  root := ⟨Path.ofString "/spec.yaml", body types⟩
  library :=
    { documents := (("/spec.yaml", types) :: others).map fun (path, inner) =>
        (Path.ofString path, .ok (body inner)) }
  tokens := tokens
  renderer := renderer

def uses (types : Declarations) : List (String × List String) :=
  types.entries.map fun (name, declaration) => (name, declaration.references.toList)

def overview (generation : Generation) :
    List (String × List String) × List (String × List (String × List String)) :=
  (uses generation.types, generation.groups.entries.map fun (title, types) => (title, uses types))

def result (workspace : Workspace) (earlier : List Request) (types : Types) :
    Except Failure Generation × Session :=
  (workspace.declareAll (spec types)).run (workspace.after [] earlier)

/-! An owner of pets is described in a third document, and is known by another name in the second.
The owner and the pet refer to each other. -/

def petTypes : Types := [objectOf "Shop" [("owner", "common.yaml#/types/Keeper")]]

def petDocuments : List (String × Types) := [
  ("/common.yaml", [chained "Keeper" "people.yaml#/types/Person"]),
  ("/people.yaml", [objectOf "Person" [("pet", "#/types/Pet")],
    objectOf "Pet" [("person", "#/types/Person")]])]

def pets : Workspace := workspace petTypes petDocuments

theorem pets_are_closed : ∃ generation t,
    result pets [.all (spec petTypes)] petTypes = (.ok generation, t) ∧
    overview generation = ([("Shop", ["Person", "Pet"])],
      [("People", [("Person", ["Pet"]), ("Pet", ["Person"])])]) ∧
    pets.Closes [] [.all (spec petTypes), .all (spec petTypes)] generation := by
  have first : (result pets [] petTypes).1.isOk = true := by decide +kernel
  have second : (result pets [.all (spec petTypes)] petTypes).1.toOption.map overview =
      some ([("Shop", ["Person", "Pet"])],
        [("People", [("Person", ["Pet"]), ("Pet", ["Person"])])]) := by decide +kernel
  have apart : pets.KeysApart (pets.reach [.all (spec petTypes), .all (spec petTypes)]) := by
    unfold KeysApart
    decide +kernel
  have succeed : pets.Succeed [] [.all (spec petTypes)] := by
    have none : pets.Succeed [] [] := fun _ _ _ split => by simp at split
    refine succeed_append none ?_
    rcases run : result pets [] petTypes with ⟨failure | generation, t⟩
    · rw [run] at first
      cases first
    · exact ⟨generation, t, run⟩
  rcases run : result pets [.all (spec petTypes)] petTypes with ⟨failure | generation, t⟩
  · rw [run] at second
    cases second
  · rw [run] at second
    refine ⟨generation, t, rfl, Option.some.inj second, ?_⟩
    unfold result at run
    exact external_references_are_closed (by simp [Request.IsServed]) apart (.inr succeed) run

/-! Chains whose ends are not listed. -/

def homeTypes : Types :=
  [objectOf "Pet" [], objectOf "Owner" [("pet", "common.yaml#/types/Alias")]]

def homeDocuments : List (String × Types) :=
  [("/common.yaml", [chained "Alias" "spec.yaml#/types/Pet"])]

def loopTypes : Types := [objectOf "Pet" [("first", "common.yaml#/types/Holder")]]

def loopDocuments : List (String × Types) :=
  [("/common.yaml", [objectOf "Holder" [("first", "#/types/Alias")],
    chained "Alias" "#/types/Node", objectOf "Node" [("next", "#/types/Alias")]])]

def clashTypes : Types :=
  [objectOf "Pet" [("x", "/common.yaml::#/types/X"), ("y", "common.yaml#/types/Y")]]

def clashDocuments : List (String × Types) :=
  [("/common.yaml::", [objectOf "X" []]),
    ("/common.yaml", [objectOf "Y" [("x", "#/types/X")], chained "X" "#/types/Z",
      objectOf "Z" []])]

def brokenTypes : Types := [objectOf "A" [("s", "common.yaml#/types/S")]]

def laterTypes : Types := [objectOf "B" [("v", "common.yaml#/types/V")]]

def brokenDocuments : List (String × Types) :=
  [("/common.yaml", [objectOf "S" [("t", "#/types/T")],
    objectOf "T" [("u", "#/types/U"), ("bad", "#/types/None")],
    objectOf "U" [("back", "#/types/T")], objectOf "V" [("u", "#/types/U")]])]

def home : Workspace := workspace homeTypes homeDocuments

def broken : Workspace := workspace brokenTypes brokenDocuments

/-- A chain that returns to the root document, one that leads back to itself, one whose key is that
of another reference, and one that an earlier run broke off: the name `Pet` is in no group, `Alias`
and `T` are not even declared, and `Y` uses `X` instead of `Z`. -/
theorem chains_miss_the_groups :
    (home.schemaAt home.root "common.yaml#/types/Alias").toOption.any
      (fun (target, schema) => target.isRemote && schema.isReference) ∧
    (result home [] homeTypes).1.toOption.map overview =
      some ([("Pet", []), ("Owner", ["Pet"])], []) ∧
    (result (workspace loopTypes loopDocuments) [] loopTypes).1.toOption.map overview =
      some ([("Pet", ["Alias", "Holder", "Node"])],
        [("Common", [("Node", ["Alias"]), ("Holder", ["Alias", "Node"])])]) ∧
    (result (workspace clashTypes clashDocuments) [] clashTypes).1.toOption.map overview =
      some ([("Pet", ["X", "Y"])], [("Common", [("X", []), ("Y", ["X"])])]) ∧
    (result broken [] brokenTypes).1.isOk = false ∧
    (result broken [.all (spec brokenTypes)] laterTypes).1.toOption.map overview =
      some ([("B", ["T", "U", "V"])], [("Common", [("U", ["T"]), ("V", ["T", "U"])])]) := by
  refine ⟨?_, ?_, ?_, ?_, ?_, ?_⟩ <;> decide +kernel

end ChainedTypes

end Typewright
