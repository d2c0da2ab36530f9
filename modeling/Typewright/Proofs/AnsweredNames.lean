import Typewright.Proofs.MirroredInputs

/-!
The names in a declaration that come from its references. They are those that the references were
answered with, in the input of the declaration and in those of the declarations inside of it, and
all of them are among the names that the declaration uses.
-/
namespace Typewright

namespace Workspace
variable {workspace : Workspace} {scope : Document} {s t : Session} {calls : List Call}
variable {name : String} {result : Declaration} {ancestry : List String} {schema : Schema}

/-- The declaration of a schema called `name` is put together from those of the nodes directly
inside, declared one after the other, and each node is written as `calls` answered the references
in it. The same holds of what is declared inside. -/
inductive Inscribed (workspace : Workspace) (scope : Document) (calls : List Call) :
    List String → String → Schema → Declaration → Prop where
  | intro {ancestry : List String} {name : String} {schema : Schema} {result : Declaration}
    {parts : List Declaration} {own : List Call} {s t : Session}
    (each : workspace.DeclaresEach scope ancestry (schema.children name) s own parts t)
    (asked : own ⊆ calls)
    (written : ∀ part ∈ (schema.children name).zip parts,
      workspace.WrittenAs scope calls ancestry part.1.position part.1.node
        (itemText part.1.node part.2.input) part.2.input.itemType?)
    (assembles : workspace.Assembles name schema parts result)
    (inside : ∀ part ∈ (schema.children name).zip parts,
      ¬part.1.position.Cuts part.1.node ancestry → part.1.node.isReference = false →
      Inscribed workspace scope calls (part.1.position.inside part.1.node ancestry)
        (part.1.position.title part.1.node) part.1.node part.2) :
    Inscribed workspace scope calls ancestry name schema result

theorem declareNode_inscribed {more : List Call} (notReference : schema.isReference = false)
    (follows : workspace.Follows (workspace.declareNode scope ancestry name schema) s calls
      (.done result) t) (asked : calls ⊆ more) :
    workspace.Inscribed scope more ancestry name schema result := by
  induction schema using Schema.induction generalizing ancestry name s t calls result with
  | step schema ih =>
    obtain ⟨parts, u, each, assembles⟩ := declareNode_assembles notReference follows
    refine .intro each asked ?_ assembles ?_
    · intro part member
      obtain ⟨_, own, _, among, one⟩ := each_follows each part member
      exact written_mono (List.Subset.trans among asked) (position_written one)
    · intro part member uncut inline
      obtain ⟨_, own, _, among, one⟩ := each_follows each part member
      rcases follows_position one with ⟨cuts, _⟩ | ⟨_, inner⟩
      · exact absurd cuts uncut
      · exact ih name part.1 (List.of_mem_zip member).1 inline inner (List.Subset.trans among asked)

theorem declareUnder_inscribed (free : name ∉ ancestry) (notReference : schema.isReference = false)
    (follows : workspace.Follows (workspace.declareUnder scope ancestry name schema) s calls
      (.done result) t) :
    workspace.Inscribed scope calls (name :: ancestry) name schema result := by
  rcases follows_declareUnder follows with ⟨isOpen, _⟩ | ⟨_, inner⟩
  · exact absurd isOpen free
  · exact declareNode_inscribed notReference inner (List.Subset.refl calls)

/-- Whatever was asked for before, a declaration uses the names that its references are written
with, which are those of the answers, and so does every declaration of a generation, but for its own
name. After a run over a document every used name is that of a remembered target. -/
theorem references_complete_and_sound (workspace : Workspace) (trace : List Event)
    (requests : List Request) :
    (∀ s, workspace.Visits trace requests s →
      ∀ scope ancestry name schema depth declared t,
        (workspace.follow (workspace.expandWithin depth)
          (workspace.declareUnder scope ancestry name schema)).run s = (.ok declared, t) →
        ∃ calls, workspace.Follows (workspace.declareUnder scope ancestry name schema) s calls
            (.done declared) t ∧
          (name ∉ ancestry → schema.isReference = false →
            workspace.Inscribed scope calls (name :: ancestry) name schema declared) ∧
          ∀ call ∈ calls, call.answer.name ∈ declared.references) ∧
    (∀ spec generation t,
      (workspace.declareAll spec).run (workspace.after trace requests) = (.ok generation, t) →
      ∀ name declaration, generation.Holds name declaration →
        (declaration = .pending name ∨ ∃ scope schema calls,
          Generated workspace (workspace.Begins trace (requests ++ [.all spec])) scope name
            schema calls declaration) ∧
        ∀ scope schema calls,
          Generated workspace (workspace.Begins trace (requests ++ [.all spec])) scope name
            schema calls declaration →
          (∃ declared, declaration = declared.withoutSelf name ∧
            workspace.Inscribed scope calls [name] name schema declared) ∧
          ∀ call ∈ calls, call.answer.name ∈ declaration.references ∨ call.answer.name = name) ∧
    ∀ path outcome t,
      (declareDocument workspace.library workspace.tokens workspace.renderer path).run {} =
        (.ok outcome, t) →
      ∀ name declaration, outcome.generation.Holds name declaration →
        ∀ used ∈ declaration.references,
          ∃ key expansion, t.memo.find? key = some expansion ∧ expansion.target.name = used := by
  refine ⟨?_, ?_, ?_⟩
  · intro s visited scope ancestry name schema depth declared t run
    obtain ⟨calls, follows⟩ := follows_of_runs (runs_of_follow depth _ run) rfl
    exact ⟨calls, follows, fun free notReference =>
      declareUnder_inscribed free notReference follows, fun _ => visited_uses visited follows⟩
  · intro spec generation t run name declaration holds
    refine ⟨holds_generated run holds, fun scope schema calls generated => ⟨?_, fun _ =>
      generated_uses generated⟩⟩
    obtain ⟨s, declared, u, _, notReference, follows, same⟩ := generated
    exact ⟨declared, same, declareUnder_inscribed List.not_mem_nil notReference follows⟩
  · intro path outcome t run name declaration holds used member
    obtain ⟨body, _, _, declares⟩ := declareDocument_ok run
    have loaded : ({ trace := [.load path] } : Session).IsLoaded ⟨⟨path, body⟩,
        workspace.library, workspace.tokens, workspace.renderer⟩ := by simp [Session.IsLoaded]
    have accounted : ({ trace := [.load path] } : Session).IsAccounted := by
      intro key expansion found
      cases found
    exact holds_known loaded rfl accounted declares holds member

end Workspace

end Typewright
