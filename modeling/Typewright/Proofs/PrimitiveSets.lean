import Typewright.Proofs.MirroredInputs

/-!
The primitive tokens that a declaration uses. They are those of the nodes inside of its schema and
those of the answers for its references, but for answers to branches, which are used by name alone.
So all of them are in the table, however a declaration has come about.
-/
namespace Typewright

/-! Tokens of the table -/

def TokenEntry.tokens : TokenEntry → List String
  | direct token => [token]
  | formats tokens => tokens.values

theorem token_listed {table : TokenTable} {type : DataType} {format : Option String}
    {token : String} (isToken : table.primitive type format = .ok token) :
    ∃ entry ∈ table.values, token ∈ entry.tokens := by
  unfold TokenTable.primitive at isToken
  cases found : table.find? type.name with
  | none =>
    rw [found] at isToken
    cases isToken
  | some entry =>
    have listed : entry ∈ table.values :=
      List.mem_map_of_mem (f := Prod.snd) (Table.mem_entries_iff.mpr found)
    refine ⟨entry, listed, ?_⟩
    rw [found] at isToken
    cases entry with
    | direct other =>
      cases isToken
      exact List.mem_singleton_self token
    | formats tokens =>
      have inside {format : String} {other : String} (known : tokens.find? format = some other) :
          other ∈ (TokenEntry.formats tokens).tokens :=
        List.mem_map_of_mem (f := Prod.snd) (Table.mem_entries_iff.mpr known)
      dsimp only at isToken
      cases default : tokens.find? TokenTable.defaultFormat with
      | none =>
        rw [default] at isToken
        cases isToken
      | some other =>
        rw [default] at isToken
        cases isToken
        cases special : format.bind tokens.find? with
        | none => exact inside default
        | some found =>
          obtain ⟨name, _, known⟩ := Option.bind_eq_some_iff.mp special
          exact inside known

def Hop.isBranch : Hop → Bool
  | .branch _ => true
  | _ => false

namespace Occurrence

def isReference (occurrence : Occurrence) : Bool := occurrence.node.isReference

def isBranch (occurrence : Occurrence) : Bool :=
  match occurrence.path with
  | hop :: _ => hop.isBranch
  | [] => false

/-- The node that occurs uses the token by itself: a primitive the one of the table, an array the
one that marks arrays. -/
def Yields (tokens : TokenTable) (occurrence : Occurrence) (token : String) : Prop :=
  match occurrence.node with
  | .primitive type format _ => tokens.primitive type format = .ok token
  | .array .. => token = arrayMarker
  | _ => False

def IsMapped (tokens : TokenTable) (occurrence : Occurrence) : Prop :=
  match occurrence.node with
  | .primitive type format _ => ∃ token, tokens.primitive type format = .ok token
  | .array .. => ∃ pattern, tokens.arrayPattern = .ok pattern
  | _ => True

def Asks (scope : Document) (occurrence : Occurrence) (call : Call) : Prop :=
  call.scope = scope ∧ ∃ note, occurrence.node = .reference call.reference note

end Occurrence

namespace Workspace

/-- The primitives are those of the nodes that occur, the references among which are answered by
`calls`, each by one. -/
structure Draws (workspace : Workspace) (scope : Document) (occurrences : List Occurrence)
    (calls : List Call) (primitives : NameSet) : Prop where
  asked : List.Forall₂ (Occurrence.Asks scope) (occurrences.filter Occurrence.isReference) calls
  mapped : ∀ occurrence ∈ occurrences, occurrence.IsMapped workspace.tokens
  exact : ∀ token, token ∈ primitives ↔
    (∃ occurrence ∈ occurrences, occurrence.Yields workspace.tokens token) ∨
    ∃ pair ∈ (occurrences.filter Occurrence.isReference).zip calls,
      pair.1.isBranch = false ∧ token ∈ pair.2.answer.primitives

variable {workspace : Workspace} {scope : Document} {s t u : Session} {calls others : List Call}
variable {name : String} {result : Declaration} {ancestry : List String} {schema : Schema}
variable {path : List Hop} {occurrences more : List Occurrence} {primitives tokens : NameSet}

theorem draws_nil : workspace.Draws scope [] [] ∅ := by
  constructor <;> simp

theorem draws_append (one : workspace.Draws scope occurrences calls primitives)
    (other : workspace.Draws scope more others tokens) :
    workspace.Draws scope (occurrences ++ more) (calls ++ others) (primitives ∪ tokens) where
  asked := by
    rw [List.filter_append]
    exact List.rel_append one.asked other.asked
  mapped := List.forall_mem_append.mpr ⟨one.mapped, other.mapped⟩
  exact token := by
    rw [NameSet.mem_union, one.exact, other.exact, List.filter_append,
      List.zip_append one.asked.length_eq]
    simp only [List.mem_append, or_and_right, exists_or]
    exact or_or_or_comm

theorem draws_cons {occurrence : Occurrence} (notReference : occurrence.isReference = false)
    (mapped : occurrence.IsMapped workspace.tokens)
    (draws : workspace.Draws scope occurrences calls tokens)
    (exact : ∀ token, token ∈ primitives ↔
      occurrence.Yields workspace.tokens token ∨ token ∈ tokens) :
    workspace.Draws scope (occurrence :: occurrences) calls primitives := by
  have same : (occurrence :: occurrences).filter Occurrence.isReference =
      occurrences.filter Occurrence.isReference := by
    simp [notReference]
  constructor
  · rw [same]
    exact draws.asked
  · exact List.forall_mem_cons.mpr ⟨mapped, draws.mapped⟩
  · intro token
    rw [exact, draws.exact, same]
    simp only [List.mem_cons, exists_eq_or_imp, or_assoc]

def kept (part : Child × Declaration) : NameSet :=
  if part.1.hop.isBranch && part.1.node.isReference then ∅ else part.2.primitives

theorem kept_members (index : Nat) (members : List Member) :
    ((propertyChildren index (members.map fun member => (member.name, member.schema))).zip
      (members.map Member.declaration)).map kept =
      (members.map Member.declaration).map Declaration.primitives := by
  induction members generalizing index with
  | nil => rfl
  | cons member rest ih =>
    simp [propertyChildren, ih, kept, Hop.isBranch]

theorem kept_branches (union : String) (index : Nat) (branches : List Branch) :
    ((branchChildren union index (branches.map Branch.schema)).zip
      (branches.map Branch.declaration)).map kept = branches.map Branch.primitives := by
  induction branches generalizing index with
  | nil => rfl
  | cons branch rest ih =>
    simp [branchChildren, ih, kept, Hop.isBranch, Branch.primitives]

theorem assembles_primitives (path : List Hop) (ancestry : List String)
    {parts : List Declaration}
    (assembles : workspace.Assembles name schema parts result) :
    (⟨path, ancestry, name, schema⟩ : Occurrence).IsMapped workspace.tokens ∧
      ∀ token, token ∈ result.primitives ↔
        (⟨path, ancestry, name, schema⟩ : Occurrence).Yields workspace.tokens token ∨
          token ∈ unionOf (((schema.children name).zip parts).map kept) := by
  cases assembles with
  | object listed made =>
    subst listed made
    simp [Occurrence.IsMapped, Occurrence.Yields, Schema.children, kept_members]
  | enumeration => simp [Occurrence.IsMapped, Occurrence.Yields, Schema.children]
  | union listed made =>
    subst listed made
    simp [Occurrence.IsMapped, Occurrence.Yields, Schema.children, kept_branches]
  | array filled =>
    constructor
    · unfold TokenTable.array at filled
      cases pattern : workspace.tokens.arrayPattern with
      | error failure =>
        rw [pattern] at filled
        cases filled
      | ok found => exact ⟨found, pattern⟩
    · simp [Occurrence.Yields, Schema.children, kept, Hop.isBranch]
  | primitive isToken =>
    refine ⟨⟨_, isToken⟩, fun token => ?_⟩
    simp [Occurrence.Yields, Schema.children, isToken, eq_comm]

theorem draws_asked {child : Child} {around : List String} {title : String}
    (isReference : child.node.isReference = true)
    (follows : workspace.Follows (workspace.declareNode scope around title child.node) s calls
      (.done result) t) :
    workspace.Draws scope (child.node.occurrences around title (child.hop :: path)) calls
      (kept (child, result)) := by
  obtain ⟨hop, position, node⟩ := child
  cases node with
  | reference reference note =>
    obtain rfl := follows_ask follows
    let occurrence : Occurrence := ⟨hop :: path, around, title, .reference reference note⟩
    have alone : (Schema.reference reference note).occurrences around title (hop :: path) =
        [occurrence] := Schema.occurrences_eq _ _ _ _
    have asked : [occurrence].filter Occurrence.isReference = [occurrence] := rfl
    rw [alone]
    constructor
    · rw [asked]
      exact .cons ⟨rfl, note, rfl⟩ .nil
    · exact List.forall_mem_singleton.mpr trivial
    · intro token
      rw [asked]
      cases isBranch : hop.isBranch <;>
        simp [occurrence, Occurrence.Yields, Occurrence.isBranch, kept, Schema.isReference,
          isBranch]
  | _ => cases isReference

theorem each_draws {children : List Child} {parts : List Declaration}
    (inner : ∀ child ∈ children, ∀ s calls part t,
      workspace.Follows (child.position.declare workspace scope ancestry child.node) s calls
        (.done part) t →
      workspace.Draws scope (child.occurrences ancestry path) calls (kept (child, part)))
    (each : workspace.DeclaresEach scope ancestry children s calls parts t) :
    workspace.Draws scope (children.flatMap (Child.occurrences ancestry path)) calls
      (unionOf ((children.zip parts).map kept)) := by
  induction each with
  | nil => exact draws_nil
  | @cons child children _ _ part parts _ _ _ one _ ih =>
    obtain ⟨here, later⟩ := List.forall_mem_cons.mp inner
    have draws := draws_append (here _ _ _ _ one) (ih later)
    have same : kept (child, part) ∪ unionOf ((children.zip parts).map kept) =
        unionOf (((child :: children).zip (part :: parts)).map kept) := by
      ext token
      simp
    rw [List.flatMap_cons, ← same]
    exact draws

theorem declareNode_draws (notReference : schema.isReference = false)
    (follows : workspace.Follows (workspace.declareNode scope ancestry name schema) s calls
      (.done result) t) :
    workspace.Draws scope (schema.occurrences ancestry name path) calls result.primitives := by
  induction schema using Schema.induction generalizing ancestry name path s t calls result with
  | step schema ih =>
    obtain ⟨parts, u, each, assembles⟩ := declareNode_assembles notReference follows
    obtain ⟨mapped, exact⟩ := assembles_primitives path ancestry assembles
    rw [Schema.occurrences_eq]
    refine draws_cons notReference mapped (each_draws ?_ each) exact
    intro child member s calls part t one
    unfold Child.occurrences
    rcases follows_position one with ⟨cuts, rfl, rfl⟩ | ⟨uncut, inner⟩
    · have none : kept (child, .pending (child.position.title child.node)) = ∅ := ite_self _
      rw [if_pos cuts, none]
      exact draws_nil
    · rw [if_neg uncut]
      cases isReference : child.node.isReference with
      | true => exact draws_asked isReference inner
      | false =>
        have same : kept (child, part) = part.primitives := by simp [kept, isReference]
        rw [same]
        exact ih name child member isReference inner

end Workspace

/-! Histories -/

def Declaration.DrawsFrom (tokens : TokenTable) (declaration : Declaration) : Prop :=
  ∀ token ∈ declaration.primitives,
    token = arrayMarker ∨ ∃ entry ∈ tokens.values, token ∈ entry.tokens

theorem yields_listed {tokens : TokenTable} {occurrence : Occurrence} {token : String}
    (yields : occurrence.Yields tokens token) :
    token = arrayMarker ∨ ∃ entry ∈ tokens.values, token ∈ entry.tokens := by
  unfold Occurrence.Yields at yields
  split at yields
  · exact .inr (token_listed yields)
  · exact .inl yields
  · exact yields.elim

namespace Workspace
variable {workspace : Workspace} {scope : Document} {s t u : Session} {calls : List Call}
variable {name : String} {result declaration : Declaration} {schema : Schema}
variable {trace : List Event} {requests : List Request}

theorem declare_drawsFrom
    (follows : workspace.Follows (workspace.declare scope name schema) s calls (.done result) t)
    (answers : ∀ call ∈ calls, call.answer.DrawsFrom workspace.tokens) :
    result.DrawsFrom workspace.tokens := by
  cases isReference : schema.isReference with
  | true =>
    cases schema with
    | reference reference note =>
      obtain rfl := declare_reference follows
      exact answers _ List.mem_cons_self
    | _ => cases isReference
  | false =>
    rw [declare_free] at follows
    have draws : workspace.Draws scope (schema.occurrences [name] name []) calls
        result.primitives := declareNode_draws isReference follows
    intro token member
    rcases (draws.exact token).mp member with ⟨occurrence, _, yields⟩ | ⟨pair, asked, _, taken⟩
    · exact yields_listed yields
    · exact answers pair.2 (List.of_mem_zip asked).2 token taken

theorem answered_drawsFrom {opened : List (String × String)} {call : Call}
    (answered : call.Answered workspace
      (fun _ expansion => expansion.declaration.DrawsFrom workspace.tokens) opened) :
    call.answer.DrawsFrom workspace.tokens := by
  rcases answered with ⟨expansion, draws, same⟩ | ⟨name, _, same⟩
  · rw [same]
    exact draws
  · rw [same]
    intro token member
    exact absurd member (NameSet.not_mem_empty token)

theorem passes_drawsFrom (start : Walk γ) (s : Session) :
    workspace.Passes start s fun _ expansion =>
      expansion.declaration.DrawsFrom workspace.tokens := by
  intro α chain scope reference rest t u v target schema calls declared _ _ follows answered
  have draws := declare_drawsFrom follows fun call member =>
    answered_drawsFrom (answered call member)
  have same : (target.finish schema declared).primitives = declared.primitives := by
    unfold Target.finish
    split <;> rfl
  intro token member
  exact draws token (same ▸ member)

theorem passesAlways_drawsFrom (trace : List Event) (requests : List Request) :
    workspace.PassesAlways trace requests fun _ expansion =>
      expansion.declaration.DrawsFrom workspace.tokens := by
  refine passesAlways_iff.mpr fun earlier request later _ => ?_
  exact passes_drawsFrom _ _

theorem generated_drawsFrom
    (generated : Generated workspace (workspace.Begins trace requests) scope name schema calls
      declaration) : declaration.DrawsFrom workspace.tokens := by
  obtain ⟨s, declared, t, begins, _, follows, rfl⟩ := generated
  have visits := begins_visits begins
  have known := visits_remembers (passesAlways_drawsFrom trace requests) visits
  obtain ⟨_, answered⟩ := follows_remembers (passes_drawsFrom _ s) follows
    (visits_loaded visits) (.outer (.here _ _)) known
  have draws : declared.DrawsFrom workspace.tokens :=
    declare_drawsFrom follows fun call member => answered_drawsFrom (answered call member)
  -- Leaving out a type's mention of itself changes its references only.
  exact fun token member => draws token member

theorem types_generated {types : TypeMap} {declarations : Declarations}
    (run : (workspace.declareTypes scope types).run (workspace.after trace requests) =
      (.ok declarations, t)) (member : (name, declaration) ∈ declarations.entries) :
    ∃ scope' schema calls, Generated workspace
      (workspace.Begins trace (requests ++ [.types scope types])) scope' name schema calls
      declaration := by
  obtain ⟨loaded, _⟩ := workspace.after_keeps trace requests
  obtain ⟨r, v, runs, same⟩ := declareTypes_runs scope types loaded
  rw [run] at same
  cases same
  obtain ⟨calls, follows⟩ := follows_of_runs runs rfl
  obtain ⟨scope, schema, declared, notReference, rfl, declares⟩ := listTypes_brings follows member
  cases declares with
  | intro first own _ =>
    exact ⟨scope, schema, _, _, declared, _, begins_within (.outer first),
      notReference, own, rfl⟩

def occurrencesUnder (ancestry : List String) (name : String) (schema : Schema) :
    List Occurrence :=
  if name ∈ ancestry then [] else schema.occurrences (name :: ancestry) name []

/-- The primitives of all that is declared, remembered and given out. -/
structure PrimitiveSets (workspace : Workspace) : Prop where
  /-- Whatever a schema is declared as has just the primitives of the nodes inside. -/
  exact : ∀ depth scope ancestry name schema s result t, schema.isReference = false →
    (workspace.follow (workspace.expandWithin depth)
      (workspace.declareUnder scope ancestry name schema)).run s = (.ok result, t) →
    ∃ calls, workspace.Follows (workspace.declareUnder scope ancestry name schema) s calls
        (.done result) t ∧
      workspace.Draws scope (occurrencesUnder ancestry name schema) calls result.primitives ∧
      (name ∉ ancestry →
        TemplateInput.Mirrors workspace scope (name :: ancestry) name schema s calls result.input)
  remembered : ∀ trace requests key expansion,
    (workspace.after trace requests).memo.find? key = some expansion →
      expansion.declaration.DrawsFrom workspace.tokens
  typed : ∀ trace requests scope types declarations t,
    (workspace.declareTypes scope types).run (workspace.after trace requests) =
      (.ok declarations, t) →
    ∀ entry ∈ declarations.entries, entry.2.DrawsFrom workspace.tokens
  generated : ∀ trace requests spec generation t,
    (workspace.declareAll spec).run (workspace.after trace requests) = (.ok generation, t) →
    ∀ name declaration, generation.Holds name declaration →
      declaration.DrawsFrom workspace.tokens

theorem primitive_sets_exact (workspace : Workspace) : workspace.PrimitiveSets where
  exact depth scope ancestry name schema s result t notReference run := by
    obtain ⟨calls, follows⟩ := follows_of_runs (runs_of_follow depth _ run) rfl
    refine ⟨calls, follows, ?_⟩
    unfold occurrencesUnder
    rcases follows_declareUnder follows with ⟨isOpen, rfl, rfl⟩ | ⟨free, inner⟩
    · rw [if_pos isOpen]
      exact ⟨draws_nil, fun free => absurd isOpen free⟩
    · rw [if_neg free]
      exact ⟨declareNode_draws notReference inner, fun _ => declareNode_mirrors notReference inner⟩
  remembered trace requests key expansion found :=
    after_remembers (passesAlways_drawsFrom trace requests) requests [] (by simp) key expansion
      found
  typed trace requests scope types declarations t run entry member := by
    obtain ⟨_, _, _, generated⟩ := types_generated run member
    exact generated_drawsFrom generated
  generated trace requests spec generation t run name declaration holds := by
    rcases holds_generated run holds with rfl | ⟨_, _, _, generated⟩
    · intro token member
      exact absurd member (NameSet.not_mem_empty token)
    · exact generated_drawsFrom generated

end Workspace

namespace DrawnTokens
open SameName (object single renderer)
open ChainedTypes (body)
open Workspace

/-! An object with an array of moments, a property that refers to a type with a count, and a union
with a branch that refers to a type with a truth value. -/

def pet : Schema :=
  .object [("born", .array (.primitive .string (some "date") {}) {}),
    ("owner", .reference "#/types/Owner" {}),
    ("state", .union [.primitive .number none {}, .reference "#/types/Flag" {}] {})] [] {}

def workspace : Workspace where
  root := ⟨Path.ofString "/spec.yaml",
    body [("Owner", object [("count", single "type" "integer")]),
      ("Flag", object [("set", single "type" "boolean")])]⟩
  library := { documents := [] }
  tokens := Table.ofList [
    ("array", .direct (itemMark ++ "[]")), ("boolean", .direct "Truth"),
    ("integer", .direct "Count"), ("number", .direct "Real"),
    ("string", .formats (Table.ofList [("default", "Text"), ("date", "Moment")]))]
  renderer := renderer

def run : Except Failure Declaration × Session :=
  (workspace.follow (workspace.expandWithin 1)
    (workspace.declareUnder workspace.root [] "Pet" pet)).run {}

theorem pet_draws_four_tokens : ∃ result t calls, run = (.ok result, t) ∧
    result.primitives.toList = [arrayMarker, "Count", "Moment", "Real"] ∧
    workspace.Draws workspace.root (occurrencesUnder [] "Pet" pet) calls result.primitives := by
  have tokens : run.1.toOption.map (fun result => result.primitives.toList) =
      some [arrayMarker, "Count", "Moment", "Real"] := by
    decide +kernel
  rcases start : run with ⟨failure | result, t⟩
  · rw [start] at tokens
    cases tokens
  · rw [start] at tokens
    obtain ⟨calls, _, draws, _⟩ :=
      workspace.primitive_sets_exact.exact 1 workspace.root [] "Pet" pet {} result t rfl start
    exact ⟨result, t, calls, rfl, Option.some.inj tokens, draws⟩

end DrawnTokens

end Typewright
