import Typewright.Proofs.Execution

/-!
The names that a declaration uses. The walk over a schema asks for the references in it, and the
names in the result are those of the answers and what the answers use themselves.
-/
namespace Typewright

theorem mem_foldl_union {name : String} {sets : List NameSet} {set : NameSet} :
    name ∈ sets.foldl (· ∪ ·) set ↔ name ∈ set ∨ ∃ other ∈ sets, name ∈ other := by
  induction sets generalizing set with
  | nil => simp
  | cons first rest ih => simp [ih, or_assoc]

@[simp] theorem mem_unionOf {name : String} {sets : List NameSet} :
    name ∈ unionOf sets ↔ ∃ set ∈ sets, name ∈ set := by
  simp [unionOf, mem_foldl_union]

/-- The names come from the answers, and those of the answers are all among them. -/
structure Gathers (calls : List Call) (names : NameSet) : Prop where
  complete : ∀ call ∈ calls, call.answer.name ∈ call.answer.references →
    call.answer.name ∈ names
  sound : ∀ name ∈ names, ∃ call ∈ calls,
    name = call.answer.name ∨ name ∈ call.answer.references

theorem gathers_nil : Gathers [] ∅ := ⟨by simp, by simp⟩

theorem gathers_cons {first second : List Call} {names : NameSet} {sets : List NameSet}
    (one : Gathers first names) (others : Gathers second (unionOf sets)) :
    Gathers (first ++ second) (unionOf (names :: sets)) := by
  constructor
  · intro call member self
    rw [mem_unionOf]
    rcases List.mem_append.mp member with member | member
    · exact ⟨names, List.mem_cons_self, one.complete call member self⟩
    · obtain ⟨set, inside, known⟩ := mem_unionOf.mp (others.complete call member self)
      exact ⟨set, List.mem_cons_of_mem names inside, known⟩
  · intro name member
    obtain ⟨set, inside, known⟩ := mem_unionOf.mp member
    rcases List.mem_cons.mp inside with rfl | inside
    · obtain ⟨call, isIn, origin⟩ := one.sound name known
      exact ⟨call, List.mem_append_left second isIn, origin⟩
    · obtain ⟨call, isIn, origin⟩ := others.sound name (mem_unionOf.mpr ⟨set, inside, known⟩)
      exact ⟨call, List.mem_append_right first isIn, origin⟩

namespace Workspace
variable {workspace : Workspace} {scope : Document} {s t : Session} {calls : List Call}
variable {name : String} {result : Declaration}

theorem follows_done {value other : α}
    (follows : workspace.Follows (.done value) s calls (.done other) t) :
    calls = [] ∧ other = value ∧ t = s := by
  cases follows
  exact ⟨rfl, rfl, rfl⟩

theorem follows_ofExcept {given : Except Failure α} {value : α}
    (follows : workspace.Follows (Walk.ofExcept given) s calls (.done value) t) :
    given = .ok value ∧ calls = [] := by
  cases given with
  | error failure => cases follows
  | ok other =>
    obtain ⟨rfl, rfl, _⟩ := follows_done follows
    exact ⟨rfl, rfl⟩

theorem follows_ask {reference : String}
    (follows : workspace.Follows (Walk.ask scope reference) s calls (.done result) t) :
    calls = [⟨scope, reference, result⟩] := by
  cases follows with
  | asking answers later =>
    obtain ⟨rfl, rfl, _⟩ := follows_done later
    rfl

theorem follows_unlessOpen {ancestry : List String} {walk : Walk Declaration}
    (follows : workspace.Follows (unlessOpen ancestry name walk) s calls (.done result) t) :
    (name ∈ ancestry ∧ calls = [] ∧ result = .pending name) ∨
      (name ∉ ancestry ∧ workspace.Follows walk s calls (.done result) t) := by
  unfold unlessOpen at follows
  split at follows
  · next isOpen =>
    obtain ⟨none, same, _⟩ := follows_done follows
    exact .inl ⟨isOpen, none, same⟩
  · next free => exact .inr ⟨free, follows⟩

theorem follows_declareProperty {ancestry : List String} {property : String} {schema : Schema}
    {declare : List String → String → Walk Declaration}
    (follows : workspace.Follows (declareProperty ancestry property declare schema) s calls
      (.done result) t) :
    (calls = [] ∧ ∃ other, result = .pending other) ∨
      ∃ around other, workspace.Follows (declare around other) s calls (.done result) t := by
  unfold declareProperty at follows
  split at follows
  · rcases follows_unlessOpen follows with ⟨_, none, same⟩ | ⟨_, inner⟩
    · exact .inl ⟨none, _, same⟩
    · exact .inr ⟨_, _, inner⟩
  · rcases follows_unlessOpen follows with ⟨_, none, same⟩ | ⟨_, inner⟩
    · exact .inl ⟨none, _, same⟩
    · exact .inr ⟨_, _, inner⟩
  · exact .inr ⟨_, _, follows⟩
  · exact .inr ⟨_, _, follows⟩

theorem follows_declareBranch {ancestry : List String} {schema : Schema}
    {declare : List String → String → Walk Declaration}
    (follows : workspace.Follows (declareBranch ancestry name declare schema) s calls
      (.done result) t) :
    (calls = [] ∧ schema.isReference = false ∧ result = .pending name) ∨
      ∃ around, workspace.Follows (declare around name) s calls (.done result) t := by
  unfold declareBranch at follows
  split at follows
  · exact .inr ⟨_, follows⟩
  · next notReference =>
    rcases follows_unlessOpen follows with ⟨_, none, same⟩ | ⟨_, inner⟩
    · exact .inl ⟨none, by simpa using notReference, same⟩
    · exact .inr ⟨_, inner⟩

/-! What one declaration is made of -/

theorem follows_render {kind : DeclarationKind} {text : Except Failure String} {own : String}
    (follows : workspace.Follows (render kind name text) s calls (.done own) t) :
    text = .ok own ∧ calls = [] := by
  cases follows with
  | noting later => exact follows_ofExcept later

theorem follows_declareObject {required : List String} {note : Annotation} {members : List Member}
    (follows : workspace.Follows (workspace.declareObject name required note members) s calls
      (.done result) t) :
    ∃ own, workspace.renderer.object
        ⟨name, name, members.map (Member.property required), note⟩ = .ok own ∧ calls = [] ∧
      result =
        { content := own ++
            joinContents ((members.filter Member.isNested).map Member.declaration) ++
            joinContents ((members.filter Member.isEnumeration).map Member.declaration)
          references := unionOf ((members.map Member.declaration).map Declaration.references)
          primitives := unionOf ((members.map Member.declaration).map Declaration.primitives)
          input := .object ⟨name, name, members.map (Member.property required), note⟩ } := by
  obtain ⟨own, first, second, u, rfl, rendered, later⟩ := follows_bind_done follows
  obtain ⟨rfl, rfl, _⟩ := follows_done later
  obtain ⟨made, rfl⟩ := follows_render rendered
  exact ⟨own, made, rfl, rfl⟩

theorem follows_declareUnion {note : Annotation} {branches : List Branch}
    (follows : workspace.Follows (workspace.declareUnion name note branches) s calls
      (.done result) t) :
    ∃ own, workspace.renderer.union ⟨name, name, branches.map Branch.composition, note⟩ =
        .ok own ∧ calls = [] ∧
      result =
        { content := own ++ String.join (branches.map Branch.content)
          references := unionOf (branches.map Branch.references)
          primitives := unionOf (branches.map Branch.primitives)
          input := .union ⟨name, name, branches.map Branch.composition, note⟩ } := by
  obtain ⟨own, first, second, u, rfl, rendered, later⟩ := follows_bind_done follows
  obtain ⟨rfl, rfl, _⟩ := follows_done later
  obtain ⟨made, rfl⟩ := follows_render rendered
  exact ⟨own, made, rfl, rfl⟩

theorem follows_declareEnumeration {type : DataType} {values : List Literal} {note : Annotation}
    (follows : workspace.Follows (workspace.declareEnumeration name type values note) s calls
      (.done result) t) :
    ∃ own, workspace.renderer.enumeration ⟨name, name, type.name, values, note⟩ = .ok own ∧
      calls = [] ∧ result = ⟨own, ∅, ∅, .enumeration ⟨name, name, type.name, values, note⟩⟩ := by
  obtain ⟨own, first, second, u, rfl, rendered, later⟩ := follows_bind_done follows
  obtain ⟨rfl, rfl, _⟩ := follows_done later
  obtain ⟨made, rfl⟩ := follows_render rendered
  exact ⟨own, made, rfl, rfl⟩

def itemText (items : Schema) (item : TemplateInput) : String :=
  if items.isReference then item.name else item.type

theorem itemText_pending (items : Schema) (name : String) :
    itemText items (Declaration.pending name).input = name :=
  ite_self _

theorem follows_declareArray {items : Schema} {note : Annotation} {item : Declaration}
    (follows : workspace.Follows (workspace.declareArray name items note item) s calls
      (.done result) t) :
    ∃ type, workspace.tokens.array (itemText items item.input) = .ok type ∧ calls = [] ∧
      result =
        { content := if items.isReference then "" else item.content
          references := item.references
          primitives := item.primitives.insert arrayMarker
          input := .plain ⟨name, type, some (itemText items item.input), note⟩ } := by
  obtain ⟨type, first, second, u, rfl, filled, later⟩ := follows_bind_done follows
  obtain ⟨rfl, rfl, _⟩ := follows_done later
  obtain ⟨made, rfl⟩ := follows_ofExcept filled
  exact ⟨type, made, rfl, rfl⟩

theorem follows_declarePrimitive {type : DataType} {format : Option String} {note : Annotation}
    (follows : workspace.Follows (workspace.declarePrimitive name type format note) s calls
      (.done result) t) :
    ∃ token, workspace.tokens.primitive type format = .ok token ∧ calls = [] ∧
      result = ⟨"", ∅, NameSet.ofList [token], .plain ⟨name, token, none, note⟩⟩ := by
  obtain ⟨token, first, second, u, rfl, filled, later⟩ := follows_bind_done follows
  obtain ⟨rfl, rfl, _⟩ := follows_done later
  obtain ⟨made, rfl⟩ := follows_ofExcept filled
  exact ⟨token, made, rfl, rfl⟩

/-! The names in a declaration -/

theorem gathers_pending (other : String) : Gathers [] (Declaration.pending other).references :=
  gathers_nil

theorem gathers_branch {schema : Schema} {answer : Declaration}
    (gathers : Gathers calls answer.references)
    (asked : schema.isReference = true → ∃ call, calls = [call] ∧ call.answer = answer) :
    Gathers calls (Branch.references ⟨schema, answer⟩) := by
  unfold Branch.references
  split
  · next isReference =>
    obtain ⟨call, rfl, rfl⟩ := asked isReference
    constructor
    · intro other member _
      rw [List.mem_singleton.mp member]
      simp
    · intro other member
      refine ⟨call, List.mem_singleton_self _, .inl ?_⟩
      simpa using member
  · exact gathers

mutual

/-- Every name that a schema's declaration uses comes from a reference in the schema, and the name
behind every reference that was asked for is used. -/
theorem declareNode_gathers : (schema : Schema) → (ancestry : List String) → (name : String) →
    (s t : Session) → (calls : List Call) → (result : Declaration) →
    workspace.Follows (workspace.declareNode scope ancestry name schema) s calls (.done result) t →
    Gathers calls result.references
  | .object properties _ _, ancestry, _, s, t, calls, result, follows => by
    obtain ⟨members, first, second, u, rfl, inner, own⟩ := follows_bind_done follows
    obtain ⟨_, _, rfl, rfl⟩ := follows_declareObject own
    rw [List.append_nil, List.map_map]
    exact declareProperties_gathers properties ancestry s u first members inner
  | .enumeration .., _, _, _, _, _, _, follows => by
    obtain ⟨_, _, rfl, rfl⟩ := follows_declareEnumeration follows
    exact gathers_nil
  | .union variants _, ancestry, name, s, t, calls, result, follows => by
    obtain ⟨branches, first, second, u, rfl, inner, own⟩ := follows_bind_done follows
    obtain ⟨_, _, rfl, rfl⟩ := follows_declareUnion own
    rw [List.append_nil]
    exact declareVariants_gathers variants ancestry name 1 s u first branches inner
  | .array items _, ancestry, name, s, t, calls, result, follows => by
    obtain ⟨item, first, second, u, rfl, inner, own⟩ := follows_bind_done follows
    obtain ⟨_, _, rfl, rfl⟩ := follows_declareArray own
    rw [List.append_nil]
    rcases follows_unlessOpen inner with ⟨_, rfl, rfl⟩ | ⟨_, inside⟩
    · exact gathers_pending (itemTypeName name)
    · exact declareNode_gathers items _ _ s u first item inside
  | .reference target _, _, _, _, _, calls, result, follows => by
    have same := follows_ask follows
    subst same
    constructor
    · intro call member self
      rw [List.mem_singleton.mp member] at self ⊢
      exact self
    · exact fun other member => ⟨_, List.mem_singleton_self _, .inr member⟩
  | .primitive .., _, _, _, _, _, _, follows => by
    obtain ⟨_, _, rfl, rfl⟩ := follows_declarePrimitive follows
    exact gathers_nil

theorem declareProperties_gathers : (properties : List (String × Schema)) →
    (ancestry : List String) → (s t : Session) → (calls : List Call) → (members : List Member) →
    workspace.Follows (workspace.declareProperties scope ancestry properties) s calls
      (.done members) t →
    Gathers calls (unionOf (members.map fun member => member.declaration.references))
  | [], _, _, _, _, _, follows => by
    obtain ⟨rfl, rfl, _⟩ := follows_done follows
    exact gathers_nil
  | (property, schema) :: rest, ancestry, s, t, calls, members, follows => by
    obtain ⟨declaration, first, others, u, rfl, one, later⟩ := follows_bind_done follows
    obtain ⟨tail, second, last, v, rfl, more, done⟩ := follows_bind_done later
    obtain ⟨rfl, rfl, _⟩ := follows_done done
    rw [List.append_nil]
    refine gathers_cons ?_ (declareProperties_gathers rest ancestry u v second tail more)
    rcases follows_declareProperty one with ⟨rfl, other, rfl⟩ | ⟨around, other, inner⟩
    · exact gathers_pending other
    · exact declareNode_gathers schema around other s u first declaration inner

theorem declareVariants_gathers : (variants : List Schema) → (ancestry : List String) →
    (union : String) → (position : Nat) → (s t : Session) → (calls : List Call) →
    (branches : List Branch) →
    workspace.Follows (workspace.declareVariants scope ancestry union position variants) s calls
      (.done branches) t →
    Gathers calls (unionOf (branches.map Branch.references))
  | [], _, _, _, _, _, _, _, follows => by
    obtain ⟨rfl, rfl, _⟩ := follows_done follows
    exact gathers_nil
  | schema :: rest, ancestry, union, position, s, t, calls, branches, follows => by
    obtain ⟨declaration, first, others, u, rfl, one, later⟩ := follows_bind_done follows
    obtain ⟨tail, second, last, v, rfl, more, done⟩ := follows_bind_done later
    obtain ⟨rfl, rfl, _⟩ := follows_done done
    rw [List.append_nil]
    refine gathers_cons ?_
      (declareVariants_gathers rest ancestry union (position + 1) u v second tail more)
    rcases follows_declareBranch one with ⟨rfl, notReference, rfl⟩ | ⟨around, inner⟩
    · refine gathers_branch (gathers_pending _) fun isReference => ?_
      rw [notReference] at isReference
      cases isReference
    · refine gathers_branch
        (declareNode_gathers schema around _ s u first declaration inner) fun isReference => ?_
      cases schema with
      | reference target note => exact ⟨_, follows_ask inner, rfl⟩
      | _ => cases isReference

end

theorem declareNode_name {ancestry : List String} {schema : Schema}
    (follows : workspace.Follows (workspace.declareNode scope ancestry name schema) s calls
      (.done result) t) (notReference : schema.isReference = false) : result.name = name := by
  cases schema with
  | object =>
    obtain ⟨members, _, _, _, _, _, own⟩ := follows_bind_done follows
    obtain ⟨_, _, _, rfl⟩ := follows_declareObject own
    rfl
  | enumeration =>
    obtain ⟨_, _, _, rfl⟩ := follows_declareEnumeration follows
    rfl
  | union =>
    obtain ⟨branches, _, _, _, _, _, own⟩ := follows_bind_done follows
    obtain ⟨_, _, _, rfl⟩ := follows_declareUnion own
    rfl
  | array =>
    obtain ⟨item, _, _, _, _, _, own⟩ := follows_bind_done follows
    obtain ⟨_, _, _, rfl⟩ := follows_declareArray own
    rfl
  | reference => cases notReference
  | primitive =>
    obtain ⟨_, _, _, rfl⟩ := follows_declarePrimitive follows
    rfl

theorem declareUnder_gathers {ancestry : List String} {schema : Schema}
    (follows : workspace.Follows (workspace.declareUnder scope ancestry name schema) s calls
      (.done result) t) : Gathers calls result.references := by
  rcases follows_unlessOpen follows with ⟨_, rfl, rfl⟩ | ⟨_, inner⟩
  · exact gathers_pending name
  · exact declareNode_gathers schema _ name s t calls result inner

theorem declare_name {schema : Schema}
    (follows : workspace.Follows (workspace.declare scope name schema) s calls (.done result) t)
    (notReference : schema.isReference = false) : result.name = name := by
  unfold declare declareUnder at follows
  rcases follows_unlessOpen follows with ⟨_, _, rfl⟩ | ⟨_, inner⟩
  · rfl
  · exact declareNode_name inner notReference

theorem declare_reference {target : String} {note : Annotation}
    (follows : workspace.Follows (workspace.declare scope name (.reference target note)) s calls
      (.done result) t) : calls = [⟨scope, target, result⟩] :=
  follows_ask follows

end Workspace

end Typewright
