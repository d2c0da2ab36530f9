import Mathlib.Data.List.Forall2
import Typewright.Template.Rendering

/-!
What nodes of a template print. Nodes that assign nothing and stay in their loops leave the scope
as it was, so that a sequence prints what its nodes print, one after the other.
-/
namespace Typewright.Template

def inOrder : List (Evaluated String) → Evaluated String
  | [] => .ok ""
  | text :: rest => do return (← text) ++ (← inOrder rest)

theorem inOrder_ok (texts : List String) : inOrder (texts.map .ok) = .ok (String.join texts) := by
  induction texts with
  | nil => rfl
  | cons text rest ih =>
    rw [List.map_cons, inOrder, ih, String.join_cons]
    rfl

/-- In this scope the node prints the text, and nothing else happens. -/
def Prints (scope : Scope) (node : Node) (text : Evaluated String) : Prop :=
  (renderNode node).run scope = text.map fun text => ((text, Flow.onward), scope)

variable {scope : Scope} {text : Evaluated String} {nodes : List Node}

theorem prints_same {node : Node} {other : Evaluated String} (prints : Prints scope node text)
    (same : text = other) : Prints scope node other := same ▸ prints

theorem renderNodes_cons {node : Node} (prints : Prints scope node text) :
    (renderNodes (node :: nodes)).run scope = (do
      let part ← text
      let ((more, flow), inner) ← (renderNodes nodes).run scope
      return ((part ++ more, flow), inner)) := by
  unfold Prints at prints
  rw [renderNodes, StateT.run_bind, prints]
  cases text <;> rfl

theorem renderNodes_of_prints {texts : List (Evaluated String)}
    (prints : List.Forall₂ (Prints scope) nodes texts) :
    (renderNodes nodes).run scope =
      (inOrder texts).map fun text => ((text, Flow.onward), scope) := by
  induction prints with
  | nil => rfl
  | @cons node text nodes texts first later ih =>
    rw [renderNodes_cons first, ih, inOrder]
    cases text with
    | error fault => rfl
    | ok part => cases inOrder texts <;> rfl

theorem prints_text (part : String) : Prints scope (.text part) (.ok part) := rfl

theorem prints_output {expr : Expr} {value : Evaluated Json}
    (means : (meaning scope expr).value = value) :
    Prints scope (.output expr) (value.map shown) := by
  unfold Prints
  show (do
    let value ← liftM (meaning scope expr).value
    return (shown value, Flow.onward) : Rendering (String × Flow)).run scope = _
  rw [means]
  cases value <;> rfl

theorem prints_otherwise {texts : List (Evaluated String)}
    (prints : List.Forall₂ (Prints scope) nodes texts) :
    Prints scope (.cond [] nodes) (inOrder texts) := renderNodes_of_prints prints

section Conditions
variable {condition : Expr} {branches : List (Expr × List Node)} {otherwise : List Node}

theorem prints_cond {holds : Bool} (means : (meaning scope condition).condition = .ok holds) :
    Prints scope (.cond ((condition, nodes) :: branches) otherwise) text ↔
      Prints scope (if holds then .cond [] nodes else .cond branches otherwise) text := by
  unfold Prints
  show (do
    if ← liftM (meaning scope condition).condition then renderNodes nodes
    else renderBranches branches (renderNodes otherwise) :
      Rendering (String × Flow)).run scope = _ ↔ _
  rw [means]
  cases holds <;> exact Iff.rfl

theorem prints_branch {texts : List (Evaluated String)}
    (holds : (meaning scope condition).condition = .ok true)
    (prints : List.Forall₂ (Prints scope) nodes texts) :
    Prints scope (.cond ((condition, nodes) :: branches) otherwise) (inOrder texts) :=
  (prints_cond holds).mpr (prints_otherwise prints)

theorem prints_later (fails : (meaning scope condition).condition = .ok false)
    (prints : Prints scope (.cond branches otherwise) text) :
    Prints scope (.cond ((condition, nodes) :: branches) otherwise) text :=
  (prints_cond fails).mpr prints

theorem prints_either {holds : Bool} {texts others : List (Evaluated String)}
    (means : (meaning scope condition).condition = .ok holds)
    (prints : List.Forall₂ (Prints scope) nodes texts)
    (printsOther : List.Forall₂ (Prints scope) otherwise others) :
    Prints scope (.cond [(condition, nodes)] otherwise)
      (if holds then inOrder texts else inOrder others) := by
  cases holds with
  | true => exact prints_branch means prints
  | false => exact prints_later means (prints_otherwise printsOther)

theorem prints_when {holds : Bool} (texts : List String)
    (means : (meaning scope condition).condition = .ok holds)
    (prints : List.Forall₂ (Prints scope) nodes (texts.map .ok)) :
    Prints scope (.cond [(condition, nodes)] [])
      (.ok (if holds then String.join texts else "")) := by
  have either := prints_either means prints .nil
  rw [inOrder_ok] at either
  cases holds <;> exact either

end Conditions

/-! Loops -/

def Scope.inRound (scope : Scope) (round : Round) : Scope := scope.begin scope.loops round

/-- In these rounds the body prints these texts, each round its own. -/
def PrintsRounds (scope : Scope) (body : List Node) (rounds : List Round)
    (texts : List (List (Evaluated String))) : Prop :=
  List.Forall₂ (fun round => List.Forall₂ (Prints (scope.inRound round)) body) rounds texts

section Loops
variable {keyName : Option String} {valueName : String} {container : Expr} {body : List Node}
variable {rounds : List Round} {texts : List (List (Evaluated String))}

theorem eachRound_run (prints : PrintsRounds scope body rounds texts) (frames : List Frame) :
    ∃ last, (eachRound scope.loops (renderNodes body) rounds).run
        { scope with loops := frames } =
      (inOrder (texts.map inOrder)).map fun text => (text, { scope with loops := last }) := by
  unfold PrintsRounds at prints
  induction prints generalizing frames with
  | nil => exact ⟨frames, rfl⟩
  | @cons round own rest others one _ ih =>
    have first : (renderNodes body).run
        (({ scope with loops := frames } : Scope).begin scope.loops round) = _ :=
      renderNodes_of_prints one
    obtain ⟨last, later⟩ := ih ({ round := some round } :: scope.loops)
    refine ⟨last, ?_⟩
    rw [eachRound]
    simp only [StateT.run_bind, StateT.run_modify, pure_bind]
    rw [first, List.map_cons, inOrder]
    cases inOrder own with
    | error fault => rfl
    | ok part =>
      have onward : (eachRound scope.loops (renderNodes body) rest).run (scope.inRound round) = _ :=
        later
      show (do
        return part ++ (← eachRound scope.loops (renderNodes body) rest) :
          Rendering String).run (scope.inRound round) = _
      rw [StateT.run_bind, onward]
      cases inOrder (others.map inOrder) <;> rfl

theorem prints_loop (goes : loopRounds scope keyName valueName container = .ok rounds)
    (prints : PrintsRounds scope body rounds texts) :
    Prints scope (.loop keyName valueName container body []) (inOrder (texts.map inOrder)) := by
  unfold Prints
  rw [renderNode]
  simp only [StateT.run_bind, StateT.run_get, pure_bind]
  rw [goes]
  cases prints with
  | nil => rfl
  | @cons round own rest others one later =>
    obtain ⟨last, run⟩ := eachRound_run (.cons one later) scope.loops
    show (Template.repeated (round :: rest) (renderNodes body)).run scope = _
    unfold Template.repeated
    show (do
      let text ← eachRound scope.loops (renderNodes body) (round :: rest)
      modify fun inner : Scope => { inner with loops := scope.loops }
      return (text, Flow.onward) : Rendering (String × Flow)).run scope = _
    rw [StateT.run_bind]
    have inner : (eachRound scope.loops (renderNodes body) (round :: rest)).run scope = _ := run
    rw [inner]
    cases inOrder ((own :: others).map inOrder) <;> rfl

theorem prints_each {items : List α} {entries : List (String × Json)}
    {shows : α → String × Json → Prop} (texts : Nat → α → List (Evaluated String))
    (goes : loopRounds scope keyName valueName container =
      .ok (Template.rounds keyName valueName entries))
    (related : List.Forall₂ shows items entries)
    (prints : ∀ index item entry, shows item entry →
      List.Forall₂ (Prints (scope.inRound
        ⟨keyName, valueName, entry.1, entry.2, index, entries.length⟩)) body
        (texts index item)) :
    Prints scope (.loop keyName valueName container body [])
      (inOrder (items.mapIdx fun index item => inOrder (texts index item))) := by
  have rounds : PrintsRounds scope body (Template.rounds keyName valueName entries)
      (items.mapIdx texts) := by
    obtain ⟨sameLength, each⟩ := List.forall₂_iff_get.mp related
    refine List.forall₂_iff_get.mpr ⟨by simp [Template.rounds, sameLength], ?_⟩
    intro index isRound isItem
    have inItems : index < items.length := by simpa using isItem
    have inEntries : index < entries.length := sameLength ▸ inItems
    simpa [Template.rounds] using
      prints index items[index] entries[index] (each index inItems inEntries)
  have each : (items.mapIdx texts).map inOrder =
      items.mapIdx fun index item => inOrder (texts index item) :=
    List.ext_getElem (by simp) (by simp)
  exact each ▸ prints_loop goes rounds

end Loops

/-! Expressions -/

theorem meaning_mk (scope : Scope) (operand : Operand) (filters : List Call) (negated : Bool) :
    meaning scope (.mk operand filters negated) =
      complete operand (operandMeaning scope operand) (!filters.isEmpty) negated
        (fallback? scope filters) (applyFilters scope filters) := rfl

theorem meaning_ofOperand (scope : Scope) (operand : Operand) :
    meaning scope (.ofOperand operand) =
      complete operand (operandMeaning scope operand) false false none .ok := rfl

theorem operandMeaning_lookup {place : Place} {value : Json}
    (found : placeValue scope place = some value) :
    operandMeaning scope (.lookup place) =
      ⟨.ok value, .ok (isTrue value), Meaning.asNumber value, false⟩ := by
  simp only [operandMeaning, found]

theorem operandMeaning_comparison (scope : Scope) (operation : Comparison) (left right : Expr) :
    operandMeaning scope (.comparison operation left right) =
      .compare operation (meaning scope left) (meaning scope right) := rfl

theorem operandMeaning_connective (scope : Scope) (operation : Connective) (left right : Expr) :
    operandMeaning scope (.connective operation left right) =
      .connect operation (meaning scope left) (meaning scope right) := rfl

theorem operandMeaning_contains {member container : Expr} {value part : Json}
    (means : (meaning scope container).value = .ok value)
    (other : (meaning scope member).value = .ok part) :
    operandMeaning scope (.contains member container false) =
      .ofCondition (do return (← isIn part value) != false) false := by
  show Meaning.ofCondition (do
    let present ← isIn (← (meaning scope member).value) (← (meaning scope container).value)
    return present != false) false = _
  rw [means, other]
  rfl

theorem value_text (scope : Scope) (text : String) :
    (meaning scope (.ofOperand (.text text))).value = .ok (.string text) := rfl

theorem applyFilters_single {filter : String} {value : Json} (notSafe : filter ≠ "safe")
    (notDefault : filter ≠ "default") :
    applyFilters scope [.mk filter []] value = Filter.apply filter [] value := by
  have applied : applyFilters scope [.mk filter []] value =
      (Filter.apply filter [] value >>= .ok) := if_neg (not_or.mpr ⟨notSafe, notDefault⟩)
  rw [applied]
  cases Filter.apply filter [] value <;> rfl

theorem fallback?_cons {name : String} {args : List (String × Expr)} {rest : List Call}
    (notDefault : name ≠ "default") : fallback? scope (.mk name args :: rest) = none :=
  if_neg notDefault

section Expressions
variable {place : Place} {value : Json}

theorem value_of_filters {filters : List Call} (negated : Bool)
    (found : placeValue scope place = some value) (given : fallback? scope filters = none) :
    (meaning scope (.mk (.lookup place) filters negated)).value = (do
      let result ← applyFilters scope filters value
      return if negated then .bool (!isTrue result) else result) := by
  rw [meaning_mk, operandMeaning_lookup found, given]
  simp only [complete, isLookup]
  cases value <;> rfl

theorem condition_of_value {filters : List Call} {negated : Bool}
    (means : (meaning scope (.mk (.lookup place) filters negated)).value = .ok value) :
    (meaning scope (.mk (.lookup place) filters negated)).condition = .ok (isTrue value) := by
  simp only [meaning_mk, complete, isLookup, if_true] at means ⊢
  rw [means]

theorem value_of_place (found : placeValue scope place = some value) :
    (meaning scope (.mk (.lookup place) [] false)).value = .ok value :=
  value_of_filters false found rfl

theorem prints_place {text : String} (found : placeValue scope place = some (.string text)) :
    Prints scope (.output (.ofOperand (.lookup place))) (.ok text) :=
  prints_output (value_of_place found)

theorem condition_of_place (negated : Bool) (found : placeValue scope place = some value) :
    (meaning scope (.mk (.lookup place) [] negated)).condition =
      .ok (isTrue value != negated) := by
  rw [condition_of_value (value_of_filters negated found rfl)]
  cases negated <;> simp [isTrue]

theorem value_through (filter : String) (found : placeValue scope place = some value)
    (notSafe : filter ≠ "safe") (notDefault : filter ≠ "default") :
    (meaning scope (.mk (.lookup place) [.mk filter []] false)).value =
      Filter.apply filter [] value := by
  rw [value_of_filters false found (fallback?_cons notDefault),
    applyFilters_single notSafe notDefault]
  cases Filter.apply filter [] value <;> rfl

variable {left right : Expr}

theorem condition_equal {text other : String}
    (means : (meaning scope left).value = .ok (.string text)) :
    (meaning scope (.ofOperand (.comparison .equal left (.ofOperand (.text other))))).condition =
      .ok (text == other) := by
  rw [meaning_ofOperand, operandMeaning_comparison]
  unfold Meaning.compare
  rw [means, value_text]
  show Except.ok (same (.string text) (.string other) != false) = Except.ok (text == other)
  rw [same, Bool.bne_false]

theorem condition_or {a b : Bool} (first : (meaning scope left).condition = .ok a)
    (second : (meaning scope right).condition = .ok b) :
    (meaning scope (.ofOperand (.connective .or left right))).condition = .ok (a || b) := by
  rw [meaning_ofOperand, operandMeaning_connective]
  unfold Meaning.connect
  rw [first, second]
  cases a
  · show Except.ok (b != false) = _
    rw [Bool.bne_false, Bool.false_or]
  · rfl

theorem condition_contains {part text : String}
    (means : (meaning scope left).value = .ok (.string text)) :
    (meaning scope (.ofOperand (.contains (.ofOperand (.text part)) left false))).condition =
      .ok (Text.contains text part) := by
  rw [meaning_ofOperand, operandMeaning_contains means (value_text scope part)]
  show Except.ok ((Text.contains text part != false) != false) = _
  rw [Bool.bne_false, Bool.bne_false]

end Expressions

/-! Names in the scopes of templates without assignments -/

theorem placeValue_mk (scope : Scope) (name : String) (steps : List Step) :
    placeValue scope (.mk name steps) = (stepKeys scope steps).bind (scope.find? name) := rfl

theorem stepKeys_nil (scope : Scope) : stepKeys scope [] = some [] := rfl

theorem stepKeys_key (scope : Scope) (key : String) (rest : List Step) :
    stepKeys scope (.key key :: rest) =
      (stepKeys scope rest).bind fun keys => some (key :: keys) := rfl

theorem place_of_context {context : List (String × Json)} {name : String} {value : Json}
    (found : Pairs.find? name context = some value) :
    placeValue { context } (.mk name []) = some value := by
  simp [placeValue_mk, stepKeys_nil, Scope.find?, Frame.find?, Pairs.find?, descend, found]

section Rounds
variable {round : Round} {key : String} {value : Json}

theorem stepKeys_keys (scope : Scope) (keys : List String) :
    stepKeys scope (keys.map .key) = some keys := by
  induction keys with
  | nil => rfl
  | cons key rest ih =>
    rw [List.map_cons, stepKeys_key, ih]
    rfl

theorem place_of_round (keys : List String) (notLoop : round.valueName ≠ "loop")
    (inside : descend keys round.value = some value) :
    placeValue (scope.inRound round) (.mk round.valueName (keys.map .key)) = some value := by
  simp [placeValue_mk, stepKeys_keys, Scope.inRound, Scope.begin, Scope.find?, Frame.find?,
    Round.find?, Pairs.find?, notLoop, inside]

theorem place_of_key (notLoop : key ≠ "loop") (named : round.keyName = some key)
    (other : key ≠ round.valueName) :
    placeValue (scope.inRound round) (.mk key []) = some (.string round.key) := by
  simp [placeValue_mk, stepKeys_nil, Scope.inRound, Scope.begin, Scope.find?, Frame.find?,
    Round.find?, Pairs.find?, notLoop, named, other]

theorem place_of_fact (fact : round.fact? [key] = some value) :
    placeValue (scope.inRound round) (.mk "loop" [.key key]) = some value := by
  simp [placeValue_mk, stepKeys_key, stepKeys_nil, Scope.inRound, Scope.begin, Scope.find?,
    Frame.find?, Round.find?, Pairs.find?, fact]

end Rounds

end Typewright.Template
