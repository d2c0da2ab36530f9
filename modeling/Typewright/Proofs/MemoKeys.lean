import Typewright.Proofs.ReferenceChains
import Typewright.Proofs.Scoping

/-!
What the keys of references tell apart. In the root document a key is the text of the reference, and
elsewhere the text of the path, two colons and the text of the reference. Different references have
one key only if the text of one of them begins like the key of the other. Apart from these, whatever
is answered from memory or stands for an open reference was made for the very same target.
-/
namespace Typewright

theorem Text.append_eq_append {a b c d : String} (same : a ++ b = c ++ d) :
    (∃ more, c = a ++ more ∧ b = more ++ d) ∨ ∃ more, a = c ++ more ∧ d = more ++ b := by
  have lists : a.toList ++ b.toList = c.toList ++ d.toList := by
    rw [← String.toList_append, same, String.toList_append]
  rcases List.append_eq_append_iff.mp lists with ⟨more, first, second⟩ | ⟨more, first, second⟩
  · left
    refine ⟨String.ofList more, String.toList_inj.mp ?_, String.toList_inj.mp ?_⟩
    · rw [String.toList_append, String.toList_ofList, first]
    · rw [String.toList_append, String.toList_ofList, second]
  · right
    refine ⟨String.ofList more, String.toList_inj.mp ?_, String.toList_inj.mp ?_⟩
    · rw [String.toList_append, String.toList_ofList, first]
    · rw [String.toList_append, String.toList_ofList, second]

def Path.IsText (p : Path) : Prop := Path.ofString p.toString = p

instance (p : Path) : Decidable p.IsText := inferInstanceAs (Decidable (_ = _))

theorem Path.toString_inj {p q : Path} (first : p.IsText) (second : q.IsText)
    (same : p.toString = q.toString) : p = q := by
  rw [← first, same, second]

namespace Workspace
variable {workspace : Workspace} {a b : Document} {q r : String}

structure IsWritten (workspace : Workspace) : Prop where
  root : workspace.root.path.IsText
  library : ∀ entry ∈ workspace.library.documents, entry.1.IsText

theorem serves_isText (written : workspace.IsWritten) (served : workspace.Serves a) :
    a.path.IsText := by
  rcases served with rfl | ⟨path, fetched⟩
  · exact written.root
  · rcases fetch_ok fetched with rfl | ⟨named, loaded⟩
    · exact written.root
    · have listed := written.library _ (load_mem loaded)
      rwa [named]

theorem root_of_isRoot (served : workspace.Serves a) (atRoot : workspace.isRoot a = true) :
    a = workspace.root := by
  rcases served with same | ⟨path, fetched⟩
  · exact same
  · unfold fetch at fetched
    split at fetched
    · cases fetched
      rfl
    · next other =>
      obtain ⟨body, _, rfl⟩ := map_eq_ok.mp fetched
      exact absurd atRoot other

/-! Keys -/

theorem key_root (atRoot : workspace.isRoot a = true) : workspace.key a q = q := by
  simp [key, atRoot]

theorem key_other (elsewhere : workspace.isRoot a = false) :
    workspace.key a q = a.path.toString ++ "::" ++ q := by
  simp [key, elsewhere]

/-- The text of the reference `q` begins with a path and two colons, or with the end of them, so
that its key is also that of `r` in another document. -/
inductive Confuses (workspace : Workspace) (a : Document) (q : String) (b : Document) (r : String) :
    Prop where
  | root (here : workspace.isRoot a = true) (elsewhere : workspace.isRoot b = false)
    (text : q = b.path.toString ++ "::" ++ r)
  | longer (first : workspace.isRoot a = false) (second : workspace.isRoot b = false)
    (more : String) (filled : more ≠ "")
    (path : b.path.toString ++ "::" = a.path.toString ++ "::" ++ more) (text : q = more ++ r)

theorem key_of_confuses (confuses : workspace.Confuses a q b r) :
    workspace.key a q = workspace.key b r := by
  cases confuses with
  | root here elsewhere text => rw [key_root here, key_other elsewhere, text]
  | longer first second more _ path text =>
    rw [key_other first, key_other second, path, text, ← String.append_assoc]

theorem same_or_longer (first : workspace.isRoot a = false) (second : workspace.isRoot b = false)
    (isText : a.path.IsText) (alsoText : b.path.IsText) {more : String}
    (path : b.path.toString ++ "::" = a.path.toString ++ "::" ++ more) (text : q = more ++ r) :
    (a.path = b.path ∧ q = r) ∨ workspace.Confuses a q b r := by
  by_cases filled : more = ""
  · subst filled
    rw [String.append_empty] at path
    have same : b.path.toString = a.path.toString := (String.append_left_inj "::").mp path
    rw [String.empty_append] at text
    exact .inl ⟨Path.toString_inj isText alsoText same.symm, text⟩
  · exact .inr (.longer first second more filled path text)

/-- Two references have one key if they are one reference or one of them confuses them. -/
theorem key_eq_iff (written : workspace.IsWritten) (first : workspace.Serves a)
    (second : workspace.Serves b) : workspace.key a q = workspace.key b r ↔
      (a = b ∧ q = r) ∨ workspace.Confuses a q b r ∨ workspace.Confuses b r a q := by
  have isText := serves_isText written first
  have alsoText := serves_isText written second
  constructor
  · intro same
    cases here : workspace.isRoot a with
    | true =>
      rw [key_root here] at same
      cases there : workspace.isRoot b with
      | true =>
        rw [key_root there] at same
        have document : a = b :=
          (root_of_isRoot first here).trans (root_of_isRoot second there).symm
        exact .inl ⟨document, same⟩
      | false => exact .inr (.inl (.root here there (same.trans (key_other there))))
    | false =>
      cases there : workspace.isRoot b with
      | true =>
        rw [key_root there, key_other here] at same
        exact .inr (.inr (.root there here same.symm))
      | false =>
        rw [key_other here, key_other there] at same
        rcases Text.append_eq_append same with ⟨more, path, text⟩ | ⟨more, path, text⟩
        · rcases same_or_longer here there isText alsoText path text with ⟨paths, texts⟩ | confuses
          · exact .inl ⟨serves_unique first second paths, texts⟩
          · exact .inr (.inl confuses)
        · rcases same_or_longer there here alsoText isText path text with ⟨paths, texts⟩ | confuses
          · exact .inl ⟨serves_unique first second paths.symm, texts.symm⟩
          · exact .inr (.inr confuses)
  · rintro (⟨rfl, rfl⟩ | confuses | confuses)
    · rfl
    · exact key_of_confuses confuses
    · exact (key_of_confuses confuses).symm

theorem colon_of_confuses (confuses : workspace.Confuses a q b r) : ':' ∈ q.toList := by
  cases confuses with
  | root _ _ text =>
    rw [text]
    simp
  | longer _ _ more filled path text =>
    have rest : more.toList ≠ [] := fun empty => filled (String.toList_inj.mp empty)
    have lists := congrArg String.toList path
    simp only [String.toList_append] at lists
    -- the rest of the path ends in the second colon behind it
    have last : more.toList.getLast rest = ':' := by
      have ends := congrArg List.getLast? lists
      rw [List.getLast?_append_of_ne_nil _ rest, List.getLast?_eq_some_getLast rest] at ends
      simpa using ends.symm
    rw [text, String.toList_append]
    exact List.mem_append_left _ (last ▸ List.getLast_mem rest)

theorem same_of_plain (written : workspace.IsWritten) (first : workspace.Serves a)
    (second : workspace.Serves b) (plain : ':' ∉ q.toList) (alsoPlain : ':' ∉ r.toList)
    (same : workspace.key a q = workspace.key b r) : a = b ∧ q = r := by
  rcases (key_eq_iff written first second).mp same with reference | confuses | confuses
  · exact reference
  · exact absurd (colon_of_confuses confuses) plain
  · exact absurd (colon_of_confuses confuses) alsoPlain

/-! Who has made what is answered -/

section Histories
variable {trace : List Event} {requests : List Request} {s t : Session}

def Stores (workspace : Workspace) (trace : List Event) (requests : List Request) (a : Document)
    (q : String) (expansion : Expansion) : Prop :=
  ∃ (α : Type) (rest : Declaration → Walk α) (s u v : Session) (schema : Schema)
    (calls : List Call) (declared : Declaration),
    workspace.Begins trace requests (.asking a q rest) s ∧
    workspace.Enters a q s expansion.target schema u ∧
    workspace.Follows (workspace.declare expansion.target.document expansion.target.name schema)
      (workspace.inside a q expansion.target u) calls (.done declared) v ∧
    expansion.declaration = expansion.target.finish schema declared

def Encloses (workspace : Workspace) (trace : List Event) (requests : List Request) (a : Document)
    (q : String) (target : Target) (b : Document) (r : String) (t : Session) : Prop :=
  ∃ (α β : Type) (rest : Declaration → Walk α) (later : Declaration → Walk β) (s u : Session)
    (schema : Schema) (chain : List (Document × String)),
    workspace.Begins trace requests (.asking a q rest) s ∧
    workspace.Enters a q s target schema u ∧
    workspace.Moment (workspace.declare target.document target.name schema)
      (workspace.inside a q target u) chain (.asking b r later) t

def LeadsAlike (workspace : Workspace) (a : Document) (q : String) (b : Document) (r : String)
    (target : Target) : Prop :=
  (∃ schema, workspace.schemaAt a q = .ok (target, schema) ∧
    workspace.schemaAt b r = .ok (target, schema)) ∨
  workspace.Confuses a q b r ∨ workspace.Confuses b r a q

/-- A reference that is answered from memory or by an open one is answered with what another one of
its key has been expanded to, and leads to the same target unless one of the two confuses them. -/
structure AnswersAlike (workspace : Workspace) (trace : List Event) (requests : List Request) :
    Prop where
  remembered : ∀ {α : Type} (b : Document) (r : String) (rest : Declaration → Walk α) (t : Session),
    workspace.Begins trace requests (.asking b r rest) t → ∀ expansion,
      t.memo.find? (workspace.key b r) = some expansion →
        (∃ a q, workspace.Stores trace requests a q expansion ∧
          workspace.key a q = workspace.key b r) ∧
        ∀ a q, workspace.Stores trace requests a q expansion →
          workspace.key a q = workspace.key b r → workspace.LeadsAlike a q b r expansion.target
  opened : ∀ {α : Type} (b : Document) (r : String) (rest : Declaration → Walk α) (t : Session),
    workspace.Begins trace requests (.asking b r rest) t → ∀ name,
      t.opened.lookup (workspace.key b r) = some name →
        (∃ a q target, workspace.Encloses trace requests a q target b r t ∧
          workspace.key a q = workspace.key b r ∧ target.name = name) ∧
        ∀ a q target, workspace.Encloses trace requests a q target b r t →
          workspace.key a q = workspace.key b r → workspace.LeadsAlike a q b r target

theorem passes_stored {start : Walk γ} (begins : workspace.Begins trace requests start s) :
    workspace.Passes start s fun key expansion =>
      ∃ a q, workspace.Stores trace requests a q expansion ∧ workspace.key a q = key := by
  intro α chain scope reference rest t u v target schema calls declared moment enters follows _
  exact ⟨scope, reference, ⟨α, rest, t, u, v, schema, calls, declared,
    begins_moment begins moment, enters, follows, rfl⟩, rfl⟩

theorem passesAlways_stored : workspace.PassesAlways trace requests fun key expansion =>
    ∃ a q, workspace.Stores trace requests a q expansion ∧ workspace.key a q = key := by
  refine passesAlways_iff.mpr ?_
  rintro earlier request later rfl
  exact passes_stored (begins_walk trace earlier request later)

theorem moment_around {start : Walk γ} {walk : Walk α} {chain : List (Document × String)}
    (moment : workspace.Moment start s chain walk t) (isOpen : (a, q) ∈ chain) :
    ∃ (β : Type) (outer inner : List (Document × String)) (rest : Declaration → Walk β)
      (u v : Session) (target : Target) (schema : Schema),
      workspace.Moment start s outer (.asking a q rest) u ∧
      workspace.Enters a q u target schema v ∧
      workspace.Moment (workspace.declare target.document target.name schema)
        (workspace.inside a q target v) inner walk t := by
  induction moment with
  | outer follows => cases isOpen
  | inner around enters follows ih =>
    rcases List.mem_cons.mp isOpen with same | outside
    · cases same
      exact ⟨_, _, [], _, _, _, _, _, around, enters, .outer follows⟩
    · obtain ⟨β, outer, inner, rest, u, v, target, schema, before, entered, within⟩ := ih outside
      exact ⟨β, outer, _, rest, u, v, target, schema, before, entered,
        .inner within enters follows⟩

theorem begins_outermost {walk : Walk β} (begins : workspace.Begins trace requests walk t) :
    ∃ (γ : Type) (start : Walk γ) (s : Session) (α : Type) (chain : List (Document × String))
      (next : β → Walk α), workspace.Begins trace requests start s ∧ s.opened = [] ∧
        workspace.Moment start s chain (walk >>= next) t := by
  obtain ⟨earlier, request, later, rfl, begins⟩ := begins
  obtain ⟨_, closed⟩ := workspace.after_keeps trace earlier
  obtain ⟨α, chain, next, moment⟩ := Request.begins_iff.mp begins
  exact ⟨_, _, _, α, chain, next, begins_walk trace earlier request later, closed, moment⟩

section Served
variable (written : workspace.IsWritten)
variable (served : ∀ request ∈ requests, request.IsServed workspace)
include served

theorem opened_enclosed {rest : Declaration → Walk α} {name : String}
    (begins : workspace.Begins trace requests (.asking b r rest) t)
    (isOpen : t.opened.lookup (workspace.key b r) = some name) :
    ∃ a q target, workspace.Encloses trace requests a q target b r t ∧
      workspace.key a q = workspace.key b r ∧ target.name = name := by
  obtain ⟨γ, start, s, δ, chain, next, starts, closed, moment⟩ := begins_outermost begins
  have tracks := begins_tracks served starts
  have asks : workspace.Asks (Lists workspace.Serves (workspace.reach requests)) start :=
    asks_mono (fun _ _ reached => reached.1) tracks.asks
  have chained := moment_chained (covering_reach requests) tracks.loaded closed asks moment
  obtain ⟨before, after, split, _⟩ := List.lookup_eq_some_iff.mp isOpen
  have member : (workspace.key b r, name) ∈ t.opened := by simp [split]
  obtain ⟨⟨a, q⟩, around, target, schema, pair, found⟩ := chained.named _ member
  obtain ⟨_, outer, inner, rest, u, v, other, node, outside, enters, within⟩ :=
    moment_around moment around
  have loaded := moment_loaded outside tracks.loaded
  cases found.symm.trans (readSchema_reads loaded enters.read).1.symm
  refine ⟨a, q, target, ?_, (congrArg Prod.fst pair).symm, (congrArg Prod.snd pair).symm⟩
  exact ⟨_, _, rest, _, u, v, schema, inner, begins_moment starts outside, enters, within⟩

include written

theorem leadsAlike_of_enters {restA : Declaration → Walk α} {restB : Declaration → Walk β}
    {u : Session} {target : Target} {schema : Schema}
    (begins : workspace.Begins trace requests (.asking a q restA) s)
    (enters : workspace.Enters a q s target schema u)
    (later : workspace.Begins trace requests (.asking b r restB) t)
    (same : workspace.key a q = workspace.key b r) : workspace.LeadsAlike a q b r target := by
  have tracks := begins_tracks served begins
  have tracksLater := begins_tracks served later
  obtain ⟨found, _⟩ := readSchema_reads tracks.loaded enters.read
  rcases (key_eq_iff written tracks.asks.1.1.2 tracksLater.asks.1.1.2).mp same with
    ⟨rfl, rfl⟩ | confuses
  · exact .inl ⟨schema, found.symm, found.symm⟩
  · exact .inr confuses

/-- In every history what is answered without an expansion belongs to the target of the reference,
as long as no reference begins like a key. -/
theorem answers_belong_to_targets : workspace.AnswersAlike trace requests where
  remembered b r rest t begins expansion known := by
    constructor
    · exact visits_remembers passesAlways_stored ⟨_, _, begins⟩ _ _ known
    · intro a q stores same
      obtain ⟨_, _, _, _, _, _, _, _, before, enters, _⟩ := stores
      exact leadsAlike_of_enters written served before enters begins same
  opened b r rest t begins name isOpen := by
    constructor
    · exact opened_enclosed served begins isOpen
    · intro a q target encloses same
      obtain ⟨_, _, _, _, _, _, _, _, before, enters, _⟩ := encloses
      exact leadsAlike_of_enters written served before enters begins same

end Served
end Histories
end Workspace

namespace KeyText
open SameName (mapping single object info renderer tokens)
open TwoSpellings (path)

theorem spellings_answer_alike : ∃ body spec, TwoSpellings.library.load path = .ok body ∧
    Spec.decode body = .ok spec ∧
    Workspace.AnswersAlike ⟨⟨path, body⟩, TwoSpellings.library, tokens, renderer⟩ [.load path]
      [.all spec] := by
  have reads : ((TwoSpellings.library.load path).bind Spec.decode).isOk = true := by
    decide +kernel
  cases loaded : TwoSpellings.library.load path with
  | error failure =>
    rw [loaded] at reads
    cases reads
  | ok body =>
    cases decoded : Spec.decode body with
    | error failure =>
      rw [loaded, Except.bind, decoded] at reads
      cases reads
    | ok spec =>
      refine ⟨body, spec, rfl, decoded, Workspace.answers_belong_to_targets ⟨?_, ?_⟩ ?_⟩
      · show path.IsText
        decide +kernel
      · show ∀ entry ∈ TwoSpellings.library.documents, entry.1.IsText
        decide +kernel
      · simp [Workspace.Request.IsServed]

def library : Library where
  documents := [
    (Path.ofString "/spec.yaml", .ok (mapping [info, ("types", mapping [
      ("Pet", object [("tag", single "$ref" "a.yaml#/types/Tag")]),
      ("Toy", object [("id", single "$ref" "/a.yaml::#/types/Id")])])])),
    (Path.ofString "/a.yaml", .ok (mapping [("types", mapping [
      ("Tag", object [("id", single "$ref" "#/types/Id")]),
      ("Id", object [("text", single "type" "string")])])]))]

def run : Except Failure Outcome × Session :=
  (declareDocument library tokens renderer (Path.ofString "/spec.yaml")).run {}

def workspace : Workspace where
  root := ⟨Path.ofString "/spec.yaml",
    (library.load (Path.ofString "/spec.yaml")).toOption.getD .null⟩
  library := library
  tokens := tokens
  renderer := renderer

/-- The reference to the missing file finds a type of another file under its key, and the run ends
well. -/
theorem missing_file_is_answered :
    (library.load (Path.ofString "/a.yaml::")).isOk = false ∧
    (workspace.schemaAt workspace.root "/a.yaml::#/types/Id").isOk = false ∧
    run.1.toOption.map (fun outcome => outcome.generation.types.keys) = some ["Pet", "Toy"] ∧
    run.2.loads.map Path.toString = ["/spec.yaml", "/a.yaml"] ∧
    (run.2.memo.entries.map fun (key, expansion) =>
      (key, expansion.target.document.path.toString, expansion.target.keys)) =
        [("/a.yaml::#/types/Id", "/a.yaml", ["types", "Id"]),
          ("a.yaml#/types/Tag", "/a.yaml", ["types", "Tag"])] := by
  decide +kernel

end KeyText

end Typewright
