import Typewright.Proofs.ContainedValues
import Typewright.Proofs.Locating
import Typewright.Proofs.Transparency

/-!
References are scoped by the text that they are written in. Whatever led to a node, the references
in it are looked up from the document that holds it, and groups are looked up from the root.
-/
namespace Typewright

/-! One node -/

namespace Walk

def Stays (scope : Document) (written : List String) : Walk α → Prop
  | .done _ => True
  | .failed _ => True
  | .noting _ rest => rest.Stays scope written
  | .asking origin reference rest =>
    (origin = scope ∧ reference ∈ written) ∧ ∀ answer, (rest answer).Stays scope written
  | .grouping .. => False

def Wants : Walk α → Prop
  | .asking .. => True
  | .grouping .. => True
  | _ => False

end Walk

namespace Workspace
variable {workspace : Workspace} {scope : Document} {written : List String} {s t u : Session}

theorem stays_bind {walk : Walk α} {next : α → Walk β} (first : walk.Stays scope written)
    (later : ∀ value, (next value).Stays scope written) : (walk >>= next).Stays scope written := by
  induction walk with
  | done value => exact later value
  | failed failure => trivial
  | noting event rest ih => exact ih first
  | asking origin reference rest ih => exact ⟨first.1, fun answer => ih answer (first.2 answer)⟩
  | grouping origin reference rest ih => exact first.elim

theorem stays_ofExcept (result : Except Failure α) :
    (Walk.ofExcept result).Stays scope written := by
  cases result <;> trivial

theorem stays_render (kind : DeclarationKind) (name : String) (text : Except Failure String) :
    (render kind name text).Stays scope written :=
  stays_ofExcept text

theorem stays_partwise (scope : Document) (written : List String) :
    Walk.Partwise (Walk.Stays scope written) :=
  ⟨stays_ofExcept, stays_render, stays_bind⟩

theorem declare_stays (scope : Document) (name : String) (schema : Schema) :
    (workspace.declare scope name schema).Stays scope schema.references :=
  (stays_partwise scope schema.references).declareUnder fun _ written =>
    ⟨⟨rfl, written⟩, fun _ => trivial⟩

theorem follows_stays {walk left : Walk α} {calls : List Call}
    (follows : workspace.Follows walk s calls left t) (stays : walk.Stays scope written) :
    left.Stays scope written := by
  induction follows with
  | here walk s => exact stays
  | noting later ih => exact ih stays
  | grouping read later ih => exact stays.elim
  | asking answers later ih => exact ih (stays.2 _)

/-! Parts of walks -/

/-- On its way from `s` to what is `left` of it in `t` the walk has come to this part, and the part
is asking for something. -/
def UnderWay (workspace : Workspace) (start : Walk α) (s : Session) (part : Walk β) (left : Walk α)
    (t : Session) : Prop :=
  ∃ before calls u inner next, workspace.Follows start s before (part >>= next) u ∧
    workspace.Follows part u calls inner t ∧ inner.Wants ∧ left = inner >>= next

theorem underWay_later {walk middle left : Walk α} {part : Walk β} {calls : List Call}
    (before : workspace.Follows walk s calls middle u)
    (underWay : workspace.UnderWay middle u part left t) :
    workspace.UnderWay walk s part left t := by
  obtain ⟨first, own, v, inner, next, reaches, follows, wants, same⟩ := underWay
  exact ⟨_, own, v, inner, next, follows_trans before reaches, follows, wants, same⟩

theorem underWay_first {walk left : Walk α} {part : Walk β} (next : α → Walk γ)
    (underWay : workspace.UnderWay walk s part left t) :
    workspace.UnderWay (walk >>= next) s part (left >>= next) t := by
  obtain ⟨first, own, v, inner, onward, reaches, follows, wants, rfl⟩ := underWay
  refine ⟨first, own, v, inner, fun value => onward value >>= next, ?_, follows, wants, ?_⟩
  · rw [← Walk.bind_assoc]
    exact follows_bind reaches
  · rw [Walk.bind_assoc]

theorem underWay_inside {walk : Walk α} {part inner : Walk β} {sub : Walk γ} {next : β → Walk α}
    {calls : List Call} (reaches : workspace.Follows walk s calls (part >>= next) u)
    (inside : workspace.UnderWay part u sub inner t) :
    workspace.UnderWay walk s sub (inner >>= next) t :=
  underWay_later reaches (underWay_first next inside)

theorem follows_part {walk : Walk α} {next : α → Walk β} {left : Walk β} {calls : List Call}
    (follows : workspace.Follows (walk >>= next) s calls left t) (wants : left.Wants) :
    workspace.UnderWay (walk >>= next) s walk left t ∨
      ∃ value first second u, workspace.Follows walk s first (.done value) u ∧
        workspace.Follows (next value) u second left t := by
  suffices (∃ inner, workspace.Follows walk s calls inner t ∧ inner.Wants ∧
      left = inner >>= next) ∨ ∃ value first second u,
        workspace.Follows walk s first (.done value) u ∧
        workspace.Follows (next value) u second left t by
    rcases this with ⟨inner, own, wanting, same⟩ | later
    · exact .inl ⟨[], calls, s, inner, next, .here _ s, own, wanting, same⟩
    · exact .inr later
  induction walk generalizing s calls with
  | done value => exact .inr ⟨value, [], calls, s, .here _ s, follows⟩
  | failed failure =>
    cases follows
    exact wants.elim
  | noting event rest ih =>
    cases follows with
    | here => exact wants.elim
    | noting later =>
      rcases ih later with ⟨inner, own, rest⟩ | ⟨value, first, second, u, own, rest⟩
      · exact .inl ⟨inner, .noting own, rest⟩
      · exact .inr ⟨value, first, second, u, .noting own, rest⟩
  | asking scope reference rest ih =>
    cases follows with
    | here => exact .inl ⟨.asking scope reference rest, .here _ _, trivial, rfl⟩
    | asking answers later =>
      rcases ih _ later with ⟨inner, own, rest⟩ | ⟨value, first, second, u, own, rest⟩
      · exact .inl ⟨inner, .asking answers own, rest⟩
      · exact .inr ⟨value, _ :: first, second, u, .asking answers own, rest⟩
  | grouping scope reference rest ih =>
    cases follows with
    | here => exact .inl ⟨.grouping scope reference rest, .here _ _, trivial, rfl⟩
    | grouping read later =>
      rcases ih _ later with ⟨inner, own, rest⟩ | ⟨value, first, second, u, own, rest⟩
      · exact .inl ⟨inner, .grouping read own, rest⟩
      · exact .inr ⟨value, first, second, u, .grouping read own, rest⟩

/-! Listed nodes -/

end Workspace

def Spec.Includes (spec : Spec) (group : Group) : Prop :=
  (∃ types, spec.types = some types ∧ group = .types types) ∨
    ∃ groups title, spec.groups = some groups ∧ (title, group) ∈ groups.entries

namespace Workspace
variable {workspace : Workspace} {scope : Document} {reference : String} {s t u v : Session}
variable {spec : Spec} {left : Walk α}

theorem declareEntries_underWay {entries : List (String × Yaml.Value)} {before : Declarations}
    {left : Walk Declarations} {calls : List Call}
    (follows : workspace.Follows (workspace.declareEntries scope entries before) s calls left t)
    (wants : left.Wants) :
    ∃ name value schema, (name, value) ∈ entries ∧
      Schema.decodeNamed name value = .ok schema ∧
      workspace.UnderWay (workspace.declareEntries scope entries before) s
        (workspace.declare scope name schema) left t := by
  induction entries generalizing before s calls with
  | nil =>
    cases follows
    exact wants.elim
  | cons entry rest ih =>
    obtain ⟨name, value⟩ := entry
    cases decoded : Schema.decodeNamed name value with
    | error failure =>
      simp only [declareEntries, decoded] at follows
      cases follows
      exact wants.elim
    | ok schema =>
      rw [declareEntries_decoded decoded] at follows ⊢
      rcases follows_part follows wants with own | ⟨made, first, second, u, own, later⟩
      · exact ⟨name, value, schema, List.mem_cons_self, decoded, own⟩
      · obtain ⟨other, body, node, member, read, inRest⟩ := ih later
        exact ⟨other, body, node, List.mem_cons_of_mem _ member, read,
          underWay_later (follows_bind own) inRest⟩

theorem listGroup_underWay (loaded : s.IsLoaded workspace) {group : Group}
    {left : Walk Declarations} {calls : List Call}
    (follows : workspace.Follows (workspace.listGroup group) s calls left t)
    (wants : left.Wants) :
    (∃ reference rest, group = .reference reference ∧
      left = .grouping workspace.root reference rest) ∨
    ∃ origin types name value schema, workspace.Stands origin types group ∧
      (name, value) ∈ types.entries ∧ Schema.decodeNamed name value = .ok schema ∧
      workspace.UnderWay (workspace.listGroup group) s (workspace.declare origin name schema) left
        t := by
  cases group with
  | types types =>
    obtain ⟨name, value, schema, member, decoded, own⟩ := declareEntries_underWay follows wants
    exact .inr ⟨workspace.root, types, name, value, schema, ⟨rfl, rfl⟩, member, decoded, own⟩
  | reference reference =>
    cases follows with
    | here => exact .inl ⟨reference, _, rfl, rfl⟩
    | @grouping _ _ _ _ _ _ _ _ found read later =>
      obtain ⟨name, value, schema, member, decoded, own⟩ := declareEntries_underWay later wants
      have stands : workspace.groupAt workspace.root reference = .ok found :=
        (readGroup_reads loaded read).1.symm
      exact .inr ⟨found.1.document, found.2, name, value, schema, ⟨found.1, stands, rfl⟩, member,
        decoded, underWay_later (.grouping read (.here _ _)) own⟩

theorem listGroups_underWay {groups : List (String × Group)} {before : Table Declarations}
    {left : Walk (Table Declarations)} {calls : List Call}
    (follows : workspace.Follows (workspace.listGroups groups before) s calls left t)
    (wants : left.Wants) :
    ∃ title group, (title, group) ∈ groups ∧
      workspace.UnderWay (workspace.listGroups groups before) s (workspace.listGroup group) left
        t := by
  induction groups generalizing before s calls with
  | nil =>
    cases follows
    exact wants.elim
  | cons entry rest ih =>
    rcases follows_part follows wants with own | ⟨made, first, second, u, own, later⟩
    · exact ⟨entry.1, entry.2, List.mem_cons_self, own⟩
    · obtain ⟨title, group, member, inRest⟩ := ih later
      exact ⟨title, group, List.mem_cons_of_mem _ member,
        underWay_later (follows_bind own) inRest⟩

theorem listAll_underWay {left : Walk Generation} {calls : List Call}
    (follows : workspace.Follows (workspace.listAll spec) s calls left t) (wants : left.Wants) :
    ∃ group, spec.Includes group ∧
      workspace.UnderWay (workspace.listAll spec) s (workspace.listGroup group) left t := by
  rcases follows_part follows wants with types | ⟨made, first, second, u, own, later⟩
  · cases isTypes : spec.types with
    | none =>
      obtain ⟨_, _, _, _, _, _, ends, wanting, _⟩ := types
      rw [isTypes] at ends
      cases ends
      exact wanting.elim
    | some map =>
      rw [isTypes] at types
      have whole : workspace.UnderWay (workspace.listAll spec) s
          (workspace.listTypes workspace.root map) left t := by
        rw [listAll, isTypes]
        exact types
      exact ⟨.types map, .inl ⟨map, isTypes, rfl⟩, whole⟩
  · rcases follows_part later wants with groups | ⟨_, _, last, v, _, done⟩
    · cases isGroups : spec.groups with
      | none =>
        obtain ⟨_, _, _, _, _, _, ends, wanting, _⟩ := groups
        rw [isGroups] at ends
        cases ends
        exact wanting.elim
      | some table =>
        rw [isGroups] at groups
        obtain ⟨before, calls, w, inner, next, reaches, follows, wanting, same⟩ := groups
        obtain ⟨title, group, member, inGroup⟩ := listGroups_underWay follows wanting
        refine ⟨group, .inr ⟨table, title, isGroups, member⟩, ?_⟩
        refine underWay_later (follows_bind own) ?_
        rw [isGroups, same]
        exact underWay_inside reaches inGroup
    · cases done
      exact wants.elim

/-- At this moment a run over a spec declares `schema`, the node `value` of the document `scope`.
The node is listed in a group of the spec, or it is what the innermost open reference leads to. -/
inductive DeclaresNode (workspace : Workspace) (spec : Spec) (s : Session) :
    List (Document × String) → {α : Type} → Walk α → Session → Document → Yaml.Value → Schema →
    Prop where
  | listed {group : Group} {scope : Document} {types : TypeMap} {name : String}
    {value : Yaml.Value} {schema : Schema} {left : Walk Generation} {t : Session}
    (includes : spec.Includes group)
    (listing : workspace.UnderWay (workspace.listAll spec) s (workspace.listGroup group) left t)
    (stands : workspace.Stands scope types group) (entry : (name, value) ∈ types.entries)
    (decoded : Schema.decodeNamed name value = .ok schema)
    (declaring : workspace.UnderWay (workspace.listAll spec) s
      (workspace.declare scope name schema) left t) :
    DeclaresNode workspace spec s [] left t scope value schema
  | behind {α : Type} {chain : List (Document × String)} {origin : Document} {reference : String}
    {rest : Declaration → Walk α} {t u v : Session} {target : Target} {value : Yaml.Value}
    {schema : Schema} {calls : List Call} {left : Walk Declaration}
    (around : workspace.Moment (workspace.listAll spec) s chain (.asking origin reference rest) t)
    (enters : workspace.Enters origin reference t target schema u)
    (leads : workspace.LeadsTo origin target value)
    (decoded : Schema.decodeNamed target.name value = .ok schema)
    (declaring : workspace.Follows (workspace.declare target.document target.name schema)
      (workspace.inside origin reference target u) calls left v) :
    DeclaresNode workspace spec s ((origin, reference) :: chain) left v target.document value
      schema

/-! Scopes -/

theorem declare_asks {start : Walk α} {origin : Document} {name : String} {schema : Schema}
    {rest : Declaration → Walk α}
    (declaring : workspace.UnderWay start s (workspace.declare origin name schema)
      (.asking scope reference rest) t) : scope = origin ∧ reference ∈ schema.references := by
  obtain ⟨_, _, _, inner, _, _, follows, wants, same⟩ := declaring
  have stays := follows_stays follows (declare_stays origin name schema)
  cases inner with
  | asking =>
    cases same
    exact stays.1
  | grouping => exact stays.elim
  | _ => exact wants.elim

theorem declare_groups_nothing {start : Walk α} {origin : Document} {name : String}
    {schema : Schema} {rest : Target × TypeMap → Walk α} :
    ¬workspace.UnderWay start s (workspace.declare origin name schema)
      (.grouping scope reference rest) t := by
  rintro ⟨_, _, _, inner, _, _, follows, wants, same⟩
  have stays := follows_stays follows (declare_stays origin name schema)
  cases inner with
  | asking => cases same
  | grouping => exact stays.elim
  | _ => exact wants.elim

theorem moment_serves (loaded : s.IsLoaded workspace) (closed : s.opened = [])
    {chain : List (Document × String)} {rest : Declaration → Walk α}
    (moment : workspace.Moment (workspace.listAll spec) s chain (.asking scope reference rest) t) :
    workspace.Serves scope := by
  have covering : workspace.Covering workspace.Serves ((Request.all spec).reach workspace) :=
    covering_served workspace _
  exact (moment_chained covering loaded closed (all_asks covering) moment).asks.1.2

theorem moment_declares (loaded : s.IsLoaded workspace) {chain : List (Document × String)}
    {rest : Declaration → Walk α}
    (moment : workspace.Moment (workspace.listAll spec) s chain (.asking scope reference rest) t) :
    ∃ value schema,
      workspace.DeclaresNode spec s chain (.asking scope reference rest) t scope value schema ∧
        reference ∈ schema.references := by
  cases moment with
  | outer follows =>
    obtain ⟨group, includes, listing⟩ := listAll_underWay follows trivial
    obtain ⟨before, calls, u, inner, next, reaches, own, wants, same⟩ := listing
    have inGroup := (listGroup_underWay (follows_loaded reaches loaded) own wants)
    rcases inGroup with ⟨_, _, _, rfl⟩ | ⟨origin, types, name, value, schema, stands, entry,
      decoded, node⟩
    · cases same
    · have declaring : workspace.UnderWay (workspace.listAll spec) s
          (workspace.declare origin name schema) (.asking scope reference rest) t := by
        rw [same]
        exact underWay_inside reaches node
      obtain ⟨rfl, written⟩ := declare_asks declaring
      exact ⟨value, schema, .listed includes ⟨before, calls, u, inner, next, reaches, own, wants,
        same⟩ stands entry decoded declaring, written⟩
  | inner around enters follows =>
    obtain ⟨found, _⟩ := readSchema_reads (moment_loaded around loaded) enters.read
    obtain ⟨value, leads, decoded⟩ := schemaAt_leads found.symm
    obtain ⟨⟨rfl, written⟩, _⟩ := follows_stays follows (declare_stays _ _ _)
    exact ⟨value, _, .behind around enters leads decoded follows, written⟩

theorem moment_groups (loaded : s.IsLoaded workspace) {chain : List (Document × String)}
    {rest : Target × TypeMap → Walk α}
    (moment : workspace.Moment (workspace.listAll spec) s chain (.grouping scope reference rest)
      t) : scope = workspace.root ∧ spec.Includes (.reference reference) := by
  cases moment with
  | outer follows =>
    obtain ⟨group, includes, listing⟩ := listAll_underWay follows trivial
    obtain ⟨before, calls, u, inner, next, reaches, own, wants, same⟩ := listing
    have inGroup := listGroup_underWay (follows_loaded reaches loaded) own wants
    rcases inGroup with ⟨other, onward, rfl, rfl⟩ | ⟨origin, types, name, value, schema, _, _,
      _, node⟩
    · cases same
      exact ⟨rfl, includes⟩
    · have declaring : workspace.UnderWay (workspace.listAll spec) s
          (workspace.declare origin name schema) (.grouping scope reference rest) t := by
        rw [same]
        exact underWay_inside reaches node
      exact (declare_groups_nothing declaring).elim
  | inner around enters follows => exact (follows_stays follows (declare_stays _ _ _)).elim

theorem declaresNode_contains (decoded : Spec.decode workspace.root.body = .ok spec)
    {chain : List (Document × String)} {left : Walk α} {value : Yaml.Value} {schema : Schema}
    (declares : workspace.DeclaresNode spec s chain left t scope value schema) :
    scope.body.Contains value := by
  cases declares with
  | @listed group _ types name _ _ _ _ includes _ stands entry _ _ =>
    cases group with
    | types listed =>
      obtain ⟨rfl, rfl⟩ := stands
      rcases includes with ⟨map, isTypes, same⟩ | ⟨groups, title, isGroups, member⟩
      · cases same
        obtain ⟨body, inside, read⟩ := Spec.decode_types decoded isTypes
        exact Yaml.Value.contains_trans inside (TypeMap.decode_contains read entry)
      · obtain ⟨body, inside, read⟩ := Spec.decode_groups decoded isGroups member
        exact Yaml.Value.contains_trans inside
          (TypeMap.decode_contains (Group.decode_types read) entry)
    | reference reference =>
      obtain ⟨target, found, rfl⟩ := stands
      obtain ⟨body, leads, read⟩ := groupAt_leads found
      obtain ⟨_, reads⟩ := leads.read
      exact Yaml.Value.contains_trans (Reference.read_contains reads)
        (TypeMap.decode_contains read entry)
  | behind _ _ leads _ _ =>
    obtain ⟨_, reads⟩ := leads.read
    exact Reference.read_contains reads

theorem includes_reference (decoded : Spec.decode workspace.root.body = .ok spec)
    (includes : spec.Includes (.reference reference)) :
    ∃ value, workspace.root.body.Contains value ∧ Group.reference? value = some reference := by
  rcases includes with ⟨types, _, same⟩ | ⟨groups, title, isGroups, member⟩
  · cases same
  · obtain ⟨body, inside, read⟩ := Spec.decode_groups decoded isGroups member
    exact ⟨body, inside, Group.decode_reference read⟩

/-- In a run over a spec from `s` every reference is looked up from the document that it is written
in, and leads to where its text says. -/
structure ScopesLexically (workspace : Workspace) (spec : Spec) (s : Session) : Prop where
  /-- What is asked for at any moment is a reference of the node that is being declared then, and
  the node stands in the document from which the reference is looked up. -/
  asked : ∀ {α : Type} (chain : List (Document × String)) (scope : Document) (reference : String)
    (rest : Declaration → Walk α) (t : Session),
    workspace.Moment (workspace.listAll spec) s chain (.asking scope reference rest) t →
    workspace.Serves scope ∧ ∃ value schema,
      workspace.DeclaresNode spec s chain (.asking scope reference rest) t scope value schema ∧
        scope.body.Contains value ∧ reference ∈ schema.references
  grouped : ∀ {α : Type} (chain : List (Document × String)) (scope : Document)
    (reference : String) (rest : Target × TypeMap → Walk α) (t : Session),
    workspace.Moment (workspace.listAll spec) s chain (.grouping scope reference rest) t →
    scope = workspace.root ∧ spec.Includes (.reference reference) ∧
      ∃ value, workspace.root.body.Contains value ∧ Group.reference? value = some reference
  located : ∀ {α : Type} (chain : List (Document × String)) (walk : Walk α) (t : Session),
    workspace.Moment (workspace.listAll spec) s chain walk t →
    ∀ scope reference target u, workspace.Serves scope →
      (workspace.locate scope reference).run t = (.ok target, u) →
      workspace.Locates scope reference t target u
  alike : ∀ {α : Type} (chain : List (Document × String)) (walk : Walk α) (t : Session),
    workspace.Moment (workspace.listAll spec) s chain walk t →
    ∀ a q b r, SpellAlike a q b r → ∀ target u,
      (workspace.locate a q).run t = (.ok target, u) →
      ∀ v : Session, v.IsLoaded workspace → (∀ document ∈ u.documents, document ∈ v.documents) →
        (workspace.locate b r).run v = (.ok target, v)

theorem listAll_scopes (normal : ∃ p : Path, workspace.root.path = p.normalize)
    (decoded : Spec.decode workspace.root.body = .ok spec) (loaded : s.IsLoaded workspace)
    (closed : s.opened = []) : workspace.ScopesLexically spec s where
  asked chain scope reference rest t moment := by
    obtain ⟨value, schema, declares, written⟩ := moment_declares loaded moment
    exact ⟨moment_serves loaded closed moment, value, schema, declares,
      declaresNode_contains decoded declares, written⟩
  grouped chain scope reference rest t moment := by
    obtain ⟨atRoot, includes⟩ := moment_groups loaded moment
    exact ⟨atRoot, includes, includes_reference decoded includes⟩
  located chain walk t moment scope reference target u served run :=
    locate_locates normal (moment_loaded moment loaded) served run
  alike chain walk t moment a q b r alike target u run v later kept :=
    locate_alike alike (moment_loaded moment loaded) run later kept

end Workspace

/-- In every run over a document, whether it ends well or not, references are scoped by the text
that they are written in, and no path is loaded twice. -/
theorem references_scoped_lexically {library : Library} {tokens : TokenTable}
    {renderer : Renderer} {directory input : Path} {body : Yaml.Value} {spec : Spec}
    (loaded : library.load (rootPath directory input) = .ok body)
    (decoded : Spec.decode body = .ok spec) :
    let path := rootPath directory input
    let workspace : Workspace := ⟨⟨path, body⟩, library, tokens, renderer⟩
    ∃ r t, workspace.Runs (workspace.listAll spec) { trace := [.load path] } r t ∧
      (declareDocument library tokens renderer path).run {} =
        (r.map fun listed => ⟨spec, listed.surfacing t.memo⟩, t) ∧
      workspace.ScopesLexically spec { trace := [.load path] } ∧ LoadsOnce path t.loads := by
  intro path workspace
  have empty : ({ trace := [.load path] } : Session).IsLoaded workspace := by
    simp [Session.IsLoaded]
  obtain ⟨r, t, run, same⟩ := Workspace.declareAll_runs spec empty
  have whole : (declareDocument library tokens renderer path).run {} =
      (r.map fun listed => ⟨spec, listed.surfacing t.memo⟩, t) := by
    simp only [declareDocument, Start.load, Resolve.run_bind, Resolve.run_record,
      Resolve.run_ofExcept, path, loaded, decoded, Resolve.run_pure]
    rw [same]
    cases r <;> rfl
  have once := declareDocument_loadsOnce library tokens renderer directory input
  rw [whole] at once
  exact ⟨r, t, run, whole,
    Workspace.listAll_scopes ⟨directory.join input, rfl⟩ decoded empty rfl, once⟩

namespace TwoSpellings
open SameName (mapping single object info renderer tokens)

/-! Two documents that refer to each other; one of them spells the other in two ways. -/

def library : Library where
  documents := [
    (Path.ofString "/api/spec.yaml", .ok (mapping [info, ("types", mapping [
      ("Pet", object [("owner", single "$ref" "types/../types/owner.yaml#/types/Owner"),
        ("id", single "$ref" "./types/owner.yaml#/types/Id")])])])),
    (Path.ofString "/api/types/owner.yaml", .ok (mapping [("types", mapping [
      ("Owner", object [("pet", single "$ref" "../spec.yaml#/types/Pet"),
        ("id", single "$ref" "#/types/Id")]),
      ("Id", object [])])]))]

def path : Path := rootPath (Path.ofString "/api") (Path.ofString "spec.yaml")

def ending : Session := ((declareDocument library tokens renderer path).run {}).2

theorem spellings_scoped :
    (∃ body spec, library.load path = .ok body ∧ Spec.decode body = .ok spec ∧
      Workspace.ScopesLexically ⟨⟨path, body⟩, library, tokens, renderer⟩ spec
        { trace := [.load path] }) ∧
    ending.loads.map Path.toString = ["/api/spec.yaml", "/api/types/owner.yaml"] ∧
    (ending.memo.entries.map fun (key, expansion) =>
      (key, expansion.target.document.path.toString, expansion.target.isRemote)) = [
        ("./types/owner.yaml#/types/Id", "/api/types/owner.yaml", true),
        ("/api/types/owner.yaml::../spec.yaml#/types/Pet", "/api/spec.yaml", false),
        ("/api/types/owner.yaml::#/types/Id", "/api/types/owner.yaml", true),
        ("types/../types/owner.yaml#/types/Owner", "/api/types/owner.yaml", true)] := by
  refine ⟨?_, by decide +kernel, by decide +kernel⟩
  have reads : ((library.load path).bind Spec.decode).isOk = true := by decide +kernel
  cases loaded : library.load path with
  | error failure =>
    rw [loaded] at reads
    cases reads
  | ok body =>
    cases decoded : Spec.decode body with
    | error failure =>
      rw [loaded, Except.bind, decoded] at reads
      cases reads
    | ok spec =>
      obtain ⟨_, _, _, _, scopes, _⟩ :=
        @references_scoped_lexically library tokens renderer _ _ body spec loaded decoded
      exact ⟨body, spec, rfl, decoded, scopes⟩

end TwoSpellings

end Typewright
