import Typewright.Proofs.Execution
import Typewright.Proofs.NormalPath
import Typewright.Proofs.Partwise

/-!
Reading behind references. What a reference leads to is the same in every session whose documents
come from the library, and reading changes neither what is remembered nor what is open.
-/
namespace Typewright

def Session.IsLoaded (workspace : Workspace) (session : Session) : Prop :=
  ∀ document ∈ session.documents, (∃ path : Path, document.path = path.normalize) ∧
    workspace.library.load document.path = .ok document.body

structure Session.Reads (workspace : Workspace) (s t : Session) : Prop where
  loaded : t.IsLoaded workspace
  memo : t.memo = s.memo
  opened : t.opened = s.opened

theorem Session.reads_refl {workspace : Workspace} {s : Session} (loaded : s.IsLoaded workspace) :
    s.Reads workspace s := ⟨loaded, rfl, rfl⟩

theorem Session.reads_trans {workspace : Workspace} {s t u : Session}
    (first : s.Reads workspace t) (second : t.Reads workspace u) : s.Reads workspace u :=
  ⟨second.loaded, second.memo.trans first.memo, second.opened.trans first.opened⟩

namespace Resolve
variable {workspace : Workspace} {s t : Session}

theorem run_bind_ok {action : Resolve α} {next : α → Resolve β} {value : β} :
    (action >>= next).run s = (.ok value, t) ↔
      ∃ first u, action.run s = (.ok first, u) ∧ (next first).run u = (.ok value, t) := by
  rw [run_bind]
  rcases action.run s with ⟨failure | first, u⟩
  · constructor
    · exact fun same => absurd same nofun
    · rintro ⟨_, _, same, _⟩
      cases same
  · constructor
    · exact fun later => ⟨first, u, rfl, later⟩
    · rintro ⟨other, v, same, later⟩
      cases same
      exact later

/-- The action only reads, and its result is the same in all sessions. -/
def Steady (workspace : Workspace) (action : Resolve α) : Prop :=
  ∃ result, ∀ s : Session, s.IsLoaded workspace →
    ∃ t, action.run s = (result, t) ∧ s.Reads workspace t

theorem steady_ofExcept (result : Except Failure α) : Steady workspace (ofExcept result) :=
  ⟨result, fun s loaded => ⟨s, rfl, Session.reads_refl loaded⟩⟩

theorem steady_bind {action : Resolve α} {next : α → Resolve β}
    (first : Steady workspace action) (second : ∀ value, Steady workspace (next value)) :
    Steady workspace (action >>= next) := by
  obtain ⟨result, runs⟩ := first
  cases result with
  | error failure =>
    refine ⟨.error failure, fun s loaded => ?_⟩
    obtain ⟨t, run, reads⟩ := runs s loaded
    exact ⟨t, by rw [run_bind, run], reads⟩
  | ok value =>
    obtain ⟨result, later⟩ := second value
    refine ⟨result, fun s loaded => ?_⟩
    obtain ⟨t, run, reads⟩ := runs s loaded
    obtain ⟨u, last, after⟩ := later t reads.loaded
    exact ⟨u, by rw [run_bind, run]; exact last, Session.reads_trans reads after⟩

theorem steady_partwise (workspace : Workspace) : Partwise (Steady workspace) :=
  ⟨steady_ofExcept, steady_bind⟩

def found (action : Resolve α) : Except Failure α := (action.run {}).1

theorem empty_loaded : ({} : Session).IsLoaded workspace := by simp [Session.IsLoaded]

theorem run_of_steady {action : Resolve α} (steady : Steady workspace action)
    (loaded : s.IsLoaded workspace) :
    ∃ t, action.run s = (action.found, t) ∧ s.Reads workspace t := by
  obtain ⟨result, runs⟩ := steady
  obtain ⟨t, run, _⟩ := runs {} empty_loaded
  have same : action.found = result := by simp [found, run]
  rw [same]
  exact runs s loaded

theorem found_of_run {action : Resolve α} {result : Except Failure α}
    (steady : Steady workspace action) (loaded : s.IsLoaded workspace)
    (run : action.run s = (result, t)) : result = action.found ∧ s.Reads workspace t := by
  obtain ⟨u, again, reads⟩ := run_of_steady steady loaded
  cases run.symm.trans again
  exact ⟨rfl, reads⟩

end Resolve

namespace Workspace
open Resolve
variable {workspace : Workspace} {scope : Document} {reference : String} {s t : Session}

def fetch (workspace : Workspace) (path : Path) : Except Failure Document :=
  if path.same workspace.root.path then .ok workspace.root
  else (workspace.library.load path).map fun body => ⟨path, body⟩

/-- The root and the documents that are fetched. -/
def Serves (workspace : Workspace) (document : Document) : Prop :=
  document = workspace.root ∨ ∃ path : Path, workspace.fetch path.normalize = .ok document

theorem fetch_ok {path : Path} {document : Document}
    (fetched : workspace.fetch path = .ok document) :
    document = workspace.root ∨
      document.path = path ∧ workspace.library.load path = .ok document.body := by
  unfold fetch at fetched
  split at fetched
  · cases fetched
    exact .inl rfl
  · cases loaded : workspace.library.load path with
    | error failure => simp [loaded, Except.map] at fetched
    | ok body =>
      simp only [loaded, Except.map, Except.ok.injEq] at fetched
      subst fetched
      exact .inr ⟨rfl, rfl⟩

theorem fetch_of_serves {document : Document} (served : workspace.Serves document) :
    workspace.fetch document.path = .ok document := by
  rcases served with rfl | ⟨path, fetched⟩
  · simp [fetch, Path.same]
  · rcases fetch_ok fetched with rfl | ⟨named, _⟩
    · simp [fetch, Path.same]
    · rw [named]
      exact fetched

theorem serves_unique {a b : Document} (first : workspace.Serves a) (second : workspace.Serves b)
    (same : a.path = b.path) : a = b := by
  have fetched := fetch_of_serves first
  rw [same, fetch_of_serves second] at fetched
  cases fetched
  rfl

theorem document_run (path : Path) (loaded : s.IsLoaded workspace) :
    ∃ t, (workspace.document path.normalize).run s = (workspace.fetch path.normalize, t) ∧
      s.Reads workspace t := by
  unfold document fetch
  by_cases atRoot : path.normalize.same workspace.root.path
  · exact ⟨s, by simp [atRoot], Session.reads_refl loaded⟩
  · simp only [atRoot, Bool.false_eq_true, ↓reduceIte, run_bind, run_get]
    cases known : s.documents.find? fun document => document.path.same path.normalize with
    | some document =>
      obtain ⟨⟨other, normal⟩, body⟩ := loaded document (List.mem_of_find?_eq_some known)
      have same : document.path = path.normalize := by
        rw [normal]
        exact Path.normalize_same (by simpa [normal] using List.find?_some known)
      rw [same] at body
      refine ⟨s, ?_, Session.reads_refl loaded⟩
      simp only [run_pure, body, Except.map]
      rw [← same]
    | none =>
      simp only [run_bind, run_record, run_ofExcept]
      cases read : workspace.library.load path.normalize with
      | error failure => exact ⟨_, rfl, loaded, rfl, rfl⟩
      | ok body =>
        refine ⟨_, rfl, ?_, rfl, rfl⟩
        intro document member
        rcases List.mem_append.mp member with old | new
        · exact loaded document old
        · rw [List.mem_singleton.mp new]
          exact ⟨⟨path, rfl⟩, read⟩

theorem steady_document (path : Path) :
    Steady workspace (workspace.document path.normalize) :=
  ⟨workspace.fetch path.normalize, fun _ loaded => document_run path loaded⟩

/-- The target of a reference and the schema there. -/
def schemaAt (workspace : Workspace) (scope : Document) (reference : String) :
    Except Failure (Target × Schema) :=
  (workspace.readSchema scope reference).found

def groupAt (workspace : Workspace) (scope : Document) (reference : String) :
    Except Failure (Target × TypeMap) :=
  (workspace.readGroup scope reference).found

theorem readSchema_run (scope : Document) (reference : String) (loaded : s.IsLoaded workspace) :
    ∃ t, (workspace.readSchema scope reference).run s = (workspace.schemaAt scope reference, t) ∧
      s.Reads workspace t :=
  run_of_steady ((steady_partwise workspace).readSchema steady_document) loaded

theorem readGroup_run (scope : Document) (reference : String) (loaded : s.IsLoaded workspace) :
    ∃ t, (workspace.readGroup scope reference).run s = (workspace.groupAt scope reference, t) ∧
      s.Reads workspace t :=
  run_of_steady ((steady_partwise workspace).readGroup steady_document) loaded

theorem readSchema_reads {result : Except Failure (Target × Schema)}
    (loaded : s.IsLoaded workspace)
    (read : (workspace.readSchema scope reference).run s = (result, t)) :
    result = workspace.schemaAt scope reference ∧ s.Reads workspace t :=
  found_of_run ((steady_partwise workspace).readSchema steady_document) loaded read

theorem readGroup_reads {result : Except Failure (Target × TypeMap)}
    (loaded : s.IsLoaded workspace)
    (read : (workspace.readGroup scope reference).run s = (result, t)) :
    result = workspace.groupAt scope reference ∧ s.Reads workspace t :=
  found_of_run ((steady_partwise workspace).readGroup steady_document) loaded read

structure LeadsTo (workspace : Workspace) (scope : Document) (target : Target)
    (value : Yaml.Value) : Prop where
  document : target.document = scope ∨ workspace.Serves target.document
  name : target.keys.getLast? = some target.name
  isRemote : target.isRemote = !workspace.isRoot target.document
  read : ∃ reference, Reference.read reference target.keys target.document.body = .ok value

theorem document_serves {path : Path} {document : Document}
    (run : (workspace.document path.normalize).run s = (.ok document, t))
    (loaded : s.IsLoaded workspace) : workspace.Serves document := by
  obtain ⟨u, other, _⟩ := document_run path loaded
  exact .inr ⟨path, congrArg Prod.fst (other.symm.trans run)⟩

theorem place_leads {document : Document} {pointer : String} (loaded : s.IsLoaded workspace)
    (run : (workspace.place scope reference).run s = (.ok (document, pointer), t)) :
    document = scope ∨ workspace.Serves document := by
  unfold place at run
  split at run
  · cases run
  · cases run
    exact .inl rfl
  · split at run
    · cases run
    · obtain ⟨other, u, fetched, same⟩ := run_bind_ok.mp run
      cases same
      exact .inr (document_serves fetched loaded)

theorem locate_target {target : Target}
    (run : (workspace.locate scope reference).run s = (.ok target, t)) :
    ∃ pointer, (workspace.place scope reference).run s = (.ok (target.document, pointer), t) ∧
      target.keys = Reference.keys pointer ∧ target.keys.getLast? = some target.name ∧
      target.isRemote = !workspace.isRoot target.document := by
  obtain ⟨⟨document, pointer⟩, u, placed, rest⟩ := run_bind_ok.mp run
  dsimp only at rest
  split at rest
  · cases rest
  · next name last =>
    cases rest
    exact ⟨pointer, placed, rfl, last, rfl⟩

theorem locate_leads {target : Target} (loaded : s.IsLoaded workspace)
    (run : (workspace.locate scope reference).run s = (.ok target, t)) :
    (target.document = scope ∨ workspace.Serves target.document) ∧
      target.keys.getLast? = some target.name ∧
      target.isRemote = !workspace.isRoot target.document := by
  obtain ⟨pointer, placed, _, name, isRemote⟩ := locate_target run
  exact ⟨place_leads loaded placed, name, isRemote⟩

theorem readTarget_leads {target : Target} {value : Yaml.Value} (loaded : s.IsLoaded workspace)
    (run : (workspace.readTarget scope reference).run s = (.ok (target, value), t)) :
    workspace.LeadsTo scope target value := by
  obtain ⟨found, u, located, rest⟩ := run_bind_ok.mp run
  obtain ⟨value, v, read, same⟩ := run_bind_ok.mp rest
  cases same
  obtain ⟨document, name, isRemote⟩ := locate_leads loaded located
  exact ⟨document, name, isRemote, reference, congrArg Prod.fst read⟩

theorem decoded_leads {decode : String → Yaml.Value → Except Failure α} {target : Target}
    {result : α}
    (found : (do
      let (target, value) ← workspace.readTarget scope reference
      return (target, ← Resolve.ofExcept (decode target.name value))).found = .ok (target, result)) :
    ∃ value, workspace.LeadsTo scope target value ∧ decode target.name value = .ok result := by
  obtain ⟨⟨other, value⟩, u, read, rest⟩ := run_bind_ok.mp (Prod.ext found rfl)
  obtain ⟨decoded, v, decodes, same⟩ := run_bind_ok.mp rest
  cases same
  exact ⟨value, readTarget_leads empty_loaded read, congrArg Prod.fst decodes⟩

theorem schemaAt_leads {target : Target} {schema : Schema}
    (found : workspace.schemaAt scope reference = .ok (target, schema)) :
    ∃ value, workspace.LeadsTo scope target value ∧
      Schema.decodeNamed target.name value = .ok schema := decoded_leads found

theorem groupAt_leads {target : Target} {types : TypeMap}
    (found : workspace.groupAt scope reference = .ok (target, types)) :
    ∃ value, workspace.LeadsTo scope target value ∧
      TypeMap.decode target.name value = .ok types := decoded_leads found

end Workspace

end Typewright
