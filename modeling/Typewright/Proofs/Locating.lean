import Typewright.Proofs.Loading

/-!
Where references lead. A reference inside its document leads to a place in that document and loads
nothing. One to a file leads to the document at the normalised path of the file, seen from the
directory of the document that it is written in, and all spellings of that path lead to the same
place.
-/
namespace Typewright.Workspace
open Resolve
variable {workspace : Workspace} {scope : Document} {reference : String} {s t u : Session}

def pathFrom (scope : Document) (file : String) : Path :=
  (scope.directory.join (Path.ofString file)).normalize

/-- Locating the reference in `scope` leads to the target, and from `s` to `t`. -/
structure Locates (workspace : Workspace) (scope : Document) (reference : String) (s : Session)
    (target : Target) (t : Session) : Prop where
  inside : Reference.classify reference = .inside →
    target.document = scope ∧ t = s ∧
      target.keys = Reference.keys (String.ofList (reference.toList.drop 1))
  outside : Reference.classify reference = .outside →
    ∃ file pointer, Text.splitFirst '#' reference = some (file, pointer) ∧
      target.document.path = pathFrom scope file ∧
      workspace.fetch (pathFrom scope file) = .ok target.document ∧
      (t.trace = s.trace ∨ t.trace = .load (pathFrom scope file) :: s.trace) ∧
      target.keys = Reference.keys pointer
  notUrl : Reference.classify reference ≠ .url
  name : target.keys.getLast? = some target.name
  isRemote : target.isRemote = false ↔ target.document = workspace.root

/-! Documents at normalised paths -/

section Normal
variable (normal : ∃ p : Path, workspace.root.path = p.normalize)
include normal

theorem fetch_path {path : Path} {document : Document}
    (fetched : workspace.fetch path.normalize = .ok document) : document.path = path.normalize := by
  obtain ⟨p, atRoot⟩ := normal
  unfold fetch at fetched
  split at fetched
  · next same =>
    cases fetched
    rw [atRoot] at same ⊢
    exact (Path.normalize_same same).symm
  · obtain ⟨body, _, same⟩ := map_eq_ok.mp fetched
    cases same
    rfl

theorem isRoot_iff {document : Document} (served : workspace.Serves document) :
    workspace.isRoot document = true ↔ document = workspace.root := by
  constructor
  · intro same
    rcases served with rfl | ⟨path, fetched⟩
    · rfl
    · have named := fetch_path normal fetched
      have again : path.normalize.same workspace.root.path := by rwa [isRoot, named] at same
      rw [fetch, if_pos again] at fetched
      exact (Except.ok.inj fetched).symm
  · rintro rfl
    simp [isRoot, Path.same]

end Normal

theorem document_fetched {path : Path} {document : Document} (loaded : s.IsLoaded workspace)
    (run : (workspace.document path.normalize).run s = (.ok document, t)) :
    workspace.fetch path.normalize = .ok document ∧
      (document = workspace.root ∨ document ∈ t.documents) ∧
      (t.trace = s.trace ∨ t.trace = .load path.normalize :: s.trace) := by
  obtain ⟨u, again, _⟩ : ∃ u, (workspace.document path.normalize).run s =
      (workspace.fetch path.normalize, u) ∧ s.Reads workspace u := document_run path loaded
  have fetched : workspace.fetch path.normalize = .ok document :=
    congrArg Prod.fst (again.symm.trans run)
  refine ⟨fetched, ?_⟩
  unfold Workspace.document at run
  split at run
  · cases run
    exact ⟨.inl rfl, .inl rfl⟩
  · simp only [run_bind, run_get] at run
    split at run
    · next known =>
      cases run
      exact ⟨.inr (List.mem_of_find?_eq_some known), .inl rfl⟩
    · simp only [run_bind, run_record, run_ofExcept] at run
      cases body : workspace.library.load path.normalize with
      | error failure =>
        rw [body] at run
        cases run
      | ok value =>
        rw [body] at run
        cases run
        exact ⟨.inr (List.mem_append_right _ (List.mem_singleton_self _)), .inr rfl⟩

theorem document_known {path : Path} {document : Document} (loaded : s.IsLoaded workspace)
    (fetched : workspace.fetch path.normalize = .ok document)
    (known : document = workspace.root ∨ document ∈ s.documents) :
    (workspace.document path.normalize).run s = (.ok document, s) := by
  by_cases atRoot : path.normalize.same workspace.root.path
  · rw [fetch, if_pos atRoot] at fetched
    cases fetched
    simp [Workspace.document, atRoot]
  · rw [fetch, if_neg atRoot] at fetched
    obtain ⟨body, load, rfl⟩ := map_eq_ok.mp fetched
    have member : ⟨path.normalize, body⟩ ∈ s.documents := by
      refine known.resolve_left fun same => atRoot ?_
      rw [← same]
      simp [Path.same]
    simp only [Workspace.document, atRoot, Bool.false_eq_true, ↓reduceIte, run_bind, run_get]
    cases found : s.documents.find? fun document => document.path.same path.normalize with
    | none => exact absurd (List.find?_eq_none.mp found _ member) (by simp [Path.same])
    | some other =>
      obtain ⟨⟨otherPath, normal⟩, otherLoad⟩ := loaded other (List.mem_of_find?_eq_some found)
      have same : other.path = path.normalize := by
        rw [normal]
        exact Path.normalize_same (by simpa [normal] using List.find?_some found)
      rw [same, load] at otherLoad
      cases otherLoad
      rw [← same]
      rfl

/-! Places and targets -/

theorem place_inside (isInside : Reference.classify reference = .inside) :
    workspace.place scope reference =
      pure (scope, String.ofList (reference.toList.drop 1)) := by
  simp only [place, isInside]

theorem place_outside {file pointer : String} (isOutside : Reference.classify reference = .outside)
    (cut : Text.splitFirst '#' reference = some (file, pointer)) :
    workspace.place scope reference = do
      return (← workspace.document (pathFrom scope file), pointer) := by
  simp only [place, isOutside, cut, pathFrom]

theorem locate_of_place {pointer : String} {target : Target}
    (placed : (workspace.place scope reference).run s = (.ok (target.document, pointer), t))
    (keys : target.keys = Reference.keys pointer)
    (name : target.keys.getLast? = some target.name)
    (isRemote : target.isRemote = !workspace.isRoot target.document) :
    (workspace.locate scope reference).run s = (.ok target, t) := by
  obtain ⟨document, path, last, remote⟩ := target
  dsimp only at placed keys name isRemote
  subst keys isRemote
  refine run_bind_ok.mpr ⟨_, _, placed, ?_⟩
  simp only [name, run_pure]

theorem locate_locates (normal : ∃ p : Path, workspace.root.path = p.normalize)
    (loaded : s.IsLoaded workspace) (served : workspace.Serves scope) {target : Target}
    (run : (workspace.locate scope reference).run s = (.ok target, t)) :
    workspace.Locates scope reference s target t := by
  obtain ⟨pointer, placed, keys, name, isRemote⟩ := locate_target run
  have reached : workspace.Serves target.document := by
    rcases place_leads loaded placed with same | other
    · rwa [same]
    · exact other
  refine ⟨?inside, ?outside, ?notUrl, name, ?isRemote⟩
  case inside =>
    intro isInside
    rw [place_inside isInside] at placed
    cases placed
    exact ⟨rfl, rfl, keys⟩
  case outside =>
    intro isOutside
    cases cut : Text.splitFirst '#' reference with
    | none =>
      simp only [place, isOutside, cut] at placed
      cases placed
    | some parts =>
      obtain ⟨file, other⟩ := parts
      rw [place_outside isOutside cut] at placed
      obtain ⟨document, u, found, same⟩ := run_bind_ok.mp placed
      cases same
      obtain ⟨fetched, _, trace⟩ := document_fetched loaded found
      exact ⟨file, pointer, rfl, fetch_path normal fetched, fetched, trace, keys⟩
  case notUrl =>
    intro isUrl
    simp only [place, isUrl] at placed
    cases placed
  case isRemote =>
    rw [isRemote, ← isRoot_iff normal reached]
    simp

/-- Two references to a file with one pointer, in whatever documents, are spellings of one place if
their paths come out the same. -/
structure SpellAlike (a : Document) (q : String) (b : Document) (r : String) : Prop where
  outside : Reference.classify q = .outside ∧ Reference.classify r = .outside
  same : ∃ f g pointer, Text.splitFirst '#' q = some (f, pointer) ∧
    Text.splitFirst '#' r = some (g, pointer) ∧ pathFrom a f = pathFrom b g

theorem locate_alike {a b : Document} {q r : String} (alike : SpellAlike a q b r)
    (loaded : s.IsLoaded workspace) {target : Target}
    (run : (workspace.locate a q).run s = (.ok target, t)) (later : u.IsLoaded workspace)
    (kept : ∀ document ∈ t.documents, document ∈ u.documents) :
    (workspace.locate b r).run u = (.ok target, u) := by
  obtain ⟨⟨isOutside, alsoOutside⟩, f, g, pointer, cut, alsoCut, samePath⟩ := alike
  obtain ⟨other, placed, keys, name, isRemote⟩ := locate_target run
  rw [place_outside isOutside cut] at placed
  obtain ⟨document, v, found, same⟩ := run_bind_ok.mp placed
  cases same
  obtain ⟨fetched, known, _⟩ := document_fetched loaded found
  have again : (workspace.document (pathFrom b g)).run u = (.ok target.document, u) := by
    rw [← samePath]
    exact document_known later fetched (known.imp_right (kept _))
  refine locate_of_place ?_ keys name isRemote
  rw [place_outside alsoOutside alsoCut]
  exact run_bind_ok.mpr ⟨_, _, again, rfl⟩

end Typewright.Workspace
