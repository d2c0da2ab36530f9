import Typewright.Proofs.JoinedPath

/-!
The normal form of a path. It is what is left of the components when they are read one after
another and each `..` undoes the name before it, and it is what comes of building a path from them
while looking only at the end of what is built. It has no `.`, and `..` only in front of a relative
path. A path that leads on from a directory depends on the normal form of the directory alone.
-/
namespace Typewright

namespace Text

theorem pieces_ne_nil (c : Char) (text : String) : pieces c text ≠ [] := by
  simp [pieces]

theorem glue_pieces (c : Char) (text : String) : glue c (pieces c text) = text := by
  have same : String.toList ∘ String.ofList = id := by
    funext list
    exact String.toList_ofList
  unfold glue pieces
  rw [List.map_map, same, List.map_id, List.intercalate_splitOn, String.ofList_toList]

theorem splitOnP_free {α : Type} (cuts : α → Bool) (list : List α) :
    ∀ piece ∈ list.splitOnP cuts, ∀ element ∈ piece, cuts element = false := by
  induction list with
  | nil => simp
  | cons first rest ih =>
    rw [List.splitOnP_cons_eq_if_modifyHead]
    by_cases cut : cuts first = true
    · simpa [cut] using ih
    · cases pieces : rest.splitOnP cuts with
      | nil => exact absurd pieces (List.splitOnP_ne_nil cuts rest)
      | cons piece others =>
        rw [pieces] at ih
        simpa [cut] using ih

theorem pieces_free (c : Char) (text : String) : ∀ piece ∈ pieces c text, c ∉ piece.toList := by
  intro piece member inside
  obtain ⟨list, isIn, rfl⟩ := List.mem_map.mp member
  rw [String.toList_ofList] at inside
  have free := splitOnP_free (· == c) text.toList list isIn c inside
  simp at free

end Text

namespace Path

/-! The walk over the components -/

/-- Undoes the last of the components that were taken: a name is dropped, the root stays as it is,
and with nothing to undo the step up is kept. -/
def undo (taken : List Component) : List Component :=
  match taken.getLast? with
  | some (.name _) => taken.dropLast
  | some .root => taken
  | _ => taken ++ [.up]

def resolve (taken : List Component) : Component → List Component
  | .here => taken
  | .up => undo taken
  | component => taken ++ [component]

/-- What is left of the components when they are taken one after another. -/
def lexicalWalk (components : List Component) : List Component := components.foldl resolve []

theorem resolve_components {place : Place} {component : Component} (proper : place.IsProper)
    (notRoot : component ≠ .root) :
    resolve place.components component = (place.step component).components := by
  cases component with
  | root => exact absurd rfl notRoot
  | here => rfl
  | name text =>
    simp only [resolve, Place.step, Place.components, List.map_append, List.append_assoc]
    rfl
  | up =>
    obtain ⟨rooted, ups, names⟩ := place
    rcases List.eq_nil_or_concat names with rfl | ⟨before, last, rfl⟩
    · cases rooted with
      | true =>
        have none : ups = 0 := proper.2 rfl
        subst none
        rfl
      | false =>
        cases ups with
        | zero => rfl
        | succ ups =>
          simp [resolve, undo, Place.step, Place.components, List.replicate_succ']
    · simp [resolve, undo, Place.step, Place.components]

theorem foldl_resolve {components : List Component} {place : Place} (proper : place.IsProper)
    (plain : ∀ text, .name text ∈ components → IsPlain text) (notRoot : .root ∉ components) :
    components.foldl resolve place.components = (components.foldl Place.step place).components := by
  induction components generalizing place with
  | nil => rfl
  | cons component rest ih =>
    obtain ⟨other, later⟩ := not_or.mp (mt List.mem_cons.mpr notRoot)
    have next : (place.step component).IsProper := by
      apply Place.step_proper proper
      rintro text rfl
      exact plain text List.mem_cons_self
    rw [List.foldl_cons, List.foldl_cons, resolve_components proper (Ne.symm other)]
    exact ih next (fun text member => plain text (List.mem_cons_of_mem _ member)) later

theorem components_rooted (p : Path) :
    (p.isAbsolute = true ∧ ∃ rest, p.components = .root :: rest ∧ .root ∉ rest) ∨
      (p.isAbsolute = false ∧ .root ∉ p.components) := by
  have notRoot := root_not_in_segments
  obtain ⟨segments⟩ := p
  unfold components isAbsolute
  dsimp only
  split
  · exact .inl ⟨rfl, _, rfl, notRoot _⟩
  · next notRooted =>
    right
    refine ⟨rfl, ?_⟩
    split
    · exact absurd rfl (notRooted _ _)
    · exact List.not_mem_cons_of_ne_of_not_mem nofun (notRoot _)
    · exact notRoot segments

theorem normalize_components (p : Path) : p.normalize.components = p.place.components :=
  components_toPath (place_proper p)

theorem normalize_walk (p : Path) : p.normalize.components = lexicalWalk p.components := by
  have plain (text : String) (member : .name text ∈ p.components) : IsPlain text :=
    components_plain member
  rw [normalize_components]
  unfold lexicalWalk place
  rcases components_rooted p with ⟨_, rest, same, notRoot⟩ | ⟨_, notRoot⟩
  · -- the root starts the walk afresh
    rw [same] at plain ⊢
    have atRoot : Place.IsProper ⟨true, 0, []⟩ := by simp [Place.IsProper]
    have fromRoot := foldl_resolve atRoot
      (fun text member => plain text (List.mem_cons_of_mem _ member)) notRoot
    exact fromRoot.symm
  · exact (foldl_resolve Place.start_proper plain notRoot).symm

/-! Building a path from its components -/

def Component.toPath : Component → Path
  | .root => ⟨["", ""]⟩
  | component => ⟨[component.text]⟩

/-- Cuts a name off the end of a path. Where there is none, an absolute path stays as it is and a
relative one gets a step up. -/
def climb (built : Path) : Path :=
  match built.components.getLast?, built.parent? with
  | some (.name _), some shorter => shorter
  | _, _ => if built.isAbsolute then built else built.join Component.up.toPath

def build (built : Path) : Component → Path
  | .here => built
  | .up => built.climb
  | component => built.join component.toPath

theorem climb_named {built shorter : Path} {text : String}
    (last : built.components.getLast? = some (.name text)) (parent : built.parent? = some shorter) :
    built.climb = shorter := by
  simp [climb, last, parent]

theorem climb_nameless {built : Path}
    (nameless : ∀ text, built.components.getLast? ≠ some (.name text)) :
    built.climb = if built.isAbsolute then built else built.join Component.up.toPath := by
  unfold climb
  split
  · next text _ last _ => exact absurd last (nameless text)
  · rfl

def Loud (segments : List String) : Prop := ∀ segment ∈ segments, segment ≠ "" ∧ segment ≠ "."

theorem trimEnd_loud {segments : List String} (loud : Loud segments) :
    trimEnd segments = segments := by
  rcases List.eq_nil_or_concat segments with rfl | ⟨before, last, rfl⟩
  · rfl
  · obtain ⟨filled, notHere⟩ := loud last (by simp)
    simp [trimEnd_eq, filled, notHere]

namespace Place
variable {place : Place}

def body (place : Place) : List String := List.replicate place.ups ".." ++ place.names

theorem body_loud (proper : place.IsProper) : Loud place.body := by
  intro segment member
  rcases List.mem_append.mp member with up | name
  · rw [List.eq_of_mem_replicate up]
    decide
  · exact plain_ne_empty (proper.1 segment name)

def written (rooted : Bool) (body : List String) : Path :=
  match body with
  | [] => if rooted then ⟨["", ""]⟩ else ⟨[""]⟩
  | body => if rooted then ⟨"" :: body⟩ else ⟨body⟩

theorem toPath_written (place : Place) : place.toPath = written place.rooted place.body := rfl

theorem written_isAbsolute {rooted : Bool} {body : List String} (loud : Loud body) :
    (written rooted body).isAbsolute = rooted := by
  cases body with
  | nil => cases rooted <;> rfl
  | cons head rest =>
    cases rooted with
    | true => rfl
    | false =>
      have filled := (loud head List.mem_cons_self).1
      simp [written, isAbsolute, filled]

theorem written_join {rooted : Bool} {body : List String} (loud : Loud body) (segment : String) :
    (written rooted body).join ⟨[segment]⟩ = written rooted (body ++ [segment]) := by
  rcases List.eq_nil_or_concat body with rfl | ⟨before, last, rfl⟩
  · cases rooted <;> simp [written, join, isAbsolute, isEmpty]
  · have filled := (loud last (by simp)).1
    have ending (head : String) (rest : List String) :
        (head :: (rest ++ [last])).getLast? ≠ some "" := by
      rw [← List.cons_append, List.getLast?_concat]
      simpa using filled
    cases before with
    | nil => cases rooted <;> simp [written, join, isAbsolute, isEmpty, filled]
    | cons head rest => cases rooted <;> simp [written, join, isAbsolute, isEmpty, ending]

theorem written_parent {rooted : Bool} {body : List String} {segment : String}
    (loud : Loud (body ++ [segment])) :
    (written rooted (body ++ [segment])).parent? = some (written rooted body) := by
  have shorter : Loud body := fun segment member => loud segment (List.mem_append_left _ member)
  have whole := trimEnd_loud loud
  have cut := trimEnd_loud shorter
  cases body with
  | nil =>
    obtain ⟨filled, notHere⟩ := loud segment List.mem_cons_self
    cases rooted <;> simp_all [written, parent?]
  | cons head rest =>
    obtain ⟨filled, notHere⟩ := loud head List.mem_cons_self
    have dropped : (head :: (rest ++ [segment])).dropLast = head :: rest := by
      rw [← List.cons_append, List.dropLast_concat]
    cases rooted <;> simp_all [written, parent?]

end Place

theorem climb_toPath {place : Place} (proper : place.IsProper) :
    place.toPath.climb = (place.step .up).toPath := by
  have loud := Place.body_loud proper
  have components := components_toPath proper
  obtain ⟨rooted, ups, names⟩ := place
  rcases List.eq_nil_or_concat names with rfl | ⟨before, last, rfl⟩
  · have nameless (text : String) :
        (Place.toPath ⟨rooted, ups, []⟩).components.getLast? ≠ some (.name text) := by
      intro last
      rw [components] at last
      have member := List.mem_of_getLast? last
      simp [Place.components, List.mem_replicate] at member
    have absolute : (Place.written rooted (Place.body ⟨rooted, ups, []⟩)).isAbsolute = rooted :=
      Place.written_isAbsolute loud
    rw [climb_nameless nameless, Place.toPath_written, absolute]
    cases rooted with
    | true =>
      have none : ups = 0 := proper.2 rfl
      subst none
      rfl
    | false =>
      have joined : (Place.written false (Place.body ⟨false, ups, []⟩)).join ⟨[".."]⟩ =
          Place.written false (Place.body ⟨false, ups, []⟩ ++ [".."]) :=
        Place.written_join loud ".."
      have steps : Place.body ⟨false, ups, []⟩ ++ [".."] = Place.body ⟨false, ups + 1, []⟩ := by
        simp [Place.body, List.replicate_succ']
      rw [steps] at joined
      exact joined
  · rw [List.concat_eq_append] at loud components ⊢
    have split : Place.body ⟨rooted, ups, before ++ [last]⟩ =
        Place.body ⟨rooted, ups, before⟩ ++ [last] := by simp [Place.body]
    have parent : (Place.written rooted (Place.body ⟨rooted, ups, before ++ [last]⟩)).parent? =
        some (Place.written rooted (Place.body ⟨rooted, ups, before⟩)) := by
      rw [split] at loud ⊢
      exact Place.written_parent loud
    have ending : (Place.toPath ⟨rooted, ups, before ++ [last]⟩).components.getLast? =
        some (.name last) := by
      rw [components]
      simp [Place.components]
    rw [climb_named ending parent]
    simp [Place.toPath_written, Place.step]

theorem build_toPath {place : Place} {component : Component} (proper : place.IsProper)
    (plain : ∀ text, component = .name text → IsPlain text) :
    build place.toPath component = (place.step component).toPath := by
  cases component with
  | root => simp [build, join, Component.toPath, isAbsolute, Place.step, Place.toPath]
  | here => rfl
  | up => exact climb_toPath proper
  | name text =>
    have joined : (Place.written place.rooted place.body).join ⟨[text]⟩ =
        Place.written place.rooted (place.body ++ [text]) :=
      Place.written_join (Place.body_loud proper) text
    show place.toPath.join ⟨[text]⟩ = _
    rw [Place.toPath_written, joined, Place.toPath_written]
    simp [Place.step, Place.body]

theorem foldl_build {components : List Component} {place : Place} (proper : place.IsProper)
    (plain : ∀ text, .name text ∈ components → IsPlain text) :
    components.foldl build place.toPath = (components.foldl Place.step place).toPath := by
  induction components generalizing place with
  | nil => rfl
  | cons component rest ih =>
    have own : ∀ text, component = .name text → IsPlain text := by
      rintro text rfl
      exact plain text List.mem_cons_self
    rw [List.foldl_cons, List.foldl_cons, build_toPath proper own]
    exact ih (Place.step_proper proper own) fun text member =>
      plain text (List.mem_cons_of_mem _ member)

/-- Building a path from the components of another one, with nothing to start from, gives the normal
form of the other one. -/
theorem normalize_built (p : Path) : p.components.foldl build ⟨[""]⟩ = p.normalize :=
  foldl_build Place.start_proper fun _ => components_plain

/-! Laws of the normal form -/

theorem foldl_step_rooted {components : List Component} (place : Place)
    (notRoot : .root ∉ components) :
    (components.foldl Place.step place).rooted = place.rooted := by
  induction components generalizing place with
  | nil => rfl
  | cons component rest ih =>
    obtain ⟨other, later⟩ := not_or.mp (mt List.mem_cons.mpr notRoot)
    rw [List.foldl_cons, ih _ later]
    cases component with
    | root => exact absurd rfl other
    | here => rfl
    | name text => rfl
    | up =>
      simp only [Place.step]
      split
      · split <;> rfl
      · rfl

theorem place_rooted (p : Path) : p.place.rooted = p.isAbsolute := by
  unfold place
  rcases components_rooted p with ⟨absolute, rest, same, notRoot⟩ | ⟨relative, notRoot⟩
  · rw [absolute, same, List.foldl_cons, foldl_step_rooted _ notRoot]
    rfl
  · rw [relative, foldl_step_rooted _ notRoot]
    rfl

theorem normalize_isAbsolute (p : Path) : p.normalize.isAbsolute = p.isAbsolute := by
  rw [normalize, Place.toPath_written, Place.written_isAbsolute (Place.body_loud (place_proper p)),
    place_rooted]

theorem join_absolute (p : Path) {q : Path} (absolute : q.isAbsolute = true) : p.join q = q := by
  simp [join, absolute]

theorem join_isAbsolute (p : Path) {q : Path} (relative : q.IsRelative) :
    (p.join q).isAbsolute = p.isAbsolute := by
  rw [← place_rooted, ← place_rooted, place_join p relative]
  exact foldl_step_rooted p.place (root_not_in_segments q.segments)

theorem foldl_step_back (place : Place) (n : Nat) :
    (List.replicate n Component.up).foldl Place.step place =
      { place with
        ups := if place.rooted then place.ups else place.ups + (n - place.names.length)
        names := place.names.take (place.names.length - n) } := by
  induction n with
  | zero => simp
  | succ n ih =>
    rw [List.replicate_succ', List.foldl_concat, ih]
    by_cases left : n < place.names.length
    · have filled : (place.names.take (place.names.length - n)).isEmpty = false := by
        rw [List.isEmpty_eq_false_iff]
        apply List.ne_nil_of_length_pos
        rw [List.length_take]
        omega
      have shorter : (place.names.take (place.names.length - n)).dropLast =
          place.names.take (place.names.length - (n + 1)) := by
        rw [List.dropLast_eq_take, List.take_take, List.length_take]
        congr 1
        omega
      have none : n + 1 - place.names.length = n - place.names.length := by omega
      simp only [Place.step, filled, Bool.false_eq_true, if_false, shorter, none]
    · have cleared : place.names.length - n = 0 := by omega
      have still : place.names.length - (n + 1) = 0 := by omega
      have more : n + 1 - place.names.length = n - place.names.length + 1 := by omega
      cases rooted : place.rooted <;>
        simp [Place.step, cleared, still, more, Nat.add_assoc]

theorem foldl_step_components {place : Place} (proper : place.IsProper) :
    place.components.foldl Place.step Place.start = place := by
  obtain ⟨rooted, ups, names⟩ := place
  unfold Place.components
  rw [List.foldl_append, List.foldl_append]
  cases rooted with
  | true =>
    have none : ups = 0 := proper.2 rfl
    subst none
    simp [Place.foldl_step_names, Place.step, Place.descend]
  | false =>
    simp only [Bool.false_eq_true, if_false, List.foldl_nil]
    rw [foldl_step_back, Place.foldl_step_names]
    simp [Place.start, Place.descend]

theorem place_toPath {place : Place} (proper : place.IsProper) : place.toPath.place = place := by
  rw [Path.place, components_toPath proper, foldl_step_components proper]

theorem place_normalize (p : Path) : p.normalize.place = p.place := place_toPath (place_proper p)

theorem normalize_eq_iff {p q : Path} : p.normalize = q.normalize ↔ p.place = q.place := by
  refine ⟨fun same => ?_, normalize_of_place⟩
  rw [← place_normalize p, same, place_normalize]

theorem normalize_normalize (p : Path) : p.normalize.normalize = p.normalize :=
  normalize_of_place (place_normalize p)

theorem relative_of_pieces {text : String} (relative : (ofString text).isAbsolute = false) :
    (ofString text).IsRelative :=
  ⟨relative, Text.pieces_ne_nil '/' text⟩

theorem place_join_congr {p q : Path} (same : p.place = q.place) (text : String) :
    (p.join (ofString text)).place = (q.join (ofString text)).place := by
  cases absolute : (ofString text).isAbsolute with
  | true => rw [join_absolute p absolute, join_absolute q absolute]
  | false =>
    have relative := relative_of_pieces absolute
    rw [place_join p relative, place_join q relative, same]

theorem normalize_join (p : Path) (text : String) :
    (p.join (ofString text)).normalize = (p.normalize.join (ofString text)).normalize :=
  normalize_of_place (place_join_congr (place_normalize p).symm text)

/-! Normal forms of texts -/

theorem text_of_component {segment text : String}
    (component : Component.ofSegment? segment = some (.name text)) : segment = text := by
  unfold Component.ofSegment? at component
  split at component
  · cases component
  · split at component
    · cases component
    · cases component
      rfl

theorem segment_of_component {p : Path} {text : String} (member : .name text ∈ p.components) :
    text ∈ p.segments := by
  have inSegments (segments : List String) (member : .name text ∈ segments.filterMap
      Component.ofSegment?) : text ∈ segments := by
    obtain ⟨segment, isIn, component⟩ := List.mem_filterMap.mp member
    exact text_of_component component ▸ isIn
  obtain ⟨segments⟩ := p
  unfold components at member
  dsimp only at member ⊢
  split at member
  · have later := (List.mem_cons.mp member).resolve_left nofun
    exact List.mem_cons_of_mem _ (inSegments _ later)
  · have later := (List.mem_cons.mp member).resolve_left nofun
    exact List.mem_cons_of_mem _ (inSegments _ later)
  · exact inSegments segments member

theorem mem_foldl_names {components : List Component} {place : Place} {name : String}
    (member : name ∈ (components.foldl Place.step place).names) :
    name ∈ place.names ∨ .name name ∈ components := by
  induction components generalizing place with
  | nil => exact .inl member
  | cons component rest ih =>
    rcases ih member with before | later
    · cases component with
      | root => cases before
      | here => exact .inl before
      | up =>
        simp only [Place.step] at before
        split at before
        · split at before
          · exact .inl before
          · exact .inl before
        · exact .inl (List.dropLast_subset _ before)
      | name text =>
        rcases List.mem_append.mp before with old | new
        · exact .inl old
        · rw [List.mem_singleton.mp new]
          exact .inr List.mem_cons_self
    · exact .inr (List.mem_cons_of_mem component later)

theorem place_whole (text : String) : ∀ name ∈ (ofString text).place.names, '/' ∉ name.toList := by
  intro name member
  rcases mem_foldl_names member with none | component
  · cases none
  · exact Text.pieces_free '/' text name (segment_of_component component)

theorem ofString_toString_normalize (text : String) :
    ofString (ofString text).normalize.toString = (ofString text).normalize := by
  have free : ∀ segment ∈ (ofString text).place.body, '/' ∉ segment.toList := by
    intro segment member
    rcases List.mem_append.mp member with up | name
    · rw [List.eq_of_mem_replicate up]
      decide
    · exact place_whole text segment name
  have whole (rooted : Bool) (body : List String) (free : ∀ segment ∈ body, '/' ∉ segment.toList) :
      (Place.written rooted body).segments ≠ [] ∧
        ∀ segment ∈ (Place.written rooted body).segments, '/' ∉ segment.toList := by
    cases body with
    | nil => cases rooted <;> simp [Place.written]
    | cons head rest => cases rooted <;> simpa [Place.written] using free
  obtain ⟨filled, pieces⟩ := whole (ofString text).place.rooted _ free
  show (⟨Text.pieces '/' (Text.glue '/' (ofString text).place.toPath.segments)⟩ : Path) =
    (ofString text).place.toPath
  rw [Place.toPath_written, Text.pieces_glue filled pieces]

/-- What makes `n` the normal form of `p`. -/
structure IsNormalForm (p n : Path) : Prop where
  noDots : .here ∉ n.components
  noUps : n.isAbsolute = true → .up ∉ n.components
  /-- Before `..` there is nothing but `..`. -/
  upsFirst : ∀ before after, n.components = before ++ .up :: after →
    ∀ component ∈ before, component = .up
  absolute : n.isAbsolute = p.isAbsolute
  walked : n.components = lexicalWalk p.components
  built : n = p.components.foldl build ⟨[""]⟩

theorem normalize_isNormalForm (p : Path) : p.IsNormalForm p.normalize := by
  have shape : p.normalize.components = (if p.isAbsolute then [.root] else []) ++
      List.replicate p.place.ups .up ++ p.place.names.map .name := by
    rw [normalize_components, ← place_rooted]
    rfl
  have rooted : p.isAbsolute = true → p.place.ups = 0 := by
    rw [← place_rooted]
    exact (place_proper p).2
  refine ⟨?noDots, ?noUps, ?upsFirst, normalize_isAbsolute p, normalize_walk p,
    (normalize_built p).symm⟩
  case noDots =>
    rw [shape]
    cases p.isAbsolute <;> simp [List.mem_replicate]
  case noUps =>
    intro absolute
    rw [normalize_isAbsolute] at absolute
    rw [shape, rooted absolute]
    cases p.isAbsolute <;> simp
  case upsFirst =>
    intro before after same component member
    rw [shape] at same
    cases absolute : p.isAbsolute with
    | true =>
      have inside : .up ∈ before ++ .up :: after := by simp
      rw [← same, absolute, rooted absolute] at inside
      simp at inside
    | false =>
      rw [absolute, if_neg Bool.false_ne_true, List.nil_append] at same
      rcases List.append_eq_append_iff.mp same with ⟨more, rfl, named⟩ | ⟨more, steps, _⟩
      · -- `..` would stand among the names
        have inside : .up ∈ p.place.names.map Component.name := by simp [named]
        simp at inside
      · have step : component ∈ List.replicate p.place.ups Component.up := by
          rw [steps]
          exact List.mem_append_left more member
        exact List.eq_of_mem_replicate step

/-- Every text of a path has a normal form that depends on its components alone, is its own normal
form and text, and leads on wherever the path does. -/
theorem normal_forms (text : String) :
    let p := ofString text
    p.IsNormalForm p.normalize ∧ p.normalize.normalize = p.normalize ∧
      ofString p.normalize.toString = p.normalize ∧
      ∀ more, (p.join (ofString more)).normalize = (p.normalize.join (ofString more)).normalize :=
  ⟨normalize_isNormalForm _, normalize_normalize _, ofString_toString_normalize text,
    normalize_join _⟩

end Path

end Typewright
