import Mathlib.Data.List.TakeWhile
import Typewright.Proofs.Execution

/-!
URLs as references. A reference is a URL if it begins with a scheme and `://`, and the first `://`
decides: behind anything else it is part of a path or a pointer. The resolver refuses URLs by their
text, so it loads nothing for them and its session stays as it was.
-/
namespace Typewright

namespace Reference
variable {text scheme : List Char} {reference : String}

/-! The grammar of URLs -/

def IsLetter (c : Char) : Prop := 'a' ≤ c ∧ c ≤ 'z' ∨ 'A' ≤ c ∧ c ≤ 'Z'

def IsDigit (c : Char) : Prop := '0' ≤ c ∧ c ≤ '9'

def MayFollow (c : Char) : Prop := IsLetter c ∨ IsDigit c ∨ c = '+' ∨ c = '-' ∨ c = '.'

def IsScheme (text : List Char) : Prop :=
  ∃ first others, text = first :: others ∧ IsLetter first ∧ ∀ c ∈ others, MayFollow c

def IsUrl (reference : String) : Prop :=
  ∃ scheme rest : String, IsScheme scheme.toList ∧ reference = scheme ++ "://" ++ rest

structure StandsFirst (before reference : String) : Prop where
  cut : ∃ rest, reference = before ++ "://" ++ rest
  first : ∀ other rest, reference = other ++ "://" ++ rest → before.length ≤ other.length

theorem isAlpha_iff {c : Char} : c.isAlpha = true ↔ IsLetter c := by
  have either : c.isAlpha = (c.isUpper || c.isLower) := rfl
  have upper : c.isUpper = decide ('A' ≤ c ∧ c ≤ 'Z') := rfl
  have lower : c.isLower = decide ('a' ≤ c ∧ c ≤ 'z') := (Bool.decide_and _ _).symm
  rw [either, upper, lower, ← Bool.decide_or, decide_eq_true_iff, or_comm, IsLetter]

theorem isDigit_iff {c : Char} : c.isDigit = true ↔ IsDigit c := by
  have digit : c.isDigit = decide ('0' ≤ c ∧ c ≤ '9') := (Bool.decide_and _ _).symm
  rw [digit, decide_eq_true_iff, IsDigit]

theorem isSchemeChar_iff {c : Char} : isSchemeChar c = true ↔ MayFollow c := by
  have either : c.isAlphanum = (c.isAlpha || c.isDigit) := rfl
  simp [isSchemeChar, either, isAlpha_iff, isDigit_iff, MayFollow, or_assoc]

theorem isScheme_iff : IsScheme text ↔
    text.head?.any Char.isAlpha = true ∧ ∀ c ∈ text, isSchemeChar c = true := by
  constructor
  · rintro ⟨first, others, rfl, letter, follow⟩
    refine ⟨isAlpha_iff.mpr letter, fun c member => isSchemeChar_iff.mpr ?_⟩
    rcases List.mem_cons.mp member with rfl | later
    · exact .inl letter
    · exact follow c later
  · rintro ⟨letter, follow⟩
    cases text with
    | nil => cases letter
    | cons first others =>
      exact ⟨first, others, rfl, isAlpha_iff.mp letter, fun c member =>
        isSchemeChar_iff.mp (follow c (List.mem_cons_of_mem _ member))⟩

theorem colon_not_mem (isScheme : IsScheme scheme) : ':' ∉ scheme := by
  intro member
  exact absurd ((isScheme_iff.mp isScheme).2 ':' member) (by decide)

/-! Recognising URLs -/

theorem hasScheme_iff : hasScheme text = true ↔
    ∃ scheme rest, IsScheme scheme ∧ text = scheme ++ "://".toList ++ rest := by
  unfold hasScheme
  rw [Bool.and_eq_true, List.isPrefixOf_iff_prefix]
  constructor
  · rintro ⟨letter, rest, marked⟩
    refine ⟨text.takeWhile isSchemeChar, rest, isScheme_iff.mpr ⟨?letter, ?follow⟩, ?cut⟩
    case letter =>
      cases text with
      | nil => cases letter
      | cons first others =>
        have starts : isSchemeChar first = true :=
          isSchemeChar_iff.mpr (.inl (isAlpha_iff.mp letter))
        rwa [List.takeWhile_cons_of_pos starts]
    case follow => exact fun c => List.mem_takeWhile_imp
    case cut => rw [List.append_assoc, marked, List.takeWhile_append_dropWhile]
  · rintro ⟨scheme, rest, isScheme, rfl⟩
    obtain ⟨letter, follow⟩ := isScheme_iff.mp isScheme
    constructor
    · obtain ⟨first, others, rfl, _⟩ := isScheme
      exact letter
    · rw [List.append_assoc, List.dropWhile_append_of_pos follow]
      exact ⟨rest, rfl⟩

theorem isUrl_iff : IsUrl reference ↔ hasScheme reference.toList = true := by
  rw [hasScheme_iff]
  constructor
  · rintro ⟨scheme, rest, isScheme, rfl⟩
    exact ⟨scheme.toList, rest.toList, isScheme, by simp⟩
  · rintro ⟨scheme, rest, isScheme, same⟩
    refine ⟨String.ofList scheme, String.ofList rest, by rwa [String.toList_ofList], ?_⟩
    apply String.toList_inj.mp
    simpa using same

theorem eq_of_cuts {before others rest : List Char} (isScheme : IsScheme scheme)
    (same : before ++ ':' :: others = scheme ++ ':' :: rest)
    (early : before.length ≤ scheme.length) : before = scheme := by
  rcases List.append_eq_append_iff.mp same with ⟨more, rfl, later⟩ | ⟨more, rfl, later⟩
  · cases more with
    | nil => rw [List.append_nil]
    | cons first tail =>
      obtain ⟨rfl, _⟩ := List.cons.inj later
      exact absurd (List.mem_append_right _ List.mem_cons_self) (colon_not_mem isScheme)
  · rw [List.length_append] at early
    have none : more = [] := List.length_eq_zero_iff.mp (by omega)
    rw [none, List.append_nil]

theorem exists_standsFirst {other rest : String} (cut : reference = other ++ "://" ++ rest) :
    ∃ before, StandsFirst before reference := by
  induction size : other.length using Nat.strongRecOn generalizing other rest with
  | ind n ih =>
    subst size
    by_cases first : ∀ earlier more, reference = earlier ++ "://" ++ more →
        other.length ≤ earlier.length
    · exact ⟨other, ⟨rest, cut⟩, first⟩
    · simp only [not_forall, Nat.not_le] at first
      obtain ⟨earlier, more, alsoCut, shorter⟩ := first
      exact ih earlier.length shorter alsoCut rfl

/-- What stands before the first `://` decides. -/
theorem isUrl_iff_isScheme {before : String} (stands : StandsFirst before reference) :
    IsUrl reference ↔ IsScheme before.toList := by
  obtain ⟨⟨others, cut⟩, first⟩ := stands
  constructor
  · rintro ⟨scheme, rest, isScheme, same⟩
    have chars := congrArg String.toList (cut.symm.trans same)
    simp only [String.toList_append, List.append_assoc] at chars
    have early : before.toList.length ≤ scheme.toList.length := by
      rw [String.length_toList, String.length_toList]
      exact first scheme rest same
    rwa [eq_of_cuts isScheme chars early]
  · exact fun isScheme => ⟨before, others, isScheme, cut⟩

/-! The kinds of references -/

theorem head?_eq_hash : reference.toList.head? = some '#' ↔ ∃ rest, reference = "#" ++ rest := by
  constructor
  · intro first
    obtain ⟨rest, chars⟩ := List.head?_eq_some_iff.mp first
    refine ⟨String.ofList rest, String.toList_inj.mp ?_⟩
    simpa using chars
  · rintro ⟨rest, rfl⟩
    simp

theorem classify_inside_iff : classify reference = .inside ↔ ∃ rest, reference = "#" ++ rest := by
  rw [← head?_eq_hash]
  by_cases first : reference.toList.head? = some '#'
  · simp [classify, first]
  · simp only [classify, first, ↓reduceIte, iff_false]
    split <;> exact nofun

theorem not_isUrl_hash (rest : String) : ¬ IsUrl ("#" ++ rest) := by
  rw [isUrl_iff]
  simp [hasScheme]

theorem classify_url_iff : classify reference = .url ↔ IsUrl reference := by
  by_cases first : reference.toList.head? = some '#'
  · obtain ⟨rest, rfl⟩ := head?_eq_hash.mp first
    simp [classify, not_isUrl_hash]
  · simp [classify, first, isUrl_iff]

theorem classify_outside_iff : classify reference = .outside ↔
    (¬ ∃ rest, reference = "#" ++ rest) ∧ ¬ IsUrl reference := by
  rw [← classify_inside_iff, ← classify_url_iff]
  cases classify reference <;> simp

/-- The kind of a reference is that of its text. A URL has a first `://`, and of a reference that
has one, the text before it says whether it is a URL. -/
structure Recognised (reference : String) : Prop where
  inside : classify reference = .inside ↔ ∃ rest, reference = "#" ++ rest
  url : classify reference = .url ↔ IsUrl reference
  outside : classify reference = .outside ↔
    (¬ ∃ rest, reference = "#" ++ rest) ∧ ¬ IsUrl reference
  marked : classify reference = .url → ∃ before, StandsFirst before reference
  first : ∀ before, StandsFirst before reference →
    (classify reference = .url ↔ IsScheme before.toList)

theorem recognised (reference : String) : Recognised reference where
  inside := classify_inside_iff
  url := classify_url_iff
  outside := classify_outside_iff
  marked isUrl := by
    obtain ⟨_, _, _, cut⟩ := classify_url_iff.mp isUrl
    exact exists_standsFirst cut
  first _ stands := classify_url_iff.trans (isUrl_iff_isScheme stands)

example : classify "./a://b" = .outside := by decide

end Reference

namespace Workspace
open Resolve
variable {workspace : Workspace} {scope : Document} {reference : String}

/-! Refused references -/

def refusal (reference : String) : Failure := .unsupported (.urlReference reference)

/-- The reference leads to no type and to no group, in any session. The session that comes back
holds the same documents, and its trace no further load. -/
structure Refuses (workspace : Workspace) (scope : Document) (reference : String) : Prop where
  schema : ∀ s, (workspace.readSchema scope reference).run s = (.error (refusal reference), s)
  group : ∀ s, (workspace.readGroup scope reference).run s = (.error (refusal reference), s)

theorem readTarget_url (isUrl : Reference.classify reference = .url) (s : Session) :
    (workspace.readTarget scope reference).run s = (.error (refusal reference), s) := by
  have placed : workspace.place scope reference = throw (refusal reference) := by
    simp only [place, isUrl, refusal]
  simp only [readTarget, locate, placed, run_bind, run_throw]

theorem refuses_url (isUrl : Reference.classify reference = .url) :
    workspace.Refuses scope reference where
  schema s := by simp only [readSchema, run_bind, readTarget_url isUrl]
  group s := by simp only [readGroup, run_bind, readTarget_url isUrl]

/-- Every reference is of the kind that the grammar says, and URLs are refused. -/
theorem urls_recognised_and_refused (reference : String) : Reference.Recognised reference ∧
    (Reference.classify reference = .url →
      ∀ (workspace : Workspace) (scope : Document), workspace.Refuses scope reference) :=
  ⟨Reference.recognised reference, fun isUrl _ _ => refuses_url isUrl⟩

end Workspace

namespace WebAddress

/-! A URL, where there is a document at the path that its text has as a file. -/

def reference : String := "https://example.com/spec.yaml#/types/A"

def root : Document := ⟨Path.ofString "/spec.yaml", .null⟩

def workspace : Workspace where
  root := root
  library := { documents := [(Path.ofString "/https:/example.com/spec.yaml", .ok .null)] }
  tokens := ∅
  renderer := ⟨fun _ => .ok "", fun _ => .ok "", fun _ => .ok ""⟩

theorem web_address_is_refused : Reference.classify reference = .url ∧
    workspace.library.load
      (root.directory.join (Path.ofString "https://example.com/spec.yaml")).normalize = .ok .null ∧
    Reference.Recognised reference ∧ workspace.Refuses root reference := by
  have isUrl : Reference.classify reference = .url := by decide +kernel
  have isThere : workspace.library.load
      (root.directory.join (Path.ofString "https://example.com/spec.yaml")).normalize = .ok .null :=
    rfl
  obtain ⟨recognised, refused⟩ := Workspace.urls_recognised_and_refused reference
  exact ⟨isUrl, isThere, recognised, refused isUrl workspace root⟩

end WebAddress

end Typewright
