import Typewright.Proofs.JoinedPath
import Typewright.Proofs.Locating

/-!
Pointers address every key. Escaping takes the slashes out of a key, and unescaping undoes it step
by step, so that a pointer is cut into the very keys that it was made of, whatever characters they
have. The file in front of a pointer decides the kind of the reference, and reading goes from
mapping to mapping as long as there is one that has the next key.
-/
namespace Typewright

namespace Text

theorem substitute_flatMap {pattern value : List Char} {old new : Char → List Char}
    (each : ∀ c rest, substitute pattern value 0 (old c ++ rest) =
      new c ++ substitute pattern value 0 rest) (chars : List Char) :
    substitute pattern value 0 (chars.flatMap old) = chars.flatMap new := by
  induction chars with
  | nil => rfl
  | cons c rest ih => rw [List.flatMap_cons, each, ih, List.flatMap_cons]

theorem toList_replaceAll {pattern value : String} (text : String)
    (filled : pattern.isEmpty = false) :
    (replaceAll pattern value text).toList =
      substitute pattern.toList value.toList 0 text.toList := by
  simp [replaceAll, filled]

theorem isPrefixOf_before {c : Char} {pattern : List Char} (free : c ∉ pattern)
    (text rest : List Char) :
    pattern.isPrefixOf (text ++ c :: rest) = pattern.isPrefixOf text := by
  induction pattern generalizing text with
  | nil => simp
  | cons first others ih =>
    obtain ⟨differ, later⟩ := not_or.mp (mt List.mem_cons.mpr free)
    cases text with
    | nil => simp [List.isPrefixOf, Ne.symm differ]
    | cons head tail => simp [List.isPrefixOf, ih later]

theorem splitFirst_append {c : Char} {first : String} (free : c ∉ first.toList) (rest : String) :
    splitFirst c (first ++ String.singleton c ++ rest) = some (first, rest) := by
  have passed : ∀ char ∈ first.toList, (char != c) = true := by
    intro char member
    rw [bne_iff_ne]
    rintro rfl
    exact free member
  unfold splitFirst
  simp only [String.toList_append, String.toList_singleton, List.append_assoc,
    List.singleton_append]
  rw [List.dropWhile_append_of_pos passed, List.takeWhile_append_of_pos passed]
  simp

end Text

namespace Reference
open Text

/-! Escaped keys -/

def tildeCode (c : Char) : List Char := if c = '~' then ['~', '0'] else [c]

def code (c : Char) : List Char := if c = '/' then ['~', '1'] else tildeCode c

theorem toList_escape (key : String) : (escape key).toList = key.toList.flatMap code := by
  have tildes : substitute ['~'] ['~', '0'] 0 key.toList = key.toList.flatMap tildeCode := by
    have each (c : Char) (rest : List Char) : substitute ['~'] ['~', '0'] 0 ([c] ++ rest) =
        tildeCode c ++ substitute ['~'] ['~', '0'] 0 rest := by
      by_cases isTilde : c = '~' <;> simp [substitute, tildeCode, isTilde, Ne.symm]
    have whole := substitute_flatMap each key.toList
    rwa [List.flatMap_singleton'] at whole
  have slashes (chars : List Char) :
      substitute ['/'] ['~', '1'] 0 (chars.flatMap tildeCode) = chars.flatMap code := by
    refine substitute_flatMap (fun c rest => ?_) chars
    by_cases isSlash : c = '/'
    · simp [substitute, code, tildeCode, isSlash]
    · by_cases isTilde : c = '~' <;>
        simp [substitute, code, tildeCode, isSlash, isTilde, Ne.symm isSlash]
  unfold escape
  rw [toList_replaceAll _ rfl, toList_replaceAll _ rfl]
  exact (congrArg (substitute ['/'] ['~', '1'] 0) tildes).trans (slashes key.toList)

theorem unescape_escape (key : String) : unescape (escape key) = key := by
  have slashes (chars : List Char) :
      substitute ['~', '1'] ['/'] 0 (chars.flatMap code) = chars.flatMap tildeCode := by
    refine substitute_flatMap (fun c rest => ?_) chars
    by_cases isSlash : c = '/'
    · simp [substitute, code, tildeCode, isSlash]
    · by_cases isTilde : c = '~' <;>
        simp [substitute, code, tildeCode, isSlash, isTilde, Ne.symm]
  have tildes (chars : List Char) :
      substitute ['~', '0'] ['~'] 0 (chars.flatMap tildeCode) = chars := by
    have each (c : Char) (rest : List Char) :
        substitute ['~', '0'] ['~'] 0 (tildeCode c ++ rest) =
          [c] ++ substitute ['~', '0'] ['~'] 0 rest := by
      by_cases isTilde : c = '~' <;> simp [substitute, tildeCode, isTilde, Ne.symm]
    have whole := substitute_flatMap each chars
    rwa [List.flatMap_singleton'] at whole
  apply String.toList_inj.mp
  unfold unescape
  rw [toList_replaceAll _ rfl, toList_replaceAll _ rfl, toList_escape]
  exact (congrArg (substitute ['~', '0'] ['~'] 0) (slashes key.toList)).trans (tildes key.toList)

theorem no_slash_escape (key : String) : '/' ∉ (escape key).toList := by
  rw [toList_escape]
  intro member
  obtain ⟨c, _, inCode⟩ := List.mem_flatMap.mp member
  by_cases isSlash : c = '/'
  · simp [code, isSlash] at inCode
  · by_cases isTilde : c = '~'
    · simp [code, tildeCode, isTilde] at inCode
    · simp [code, tildeCode, isSlash, isTilde, Ne.symm isSlash] at inCode

theorem escape_ne_empty {key : String} (filled : key ≠ "") : escape key ≠ "" := by
  intro empty
  apply filled
  rw [← unescape_escape key, empty]
  rfl

/-! Pointers -/

def pointer (keys : List String) : String := "/" ++ glue '/' (keys.map escape)

def address (file : String) (keys : List String) : String := file ++ "#" ++ pointer keys

theorem keys_pointer {keys : List String} (some : keys ≠ []) (filled : "" ∉ keys) :
    Reference.keys (pointer keys) = keys := by
  have glued : pointer keys = glue '/' ("" :: keys.map escape) := by
    rw [glue_cons (by simpa using some)]
    simp [pointer]
  have free : ∀ part ∈ "" :: keys.map escape, '/' ∉ part.toList := by
    intro part member
    rcases List.mem_cons.mp member with rfl | member
    · simp
    · obtain ⟨key, _, rfl⟩ := List.mem_map.mp member
      exact no_slash_escape key
  have kept : (keys.map escape).filter (· ≠ "") = keys.map escape := by
    rw [List.filter_eq_self]
    intro part member
    obtain ⟨key, isKey, rfl⟩ := List.mem_map.mp member
    have filledKey : key ≠ "" := fun same => filled (same ▸ isKey)
    simpa using escape_ne_empty filledKey
  unfold Reference.keys
  rw [glued, pieces_glue (List.cons_ne_nil _ _) free, List.filter_cons_of_neg (by simp), kept,
    List.map_map]
  have undone : unescape ∘ escape = id := funext unescape_escape
  rw [undone, List.map_id]

/-! Files in front of pointers -/

theorem toList_address (file : String) (keys : List String) :
    (address file keys).toList = file.toList ++ '#' :: (pointer keys).toList := by
  simp [address]

theorem classify_own (keys : List String) : classify (address "" keys) = .inside := by
  unfold classify
  rw [toList_address]
  rfl

theorem hasScheme_before {file rest : List Char} (some : file ≠ []) :
    hasScheme (file ++ '#' :: rest) = hasScheme file := by
  have colon : '#' ∉ "://".toList := by decide
  unfold hasScheme
  rw [List.head?_append_of_ne_nil _ some, List.dropWhile_append]
  split
  · next all =>
    rw [List.isEmpty_iff.mp all]
    rfl
  · rw [isPrefixOf_before colon]

theorem classify_file {file : String} (some : file ≠ "") (free : '#' ∉ file.toList)
    (notUrl : classify file ≠ .url) (keys : List String) :
    classify (address file keys) = .outside := by
  have chars : file.toList ≠ [] := by simpa using some
  have start : file.toList.head? ≠ .some '#' := fun first => free (List.mem_of_head? first)
  have noScheme : hasScheme file.toList = false := by
    simpa [classify, start] using notUrl
  unfold classify
  simp only [toList_address, List.head?_append_of_ne_nil _ chars, start, ↓reduceIte,
    hasScheme_before chars, noScheme, Bool.false_eq_true]

end Reference

/-! What keys lead to -/

namespace Yaml.Value

/-- The keys lead from mapping to mapping, and the last one to the value. -/
inductive Reaches : Value → List String → Value → Prop where
  | here (value : Value) : Reaches value [] value
  | key {value inner found : Value} {entries : List (Value × Value)} {key : String}
    {keys : List String} (isMapping : value.entries? = some entries)
    (known : lookup? key entries = some inner) (onward : Reaches inner keys found) :
    Reaches value (key :: keys) found

def Lacks (value : Value) (key : String) : Prop :=
  ∀ entries, value.entries? = some entries → lookup? key entries = none

theorem reaches_or_lacks (value : Value) (keys : List String) :
    (∃ found, value.Reaches keys found) ∨ ∃ before key after inner,
      keys = before ++ key :: after ∧ value.Reaches before inner ∧ inner.Lacks key := by
  induction keys generalizing value with
  | nil => exact .inl ⟨value, .here value⟩
  | cons key rest ih =>
    by_cases lacks : value.Lacks key
    · exact .inr ⟨[], key, rest, value, rfl, .here value, lacks⟩
    · unfold Lacks at lacks
      push Not at lacks
      obtain ⟨entries, isMapping, present⟩ := lacks
      obtain ⟨inner, known⟩ := Option.ne_none_iff_exists'.mp present
      rcases ih inner with ⟨found, onward⟩ | ⟨before, last, after, end_, rfl, onward, lacks⟩
      · exact .inl ⟨found, .key isMapping known onward⟩
      · exact .inr ⟨key :: before, last, after, end_, rfl, .key isMapping known onward, lacks⟩

end Yaml.Value

namespace Reference

variable {reference : String} {value found : Yaml.Value} {before keys : List String}

theorem read_reaches (reaches : value.Reaches before found) (more : List String) :
    read reference (before ++ more) value = read reference more found := by
  induction reaches with
  | here value => rfl
  | key isMapping known onward ih =>
    rw [← ih, List.cons_append]
    unfold read
    rw [List.foldlM_cons]
    simp [follow, isMapping, known, bind, Except.bind]

theorem read_lacks {key : String} (lacks : value.Lacks key) (after : List String) :
    read reference (key :: after) value =
      .error (.invalidSpec (.missingKey reference key)) := by
  unfold read
  rw [List.foldlM_cons]
  cases isMapping : value.entries? with
  | none => simp [follow, isMapping, bind, Except.bind]
  | some entries => simp [follow, isMapping, lacks entries isMapping, bind, Except.bind]

end Reference

namespace Workspace
open Resolve Reference
variable {workspace : Workspace} {scope document : Document} {file : String} {keys : List String}
variable {s t : Session}

def named (workspace : Workspace) (scope : Document) (file : String) : Resolve Document :=
  if file = "" then pure scope else workspace.document (pathFrom scope file)

theorem place_address (notUrl : classify file ≠ .url) (free : '#' ∉ file.toList) :
    workspace.place scope (address file keys) = do
      return (← workspace.named scope file, pointer keys) := by
  unfold named
  by_cases own : file = ""
  · subst own
    rw [place_inside (classify_own keys), toList_address]
    simp
  · have cut : Text.splitFirst '#' (address file keys) = some (file, pointer keys) :=
      Text.splitFirst_append free (pointer keys)
    rw [place_outside (classify_file own free notUrl keys) cut, if_neg own]

theorem readTarget_located {reference : String} {target : Target}
    (located : (workspace.locate scope reference).run s = (.ok target, t)) :
    (workspace.readTarget scope reference).run s =
      ((Reference.read reference target.keys target.document.body).map (target, ·), t) := by
  unfold readTarget
  rw [run_bind, located]
  simp only [run_bind, run_ofExcept]
  cases Reference.read reference target.keys target.document.body with
  | error failure => rfl
  | ok value => rfl

/-- What a reference to these keys comes to when its document is there. -/
structure Addresses (workspace : Workspace) (scope : Document) (reference : String)
    (keys : List String) (document : Document) (s : Session) (t : Session) (target : Target) :
    Prop where
  inDocument : target.document = document
  sameKeys : target.keys = keys
  name : keys.getLast? = some target.name
  located : (workspace.locate scope reference).run s = (.ok target, t)
  found : ∀ value, document.body.Reaches keys value →
    (workspace.readTarget scope reference).run s = (.ok (target, value), t)
  missing : ∀ before key after inner, keys = before ++ key :: after →
    document.body.Reaches before inner → inner.Lacks key →
      (workspace.readTarget scope reference).run s =
        (.error (.invalidSpec (.missingKey reference key)), t)
  total : (∃ value, document.body.Reaches keys value) ∨ ∃ before key after inner,
    keys = before ++ key :: after ∧ document.body.Reaches before inner ∧ inner.Lacks key

/-- A pointer to escaped keys, behind any file that is no URL, is read as these very keys. They are
looked up one after another in the document, and the first one that is missing is named. A document
that cannot be had is the only other failure. -/
theorem pointers_address_keys (workspace : Workspace) (scope : Document) (s : Session)
    {file : String} {keys : List String} (notUrl : classify file ≠ .url)
    (free : '#' ∉ file.toList) (some : keys ≠ []) (filled : "" ∉ keys) :
    (∀ document t, (workspace.named scope file).run s = (.ok document, t) →
      ∃ target, workspace.Addresses scope (address file keys) keys document s t target) ∧
    ∀ failure t, (workspace.named scope file).run s = (.error failure, t) →
      (workspace.readTarget scope (address file keys)).run s = (.error failure, t) := by
  constructor
  · intro document t fetched
    have last : keys.getLast? = .some (keys.getLast some) := List.getLast?_eq_some_getLast some
    have placed : (workspace.place scope (address file keys)).run s =
        (.ok (document, pointer keys), t) := by
      rw [place_address notUrl free]
      exact run_bind_ok.mpr ⟨document, t, fetched, rfl⟩
    let target : Target := ⟨document, keys, keys.getLast some, !workspace.isRoot document⟩
    have located : (workspace.locate scope (address file keys)).run s = (.ok target, t) :=
      locate_of_place placed (keys_pointer some filled).symm last rfl
    have reads := readTarget_located located
    refine ⟨target, rfl, rfl, last, located, ?_, ?_, document.body.reaches_or_lacks keys⟩
    · intro value reaches
      have read : Reference.read (address file keys) keys document.body = .ok value := by
        rw [← List.append_nil keys, read_reaches reaches]
        rfl
      rw [reads, read]
      rfl
    · intro before key after inner split reaches lacks
      have read : Reference.read (address file keys) keys document.body =
          .error (.invalidSpec (.missingKey (address file keys) key)) := by
        rw [split, read_reaches reaches, read_lacks lacks]
      rw [reads, read]
      rfl
  · intro failure t fails
    have placed : (workspace.place scope (address file keys)).run s = (.error failure, t) := by
      rw [place_address notUrl free, run_bind, fails]
    have located : (workspace.locate scope (address file keys)).run s = (.error failure, t) := by
      unfold locate
      rw [run_bind, placed]
    unfold readTarget
    rw [run_bind, located]

end Workspace

namespace OddKeys
open Reference

/-! Keys with all that has a meaning in references. -/

def keys : List String := ["a/b~1", "://#"]

def body : Yaml.Value :=
  .mapping [(.string "a/b~1", .mapping [(.string "://#", .string "here")])]

def root : Document := ⟨Path.ofString "/spec.yaml", .null⟩

def workspace : Workspace where
  root := root
  library := { documents := [(Path.ofString "/other.yaml", .ok body)] }
  tokens := ∅
  renderer := ⟨fun _ => .ok "", fun _ => .ok "", fun _ => .ok ""⟩

theorem odd_keys_are_read : classify "other.yaml" ≠ .url ∧ '#' ∉ "other.yaml".toList ∧
    keys ≠ [] ∧ "" ∉ keys ∧ address "other.yaml" keys = "other.yaml#/a~1b~01/:~1~1#" ∧
    ∃ target t, target.keys = keys ∧ (workspace.readTarget root (address "other.yaml" keys)).run {} =
      (.ok (target, .string "here"), t) := by
  have notUrl : classify "other.yaml" ≠ .url := by decide +kernel
  have free : '#' ∉ "other.yaml".toList := by decide +kernel
  have some : keys ≠ [] := by decide
  have filled : "" ∉ keys := by decide
  have fetched : ((workspace.named root "other.yaml").run {}).1 =
      .ok ⟨Path.ofString "/other.yaml", body⟩ := rfl
  have reaches : body.Reaches keys (.string "here") := .key rfl rfl (.key rfl rfl (.here _))
  obtain ⟨target, addresses⟩ := (Workspace.pointers_address_keys workspace root {} notUrl free some
    filled).1 _ _ (Prod.ext fetched rfl)
  exact ⟨notUrl, free, some, filled, by decide +kernel, target, _, addresses.sameKeys,
    addresses.found _ reaches⟩

end OddKeys

end Typewright
