/-!
Sets of names in increasing order. The order is part of the type, so equal sets are equal values
and every listing of a set is sorted.
-/
namespace Typewright

structure NameSet where
  toList : List String
  increasing : toList.Pairwise (· < ·) := by simp
deriving DecidableEq

namespace NameSet

def place (name : String) : List String → List String
  | [] => [name]
  | first :: rest =>
    if name < first then name :: first :: rest
    else if first < name then first :: place name rest
    else first :: rest

theorem mem_place {name other : String} {names : List String} :
    other ∈ place name names ↔ other = name ∨ other ∈ names := by
  induction names with
  | nil => simp [place]
  | cons first rest ih =>
    simp only [place]
    split
    · simp
    · split
      · simp only [List.mem_cons, ih]
        constructor <;> (rintro (h | h | h) <;> simp [h])
      · next notLess notGreater =>
        have same : first = name :=
          String.le_antisymm (String.not_lt.mp notLess) (String.not_lt.mp notGreater)
        subst same
        simp

theorem place_increasing {name : String} {names : List String}
    (ordered : names.Pairwise (· < ·)) : (place name names).Pairwise (· < ·) := by
  induction names with
  | nil => simp [place]
  | cons first rest ih =>
    rw [List.pairwise_cons] at ordered
    simp only [place]
    split
    · next less =>
      refine List.pairwise_cons.mpr ⟨?_, List.pairwise_cons.mpr ordered⟩
      intro other member
      rcases List.mem_cons.mp member with rfl | member
      · exact less
      · exact String.lt_trans less (ordered.1 other member)
    · split
      · next greater =>
        refine List.pairwise_cons.mpr ⟨?_, ih ordered.2⟩
        intro other member
        rcases mem_place.mp member with rfl | member
        · exact greater
        · exact ordered.1 other member
      · exact List.pairwise_cons.mpr ordered

def empty : NameSet := ⟨[], by simp⟩

instance : EmptyCollection NameSet := ⟨empty⟩
instance : Inhabited NameSet := ⟨empty⟩
instance : Membership String NameSet := ⟨fun set name => name ∈ set.toList⟩
instance (name : String) (set : NameSet) : Decidable (name ∈ set) :=
  inferInstanceAs (Decidable (name ∈ set.toList))

def insert (set : NameSet) (name : String) : NameSet :=
  ⟨place name set.toList, place_increasing set.increasing⟩

def erase (set : NameSet) (name : String) : NameSet :=
  ⟨set.toList.filter (· ≠ name), set.increasing.sublist List.filter_sublist⟩

def union (a b : NameSet) : NameSet := b.toList.foldl insert a

instance : Union NameSet := ⟨union⟩

def ofList (names : List String) : NameSet := names.foldl insert ∅

@[simp] theorem mem_toList {name : String} {set : NameSet} : name ∈ set.toList ↔ name ∈ set :=
  Iff.rfl

@[simp] theorem not_mem_empty (name : String) : name ∉ (∅ : NameSet) := List.not_mem_nil

@[simp] theorem mem_insert {name other : String} {set : NameSet} :
    other ∈ set.insert name ↔ other = name ∨ other ∈ set := mem_place

@[simp] theorem mem_erase {name other : String} {set : NameSet} :
    other ∈ set.erase name ↔ other ∈ set ∧ other ≠ name := by
  show other ∈ set.toList.filter (· ≠ name) ↔ _
  simp

theorem mem_foldl_insert {name : String} {names : List String} {set : NameSet} :
    name ∈ names.foldl insert set ↔ name ∈ set ∨ name ∈ names := by
  induction names generalizing set with
  | nil => simp
  | cons first rest ih =>
    simp only [List.foldl_cons, ih, mem_insert, List.mem_cons, or_assoc]
    exact or_left_comm

@[simp] theorem mem_union {name : String} {a b : NameSet} : name ∈ a ∪ b ↔ name ∈ a ∨ name ∈ b :=
  mem_foldl_insert

@[simp] theorem mem_ofList {name : String} {names : List String} :
    name ∈ ofList names ↔ name ∈ names := by
  simp [ofList, mem_foldl_insert]

@[ext] theorem ext_mem {a b : NameSet} (same : ∀ name, name ∈ a ↔ name ∈ b) : a = b := by
  have distinct : ∀ set : NameSet, set.toList.Nodup := fun set =>
    set.increasing.imp fun less => String.ne_of_lt less
  have equal : a.toList = b.toList :=
    ((List.perm_ext_iff_of_nodup (distinct a) (distinct b)).mpr same).eq_of_pairwise
      (fun _ _ _ _ less greater => absurd greater (String.lt_asymm less)) a.increasing b.increasing
  cases a
  cases b
  cases equal
  rfl

theorem erase_insert (set : NameSet) (name : String) :
    (set.insert name).erase name = set.erase name := by
  ext other
  simp only [mem_erase, mem_insert]
  constructor
  · rintro ⟨rfl | member, other⟩
    · exact absurd rfl other
    · exact ⟨member, other⟩
  · exact fun ⟨member, other⟩ => ⟨.inr member, other⟩

end NameSet

end Typewright
