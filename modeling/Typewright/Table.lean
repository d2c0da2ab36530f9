/-!
Tables from names to values that remember the order in which names came. Writing under a name
that is present keeps its position. `put` and `find?` also work on plain lists of pairs, for types
that contain tables of themselves.
-/
namespace Typewright

namespace Pairs

def keys (pairs : List (String × α)) : List String := pairs.map Prod.fst

def put (name : String) (value : α) : List (String × α) → List (String × α)
  | [] => [(name, value)]
  | (key, old) :: rest =>
    if key = name then (name, value) :: rest else (key, old) :: put name value rest

def find? (name : String) : List (String × α) → Option α
  | [] => none
  | (key, value) :: rest => if key = name then some value else find? name rest

/-- Keeps one pair for each name: the first position with the last value. -/
def collect (pairs : List (String × α)) : List (String × α) :=
  pairs.foldl (fun done (name, value) => put name value done) []

theorem keys_put (name : String) (value : α) (pairs : List (String × α)) :
    keys (put name value pairs) = if name ∈ keys pairs then keys pairs else keys pairs ++ [name] := by
  induction pairs with
  | nil => simp [put, keys]
  | cons pair rest ih =>
    obtain ⟨key, old⟩ := pair
    by_cases same : key = name
    · subst same
      simp [put, keys]
    · have other : name ≠ key := fun h => same h.symm
      simp only [put, same, ↓reduceIte, keys, List.map_cons, List.mem_cons] at ih ⊢
      rw [ih]
      by_cases member : name ∈ rest.map Prod.fst <;> simp [member, other]

theorem keys_put_nodup {name : String} {value : α} {pairs : List (String × α)}
    (nodup : (keys pairs).Nodup) : (keys (put name value pairs)).Nodup := by
  rw [keys_put]
  split
  · exact nodup
  · next absent =>
    exact List.nodup_append.mpr ⟨nodup, by simp, by
      intro a ha b hb
      rcases List.mem_singleton.mp hb with rfl
      rintro rfl
      exact absent ha⟩

theorem find?_put (name other : String) (value : α) (pairs : List (String × α)) :
    find? other (put name value pairs) = if other = name then some value else find? other pairs := by
  induction pairs with
  | nil =>
    simp only [put, find?]
    by_cases h : name = other <;> simp [h, eq_comm]
  | cons pair rest ih =>
    obtain ⟨key, old⟩ := pair
    by_cases same : key = name
    · subst same
      by_cases h : key = other
      · simp [put, find?, h]
      · have : other ≠ key := fun e => h e.symm
        simp [put, find?, h, this]
    · by_cases h : key = other
      · subst h
        simp [put, find?, same]
      · simp [put, find?, same, h, ih]

theorem mem_put {name : String} {value : α} {pairs : List (String × α)} {pair : String × α}
    (member : pair ∈ put name value pairs) : pair = (name, value) ∨ pair ∈ pairs := by
  induction pairs with
  | nil => exact .inl (List.mem_singleton.mp member)
  | cons first rest ih =>
    simp only [put] at member
    split at member
    · rcases List.mem_cons.mp member with same | member
      · exact .inl same
      · exact .inr (List.mem_cons_of_mem first member)
    · rcases List.mem_cons.mp member with same | member
      · exact .inr (same ▸ List.mem_cons_self)
      · exact (ih member).imp_right (List.mem_cons_of_mem first)

theorem put_absent {name : String} {value : α} {pairs : List (String × α)}
    (absent : find? name pairs = none) : put name value pairs = pairs ++ [(name, value)] := by
  induction pairs with
  | nil => rfl
  | cons pair rest ih =>
    obtain ⟨key, old⟩ := pair
    simp only [find?] at absent
    split at absent
    · cases absent
    · next other => simp [put, other, ih absent]

theorem mem_foldl_put {pairs done : List (String × α)} {pair : String × α}
    (member : pair ∈ pairs.foldl (fun done (name, value) => put name value done) done) :
    pair ∈ done ∨ pair ∈ pairs := by
  induction pairs generalizing done with
  | nil => exact .inl member
  | cons first rest ih =>
    rcases ih member with before | later
    · rcases mem_put before with same | old
      · exact .inr (same ▸ List.mem_cons_self)
      · exact .inl old
    · exact .inr (List.mem_cons_of_mem first later)

theorem mem_collect {pairs : List (String × α)} {pair : String × α}
    (member : pair ∈ collect pairs) : pair ∈ pairs :=
  (mem_foldl_put member).resolve_left List.not_mem_nil

theorem find?_of_mem {name : String} {value : α} {pairs : List (String × α)}
    (nodup : (keys pairs).Nodup) (member : (name, value) ∈ pairs) :
    find? name pairs = some value := by
  induction pairs with
  | nil => cases member
  | cons pair rest ih =>
    obtain ⟨key, old⟩ := pair
    obtain ⟨absent, distinct⟩ := List.nodup_cons.mp nodup
    rcases List.mem_cons.mp member with same | later
    · cases same
      simp [find?]
    · have other : key ≠ name := by
        rintro rfl
        have inside : key ∈ keys rest := List.mem_map_of_mem (f := Prod.fst) later
        exact absent inside
      simpa [find?, other] using ih distinct later

theorem mem_of_find? {name : String} {value : α} {pairs : List (String × α)}
    (found : find? name pairs = some value) : (name, value) ∈ pairs := by
  induction pairs with
  | nil => cases found
  | cons pair rest ih =>
    obtain ⟨key, old⟩ := pair
    simp only [find?] at found
    split at found
    · next same =>
      cases found
      exact same ▸ List.mem_cons_self
    · exact List.mem_cons_of_mem _ (ih found)

end Pairs

structure Table (α : Type u) where
  entries : List (String × α)
  nodup : (Pairs.keys entries).Nodup := by simp [Pairs.keys]

namespace Table

def empty : Table α := ⟨[], by simp [Pairs.keys]⟩

instance : EmptyCollection (Table α) := ⟨empty⟩
instance : Inhabited (Table α) := ⟨empty⟩

def put (table : Table α) (name : String) (value : α) : Table α :=
  ⟨Pairs.put name value table.entries, Pairs.keys_put_nodup table.nodup⟩

def find? (table : Table α) (name : String) : Option α := Pairs.find? name table.entries

def keys (table : Table α) : List String := Pairs.keys table.entries

def values (table : Table α) : List α := table.entries.map Prod.snd

def size (table : Table α) : Nat := table.entries.length

def ofList (pairs : List (String × α)) : Table α :=
  pairs.foldl (fun table (name, value) => table.put name value) ∅

@[simp] theorem find?_empty (name : String) : (∅ : Table α).find? name = none := rfl

@[simp] theorem find?_put (table : Table α) (name other : String) (value : α) :
    (table.put name value).find? other = if other = name then some value else table.find? other :=
  Pairs.find?_put name other value table.entries

theorem keys_put (table : Table α) (name : String) (value : α) :
    (table.put name value).keys =
      if name ∈ table.keys then table.keys else table.keys ++ [name] :=
  Pairs.keys_put name value table.entries

theorem mem_foldl_put {pairs : List (String × α)} {table : Table α} {pair : String × α}
    (member : pair ∈ (pairs.foldl (fun table (name, value) => table.put name value) table).entries) :
    pair ∈ table.entries ∨ pair ∈ pairs := by
  induction pairs generalizing table with
  | nil => exact .inl member
  | cons first rest ih =>
    rcases ih member with before | later
    · rcases Pairs.mem_put before with same | old
      · exact .inr (same ▸ List.mem_cons_self)
      · exact .inl old
    · exact .inr (List.mem_cons_of_mem first later)

theorem mem_ofList {pairs : List (String × α)} {pair : String × α}
    (member : pair ∈ (ofList pairs).entries) : pair ∈ pairs :=
  (mem_foldl_put member).resolve_left List.not_mem_nil

theorem mem_entries_iff {table : Table α} {name : String} {value : α} :
    (name, value) ∈ table.entries ↔ table.find? name = some value :=
  ⟨Pairs.find?_of_mem table.nodup, Pairs.mem_of_find?⟩

end Table

end Typewright
