/-!
# Maps in insertion order

A map that remembers in which order its keys first came.  Writing to a key that is present replaces its value and
keeps its place; a new key goes to the end.  No key occurs twice, and the type says so.

## Main definitions

* `InsertionMap` — the maps.
* `InsertionMap.get?`, `InsertionMap.insert`, `InsertionMap.keys` — look-up, writing, and the keys in order.
* `InsertionMap.insertNew`, `InsertionMap.erase` — writing to new keys only, and removing a key.
* `InsertionMap.union` — one map written over another.
* `InsertionMap.ofList` — the map left by writing a list of pairs in order.

## Main results

* `InsertionMap.get?_insert` — a write is seen at its key and nowhere else.
* `InsertionMap.keys_insert` — a write adds its key at the end, unless it is present.
-/

namespace ModuleReach

/-- A map with its entries in the order in which their keys first came. -/
structure InsertionMap (κ α : Type) where
  /-- The keys with their values. -/
  entries : List (κ × α)
  /-- No key occurs twice. -/
  nodup : (entries.map Prod.fst).Nodup

namespace InsertionMap

variable {κ α : Type}

/-- The map without entries. -/
def empty : InsertionMap κ α := ⟨[], List.nodup_nil⟩

instance : EmptyCollection (InsertionMap κ α) := ⟨empty⟩

instance : Inhabited (InsertionMap κ α) := ⟨empty⟩

@[ext] theorem ext {m n : InsertionMap κ α} (h : m.entries = n.entries) : m = n := by
  cases m; cases n; cases h; rfl

/-- The keys in order. -/
def keys (m : InsertionMap κ α) : List κ := m.entries.map Prod.fst

/-- The values in the order of their keys. -/
def values (m : InsertionMap κ α) : List α := m.entries.map Prod.snd

/-- The number of keys. -/
def size (m : InsertionMap κ α) : Nat := m.entries.length

variable [DecidableEq κ]

/-- The first value that a list of pairs gives to a key. -/
def lookup (key : κ) : List (κ × α) → Option α
  | [] => none
  | (k, v) :: rest => if k = key then some v else lookup key rest

/-- A list of pairs after a write: at the key's place if it has one, at the end if not. -/
def write (key : κ) (value : α) : List (κ × α) → List (κ × α)
  | [] => [(key, value)]
  | (k, v) :: rest => if k = key then (k, value) :: rest else (k, v) :: write key value rest

@[simp] theorem lookup_nil (key : κ) : lookup key ([] : List (κ × α)) = none := rfl

@[simp] theorem write_nil (key : κ) (value : α) : write key value [] = [(key, value)] := rfl

theorem lookup_write (key k : κ) (value : α) (entries : List (κ × α)) :
    lookup k (write key value entries) = if key = k then some value else lookup k entries := by
  induction entries with
  | nil => simp [write, lookup]
  | cons e rest ih =>
    obtain ⟨k', v⟩ := e
    by_cases h : k' = key
    · subst h
      by_cases h' : k' = k <;> simp [write, lookup, h']
    · by_cases h' : k' = k
      · subst h'
        simp [write, lookup, h, Ne.symm h]
      · simp [write, lookup, h, h', ih]

theorem lookup_eq_none_iff {key : κ} {entries : List (κ × α)} :
    lookup key entries = none ↔ key ∉ entries.map Prod.fst := by
  induction entries with
  | nil => simp
  | cons e rest ih =>
    by_cases h : e.1 = key
    · simp [lookup, h]
    · simp [lookup, h, ih, Ne.symm h]

theorem keys_write (key : κ) (value : α) (entries : List (κ × α)) :
    (write key value entries).map Prod.fst =
      if key ∈ entries.map Prod.fst then entries.map Prod.fst
      else entries.map Prod.fst ++ [key] := by
  induction entries with
  | nil => simp
  | cons e rest ih =>
    by_cases h : e.1 = key
    · simp [write, h]
    · simp only [write, h, if_false, List.map_cons, ih, List.mem_cons, Ne.symm h, false_or]
      split <;> simp

/-- The value at a key. -/
def get? (m : InsertionMap κ α) (key : κ) : Option α := lookup key m.entries

/-- Whether a key is present. -/
def contains (m : InsertionMap κ α) (key : κ) : Bool := (m.get? key).isSome

/-- The map after a write. -/
def insert (m : InsertionMap κ α) (key : κ) (value : α) : InsertionMap κ α where
  entries := write key value m.entries
  nodup := by
    rw [keys_write]
    split
    · exact m.nodup
    · rename_i h
      exact List.nodup_append.2 ⟨m.nodup, by simp, by rintro a ha b hb rfl; simp_all⟩

/-- The map after a write that is made only if the key is new. -/
def insertNew (m : InsertionMap κ α) (key : κ) (value : α) : InsertionMap κ α :=
  if m.contains key then m else m.insert key value

/-- The map without a key. -/
def erase (m : InsertionMap κ α) (key : κ) : InsertionMap κ α where
  entries := m.entries.filter (·.1 ≠ key)
  nodup := m.nodup.sublist (List.filter_sublist.map _)

/-- The first map with every entry of the second written over it. -/
def union (m n : InsertionMap κ α) : InsertionMap κ α :=
  n.entries.foldl (fun m e => m.insert e.1 e.2) m

/-- The map left by writing a list of pairs in order. -/
def ofList (entries : List (κ × α)) : InsertionMap κ α :=
  entries.foldl (fun m e => m.insert e.1 e.2) ∅

/-- A write is seen at its key and nowhere else. -/
@[simp] theorem get?_insert (m : InsertionMap κ α) (key k : κ) (value : α) :
    (m.insert key value).get? k = if key = k then some value else m.get? k :=
  lookup_write key k value m.entries

theorem get?_eq_none_iff {m : InsertionMap κ α} {key : κ} : m.get? key = none ↔ key ∉ m.keys :=
  lookup_eq_none_iff

theorem contains_iff {m : InsertionMap κ α} {key : κ} : m.contains key = true ↔ key ∈ m.keys := by
  rw [contains, Option.isSome_iff_ne_none, ne_eq, get?_eq_none_iff, Classical.not_not]

/-- A write adds its key at the end, unless it is present. -/
theorem keys_insert (m : InsertionMap κ α) (key : κ) (value : α) :
    (m.insert key value).keys = if key ∈ m.keys then m.keys else m.keys ++ [key] :=
  keys_write key value m.entries

omit [DecidableEq κ] in
@[simp] theorem keys_empty : (∅ : InsertionMap κ α).keys = [] := rfl

@[simp] theorem get?_empty (key : κ) : (∅ : InsertionMap κ α).get? key = none := rfl

end InsertionMap

end ModuleReach
