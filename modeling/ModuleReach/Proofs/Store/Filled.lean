import ModuleReach.Store.Memory
import ModuleReach.Proofs.Resolution.Lookup

/-!
# Stores that were filled file by file

A store in memory is intact if the contents for every digest of its index are there.  Writing a file keeps a store intact: the
contents that it drops are those that no path points at.  In an intact store a written file is there, and all other
files stay as they are.

## Main definitions

* `MemoryStore.Intact` — the contents of every file are there.

## Main results

* `MemoryStore.intact_ofFiles` — a store filled file by file is intact.
* `MemoryStore.has_put`, `MemoryStore.content?_put_of_ne` — what there is after writing a file.
-/

namespace ModuleReach

namespace InsertionMap

variable {κ α : Type} [DecidableEq κ] {m : InsertionMap κ α}

/-- A write that is made only if the key is new leaves a value there. -/
theorem isSome_get?_insertNew (key : κ) (value : α) :
    ((m.insertNew key value).get? key).isSome = true := by
  unfold insertNew
  split
  · assumption
  · rw [get?_insert, if_pos rfl]
    rfl

/-- A write that is made only if the key is new changes no value that is there. -/
theorem get?_insertNew_of_isSome {key k : κ} {value : α} (h : (m.get? k).isSome = true) :
    (m.insertNew key value).get? k = m.get? k := by
  unfold insertNew
  split
  · rfl
  · rename_i hnew
    have hne : key ≠ k := by
      rintro rfl
      exact hnew h
    rw [get?_insert, if_neg hne]

/-- A removed key is gone. -/
theorem get?_erase_self (key : κ) : (m.erase key).get? key = none := by
  rw [get?_eq_none_iff]
  intro hmem
  obtain ⟨e, he, hkey⟩ := List.mem_map.1 hmem
  have hne : e.1 ≠ key := by simpa [erase] using (List.mem_filter.1 he).2
  exact hne hkey

/-- Removing a key changes nothing at the others. -/
theorem get?_erase_of_ne {key k : κ} (h : k ≠ key) : (m.erase key).get? k = m.get? k := by
  unfold get? erase
  dsimp only
  induction m.entries with
  | nil => rfl
  | cons e rest ih =>
    obtain ⟨k', v⟩ := e
    by_cases hk : k' = key
    · subst hk
      rw [List.filter_cons_of_neg (by simp), ih, lookup, if_neg (Ne.symm h)]
    · rw [List.filter_cons_of_pos (by simpa using hk), lookup, lookup, ih]

/-- A value that is found at a key is written at this key. -/
theorem mem_of_lookup {key : κ} {value : α} {entries : List (κ × α)} (h : lookup key entries = some value) :
    (key, value) ∈ entries := by
  induction entries with
  | nil => cases h
  | cons e rest ih =>
    obtain ⟨k, v⟩ := e
    rw [lookup] at h
    split at h
    · rename_i hkey
      cases h
      exact hkey ▸ List.mem_cons_self
    · exact List.mem_cons_of_mem _ (ih h)

/-- A value that is found is one of the values. -/
theorem mem_values_of_get? {key : κ} {value : α} (h : m.get? key = some value) :
    value ∈ m.values :=
  List.mem_map.2 ⟨(key, value), mem_of_lookup h, rfl⟩

end InsertionMap

namespace MemoryStore

variable {m : MemoryStore}

/-- A store in which the contents of every file are there. -/
def Intact (m : MemoryStore) : Prop :=
  ∀ path digest, m.index.get? path = some digest → (m.blobs.get? digest).isSome = true

theorem intact_empty (scheme : String) : (empty scheme).Intact := by
  intro path digest h
  cases h

/-- Contents that a path points at are not dropped. -/
theorem get?_dropUnused {digest : String} {index : InsertionMap String String}
    {blobs : InsertionMap String Bytes} {path digest' : String} (h : index.get? path = some digest') :
    (dropUnused digest index blobs).get? digest' = blobs.get? digest' := by
  unfold dropUnused
  split
  · rfl
  · rename_i hunused
    refine InsertionMap.get?_erase_of_ne ?_
    rintro rfl
    exact hunused (InsertionMap.mem_values_of_get? h)

theorem index_put (path : String) (content : Bytes) :
    (m.put path content).index = m.index.insert (Path.normalize path) (Sha256.digest content) := by
  unfold put
  dsimp only
  split <;> rfl

/-- The contents that paths point at after a write are those of before, with the ones written. -/
theorem get?_blobs_put {path q digest : String} {content : Bytes}
    (h : (m.put path content).index.get? q = some digest) :
    (m.put path content).blobs.get? digest =
      (m.blobs.insertNew (Sha256.digest content) content).get? digest := by
  rw [index_put] at h
  unfold put
  dsimp only
  split
  · rfl
  · exact get?_dropUnused h

/-- Writing a file keeps a store intact. -/
theorem Intact.put (hm : m.Intact) (path : String) (content : Bytes) : (m.put path content).Intact := by
  intro q digest h
  rw [get?_blobs_put h]
  rw [index_put, InsertionMap.get?_insert] at h
  split at h
  · cases h
    exact InsertionMap.isSome_get?_insertNew _ _
  · have hold := hm q digest h
    rw [InsertionMap.get?_insertNew_of_isSome hold]
    exact hold

/-- A store filled file by file is intact. -/
theorem intact_ofFiles (scheme : String) (files : List (String × Bytes)) :
    (ofFiles scheme files).Intact := by
  have grow : ∀ (files : List (String × Bytes)) (m : MemoryStore), m.Intact →
      (files.foldl (fun m f => m.put f.1 f.2) m).Intact := by
    intro files
    induction files with
    | nil =>
      intro m hm
      exact hm
    | cons f rest ih =>
      intro m hm
      exact ih _ (hm.put f.1 f.2)
  exact grow files _ (intact_empty scheme)

/-- The contents of a file are those for its digest. -/
theorem content?_toStore (m : MemoryStore) (path : String) :
    m.toStore.content? path = m.content? (Path.normalize path) := by
  unfold Store.content? toStore held
  dsimp only
  cases m.content? (Path.normalize path) <;> rfl

/-- A written file is there. -/
theorem has_put (m : MemoryStore) (path : String) (content : Bytes) :
    (m.put path content).toStore.has path = true := by
  have hindex : (m.put path content).index.get? (Path.normalize path) =
      some (Sha256.digest content) := by
    rw [index_put, InsertionMap.get?_insert, if_pos rfl]
  rw [Store.has, content?_toStore, MemoryStore.content?, hindex, Option.bind_some,
    get?_blobs_put hindex]
  exact InsertionMap.isSome_get?_insertNew _ _

/-- A write changes nothing at the other paths of an intact store. -/
theorem content?_put_of_ne (hm : m.Intact) {path q : String} (content : Bytes)
    (h : Path.normalize q ≠ Path.normalize path) :
    (m.put path content).toStore.content? q = m.toStore.content? q := by
  have hindex : (m.put path content).index.get? (Path.normalize q) =
      m.index.get? (Path.normalize q) := by
    rw [index_put, InsertionMap.get?_insert, if_neg (Ne.symm h)]
  rw [content?_toStore, content?_toStore, MemoryStore.content?, MemoryStore.content?]
  cases hdigest : m.index.get? (Path.normalize q) with
  | none =>
    rw [hindex, hdigest]
    rfl
  | some digest =>
    have hput := hindex.trans hdigest
    rw [hput, Option.bind_some, Option.bind_some, get?_blobs_put hput,
      InsertionMap.get?_insertNew_of_isSome (hm _ _ hdigest)]

/-- The first file of a store is there, and no other one. -/
theorem content?_put_empty (scheme path q : String) (content : Bytes) :
    ((empty scheme).put path content).toStore.content? q =
      if Path.normalize path = Path.normalize q then some content else none := by
  have hblobs : ((empty scheme).put path content).blobs =
      (∅ : InsertionMap String Bytes).insert (Sha256.digest content) content := by
    have hindex : (empty scheme).index = ∅ := rfl
    unfold put
    dsimp only
    rw [hindex, InsertionMap.get?_empty]
    rfl
  rw [content?_toStore, MemoryStore.content?, index_put, InsertionMap.get?_insert]
  split
  · rw [Option.bind_some, hblobs, InsertionMap.get?_insert, if_pos rfl]
  · rfl

end MemoryStore

end ModuleReach
