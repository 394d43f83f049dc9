import ModuleReach.Digest.Sha256
import ModuleReach.InsertionMap
import ModuleReach.Store.Basic

/-!
# Stores in memory

A store that is filled file by file.  Contents are kept once per digest, and paths point at digests, so that files with equal
contents share them.  Contents that no path points at any more are dropped.

## Main definitions

* `MemoryStore` — the index from paths to digests, and the contents by digest.
* `MemoryStore.put` — the store after writing a file.
* `MemoryStore.digest?`, `MemoryStore.paths`, `MemoryStore.blobCount` — the digest at a path, the paths, and the number of
  different contents.
* `MemoryStore.toStore` — the files for reading.

## Main results

* `MemoryStore.closed_toStore` — nothing that is looked for in a store in memory is a fault.
* `MemoryStore.nestsWithin_of_keys` — a bound on how deep manifests nest, from the paths of the index.
-/

namespace ModuleReach

/-- A store that is filled file by file. -/
structure MemoryStore where
  /-- The scheme of the URLs of its files. -/
  scheme : String
  /-- The digest of the contents at each canonical path. -/
  index : InsertionMap String String
  /-- The contents with each digest. -/
  blobs : InsertionMap String Bytes

namespace MemoryStore

/-- The store without files. -/
def empty (scheme : String) : MemoryStore := ⟨scheme, ∅, ∅⟩

/-- The contents by digest, without those of `digest` if no path of the index points at them. -/
def dropUnused (digest : String) (index : InsertionMap String String)
    (blobs : InsertionMap String Bytes) : InsertionMap String Bytes :=
  if digest ∈ index.values then blobs else blobs.erase digest

/-- The store after writing a file. -/
def put (s : MemoryStore) (path : String) (content : Bytes) : MemoryStore :=
  let key := Path.normalize path
  let digest := Sha256.digest content
  let index := s.index.insert key digest
  let blobs := s.blobs.insertNew digest content
  match s.index.get? key with
  | none => { s with index, blobs }
  | some previous => { s with index, blobs := dropUnused previous index blobs }

/-- The store with the given files, written in order. -/
def ofFiles (scheme : String) (files : List (String × Bytes)) : MemoryStore :=
  files.foldl (fun s f => s.put f.1 f.2) (empty scheme)

/-- The digest of the contents at the path that a text names. -/
def digest? (s : MemoryStore) (path : String) : Option String := s.index.get? (Path.normalize path)

/-- The contents at a canonical path. -/
def content? (s : MemoryStore) (path : String) : Option Bytes :=
  (s.index.get? path).bind s.blobs.get?

/-- The canonical paths at which there are files, in order of code points. -/
def paths (s : MemoryStore) : List String := s.index.keys.mergeSort fun p q => decide (p ≤ q)

/-- The number of different contents. -/
def blobCount (s : MemoryStore) : Nat := s.blobs.size

/-- The number of files. -/
def size (s : MemoryStore) : Nat := s.index.size

/-- What there is at a canonical path. -/
def held (s : MemoryStore) (path : String) : Held :=
  match s.content? path with
  | some content => .file content
  | none => .absent

/-- A path with a file is in the index. -/
theorem mem_keys_of_held {s : MemoryStore} {path : String} {content : Bytes}
    (h : s.held path = .file content) : path ∈ s.index.keys := by
  apply Classical.not_not.1
  intro hkey
  have hnone := InsertionMap.get?_eq_none_iff.2 hkey
  simp [held, content?, hnone] at h

/-- The files for reading. -/
def toStore (s : MemoryStore) : Store where
  scheme := s.scheme
  held := s.held
  finite := ⟨s.index.keys, fun _ _ => mem_keys_of_held⟩

/-- No file of a store in memory is a link out of it, and its manifests may nest without limit. -/
theorem closed_toStore (s : MemoryStore) : s.toStore.Closed where
  ne_outside path root h := by
    simp only [toStore, held] at h
    split at h <;> cases h
  readable _ _ _ _ := rfl

/-- A bound on how deep manifests nest holds if it does at the paths of the index. -/
theorem nestsWithin_of_keys {s : MemoryStore} {bound : Nat}
    (h : ∀ path ∈ s.index.keys, Path.name path = "package.json" →
      ((s.content? path).bind fun content => (Utf8.decode content).toOption).all
        (fun text => Json.depth text ≤ bound) = true) : s.toStore.NestsWithin bound := by
  intro path content text hname hread htext
  change (s.held (Path.normalize path)).answer path = .ok (some content) at hread
  cases hcontent : s.content? (Path.normalize path) with
  | none => simp [held, hcontent, Held.answer] at hread
  | some found =>
    have hheld : s.held (Path.normalize path) = .file found := by
      unfold held
      rw [hcontent]
    have hkey := h _ (mem_keys_of_held hheld) hname
    rw [hheld] at hread
    cases hread
    rw [hcontent, Option.bind_some, htext] at hkey
    simpa [Except.toOption] using hkey

end MemoryStore

end ModuleReach
