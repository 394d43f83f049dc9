import ModuleReach.Store.Basic

/-!
# Stores over a directory

A directory of a file tree, seen as a store: the store path `/lib/a.js` is the file `lib/a.js` below the directory.  Links
are followed wherever they lead inside the directory, and refused where they lead out of it.

No file system has names with the character NUL in them, and it is an error of its own to ask one for such a name.  Paths with
that character are outside of what is said here.

## Main definitions

* `DirectoryStore` — a directory that exists.
* `DirectoryStore.open?` — the store over the directory that a path names.
* `DirectoryStore.held` — what there is at a canonical path; `DirectoryStore.read`,
  `DirectoryStore.holds` — the contents and the existence of a file.
* `DirectoryStore.toStore` — the files for a walk.
-/

namespace ModuleReach

/-- A directory of a file tree, seen as a store. -/
structure DirectoryStore where
  /-- The scheme of the URLs of its files. -/
  scheme : String
  /-- The tree that the directory belongs to. -/
  tree : FileTree
  /-- The location of the directory; no link stands on the way to it. -/
  root : Location

namespace DirectoryStore

/-- The store over the directory that a path names, seen from the location `base`. -/
def open? (scheme : String) (tree : FileTree) (base : Location) (path : String) :
    Except Fault DirectoryStore :=
  match tree.resolve? base path with
  | none => .error (.noStoreRoot path)
  | some root =>
    if (tree.node? root).any FileTree.isDirectory then .ok ⟨scheme, tree, root⟩
    else .error (.noStoreRoot root.path)

/-- Where in the tree a canonical path leads: nowhere if its links go round in circles. -/
def real? (s : DirectoryStore) (path : String) : Option Location :=
  s.tree.follow? s.tree.linkCount s.root (FileTree.steps path)

/-- What there is at a canonical path. -/
def held (s : DirectoryStore) (path : String) : Held :=
  match s.real? path with
  | none => .absent
  | some location =>
    if s.root.isPrefixOf location then
      match s.tree.node? location with
      | some (.file content) => .file content
      | _ => .absent
    else .outside s.root.path

/-- The contents of the file that a text names, if there is one. -/
def read (s : DirectoryStore) (path : String) : Except Fault (Option Bytes) :=
  (s.held (Path.normalize path)).answer path

/-- Whether there is a file that a text names. -/
def holds (s : DirectoryStore) (path : String) : Except Fault Bool := (s.read path).map Option.isSome

/-- The longest path at which a walk finds a file.  It stands for the limit that the system sets to the path of a file, which is
4096 bytes for the path on the disk and is counted here in characters of the path in the store.  Longer paths arise only
from links that lead to a directory above themselves, and then without end. -/
def pathLimit : Nat := 4096

/-- There are finitely many texts of bounded length. -/
theorem exists_all_texts (n : Nat) :
    ∃ texts : List (List Char), ∀ s : List Char, s.length ≤ n → s ∈ texts := by
  induction n with
  | zero => exact ⟨[[]], fun s h => by simp [List.length_eq_zero_iff.1 (Nat.le_zero.1 h)]⟩
  | succ n ih =>
    obtain ⟨texts, htexts⟩ := ih
    refine ⟨[] :: (List.range 0x110000).flatMap fun i => texts.map (Char.ofNat i :: ·), ?_⟩
    intro s hs
    cases s with
    | nil => simp
    | cons c rest =>
      refine List.mem_cons_of_mem _ (List.mem_flatMap.2 ⟨c.toNat, ?_, ?_⟩)
      · have : c.val.toNat < 0x110000 := by
          rcases c.valid with h | ⟨_, h⟩
          · exact Nat.lt_trans h (by decide)
          · exact h
        exact List.mem_range.2 this
      · simp only [Char.ofNat_toNat]
        exact List.mem_map.2 ⟨rest, htexts rest (by simpa using hs), rfl⟩

/-- What a walk finds at a canonical path: no file at one that is too long. -/
def walkHeld (s : DirectoryStore) (path : String) : Held :=
  match s.held path with
  | .file content => if path.length ≤ pathLimit then .file content else .absent
  | held => held

theorem walkHeld_of_length_le {s : DirectoryStore} {path : String} (h : path.length ≤ pathLimit) :
    s.walkHeld path = s.held path := by
  unfold walkHeld
  split
  · rename_i hheld
    rw [if_pos h, hheld]
  · rfl

theorem length_le_of_walkHeld {s : DirectoryStore} {path : String} {content : Bytes}
    (h : s.walkHeld path = .file content) : path.length ≤ pathLimit := by
  unfold walkHeld at h
  split at h
  · split at h
    · assumption
    · cases h
  · rename_i hfile
    exact absurd h (hfile content)

/-- The files for a walk. -/
def toStore (s : DirectoryStore) : Store where
  scheme := s.scheme
  held := s.walkHeld
  finite := by
    obtain ⟨texts, htexts⟩ := exists_all_texts pathLimit
    refine ⟨texts.map String.ofList, fun path content h => List.mem_map.2 ⟨path.toList, htexts _ ?_, by simp⟩⟩
    rw [String.length_toList]
    exact length_le_of_walkHeld h

end DirectoryStore

end ModuleReach
