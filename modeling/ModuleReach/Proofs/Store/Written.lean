import Mathlib.Data.Set.Card
import ModuleReach.Proofs.Store.Filled

/-!
# What a store holds of what was written

A store that is filled file by file holds at each path what was written there last, in whatever spelling of
the path.  Contents are kept once for each digest.  What is still at some path is kept, however often other
files were written over it, and what is at no path any more is gone.

The store knows contents only by their digests, so all this needs that different contents among those written
have different digests.

## Main definitions

* `MemoryStore.lastWritten` — what was written last to a path.
* `MemoryStore.ToldApart` — contents of which no two have one digest.
* `MemoryStore.Tracks` — what each write keeps: the index and the contents follow from what was written.
* `MemoryStore.Records` — the stores that hold just what was written last.

## Main results

* `MemoryStore.Tracks.put` — the step: one more write.
* `MemoryStore.records_ofFiles` — after each write a store holds just what was written last.
-/

namespace ModuleReach

/-! ### Values and their keys -/

namespace InsertionMap

variable {κ α : Type} [DecidableEq κ] {m : InsertionMap κ α}

/-- Every value is found at some key. -/
theorem exists_get?_of_mem_values {value : α} (h : value ∈ m.values) :
    ∃ key, m.get? key = some value := by
  obtain ⟨entries, hnodup⟩ := m
  change value ∈ entries.map Prod.snd at h
  change ∃ key, lookup key entries = some value
  induction entries with
  | nil => cases h
  | cons e rest ih =>
    obtain ⟨k, v⟩ := e
    obtain ⟨hfresh, hrest⟩ := List.nodup_cons.1 hnodup
    rcases List.mem_cons.1 h with rfl | h
    · exact ⟨k, if_pos rfl⟩
    · obtain ⟨key, hkey⟩ := ih hrest h
      -- The first key is not among the others, so it does not hide the one that is found.
      have hne : k ≠ key := by
        rintro rfl
        have hnone := lookup_eq_none_iff.2 hfresh
        cases hnone.symm.trans hkey
      exact ⟨key, (if_neg hne).trans hkey⟩

theorem mem_values_iff {value : α} : value ∈ m.values ↔ ∃ key, m.get? key = some value :=
  ⟨exists_get?_of_mem_values, fun ⟨_, h⟩ => mem_values_of_get? h⟩

theorem mem_keys_iff {key : κ} : key ∈ m.keys ↔ ∃ value, m.get? key = some value := by
  rw [← contains_iff, contains, Option.isSome_iff_exists]

/-- There are as many keys as the size says. -/
theorem size_eq_ncard : m.size = {key | key ∈ m.keys}.ncard := by
  have hset : {key | key ∈ m.keys} = (m.keys.toFinset : Set κ) := by
    ext key
    simp
  have hnodup : m.keys.Nodup := m.nodup
  rw [hset, Set.ncard_coe_finset, List.toFinset_card_of_nodup hnodup, keys, List.length_map, size]

end InsertionMap

namespace MemoryStore

variable {m : MemoryStore} {files : List (String × Bytes)}

/-! ### What was written -/

/-- What was written last to the path that a text names. -/
def lastWritten (files : List (String × Bytes)) (path : String) : Option Bytes :=
  (files.reverse.find? fun f => Path.normalize f.1 == Path.normalize path).map (·.2)

/-- Contents of which no two have one digest. -/
def ToldApart (contents : List Bytes) : Prop :=
  ∀ c ∈ contents, ∀ d ∈ contents, Sha256.digest c = Sha256.digest d → c = d

instance (contents : List Bytes) : Decidable (ToldApart contents) :=
  inferInstanceAs (Decidable (∀ c ∈ contents, ∀ d ∈ contents, _ → _))

theorem ToldApart.subset {contents others : List Bytes} (h : ToldApart contents) (hsub : others ⊆ contents) :
    ToldApart others :=
  fun c hc d hd => h c (hsub hc) d (hsub hd)

@[simp] theorem lastWritten_nil (path : String) : lastWritten [] path = none := rfl

/-- One more write is the last one at its path and changes nothing at the others. -/
theorem lastWritten_append (files : List (String × Bytes)) (path q : String) (content : Bytes) :
    lastWritten (files ++ [(path, content)]) q =
      if Path.normalize path = Path.normalize q then some content else lastWritten files q := by
  unfold lastWritten
  rw [List.reverse_append, List.reverse_singleton, List.singleton_append]
  by_cases h : Path.normalize path = Path.normalize q
  · rw [if_pos h, List.find?_cons_of_pos (by simpa using h), Option.map_some]
  · rw [if_neg h, List.find?_cons_of_neg (by simpa using h)]

@[simp] theorem lastWritten_normalize (files : List (String × Bytes)) (path : String) :
    lastWritten files (Path.normalize path) = lastWritten files path := by
  rw [lastWritten, lastWritten, Path.normalize_normalize]

/-- Something was written to a path exactly if it is the path of one of the files. -/
theorem exists_lastWritten_iff {path : String} :
    (∃ content, lastWritten files path = some content) ↔
      ∃ f ∈ files, Path.normalize f.1 = Path.normalize path := by
  unfold lastWritten
  rw [← Option.isSome_iff_exists, Option.isSome_map, List.find?_isSome]
  simp

theorem mem_of_lastWritten {path : String} {content : Bytes} (h : lastWritten files path = some content) :
    content ∈ files.map (·.2) := by
  obtain ⟨f, hf, rfl⟩ := Option.map_eq_some_iff.1 h
  have hmem := List.mem_of_find?_eq_some hf
  exact List.mem_map.2 ⟨f, List.mem_reverse.1 hmem, rfl⟩

/-! ### What each write keeps -/

/-- A store whose index and contents follow from what was written. -/
structure Tracks (m : MemoryStore) (files : List (String × Bytes)) : Prop where
  /-- A canonical path has the digest of what was written to it last. -/
  index : ∀ path digest, m.index.get? path = some digest ↔
    Path.normalize path = path ∧ (lastWritten files path).map Sha256.digest = some digest
  /-- Under a digest there is what was written last to some path and has this digest. -/
  blobs : ∀ digest content, m.blobs.get? digest = some content ↔
    (∃ path, lastWritten files path = some content) ∧ Sha256.digest content = digest

theorem tracks_empty (scheme : String) : (empty scheme).Tracks [] where
  index path digest := by simp [empty]
  blobs digest content := by simp [empty]

/-- The digest of what was written to a path is in the index. -/
theorem Tracks.get?_index (hm : m.Tracks files) {path : String} {content : Bytes}
    (h : lastWritten files path = some content) :
    m.index.get? (Path.normalize path) = some (Sha256.digest content) := by
  refine (hm.index _ _).2 ⟨Path.normalize_normalize path, ?_⟩
  rw [lastWritten_normalize, h, Option.map_some]

/-- The index after a write. -/
theorem Tracks.index_put (hm : m.Tracks files) (path : String) (content : Bytes) (q digest : String) :
    (m.put path content).index.get? q = some digest ↔ Path.normalize q = q ∧
      (lastWritten (files ++ [(path, content)]) q).map Sha256.digest = some digest := by
  rw [MemoryStore.index_put, InsertionMap.get?_insert, lastWritten_append]
  by_cases hpath : Path.normalize path = q
  · subst hpath
    have hq : Path.normalize path = Path.normalize (Path.normalize path) :=
      (Path.normalize_normalize path).symm
    rw [if_pos rfl, if_pos hq, Option.map_some]
    exact (and_iff_right hq.symm).symm
  · rw [if_neg hpath, hm.index]
    refine and_congr_right fun hq => ?_
    rw [if_neg (by rwa [hq])]

/-- A digest that no path points at after a write has no contents. -/
theorem Tracks.get?_blobs_put_of_unused (hm : m.Tracks files) {path digest : String} {content : Bytes}
    (h : digest ∉ (m.put path content).index.values) :
    (m.put path content).blobs.get? digest = none := by
  have hunused : ∀ q, (m.put path content).index.get? q ≠ some digest :=
    fun q hq => h (InsertionMap.mem_values_of_get? hq)
  have hnew : Sha256.digest content ≠ digest := by
    intro heq
    refine hunused (Path.normalize path) ?_
    rw [MemoryStore.index_put, InsertionMap.get?_insert, if_pos rfl, heq]
  have hinsert : (m.blobs.insertNew (Sha256.digest content) content).get? digest = m.blobs.get? digest := by
    unfold InsertionMap.insertNew
    split
    · rfl
    · rw [InsertionMap.get?_insert, if_neg hnew]
  -- Had the digest contents before, some path pointed at it, and only the one written to does so no longer.
  have hprevious : m.index.get? (Path.normalize path) ≠ some digest → m.blobs.get? digest = none := by
    intro hother
    rw [Option.eq_none_iff_forall_ne_some]
    intro old hold
    obtain ⟨⟨q, hq⟩, hdigest⟩ := (hm.blobs _ _).1 hold
    have hindex : m.index.get? (Path.normalize q) = some digest := hdigest ▸ hm.get?_index hq
    have hne : Path.normalize path ≠ Path.normalize q := by
      intro heq
      exact hother (heq ▸ hindex)
    refine hunused (Path.normalize q) ?_
    rw [MemoryStore.index_put, InsertionMap.get?_insert, if_neg hne, hindex]
  have hvalues : digest ∉ (m.index.insert (Path.normalize path) (Sha256.digest content)).values := by
    rwa [← MemoryStore.index_put]
  unfold put
  dsimp only
  split
  · rename_i hnone
    dsimp only
    rw [hinsert, hprevious (by simp [hnone])]
  · rename_i previous hsome
    dsimp only
    unfold dropUnused
    by_cases hdigest : digest = previous
    · subst hdigest
      rw [if_neg hvalues, InsertionMap.get?_erase_self]
    · have hkept : (m.blobs.insertNew (Sha256.digest content) content).get? digest = none := by
        rw [hinsert, hprevious (by simpa [hsome] using Ne.symm hdigest)]
      split
      · exact hkept
      · rw [InsertionMap.get?_erase_of_ne hdigest, hkept]

/-- The contents for a digest that some path points at after a write. -/
theorem Tracks.get?_blobs_put_of_used (hm : m.Tracks files) {path q : String} {content last : Bytes}
    (happart : ToldApart ((files ++ [(path, content)]).map (·.2)))
    (h : lastWritten (files ++ [(path, content)]) q = some last) :
    (m.put path content).blobs.get? (Sha256.digest last) = some last := by
  have hindex : (m.put path content).index.get? (Path.normalize q) = some (Sha256.digest last) := by
    rw [hm.index_put, lastWritten_normalize, h]
    exact ⟨Path.normalize_normalize q, rfl⟩
  have hlast : last ∈ (files ++ [(path, content)]).map (·.2) := mem_of_lastWritten h
  -- Whatever is under this digest already was written before, so it is the same.
  have hsame : ∀ old, m.blobs.get? (Sha256.digest last) = some old → old = last := by
    intro old hold
    obtain ⟨⟨p, hp⟩, hdigest⟩ := (hm.blobs _ _).1 hold
    have hmem : old ∈ (files ++ [(path, content)]).map (·.2) := by
      rw [List.map_append]
      exact List.mem_append_left _ (mem_of_lastWritten hp)
    exact happart old hmem last hlast hdigest
  rw [get?_blobs_put hindex]
  unfold InsertionMap.insertNew InsertionMap.contains
  rw [lastWritten_append] at h
  by_cases hpath : Path.normalize path = Path.normalize q
  · rw [if_pos hpath, Option.some.injEq] at h
    subst h
    cases hold : m.blobs.get? (Sha256.digest content) with
    | none => rw [if_neg (by simp), InsertionMap.get?_insert, if_pos rfl]
    | some old =>
      rw [if_pos (Option.isSome_some), hold, hsame old hold]
  · rw [if_neg hpath] at h
    have hold : m.blobs.get? (Sha256.digest last) = some last := (hm.blobs _ _).2 ⟨⟨q, h⟩, rfl⟩
    split
    · exact hold
    · rename_i hnew
      have hne : Sha256.digest content ≠ Sha256.digest last := by
        intro heq
        rw [heq, hold] at hnew
        exact hnew rfl
      rw [InsertionMap.get?_insert, if_neg hne, hold]

/-- One more write keeps the index and the contents as what was written says. -/
theorem Tracks.put (hm : m.Tracks files) {path : String} {content : Bytes}
    (happart : ToldApart ((files ++ [(path, content)]).map (·.2))) :
    (m.put path content).Tracks (files ++ [(path, content)]) where
  index := hm.index_put path content
  blobs digest last := by
    constructor
    · intro hlast
      have hused : digest ∈ (m.put path content).index.values := by
        by_contra hunused
        cases hlast.symm.trans (hm.get?_blobs_put_of_unused hunused)
      obtain ⟨q, hq⟩ := InsertionMap.mem_values_iff.1 hused
      obtain ⟨-, hwritten⟩ := (hm.index_put path content q digest).1 hq
      obtain ⟨found, hfound, rfl⟩ := Option.map_eq_some_iff.1 hwritten
      cases hlast.symm.trans (hm.get?_blobs_put_of_used happart hfound)
      exact ⟨⟨q, hfound⟩, rfl⟩
    · rintro ⟨⟨q, hq⟩, rfl⟩
      exact hm.get?_blobs_put_of_used happart hq

/-- The index and the contents of a store that was filled file by file follow from what was written. -/
theorem tracks_ofFiles (scheme : String) (files : List (String × Bytes)) (happart : ToldApart (files.map (·.2))) :
    (ofFiles scheme files).Tracks files := by
  induction files using List.reverseRecOn with
  | nil => exact tracks_empty scheme
  | append_singleton files f ih =>
    have hbefore : ToldApart (files.map (·.2)) := by
      refine happart.subset ?_
      rw [List.map_append]
      exact List.subset_append_left _ _
    have hfilled : ofFiles scheme (files ++ [f]) = (ofFiles scheme files).put f.1 f.2 := by
      rw [ofFiles, List.foldl_append]
      rfl
    rw [hfilled]
    exact (ih hbefore).put happart

/-! ### What a filled store holds -/

/-- A store that holds just what was written last. -/
structure Records (m : MemoryStore) (files : List (String × Bytes)) : Prop where
  /-- There are contents for the digests that paths point at, and for no others. -/
  mem_blobs : ∀ digest, digest ∈ m.blobs.keys ↔ digest ∈ m.index.values
  /-- Contents are kept under their own digest. -/
  digest_eq : ∀ digest content, m.blobs.get? digest = some content → Sha256.digest content = digest
  /-- Reading a path gives what was written to it last. -/
  read_eq : ∀ path, m.toStore.read path = .ok (lastWritten files path)
  /-- The digest at a path is that of what was written to it last. -/
  digest?_eq : ∀ path, m.digest? path = (lastWritten files path).map Sha256.digest
  /-- There are as many files as different paths were written to. -/
  size_eq : m.size = {path | ∃ f ∈ files, Path.normalize f.1 = path}.ncard
  /-- There are as many contents as the files have between them. -/
  blobCount_eq : m.blobCount = {content | ∃ path, lastWritten files path = some content}.ncard

namespace Tracks

theorem mem_blobs_iff (hm : m.Tracks files) {digest : String} :
    digest ∈ m.blobs.keys ↔ ∃ path content, lastWritten files path = some content ∧
      Sha256.digest content = digest := by
  rw [InsertionMap.mem_keys_iff]
  constructor
  · rintro ⟨content, hcontent⟩
    obtain ⟨⟨path, hpath⟩, hdigest⟩ := (hm.blobs _ _).1 hcontent
    exact ⟨path, content, hpath, hdigest⟩
  · rintro ⟨path, content, hpath, hdigest⟩
    exact ⟨content, (hm.blobs _ _).2 ⟨⟨path, hpath⟩, hdigest⟩⟩

theorem mem_values_index_iff (hm : m.Tracks files) {digest : String} :
    digest ∈ m.index.values ↔ ∃ path content, lastWritten files path = some content ∧
      Sha256.digest content = digest := by
  rw [InsertionMap.mem_values_iff]
  constructor
  · rintro ⟨path, hpath⟩
    obtain ⟨-, hwritten⟩ := (hm.index _ _).1 hpath
    obtain ⟨content, hcontent, hdigest⟩ := Option.map_eq_some_iff.1 hwritten
    exact ⟨path, content, hcontent, hdigest⟩
  · rintro ⟨path, content, hpath, rfl⟩
    exact ⟨Path.normalize path, hm.get?_index hpath⟩

/-- The digest at a path is that of what was written to it last. -/
theorem get?_index_eq (hm : m.Tracks files) (path : String) :
    m.index.get? (Path.normalize path) = (lastWritten files path).map Sha256.digest := by
  refine Option.ext fun digest => ?_
  rw [hm.index, lastWritten_normalize]
  exact and_iff_right (Path.normalize_normalize path)

/-- Reading a path gives what was written to it last. -/
theorem content?_eq (hm : m.Tracks files) (path : String) :
    m.toStore.content? path = lastWritten files path := by
  rw [content?_toStore, MemoryStore.content?, hm.get?_index_eq]
  cases h : lastWritten files path with
  | none => rfl
  | some content => exact (hm.blobs _ _).2 ⟨⟨path, h⟩, rfl⟩

theorem mem_keys_index_iff (hm : m.Tracks files) {path : String} :
    path ∈ m.index.keys ↔ ∃ f ∈ files, Path.normalize f.1 = path := by
  rw [InsertionMap.mem_keys_iff]
  constructor
  · rintro ⟨digest, hdigest⟩
    obtain ⟨hpath, hwritten⟩ := (hm.index _ _).1 hdigest
    obtain ⟨content, hcontent, -⟩ := Option.map_eq_some_iff.1 hwritten
    obtain ⟨f, hf, hname⟩ := exists_lastWritten_iff.1 ⟨content, hcontent⟩
    exact ⟨f, hf, hname.trans hpath⟩
  · rintro ⟨f, hf, rfl⟩
    obtain ⟨content, hcontent⟩ := exists_lastWritten_iff.2 ⟨f, hf, rfl⟩
    exact ⟨_, hm.get?_index hcontent⟩

theorem records (hm : m.Tracks files) (happart : ToldApart (files.map (·.2))) : m.Records files where
  mem_blobs digest := by rw [hm.mem_blobs_iff, hm.mem_values_index_iff]
  digest_eq digest content h := ((hm.blobs _ _).1 h).2
  read_eq path := by rw [Store.read_eq m.closed_toStore, hm.content?_eq]
  digest?_eq := hm.get?_index_eq
  size_eq := by
    rw [size, InsertionMap.size_eq_ncard]
    congr 1
    ext path
    exact hm.mem_keys_index_iff
  blobCount_eq := by
    -- Digests stand for contents one to one, so there are as many of both.
    have himage : {digest | digest ∈ m.blobs.keys} =
        Sha256.digest '' {content | ∃ path, lastWritten files path = some content} := by
      ext digest
      rw [Set.mem_ofPred_eq, hm.mem_blobs_iff, Set.mem_image]
      constructor
      · rintro ⟨path, content, hpath, hdigest⟩
        exact ⟨content, ⟨path, hpath⟩, hdigest⟩
      · rintro ⟨content, ⟨path, hpath⟩, hdigest⟩
        exact ⟨path, content, hpath, hdigest⟩
    have hinj : {content | ∃ path, lastWritten files path = some content}.InjOn Sha256.digest := by
      rintro c ⟨p, hp⟩ d ⟨q, hq⟩ heq
      exact happart c (mem_of_lastWritten hp) d (mem_of_lastWritten hq) heq
    rw [blobCount, InsertionMap.size_eq_ncard, himage, hinj.ncard_image]

end Tracks

/-- **A store holds what was written last.**  For all writes among which different contents have different
digests, after each of them: there are contents for just the digests that some path points at, each under
its own digest; reading a path in any spelling gives what was written to it last, if anything was, and the
digest at the path is its digest; and the store counts the different paths that were written to, and the
different contents that are left. -/
theorem records_ofFiles (scheme : String) {files : List (String × Bytes)} (happart : ToldApart (files.map (·.2)))
    {written : List (String × Bytes)} (hwritten : written <+: files) :
    (ofFiles scheme written).Records written := by
  have hpart : ToldApart (written.map (·.2)) :=
    happart.subset (List.map_subset _ hwritten.subset)
  exact (tracks_ofFiles scheme written hpart).records hpart

/-- Two files that share their contents, one of which is written over under another spelling of its path. -/
theorem records_ofFiles_shared :
    ToldApart ([("/a.js", [1]), ("b.js", [1]), ("/x/../a.js", [2])].map (·.2)) ∧
      (ofFiles "drive" [("/a.js", [1]), ("b.js", [1]), ("/x/../a.js", [2])]).Records
        [("/a.js", [1]), ("b.js", [1]), ("/x/../a.js", [2])] := by
  have happart : ToldApart ([("/a.js", [1]), ("b.js", [1]), ("/x/../a.js", [2])].map (·.2)) := by
    decide +kernel
  exact ⟨happart, records_ofFiles "drive" happart List.prefix_rfl⟩

end MemoryStore

end ModuleReach
