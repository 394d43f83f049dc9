import ModuleReach.Proofs.Path.Within
import ModuleReach.Proofs.Resolution.Exact

/-!
# Spellings of a path

A path specifier is read from the directory of its file, and the two are put together as text.  Extensions are appended to
this text, and `index` and the `main` of a manifest are read from it, before anything is normalized.  Still the search looks
where the search for the canonical path looks, if the text ends in an ordinary name: what is appended to the text is then
appended to its last segment, and whatever is read from a directory depends on the canonical path of the directory alone.

A text that ends in a slash, in `.` or in `..` has its extension in another place than its canonical path.

## Main definitions

* `Path.EndsInName` — the texts whose last segment is an ordinary name.

## Main results

* `Path.normalize_append_congr` — appending to two spellings of a path.
* `Store.pathPlaces_congr` — where a search looks for two spellings of a path.
* `Resolution.module_canonical` — the answers for a path and for its canonical form.
-/

namespace ModuleReach

namespace Path

open Text

instance (s : List Char) : Decidable (IsOrdinary s) := inferInstanceAs (Decidable (_ ∧ _))

/-- Whether the last segment of a text is neither empty nor `.` nor `..`. -/
def EndsInName (path : String) : Prop :=
  ∀ segment ∈ (splitWhere isSeparator path.toList).getLast?, IsOrdinary segment

instance (path : String) : Decidable (EndsInName path) :=
  inferInstanceAs (Decidable (∀ segment ∈ (splitWhere isSeparator path.toList).getLast?, IsOrdinary segment))

/-- A text that ends in a name names a path with this name, and what is appended to the text is appended to the name. -/
theorem EndsInName.exists_canonical_append {path : String} (h : EndsInName path) :
    ∃ base last, ∀ extension : List Char, (∀ c ∈ extension, isSeparator c = false) →
      canonical (path.toList ++ extension) = base ++ [last ++ extension] := by
  obtain ⟨front, last, hsplit, -⟩ := splitWhere_append path.toList (splitWhere_nil isSeparator)
  have hlast : IsOrdinary last := h last (by simp [hsplit])
  refine ⟨(front.foldl descend []).reverse, last, ?_⟩
  intro extension hextension
  -- The extension has no separator, so it runs together with the last segment.
  obtain ⟨front', last', hsplit', happend⟩ := splitWhere_append path.toList (splitWhere_of_forall_not hextension)
  obtain ⟨rfl, hsame⟩ := List.append_inj' (hsplit.symm.trans hsplit') rfl
  obtain rfl := List.singleton_inj.1 hsame
  obtain ⟨hempty, hdot, hdots⟩ := hlast.append extension
  rw [canonical, stackOf, happend, List.foldl_append, List.foldl_cons, List.foldl_nil, descend,
    if_neg (by simp [hempty, hdot]), if_neg hdots, List.reverse_cons]

/-- A canonical path with a name ends in it. -/
theorem EndsInName.normalize {path : String} (h : EndsInName path) : EndsInName (normalize path) := by
  obtain ⟨base, last, happend⟩ := h.exists_canonical_append
  have hcanonical : canonical path.toList = base ++ [last] := by
    simpa using happend [] (by simp)
  have hsegments : ∀ s ∈ base ++ [last], IsSegment s := by
    intro s hs
    rw [← hcanonical] at hs
    exact mem_canonical hs
  intro segment hsegment
  rw [Path.normalize, String.toList_ofList, hcanonical, splitWhere_render (by simp) hsegments,
    ← List.cons_append, List.getLast?_concat, Option.mem_some_iff] at hsegment
  obtain ⟨hempty, hdot, hdots, -⟩ := hsegments last (by simp)
  rw [← hsegment]
  exact ⟨hempty, hdot, hdots⟩

/-- Appending to two texts that end in a name and name one path leads to one path. -/
theorem normalize_append_congr {path path' extension : String} (hpath : EndsInName path) (hpath' : EndsInName path')
    (h : normalize path = normalize path') (hextension : ∀ c ∈ extension.toList, isSeparator c = false) :
    normalize (path ++ extension) = normalize (path' ++ extension) := by
  obtain ⟨base, last, happend⟩ := hpath.exists_canonical_append
  obtain ⟨base', last', happend'⟩ := hpath'.exists_canonical_append
  have hsame : base ++ [last] = base' ++ [last'] := by
    calc base ++ [last] = canonical path.toList := by simpa using (happend [] (by simp)).symm
      _ = canonical path'.toList := normalize_eq_iff.1 h
      _ = base' ++ [last'] := by simpa using happend' [] (by simp)
  obtain ⟨rfl, hlast⟩ := List.append_inj' hsame rfl
  obtain rfl := List.singleton_inj.1 hlast
  rw [normalize_eq_iff, String.toList_append, String.toList_append, happend _ hextension, happend' _ hextension]

/-- A text that ends in a slash does not end in a name: an extension becomes a name of its own there. -/
example : normalize ("/dir/" ++ ".js") = "/dir/.js" ∧ normalize (normalize "/dir/" ++ ".js") = "/dir.js" := by
  decide +kernel

/-- An absolute path is read from every directory as it is. -/
theorem join_normalize (base path : String) : join base (normalize path) = normalize path := by
  obtain ⟨rest, hslash⟩ := exists_toList_normalize path
  rw [join, joinChars, if_pos (by simp [hslash]), String.ofList_toList]

end Path

/-! ### Where a search looks for two spellings -/

namespace Store

open ModuleReach.Path (EndsInName isSeparator)

variable {s : Store} {extensions : List String} {matrix : Conditions} {path path' : String}

theorem filePlaces_congr (hextensions : ∀ e ∈ extensions, ∀ c ∈ e.toList, isSeparator c = false)
    (hpath : EndsInName path) (hpath' : EndsInName path') (h : Path.normalize path = Path.normalize path') :
    (s.outlook extensions matrix).filePlaces path = (s.outlook extensions matrix).filePlaces path' := by
  have hmap : extensions.map (fun e => Path.normalize (path ++ e)) =
      extensions.map fun e => Path.normalize (path' ++ e) := by
    refine List.map_congr_left ?_
    intro extension hextension
    exact Path.normalize_append_congr hpath hpath' h (hextensions extension hextension)
  rw [Outlook.filePlaces, Outlook.filePlaces, h]
  exact congrArg _ hmap

/-- What is looked for in a directory depends on its canonical path alone, however its text ends. -/
theorem directoryPlaces_congr (h : Path.normalize path = Path.normalize path') :
    (s.outlook extensions matrix).directoryPlaces path = (s.outlook extensions matrix).directoryPlaces path' := by
  have hmanifest : (s.outlook extensions matrix).manifest? path = (s.outlook extensions matrix).manifest? path' := by
    show Manifest.of? s path = Manifest.of? s path'
    rw [← Manifest.of?_normalize s path, h, Manifest.of?_normalize]
  have hjoin : ∀ more, Path.normalize (Path.join path more) = Path.normalize (Path.join path' more) :=
    Path.normalize_join_congr h
  unfold Outlook.directoryPlaces Outlook.mainPlaces Outlook.indexPlaces
  simp only [hmanifest, hjoin]

theorem pathPlaces_congr (hextensions : ∀ e ∈ extensions, ∀ c ∈ e.toList, isSeparator c = false)
    (hpath : EndsInName path) (hpath' : EndsInName path') (h : Path.normalize path = Path.normalize path') :
    (s.outlook extensions matrix).pathPlaces path = (s.outlook extensions matrix).pathPlaces path' := by
  rw [Outlook.pathPlaces, Outlook.pathPlaces, filePlaces_congr hextensions hpath hpath' h, directoryPlaces_congr h]

end Store

/-! ### The answers -/

namespace Resolution

/-- **Only the canonical form of a path counts.**  For a store in memory, let a path specifier, read from the directory of its
file, end in a name, and let no extension have a slash or a backslash.  Then the specifier and the canonical path to
which it leads, asked for from any file, are resolved to one file, or neither is resolved and the same places have been
looked at for both. -/
theorem module_canonical (m : MemoryStore) {specifier : String} (referrer other : Option Url) {extensions : List String}
    (conditions : Conditions) (hpath : Specifier.isPath specifier = true)
    (hextensions : ∀ e ∈ extensions, ∀ c ∈ e.toList, Path.isSeparator c = false)
    (hname : Path.EndsInName (Path.join (baseOf referrer) specifier)) :
    let target := Path.normalize (Path.join (baseOf referrer) specifier)
    let outcome := fun specifier referrer => (module m.toStore specifier referrer extensions conditions).outcome
    (∃ url, outcome specifier referrer = .ok (.resolved url) ∧ outcome target other = .ok (.resolved url)) ∨
      ∃ candidates, outcome specifier referrer = .ok (.unresolved ⟨specifier, referrer, candidates⟩) ∧
        outcome target other = .ok (.unresolved ⟨target, other, candidates⟩) := by
  intro target outcome
  have htarget : Specifier.isPath target = true := by
    obtain ⟨rest, hslash⟩ := Path.exists_toList_normalize (Path.join (baseOf referrer) specifier)
    simp [target, Specifier.isPath, hslash]
  let o := m.toStore.outlook extensions (conditionMatrix conditions)
  have hplaces : o.places target (baseOf other) = o.places specifier (baseOf referrer) := by
    rw [Outlook.places, Outlook.places, if_pos htarget, if_pos hpath, Path.join_normalize]
    exact (Store.pathPlaces_congr hextensions hname hname.normalize (Path.normalize_normalize _).symm).symm
  have hspecifier : outcome specifier referrer =
      .ok (firstOf m.toStore specifier referrer (o.places specifier (baseOf referrer))) :=
    outcome_module m.closed_toStore specifier referrer extensions conditions
  have hcanonical : outcome target other =
      .ok (firstOf m.toStore target other (o.places specifier (baseOf referrer))) := by
    rw [← hplaces]
    exact outcome_module m.closed_toStore target other extensions conditions
  rw [hspecifier, hcanonical]
  unfold firstOf
  cases (o.places specifier (baseOf referrer)).find? m.toStore.has with
  | some path => exact .inl ⟨_, rfl, rfl⟩
  | none => exact .inr ⟨_, rfl, rfl⟩

/-- A directory is found under its canonical path as it is under a path through directories that are not there. -/
theorem module_canonical_backslashes :
    let s := (MemoryStore.ofFiles "drive" [("/lib/dir/index.js", [])]).toStore
    let referrer := some ⟨"drive:///lib/main.js", "/lib\\src/..//main.js"⟩
    let specifier := ".//none\\..\\dir"
    (Specifier.isPath specifier = true ∧ (∀ e ∈ [".js"], ∀ c ∈ e.toList, Path.isSeparator c = false) ∧
        Path.EndsInName (Path.join (baseOf referrer) specifier)) ∧
      Path.normalize (Path.join (baseOf referrer) specifier) = "/lib/dir" ∧
      (module s specifier referrer [".js"] []).outcome = .ok (.resolved (s.url "/lib/dir/index.js")) ∧
      (module s "/lib/dir" none [".js"] []).outcome = .ok (.resolved (s.url "/lib/dir/index.js")) := by
  intro s referrer specifier
  have hpath : Specifier.isPath specifier = true := by decide +kernel
  have hextensions : ∀ e ∈ [".js"], ∀ c ∈ e.toList, Path.isSeparator c = false := by simp [Path.isSeparator]
  have hname : Path.EndsInName (Path.join (baseOf referrer) specifier) := by decide +kernel
  have htarget : Path.normalize (Path.join (baseOf referrer) specifier) = "/lib/dir" := by decide +kernel
  have hfound : (module s specifier referrer [".js"] []).outcome = .ok (.resolved (s.url "/lib/dir/index.js")) := by
    rw [outcome_module (MemoryStore.closed_toStore _), Except.ok.injEq]
    decide +kernel
  refine ⟨⟨hpath, hextensions, hname⟩, htarget, hfound, ?_⟩
  have hsame := module_canonical (MemoryStore.ofFiles "drive" [("/lib/dir/index.js", [])]) referrer none [] hpath
    hextensions hname
  dsimp only at hsame
  rw [htarget] at hsame
  rcases hsame with ⟨url, hurl, hcanonical⟩ | ⟨candidates, hcandidates, -⟩
  · rw [hcanonical, ← hurl]
    exact hfound
  · cases hfound.symm.trans hcandidates

end Resolution

end ModuleReach
