import ModuleReach.Manifest.Basic
import ModuleReach.Proofs.Path.Canonical

/-!
# What the binaries of a package are called

Binaries are called after their package, by the name in its manifest or else by that of its directory, with a plus sign for each
slash.  So what they are called is never empty and has no slash in it.  Backslashes stay, and they separate the segments of a
path just as slashes do; but only the name in a manifest can have one.

## Main definitions

* `Manifest.packageName` — the name of a package, as it is written.

## Main results

* `Manifest.prebuildName_ne_empty`, `Manifest.head?_prebuildName_append` — what the binaries are called begins no absolute path.
* `Manifest.not_isSeparator_of_mem_prebuildName` — it has no separators unless the name in the manifest has a backslash.
* `Manifest.isSegment_prebuildName_append` — without one, a binary is called by the name of one file.
-/

namespace ModuleReach.Manifest

open Text

theorem text?_ne_empty {manifest : Manifest} {field text : String} (h : manifest.text? field = some text) :
    text ≠ "" := by
  obtain ⟨value, -, hvalue⟩ := Option.bind_eq_some_iff.1 h
  simpa using (Option.filter_eq_some_iff.1 hvalue).2

/-- The name of a package: the one in its manifest, or else that of its directory. -/
def packageName (directory : String) (manifest : Option Manifest) : String :=
  match manifest.bind (·.text? "name") with
  | some name => name
  | none => if Path.name directory = "" then "addon" else Path.name directory

theorem packageName_ne_empty (directory : String) (manifest : Option Manifest) :
    packageName directory manifest ≠ "" := by
  unfold packageName
  cases hname : manifest.bind (·.text? "name") with
  | some name =>
    obtain ⟨m, -, hm⟩ := Option.bind_eq_some_iff.1 hname
    exact text?_ne_empty hm
  | none =>
    dsimp only
    split
    · decide
    · assumption

theorem prebuildName_eq (directory : String) (manifest : Option Manifest) : prebuildName directory manifest =
    String.ofList (replaceChar '/' ['+'] (packageName directory manifest).toList) := rfl

/-- The characters are those of the package's name, but for the slashes. -/
theorem of_mem_prebuildName {directory : String} {manifest : Option Manifest} {c : Char}
    (h : c ∈ (prebuildName directory manifest).toList) :
    c ≠ '/' ∧ (c = '+' ∨ c ∈ (packageName directory manifest).toList) := by
  rw [prebuildName_eq, String.toList_ofList] at h
  obtain ⟨d, hd, hc⟩ := List.mem_flatMap.1 h
  split at hc
  · rw [List.mem_singleton.1 hc]
    exact ⟨by decide, .inl rfl⟩
  · rw [List.mem_singleton.1 hc]
    exact ⟨‹d ≠ '/'›, .inr hd⟩

theorem prebuildName_ne_empty (directory : String) (manifest : Option Manifest) :
    prebuildName directory manifest ≠ "" := by
  intro h
  have hchars : replaceChar '/' ['+'] (packageName directory manifest).toList = [] := by
    rw [← String.toList_ofList (l := replaceChar _ _ _), ← prebuildName_eq, h, String.toList_empty]
  cases hname : (packageName directory manifest).toList with
  | nil => exact packageName_ne_empty directory manifest (String.toList_eq_nil_iff.1 hname)
  | cons c rest =>
    rw [hname, replaceChar, List.flatMap_cons, List.append_eq_nil_iff] at hchars
    split at hchars <;> simp at hchars

/-- What a binary is called begins no absolute path. -/
theorem head?_prebuildName_append (directory : String) (manifest : Option Manifest) (extension : String) :
    (prebuildName directory manifest ++ extension).toList.head? ≠ some '/' := by
  cases hname : (prebuildName directory manifest).toList with
  | nil => exact absurd (String.toList_eq_nil_iff.1 hname) (prebuildName_ne_empty directory manifest)
  | cons c rest =>
    have hmem : c ∈ (prebuildName directory manifest).toList := by rw [hname]; exact List.mem_cons_self
    have hc : c ≠ '/' := (of_mem_prebuildName hmem).1
    simpa [hname] using hc

/-- What a binary is called has no separators unless the name in the manifest has a backslash. -/
theorem not_isSeparator_of_mem_prebuildName {path : String} {manifest : Option Manifest}
    (hname : ∀ name, manifest.bind (·.text? "name") = some name → '\\' ∉ name.toList) {c : Char}
    (h : c ∈ (prebuildName (Path.normalize path) manifest).toList) : Path.isSeparator c = false := by
  have haddon : ∀ d ∈ "addon".toList, Path.isSeparator d = false := by simp [Path.isSeparator]
  obtain ⟨hslash, rfl | hc⟩ := of_mem_prebuildName h
  · rfl
  · unfold packageName at hc
    split at hc
    · rename_i name hsome
      have hback : c ≠ '\\' := by
        rintro rfl
        exact hname name hsome hc
      simp [Path.isSeparator, hslash, hback]
    · split at hc
      · exact haddon c hc
      · exact Path.not_isSeparator_of_mem_name hc

/-- With one of the longer extensions, as the standard ones are, a binary is then called by the name of one file. -/
theorem isSegment_prebuildName_append {path : String} {manifest : Option Manifest}
    (hname : ∀ name, manifest.bind (·.text? "name") = some name → '\\' ∉ name.toList) {extension : String}
    (hextension : ∀ c ∈ extension.toList, Path.isSeparator c = false) (hlength : 3 ≤ extension.toList.length) :
    Path.IsSegment (prebuildName (Path.normalize path) manifest ++ extension).toList := by
  rw [String.toList_append]
  exact Path.isSegment_append (fun c hc => not_isSeparator_of_mem_prebuildName hname hc) hextension hlength

end ModuleReach.Manifest
