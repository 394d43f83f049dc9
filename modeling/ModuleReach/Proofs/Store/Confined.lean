import ModuleReach.Proofs.Store.Links
import ModuleReach.Store.Directory

/-!
# What a store over a directory gives away

A text that asks for a file is first made canonical, and then followed from the store's directory wherever links
lead.  If that is inside of the directory, the answer is what stands there, and otherwise there is no answer.
Whether a location is inside is a matter of whole names: `/app2` is not inside of `/app`.

## Main definitions

* `FileTree.content?` — the contents of the file at a location.

## Main results

* `DirectoryStore.read_confined` — what is answered to a text that asks for a file.
* `DirectoryStore.read_toStore` — a walk is given the same answers, but for files at paths without end.
-/

namespace ModuleReach

/-- The contents of the file at a location, if one stands there. -/
def FileTree.content? (t : FileTree) (location : Location) : Option Bytes :=
  match t.node? location with
  | some (.file content) => some content
  | _ => none

namespace DirectoryStore

open FileTree (origin steps)

variable {scheme rootPath : String} {tree : FileTree} {base : Location} {store : DirectoryStore}

/-- The store over a directory has the location to which its path leads. -/
theorem follow?_of_open? (h : open? scheme tree base rootPath = .ok store) :
    store.tree = tree ∧ tree.follow? tree.linkCount (origin base rootPath) (steps rootPath) = some store.root := by
  unfold open? at h
  split at h
  · cases h
  · rename_i root hroot
    split at h
    · cases h
      exact ⟨rfl, hroot⟩
    · cases h

/-- What is answered once it is known where the path leads. -/
theorem read_of_follow? {path : String} {place : Location}
    (h : store.tree.follow? store.tree.linkCount store.root (steps (Path.normalize path)) = some place) :
    store.read path = if store.root <+: place then .ok (store.tree.content? place)
      else .error (.escapesStore path store.root.path) := by
  have hreal : store.real? (Path.normalize path) = some place := h
  rw [read, held, hreal]
  dsimp only
  by_cases hinside : store.root <+: place
  · rw [if_pos hinside, if_pos (List.isPrefixOf_iff_prefix.2 hinside), FileTree.content?]
    cases store.tree.node? place with
    | none => rfl
    | some node => cases node <;> rfl
  · rw [if_neg hinside, if_neg (mt List.isPrefixOf_iff_prefix.1 hinside)]
    rfl

/-- **A store keeps to its directory.**  In a tree without circular links each text that asks for a file leads to one
location, with no link on the way to it.  If the directory of the store is that location or above it, the answer is
the contents of the file there, if one stands there, and otherwise that the text leads out of the store. -/
theorem read_confined (hlinks : tree.LinksLead) (hbase : tree.LinkFree base)
    (hopen : open? scheme tree base rootPath = .ok store) (path : String) :
    tree.Leads (origin base rootPath) (steps rootPath) store.root ∧ tree.LinkFree store.root ∧
    ∃ real, (∀ place, tree.Leads store.root (steps (Path.normalize path)) place ↔ place = real) ∧
      tree.LinkFree real ∧
      store.read path =
        if store.root <+: real then .ok (tree.content? real) else .error (.escapesStore path store.root.path) := by
  obtain ⟨rfl, hroot⟩ := follow?_of_open? hopen
  have hrootLeads := FileTree.leads_of_follow? hroot
  have horigin : store.tree.LinkFree (origin base rootPath) := by
    unfold origin
    split
    · exact hbase.of_prefix List.nil_prefix
    · exact hbase
  have hrootFree := hrootLeads.linkFree horigin
  obtain ⟨real, hreal⟩ := FileTree.exists_follow? hlinks store.root (steps (Path.normalize path))
  have hrealLeads := FileTree.leads_of_follow? hreal
  refine ⟨hrootLeads, hrootFree, real, fun place => ⟨fun h => h.unique hrealLeads, ?_⟩,
    hrealLeads.linkFree hrootFree, read_of_follow? hreal⟩
  rintro rfl
  exact hrealLeads

/-- A tree with links out of a directory, one of them through another link and back into it, and with a directory
beside it that has a longer name. -/
def turning : FileTree := .directory [
  ("app", .directory [("a.js", .file [0x61]), ("out", .link "../app2/a.js"), ("back", .link "../turn/a.js")]),
  ("app2", .directory [("a.js", .file [0x62])]),
  ("turn", .link "app")]

theorem linksLead_turning : turning.LinksLead := by
  have hout : steps "../app2/a.js" = ["..", "app2", "a.js"] := by decide +kernel
  have hback : steps "../turn/a.js" = ["..", "turn", "a.js"] := by decide +kernel
  have hturn : steps "app" = ["app"] := by decide +kernel
  have hlinks : turning.links = [["app", "out"], ["app", "back"], ["turn"]] := rfl
  have hall : ∀ location ∈ turning.links, ∃ place, turning.aim? 2 location = some place := by
    rw [hlinks, List.forall_mem_cons, List.forall_mem_cons, List.forall_mem_singleton]
    refine ⟨⟨["app2", "a.js"], ?_⟩, ⟨["app", "a.js"], ?_⟩, ⟨["app"], ?_⟩⟩
    · simp [FileTree.aim?, turning, FileTree.node?, FileTree.child?, FileTree.follow?, origin, hout]
    · simp [FileTree.aim?, turning, FileTree.node?, FileTree.child?, FileTree.follow?, origin, hback, hturn]
    · simp [FileTree.aim?, turning, FileTree.node?, FileTree.child?, FileTree.follow?, origin, hturn]
  exact FileTree.linksLead_of_aim? hall

/-- For instance, what such a tree answers through the link that turns back. -/
theorem read_confined_turning :
    let store : DirectoryStore := ⟨"drive", turning, ["app"]⟩
    turning.LinksLead ∧ turning.LinkFree [] ∧ open? "drive" turning [] "turn" = .ok store ∧
    turning.Leads (origin [] "turn") (steps "turn") store.root ∧ turning.LinkFree store.root ∧
    ∃ real, (∀ place, turning.Leads store.root (steps (Path.normalize "/x/../back")) place ↔ place = real) ∧
      turning.LinkFree real ∧
      store.read "/x/../back" =
        if store.root <+: real then .ok (turning.content? real)
        else .error (.escapesStore "/x/../back" store.root.path) := by
  intro store
  have hbase : turning.LinkFree [] := by
    intro above habove target
    rw [List.prefix_nil.1 habove]
    exact fun h => FileTree.noConfusion (Option.some.inj h)
  have hturn : steps "turn" = ["turn"] := by decide +kernel
  have happ : steps "app" = ["app"] := by decide +kernel
  have hcount : turning.linkCount = 3 := rfl
  have hroot : turning.resolve? [] "turn" = some ["app"] := by
    rw [FileTree.resolve?, hcount, hturn]
    simp [turning, FileTree.node?, FileTree.child?, FileTree.follow?, origin, happ]
  have hopen : open? "drive" turning [] "turn" = .ok store := by
    rw [open?, hroot]
    rfl
  exact ⟨linksLead_turning, hbase, hopen, read_confined linksLead_turning hbase hopen "/x/../back"⟩

/-- A walk is given the same answers, but for files at paths that are too long. -/
theorem read_toStore (store : DirectoryStore) (path : String) :
    store.toStore.read path = store.read path ∨
      (pathLimit < (Path.normalize path).length ∧ store.toStore.read path = .ok none) := by
  have hread : store.toStore.read path = (store.walkHeld (Path.normalize path)).answer path := rfl
  rw [hread, read]
  by_cases hlength : (Path.normalize path).length ≤ pathLimit
  · rw [walkHeld_of_length_le hlength]
    exact .inl rfl
  · unfold walkHeld
    split
    · rw [if_neg hlength]
      exact .inr ⟨Nat.lt_of_not_le hlength, rfl⟩
    · exact .inl rfl

end DirectoryStore

end ModuleReach
