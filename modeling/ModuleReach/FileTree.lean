import ModuleReach.Path
import ModuleReach.Text.Utf8

/-!
# File trees with links

A tree of directories, files and symbolic links, and the two ways in which a path finds its place in it.  *Locating*
demands that every step of the path exists.  *Resolving* only replaces links by what they point at, and so also gives a
location to a path that names nothing.

A link's target is followed inside the expansion of at most as many other links as the tree holds, which is
enough for every tree without circular links.

## Main definitions

* `FileTree` — the trees; `Location` — a place in one, as the names on the way to it from the root.
* `FileTree.node?` — what stands at a location; links are not followed.
* `FileTree.place` — a tree with something put at a location.
* `FileTree.resolve?` — the location without links that a path leads to.
* `FileTree.locate` — the location of something that exists, or the reason why there is none.
* `FileTree.write`, `FileTree.makeDirectory`, `FileTree.makeLink` — trees changed at a path.
* `FileTree.read` — the contents of a file.
-/

namespace ModuleReach

/-- A place in a file tree: the names on the way to it from the root. -/
abbrev Location := List String

/-- The absolute path of a location. -/
def Location.path (l : Location) : String :=
  String.ofList (Path.render (l.map String.toList))

/-- A file, a symbolic link, or a directory with named entries. -/
inductive FileTree
  | file (content : Bytes)
  | link (target : String)
  | directory (entries : List (String × FileTree))

/-- Why something in a file tree cannot be read. -/
inductive AccessFault
  | missing
  | notDirectory
  | isDirectory
  | nameTooLong
  deriving DecidableEq, Repr

/-- The system's number and words for the reason. -/
def AccessFault.message : AccessFault → String
  | .missing => "[Errno 2] No such file or directory"
  | .notDirectory => "[Errno 20] Not a directory"
  | .isDirectory => "[Errno 21] Is a directory"
  | .nameTooLong => "[Errno 36] File name too long"

namespace FileTree

/-- The tree with nothing in it. -/
def empty : FileTree := .directory []

instance : Inhabited FileTree := ⟨empty⟩

/-- Whether this is a directory. -/
def isDirectory : FileTree → Bool
  | .directory _ => true
  | _ => false

/-! ### What stands where -/

/-- The first entry of a directory with a given name. -/
def child? (name : String) : List (String × FileTree) → Option FileTree
  | [] => none
  | (n, t) :: rest => if n = name then some t else child? name rest

/-- The entries of a directory with one of them changed, or added at the end. -/
def setChild (name : String) (node : FileTree) : List (String × FileTree) → List (String × FileTree)
  | [] => [(name, node)]
  | (n, t) :: rest => if n = name then (n, node) :: rest else (n, t) :: setChild name node rest

/-- What stands at a location; links are not followed. -/
def node? : FileTree → Location → Option FileTree
  | t, [] => some t
  | .directory entries, name :: rest => (child? name entries).bind (node? · rest)
  | _, _ :: _ => none

/-- The tree with `node` at a location, and directories on the way to it. -/
def place (node : FileTree) : FileTree → Location → FileTree
  | _, [] => node
  | .directory entries, name :: rest =>
    .directory (setChild name (place node ((child? name entries).getD empty) rest) entries)
  | _, name :: rest => .directory [(name, place node empty rest)]

mutual

/-- The number of links in a tree. -/
def linkCount : FileTree → Nat
  | .file _ => 0
  | .link _ => 1
  | .directory entries => linkCountList entries

/-- The number of links below the entries of a directory. -/
def linkCountList : List (String × FileTree) → Nat
  | [] => 0
  | (_, t) :: rest => linkCount t + linkCountList rest

end

/-! ### Paths -/

/-- The steps of a path: the texts between its slashes. -/
def steps (path : String) : List String :=
  (Text.splitWhere (· == '/') path.toList).map String.ofList

/-- The place from which a path starts: the root if the path is absolute. -/
def origin (base : Location) (path : String) : Location :=
  if path.toList.head? = some '/' then [] else base

/-- The location reached by taking `steps` from `base`, with links replaced by what they point at, inside the
expansion of at most `depth` of them.  Steps into what does not exist are taken as they are. -/
def follow? (t : FileTree) (depth : Nat) (base : Location) : List String → Option Location
  | [] => some base
  | name :: rest =>
    if name = "" ∨ name = "." then follow? t depth base rest
    else if name = ".." then follow? t depth base.dropLast rest
    else match t.node? (base ++ [name]), depth with
      | some (.link _), 0 => none
      | some (.link target), depth + 1 =>
        (follow? t depth (origin base target) (steps target)).bind (follow? t (depth + 1) · rest)
      | _, depth => follow? t depth (base ++ [name]) rest
termination_by rest => (depth, rest.length)

/-- The location without links that a path leads to from `base`. -/
def resolve? (t : FileTree) (base : Location) (path : String) : Option Location :=
  follow? t t.linkCount (origin base path) (steps path)

/-- The location reached by taking `steps` from `base`, each of which must exist. -/
def locateFrom (t : FileTree) (depth : Nat) (base : Location) :
    List String → Except AccessFault Location
  | [] => .ok base
  | name :: rest =>
    if !((t.node? base).any isDirectory) then .error .notDirectory
    else if name = "" ∨ name = "." then locateFrom t depth base rest
    else if name = ".." then locateFrom t depth base.dropLast rest
    else if 255 < name.utf8ByteSize then .error .nameTooLong
    else match t.node? (base ++ [name]), depth with
      | none, _ => .error .missing
      | some (.link _), 0 => .error .missing
      | some (.link target), depth + 1 =>
        match locateFrom t depth (origin base target) (steps target) with
        | .ok found => locateFrom t (depth + 1) found rest
        | .error fault => .error fault
      | _, depth => locateFrom t depth (base ++ [name]) rest
termination_by rest => (depth, rest.length)

/-- The location of what a path names, seen from `base`. -/
def locate (t : FileTree) (base : Location) (path : String) : Except AccessFault Location :=
  if path = "" then .error .missing
  else locateFrom t t.linkCount (origin base path) (steps path)

/-- What a path names, seen from `base`; links are followed. -/
def lookup (t : FileTree) (base : Location) (path : String) : Except AccessFault FileTree :=
  (locate t base path).bind fun location =>
    match t.node? location with
    | some node => .ok node
    | none => .error .missing

/-- The tree after writing a file at a path: through links, and with the directories that it needs. -/
def write (t : FileTree) (base : Location) (path : String) (content : Bytes) : FileTree :=
  place (.file content) t ((resolve? t base path).getD [])

/-- The tree after making a directory at a path, unless one is there. -/
def makeDirectory (t : FileTree) (base : Location) (path : String) : FileTree :=
  let location := (resolve? t base path).getD []
  if (t.node? location).any isDirectory then t else place empty t location

/-- The tree after making a link at a path. -/
def makeLink (t : FileTree) (base : Location) (path target : String) : FileTree :=
  place (.link target) t
    ((resolve? t base (Path.directory path)).getD [] ++ [Path.name path])

/-- The contents of the file that a path names, seen from `base`. -/
def read (t : FileTree) (base : Location) (path : String) : Except AccessFault Bytes :=
  match lookup t base path with
  | .ok (.file content) => .ok content
  | .ok _ => .error .isDirectory
  | .error fault => .error fault

end FileTree

end ModuleReach
