import ModuleReach.CommandLine.Basic

/-!
# The program

The outer layer: what the arguments name is read from the disk into a file tree, and what the command line leaves
behind is printed.  A link whose end does not exist is left out of the tree.
-/

namespace ModuleReach.Program

/-- The real path of something that exists. -/
def realPath? (path : String) : IO (Option String) := do
  try return some (← IO.FS.realPath path).toString catch _ => return none

/-- The names in a directory, or nothing if there is no directory. -/
def names? (path : String) : IO (Option (List String)) := do
  try return some ((← (← IO.FS.realPath path).readDir).toList.map fun entry => entry.fileName)
  catch _ => return none

/-- The location of a real path. -/
def locationOf (path : String) : Location := (FileTree.steps path).filter (· ≠ "")

/-- A tree with all that is at and below a real path. -/
partial def takeIn (tree : FileTree) (path : String) : IO FileTree := do
  match ← names? path with
  | none =>
    try return FileTree.place (.file (← IO.FS.readBinFile path).toList) tree (locationOf path)
    catch _ => return tree
  | some names =>
    let mut tree := tree.makeDirectory [] path
    for name in names do
      let entry := Location.path (locationOf path ++ [name])
      match ← realPath? entry with
      | none => pure ()
      | some target =>
        if target = entry then tree ← takeIn tree entry
        else tree := FileTree.place (.link target) tree (locationOf entry)
    return tree

/-- A tree with all that is at and below a path that is given as steps from a real one, and with the links on the way. -/
def takeInSteps (tree : FileTree) (base : String) : List String → IO FileTree
  | [] => takeIn tree base
  | step :: rest => do
    let path := Location.path (locationOf base ++ [step])
    match ← realPath? path with
    | none => return tree
    | some target =>
      let ordinary := target = path ∨ step = "" ∨ step = "." ∨ step = ".."
      let tree := if ordinary then tree else FileTree.place (.link target) tree (locationOf path)
      takeInSteps tree target rest

/-- The part of the disk that the arguments name, and the place in it where the program is called. -/
def surroundings (arguments : List String) : IO (FileTree × Location) := do
  let here := (← realPath? ".").getD "/"
  let mut tree := FileTree.empty.makeDirectory [] here
  for path in CommandLine.places arguments do
    let base := if path.toList.head? = some '/' then "/" else here
    tree ← takeInSteps tree base (FileTree.steps path)
  return (tree, locationOf here)

end ModuleReach.Program

open ModuleReach in
/-- The program. -/
def main (arguments : List String) : IO UInt32 := do
  let (tree, here) ← Program.surroundings arguments
  let left := CommandLine.run tree here arguments
  IO.print left.output
  IO.eprint left.errors
  match left.crash with
  | some cause => IO.eprintln cause.message
  | none => pure ()
  return left.exitCode.toUInt32
