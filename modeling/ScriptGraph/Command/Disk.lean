import ScriptGraph.Project.Config
import ScriptGraph.Project.Discovery

/-!
# Files on disk

The files that a run can look at, read from the disk before the run. Of a file
whose text no run looks at, only the name is kept. A file that cannot be read is
kept as such.
-/

namespace ScriptGraph.Disk

def placeOf (path : String) : List String :=
  (Path.components path.toList).filterMap fun
    | .name chars => some (String.ofList chars)
    | _ => none

/-- The bytes of the file at a place, links followed, if it can be read. -/
def read? (place : List String) : IO (Option (List UInt8)) := do
  match ← (IO.FS.readBinFile (FileSystem.pathOf place)).toBaseIO with
  | .ok bytes => return some bytes.toList
  | .error _ => return none

def ruleNames : List String :=
  Config.fileName :: IgnoreSource.all.filterMap fun source => source.location.getLast?

def isRead (name : String) : Bool := ruleNames.contains name || Path.isScript name

partial def load? (entry : IO.FS.DirEntry) : IO (Option FileTree) := do
  let path := entry.path
  let place := placeOf path.toString
  match ← path.symlinkMetadata.toBaseIO with
  | .error _ => return none
  | .ok found =>
    match found.type with
    | .dir =>
      if entry.fileName == Discovery.dependencies then return none
      match ← path.readDir.toBaseIO with
      | .error _ => return some .empty
      | .ok entries =>
        let loaded ← entries.toList.filterMapM fun entry => do
          return (← load? entry).map fun tree => (entry.fileName, tree)
        return some (.directory loaded)
    | .file =>
      if isRead entry.fileName then return some (.file (← read? place))
      else return some (.file (some []))
    | _ =>
      -- The rules behind a link hold, although no walk takes it for a file.
      if ruleNames.contains entry.fileName then return some (.file (← read? place))
      else return some (.link "")

def addRules (tree : FileTree) (place : List String) : IO FileTree :=
  IgnoreSource.all.foldlM (fun tree source => do
    match ← read? (place ++ source.location) with
    | some bytes => return tree.insert (.file (some bytes)) (place ++ source.location)
    | none => return tree) tree

/-- Adds the directories and links on the way from a place along components, and gives the place
that they lead to. -/
def reach (tree : FileTree) (place : List String) :
    List Component → IO (FileTree × Option (List String))
  | [] => return (tree, some place)
  | .root :: rest => reach tree [] rest
  | .here :: rest => reach tree place rest
  | .parent :: rest => reach tree place.dropLast rest
  | .name chars :: rest => do
    let next := place ++ [String.ofList chars]
    match ← (IO.FS.realPath (FileSystem.pathOf next)).toBaseIO with
    | .error _ => return (tree, none)
    | .ok real =>
      let arrived := placeOf real.toString
      let tree := tree.insert .empty arrived
      if arrived = next then reach tree next rest
      else reach (tree.insert (.link real.toString) next) arrived rest

def files (root : String) : IO FileSystem := do
  let here := placeOf (← IO.FS.realPath (← IO.currentDir)).toString
  let (tree, place?) ← reach (FileTree.empty.insert .empty here) here (Path.components root.toList)
  match place? with
  | none => return ⟨tree, here⟩
  | some place =>
    let tree ← (Discovery.ancestors place).foldlM addRules tree
    let loaded ← load? ⟨"/", "." ++ FileSystem.pathOf place⟩
    return ⟨(loaded.map fun entry => tree.insert entry place).getD tree, here⟩

end ScriptGraph.Disk
