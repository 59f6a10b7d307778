import ScriptGraph.Path

/-!
# Trees of files

A file system as a value. A place in it is the list of names that lead there
from the top.
-/

namespace ScriptGraph

/-- What a name in a directory stands for. -/
inductive FileTree where
  /-- A file, with its bytes unless it cannot be read. -/
  | file (bytes? : Option (List UInt8))
  /-- A symbolic link to a path. -/
  | link (target : String)
  | directory (entries : List (String × FileTree))
  deriving Inhabited

namespace FileTree

def empty : FileTree := .directory []

/-- What names lead to, links not followed. -/
def at? (tree : FileTree) : List String → Option FileTree
  | [] => some tree
  | name :: rest =>
    match tree with
    | .directory entries => (entries.lookup name).bind fun entry => entry.at? rest
    | _ => none

def setEntry (entries : List (String × FileTree)) (name : String) (entry : FileTree) :
    List (String × FileTree) :=
  if (entries.lookup name).isSome then
    entries.map fun (other, old) => if other == name then (other, entry) else (other, old)
  else entries ++ [(name, entry)]

/-- Puts an entry where names lead; directories on the way are made where there are none, and an
empty directory leaves one that is there as it is. -/
def insert (tree entry : FileTree) (place : List String) : FileTree :=
  match place with
  | [] =>
    match entry, tree with
    | .directory [], .directory _ => tree
    | _, _ => entry
  | name :: rest =>
    match tree with
    | .directory entries =>
      .directory (setEntry entries name (((entries.lookup name).getD .empty).insert entry rest))
    | _ => .directory [(name, FileTree.empty.insert entry rest)]

/-- The links that may be followed on the way to one place. -/
def maxLinks : Nat := 40

/-- The place that components lead to from a place; a link hands its target and what is left to
`jump`. The names of a place are kept last first. -/
def descend (tree : FileTree) (jump : List String → List Component → Option (List String))
    (here : List String) : List Component → Option (List String)
  | [] => some here
  | .root :: rest => tree.descend jump [] rest
  | .here :: rest => tree.descend jump here rest
  | .parent :: rest => tree.descend jump here.tail rest
  | .name chars :: rest =>
    let next := String.ofList chars :: here
    match tree.at? next.reverse with
    | none => none
    | some (.file _) => if rest.isEmpty then some next else none
    | some (.directory _) => tree.descend jump next rest
    | some (.link target) => jump here (Path.components target.toList ++ rest)

/-- The place that components lead to from a place, with so many links followed at most. -/
def resolve (tree : FileTree) : Nat → List String → List Component → Option (List String)
  | 0 => tree.descend fun _ _ => none
  | links + 1 => tree.descend (tree.resolve links)

end FileTree

/-- A tree of files, seen from a place in it. -/
structure FileSystem where
  tree : FileTree
  /-- The place that relative paths start from. -/
  here : List String
  deriving Inhabited

namespace FileSystem

/-- The place that a path leads to, links followed. -/
def locate? (files : FileSystem) (path : String) : Option (List String) :=
  (files.tree.resolve FileTree.maxLinks files.here.reverse (Path.components path.toList)).map
    List.reverse

def find? (files : FileSystem) (path : String) : Option FileTree :=
  (files.locate? path).bind fun place => files.tree.at? place

def isDirectory (files : FileSystem) (path : String) : Bool :=
  match files.find? path with
  | some (.directory _) => true
  | _ => false

/-- The bytes of the file that a path leads to, if it can be read. -/
def read? (files : FileSystem) (path : String) : Option (List UInt8) :=
  match files.find? path with
  | some (.file bytes?) => bytes?
  | _ => none

def pathOf (place : List String) : String := "/" ++ "/".intercalate place

end FileSystem

end ScriptGraph
