import ScriptGraph.Project.Exclude
import ScriptGraph.Project.FileTree
import ScriptGraph.Project.IgnoreRule

/-!
# Finding the scripts of a project

The walk goes down from the root of a project. It leaves out what ignore files
say, hidden entries that no rule keeps, and the directory of dependencies.

Only ignore files in the root, below it and above it are read. The excludes that
a user sets for all repositories lie outside of the tree and are not read, and a
root spelled `-` is a directory of that name.
-/

namespace ScriptGraph

/-- The sorts of ignore files, in the order of their weight. -/
inductive IgnoreSource where
  | own
  | shared
  | repository
  deriving DecidableEq, Repr, Inhabited

namespace IgnoreSource

/-- All sorts, the weightiest first. -/
def all : List IgnoreSource := [.own, .shared, .repository]

def location : IgnoreSource → List String
  | .own => [".ignore"]
  | .shared => [".gitignore"]
  | .repository => [".git", "info", "exclude"]

end IgnoreSource

/-- The rules that a directory sets for what is below it. -/
structure IgnoreLayer where
  /-- The directory's place. -/
  base : List String
  own : List IgnoreRule
  shared : List IgnoreRule
  repository : List IgnoreRule
  deriving Inhabited

namespace IgnoreLayer

def rules (layer : IgnoreLayer) : IgnoreSource → List IgnoreRule
  | .own => layer.own
  | .shared => layer.shared
  | .repository => layer.repository

def read (files : FileSystem) (base : List String) (source : IgnoreSource) : List IgnoreRule :=
  match files.read? (FileSystem.pathOf (base ++ source.location)) with
  | some bytes => IgnoreRule.ofBytes bytes
  | none => []

def load (files : FileSystem) (base : List String) : IgnoreLayer where
  base := base
  own := read files base .own
  shared := read files base .shared
  repository := read files base .repository

/-- What the nearest directory with a say decides about a place, by its files of one sort. -/
def verdictOf? (layers : List IgnoreLayer) (source : IgnoreSource) (place : List String)
    (isDirectory : Bool) : Option Verdict :=
  layers.findSome? fun layer =>
    IgnoreRule.verdict? (layer.rules source) (place.drop layer.base.length) isDirectory

/-- What ignore files decide about a place; the nearest directory is given first. -/
def verdict? (layers : List IgnoreLayer) (place : List String) (isDirectory : Bool) :
    Option Verdict :=
  IgnoreSource.all.findSome? fun source => verdictOf? layers source place isDirectory

end IgnoreLayer

namespace Discovery

/-- The directory that no walk goes into. -/
def dependencies : String := "node_modules"

def isHidden (name : String) : Bool := name.toList.head? == some '.'

def admits (layers : List IgnoreLayer) (place : List String) (name : String) (isDirectory : Bool) :
    Bool :=
  name != dependencies &&
    match IgnoreLayer.verdict? layers place isDirectory with
    | some .leaveOut => false
    | some .keep => true
    | none => !isHidden name

mutual

/-- The files below a place that the walk takes, each by its names below the root. -/
def filesOf (load : List String → IgnoreLayer) (layers : List IgnoreLayer)
    (place below : List String) : FileTree → List (List String)
  | .file _ => [below]
  | .link _ => []
  | .directory entries => filesIn load (load place :: layers) place below entries

def filesIn (load : List String → IgnoreLayer) (layers : List IgnoreLayer)
    (place below : List String) : List (String × FileTree) → List (List String)
  | [] => []
  | (name, entry) :: rest =>
    let isDirectory := match entry with
      | .directory _ => true
      | _ => false
    let found :=
      if admits layers (place ++ [name]) name isDirectory then
        filesOf load layers (place ++ [name]) (below ++ [name]) entry
      else []
    found ++ filesIn load layers place below rest

end

/-- The proper beginnings of a place, the longest first. -/
def ancestors (place : List String) : List (List String) :=
  (List.range place.length).reverse.map fun n => place.take n

def walk (files : FileSystem) (root : String) : List (List String) :=
  match files.locate? root with
  | none => []
  | some place =>
    match files.tree.at? place with
    | some tree =>
      let load := IgnoreLayer.load files
      filesOf load ((ancestors place).map load) place [] tree
    | none => []

def isScript (names : List String) : Bool := Path.isScript ("/".intercalate names)

def pathOf (root : String) (names : List String) : String := Path.join root ("/".intercalate names)

end Discovery

inductive WalkError where
  | notADirectory (root : String)
  deriving DecidableEq, Repr, Inhabited

def WalkError.message : WalkError → String
  | .notADirectory root => "failed to walk " ++ root

def WalkError.cause : WalkError → String
  | .notADirectory root => root ++ " is not a directory"

/-- The order of places: by the first name that differs, and a beginning before what it begins. -/
def Discovery.placeLe : List String → List String → Bool
  | [], _ => true
  | _ :: _, [] => false
  | a :: rest, b :: others => if a = b then Discovery.placeLe rest others else decide (a ≤ b)

/-- The scripts of a project that no pattern excludes, ordered by their names below the root. -/
def discover (files : FileSystem) (root : String) (exclude : List String) :
    Except WalkError (List (List String)) :=
  if files.isDirectory root then
    let patterns := Exclude.patterns exclude
    let found := ((Discovery.walk files root).filter Discovery.isScript).filter fun names =>
      !Exclude.covers patterns (Discovery.pathOf root names) names
    .ok (found.mergeSort Discovery.placeLe)
  else .error (.notADirectory root)

end ScriptGraph
