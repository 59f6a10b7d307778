/-!
# Slash-separated paths

A path is read as a list of components. Repeated and trailing slashes do not
count, a `.` counts only at the very start of a path without a root, and `..`
is never resolved.
-/

namespace ScriptGraph

inductive Component where
  /-- The leading `/` of an absolute path. -/
  | root
  /-- A `.` that opens a relative path. -/
  | here
  /-- A `..`. -/
  | parent
  /-- An ordinary name. -/
  | name (chars : List Char)
  deriving DecidableEq, Repr, Inhabited

namespace Path

/-- The pieces of a text between slashes; there is always at least one. -/
def segments : List Char → List (List Char)
  | [] => [[]]
  | c :: rest =>
    if c = '/' then [] :: segments rest
    else match segments rest with
      | [] => [[c]]
      | piece :: pieces => (c :: piece) :: pieces

/-- The component a piece stands for; empty pieces and inner `.` stand for none. -/
def component? (piece : List Char) : Option Component :=
  if piece = [] ∨ piece = ['.'] then none
  else if piece = ['.', '.'] then some .parent
  else some (.name piece)

def opening : List Char → List Component
  | [] => []
  | '/' :: _ => [.root]
  | ['.'] => [.here]
  | '.' :: '/' :: _ => [.here]
  | _ => []

def components (path : List Char) : List Component :=
  opening path ++ (segments path).filterMap component?

/-- The components of `file` below `base`, if it lies there. -/
def below? : List Component → List Component → Option (List Component)
  | [], file => some file
  | _ :: _, [] => none
  | b :: base, f :: file => if b = f then below? base file else none

/-- The text of a component in a rendered path; a root or an opening `.` has none. -/
def segment? : Component → Option (List Char)
  | .name chars => some chars
  | .parent => some ['.', '.']
  | .root => none
  | .here => none

/-- The components joined by single slashes, without root or opening `.`. -/
def render (parts : List Component) : List Char :=
  (parts.filterMap segment?).intersperse ['/'] |>.flatten

/-- The components of `file` relative to `root`, or all of them when `file` lies elsewhere. -/
def relativeComponents (root file : List Char) : List Component :=
  (below? (components root) (components file)).getD (components file)

/-- `file` relative to `root` as slash-separated text, or all of `file` if it lies elsewhere. -/
def relative (root file : String) : String :=
  String.ofList (render (relativeComponents root.toList file.toList))

/-- A path seen from a base: an absolute path stays as it is. -/
def join (base path : String) : String :=
  match path.toList with
  | '/' :: _ => path
  | _ =>
    match base.toList.getLast? with
    | none => path
    | some '/' => base ++ path
    | some _ => base ++ "/" ++ path

/-- The last component of a path, if that is an ordinary name. -/
def fileName? (path : List Char) : Option (List Char) :=
  match (components path).getLast? with
  | some (.name chars) => some chars
  | _ => none

/-- What follows the last dot of a file name, unless that dot is absent or opens the name. -/
def nameExtension? (fileName : List Char) : Option (List Char) :=
  let back := fileName.reverse
  match back.dropWhile (· ≠ '.') with
  | [] => none
  | [_] => none
  | _ :: _ :: _ => some (back.takeWhile (· ≠ '.')).reverse

def extension? (path : String) : Option String :=
  (fileName? path.toList).bind fun name => (nameExtension? name).map String.ofList

def scriptExtensions : List String := ["js", "mjs", "cjs", "jsx"]

def isScript (path : String) : Bool :=
  match extension? path with
  | some ext => scriptExtensions.contains ext
  | none => false

/-- The last segment of a path, its trailing slashes left off. -/
def leaf (path : List Char) : List Char :=
  ((path.reverse.dropWhile (· == '/')).takeWhile (· != '/')).reverse

/-- The last segment of a path, cut at its first dot. -/
def stem (path : List Char) : List Char :=
  (leaf path).takeWhile (· != '.')

/-- The name under which a path's module is known: its last segment, cut at the first dot. Files
and the paths handed to loaders are named alike, so that both ends of a requirement meet. -/
def moduleName (path : String) : String :=
  String.ofList (stem path.toList)

end Path

end ScriptGraph
