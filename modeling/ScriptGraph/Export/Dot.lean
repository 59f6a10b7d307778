import ScriptGraph.Export.Visible

/-!
# Graphs as DOT text

Each vertex is one statement with its number, its name and a style that tells
its roles; each edge is one statement with the numbers of its ends and its
relation.
-/

namespace ScriptGraph.Dot

def escapeChar (c : Char) : List Char :=
  if c = '\x22' then ['\\', '\x22']
  else if c = '\\' then ['\\', '\\']
  else if c = '\n' then ['\\', 'n']
  else [c]

def escape (text : String) : String :=
  String.ofList (text.toList.flatMap escapeChar)

def fillColor (vertex : Vertex) : String :=
  match vertex.isModule, vertex.isSymbol with
  | true, true => "#F9E79F"
  | true, false => "#A9DFBF"
  | false, true => "#AED6F1"
  | false, false => "#EAECEE"

/-- The shape of a vertex: a box for modules. -/
def shape (vertex : Vertex) : String :=
  if vertex.isModule then "box" else "ellipse"

def lineStyle : Relation → String
  | .declaration => "style=dashed color=gray40"
  | .invocation => "style=solid color=blue"
  | .extension => "style=solid arrowhead=onormal"
  | .requirement => "style=dotted"

def vertexLine (id : Nat) (vertex : Vertex) : String :=
  "    n" ++ toString id ++ " [label=\"" ++ escape vertex.name ++ "\" shape=" ++
    shape vertex ++ " fillcolor=\"" ++ fillColor vertex ++ "\"];\n"

def edgeLine (edge : Edge) : String :=
  "    n" ++ toString edge.source ++ " -> n" ++ toString edge.target ++ " [label=\"" ++
    edge.relation.label ++ "\" " ++ lineStyle edge.relation ++ "];\n"

def header : String :=
  "digraph relgraph \x7b\n    rankdir=LR;\n    node [style=filled fontname=monospace];\n"

def footer : String := "\x7d\n"

def render (visible : Visible) : String :=
  header ++ String.join (visible.vertices.map fun (id, vertex) => vertexLine id vertex) ++
    String.join (visible.edges.map edgeLine) ++ footer

end ScriptGraph.Dot
