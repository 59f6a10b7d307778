import ScriptGraph.Export.Visible
import ScriptGraph.Format.Json

/-!
# Graphs as JSON text

Vertices carry their numbers; edges name their ends.
-/

namespace ScriptGraph

def Vertex.toJson (id : Nat) (vertex : Vertex) : Json :=
  .obj [
    ("id", .nat id),
    ("name", .str vertex.name),
    ("module", .bool vertex.isModule),
    ("symbol", .bool vertex.isSymbol)]

def Graph.edgeToJson (graph : Graph) (edge : Edge) : Json :=
  .obj [
    ("from", .str (graph.nameOf edge.source)),
    ("to", .str (graph.nameOf edge.target)),
    ("relation", .str edge.relation.label)]

def Graph.visibleToJson (graph : Graph) (visible : Visible) : Json :=
  .obj [
    ("vertices", .arr (visible.vertices.map fun (id, vertex) => vertex.toJson id)),
    ("edges", .arr (visible.edges.map graph.edgeToJson))]

end ScriptGraph
