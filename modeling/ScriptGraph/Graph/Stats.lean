import ScriptGraph.Graph.Basic
import ScriptGraph.Format.Json

/-!
# Counts over a graph
-/

namespace ScriptGraph

structure Stats where
  vertices : Nat
  modules : Nat
  symbols : Nat
  /-- Vertices that are both modules and symbols. -/
  merged : Nat
  edges : Nat
  /-- Edges by relation, in reporting order. -/
  byRelation : List (Relation × Nat)
  /-- Names that are declared, but neither invoked nor extended. -/
  uninvoked : Nat
  deriving DecidableEq, Repr, Inhabited

namespace Graph

/-- Whether a vertex is declared, but neither invoked nor extended. -/
def isUninvoked (graph : Graph) (id : Nat) : Bool :=
  let relations := (graph.incoming id).map Prod.fst
  relations.contains .declaration &&
    !(relations.contains .invocation || relations.contains .extension)

def stats (graph : Graph) : Stats where
  vertices := graph.vertexCount
  modules := graph.countRole .module
  symbols := graph.countRole .symbol
  merged := graph.vertices.countP fun vertex => vertex.isModule && vertex.isSymbol
  edges := graph.edges.size
  byRelation := Relation.all.map fun relation => (relation, graph.countRelation relation)
  uninvoked := (List.range graph.vertices.size).countP graph.isUninvoked

end Graph

def Stats.toJson (stats : Stats) : Json :=
  .obj [
    ("vertex_count", .nat stats.vertices),
    ("modules", .nat stats.modules),
    ("symbols", .nat stats.symbols),
    ("merged", .nat stats.merged),
    ("edge_count", .nat stats.edges),
    ("edges", .obj (stats.byRelation.map fun (relation, count) => (relation.label, .nat count))),
    ("uninvoked_declarations", .nat stats.uninvoked)]

end ScriptGraph
