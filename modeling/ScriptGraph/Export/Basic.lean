import ScriptGraph.Export.Dot
import ScriptGraph.Export.Json

/-!
# Exporting a graph
-/

namespace ScriptGraph

inductive ExportFormat where
  | dot
  | json
  deriving DecidableEq, Repr, Inhabited

structure Exported where
  content : String
  vertices : Nat
  edges : Nat
  deriving DecidableEq, Repr, Inhabited

def Graph.exportAs (graph : Graph) (format : ExportFormat) (params : ExportChoice) :
    Exported :=
  let visible := graph.visible params
  { content := match format with
      | .dot => Dot.render visible
      | .json => (graph.visibleToJson visible).render
    vertices := visible.vertices.length
    edges := visible.edges.length }

end ScriptGraph
