import ScriptGraph.Graph.Basic

/-!
# The exported part of a graph
-/

namespace ScriptGraph

structure ExportChoice where
  /-- The relations whose edges are kept; none means all. -/
  relations : List Relation
  /-- Whether vertices without a kept edge are dropped. -/
  pruneIsolated : Bool
  deriving DecidableEq, Repr, Inhabited

/-- The vertices and edges of an export, both in the order of the graph. -/
structure Visible where
  vertices : List (Nat × Vertex)
  edges : List Edge
  deriving DecidableEq, Repr, Inhabited

def Edge.touches (edge : Edge) (id : Nat) : Bool := edge.source == id || edge.target == id

namespace Graph

def visibleEdges (graph : Graph) (params : ExportChoice) : List Edge :=
  graph.edges.toList.filter (·.relation.admittedBy params.relations)

def visible (graph : Graph) (params : ExportChoice) : Visible :=
  let edges := graph.visibleEdges params
  let numbered := graph.vertices.toList.zipIdx.map fun (vertex, id) => (id, vertex)
  { vertices :=
      if params.pruneIsolated then
        numbered.filter fun (id, _) => edges.any fun edge => edge.touches id
      else numbered
    edges := edges }

end Graph

end ScriptGraph
