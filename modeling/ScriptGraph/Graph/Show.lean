import ScriptGraph.Graph.Basic
import ScriptGraph.Format.Json

/-!
# Looking at single vertices

What a vertex relates to and what relates to it. Parallel edges are told once,
with their number.
-/

namespace ScriptGraph

/-- A neighbour of a vertex, with the number of parallel edges to it. -/
structure Neighbour where
  relation : Relation
  name : String
  count : Nat
  deriving DecidableEq, Repr, Inhabited

structure VertexView where
  name : String
  role : String
  outgoing : List Neighbour
  incoming : List Neighbour
  deriving DecidableEq, Repr, Inhabited

def Neighbour.cons (edge : Relation × String) : List Neighbour → List Neighbour
  | [] => [⟨edge.1, edge.2, 1⟩]
  | next :: rest =>
    if next.relation = edge.1 ∧ next.name = edge.2 then
      { next with count := next.count + 1 } :: rest
    else ⟨edge.1, edge.2, 1⟩ :: next :: rest

def Neighbour.countRuns (edges : List (Relation × String)) : List Neighbour :=
  edges.foldr Neighbour.cons []

namespace Graph

def view (graph : Graph) (selection : List Relation) (name : String) (id : Nat) : VertexView where
  name := name
  role := graph.roleWordOf id
  outgoing := Neighbour.countRuns ((graph.outgoing id).filter (·.1.admittedBy selection))
  incoming := Neighbour.countRuns ((graph.incoming id).filter (·.1.admittedBy selection))

def viewsAmong (graph : Graph) (entries : List (String × Nat)) (isMatch : String → Bool)
    (selection : List Relation) : List VertexView :=
  ((entries.filter fun (name, _) => isMatch name).map
    fun (name, id) => graph.view selection name id).mergeSort
      fun a b => decide (a.name ≤ b.name)

def views (graph : Graph) (isMatch : String → Bool) (selection : List Relation) :
    List VertexView :=
  graph.viewsAmong graph.index.toList isMatch selection

end Graph

def Neighbour.toJson (neighbour : Neighbour) : Json :=
  .obj [
    ("relation", .str neighbour.relation.label),
    ("name", .str neighbour.name),
    ("count", .nat neighbour.count)]

def VertexView.toJson (view : VertexView) : Json :=
  .obj [
    ("name", .str view.name),
    ("role", .str view.role),
    ("outgoing", .arr (view.outgoing.map Neighbour.toJson)),
    ("incoming", .arr (view.incoming.map Neighbour.toJson))]

end ScriptGraph
