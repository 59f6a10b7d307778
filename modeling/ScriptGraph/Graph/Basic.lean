import Std.Data.TreeMap
import ScriptGraph.Graph.Relation

/-!
# The relation graph

Vertices are numbered in the order in which their names are first referred to,
one vertex a name. Edges are kept in the order in which they are added and are
never merged.
-/

namespace ScriptGraph

/-- A name together with the roles it has been referred to in. -/
structure Vertex where
  name : String
  isModule : Bool
  isSymbol : Bool
  deriving DecidableEq, Repr, Inhabited

namespace Vertex

def ofRole (name : String) : Role → Vertex
  | .module => ⟨name, true, false⟩
  | .symbol => ⟨name, false, true⟩

def addRole (vertex : Vertex) : Role → Vertex
  | .module => { vertex with isModule := true }
  | .symbol => { vertex with isSymbol := true }

def hasRole (vertex : Vertex) : Role → Bool
  | .module => vertex.isModule
  | .symbol => vertex.isSymbol

def roleWord (vertex : Vertex) : String :=
  match vertex.isModule, vertex.isSymbol with
  | true, true => "module+symbol"
  | true, false => "module"
  | false, _ => "symbol"

end Vertex

/-- One occurrence of a relation between two vertices, given by their numbers. -/
structure Edge where
  source : Nat
  target : Nat
  relation : Relation
  deriving DecidableEq, Repr, Inhabited

/-- A directed multigraph over names. -/
structure Graph where
  vertices : Array Vertex
  edges : Array Edge
  /-- The number of the vertex of each name. -/
  index : Std.TreeMap String Nat

namespace Graph

def empty : Graph := ⟨#[], #[], ∅⟩

instance : Inhabited Graph := ⟨empty⟩

def lookup? (graph : Graph) (name : String) : Option Nat := graph.index[name]?

/-- Refers to a name in a role: the number of its vertex, and the graph in which that vertex
exists and has the role. -/
def refer (graph : Graph) (name : String) (role : Role) : Nat × Graph :=
  match graph.lookup? name with
  | some id => (id, { graph with vertices := graph.vertices.modify id (·.addRole role) })
  | none =>
    let id := graph.vertices.size
    (id, { graph with
      vertices := graph.vertices.push (Vertex.ofRole name role)
      index := graph.index.insert name id })

def relate (graph : Graph) (source target : Nat) (relation : Relation) : Graph :=
  { graph with edges := graph.edges.push ⟨source, target, relation⟩ }

def nameOf (graph : Graph) (id : Nat) : String :=
  match graph.vertices[id]? with
  | some vertex => vertex.name
  | none => ""

def roleWordOf (graph : Graph) (id : Nat) : String :=
  match graph.vertices[id]? with
  | some vertex => vertex.roleWord
  | none => ""

def vertexCount (graph : Graph) : Nat := graph.index.size

def countRole (graph : Graph) (role : Role) : Nat :=
  graph.vertices.countP (·.hasRole role)

def countRelation (graph : Graph) (relation : Relation) : Nat :=
  graph.edges.countP (·.relation == relation)

/-- Order of relation first, of name second. -/
def neighbourLe (a b : Relation × String) : Bool :=
  decide (a.1.rank < b.1.rank) || (a.1.rank == b.1.rank && decide (a.2 ≤ b.2))

def outgoing (graph : Graph) (id : Nat) : List (Relation × String) :=
  ((graph.edges.toList.filter (·.source == id)).map
    fun edge => (edge.relation, graph.nameOf edge.target)).mergeSort neighbourLe

def incoming (graph : Graph) (id : Nat) : List (Relation × String) :=
  ((graph.edges.toList.filter (·.target == id)).map
    fun edge => (edge.relation, graph.nameOf edge.source)).mergeSort neighbourLe

end Graph

end ScriptGraph
