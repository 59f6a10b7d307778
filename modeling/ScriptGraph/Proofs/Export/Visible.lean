import Mathlib.Data.List.Basic
import ScriptGraph.Export.Visible
import ScriptGraph.Proofs.Graph.Registry

/-!
# What an export keeps

An export keeps the edges whose relation is selected and, if isolated vertices
are dropped, only the vertices at the ends of these edges. Numbers ascend, and
no kept edge ends at a vertex that was dropped.
-/

namespace ScriptGraph

theorem Relation.admittedBy_iff {selection : List Relation} {relation : Relation} :
    relation.admittedBy selection = true ↔ selection = [] ∨ relation ∈ selection := by
  simp [admittedBy]

theorem Edge.touches_iff {edge : Edge} {id : Nat} :
    edge.touches id = true ↔ edge.source = id ∨ edge.target = id := by
  simp [touches]

namespace Graph

variable {graph : Graph} {params : ExportChoice}

theorem mem_visible_edges {edge : Edge} :
    edge ∈ (graph.visible params).edges ↔
      edge ∈ graph.edges ∧ (params.relations = [] ∨ edge.relation ∈ params.relations) := by
  simp [visible, visibleEdges, Relation.admittedBy_iff]

def numbered (graph : Graph) : List (Nat × Vertex) := graph.vertices.toList.zipIdx.map Prod.swap

theorem mem_numbered {id : Nat} {vertex : Vertex} :
    (id, vertex) ∈ graph.numbered ↔ graph.vertices[id]? = some vertex := by
  simp [numbered, List.mk_mem_zipIdx_iff_getElem?]

theorem numbered_ascending (graph : Graph) : (graph.numbered.map Prod.fst).Pairwise (· < ·) := by
  have hnumbers : graph.numbered.map Prod.fst = List.range' 0 graph.vertices.size := by
    rw [numbered, List.map_map]
    exact List.zipIdx_map_snd 0 graph.vertices.toList
  rw [hnumbers]
  exact List.pairwise_lt_range' 1

theorem visible_vertices_eq (graph : Graph) (params : ExportChoice) :
    (graph.visible params).vertices =
      if params.pruneIsolated then
        graph.numbered.filter fun entry =>
          (graph.visible params).edges.any fun edge => edge.touches entry.1
      else graph.numbered := rfl

theorem mem_visible_vertices {id : Nat} {vertex : Vertex} :
    (id, vertex) ∈ (graph.visible params).vertices ↔
      graph.vertices[id]? = some vertex ∧
        (params.pruneIsolated = true →
          ∃ edge ∈ (graph.visible params).edges, edge.source = id ∨ edge.target = id) := by
  rw [visible_vertices_eq]
  by_cases hprune : params.pruneIsolated = true
  · simp [hprune, mem_numbered, List.mem_filter, Edge.touches_iff]
  · simp [hprune, mem_numbered]

theorem visible_vertices_ascending (graph : Graph) (params : ExportChoice) :
    ((graph.visible params).vertices.map Prod.fst).Pairwise (· < ·) := by
  have hall := graph.numbered_ascending
  rw [visible_vertices_eq]
  split
  · exact hall.sublist (List.filter_sublist.map Prod.fst)
  · exact hall

/-- A kept edge keeps the vertices at its ends. -/
theorem WellFormed.ends_visible (hgraph : graph.WellFormed) {edge : Edge}
    (hedge : edge ∈ (graph.visible params).edges) {id : Nat}
    (hid : edge.source = id ∨ edge.target = id) :
    ∃ vertex, (id, vertex) ∈ (graph.visible params).vertices := by
  obtain ⟨hsource, htarget⟩ := hgraph.ends_lt edge (mem_visible_edges.mp hedge).1
  have hlt : id < graph.vertices.size := by omega
  refine ⟨graph.vertices[id], mem_visible_vertices.mpr ⟨by simp [hlt], ?_⟩⟩
  intro _
  exact ⟨edge, hedge, hid⟩

end Graph

end ScriptGraph
