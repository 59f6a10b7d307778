import Mathlib.Algebra.BigOperators.Group.List.Basic
import Mathlib.Algebra.GroupWithZero.Nat
import Mathlib.Data.List.Dedup
import ScriptGraph.Export.Basic
import ScriptGraph.Proofs.Graph.Views

/-!
# Edges counted in different ways

Views count edges vertex by vertex, once at the vertex that they leave and once
at the vertex that they enter; an export counts them one by one; the statistics
count them relation by relation. Each way puts every selected edge under one
key and under no other, so the sums are the same.
-/

namespace ScriptGraph

/-- Counting under each of different keys counts every item that has one of them once. -/
theorem sum_countP_keys {α κ : Type} [DecidableEq κ] (key : α → κ) {keys : List κ}
    (hkeys : keys.Nodup) (items : List α) :
    (keys.map fun k => items.countP fun item => key item = k).sum =
      items.countP fun item => key item ∈ keys := by
  induction keys with
  | nil => simp
  | cons first keys ih =>
      obtain ⟨hfirst, hrest⟩ := List.nodup_cons.mp hkeys
      rw [List.map_cons, List.sum_cons, ih hrest]
      -- No item is counted under the first key and under another one.
      clear ih
      induction items with
      | nil => rfl
      | cons item items ih =>
          rw [List.countP_cons, List.countP_cons, List.countP_cons, ← ih]
          by_cases hitem : key item = first
          · simp only [hitem, hfirst, List.mem_cons_self, decide_true, decide_false, if_true]
            simp only [Bool.false_eq_true, if_false]
            omega
          · simp only [hitem, List.mem_cons, false_or, decide_false, Bool.false_eq_true, if_false]
            omega

namespace Neighbour

theorem sum_count_cons (edge : Relation × String) (counted : List Neighbour) :
    ((cons edge counted).map count).sum = (counted.map count).sum + 1 := by
  cases counted with
  | nil => rfl
  | cons next rest =>
      rw [cons]
      split
      · simp only [List.map_cons, List.sum_cons]
        omega
      · simp only [List.map_cons, List.sum_cons]
        omega

/-- No edge is lost when runs are counted, sorted or not. -/
theorem sum_count_countRuns (edges : List (Relation × String)) :
    ((countRuns edges).map count).sum = edges.length := by
  induction edges with
  | nil => rfl
  | cons edge edges ih =>
      have hstep := sum_count_cons edge (countRuns edges)
      rw [List.length_cons, ← ih, ← hstep]
      rfl

theorem sum_count_sorted (edges : List (Relation × String)) (selection : List Relation) :
    ((countRuns ((edges.mergeSort Graph.neighbourLe).filter
        (·.1.admittedBy selection))).map count).sum =
      edges.countP (·.1.admittedBy selection) := by
  rw [sum_count_countRuns, ← List.countP_eq_length_filter, (List.mergeSort_perm _ _).countP_eq]

end Neighbour

namespace Graph

variable {graph : Graph} {selection : List Relation}

def selectedEdges (edges : List NamedEdge) (selection : List Relation) : List NamedEdge :=
  edges.filter (·.relation.admittedBy selection)

theorem sum_outgoing_viewIn (edges : List NamedEdge) (selection : List Relation)
    (vertex : Vertex) :
    ((viewIn edges selection vertex).outgoing.map Neighbour.count).sum =
      (selectedEdges edges selection).countP fun edge => edge.source = vertex.name := by
  rw [viewIn, Neighbour.sum_count_sorted, NamedEdge.leaving, List.countP_map, List.countP_filter,
    selectedEdges, List.countP_filter]
  apply List.countP_congr
  intro edge _
  simp [and_comm]

theorem sum_incoming_viewIn (edges : List NamedEdge) (selection : List Relation)
    (vertex : Vertex) :
    ((viewIn edges selection vertex).incoming.map Neighbour.count).sum =
      (selectedEdges edges selection).countP fun edge => edge.target = vertex.name := by
  rw [viewIn, Neighbour.sum_count_sorted, NamedEdge.entering, List.countP_map, List.countP_filter,
    selectedEdges, List.countP_filter]
  apply List.countP_congr
  intro edge _
  simp [and_comm]

theorem mem_names_of_nameAt? {id : Nat} {name : String} (h : graph.nameAt? id = some name) :
    name ∈ graph.names :=
  List.mem_of_getElem? ((getElem?_names graph id).trans h)

namespace WellFormed

variable {isMatch : String → Bool}

/-- A sum over the views of all vertices is a sum over the vertices. -/
theorem sum_views (hgraph : graph.WellFormed) (hmatch : ∀ name ∈ graph.names, isMatch name = true)
    (weigh : VertexView → Nat) :
    ((graph.views isMatch selection).map weigh).sum =
      (graph.vertices.toList.map fun vertex =>
        weigh (viewIn graph.namedEdges selection vertex)).sum := by
  have hall : graph.vertices.toList.filter (fun vertex => isMatch vertex.name) =
      graph.vertices.toList :=
    List.filter_eq_self.mpr fun vertex hvertex => hmatch _ (List.mem_map_of_mem hvertex)
  rw [views, hgraph.viewsAmong_eq (.refl _), hall, ((List.mergeSort_perm _ _).map weigh).sum_eq,
    List.map_map]
  rfl

/-- Every edge has its end at one vertex, so counting the ends at each vertex counts every edge. -/
theorem sum_ends (hgraph : graph.WellFormed) {pick : NamedEdge → String}
    (hpick : ∀ edge ∈ graph.namedEdges, pick edge ∈ graph.names) (selection : List Relation) :
    (graph.vertices.toList.map fun vertex =>
      (selectedEdges graph.namedEdges selection).countP fun edge => pick edge = vertex.name).sum =
        (selectedEdges graph.namedEdges selection).length := by
  have hkeys := sum_countP_keys pick hgraph.names_nodup (selectedEdges graph.namedEdges selection)
  rw [names, List.map_map] at hkeys
  refine hkeys.trans (List.countP_eq_length.mpr fun edge hedge => decide_eq_true ?_)
  exact hpick edge (List.mem_of_mem_filter hedge)

theorem sum_outgoing_views (hgraph : graph.WellFormed)
    (hmatch : ∀ name ∈ graph.names, isMatch name = true) (selection : List Relation) :
    ((graph.views isMatch selection).map
        fun view => (view.outgoing.map Neighbour.count).sum).sum =
      (selectedEdges graph.namedEdges selection).length := by
  rw [hgraph.sum_views hmatch]
  simp only [sum_outgoing_viewIn]
  refine hgraph.sum_ends (fun edge hedge => ?_) selection
  obtain ⟨source, -, hsource, -⟩ := hgraph.exists_ends_of_mem hedge
  exact mem_names_of_nameAt? hsource

theorem sum_incoming_views (hgraph : graph.WellFormed)
    (hmatch : ∀ name ∈ graph.names, isMatch name = true) (selection : List Relation) :
    ((graph.views isMatch selection).map
        fun view => (view.incoming.map Neighbour.count).sum).sum =
      (selectedEdges graph.namedEdges selection).length := by
  rw [hgraph.sum_views hmatch]
  simp only [sum_incoming_viewIn]
  refine hgraph.sum_ends (fun edge hedge => ?_) selection
  obtain ⟨-, target, -, htarget⟩ := hgraph.exists_ends_of_mem hedge
  exact mem_names_of_nameAt? htarget

end WellFormed

theorem edges_exportAs (graph : Graph) (format : ExportFormat) (params : ExportChoice) :
    (graph.exportAs format params).edges =
      (selectedEdges graph.namedEdges params.relations).length := by
  rw [selectedEdges, namedEdges, List.filter_map, List.length_map]
  rfl

theorem lookup_byRelation (graph : Graph) (relation : Relation) :
    graph.stats.byRelation.lookup relation = some (graph.countRelation relation) := by
  cases relation <;> rfl

/-- The relations that a selection means, each of them once. -/
def selectedRelations (selection : List Relation) : List Relation :=
  if selection = [] then Relation.all else selection.dedup

theorem nodup_selectedRelations (selection : List Relation) :
    (selectedRelations selection).Nodup := by
  unfold selectedRelations
  split
  · decide
  · exact List.nodup_dedup selection

theorem mem_selectedRelations {selection : List Relation} {relation : Relation} :
    relation ∈ selectedRelations selection ↔ relation.admittedBy selection = true := by
  rw [Relation.admittedBy_iff]
  unfold selectedRelations
  by_cases hempty : selection = []
  · simp [hempty, Relation.mem_all]
  · simp [hempty]

/-- Counting relation by relation counts every selected edge. -/
theorem sum_countRelation (graph : Graph) (selection : List Relation) :
    ((selectedRelations selection).map graph.countRelation).sum =
      (selectedEdges graph.namedEdges selection).length := by
  have hkeys := sum_countP_keys Edge.relation (nodup_selectedRelations selection)
    graph.edges.toList
  have hcount : ∀ relation, graph.countRelation relation =
      graph.edges.toList.countP fun edge => edge.relation = relation := by
    intro relation
    rw [countRelation, ← Array.countP_toList]
    simp only [beq_eq_decide]
  rw [funext hcount, hkeys, selectedEdges, namedEdges, List.filter_map, List.length_map,
    ← List.countP_eq_length_filter]
  apply List.countP_congr
  intro edge _
  rw [decide_eq_true_iff, mem_selectedRelations]
  rfl

/-- All counts of edges agree. For every selection of relations, the numbers told to go out of the
vertices, the numbers told to come in, the edges that an export counts, in either format and
whether it drops vertices or not, and the statistics of the selected relations have one sum;
without a selection it is the number of all edges. -/
theorem totals_agree (hgraph : graph.Reachable) {isMatch : String → Bool}
    (hmatch : ∀ name ∈ graph.names, isMatch name = true) (selection : List Relation)
    (format : ExportFormat) (prune : Bool) :
    ((graph.views isMatch selection).map
      fun view => (view.outgoing.map Neighbour.count).sum).sum =
        (graph.exportAs format ⟨selection, prune⟩).edges ∧
    ((graph.views isMatch selection).map
      fun view => (view.incoming.map Neighbour.count).sum).sum =
        (graph.exportAs format ⟨selection, prune⟩).edges ∧
    (∃ tally : Relation → Nat,
      (∀ relation, graph.stats.byRelation.lookup relation = some (tally relation)) ∧
      ((selectedRelations selection).map tally).sum =
        (graph.exportAs format ⟨selection, prune⟩).edges) ∧
    (selection = [] →
      graph.stats.edges = (graph.exportAs format ⟨selection, prune⟩).edges) := by
  have hwell := hgraph.wellFormed
  rw [edges_exportAs]
  refine ⟨hwell.sum_outgoing_views hmatch selection, hwell.sum_incoming_views hmatch selection,
    ⟨graph.countRelation, graph.lookup_byRelation, graph.sum_countRelation selection⟩, ?_⟩
  rintro rfl
  simp [selectedEdges, Relation.admittedBy, namedEdges, stats]

theorem totals_agree_looped :
    looped.Reachable ∧
    (∀ name ∈ looped.names, (fun _ => true) name = true) ∧
    ((looped.views (fun _ => true) [.requirement, .invocation, .invocation]).map
      fun view => (view.outgoing.map Neighbour.count).sum).sum = 4 ∧
    ((looped.views (fun _ => true) [.invocation]).map
      fun view => (view.incoming.map Neighbour.count).sum).sum = 3 ∧
    looped.stats.edges = 4 := by
  have hreachable : looped.Reachable := reachable_looped
  have hmatch : ∀ name ∈ looped.names, (fun _ => true) name = true := fun _ _ => rfl
  refine ⟨hreachable, hmatch, ?_, ?_, ?_⟩
  · rw [(totals_agree hreachable hmatch [.requirement, .invocation, .invocation] .dot false).1]
    decide +kernel
  · rw [(totals_agree hreachable hmatch [.invocation] .json true).2.1]
    decide +kernel
  · rw [(totals_agree hreachable hmatch [] .json false).2.2.2 rfl]
    decide +kernel

end Graph

end ScriptGraph
