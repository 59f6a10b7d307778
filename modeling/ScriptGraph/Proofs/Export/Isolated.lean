import ScriptGraph.Proofs.Graph.Views
import ScriptGraph.Proofs.Project.Roles

/-!
# Exports are closed, and drop no more than they must

Edges are told apart by their numbers, since parallel edges are equal. The edges
that an export keeps are those of certain numbers, in ascending order, and
selecting more relations adds their numbers to the others. An export that drops
isolated vertices keeps the ends of these edges and nothing else; of the graph
of a project it drops the modules of files that relate to nothing.
-/

namespace ScriptGraph

namespace Graph

/-- The numbers of the edges whose relation a selection admits, ascending. -/
def admittedNumbers (graph : Graph) (selection : List Relation) : List Nat :=
  (List.range graph.edges.size).filter fun number =>
    graph.edges[number]?.any fun edge => edge.relation.admittedBy selection

variable {graph : Graph} {selection : List Relation}

theorem mem_admittedNumbers {number : Nat} :
    number ∈ graph.admittedNumbers selection ↔
      ∃ edge, graph.edges[number]? = some edge ∧
        (selection = [] ∨ edge.relation ∈ selection) := by
  simp only [admittedNumbers, List.mem_filter, List.mem_range, Option.any_eq_true,
    Relation.admittedBy_iff]
  constructor
  · rintro ⟨-, hedge⟩
    exact hedge
  · rintro ⟨edge, hedge, hadmitted⟩
    exact ⟨(Array.getElem?_eq_some_iff.mp hedge).1, edge, hedge, hadmitted⟩

theorem admittedNumbers_ascending (graph : Graph) (selection : List Relation) :
    (graph.admittedNumbers selection).Pairwise (· < ·) :=
  List.pairwise_lt_range.sublist List.filter_sublist

/-- The edges of a graph by their numbers. -/
theorem map_some_edges (graph : Graph) :
    graph.edges.toList.map some = (List.range graph.edges.size).map (graph.edges[·]?) := by
  apply List.ext_getElem?
  intro number
  by_cases hnumber : number < graph.edges.size
  · simp [hnumber]
  · simp [Nat.le_of_not_lt hnumber]

theorem edges_visible_eq (graph : Graph) (params : ExportChoice) :
    (graph.visible params).edges.map some =
      (graph.admittedNumbers params.relations).map (graph.edges[·]?) := by
  have hfilter := congrArg
    (List.filter fun edge? : Option Edge => edge?.any (·.relation.admittedBy params.relations))
    graph.map_some_edges
  rw [List.filter_map, List.filter_map] at hfilter
  exact hfilter

theorem mem_admittedNumbers_append {more : List Relation} (hselection : selection ≠ [])
    (hmore : more ≠ []) {number : Nat} :
    number ∈ graph.admittedNumbers (selection ++ more) ↔
      number ∈ graph.admittedNumbers selection ∨ number ∈ graph.admittedNumbers more := by
  simp only [mem_admittedNumbers, List.append_eq_nil_iff, hselection, hmore, false_and, false_or,
    List.mem_append]
  grind

theorem mem_visible_edges_append {more : List Relation} (hselection : selection ≠ [])
    (hmore : more ≠ []) (prune : Bool) {edge : Edge} :
    edge ∈ (graph.visible ⟨selection ++ more, prune⟩).edges ↔
      edge ∈ (graph.visible ⟨selection, prune⟩).edges ∨
        edge ∈ (graph.visible ⟨more, prune⟩).edges := by
  simp only [mem_visible_edges, List.append_eq_nil_iff, hselection, hmore, false_and, false_or,
    List.mem_append]
  exact and_or_left

theorem mem_pruned_vertices_append {more : List Relation} (hselection : selection ≠ [])
    (hmore : more ≠ []) {entry : Nat × Vertex} :
    entry ∈ (graph.visible ⟨selection ++ more, true⟩).vertices ↔
      entry ∈ (graph.visible ⟨selection, true⟩).vertices ∨
        entry ∈ (graph.visible ⟨more, true⟩).vertices := by
  obtain ⟨id, vertex⟩ := entry
  simp only [mem_visible_vertices, mem_visible_edges_append hselection hmore, or_and_right,
    exists_or, forall_true_left, ← and_or_left]

/-- Without a selection, an export drops the vertices at which no edge ends. -/
theorem not_mem_pruned_iff {id : Nat} {vertex : Vertex}
    (hvertex : graph.vertices[id]? = some vertex) :
    (id, vertex) ∉ (graph.visible ⟨[], true⟩).vertices ↔
      ∀ edge ∈ graph.edges, edge.source ≠ id ∧ edge.target ≠ id := by
  simp only [mem_visible_vertices, mem_visible_edges, hvertex, true_and, true_or, and_true,
    forall_true_left, not_exists, not_and, not_or, ne_eq]

end Graph

namespace Build

/-- An export keeps exactly the edges of the selected relations, by ascending number, and with each
of them the vertices at its ends. It keeps all vertices, or, if isolated ones are dropped, exactly
those at the ends of kept edges. Two selections one after the other keep the edges, and with
dropping also the vertices, of both. Whatever a build returns, with one worker or with many, an
export of all relations drops exactly the modules of files that were not skipped at which no edge
ends. -/
theorem exports_closed_and_minimal :
    (∀ graph : Graph, graph.Reachable → ∀ params : ExportChoice,
      ((graph.visible params).edges.map some =
          (graph.admittedNumbers params.relations).map (graph.edges[·]?) ∧
        (graph.admittedNumbers params.relations).Pairwise (· < ·) ∧
        ∀ number, number ∈ graph.admittedNumbers params.relations ↔
          ∃ edge, graph.edges[number]? = some edge ∧
            (params.relations = [] ∨ edge.relation ∈ params.relations)) ∧
      (∀ edge ∈ (graph.visible params).edges, ∀ id, edge.source = id ∨ edge.target = id →
        ∃ vertex, (id, vertex) ∈ (graph.visible params).vertices) ∧
      ((graph.visible params).vertices.map Prod.fst).Pairwise (· < ·) ∧
      (∀ id vertex, (id, vertex) ∈ (graph.visible params).vertices ↔
        graph.vertices[id]? = some vertex ∧
          (params.pruneIsolated = true →
            ∃ edge ∈ (graph.visible params).edges, edge.source = id ∨ edge.target = id))) ∧
    (∀ (graph : Graph) (selection more : List Relation), selection ≠ [] → more ≠ [] →
      (∀ number, number ∈ graph.admittedNumbers (selection ++ more) ↔
        number ∈ graph.admittedNumbers selection ∨ number ∈ graph.admittedNumbers more) ∧
      ∀ entry, entry ∈ (graph.visible ⟨selection ++ more, true⟩).vertices ↔
        entry ∈ (graph.visible ⟨selection, true⟩).vertices ∨
          entry ∈ (graph.visible ⟨more, true⟩).vertices) ∧
    ∀ files root config,
      (∀ build, run files root config = .ok build → Possible files root config build) ∧
      ∀ build, Possible files root config build →
        (∀ (id : Nat) vertex, build.graph.vertices[id]? = some vertex →
          ((id, vertex) ∉ (build.graph.visible ⟨[], true⟩).vertices ↔
            HasModule files root config vertex.name ∧
              ∀ edge ∈ build.graph.edges, edge.source ≠ id ∧ edge.target ≠ id)) ∧
        ∀ name, HasModule files root config name →
          ∃ (id : Nat) (vertex : Vertex), build.graph.vertices[id]? = some vertex ∧
            vertex.name = name ∧ vertex.isModule = true := by
  refine ⟨?_, ?_, fun files root config => ⟨fun build => possible_of_run, ?_⟩⟩
  · intro graph hgraph params
    refine ⟨⟨graph.edges_visible_eq params, graph.admittedNumbers_ascending _, ?_⟩, ?_,
      graph.visible_vertices_ascending params, ?_⟩
    · exact fun number => Graph.mem_admittedNumbers
    · exact fun edge hedge id => hgraph.wellFormed.ends_visible hedge
    · exact fun id vertex => Graph.mem_visible_vertices
  · intro graph selection more hselection hmore
    exact ⟨fun number => Graph.mem_admittedNumbers_append hselection hmore,
      fun entry => Graph.mem_pruned_vertices_append hselection hmore⟩
  · rintro build ⟨found, schedule, hfound, hdone, rfl⟩
    have hholds := Pool.holds_of_isDone hdone
    constructor
    · intro id vertex hvertex
      rw [Graph.not_mem_pruned_iff hvertex, ← exists_job_iff hfound, iff_and_self]
      -- Without an edge, only a job can have brought the vertex there.
      intro hisolated
      refine (hholds.module_or_target hvertex).resolve_right ?_
      rintro ⟨edge, hedge, htarget⟩
      exact (hisolated edge hedge).2 htarget
    · intro name hname
      obtain ⟨job, hjob, rfl⟩ := (exists_job_iff hfound name).mpr hname
      obtain ⟨id, vertex, hid, hvertex, hmodule⟩ := hholds.exists_module hjob
      have hsame := Graph.nameOf_of_nameAt? (hholds.wellFormed.nameAt?_of_lookup? hid)
      refine ⟨id, vertex, hvertex, ?_, hmodule⟩
      simpa [Graph.nameOf, hvertex] using hsame

theorem exports_closed_and_minimal_workshop :
    (Graph.looped.Reachable ∧
      (Graph.looped.visible ⟨[.invocation], true⟩).edges.map some =
        [0, 1, 3].map (Graph.looped.edges[·]?) ∧
      (∀ number, number ∈ Graph.looped.admittedNumbers ([.requirement] ++ [.invocation]) ↔
        number = 2 ∨ number ∈ [0, 1, 3])) ∧
    ∃ build, run workshop "/p" .standard = .ok build ∧
      Possible workshop "/p" .standard build ∧
      build.graph.vertices[3]? = some ⟨"quiet", true, false⟩ ∧
      (3, ⟨"quiet", true, false⟩) ∉ (build.graph.visible ⟨[], true⟩).vertices ∧
      HasModule workshop "/p" .standard "quiet" := by
  obtain ⟨hexact, hunion, hbuild⟩ := exports_closed_and_minimal
  have hinvocation : Graph.looped.admittedNumbers [.invocation] = [0, 1, 3] := by decide +kernel
  have hrequirement : Graph.looped.admittedNumbers [.requirement] = [2] := by decide +kernel
  refine ⟨⟨Graph.reachable_looped, ?_, ?_⟩, ?_⟩
  · rw [(hexact _ Graph.reachable_looped ⟨[.invocation], true⟩).1.1, hinvocation]
  · intro number
    rw [(hunion Graph.looped [.requirement] [.invocation] (by decide) (by decide)).1,
      hinvocation, hrequirement, List.mem_singleton]
  · obtain ⟨build, hrun, hvertices, hedges, -⟩ := exists_run_workshop
    have hpossible := (hbuild workshop "/p" .standard).1 build hrun
    obtain ⟨hdropped, -⟩ := (hbuild workshop "/p" .standard).2 build hpossible
    have hvertex : build.graph.vertices[3]? = some ⟨"quiet", true, false⟩ := by
      rw [← Array.getElem?_toList, hvertices]
      rfl
    have hisolated : (3, ⟨"quiet", true, false⟩) ∉ (build.graph.visible ⟨[], true⟩).vertices := by
      rw [Graph.not_mem_pruned_iff hvertex]
      intro edge hedge
      rw [← Array.mem_toList_iff, hedges] at hedge
      revert edge
      decide
    exact ⟨build, hrun, hpossible, hvertex, hisolated, ((hdropped 3 _ hvertex).mp hisolated).1⟩

end Build

end ScriptGraph
