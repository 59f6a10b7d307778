import Mathlib.Data.Finset.Card
import Mathlib.Data.Finset.Union
import ScriptGraph.Proofs.Project.Accounting
import ScriptGraph.Proofs.Project.Roles

/-!
# What the statistics say

Every vertex has a role, so modules and symbols together are the vertices with
the merged ones counted twice; every edge has one relation, so the counts by
relation add up. Unused declarations are counted vertex by vertex, by looking
through sorted neighbours; the count is the size of a difference of sets of
names, and in the graph of a project these names are symbols.
-/

namespace ScriptGraph

def NamedEdge.targets (edges : List NamedEdge) (relation : Relation) : Finset String :=
  ((edges.filter (·.relation = relation)).map NamedEdge.target).toFinset

theorem NamedEdge.mem_targets {edges : List NamedEdge} {relation : Relation} {name : String} :
    name ∈ targets edges relation ↔
      ∃ edge ∈ edges, edge.relation = relation ∧ edge.target = name := by
  simp [targets, and_assoc]

/-- Items that pass one test or the other, and again those that pass both. -/
theorem countP_add_countP {α : Type} (p q : α → Bool) (items : List α) :
    items.countP p + items.countP q =
      (items.countP fun item => p item || q item) + items.countP fun item => p item && q item := by
  induction items with
  | nil => rfl
  | cons item items ih =>
      simp only [List.countP_cons]
      cases p item <;> cases q item <;> simp <;> omega

namespace Graph

variable {graph : Graph}

theorem uninvokedIn_iff {edges : List NamedEdge} {name : String} :
    uninvokedIn edges name = true ↔
      name ∈ NamedEdge.targets edges .declaration \
        (NamedEdge.targets edges .invocation ∪ NamedEdge.targets edges .extension) := by
  have hcontains : ∀ relation,
      (((NamedEdge.entering edges name).mergeSort neighbourLe).map Prod.fst).contains relation =
        true ↔ name ∈ NamedEdge.targets edges relation := by
    intro relation
    simp only [List.contains_iff_mem, List.mem_map, List.mem_mergeSort, NamedEdge.entering,
      List.mem_filter, beq_iff_eq, NamedEdge.mem_targets]
    constructor
    · rintro ⟨_, ⟨edge, ⟨hedge, hname⟩, rfl⟩, hrelation⟩
      exact ⟨edge, hedge, hrelation, hname⟩
    · rintro ⟨edge, hedge, hrelation, hname⟩
      exact ⟨_, ⟨edge, ⟨hedge, hname⟩, rfl⟩, hrelation⟩
  rw [uninvokedIn, Bool.and_eq_true, Bool.not_eq_true', ← Bool.not_eq_true, Bool.or_eq_true,
    hcontains, hcontains, hcontains, Finset.mem_sdiff, Finset.mem_union]

theorem keys_byRelation (graph : Graph) :
    graph.stats.byRelation.map Prod.fst =
      [.declaration, .invocation, .extension, .requirement] := rfl

namespace WellFormed

variable (hgraph : graph.WellFormed)

include hgraph

theorem modules_add_symbols :
    graph.stats.modules + graph.stats.symbols = graph.stats.vertices + graph.stats.merged := by
  have hsome : graph.vertices.toList.countP
      (fun vertex => vertex.hasRole .module || vertex.hasRole .symbol) =
        graph.vertices.toList.length := by
    rw [List.countP_eq_length]
    intro vertex hvertex
    obtain ⟨role, hrole⟩ := hgraph.has_role vertex (by simpa using hvertex)
    cases role <;> simp [hrole]
  have hcount := countP_add_countP (·.hasRole .module) (·.hasRole .symbol) graph.vertices.toList
  rw [hsome] at hcount
  simpa [stats, countRole, hgraph.count_eq, Vertex.hasRole] using hcount

theorem target_mem_names {relation : Relation} {name : String}
    (h : name ∈ NamedEdge.targets graph.namedEdges relation) : name ∈ graph.names := by
  obtain ⟨edge, hedge, -, rfl⟩ := NamedEdge.mem_targets.mp h
  obtain ⟨-, target, -, htarget⟩ := hgraph.exists_ends_of_mem hedge
  exact mem_names_of_nameAt? htarget

theorem uninvoked_eq_card :
    graph.stats.uninvoked =
      (NamedEdge.targets graph.namedEdges .declaration \
        (NamedEdge.targets graph.namedEdges .invocation ∪
          NamedEdge.targets graph.namedEdges .extension)).card := by
  have hnames : graph.stats.uninvoked =
      (graph.names.filter (uninvokedIn graph.namedEdges)).length := by
    rw [← List.countP_eq_length_filter, names, List.countP_map]
    exact hgraph.uninvoked_eq
  have hset : NamedEdge.targets graph.namedEdges .declaration \
      (NamedEdge.targets graph.namedEdges .invocation ∪
        NamedEdge.targets graph.namedEdges .extension) =
          (graph.names.filter (uninvokedIn graph.namedEdges)).toFinset := by
    ext name
    rw [List.mem_toFinset, List.mem_filter, uninvokedIn_iff, iff_and_self]
    intro hname
    exact hgraph.target_mem_names (Finset.mem_sdiff.mp hname).1
  rw [hnames, hset, List.toFinset_card_of_nodup (hgraph.names_nodup.filter _)]

end WellFormed

namespace Holds

variable {jobs : List Job} (h : graph.Holds jobs)

include h

theorem marked_target {edge : NamedEdge} (hedge : edge ∈ graph.namedEdges) :
    graph.Marked edge.target edge.relation.targetRole := by
  obtain ⟨job, hjob, hown⟩ := List.mem_flatMap.mp (h.edges_perm.mem_iff.mp hedge)
  obtain ⟨reference, hreference, rfl⟩ := List.mem_map.mp hown
  rw [h.marked_iff, Job.mem_flatMap_marks]
  exact .inr ⟨job, hjob, reference, hreference, rfl, rfl⟩

theorem uninvoked_le_symbols : graph.stats.uninvoked ≤ graph.stats.symbols := by
  have hsymbols : graph.stats.symbols = graph.vertices.toList.countP (·.hasRole .symbol) :=
    Array.countP_toList.symm
  have huninvoked : graph.stats.uninvoked = graph.vertices.toList.countP fun vertex =>
      uninvokedIn graph.namedEdges vertex.name := h.wellFormed.uninvoked_eq
  rw [hsymbols, huninvoked]
  refine List.countP_mono_left fun vertex hvertex hunused => ?_
  have hdeclared := (Finset.mem_sdiff.mp (uninvokedIn_iff.mp hunused)).1
  obtain ⟨edge, hedge, hrelation, hname⟩ := NamedEdge.mem_targets.mp hdeclared
  have hmarked := h.marked_target hedge
  rw [hrelation, hname, h.wellFormed.marked_name_iff (by simpa using hvertex)] at hmarked
  exact hmarked

end Holds

end Graph

namespace Build

/-- The statistics of a graph balance: modules and symbols are the vertices with the merged ones
counted twice, the edges by relation, all four listed, add up to the edges, and the unused
declarations are the names that a declaration goes to and no invocation or extension. Whatever a
build returns, with one worker or with many, it has at least as many symbols as those. -/
theorem statistics_balance :
    (∀ graph : Graph, graph.Reachable →
      graph.stats.modules + graph.stats.symbols = graph.stats.vertices + graph.stats.merged ∧
      graph.stats.byRelation.map Prod.fst =
        [.declaration, .invocation, .extension, .requirement] ∧
      (graph.stats.byRelation.map Prod.snd).sum = graph.stats.edges ∧
      graph.stats.uninvoked =
        (NamedEdge.targets graph.namedEdges .declaration \
          (NamedEdge.targets graph.namedEdges .invocation ∪
            NamedEdge.targets graph.namedEdges .extension)).card) ∧
    ∀ files root config,
      (∀ build, run files root config = .ok build → Possible files root config build) ∧
      ∀ build, Possible files root config build →
        build.graph.stats.uninvoked ≤ build.graph.stats.symbols := by
  refine ⟨fun graph hgraph => ?_, fun files root config => ⟨fun build => possible_of_run, ?_⟩⟩
  · exact ⟨hgraph.wellFormed.modules_add_symbols, graph.keys_byRelation,
      graph.sum_byRelation, hgraph.wellFormed.uninvoked_eq_card⟩
  · rintro build ⟨found, schedule, -, hdone, rfl⟩
    exact (Pool.holds_of_isDone hdone).uninvoked_le_symbols

/-- Two modules, one of them also a symbol, and two declared functions, one of them unused. -/
def breakdown : Graph :=
  (((((((((Graph.empty.refer "app" .module).2.refer "util" .module).2.refer "used" .symbol).2.refer
    "dead" .symbol).2.refer "util" .symbol).2.relate 0 2 .declaration).relate
      0 3 .declaration).relate 1 2 .invocation).relate 0 1 .requirement)

theorem statistics_balance_breakdown :
    (breakdown.Reachable ∧
      breakdown.stats.modules + breakdown.stats.symbols = 4 + 1 ∧
      (breakdown.stats.byRelation.map Prod.snd).sum = 4 ∧
      breakdown.stats.uninvoked = 1) ∧
    ∃ build, run workshop "/p" .standard = .ok build ∧
      Possible workshop "/p" .standard build ∧
      build.graph.stats.uninvoked ≤ build.graph.stats.symbols := by
  obtain ⟨hbalance, hbuild⟩ := statistics_balance
  have hreachable : breakdown.Reachable :=
    .relate (.relate (.relate (.relate (((((Graph.Reachable.empty.refer _ _).refer _ _).refer
      _ _).refer _ _).refer _ _)
      .declaration (by decide +kernel) (by decide +kernel))
      .declaration (by decide +kernel) (by decide +kernel))
      .invocation (by decide +kernel) (by decide +kernel))
      .requirement (by decide +kernel) (by decide +kernel)
  obtain ⟨hroles, -, hedges, huninvoked⟩ := hbalance breakdown hreachable
  obtain ⟨build, hrun, -⟩ := exists_run_workshop
  have hpossible := (hbuild workshop "/p" .standard).1 build hrun
  refine ⟨⟨hreachable, ?_, ?_, ?_⟩, build, hrun, hpossible,
    (hbuild workshop "/p" .standard).2 build hpossible⟩
  · rw [hroles]
    decide +kernel
  · rw [hedges]
    decide +kernel
  · rw [huninvoked]
    decide +kernel

end Build

end ScriptGraph
