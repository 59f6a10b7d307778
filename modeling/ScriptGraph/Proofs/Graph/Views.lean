import ScriptGraph.Proofs.Export.Visible
import ScriptGraph.Proofs.Script.Entry

/-!
# What the view of a vertex tells

A view counts runs of equal edges in a list that was sorted and then sifted. On
sorted lists a run holds every occurrence, so each neighbour is told once and
with its full number. Names are unique, so what is told by name is told of one
vertex.
-/

namespace ScriptGraph

namespace Neighbour

def edge (neighbour : Neighbour) : Relation × String := (neighbour.relation, neighbour.name)

/-- Order of relation first, of name second, without ties. -/
def Before (a b : Neighbour) : Prop :=
  a.relation.rank < b.relation.rank ∨ a.relation = b.relation ∧ a.name < b.name

theorem ext_edge {a b : Neighbour} (hedge : a.edge = b.edge) (hcount : a.count = b.count) :
    a = b := by
  obtain ⟨hrelation, hname⟩ := Prod.mk.inj hedge
  cases a
  cases b
  simp_all

theorem before_iff {a b : Neighbour} :
    Before a b ↔ Graph.neighbourLe a.edge b.edge = true ∧ a.edge ≠ b.edge := by
  rw [neighbourLe_iff]
  simp only [edge, Before, ne_eq, Prod.mk.injEq]
  constructor
  · rintro (hrank | ⟨hrelation, hname⟩)
    · refine ⟨.inl hrank, fun heq => ?_⟩
      rw [heq.1] at hrank
      exact Nat.lt_irrefl _ hrank
    · exact ⟨.inr ⟨by rw [hrelation], Std.le_of_lt hname⟩,
        fun heq => String.lt_irrefl _ (heq.2 ▸ hname)⟩
  · rintro ⟨hrank | ⟨hrank, hname⟩, hne⟩
    · exact .inl hrank
    · have hrelation := Relation.rank_injective hrank
      refine .inr ⟨hrelation, ?_⟩
      exact Std.lt_of_le_of_ne hname fun heq => hne ⟨hrelation, heq⟩

/-! ## Counting runs -/

/-- The counted neighbours are in order and tell how often each edge occurs. -/
structure Tallies (edges : List (Relation × String)) (counted : List Neighbour) : Prop where
  ascending : counted.Pairwise Before
  mem_iff : ∀ neighbour, neighbour ∈ counted ↔
    1 ≤ neighbour.count ∧ edges.count neighbour.edge = neighbour.count

namespace Tallies

variable {edges : List (Relation × String)} {counted : List Neighbour}

theorem nil : Tallies [] [] where
  ascending := .nil
  mem_iff neighbour := by
    simp only [List.not_mem_nil, List.count_nil, false_iff]
    omega

theorem edge_mem (h : Tallies edges counted) {neighbour : Neighbour}
    (hmem : neighbour ∈ counted) : neighbour.edge ∈ edges := by
  obtain ⟨hpos, hcount⟩ := (h.mem_iff neighbour).mp hmem
  exact List.count_pos_iff.mp (by omega)

theorem exists_mem (h : Tallies edges counted) {edge : Relation × String} (hedge : edge ∈ edges) :
    ∃ neighbour ∈ counted, neighbour.edge = edge := by
  refine ⟨⟨edge.1, edge.2, edges.count edge⟩, (h.mem_iff _).mpr ⟨?_, rfl⟩, rfl⟩
  exact List.count_pos_iff.mpr hedge

/-- A first edge that does not occur again starts a run of its own. -/
theorem cons_new (h : Tallies edges counted) {first : Relation × String}
    (hfirst : ∀ edge ∈ edges, Graph.neighbourLe first edge = true) (hnew : first ∉ edges) :
    Tallies (first :: edges) (⟨first.1, first.2, 1⟩ :: counted) where
  ascending := by
    refine List.pairwise_cons.mpr ⟨fun neighbour hmem => before_iff.mpr ?_, h.ascending⟩
    have hedge := h.edge_mem hmem
    refine ⟨hfirst _ hedge, fun heq => hnew ?_⟩
    rwa [← heq] at hedge
  mem_iff neighbour := by
    rw [List.mem_cons, h.mem_iff, List.count_cons]
    by_cases hedge : neighbour.edge = first
    · have hzero : edges.count neighbour.edge = 0 := List.count_eq_zero.mpr (hedge ▸ hnew)
      have hself : neighbour = ⟨first.1, first.2, 1⟩ ↔ neighbour.count = 1 := by
        refine ⟨fun heq => by rw [heq], fun hcount => ext_edge hedge hcount⟩
      rw [hself, hzero, if_pos (by simp [hedge])]
      omega
    · have hother : neighbour ≠ ⟨first.1, first.2, 1⟩ := fun heq => hedge (by rw [heq]; rfl)
      rw [if_neg (by simpa using Ne.symm hedge)]
      simp [hother]

/-- An edge equal to the first one lengthens its run. -/
theorem cons_again {next : Neighbour} (h : Tallies edges (next :: counted)) :
    Tallies (next.edge :: edges) ({ next with count := next.count + 1 } :: counted) where
  ascending := by
    obtain ⟨hnext, hrest⟩ := List.pairwise_cons.mp h.ascending
    exact List.pairwise_cons.mpr ⟨hnext, hrest⟩
  mem_iff neighbour := by
    have hmem := h.mem_iff neighbour
    rw [List.mem_cons] at hmem ⊢
    rw [List.count_cons]
    by_cases hedge : neighbour.edge = next.edge
    · -- No other neighbour was counted for the edge of the first one.
      have hrest : neighbour ∉ counted := by
        intro hin
        exact (before_iff.mp ((List.pairwise_cons.mp h.ascending).1 neighbour hin)).2 hedge.symm
      have hcount : edges.count next.edge = next.count :=
        ((h.mem_iff next).mp List.mem_cons_self).2
      have hself : neighbour = { next with count := next.count + 1 } ↔
          neighbour.count = next.count + 1 :=
        ⟨fun heq => by rw [heq], fun heq => ext_edge hedge heq⟩
      rw [hself, hedge, hcount, if_pos (by simp)]
      simp only [hrest, or_false]
      omega
    · have hne : neighbour ≠ next := fun heq => hedge (by rw [heq])
      have hne' : neighbour ≠ { next with count := next.count + 1 } :=
        fun heq => hedge (by rw [heq]; rfl)
      rw [if_neg (by simpa using Ne.symm hedge)]
      simpa only [hne, hne', false_or, Nat.add_zero] using hmem

/-- Counting one more edge in front, no later in the order than those counted before. -/
theorem cons (h : Tallies edges counted) {first : Relation × String}
    (hfirst : ∀ edge ∈ edges, Graph.neighbourLe first edge = true) :
    Tallies (first :: edges) (Neighbour.cons first counted) := by
  cases counted with
  | nil =>
      refine h.cons_new hfirst fun hmem => ?_
      obtain ⟨_, hnone, -⟩ := h.exists_mem hmem
      cases hnone
  | cons next rest =>
      by_cases hnext : next.edge = first
      · have hsame : next.relation = first.1 ∧ next.name = first.2 := by
          rw [← hnext]
          exact ⟨rfl, rfl⟩
        rw [Neighbour.cons, if_pos hsame, ← hnext]
        exact h.cons_again
      · have hother : ¬(next.relation = first.1 ∧ next.name = first.2) :=
          fun heq => hnext (Prod.ext heq.1 heq.2)
        rw [Neighbour.cons, if_neg hother]
        refine h.cons_new hfirst fun hmem => ?_
        -- The first run would be before that of the edge, and yet not before the edge.
        obtain ⟨again, hagain, rfl⟩ := h.exists_mem hmem
        rcases List.mem_cons.mp hagain with rfl | hagain
        · exact hnext rfl
        · have hbefore := before_iff.mp ((List.pairwise_cons.mp h.ascending).1 again hagain)
          have hle := hfirst next.edge (h.edge_mem List.mem_cons_self)
          exact hbefore.2 (neighbourLe_antisymm hbefore.1 hle)

/-- Runs of a sorted list are counted in full. -/
theorem countRuns (hsorted : edges.Pairwise fun a b => Graph.neighbourLe a b = true) :
    Tallies edges (Neighbour.countRuns edges) := by
  induction edges with
  | nil => exact nil
  | cons first edges ih =>
      obtain ⟨hfirst, hrest⟩ := List.pairwise_cons.mp hsorted
      exact (ih hrest).cons hfirst

end Tallies

end Neighbour

namespace NamedEdge

end NamedEdge

namespace Graph

variable {graph : Graph}

namespace WellFormed

/-- A name at the end of an edge is the name of a vertex. -/
theorem exists_ends_of_mem (hgraph : graph.WellFormed) {edge : NamedEdge}
    (h : edge ∈ graph.namedEdges) :
    ∃ source target, graph.nameAt? source = some edge.source ∧
      graph.nameAt? target = some edge.target := by
  obtain ⟨numbered, hmem, rfl⟩ := List.mem_map.mp h
  obtain ⟨hsource, htarget⟩ := hgraph.ends_lt numbered (by simpa using hmem)
  exact ⟨_, _, nameAt?_nameOf hsource, nameAt?_nameOf htarget⟩

end WellFormed

/-! ## Views -/

namespace WellFormed

variable {entries : List (String × Nat)} {isMatch : String → Bool} {selection : List Relation}

end WellFormed

/-- A vertex of both roles with a loop, two parallel edges and an edge that comes back. -/
def looped : Graph :=
  (((((((empty.refer "b" .module).2.refer "a" .symbol).2.refer "b" .symbol).2.relate
    0 1 .invocation).relate 0 0 .invocation).relate 1 0 .requirement).relate 0 1 .invocation)

theorem reachable_looped : looped.Reachable :=
  .relate (.relate (.relate (.relate (((Reachable.empty.refer _ _).refer _ _).refer _ _)
    .invocation (by decide +kernel) (by decide +kernel))
    .invocation (by decide +kernel) (by decide +kernel))
    .requirement (by decide +kernel) (by decide +kernel))
    .invocation (by decide +kernel) (by decide +kernel)

end Graph

end ScriptGraph
