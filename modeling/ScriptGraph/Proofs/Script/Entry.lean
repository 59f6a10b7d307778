import ScriptGraph.Proofs.Graph.Names
import ScriptGraph.Script.Scan

/-!
# Entering the references of a module

What a scan leaves in a graph: the vertex of the module, one edge for each
reference, in order, and the vertices these edges end at. All that was in the
graph before stays where it was.
-/

namespace ScriptGraph

/-- The edge that a reference of a module becomes. -/
def Reference.edgeFrom (module : String) (reference : Reference) : NamedEdge :=
  ⟨module, reference.target, reference.relation⟩

namespace Graph

def enterAll (graph : Graph) (source : Nat) (references : List Reference) : Graph :=
  references.foldl (fun graph reference => graph.enter source reference) graph

theorem enterModule_eq (graph : Graph) (path : String) (references : Array Reference) :
    graph.enterModule path references =
      (graph.refer (Path.moduleName path) .module).2.enterAll
        (graph.refer (Path.moduleName path) .module).1 references.toList := by
  simp [enterModule, enterAll]

theorem enterAll_append (graph : Graph) (source : Nat) (references more : List Reference) :
    graph.enterAll source (references ++ more) =
      (graph.enterAll source references).enterAll source more := by
  simp [enterAll]

/-! ## What was there stays -/

theorem growth_enter (graph : Graph) (source : Nat) (reference : Reference) :
    Growth graph (graph.enter source reference) :=
  (growth_refer graph reference.target reference.relation.targetRole).trans
    (growth_relate _ source _ reference.relation)

theorem growth_enterAll (graph : Graph) (source : Nat) (references : List Reference) :
    Growth graph (graph.enterAll source references) := by
  induction references generalizing graph with
  | nil => exact .refl graph
  | cons reference references ih => exact (growth_enter graph source reference).trans (ih _)

theorem growth_scan (graph : Graph) (path : String) (options : ScanOptions) (func : Func) :
    Growth graph (graph.scan path options func).2 := by
  change Growth graph (graph.enterModule path _)
  rw [enterModule_eq]
  exact (growth_refer graph _ .module).trans (growth_enterAll _ _ _)

/-! ## What is added -/

namespace WellFormed

variable {graph : Graph} {source : Nat} {module : String}

theorem enter (hgraph : graph.WellFormed) (hsource : graph.nameAt? source = some module)
    (reference : Reference) : (graph.enter source reference).WellFormed := by
  have hkept := (growth_refer graph reference.target reference.relation.targetRole).nameAt? hsource
  exact (hgraph.refer _ _).relate _ (lt_size_of_nameAt? hkept) (hgraph.lt_size_refer _ _)

theorem namedEdges_enter (hgraph : graph.WellFormed)
    (hsource : graph.nameAt? source = some module) (reference : Reference) :
    (graph.enter source reference).namedEdges =
      graph.namedEdges ++ [reference.edgeFrom module] := by
  have hkept := (growth_refer graph reference.target reference.relation.targetRole).nameAt? hsource
  have htarget := hgraph.nameAt?_refer_self reference.target reference.relation.targetRole
  simp only [Graph.enter, namedEdges_relate, hgraph.namedEdges_refer, nameOf_of_nameAt? hkept,
    nameOf_of_nameAt? htarget, Reference.edgeFrom]

theorem marked_enter (hgraph : graph.WellFormed) (reference : Reference) (name : String)
    (role : Role) :
    (graph.enter source reference).Marked name role ↔
      (name = reference.target ∧ role = reference.relation.targetRole) ∨
        graph.Marked name role :=
  hgraph.marked_refer reference.target reference.relation.targetRole name role

/-- The references of a module become edges in their order, and nothing else does. -/
theorem enterAll (hgraph : graph.WellFormed) (hsource : graph.nameAt? source = some module)
    (references : List Reference) :
    (graph.enterAll source references).WellFormed ∧
      (graph.enterAll source references).namedEdges =
        graph.namedEdges ++ references.map (Reference.edgeFrom module) ∧
      ∀ name role, (graph.enterAll source references).Marked name role ↔
        (∃ reference ∈ references,
          name = reference.target ∧ role = reference.relation.targetRole) ∨
            graph.Marked name role := by
  induction references generalizing graph with
  | nil => exact ⟨hgraph, by simp [Graph.enterAll], by simp [Graph.enterAll]⟩
  | cons reference references ih =>
      have hkept := (growth_enter graph source reference).nameAt? hsource
      obtain ⟨hwell, hedges, hmarked⟩ := ih (hgraph.enter hsource reference) hkept
      refine ⟨hwell, ?_, ?_⟩
      · change ((graph.enter source reference).enterAll source references).namedEdges = _
        rw [hedges, hgraph.namedEdges_enter hsource]
        simp
      · intro name role
        refine (hmarked name role).trans ?_
        rw [hgraph.marked_enter]
        simp only [List.mem_cons, exists_eq_or_imp]
        exact or_left_comm.trans or_assoc.symm

theorem scan (hgraph : graph.WellFormed) (path : String) (options : ScanOptions)
    (func : Func) : (graph.scan path options func).2.WellFormed := by
  change (graph.enterModule path _).WellFormed
  rw [enterModule_eq]
  exact ((hgraph.refer _ .module).enterAll (hgraph.nameAt?_refer_self _ _) _).1

theorem namedEdges_scan (hgraph : graph.WellFormed) (path : String) (options : ScanOptions)
    (func : Func) :
    (graph.scan path options func).2.namedEdges =
      graph.namedEdges ++ (func.references options).references.toList.map
        (Reference.edgeFrom (Path.moduleName path)) := by
  change (graph.enterModule path _).namedEdges = _
  rw [enterModule_eq, ((hgraph.refer _ .module).enterAll (hgraph.nameAt?_refer_self _ _) _).2.1,
    hgraph.namedEdges_refer]

theorem marked_scan (hgraph : graph.WellFormed) (path : String) (options : ScanOptions)
    (func : Func) (name : String) (role : Role) :
    (graph.scan path options func).2.Marked name role ↔
      (∃ reference ∈ (func.references options).references.toList,
        name = reference.target ∧ role = reference.relation.targetRole) ∨
          (name = Path.moduleName path ∧ role = .module) ∨ graph.Marked name role := by
  change (graph.enterModule path _).Marked name role ↔ _
  rw [enterModule_eq, ((hgraph.refer _ .module).enterAll (hgraph.nameAt?_refer_self _ _) _).2.2,
    hgraph.marked_refer]

end WellFormed

/-! ## Reachable graphs -/

/-- A graph that references, edges between its vertices and scans lead to. -/
inductive Reachable : Graph → Prop where
  | empty : Reachable empty
  | refer {graph : Graph} (h : Reachable graph) (name : String) (role : Role) :
      Reachable (graph.refer name role).2
  | relate {graph : Graph} (h : Reachable graph) {source target : Nat} (relation : Relation)
      (hsource : source < graph.vertices.size) (htarget : target < graph.vertices.size) :
      Reachable (graph.relate source target relation)
  | scan {graph : Graph} (h : Reachable graph) (path : String) (options : ScanOptions)
      (func : Func) : Reachable (graph.scan path options func).2

theorem Reachable.wellFormed {graph : Graph} (h : Reachable graph) : graph.WellFormed := by
  induction h with
  | empty => exact .empty
  | refer _ name role ih => exact ih.refer name role
  | relate _ relation hsource htarget ih => exact ih.relate relation hsource htarget
  | scan _ path options func ih => exact ih.scan path options func

end Graph

end ScriptGraph
