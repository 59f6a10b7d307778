import ScriptGraph.Proofs.Script.Entry
import ScriptGraph.Proofs.Script.Walk

/-!
# How scans end and what they leave behind

A scan ends at the first node, in the order of the walk, that is too deep or
unsupported, and its graph holds what the nodes before that one told. A scan that
passes every node leaves what all of them told.
-/

namespace ScriptGraph

/-- A walk that ends well has met nothing unsupported. -/
theorem Func.supported_of_ok {options : ScanOptions} {func : Func}
    (hok : (func.references options).result = .ok ()) :
    ∀ node ∈ func.nodes, node.unsupportedKind? = none := by
  rw [result_references, Visit.outcome_eq_ok_iff] at hok
  intro node hnode
  obtain ⟨visit, hvisit, rfl⟩ := List.mem_map.mp hnode
  exact (hok visit hvisit).2

namespace Graph

theorem result_scan (graph : Graph) (path : String) (options : ScanOptions) (func : Func) :
    (graph.scan path options func).1.result = Visit.outcome options func.visits :=
  func.result_references options

/-- A deeper bound only adds edges behind those that were there with a smaller one. -/
theorem edges_scan_prefix_of_le (graph : Graph) (path : String) {options : ScanOptions}
    {bound : Nat} (h : options.maxDepth ≤ bound) (func : Func) :
    (graph.scan path options func).2.edges.toList <+:
      (graph.scan path { options with maxDepth := bound } func).2.edges.toList := by
  obtain ⟨more, hmore⟩ := Visit.noted_prefix_of_le h func.visits
  have hreferences :
      (func.references { options with maxDepth := bound }).references.toList =
        (func.references options).references.toList ++ more := by
    rw [func.toList_references, func.toList_references, ← hmore, List.append_assoc]
  change (graph.enterModule path _).edges.toList <+: (graph.enterModule path _).edges.toList
  rw [enterModule_eq, enterModule_eq, hreferences, enterAll_append]
  exact (growth_enterAll _ _ more).edges_kept

/-- Every scan ends well exactly if each node is within the bound and supported. Otherwise the
first node that is not decides the error, depth before kind; the edges added are those of the
nodes before it, and a deeper bound adds no edge before or between them. Nothing that was in the
graph goes away. -/
theorem scan_ends_at_first_stop {graph : Graph} (hgraph : graph.Reachable) (path : String)
    (options : ScanOptions) (func : Func) :
    ((graph.scan path options func).1.result = .ok () ↔
      ∀ visit ∈ func.visits,
        visit.1 ≤ options.maxDepth ∧ visit.2.unsupportedKind? = none) ∧
    ((graph.scan path options func).1.result ≠ .ok () →
      ∃ before level node after, func.visits = before ++ (level, node) :: after ∧
        (∀ visit ∈ before,
          visit.1 ≤ options.maxDepth ∧ visit.2.unsupportedKind? = none) ∧
        ((options.maxDepth < level ∧
            (graph.scan path options func).1.result = .error (.tooDeep options.maxDepth)) ∨
          (level ≤ options.maxDepth ∧ ∃ kind, node.unsupportedKind? = some kind ∧
            (graph.scan path options func).1.result =
              .error (.unsupported node.family kind))) ∧
        (graph.scan path options func).2.namedEdges =
          graph.namedEdges ++
            (func.ownReferences ++ before.flatMap fun visit => visit.2.references options).map
              (Reference.edgeFrom (Path.moduleName path))) ∧
    (∀ bound, options.maxDepth ≤ bound →
      (graph.scan path options func).2.edges.toList <+:
        (graph.scan path { options with maxDepth := bound } func).2.edges.toList) ∧
    Growth graph (graph.scan path options func).2 := by
  rw [result_scan]
  refine ⟨Visit.outcome_eq_ok_iff, ?_, fun _ h => edges_scan_prefix_of_le graph path h func,
    growth_scan graph path options func⟩
  intro hresult
  obtain ⟨before, ⟨level, node⟩, after, error, hvisits, hbefore, hstop, houtcome, hnoted⟩ :=
    Visit.exists_first_stop (mt Visit.outcome_eq_ok_iff.mpr hresult)
  refine ⟨before, level, node, after, hvisits, hbefore, ?_, ?_⟩
  · rw [houtcome]
    rcases Visit.stop?_eq_some hstop with ⟨hlevel, rfl⟩ | ⟨hlevel, kind, hkind, rfl⟩
    · exact .inl ⟨hlevel, rfl⟩
    · exact .inr ⟨hlevel, kind, hkind, rfl⟩
  · rw [hgraph.wellFormed.namedEdges_scan, func.toList_references, hnoted]

/-- A call, then a statement without a shape, then another call. -/
def interrupted : Func :=
  .wrapper [.eval (.call (.ident "before") []), .unsupported "class_declaration",
    .eval (.call (.ident "after") [])]

theorem scan_interrupted_ends_at_first_stop :
    empty.Reachable ∧
    (empty.scan "app/main.js" .standard interrupted).1.result =
      .error (.unsupported .statement "class_declaration") ∧
    ∃ before level node after, interrupted.visits = before ++ (level, node) :: after ∧
      (empty.scan "app/main.js" .standard interrupted).2.namedEdges =
        empty.namedEdges ++
          (interrupted.ownReferences ++
            before.flatMap fun visit => visit.2.references .standard).map
              (Reference.edgeFrom (Path.moduleName "app/main.js")) := by
  have hresult : (empty.scan "app/main.js" .standard interrupted).1.result =
      .error (.unsupported .statement "class_declaration") := rfl
  have hends := (scan_ends_at_first_stop .empty "app/main.js" .standard interrupted).2.1
  obtain ⟨before, level, node, after, hvisits, -, -, hedges⟩ := hends (by simp [hresult])
  exact ⟨.empty, hresult, before, level, node, after, hvisits, hedges⟩

end Graph

end ScriptGraph
