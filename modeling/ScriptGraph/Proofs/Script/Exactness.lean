import Mathlib.Algebra.GroupWithZero.Nat
import ScriptGraph.Proofs.Script.Outcome

/-!
# The edges of a completed scan, counted

A scan that passes every node adds, for each relation and each name, exactly as
many edges as the script has nodes that tell this relation to this name. The
edges are counted in the graph; the nodes are counted in the tree.
-/

namespace ScriptGraph

theorem Reference.count_map_mk (relation other : Relation) (names : List String) (name : String) :
    (names.map (Reference.mk relation)).count ⟨other, name⟩ =
      if relation = other then names.count name else 0 := by
  induction names with
  | nil => simp
  | cons first names ih =>
      rw [List.map_cons, List.count_cons, ih, List.count_cons]
      by_cases h : relation = other
      · simp [h]
      · simp [h]

theorem Reference.filter_map_mk (keep : Relation → Bool) (relation : Relation)
    (names : List String) :
    ((names.map (Reference.mk relation)).filter fun reference => keep reference.relation) =
      if keep relation = true then names.map (.mk relation) else [] := by
  rw [List.filter_map]
  cases hkeep : keep relation <;> simp [Function.comp_def, hkeep]

theorem count_flatMap_toList {α : Type} (tell? : α → Option String) (items : List α)
    (name : String) :
    (items.flatMap fun item => (tell? item).toList).count name =
      items.countP fun item => tell? item = some name := by
  rw [← List.filterMap_eq_flatMap_toList, List.count_filterMap]
  simp only [beq_eq_decide]

namespace Node

/-- The names that a node tells under a relation. -/
def told (options : ScanOptions) (node : Node) : Relation → List String
  | .declaration => node.func?.toList.flatMap fun func => func.declared?.toList
  | .invocation => node.invoked?.toList
  | .extension => (node.extended? options.sentinel).toList
  | .requirement => (node.requiredPaths options.loaders).map Path.moduleName

/-- The references of a node, relation by relation in the order of its notes. -/
theorem references_eq (options : ScanOptions) (node : Node) :
    node.references options =
      [Relation.declaration, .extension, .invocation, .requirement].flatMap
        fun relation => (node.told options relation).map (.mk relation) := by
  have hown : node.func?.toList.flatMap Func.ownReferences =
      (node.told options .declaration).map (.mk .declaration) := by
    simp only [told, List.map_flatMap]
    rfl
  have hrequired : ((node.requiredPaths options.loaders).map
      fun path => Reference.mk .requirement (Path.moduleName path)) =
        (node.told options .requirement).map (.mk .requirement) := by
    simp only [told, List.map_map, Function.comp_def]
  simp only [references, hown, hrequired, List.flatMap_cons, List.flatMap_nil, List.append_nil,
    List.append_assoc]
  rfl

theorem filter_references (keep : Relation → Bool) (options : ScanOptions) (node : Node) :
    ((node.references options).filter fun reference => keep reference.relation) =
      [Relation.declaration, .extension, .invocation, .requirement].flatMap fun relation =>
        if keep relation = true then (node.told options relation).map (.mk relation) else [] := by
  simp only [references_eq, List.filter_flatMap, Reference.filter_map_mk]

theorem count_references (options : ScanOptions) (node : Node) (relation : Relation)
    (name : String) :
    (node.references options).count ⟨relation, name⟩ =
      (node.told options relation).count name := by
  rw [references_eq]
  simp only [List.flatMap_cons, List.flatMap_nil, List.append_nil, List.count_append,
    Reference.count_map_mk]
  cases relation <;> simp

end Node

namespace Func

/-- The references of a script whose scan passes every node. -/
theorem toList_references_of_ok {options : ScanOptions} {func : Func}
    (h : (func.references options).result = .ok ()) :
    (func.references options).references.toList =
      func.ownReferences ++ func.nodes.flatMap (Node.references options) := by
  rw [func.result_references] at h
  rw [func.toList_references, Visit.noted_of_passes (Visit.outcome_eq_ok_iff.mp h), nodes,
    List.flatMap_map]

theorem count_references_of_ok {options : ScanOptions} {func : Func}
    (h : (func.references options).result = .ok ()) (relation : Relation) (name : String) :
    (func.references options).references.toList.count ⟨relation, name⟩ =
      func.ownReferences.count ⟨relation, name⟩ +
        (func.nodes.flatMap fun node => node.told options relation).count name := by
  rw [toList_references_of_ok h, List.count_append, List.count_flatMap, List.count_flatMap]
  simp only [Function.comp_def, Node.count_references]

theorem declared?_eq_some_iff {func : Func} {name : String} :
    func.declared? = some name ↔
      func.name? = some name ∧ name ≠ "runScript" ∧ ':' ∉ name.toList := by
  simp only [declared?, Option.filter_eq_some_iff, decide_eq_true_eq]
  rfl

/-- The declared names of a script: its own and those that its nodes tell. -/
theorem filterMap_declared?_functions (options : ScanOptions) (func : Func) :
    func.functions.filterMap declared? =
      func.declared?.toList ++
        func.nodes.flatMap fun node => node.told options .declaration := by
  rw [functions, List.filterMap_eq_flatMap_toList, List.flatMap_cons,
    List.filterMap_eq_flatMap_toList, List.flatMap_assoc]
  rfl

theorem countP_declared? (funcs : List Func) (name : String) :
    (funcs.countP fun func => func.declared? = some name) =
      if name ≠ "runScript" ∧ ':' ∉ name.toList then
        funcs.countP fun func => func.name? = some name
      else 0 := by
  split
  · rename_i h
    simp only [declared?_eq_some_iff, h, and_true, not_false_eq_true, ne_eq]
  · rename_i h
    simp only [declared?_eq_some_iff, h, and_false, decide_false,
      List.countP_false, Function.const_apply]

end Func

namespace Graph

/-- How many of some edges have a relation and lead to a name. -/
def countTo (graph : Graph) (edges : List Edge) (relation : Relation) (name : String) : Nat :=
  edges.countP fun edge => edge.relation = relation ∧ graph.nameAt? edge.target = some name

/-- A scan adds the edges of the script's references, all from the script's module. -/
theorem WellFormed.exists_added_scan {graph : Graph} (hgraph : graph.WellFormed)
    (path : String) (options : ScanOptions) (func : Func) :
    ∃ added : List Edge,
      (graph.scan path options func).2.edges.toList = graph.edges.toList ++ added ∧
      (∀ edge ∈ added,
        (graph.scan path options func).2.nameAt? edge.source = some (Path.moduleName path)) ∧
      ∀ relation name,
        (graph.scan path options func).2.countTo added relation name =
          (func.references options).references.toList.count ⟨relation, name⟩ := by
  obtain ⟨added, hadded⟩ := (growth_scan graph path options func).edges_kept
  have hscan := hgraph.scan path options func
  have hnamed := hgraph.namedEdges_scan path options func
  generalize (graph.scan path options func).2 = after at *
  rw [namedEdges, ← hadded, List.map_append] at hnamed
  replace hnamed := (List.append_inj hnamed (by simp [namedEdges])).2
  have hlt : ∀ edge ∈ added,
      edge.source < after.vertices.size ∧ edge.target < after.vertices.size := by
    intro edge hedge
    exact hscan.ends_lt edge (by simp [← Array.mem_toList_iff, ← hadded, hedge])
  refine ⟨added, hadded.symm, ?_, ?_⟩
  · intro edge hedge
    have hmem := List.mem_map_of_mem (f := after.nameEdge) hedge
    rw [hnamed] at hmem
    obtain ⟨reference, -, hreference⟩ := List.mem_map.mp hmem
    rw [WellFormed.nameAt?_nameOf (hlt edge hedge).1]
    exact congrArg (fun edge => some edge.source) hreference.symm
  · intro relation name
    calc after.countTo added relation name
      _ = (added.map after.nameEdge).countP
            fun edge => edge.relation = relation ∧ edge.target = name := by
          rw [List.countP_map, countTo]
          apply List.countP_congr
          intro edge hedge
          rw [Function.comp_apply, decide_eq_true_iff, decide_eq_true_iff,
            WellFormed.nameAt?_nameOf (hlt edge hedge).2, Option.some.injEq]
          rfl
      _ = (func.references options).references.toList.count ⟨relation, name⟩ := by
          rw [hnamed, List.countP_map, List.count]
          apply List.countP_congr
          rintro ⟨_, _⟩ _
          rw [Function.comp_apply, decide_eq_true_iff, beq_iff_eq, Reference.mk.injEq]
          rfl

/-- A scan that ends well leaves the edges it found, and each edge it adds leaves the vertex of
the scanned module. To every name lead as many added edges as the tree has functions declared
under it, calls and extensions that name it, and paths in calls of loaders that lead to it. -/
theorem scan_adds_exactly {graph : Graph} (hgraph : graph.Reachable) (path : String)
    (options : ScanOptions) (func : Func)
    (hok : (graph.scan path options func).1.result = .ok ()) :
    ∃ added : List Edge,
      (graph.scan path options func).2.edges.toList = graph.edges.toList ++ added ∧
      (∀ id name, graph.nameAt? id = some name →
        (graph.scan path options func).2.nameAt? id = some name) ∧
      (∀ edge ∈ added,
        (graph.scan path options func).2.nameAt? edge.source = some (Path.moduleName path)) ∧
      ∀ name,
        (graph.scan path options func).2.countTo added .declaration name =
          (if name ≠ "runScript" ∧ ':' ∉ name.toList then
            func.functions.countP fun func => func.name? = some name
          else 0) ∧
        (graph.scan path options func).2.countTo added .invocation name =
          (func.nodes.countP fun node => node.invoked? = some name) ∧
        (graph.scan path options func).2.countTo added .extension name =
          (func.nodes.countP fun node => node.extended? options.sentinel = some name) ∧
        (graph.scan path options func).2.countTo added .requirement name =
          (func.nodes.map fun node =>
            (node.requiredPaths options.loaders).countP fun required =>
              Path.moduleName required = name).sum := by
  obtain ⟨added, hadded, hsource, hcount⟩ :=
    hgraph.wellFormed.exists_added_scan path options func
  refine ⟨added, hadded, fun _ _ => (growth_scan graph path options func).nameAt?, hsource, ?_⟩
  intro name
  simp only [hcount, Func.count_references_of_ok hok]
  refine ⟨?_, ?_, ?_, ?_⟩
  · rw [← Func.countP_declared?, ← count_flatMap_toList, ← List.filterMap_eq_flatMap_toList,
      func.filterMap_declared?_functions options, List.count_append]
    rw [Func.ownReferences, Reference.count_map_mk, if_pos rfl]
  · rw [Func.ownReferences, Reference.count_map_mk, if_neg (by decide), Nat.zero_add]
    exact count_flatMap_toList Node.invoked? func.nodes name
  · rw [Func.ownReferences, Reference.count_map_mk, if_neg (by decide), Nat.zero_add]
    exact count_flatMap_toList (Node.extended? options.sentinel) func.nodes name
  · rw [Func.ownReferences, Reference.count_map_mk, if_neg (by decide), Nat.zero_add,
      List.count_flatMap]
    simp only [Function.comp_def, Node.told, List.count, List.countP_map, beq_eq_decide]

/-- A script with an extension, a call of a loader with two paths to one module, and a function
that calls itself behind parentheses. -/
def busy : Func :=
  .wrapper [
    .var "self" (some (.paren (.unary "new" (.call (.ident "Base") [])))),
    .eval (.call (.ident "require") [
      .array [.string "./lib/a.js", .paren (.string "b/a.js"), .ident "c"],
      .function (.mk (some "ready") [] [.eval (.call (.paren (.ident "ready")) [])])])]

theorem scan_busy_adds_exactly :
    empty.Reachable ∧
    (empty.scan "main.js" .standard busy).1.result = .ok () ∧
    (busy.functions.countP fun func => func.name? = some "ready") = 1 ∧
    (busy.nodes.countP fun node => node.invoked? = some "ready") = 1 ∧
    (busy.nodes.countP fun node =>
      node.extended? ScanOptions.standard.sentinel = some "Base") = 1 ∧
    (busy.nodes.map fun node => (node.requiredPaths ScanOptions.standard.loaders).countP
      fun required => Path.moduleName required = "a").sum = 2 := by
  have hok : (empty.scan "main.js" .standard busy).1.result = .ok () := by decide +kernel
  obtain ⟨added, hadded, -, -, hcount⟩ := scan_adds_exactly .empty "main.js" .standard busy hok
  obtain rfl : (empty.scan "main.js" .standard busy).2.edges.toList = added := hadded
  obtain ⟨hdeclared, hinvoked, -, -⟩ := hcount "ready"
  rw [if_pos (by decide)] at hdeclared
  refine ⟨.empty, hok, ?_, ?_, ?_, ?_⟩
  · rw [← hdeclared]
    decide +kernel
  · rw [← hinvoked]
    decide +kernel
  · rw [← (hcount "Base").2.2.1]
    decide +kernel
  · rw [← (hcount "a").2.2.2]
    decide +kernel

end Graph

end ScriptGraph
