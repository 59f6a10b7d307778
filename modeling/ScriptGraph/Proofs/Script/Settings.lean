import ScriptGraph.Proofs.Script.Exactness

/-!
# What each setting of a scan decides

The settings of a scan do not get in each other's way. Where a walk goes and how
it ends is up to the depth bound alone; the sentinel decides about extensions
and nothing else, the loaders about requirements and nothing else, and of the
loaders only which names are among them.

Two scans are compared relation by relation: what is kept of the references of
one node is the same under both settings, and so is what is kept of a walk.
-/

namespace ScriptGraph

/-- Two settings under which scans cannot be told apart by their edges of the kept relations. -/
structure ScanOptions.AgreeOn (keep : Relation → Bool) (options others : ScanOptions) : Prop where
  maxDepth : options.maxDepth = others.maxDepth
  sentinel : keep .extension = true → options.sentinel = others.sentinel
  loaders : keep .requirement = true → ∀ name, name ∈ options.loaders ↔ name ∈ others.loaders

variable {keep : Relation → Bool} {options others : ScanOptions}

namespace Node

theorem requiredPaths_congr {loaders otherLoaders : List String}
    (h : ∀ name, name ∈ loaders ↔ name ∈ otherLoaders) (node : Node) :
    node.requiredPaths loaders = node.requiredPaths otherLoaders := by
  unfold requiredPaths
  simp only [h]

/-- A setting shows in what a node tells only under its own relation. -/
theorem told_eq_of_agreeOn (h : options.AgreeOn keep others) (node : Node) {relation : Relation}
    (hkeep : keep relation = true) : node.told options relation = node.told others relation := by
  cases relation with
  | declaration => rfl
  | invocation => rfl
  | extension => rw [told, told, h.sentinel hkeep]
  | requirement => rw [told, told, requiredPaths_congr (h.loaders hkeep)]

theorem filter_references_eq (h : options.AgreeOn keep others) (node : Node) :
    ((node.references options).filter fun reference => keep reference.relation) =
      (node.references others).filter fun reference => keep reference.relation := by
  rw [filter_references, filter_references]
  congr 1
  funext relation
  split
  · rename_i hkeep
    rw [node.told_eq_of_agreeOn h hkeep]
  · rfl

end Node

namespace Visit

theorem stop?_eq_of_maxDepth (h : options.maxDepth = others.maxDepth) :
    stop? options = stop? others := by
  funext visit
  simp only [stop?, h]

theorem outcome_eq_of_maxDepth (h : options.maxDepth = others.maxDepth)
    (visits : List (Nat × Node)) : outcome options visits = outcome others visits := by
  simp only [outcome, stop?_eq_of_maxDepth h]

theorem filter_noted_eq (h : options.AgreeOn keep others) (visits : List (Nat × Node)) :
    ((noted options visits).filter fun reference => keep reference.relation) =
      (noted others visits).filter fun reference => keep reference.relation := by
  simp only [noted, stop?_eq_of_maxDepth h.maxDepth, List.filter_flatMap,
    Node.filter_references_eq h]

end Visit

theorem Func.filter_references_eq (h : options.AgreeOn keep others) (func : Func) :
    ((func.references options).references.toList.filter
        fun reference => keep reference.relation) =
      (func.references others).references.toList.filter
        fun reference => keep reference.relation := by
  rw [func.toList_references, func.toList_references, List.filter_append, List.filter_append,
    Visit.filter_noted_eq h]

namespace Graph

/-- Two scans of one script into one graph, within the same bound, end alike and add the same
sequence of declarations and invocations. With equal sentinels they add the same sequence of
extensions, whatever the loaders; with the same names among the loaders, in any order and any
number, the same sequence of requirements, whatever the sentinels. -/
theorem scan_settings_independent {graph : Graph} (hgraph : graph.Reachable) (path : String)
    (func : Func) (options others : ScanOptions) (hdepth : options.maxDepth = others.maxDepth) :
    (graph.scan path options func).1.result = (graph.scan path others func).1.result ∧
    ∃ added otherAdded : List NamedEdge,
      (graph.scan path options func).2.namedEdges = graph.namedEdges ++ added ∧
      (graph.scan path others func).2.namedEdges = graph.namedEdges ++ otherAdded ∧
      (added.filter fun edge => edge.relation = .declaration ∨ edge.relation = .invocation) =
        (otherAdded.filter fun edge =>
          edge.relation = .declaration ∨ edge.relation = .invocation) ∧
      (options.sentinel = others.sentinel →
        (added.filter fun edge => edge.relation = .extension) =
          otherAdded.filter fun edge => edge.relation = .extension) ∧
      ((∀ name, name ∈ options.loaders ↔ name ∈ others.loaders) →
        (added.filter fun edge => edge.relation = .requirement) =
          otherAdded.filter fun edge => edge.relation = .requirement) := by
  have hadded : ∀ keep : Relation → Bool, options.AgreeOn keep others →
      (((func.references options).references.toList.map
          (Reference.edgeFrom (Path.moduleName path))).filter fun edge => keep edge.relation) =
        ((func.references others).references.toList.map
          (Reference.edgeFrom (Path.moduleName path))).filter fun edge => keep edge.relation := by
    intro keep hagree
    rw [List.filter_map, List.filter_map]
    exact congrArg _ (func.filter_references_eq hagree)
  refine ⟨?_, _, _, hgraph.wellFormed.namedEdges_scan path options func,
    hgraph.wellFormed.namedEdges_scan path others func, ?_, ?_, ?_⟩
  · rw [result_scan, result_scan, Visit.outcome_eq_of_maxDepth hdepth]
  · exact hadded (fun relation => relation = .declaration ∨ relation = .invocation)
      ⟨hdepth, by simp, by simp⟩
  · intro hsentinel
    exact hadded (fun relation => relation = .extension)
      ⟨hdepth, fun _ => hsentinel, by simp⟩
  · intro hloaders
    exact hadded (fun relation => relation = .requirement)
      ⟨hdepth, by simp, fun _ => hloaders⟩

theorem scan_busy_settings_independent :
    empty.Reachable ∧
    (∀ name, name ∈ ["require", "define"] ↔ name ∈ ["define", "require", "define"]) ∧
    (empty.scan "main.js" .standard busy).1.result =
      (empty.scan "main.js" ⟨"that", ["define", "require", "define"], 1024⟩ busy).1.result ∧
    ∃ added otherAdded : List NamedEdge,
      (empty.scan "main.js" .standard busy).2.namedEdges = added ∧
      (empty.scan "main.js" ⟨"that", ["define", "require", "define"], 1024⟩ busy).2.namedEdges =
        otherAdded ∧
      added ≠ otherAdded ∧
      (added.filter fun edge => edge.relation = .requirement) =
        otherAdded.filter fun edge => edge.relation = .requirement := by
  have hloaders : ∀ name : String,
      name ∈ ["require", "define"] ↔ name ∈ ["define", "require", "define"] := by
    intro name
    simp only [List.mem_cons, List.not_mem_nil, or_false]
    tauto
  obtain ⟨hresult, added, otherAdded, hadded, hother, -, -, hrequired⟩ :=
    scan_settings_independent .empty "main.js" busy .standard
      ⟨"that", ["define", "require", "define"], 1024⟩ rfl
  refine ⟨.empty, hloaders, hresult, added, otherAdded, hadded, hother, ?_, hrequired hloaders⟩
  rintro rfl
  exact absurd (hadded.trans hother.symm) (by decide +kernel)

end Graph

end ScriptGraph
