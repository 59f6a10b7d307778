import ScriptGraph.Proofs.Project.Roles
import ScriptGraph.Proofs.Script.Extensions

/-!
# Extended names are invoked

Every scan that does not end too deep invokes each name at least as often as it
extends it, so in the graph of a project an extension never stands alone at a
vertex. Whether a declaration goes unused can then be told from invocations
alone: the test for extensions changes no count.
-/

namespace ScriptGraph

namespace Graph

/-- Whether a vertex is declared, but not invoked, whatever extends it. -/
def isUncalled (graph : Graph) (id : Nat) : Bool :=
  let relations := (graph.incoming id).map Prod.fst
  relations.contains .declaration && !relations.contains .invocation

/-- The counts for a graph, without the test for extensions. -/
def statsByCalls (graph : Graph) : Stats :=
  { graph.stats with uninvoked := (List.range graph.vertices.size).countP graph.isUncalled }

theorem contains_incoming_iff (graph : Graph) (id : Nat) (relation : Relation) :
    ((graph.incoming id).map Prod.fst).contains relation = true ↔
      ∃ edge ∈ graph.edges, edge.target = id ∧ edge.relation = relation := by
  simp only [incoming, List.contains_iff_mem, List.mem_map, List.mem_mergeSort, List.mem_filter,
    Array.mem_toList_iff, beq_iff_eq]
  constructor
  · rintro ⟨_, ⟨edge, ⟨hedge, htarget⟩, rfl⟩, hrelation⟩
    exact ⟨edge, hedge, htarget, hrelation⟩
  · rintro ⟨edge, hedge, htarget, hrelation⟩
    exact ⟨_, ⟨edge, ⟨hedge, htarget⟩, rfl⟩, hrelation⟩

/-- If extended names are invoked, invocations alone tell which declarations go unused. -/
theorem statsByCalls_eq {graph : Graph}
    (h : ∀ id < graph.vertices.size,
      (∃ edge ∈ graph.edges, edge.target = id ∧ edge.relation = .extension) →
        ∃ edge ∈ graph.edges, edge.target = id ∧ edge.relation = .invocation) :
    graph.statsByCalls = graph.stats := by
  have hcount : (List.range graph.vertices.size).countP graph.isUncalled =
      (List.range graph.vertices.size).countP graph.isUninvoked := by
    apply List.countP_congr
    intro id hid
    have hcalled := h id (List.mem_range.mp hid)
    rw [← contains_incoming_iff, ← contains_incoming_iff] at hcalled
    simp only [isUncalled, isUninvoked]
    cases hinvoked : ((graph.incoming id).map Prod.fst).contains .invocation with
    | true => rw [Bool.true_or]
    | false =>
        rw [Bool.eq_false_iff.mpr fun hextended => Bool.eq_false_iff.mp hinvoked
          (hcalled hextended), Bool.false_or]
  rw [statsByCalls, hcount]
  rfl

/-- What a job extends it also invokes, unless its scan ends too deep. -/
theorem Holds.exists_invocation {graph : Graph} {jobs : List Job} (h : graph.Holds jobs)
    (hdepth : ∀ job ∈ jobs, ∀ limit,
      (job.func.references job.options).result ≠ .error (.tooDeep limit))
    {id : Nat} (hid : id < graph.vertices.size)
    (hextended : ∃ edge ∈ graph.edges, edge.target = id ∧ edge.relation = .extension) :
    ∃ edge ∈ graph.edges, edge.target = id ∧ edge.relation = .invocation := by
  obtain ⟨name, hname⟩ := exists_nameAt? hid
  obtain ⟨job, hjob, ⟨_, target⟩, hreference, rfl, rfl⟩ :=
    (h.exists_entering_iff hname _).mp hextended
  have hle := job.func.count_extension_le job.options target
  have hpos := List.count_pos_iff.mpr hreference
  have hzero : Visit.arrears (job.func.references job.options).result = 0 := by
    unfold Visit.arrears
    split
    · rename_i limit hresult
      exact absurd hresult (hdepth job hjob limit)
    · rfl
  have hinvoked : 0 < job.references.count ⟨.invocation, target⟩ := by
    rw [Job.references] at hpos ⊢
    omega
  exact (h.exists_entering_iff hname .invocation).mpr
    ⟨job, hjob, _, List.count_pos_iff.mp hinvoked, rfl, rfl⟩

end Graph

namespace Build

/-- No scan of the project's scripts ends because a script is nested too deeply. -/
def WithinDepth (files : FileSystem) (root : String) (config : Config) : Prop :=
  ∀ found, discover files root (config.exclude.getD []) = .ok found →
    ∀ job ∈ jobs files root config.scan found, ∀ limit,
      (job.func.references job.options).result ≠ .error (.tooDeep limit)

/-- A scan that ends well, or at something unsupported, adds at least as many invocations of each
name as extensions; one that ends too deep may lack one. So unless a scan ends too deep, whatever
a build returns, with one worker or with many, has the same counts without the test for
extensions. -/
theorem extensions_come_with_invocations :
    (∀ graph : Graph, graph.Reachable → ∀ path options func, ∃ added : List Edge,
      (graph.scan path options func).2.edges.toList = graph.edges.toList ++ added ∧
      ∀ name,
        ((graph.scan path options func).1.result = .ok () ∨
            (∃ family kind, (graph.scan path options func).1.result =
              .error (.unsupported family kind)) →
          (graph.scan path options func).2.countTo added .extension name ≤
            (graph.scan path options func).2.countTo added .invocation name) ∧
        (∀ limit, (graph.scan path options func).1.result = .error (.tooDeep limit) →
          (graph.scan path options func).2.countTo added .extension name ≤
            (graph.scan path options func).2.countTo added .invocation name + 1)) ∧
    ∀ files root config,
      (∀ build, run files root config = .ok build → Possible files root config build) ∧
      ∀ build, Possible files root config build → WithinDepth files root config →
        build.graph.statsByCalls = build.graph.stats := by
  refine ⟨?_, fun files root config => ⟨fun build => possible_of_run, ?_⟩⟩
  · intro graph hgraph path options func
    obtain ⟨added, hadded, -, hcount⟩ := hgraph.wellFormed.exists_added_scan path options func
    refine ⟨added, hadded, fun name => ?_⟩
    have hle := func.count_extension_le options name
    rw [hcount, hcount]
    refine ⟨?_, ?_⟩
    · rintro (hresult | ⟨family, kind, hresult⟩) <;>
      · change (func.references options).result = _ at hresult
        rw [hresult] at hle
        exact hle
    · intro limit hresult
      change (func.references options).result = _ at hresult
      rw [hresult] at hle
      exact hle
  · rintro build ⟨found, schedule, hfound, hdone, rfl⟩ hdepth
    have hholds := Pool.holds_of_isDone hdone
    exact Graph.statsByCalls_eq fun id => hholds.exists_invocation (hdepth found hfound)

/-- The call that an extension announces lies one level deeper than a scan may go. -/
def announced : Func :=
  .wrapper [.var "self" (some (.unary "new" (.call (.ident "Base") [])))]

/-- A project with a name that is extended and one that goes unused. The scan of the script that
extends ends at something unsupported. -/
def lineage : FileSystem where
  tree := FileTree.empty
    |>.insert (.file "function Base(){}function idle(){}".toUTF8.toList) ["p", "base.js"]
    |>.insert (.file "var self=new Base();with(x)y()".toUTF8.toList) ["p", "heir.js"]
  here := []

theorem extensions_come_with_invocations_lineage :
    (Graph.empty.Reachable ∧
      (Graph.empty.scan "heir.js" { ScanOptions.standard with maxDepth := 2 } announced).1.result =
        .error (.tooDeep 2) ∧
      ∃ added : List Edge,
        (Graph.empty.scan "heir.js" { ScanOptions.standard with maxDepth := 2 }
          announced).2.edges.toList = added ∧
        added.length = 1 ∧
        (Graph.empty.scan "heir.js" { ScanOptions.standard with maxDepth := 2 }
          announced).2.countTo added .extension "Base" ≤
          (Graph.empty.scan "heir.js" { ScanOptions.standard with maxDepth := 2 }
            announced).2.countTo added .invocation "Base" + 1) ∧
    WithinDepth lineage "/p" .standard ∧
    ∃ build, run lineage "/p" .standard = .ok build ∧
      build.report.aborted = 1 ∧
      build.graph.edges.toList =
        [⟨0, 1, .declaration⟩, ⟨0, 2, .declaration⟩, ⟨3, 1, .extension⟩, ⟨3, 1, .invocation⟩] ∧
      build.graph.statsByCalls = build.graph.stats := by
  obtain ⟨hscan, hbuild⟩ := extensions_come_with_invocations
  have hresult : (Graph.empty.scan "heir.js" { ScanOptions.standard with maxDepth := 2 }
      announced).1.result = .error (.tooDeep 2) := rfl
  have hfound : discover lineage "/p" [] = .ok [["base.js"], ["heir.js"]] := by
    apply discover_of_pairwise
    · decide +kernel
    · decide +kernel
    · decide +kernel
  have hresults : (jobs lineage "/p" Config.standard.scan [["base.js"], ["heir.js"]]).map
      (fun job => (job.func.references job.options).result) =
        [.ok (), .error (.unsupported .statement "with_statement")] := by
    decide +kernel
  have hdepth : WithinDepth lineage "/p" .standard := by
    intro found hother job hjob limit htooDeep
    obtain rfl := Except.ok.inj (hfound.symm.trans hother)
    have hmem := List.mem_map_of_mem (f := fun job => (job.func.references job.options).result) hjob
    rw [htooDeep, hresults] at hmem
    simp at hmem
  have hrun : run lineage "/p" .standard = .ok _ := run_of_discover hfound
  obtain ⟨added, hadded, hcount⟩ :=
    hscan .empty .empty "heir.js" { ScanOptions.standard with maxDepth := 2 } announced
  obtain rfl : _ = added := hadded
  refine ⟨⟨.empty, hresult, _, rfl, by decide +kernel, (hcount "Base").2 2 hresult⟩, hdepth, _,
    hrun, by decide +kernel, ?_, ?_⟩
  · decide +kernel
  · exact (hbuild lineage "/p" .standard).2 _ ((hbuild lineage "/p" .standard).1 _ hrun) hdepth

end Build

end ScriptGraph
