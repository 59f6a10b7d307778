import ScriptGraph.Proofs.Project.Plan

/-!
# Roles are told by edges

In the graph of a project the roles of a vertex are no further data: a vertex is
a symbol because some edge enters it that calls for one, and a module because a
requirement enters it or because it stands for a file that was scanned. This is
a statement about names, so it does not matter in which order the jobs came.
-/

namespace ScriptGraph

theorem Relation.targetRole_eq_module_iff {relation : Relation} :
    relation.targetRole = .module ↔ relation = .requirement := by
  cases relation <;> simp [targetRole]

theorem Relation.targetRole_eq_symbol_iff {relation : Relation} :
    relation.targetRole = .symbol ↔
      relation = .declaration ∨ relation = .invocation ∨ relation = .extension := by
  cases relation <;> simp [targetRole]

theorem Job.mem_flatMap_marks {jobs : List Job} {name : String} {role : Role} :
    (name, role) ∈ jobs.flatMap marks ↔
      (role = .module ∧ ∃ job ∈ jobs, job.module = name) ∨
        ∃ job ∈ jobs, ∃ reference ∈ job.references,
          reference.target = name ∧ reference.relation.targetRole = role := by
  simp only [List.mem_flatMap, marks, List.mem_cons, List.mem_map, Reference.mark, Prod.mk.injEq]
  grind

namespace Graph.Holds

variable {graph : Graph} {jobs : List Job}

/-- Edges that enter a vertex are references to its name. -/
theorem exists_entering_iff (h : graph.Holds jobs) {id : Nat} {name : String}
    (hname : graph.nameAt? id = some name) (relation : Relation) :
    (∃ edge ∈ graph.edges, edge.target = id ∧ edge.relation = relation) ↔
      ∃ job ∈ jobs, ∃ reference ∈ job.references,
        reference.target = name ∧ reference.relation = relation := by
  constructor
  · rintro ⟨edge, hedge, rfl, rfl⟩
    have hmem : graph.nameEdge edge ∈ jobs.flatMap Job.edges :=
      h.edges_perm.mem_iff.mp (List.mem_map_of_mem (by simpa using hedge))
    obtain ⟨job, hjob, hown⟩ := List.mem_flatMap.mp hmem
    obtain ⟨reference, hreference, heq⟩ := List.mem_map.mp hown
    refine ⟨job, hjob, reference, hreference, ?_, congrArg NamedEdge.relation heq⟩
    exact (congrArg NamedEdge.target heq).trans (nameOf_of_nameAt? hname)
  · rintro ⟨job, hjob, reference, hreference, rfl, rfl⟩
    have hown : reference.edgeFrom job.module ∈ job.edges := List.mem_map_of_mem hreference
    have hmem : reference.edgeFrom job.module ∈ graph.namedEdges :=
      h.edges_perm.mem_iff.mpr (List.mem_flatMap.mpr ⟨job, hjob, hown⟩)
    obtain ⟨edge, hedge, heq⟩ := List.mem_map.mp hmem
    rw [Array.mem_toList_iff] at hedge
    refine ⟨edge, hedge, ?_, congrArg NamedEdge.relation heq⟩
    have htarget : graph.nameOf edge.target = reference.target := congrArg NamedEdge.target heq
    exact (h.wellFormed.nameOf_eq_iff hname (h.wellFormed.ends_lt edge hedge).2).mp htarget

theorem hasRole_iff (h : graph.Holds jobs) {id : Nat} {vertex : Vertex}
    (hvertex : graph.vertices[id]? = some vertex) (role : Role) :
    vertex.hasRole role = true ↔
      (role = .module ∧ ∃ job ∈ jobs, job.module = vertex.name) ∨
        ∃ edge ∈ graph.edges, edge.target = id ∧ edge.relation.targetRole = role := by
  have hname : graph.nameAt? id = some vertex.name :=
    nameAt?_eq_some_iff.mpr ⟨vertex, hvertex, rfl⟩
  have hedges : (∃ edge ∈ graph.edges, edge.target = id ∧ edge.relation.targetRole = role) ↔
      ∃ job ∈ jobs, ∃ reference ∈ job.references,
        reference.target = vertex.name ∧ reference.relation.targetRole = role := by
    constructor
    · rintro ⟨edge, hedge, htarget, hrole⟩
      obtain ⟨job, hjob, reference, hreference, hsame, hrelation⟩ :=
        (h.exists_entering_iff hname edge.relation).mp ⟨edge, hedge, htarget, rfl⟩
      exact ⟨job, hjob, reference, hreference, hsame, by rw [hrelation, hrole]⟩
    · rintro ⟨job, hjob, reference, hreference, hsame, hrole⟩
      obtain ⟨edge, hedge, htarget, hrelation⟩ :=
        (h.exists_entering_iff hname reference.relation).mpr
          ⟨job, hjob, reference, hreference, hsame, rfl⟩
      exact ⟨edge, hedge, htarget, by rw [hrelation, hrole]⟩
  rw [hedges, ← Job.mem_flatMap_marks, ← h.marked_iff,
    h.wellFormed.marked_name_iff (Array.mem_of_getElem? hvertex)]

/-- An edge leaves the module of the job that it belongs to. -/
theorem source_isModule (h : graph.Holds jobs) {edge : Edge} (hedge : edge ∈ graph.edges)
    {vertex : Vertex} (hvertex : graph.vertices[edge.source]? = some vertex) :
    vertex.isModule = true := by
  have hmem : graph.nameEdge edge ∈ jobs.flatMap Job.edges :=
    h.edges_perm.mem_iff.mp (List.mem_map_of_mem (by simpa using hedge))
  obtain ⟨job, hjob, hown⟩ := List.mem_flatMap.mp hmem
  obtain ⟨reference, -, heq⟩ := List.mem_map.mp hown
  have hname : graph.nameAt? edge.source = some vertex.name :=
    nameAt?_eq_some_iff.mpr ⟨vertex, hvertex, rfl⟩
  have hmodule : job.module = vertex.name :=
    (congrArg NamedEdge.source heq).trans (nameOf_of_nameAt? hname)
  exact (h.hasRole_iff hvertex .module).mpr (.inl ⟨rfl, job, hjob, hmodule⟩)

theorem isSymbol_iff (h : graph.Holds jobs) {id : Nat} {vertex : Vertex}
    (hvertex : graph.vertices[id]? = some vertex) :
    vertex.isSymbol = true ↔
      ∃ edge ∈ graph.edges, edge.target = id ∧
        (edge.relation = .declaration ∨ edge.relation = .invocation ∨
          edge.relation = .extension) := by
  have hrole := h.hasRole_iff hvertex .symbol
  simp only [reduceCtorEq, false_and, false_or, Relation.targetRole_eq_symbol_iff] at hrole
  exact hrole

theorem isModule_iff (h : graph.Holds jobs) {id : Nat} {vertex : Vertex}
    (hvertex : graph.vertices[id]? = some vertex) :
    vertex.isModule = true ↔
      (∃ job ∈ jobs, job.module = vertex.name) ∨
        ∃ edge ∈ graph.edges, edge.target = id ∧ edge.relation = .requirement := by
  have hrole := h.hasRole_iff hvertex .module
  simp only [true_and, Relation.targetRole_eq_module_iff] at hrole
  exact hrole

/-- A vertex is there as the module of a job or at the end of an edge. -/
theorem module_or_target (h : graph.Holds jobs) {id : Nat} {vertex : Vertex}
    (hvertex : graph.vertices[id]? = some vertex) :
    (∃ job ∈ jobs, job.module = vertex.name) ∨ ∃ edge ∈ graph.edges, edge.target = id := by
  obtain ⟨role, hrole⟩ := h.wellFormed.has_role vertex (Array.mem_of_getElem? hvertex)
  rcases (h.hasRole_iff hvertex role).mp hrole with ⟨-, hjob⟩ | ⟨edge, hedge, htarget, -⟩
  · exact .inl hjob
  · exact .inr ⟨edge, hedge, htarget⟩

end Graph.Holds

namespace Build

/-- A file of the project that is found and not skipped has a module of this name. -/
def HasModule (files : FileSystem) (root : String) (config : Config) (name : String) : Prop :=
  ∃ found, discover files root (config.exclude.getD []) = .ok found ∧
    ∃ names ∈ found, ∃ func,
      script? files config.scan (Discovery.pathOf root names) = some func ∧
        name = Path.moduleName (Path.relative root (Discovery.pathOf root names))

theorem exists_job_iff {files : FileSystem} {root : String} {config : Config}
    {found : List (List String)} (h : discover files root (config.exclude.getD []) = .ok found)
    (name : String) :
    (∃ job ∈ jobs files root config.scan found, job.module = name) ↔
      HasModule files root config name := by
  constructor
  · rintro ⟨job, hjob, rfl⟩
    obtain ⟨names, hnames, func, hfunc, rfl⟩ := mem_jobs.mp hjob
    exact ⟨found, h, names, hnames, func, hfunc, rfl⟩
  · rintro ⟨others, hothers, names, hnames, func, hfunc, rfl⟩
    obtain rfl := Except.ok.inj (h.symm.trans hothers)
    exact ⟨_, mem_jobs.mpr ⟨names, hnames, func, hfunc, rfl⟩, rfl⟩

/-- Whatever a build returns, with one worker or with many: edges leave modules and enter what
their relation calls for. The other way round, a vertex is a symbol only if a declaration, an
invocation or an extension enters it, and a module only if a requirement enters it or a file that
was not skipped has its name. So each vertex stands for such a file or at the end of an edge. -/
theorem roles_told_by_edges (files : FileSystem) (root : String) (config : Config) :
    (∀ build, run files root config = .ok build → Possible files root config build) ∧
    ∀ build, Possible files root config build →
      (∀ edge ∈ build.graph.edges, ∃ source target,
        build.graph.vertices[edge.source]? = some source ∧
        build.graph.vertices[edge.target]? = some target ∧
        source.isModule = true ∧
        (edge.relation = .requirement → target.isModule = true) ∧
        (edge.relation = .declaration ∨ edge.relation = .invocation ∨
          edge.relation = .extension → target.isSymbol = true)) ∧
      ∀ (id : Nat) vertex, build.graph.vertices[id]? = some vertex →
        (vertex.isSymbol = true ↔
          ∃ edge ∈ build.graph.edges, edge.target = id ∧
            (edge.relation = .declaration ∨ edge.relation = .invocation ∨
              edge.relation = .extension)) ∧
        (vertex.isModule = true ↔
          HasModule files root config vertex.name ∨
            ∃ edge ∈ build.graph.edges, edge.target = id ∧ edge.relation = .requirement) ∧
        (HasModule files root config vertex.name ∨
          ∃ edge ∈ build.graph.edges, edge.target = id) := by
  refine ⟨fun build => possible_of_run, ?_⟩
  rintro build ⟨found, schedule, hfound, hdone, rfl⟩
  have hholds := Pool.holds_of_isDone hdone
  constructor
  · intro edge hedge
    obtain ⟨hsource, htarget⟩ := hholds.wellFormed.ends_lt edge hedge
    refine ⟨_, _, Array.getElem?_eq_getElem hsource, Array.getElem?_eq_getElem htarget,
      hholds.source_isModule hedge (Array.getElem?_eq_getElem hsource), ?_, ?_⟩
    · intro hrelation
      exact (hholds.isModule_iff (Array.getElem?_eq_getElem htarget)).mpr
        (.inr ⟨edge, hedge, rfl, hrelation⟩)
    · intro hrelation
      exact (hholds.isSymbol_iff (Array.getElem?_eq_getElem htarget)).mpr
        ⟨edge, hedge, rfl, hrelation⟩
  · intro id vertex hvertex
    rw [← exists_job_iff hfound]
    exact ⟨hholds.isSymbol_iff hvertex, hholds.isModule_iff hvertex,
      hholds.module_or_target hvertex⟩

theorem roles_told_by_edges_workshop :
    ∃ build, run workshop "/p" .standard = .ok build ∧
      Possible workshop "/p" .standard build ∧
      build.graph.vertices[0]? = some ⟨"a", true, true⟩ ∧
      (∃ edge ∈ build.graph.edges, edge.target = 0 ∧
        (edge.relation = .declaration ∨ edge.relation = .invocation ∨
          edge.relation = .extension)) ∧
      (HasModule workshop "/p" .standard "a" ∨
        ∃ edge ∈ build.graph.edges, edge.target = 0 ∧ edge.relation = .requirement) ∧
      ⟨0, 2, .requirement⟩ ∈ build.graph.edges ∧
      ∃ source target, build.graph.vertices[0]? = some source ∧
        build.graph.vertices[2]? = some target ∧ source.isModule = true ∧
        target.isModule = true := by
  obtain ⟨build, hrun, hvertices, hedges, -⟩ := exists_run_workshop
  have hpossible := (roles_told_by_edges workshop "/p" .standard).1 build hrun
  obtain ⟨hends, hroles⟩ := (roles_told_by_edges workshop "/p" .standard).2 build hpossible
  have hvertex : build.graph.vertices[0]? = some ⟨"a", true, true⟩ := by
    rw [← Array.getElem?_toList, hvertices]
    rfl
  have hedge : ⟨0, 2, .requirement⟩ ∈ build.graph.edges := by
    rw [← Array.mem_toList_iff, hedges]
    decide
  obtain ⟨hsymbol, hmodule, -⟩ := hroles 0 _ hvertex
  obtain ⟨source, target, hsource, htarget, hleaves, henters, -⟩ := hends _ hedge
  exact ⟨build, hrun, hpossible, hvertex, hsymbol.mp rfl, hmodule.mp rfl, hedge, source, target,
    hsource, htarget, hleaves, henters rfl⟩

end Build

end ScriptGraph
