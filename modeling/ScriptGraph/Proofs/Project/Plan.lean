import ScriptGraph.Project.Build
import ScriptGraph.Proofs.Project.Discovery
import ScriptGraph.Proofs.Script.Interleaving

/-!
# A build as its jobs

Reading and parsing a file touch neither the graph nor the report, and what is
counted for a script does not depend on the graph. So a build falls into two
halves that do not see each other: the jobs scanned one after another, and an
account of which files had a job and how it ended. Workers side by side change
the first half only.
-/

namespace ScriptGraph

def Job.emitted (job : Job) : Nat := (job.func.references job.options).references.size

theorem Job.length_references (job : Job) : job.references.length = job.emitted := by
  simp [references, emitted]

theorem Job.length_edges (job : Job) : job.edges.length = job.emitted := by
  rw [edges, List.length_map, length_references]

/-- A graph has the edges and the marks of jobs, and nothing else. -/
structure Graph.Holds (graph : Graph) (jobs : List Job) : Prop where
  wellFormed : graph.WellFormed
  edges_perm : graph.namedEdges.Perm (jobs.flatMap Job.edges)
  marked_iff : ∀ name role, graph.Marked name role ↔ (name, role) ∈ jobs.flatMap Job.marks

/-- Every job has the vertex of its module. -/
theorem Graph.Holds.exists_module {graph : Graph} {jobs : List Job} (h : graph.Holds jobs)
    {job : Job} (hjob : job ∈ jobs) :
    ∃ (id : Nat) (vertex : Vertex), graph.lookup? job.module = some id ∧
      graph.vertices[id]? = some vertex ∧ vertex.isModule = true := by
  have hmark : (job.module, Role.module) ∈ jobs.flatMap Job.marks :=
    List.mem_flatMap.mpr ⟨job, hjob, List.mem_cons_self⟩
  obtain ⟨vertex, hvertex, hname, hrole⟩ := (h.marked_iff _ _).mpr hmark
  obtain ⟨id, hid⟩ := Array.mem_iff_getElem?.mp hvertex
  refine ⟨id, vertex, ?_, hid, hrole⟩
  rw [h.wellFormed.lookup?_iff, ← hname]
  exact nameAt?_eq_some_iff.mpr ⟨vertex, hid, rfl⟩

theorem Pool.holds_of_isDone {jobs : List Job} {schedule : List Nat}
    (h : ((start jobs).run schedule).isDone = true) :
    ((start jobs).run schedule).graph.Holds jobs := by
  have hsound := (sound_start jobs).run schedule
  obtain ⟨hedges, hmarked⟩ := hsound.of_isDone h
  exact ⟨hsound.wellFormed, hedges, hmarked⟩

/-- The account after one more file; a file without a job was skipped. -/
def RunReport.count (report : RunReport) : Option Job → RunReport
  | none => { report with skipped := report.skipped + 1 }
  | some job =>
    match (job.func.references job.options).result with
    | .ok _ => { report with
        scanned := report.scanned + 1
        relations := report.relations + job.emitted }
    | .error _ => { report with
        aborted := report.aborted + 1
        relations := report.relations + job.emitted }

namespace Build

/-- The script of a file, unless the file cannot be read or parsed. -/
def script? (files : FileSystem) (options : ScanOptions) (path : String) : Option Func :=
  (files.read? path).bind fun bytes => (Func.ofFile path bytes options.maxDepth).toOption

/-- The job of a file, unless the file is skipped. -/
def job? (files : FileSystem) (root : String) (options : ScanOptions) (path : String) :
    Option Job :=
  (script? files options path).map fun func => ⟨Path.relative root path, options, func⟩

def plan (files : FileSystem) (root : String) (options : ScanOptions)
    (found : List (List String)) : List (Option Job) :=
  found.map fun names => job? files root options (Discovery.pathOf root names)

/-- The jobs of the files that were found, skipped files left out. -/
def jobs (files : FileSystem) (root : String) (options : ScanOptions)
    (found : List (List String)) : List Job :=
  (plan files root options found).filterMap id

def account (files : FileSystem) (root : String) (options : ScanOptions)
    (found : List (List String)) : RunReport :=
  (plan files root options found).foldl RunReport.count (start found.length).report

theorem mem_jobs {files : FileSystem} {root : String} {options : ScanOptions}
    {found : List (List String)} {job : Job} :
    job ∈ jobs files root options found ↔
      ∃ names ∈ found, ∃ func, script? files options (Discovery.pathOf root names) = some func ∧
        ⟨Path.relative root (Discovery.pathOf root names), options, func⟩ = job := by
  simp [jobs, plan, job?]

/-! ## One worker -/

theorem add_eq (build : Build) (job : Job) :
    build.add job.options job.path job.func =
      ⟨(build.graph.scan job.path job.options job.func).2, build.report.count (some job)⟩ := by
  simp only [add, RunReport.count, Graph.scan]
  cases (job.func.references job.options).result <;> rfl

/-- Visiting a file scans its job, if it has one, and counts it. -/
theorem visit_eq (files : FileSystem) (root : String) (options : ScanOptions) (build : Build)
    (path : String) :
    visit files root options build path =
      ⟨build.graph.scanAll (job? files root options path).toList,
        build.report.count (job? files root options path)⟩ := by
  unfold visit job? script?
  cases files.read? path with
  | none => rfl
  | some bytes =>
      simp only [Option.bind_some]
      cases Func.ofFile path bytes options.maxDepth with
      | error error => rfl
      | ok func => exact add_eq build ⟨Path.relative root path, options, func⟩

theorem foldl_visit (files : FileSystem) (root : String) (options : ScanOptions)
    (paths : List String) (build : Build) :
    paths.foldl (visit files root options) build =
      ⟨build.graph.scanAll (paths.filterMap (job? files root options)),
        (paths.map (job? files root options)).foldl RunReport.count build.report⟩ := by
  induction paths generalizing build with
  | nil => rfl
  | cons path paths ih =>
      rw [List.foldl_cons, ih, visit_eq, List.map_cons, List.foldl_cons, List.filterMap_cons]
      cases job? files root options path <;> rfl

/-- A build scans the jobs in the order of their files and accounts for every file. -/
theorem run_of_discover {files : FileSystem} {root : String} {config : Config}
    {found : List (List String)}
    (h : discover files root (config.exclude.getD []) = .ok found) :
    run files root config =
      .ok ⟨Graph.empty.scanAll (jobs files root config.scan found),
        account files root config.scan found⟩ := by
  have hfold := foldl_visit files root config.scan (found.map (Discovery.pathOf root))
    (start found.length)
  simp only [run, h, bind, Except.bind, pure, Except.pure, hfold]
  simp only [jobs, account, plan, List.filterMap_map, List.map_map, Function.comp_def, id_eq]
  rfl

theorem exists_of_run {files : FileSystem} {root : String} {config : Config} {build : Build}
    (h : run files root config = .ok build) :
    ∃ found, discover files root (config.exclude.getD []) = .ok found ∧
      build = ⟨Graph.empty.scanAll (jobs files root config.scan found),
        account files root config.scan found⟩ := by
  cases hfound : discover files root (config.exclude.getD []) with
  | error error =>
      simp [run, hfound, bind, Except.bind] at h
  | ok found =>
      rw [run_of_discover hfound] at h
      exact ⟨found, rfl, (Except.ok.inj h).symm⟩

/-- A project with a file that is scanned whole, one that cannot be parsed, one whose scan ends
early and an empty one. -/
def workshop : FileSystem where
  tree := FileTree.empty
    |>.insert (.file "define(['b'],f)".toUTF8.toList) ["p", "a.js"]
    |>.insert (.file "function (".toUTF8.toList) ["p", "broken.js"]
    |>.insert (.file "a();with(x)y()".toUTF8.toList) ["p", "lib", "b.js"]
    |>.insert (.file (some [])) ["p", "quiet.js"]
  here := []

theorem discover_workshop :
    discover workshop "/p" [] =
      .ok [["a.js"], ["broken.js"], ["lib", "b.js"], ["quiet.js"]] := by
  apply discover_of_pairwise
  · decide +kernel
  · decide +kernel
  · decide +kernel

theorem exists_run_workshop :
    ∃ build, run workshop "/p" .standard = .ok build ∧
      build.graph.vertices.toList =
        [⟨"a", true, true⟩, ⟨"define", false, true⟩, ⟨"b", true, false⟩,
          ⟨"quiet", true, false⟩] ∧
      build.graph.edges.toList =
        [⟨0, 1, .invocation⟩, ⟨0, 2, .requirement⟩, ⟨2, 0, .invocation⟩] ∧
      (build.report.files, build.report.scanned, build.report.skipped, build.report.aborted) =
        (4, 2, 1, 1) := by
  refine ⟨_, run_of_discover discover_workshop, ?_⟩
  decide +kernel

/-! ## Any number of workers -/

/-- What a build may return if its scripts are scanned side by side: the graph depends on the
schedule of the accesses to it, the account does not. -/
def Possible (files : FileSystem) (root : String) (config : Config) (build : Build) : Prop :=
  ∃ found schedule, discover files root (config.exclude.getD []) = .ok found ∧
    ((Pool.start (jobs files root config.scan found)).run schedule).isDone = true ∧
    build = ⟨((Pool.start (jobs files root config.scan found)).run schedule).graph,
      account files root config.scan found⟩

/-- One worker is one of the possible schedules. -/
theorem possible_of_run {files : FileSystem} {root : String} {config : Config} {build : Build}
    (h : run files root config = .ok build) : Possible files root config build := by
  obtain ⟨found, hfound, rfl⟩ := exists_of_run h
  obtain ⟨writers, hdone, hrun⟩ :=
    Pool.run_oneByOne (jobs files root config.scan found) [] rfl .empty
  have hgraph : ((Pool.start (jobs files root config.scan found)).run
      (Pool.oneByOne 0 (jobs files root config.scan found))).graph =
        Graph.empty.scanAll (jobs files root config.scan found) := congrArg Pool.graph hrun
  refine ⟨found, Pool.oneByOne 0 (jobs files root config.scan found), hfound, ?_, ?_⟩
  · exact (congrArg Pool.isDone hrun).trans hdone
  · rw [hgraph]

end Build

end ScriptGraph
