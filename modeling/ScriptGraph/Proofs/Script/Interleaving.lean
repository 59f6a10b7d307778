import ScriptGraph.Proofs.Script.Entry

/-!
# Scripts scanned side by side

Several writers share one graph. Each enters the references of one script, but
other writers may come between any two of its accesses, also between the access
that looks up the target of an edge and the one that adds the edge. Numbers of
vertices then depend on the schedule; vertices and edges by name do not.

The invariant compares what is in the graph and what the writers still owe it
with what the scripts hold in all.
-/

namespace ScriptGraph

/-- The name that a reference marks, and the role it marks it with. -/
def Reference.mark (reference : Reference) : String × Role :=
  (reference.target, reference.relation.targetRole)

/-- A script with the path and the options that it is scanned with. -/
structure Job where
  path : String
  options : ScanOptions
  func : Func

namespace Job

def module (job : Job) : String := Path.moduleName job.path

def references (job : Job) : List Reference :=
  (job.func.references job.options).references.toList

def edges (job : Job) : List NamedEdge := job.references.map (Reference.edgeFrom job.module)

/-- The names that a job marks with roles. -/
def marks (job : Job) : List (String × Role) :=
  (job.module, .module) :: job.references.map Reference.mark

end Job

/-! ## Writers -/

/-- Where the scan of a module stands between two accesses to the graph. -/
inductive Writer where
  /-- The module has not been referred to. -/
  | opening (module : String) (references : List Reference)
  /-- The number of the module is known, and the next reference can be entered. -/
  | ready (module : String) (source : Nat) (references : List Reference)
  /-- The target of a reference has been referred to, but the edge is not there yet. -/
  | linking (module : String) (source target : Nat) (reference : Reference)
      (references : List Reference)

def Job.writer (job : Job) : Writer := .opening job.module job.references

namespace Writer

/-- One access to the graph. A writer with nothing left to do does nothing. -/
def step (graph : Graph) : Writer → Writer × Graph
  | .opening module references =>
    let (source, graph) := graph.refer module .module
    (.ready module source references, graph)
  | .ready module source [] => (.ready module source [], graph)
  | .ready module source (reference :: references) =>
    let (target, graph) := graph.refer reference.target reference.relation.targetRole
    (.linking module source target reference references, graph)
  | .linking module source target reference references =>
    (.ready module source references, graph.relate source target reference.relation)

def isDone : Writer → Bool
  | .ready _ _ [] => true
  | _ => false

def owedEdges : Writer → List NamedEdge
  | .opening module references => references.map (Reference.edgeFrom module)
  | .ready module _ references => references.map (Reference.edgeFrom module)
  | .linking module _ _ reference references =>
    (reference :: references).map (Reference.edgeFrom module)

def owedMarks : Writer → List (String × Role)
  | .opening module references => (module, .module) :: references.map Reference.mark
  | .ready _ _ references => references.map Reference.mark
  | .linking _ _ _ _ references => references.map Reference.mark

/-- The numbers that a writer holds are those of its module and of its target. -/
def Knows (graph : Graph) : Writer → Prop
  | .opening _ _ => True
  | .ready module source _ => graph.nameAt? source = some module
  | .linking module source target reference _ =>
    graph.nameAt? source = some module ∧ graph.nameAt? target = some reference.target

theorem Knows.mono {graph after : Graph} {writer : Writer} (h : writer.Knows graph)
    (hgrowth : graph.Growth after) : writer.Knows after := by
  cases writer with
  | opening module references => trivial
  | ready module source references => exact hgrowth.nameAt? h
  | linking module source target reference references =>
      exact ⟨hgrowth.nameAt? h.1, hgrowth.nameAt? h.2⟩

theorem growth_step (graph : Graph) (writer : Writer) :
    graph.Growth (writer.step graph).2 := by
  cases writer with
  | opening module references => exact Graph.growth_refer graph module .module
  | ready module source references =>
      cases references with
      | nil => exact .refl graph
      | cons reference references => exact Graph.growth_refer graph _ _
  | linking module source target reference references =>
      exact Graph.growth_relate graph source target reference.relation

theorem wellFormed_step {graph : Graph} (hgraph : graph.WellFormed) {writer : Writer}
    (h : writer.Knows graph) : (writer.step graph).2.WellFormed := by
  cases writer with
  | opening module references => exact hgraph.refer module .module
  | ready module source references =>
      cases references with
      | nil => exact hgraph
      | cons reference references => exact hgraph.refer _ _
  | linking module source target reference references =>
      exact hgraph.relate _ (Graph.lt_size_of_nameAt? h.1) (Graph.lt_size_of_nameAt? h.2)

theorem knows_step {graph : Graph} (hgraph : graph.WellFormed) {writer : Writer}
    (h : writer.Knows graph) : (writer.step graph).1.Knows (writer.step graph).2 := by
  have hgrowth := growth_step graph writer
  cases writer with
  | opening module references => exact hgraph.nameAt?_refer_self module .module
  | ready module source references =>
      cases references with
      | nil => exact h
      | cons reference references =>
          exact ⟨hgrowth.nameAt? h, hgraph.nameAt?_refer_self _ _⟩
  | linking module source target reference references => exact hgrowth.nameAt? h.1

/-- An edge moves from what is owed to the graph, or none does. -/
theorem edges_step {graph : Graph} (hgraph : graph.WellFormed) {writer : Writer}
    (h : writer.Knows graph) :
    (writer.step graph).2.namedEdges ++ (writer.step graph).1.owedEdges =
      graph.namedEdges ++ writer.owedEdges := by
  cases writer with
  | opening module references =>
      simp only [step, owedEdges, hgraph.namedEdges_refer]
  | ready module source references =>
      cases references with
      | nil => rfl
      | cons reference references =>
          simp only [step, owedEdges, hgraph.namedEdges_refer]
  | linking module source target reference references =>
      simp only [step, owedEdges, Graph.namedEdges_relate, Graph.nameOf_of_nameAt? h.1,
        Graph.nameOf_of_nameAt? h.2, List.append_assoc, List.map_cons]
      rfl

/-- A mark moves from what is owed to the graph, or none does. -/
theorem marks_step {graph : Graph} (hgraph : graph.WellFormed) (writer : Writer)
    (name : String) (role : Role) :
    ((writer.step graph).2.Marked name role ∨ (name, role) ∈ (writer.step graph).1.owedMarks) ↔
      (graph.Marked name role ∨ (name, role) ∈ writer.owedMarks) := by
  cases writer with
  | opening module references =>
      simp only [step, owedMarks, hgraph.marked_refer, List.mem_cons, Prod.mk.injEq]
      rw [or_assoc, or_left_comm]
  | ready module source references =>
      cases references with
      | nil => rfl
      | cons reference references =>
          simp only [step, owedMarks, hgraph.marked_refer, List.map_cons, List.mem_cons,
            Reference.mark, Prod.mk.injEq]
          rw [or_assoc, or_left_comm]
  | linking module source target reference references => rfl

theorem owed_of_isDone {writer : Writer} (h : writer.isDone = true) :
    writer.owedEdges = [] ∧ writer.owedMarks = [] := by
  cases writer with
  | opening module references => cases h
  | ready module source references =>
      cases references with
      | nil => exact ⟨rfl, rfl⟩
      | cons reference references => cases h
  | linking module source target reference references => cases h

end Writer

/-! ## Pools of writers -/

/-- Writers and the graph that they share. -/
structure Pool where
  writers : List Writer
  graph : Graph

namespace Pool

def start (jobs : List Job) : Pool where
  writers := jobs.map Job.writer
  graph := .empty

/-- One access to the graph, by the writer whose turn it is. -/
def step (pool : Pool) (turn : Nat) : Pool :=
  match pool.writers[turn]? with
  | none => pool
  | some writer =>
    ⟨pool.writers.set turn (writer.step pool.graph).1, (writer.step pool.graph).2⟩

def run (pool : Pool) (schedule : List Nat) : Pool := schedule.foldl step pool

def isDone (pool : Pool) : Bool := pool.writers.all Writer.isDone

/-- A step replaces one writer, with all others where they were, or does nothing. -/
theorem step_cases (pool : Pool) (turn : Nat) :
    pool.step turn = pool ∨
      ∃ before writer after, pool.writers = before ++ writer :: after ∧
        pool.step turn =
          ⟨before ++ (writer.step pool.graph).1 :: after, (writer.step pool.graph).2⟩ := by
  cases h : pool.writers[turn]? with
  | none =>
      left
      simp only [step, h]
  | some writer =>
      right
      obtain ⟨hlt, hwriter⟩ := List.getElem?_eq_some_iff.mp h
      refine ⟨pool.writers.take turn, writer, pool.writers.drop (turn + 1), ?_, ?_⟩
      · rw [← hwriter, ← List.drop_eq_getElem_cons hlt, List.take_append_drop]
      · simp only [step, h, List.set_eq_take_append_cons_drop, if_pos hlt]

/-- What is in the graph and what its writers owe it is what the jobs hold in all. -/
structure Sound (jobs : List Job) (pool : Pool) : Prop where
  wellFormed : pool.graph.WellFormed
  knows : ∀ writer ∈ pool.writers, writer.Knows pool.graph
  edges_perm : (pool.graph.namedEdges ++ pool.writers.flatMap Writer.owedEdges).Perm
    (jobs.flatMap Job.edges)
  marked_iff : ∀ name role,
    (pool.graph.Marked name role ∨ (name, role) ∈ pool.writers.flatMap Writer.owedMarks) ↔
      (name, role) ∈ jobs.flatMap Job.marks

theorem sound_start (jobs : List Job) : Sound jobs (start jobs) where
  wellFormed := .empty
  knows := by
    intro writer hwriter
    obtain ⟨job, -, rfl⟩ := List.mem_map.mp hwriter
    trivial
  edges_perm := by
    simp only [start, List.flatMap_map]
    exact .refl _
  marked_iff := by
    intro name role
    have hnone : ¬ Graph.empty.Marked name role := by
      rintro ⟨vertex, hvertex, -⟩
      simp [Graph.empty] at hvertex
    simp only [start, List.flatMap_map, hnone, false_or]
    exact .rfl

namespace Sound

variable {jobs : List Job} {pool : Pool}

theorem step (h : Sound jobs pool) (turn : Nat) : Sound jobs (pool.step turn) := by
  rcases pool.step_cases turn with hstep | ⟨before, writer, after, hwriters, hstep⟩
  · rwa [hstep]
  -- Only one writer has moved, and what it no longer owes is what has come into the graph.
  have hknows : writer.Knows pool.graph := h.knows writer (by simp [hwriters])
  have hedges := h.edges_perm
  have hmarked := h.marked_iff
  rw [hstep]
  simp only [hwriters, List.flatMap_append, List.flatMap_cons] at hedges hmarked
  refine ⟨Writer.wellFormed_step h.wellFormed hknows, ?_, ?_, ?_⟩
  · intro other hother
    have hgrowth := Writer.growth_step pool.graph writer
    simp only [List.mem_append, List.mem_cons] at hother
    rcases hother with hother | rfl | hother
    · exact (h.knows other (by simp [hwriters, hother])).mono hgrowth
    · exact Writer.knows_step h.wellFormed hknows
    · exact (h.knows other (by simp [hwriters, hother])).mono hgrowth
  · refine List.Perm.trans ?_ hedges
    have hgather : ∀ present owed : List NamedEdge,
        (present ++ (before.flatMap Writer.owedEdges ++
          (owed ++ after.flatMap Writer.owedEdges))).Perm
            (present ++ owed ++
              (before.flatMap Writer.owedEdges ++ after.flatMap Writer.owedEdges)) := by
      intro present owed
      rw [List.append_assoc present]
      exact (List.perm_append_comm_assoc _ _ _).append_left present
    simp only [List.flatMap_append, List.flatMap_cons]
    refine (hgather _ _).trans ?_
    rw [Writer.edges_step h.wellFormed hknows]
    exact (hgather _ _).symm
  · intro name role
    rw [← hmarked name role]
    have hmarks := Writer.marks_step h.wellFormed writer name role
    simp only [List.flatMap_append, List.flatMap_cons, List.mem_append]
    grind

/-- Whatever the schedule, nothing is lost and nothing comes in twice. -/
theorem run (h : Sound jobs pool) (schedule : List Nat) : Sound jobs (pool.run schedule) := by
  induction schedule generalizing pool with
  | nil => exact h
  | cons turn schedule ih => exact ih (h.step turn)

/-- Once all writers are done, the graph holds what the jobs hold. -/
theorem of_isDone (h : Sound jobs pool) (hdone : pool.isDone = true) :
    pool.graph.namedEdges.Perm (jobs.flatMap Job.edges) ∧
      ∀ name role, pool.graph.Marked name role ↔ (name, role) ∈ jobs.flatMap Job.marks := by
  have howed : ∀ writer ∈ pool.writers, writer.owedEdges = [] ∧ writer.owedMarks = [] :=
    fun writer hwriter => Writer.owed_of_isDone (List.all_eq_true.mp hdone writer hwriter)
  have hedges : pool.writers.flatMap Writer.owedEdges = [] :=
    List.flatMap_eq_nil_iff.mpr fun writer hwriter => (howed writer hwriter).1
  have hmarks : pool.writers.flatMap Writer.owedMarks = [] :=
    List.flatMap_eq_nil_iff.mpr fun writer hwriter => (howed writer hwriter).2
  have hperm := h.edges_perm
  have hmarked := h.marked_iff
  simp only [hedges, hmarks, List.append_nil, List.not_mem_nil, or_false] at hperm hmarked
  exact ⟨hperm, hmarked⟩

end Sound

end Pool

/-! ## One script after another -/

namespace Graph

/-- Scans jobs one after another. -/
def scanAll (graph : Graph) (jobs : List Job) : Graph :=
  jobs.foldl (fun graph job => (graph.scan job.path job.options job.func).2) graph

/-- Scanned one after another, jobs leave the edges and the marks they hold. -/
theorem WellFormed.scanAll {graph : Graph} (hgraph : graph.WellFormed) (jobs : List Job) :
    (graph.scanAll jobs).WellFormed ∧
      (graph.scanAll jobs).namedEdges = graph.namedEdges ++ jobs.flatMap Job.edges ∧
      ∀ name role, (graph.scanAll jobs).Marked name role ↔
        graph.Marked name role ∨ (name, role) ∈ jobs.flatMap Job.marks := by
  induction jobs generalizing graph with
  | nil => exact ⟨hgraph, by simp [Graph.scanAll], by simp [Graph.scanAll]⟩
  | cons job jobs ih =>
      obtain ⟨hwell, hedges, hmarked⟩ := ih (hgraph.scan job.path job.options job.func)
      refine ⟨hwell, ?_, ?_⟩
      · refine hedges.trans ?_
        rw [hgraph.namedEdges_scan, List.append_assoc, List.flatMap_cons]
        rfl
      · intro name role
        refine (hmarked name role).trans ?_
        rw [hgraph.marked_scan, List.flatMap_cons, List.mem_append, Job.marks, List.mem_cons,
          List.mem_map, Prod.mk.injEq]
        have hmark : (∃ reference ∈ (job.func.references job.options).references.toList,
            name = reference.target ∧ role = reference.relation.targetRole) ↔
              ∃ reference ∈ job.references, reference.mark = (name, role) := by
          simp only [Job.references, Reference.mark, Prod.mk.injEq, eq_comm]
        rw [hmark, Job.module]
        grind

end Graph

namespace Pool

/-- The schedule on which writers from a turn on go one after another. -/
def oneByOne (turn : Nat) : List Job → List Nat
  | [] => []
  | job :: jobs =>
    List.replicate (2 * job.references.length + 1) turn ++ oneByOne (turn + 1) jobs

theorem step_length (before after : List Writer) (writer : Writer) (graph : Graph) :
    (⟨before ++ writer :: after, graph⟩ : Pool).step before.length =
      ⟨before ++ (writer.step graph).1 :: after, (writer.step graph).2⟩ := by
  simp [step]

/-- A writer left alone enters its references as a scan does. -/
theorem run_ready (before after : List Writer) (module : String) (source : Nat)
    (references : List Reference) (graph : Graph) :
    (⟨before ++ .ready module source references :: after, graph⟩ : Pool).run
        (List.replicate (2 * references.length) before.length) =
      ⟨before ++ .ready module source [] :: after, graph.enterAll source references⟩ := by
  induction references generalizing graph with
  | nil => rfl
  | cons reference references ih =>
      have hlength : 2 * (reference :: references).length = 2 * references.length + 1 + 1 := by
        rw [List.length_cons]
        omega
      rw [hlength, List.replicate_succ, List.replicate_succ, run, List.foldl_cons,
        List.foldl_cons, step_length, step_length]
      exact ih _

theorem run_writer (before after : List Writer) (job : Job) (graph : Graph) :
    ∃ source,
      (⟨before ++ job.writer :: after, graph⟩ : Pool).run
          (List.replicate (2 * job.references.length + 1) before.length) =
        ⟨before ++ .ready job.module source [] :: after,
          (graph.scan job.path job.options job.func).2⟩ := by
  refine ⟨(graph.refer job.module .module).1, ?_⟩
  rw [List.replicate_succ, run, List.foldl_cons, step_length, Job.writer]
  refine (run_ready before after job.module _ job.references _).trans ?_
  change _ = Pool.mk _ (graph.enterModule job.path _)
  rw [Graph.enterModule_eq]
  rfl

theorem run_oneByOne (jobs : List Job) (before : List Writer)
    (hbefore : before.all Writer.isDone = true) (graph : Graph) :
    ∃ writers, writers.all Writer.isDone = true ∧
      (⟨before ++ jobs.map Job.writer, graph⟩ : Pool).run (oneByOne before.length jobs) =
        ⟨writers, graph.scanAll jobs⟩ := by
  induction jobs generalizing before graph with
  | nil => exact ⟨before, hbefore, by simp [oneByOne, run, Graph.scanAll]⟩
  | cons job jobs ih =>
      obtain ⟨source, hrun⟩ := run_writer before (jobs.map Job.writer) job graph
      obtain ⟨writers, hwriters, hrest⟩ := ih (before ++ [.ready job.module source []])
        (by simp [hbefore, Writer.isDone]) (graph.scan job.path job.options job.func).2
      refine ⟨writers, hwriters, ?_⟩
      rw [List.length_append, List.length_singleton, List.append_assoc,
        List.singleton_append] at hrest
      rw [oneByOne, run, List.foldl_append, List.map_cons]
      exact (congrArg (fun pool : Pool => pool.run (oneByOne (before.length + 1) jobs)) hrun).trans
        hrest

/-- Every schedule on which all writers finish leads to the vertices and edges, by name, that
scanning the scripts one after another leads to, whatever the order; so it leads to the same
counts and the same views, also if the index is gone through in another order. Scanning one after
another is itself one of these schedules. -/
theorem run_alike_one_by_one {jobs order : List Job} (horder : order.Perm jobs) :
    (∃ schedule, ((start jobs).run schedule).isDone = true ∧
      ((start jobs).run schedule).graph = Graph.empty.scanAll jobs) ∧
    ∀ schedule, ((start jobs).run schedule).isDone = true →
      ((start jobs).run schedule).graph.vertices.toList.Perm
        (Graph.empty.scanAll order).vertices.toList ∧
      ((start jobs).run schedule).graph.namedEdges.Perm
        (Graph.empty.scanAll order).namedEdges ∧
      ((start jobs).run schedule).graph.stats = (Graph.empty.scanAll order).stats ∧
      ∀ entries, entries.Perm ((start jobs).run schedule).graph.index.toList →
        ∀ isMatch selection,
          ((start jobs).run schedule).graph.viewsAmong entries isMatch selection =
            (Graph.empty.scanAll order).views isMatch selection := by
  constructor
  · obtain ⟨writers, hdone, hrun⟩ := run_oneByOne jobs [] rfl .empty
    refine ⟨oneByOne 0 jobs, ?_, ?_⟩
    · exact (congrArg isDone hrun).trans hdone
    · exact congrArg Pool.graph hrun
  · intro schedule hdone
    have hsound := (sound_start jobs).run schedule
    obtain ⟨hedges, hmarked⟩ := hsound.of_isDone hdone
    obtain ⟨hwell, hscanned, hscannedMarks⟩ := Graph.WellFormed.empty.scanAll order
    have halike : Graph.Alike ((start jobs).run schedule).graph (Graph.empty.scanAll order) := by
      apply Graph.Alike.of_marked_iff hsound.wellFormed hwell
      · intro name role
        rw [hmarked, hscannedMarks, (horder.flatMap_right Job.marks).mem_iff]
        simp [Graph.Marked, Graph.empty]
      · rw [hscanned]
        exact hedges.trans (horder.flatMap_right Job.edges).symm
    exact ⟨halike.vertices_perm, halike.edges_perm, halike.stats_eq hsound.wellFormed hwell,
      fun entries hentries isMatch selection =>
        halike.viewsAmong_eq hsound.wellFormed hwell hentries (.refl _) isMatch selection⟩

/-- Two scripts that invoke the name of the second one's module. -/
def rivals : List Job := [
  ⟨"a.js", .standard, .wrapper [.eval (.call (.ident "b") [])]⟩,
  ⟨"lib/b.js", .standard, .wrapper [.eval (.call (.ident "b") [])]⟩]

theorem run_rivals_alike_one_by_one :
    rivals.reverse.Perm rivals ∧
    ((start rivals).run [0, 1, 0, 1, 1, 0]).isDone = true ∧
    ((start rivals).run [0, 1, 0, 1, 1, 0]).graph.names ≠
      (Graph.empty.scanAll rivals.reverse).names ∧
    ((start rivals).run [0, 1, 0, 1, 1, 0]).graph.stats =
      (Graph.empty.scanAll rivals.reverse).stats ∧
    ∀ isMatch selection,
      ((start rivals).run [0, 1, 0, 1, 1, 0]).graph.views isMatch selection =
        (Graph.empty.scanAll rivals.reverse).views isMatch selection := by
  have hdone : ((start rivals).run [0, 1, 0, 1, 1, 0]).isDone = true := by decide +kernel
  obtain ⟨-, -, hstats, hviews⟩ :=
    (run_alike_one_by_one rivals.reverse_perm).2 [0, 1, 0, 1, 1, 0] hdone
  exact ⟨rivals.reverse_perm, hdone, by decide +kernel, hstats, hviews _ (.refl _)⟩

end Pool

end ScriptGraph
