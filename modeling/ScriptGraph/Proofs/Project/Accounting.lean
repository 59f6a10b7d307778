import ScriptGraph.Proofs.Graph.Totals
import ScriptGraph.Proofs.Project.Plan

/-!
# The books of a build balance

A report keeps its counts apart from the graph: each file adds one to one of
three counters, and each job adds the references that its scan met, however it
ended. Both sides are followed file by file. With several workers the edges of
a job come in one at a time and between those of others, so what a writer has
added is counted over its own turns, against what it still owes.
-/

namespace ScriptGraph

/-! ## Reports -/

namespace RunReport

/-- The files of which a report says what became. -/
def settled (report : RunReport) : Nat := report.scanned + report.skipped + report.aborted

theorem files_count (report : RunReport) (job? : Option Job) :
    (report.count job?).files = report.files := by
  unfold count
  split
  · rfl
  · split <;> rfl

theorem settled_count (report : RunReport) (job? : Option Job) :
    (report.count job?).settled = report.settled + 1 := by
  unfold count
  split
  · simp only [settled]
    omega
  · split <;> simp only [settled] <;> omega

theorem relations_count (report : RunReport) (job? : Option Job) :
    (report.count job?).relations = report.relations + (job?.toList.map Job.emitted).sum := by
  unfold count
  split
  · rfl
  · split <;> simp

/-- What counting a plan adds to a report. -/
theorem foldl_count (plan : List (Option Job)) (report : RunReport) :
    (plan.foldl count report).files = report.files ∧
      (plan.foldl count report).settled = report.settled + plan.length ∧
      (plan.foldl count report).relations =
        report.relations + ((plan.filterMap id).map Job.emitted).sum := by
  induction plan generalizing report with
  | nil => simp
  | cons job? plan ih =>
      obtain ⟨hfiles, hsettled, hrelations⟩ := ih (report.count job?)
      rw [files_count] at hfiles
      rw [settled_count] at hsettled
      rw [relations_count] at hrelations
      refine ⟨hfiles, ?_, ?_⟩
      · rw [List.foldl_cons, hsettled, List.length_cons]
        omega
      · rw [List.foldl_cons, hrelations]
        cases job? with
        | none => simp
        | some job =>
            simp only [Option.toList_some, List.map_cons, List.map_nil, List.sum_cons,
              List.sum_nil, List.filterMap_cons, id_eq]
            omega

end RunReport

/-! ## Edges -/

namespace Graph

theorem size_edges_enter (graph : Graph) (source : Nat) (reference : Reference) :
    (graph.enter source reference).edges.size = graph.edges.size + 1 := by
  simp [enter, relate]

theorem size_edges_enterAll (graph : Graph) (source : Nat) (references : List Reference) :
    (graph.enterAll source references).edges.size = graph.edges.size + references.length := by
  induction references generalizing graph with
  | nil => rfl
  | cons reference references ih =>
      refine (ih (graph.enter source reference)).trans ?_
      rw [size_edges_enter, List.length_cons]
      omega

/-- A scan adds as many edges as it met references, whatever its outcome. -/
theorem size_edges_scan (graph : Graph) (path : String) (options : ScanOptions) (func : Func) :
    (graph.scan path options func).2.edges.size =
      graph.edges.size + (graph.scan path options func).1.references.size := by
  have hsize := size_edges_enterAll (graph.refer (Path.moduleName path) .module).2
    (graph.refer (Path.moduleName path) .module).1 (func.references options).references.toList
  rw [edges_refer, Array.length_toList] at hsize
  change (graph.enterModule path (func.references options).references).edges.size = _
  rw [enterModule_eq]
  exact hsize

/-- An edge counts under one relation and under no other. -/
theorem sum_byRelation (graph : Graph) :
    (graph.stats.byRelation.map Prod.snd).sum = graph.edges.size := by
  have hsum := graph.sum_countRelation []
  have hall : selectedEdges graph.namedEdges [] = graph.namedEdges :=
    List.filter_eq_self.mpr fun _ _ => rfl
  rw [hall, namedEdges, List.length_map] at hsum
  exact hsum

end Graph

theorem Graph.Holds.size_edges {graph : Graph} {jobs : List Job} (h : graph.Holds jobs) :
    graph.edges.size = (jobs.map Job.emitted).sum := by
  have hlength := h.edges_perm.length_eq
  simp only [Graph.namedEdges, List.length_map, Array.length_toList, List.length_flatMap,
    Job.length_edges] at hlength
  exact hlength

/-! ## Writers -/

/-- An access adds the edge that the writer no longer owes, or none. -/
theorem Writer.size_edges_step (writer : Writer) (graph : Graph) :
    (writer.step graph).2.edges.size + (writer.step graph).1.owedEdges.length =
      graph.edges.size + writer.owedEdges.length := by
  cases writer with
  | opening module references => simp [step, owedEdges]
  | ready module source references =>
      cases references with
      | nil => rfl
      | cons reference references => simp [step, owedEdges]
  | linking module source target reference references =>
      simp only [step, owedEdges, Graph.relate, Array.size_push, List.length_map,
        List.length_cons]
      omega

namespace Pool

def addedBy (writer : Nat) : Pool → List Nat → Nat
  | _, [] => 0
  | pool, turn :: schedule =>
    let after := pool.step turn
    let added := if turn = writer then after.graph.edges.size - pool.graph.edges.size else 0
    added + addedBy writer after schedule

def owedBy (pool : Pool) (writer : Nat) : Nat :=
  match pool.writers[writer]? with
  | some writer => writer.owedEdges.length
  | none => 0

theorem size_edges_le_step (pool : Pool) (turn : Nat) :
    pool.graph.edges.size ≤ (pool.step turn).graph.edges.size := by
  unfold step
  split
  · exact Nat.le_refl _
  · rename_i writer _
    exact (writer.growth_step pool.graph).edges_kept.length_le

theorem owedBy_step_self (pool : Pool) (writer : Nat) :
    (pool.step writer).graph.edges.size + (pool.step writer).owedBy writer =
      pool.graph.edges.size + pool.owedBy writer := by
  cases h : pool.writers[writer]? with
  | none => simp [step, h]
  | some state =>
      have hlt := (List.getElem?_eq_some_iff.mp h).1
      have hstep := state.size_edges_step pool.graph
      simp only [step, owedBy, h, List.getElem?_set_self hlt]
      exact hstep

theorem owedBy_step_of_ne (pool : Pool) {turn writer : Nat} (h : turn ≠ writer) :
    (pool.step turn).owedBy writer = pool.owedBy writer := by
  unfold step
  split
  · rfl
  · simp only [owedBy, List.getElem?_set_ne h]

/-- Over any schedule, what a writer adds is what it no longer owes. -/
theorem addedBy_add_owedBy (writer : Nat) (pool : Pool) (schedule : List Nat) :
    pool.addedBy writer schedule + (pool.run schedule).owedBy writer = pool.owedBy writer := by
  induction schedule generalizing pool with
  | nil => simp [addedBy, run]
  | cons turn schedule ih =>
      have hrest := ih (pool.step turn)
      change (if turn = writer then (pool.step turn).graph.edges.size - pool.graph.edges.size
        else 0) + (pool.step turn).addedBy writer schedule +
          ((pool.step turn).run schedule).owedBy writer = _
      -- In a turn of its own the writer pays what it adds; in another it neither adds nor pays.
      by_cases hturn : turn = writer
      · subst hturn
        have hstep := pool.owedBy_step_self turn
        have hgrowth := pool.size_edges_le_step turn
        rw [if_pos rfl]
        omega
      · rw [if_neg hturn, ← pool.owedBy_step_of_ne hturn]
        omega

theorem owedBy_start {jobs : List Job} {writer : Nat} {job : Job}
    (h : jobs[writer]? = some job) : (start jobs).owedBy writer = job.emitted := by
  simp only [owedBy, start, List.getElem?_map, h, Option.map_some]
  exact job.length_edges

theorem owedBy_of_isDone {pool : Pool} (h : pool.isDone = true) (writer : Nat) :
    pool.owedBy writer = 0 := by
  unfold owedBy
  split
  · rename_i state hstate
    have hdone := List.all_eq_true.mp h state (List.mem_of_getElem? hstate)
    rw [(Writer.owed_of_isDone hdone).1, List.length_nil]
  · rfl

end Pool

namespace Build

theorem settled_account (files : FileSystem) (root : String) (options : ScanOptions)
    (found : List (List String)) :
    (account files root options found).files = found.length ∧
      (account files root options found).settled = found.length ∧
      (account files root options found).relations =
        ((jobs files root options found).map Job.emitted).sum := by
  obtain ⟨hfiles, hsettled, hrelations⟩ := RunReport.foldl_count
    (plan files root options found) (start found.length).report
  refine ⟨hfiles, hsettled.trans ?_, hrelations.trans ?_⟩
  · simp [start, RunReport.settled, plan]
  · simp [start, jobs]

/-- Whatever a build returns, with one worker or with many: each file that was found is counted
once, and the relations of the report are the edges of the graph, as are the counts by relation in
sum. A scan adds as many edges as it met references, however it ends; and on every schedule each
writer adds as many edges, over its own turns, as its scan met references. -/
theorem report_balances (files : FileSystem) (root : String) (config : Config) :
    (∀ build, run files root config = .ok build → Possible files root config build) ∧
    (∀ build, Possible files root config build →
      (∃ found, discover files root (config.exclude.getD []) = .ok found ∧
        build.report.files = found.length) ∧
      build.report.files =
        build.report.scanned + build.report.skipped + build.report.aborted ∧
      build.report.relations = build.graph.edges.size ∧
      (build.graph.stats.byRelation.map Prod.snd).sum = build.graph.edges.size) ∧
    (∀ (graph : Graph) path options func,
      (graph.scan path options func).2.edges.size =
        graph.edges.size + (graph.scan path options func).1.references.size) ∧
    ∀ (jobs : List Job) schedule, ((Pool.start jobs).run schedule).isDone = true →
      ∀ (writer : Nat) job, jobs[writer]? = some job →
        (Pool.start jobs).addedBy writer schedule =
          (job.func.references job.options).references.size := by
  refine ⟨fun build => possible_of_run, ?_, Graph.size_edges_scan, ?_⟩
  · rintro build ⟨found, schedule, hfound, hdone, rfl⟩
    obtain ⟨hfiles, hsettled, hrelations⟩ := settled_account files root config.scan found
    refine ⟨⟨found, hfound, hfiles⟩, hfiles.trans hsettled.symm, ?_, Graph.sum_byRelation _⟩
    exact hrelations.trans (Pool.holds_of_isDone hdone).size_edges.symm
  · intro jobs schedule hdone writer job hjob
    have hbalance := Pool.addedBy_add_owedBy writer (Pool.start jobs) schedule
    rw [Pool.owedBy_of_isDone hdone, Pool.owedBy_start hjob] at hbalance
    exact hbalance

theorem report_balances_workshop :
    (∃ build, run workshop "/p" .standard = .ok build ∧
      Possible workshop "/p" .standard build ∧
      build.report.skipped = 1 ∧ build.report.aborted = 1 ∧
      build.report.files =
        build.report.scanned + build.report.skipped + build.report.aborted ∧
      build.report.relations = build.graph.edges.size ∧
      (build.graph.stats.byRelation.map Prod.snd).sum = build.graph.edges.size) ∧
    ((Pool.start Pool.rivals).run [0, 1, 0, 1, 1, 0]).isDone = true ∧
    ∀ job, Pool.rivals[1]? = some job →
      (Pool.start Pool.rivals).addedBy 1 [0, 1, 0, 1, 1, 0] =
        (job.func.references job.options).references.size := by
  obtain ⟨build, hrun, -, -, hreport⟩ := exists_run_workshop
  obtain ⟨hpossible, hbalance, -, hwriters⟩ := report_balances workshop "/p" .standard
  obtain ⟨-, hfiles, hrelations, hsum⟩ := hbalance build (hpossible build hrun)
  have hdone : ((Pool.start Pool.rivals).run [0, 1, 0, 1, 1, 0]).isDone = true := by
    decide +kernel
  simp only [Prod.mk.injEq] at hreport
  refine ⟨⟨build, hrun, hpossible build hrun, hreport.2.2.1, hreport.2.2.2, hfiles, hrelations,
    hsum⟩, hdone, ?_⟩
  intro job hjob
  exact hwriters Pool.rivals [0, 1, 0, 1, 1, 0] hdone 1 job hjob

end Build

end ScriptGraph
