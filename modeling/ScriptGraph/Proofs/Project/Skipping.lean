import ScriptGraph.Proofs.Project.Discovery
import ScriptGraph.Proofs.Project.Plan

/-!
# Skipped files leave no trace

A file that cannot be read or parsed has no job. So if it is deleted, the jobs
of the project are the same as before, and with them the graph down to the
numbers of its vertices; of the account, only the files and the skipped files go
down by one. This asks that the file is not read in another role as well: an
ignore file may be a link to it, and deleting the file then brings back what its
lines kept out.
-/

namespace ScriptGraph

namespace RunReport

/-- The report with one more file, of which nothing is said yet. -/
def addFile (report : RunReport) : RunReport := { report with files := report.files + 1 }

def addSkipped (report : RunReport) : RunReport :=
  { report with files := report.files + 1, skipped := report.skipped + 1 }

theorem count_addFile (report : RunReport) (job? : Option Job) :
    report.addFile.count job? = (report.count job?).addFile := by
  unfold count
  split
  · rfl
  · split <;> rfl

theorem count_addSkipped (report : RunReport) (job? : Option Job) :
    report.addSkipped.count job? = (report.count job?).addSkipped := by
  unfold count
  split
  · rfl
  · split <;> rfl

/-- It does not matter when a skipped file is counted. -/
theorem foldl_count_none (front back : List (Option Job)) (report : RunReport) :
    (front ++ none :: back).foldl count report.addFile =
      ((front ++ back).foldl count report).addSkipped := by
  have hfront : front.foldl count report.addFile = (front.foldl count report).addFile :=
    List.foldl_hom addFile count_addFile
  have hback : back.foldl count (front.foldl count report).addSkipped =
      (back.foldl count (front.foldl count report)).addSkipped :=
    List.foldl_hom addSkipped count_addSkipped
  rw [List.foldl_append, List.foldl_cons, hfront, List.foldl_append, ← hback]
  rfl

end RunReport

namespace Build

/-- Visiting a file counts it as skipped and does nothing else, whatever came before. -/
def Skips (files : FileSystem) (root : String) (options : ScanOptions) (path : String) : Prop :=
  ∀ build, visit files root options build path = build.skip

theorem skips_iff {files : FileSystem} {root : String} {options : ScanOptions} {path : String} :
    Skips files root options path ↔ script? files options path = none := by
  constructor
  · intro h
    have hskipped := congrArg (fun build => build.report.skipped) (h (start 0))
    rw [visit_eq] at hskipped
    cases hscript : script? files options path with
    | none => rfl
    | some func =>
        simp only [job?, hscript, Option.map_some, RunReport.count] at hskipped
        split at hskipped <;> simp [start, skip] at hskipped
  · intro h build
    rw [visit_eq, job?, h]
    rfl

section

variable {files : FileSystem} {root : String} {options : ScanOptions}

theorem plan_append (front back : List (List String)) :
    plan files root options (front ++ back) =
      plan files root options front ++ plan files root options back := by
  simp [plan]

theorem plan_cons_of_skips {names : List String}
    (h : Skips files root options (Discovery.pathOf root names)) (rest : List (List String)) :
    plan files root options (names :: rest) = none :: plan files root options rest := by
  rw [plan, List.map_cons, job?, skips_iff.mp h]
  rfl

/-- A skipped file adds no job. -/
theorem jobs_of_skips {names : List String}
    (h : Skips files root options (Discovery.pathOf root names))
    (front back : List (List String)) :
    jobs files root options (front ++ names :: back) =
      jobs files root options (front ++ back) := by
  simp [jobs, plan_append, plan_cons_of_skips h]

/-- A skipped file counts as one, and as skipped. -/
theorem account_of_skips {names : List String}
    (h : Skips files root options (Discovery.pathOf root names))
    (front back : List (List String)) :
    account files root options (front ++ names :: back) =
      (account files root options (front ++ back)).addSkipped := by
  have hstart : (start (front ++ names :: back).length).report =
      (start (front ++ back).length).report.addFile := by
    simp [start, RunReport.addFile, Nat.add_assoc]
  rw [account, account, hstart, plan_append, plan_cons_of_skips h, RunReport.foldl_count_none,
    plan_append]

/-- Without a file, the others have the jobs they had. -/
theorem plan_delete (h : files.Proper) {exclude : List String} {found rest : List (List String)}
    {names : List String} (hfound : discover files root exclude = .ok found)
    (hnames : names ∈ found) (hrest : ∀ other ∈ rest, other ∈ found ∧ other ≠ names) :
    plan (files.delete (Discovery.pathOf root names)) root options rest =
      plan files root options rest := by
  refine List.map_congr_left fun other hother => ?_
  obtain ⟨hmem, hne⟩ := hrest other hother
  rw [job?, job?, script?, script?, h.read?_delete_of_mem hfound hnames hmem hne]

/-- A file with a job has its module in the graph. -/
theorem exists_module {found : List (List String)} {names : List String} (hnames : names ∈ found)
    (h : ¬ Skips files root options (Discovery.pathOf root names)) :
    ∃ vertex ∈ (Graph.empty.scanAll (jobs files root options found)).vertices,
      vertex.isModule = true ∧
        vertex.name = Path.moduleName (Path.relative root (Discovery.pathOf root names)) := by
  rw [skips_iff, ← ne_eq, Option.ne_none_iff_exists'] at h
  obtain ⟨func, hfunc⟩ := h
  have hjob := mem_jobs.mpr ⟨names, hnames, func, hfunc, rfl⟩
  obtain ⟨-, -, hmarked⟩ :=
    Graph.WellFormed.empty.scanAll (jobs files root options found)
  obtain ⟨vertex, hvertex, hname, hrole⟩ :=
    (hmarked (Path.moduleName (Path.relative root (Discovery.pathOf root names))) .module).mpr
      (.inr (List.mem_flatMap.mpr ⟨_, hjob, List.mem_cons_self⟩))
  exact ⟨vertex, hvertex, hrole, hname⟩

end

/-- A file that is discovered and skipped can be deleted: the build then returns the same graph,
and a report in which the files and the skipped files are fewer by one, provided that the file is
not read as an ignore file. But a file that is not skipped has its module in the graph, whatever
its scan meets and however it ends. -/
theorem skipped_leaves_no_trace {files : FileSystem} {root : String} {config : Config}
    {build : Build} (hrun : run files root config = .ok build) :
    ∃ found, discover files root (config.exclude.getD []) = .ok found ∧
      (files.Proper → ∀ names ∈ found, Skips files root config.scan (Discovery.pathOf root names) →
        ¬ Discovery.ReadOnWalk files root (Discovery.pathOf root names) →
        ∃ after, run (files.delete (Discovery.pathOf root names)) root config = .ok after ∧
          after.graph = build.graph ∧
          build.report = { after.report with
            files := after.report.files + 1
            skipped := after.report.skipped + 1 }) ∧
      ∀ names ∈ found, ¬ Skips files root config.scan (Discovery.pathOf root names) →
        ∃ vertex ∈ build.graph.vertices, vertex.isModule = true ∧
          vertex.name = Path.moduleName (Path.relative root (Discovery.pathOf root names)) := by
  obtain ⟨found, hfound, rfl⟩ := exists_of_run hrun
  refine ⟨found, hfound, ?_, ?_⟩
  · intro h names hnames hskips hread
    have hdiscover := h.discover_delete hfound hnames hread
    have hnodup := h.nodup_discover hfound
    -- The file stands at one point of the list, and the two builds agree before and after it.
    obtain ⟨front, back, rfl⟩ := List.append_of_mem hnames
    have hfresh : names ∉ front ++ back :=
      (List.nodup_cons.mp (List.nodup_middle.mp hnodup)).1
    have hleft : (front ++ names :: back).filter (· ≠ names) = front ++ back := by
      rw [List.filter_append, List.filter_cons_of_neg (by simp), ← List.filter_append,
        List.filter_eq_self]
      intro other hother
      simpa using ne_of_mem_of_not_mem hother hfresh
    have hplan : plan (files.delete (Discovery.pathOf root names)) root config.scan
        (front ++ back) = plan files root config.scan (front ++ back) := by
      apply plan_delete h hfound hnames
      intro other hother
      refine ⟨?_, ne_of_mem_of_not_mem hother hfresh⟩
      simp only [List.mem_append, List.mem_cons] at hother ⊢
      tauto
    rw [hleft] at hdiscover
    refine ⟨_, run_of_discover hdiscover, ?_, ?_⟩
    · rw [jobs_of_skips hskips, jobs, hplan, jobs]
    · rw [account_of_skips hskips, account, account, hplan]
      rfl
  · intro names hnames hskips
    exact exists_module hnames hskips

/-- A project with a file that cannot be parsed and one that cannot be read. -/
def sealedWorkshop : FileSystem :=
  { workshop with tree := workshop.tree.insert (.file none) ["p", "sealed.js"] }

theorem proper_sealedWorkshop : sealedWorkshop.Proper where
  tree := by
    apply FileTree.Proper.insert _ (.file _) (by decide +kernel)
    apply FileTree.Proper.insert _ (.file _) (by decide +kernel)
    apply FileTree.Proper.insert _ (.file _) (by decide +kernel)
    apply FileTree.Proper.insert _ (.file _) (by decide +kernel)
    apply FileTree.Proper.insert _ (.file _) (by decide +kernel)
    exact .empty
  here := ⟨_, rfl⟩

theorem discover_sealedWorkshop :
    discover sealedWorkshop "/p" [] =
      .ok [["a.js"], ["broken.js"], ["lib", "b.js"], ["quiet.js"], ["sealed.js"]] := by
  apply discover_of_pairwise
  · decide +kernel
  · decide +kernel
  · decide +kernel

theorem skipped_leaves_no_trace_sealedWorkshop :
    sealedWorkshop.Proper ∧
    (sealedWorkshop.read? "/p/broken.js").isSome = true ∧
    sealedWorkshop.read? "/p/sealed.js" = none ∧
    ∃ build, run sealedWorkshop "/p" .standard = .ok build ∧
      (∀ name ∈ ["broken.js", "sealed.js"],
        Skips sealedWorkshop "/p" .standard (Discovery.pathOf "/p" [name]) ∧
        ¬ Discovery.ReadOnWalk sealedWorkshop "/p" (Discovery.pathOf "/p" [name]) ∧
        ∃ after, run (sealedWorkshop.delete (Discovery.pathOf "/p" [name])) "/p" .standard =
            .ok after ∧
          after.graph = build.graph ∧
          build.report = { after.report with
            files := after.report.files + 1
            skipped := after.report.skipped + 1 }) ∧
      ¬ Skips sealedWorkshop "/p" .standard "/p/quiet.js" ∧
      ∃ vertex ∈ build.graph.vertices, vertex.isModule = true ∧ vertex.name = "quiet" := by
  have hskips : ∀ name ∈ ["broken.js", "sealed.js"],
      Skips sealedWorkshop "/p" .standard (Discovery.pathOf "/p" [name]) := by
    have hnone : ∀ name ∈ ["broken.js", "sealed.js"],
        (script? sealedWorkshop .standard (Discovery.pathOf "/p" [name])).isNone = true := by
      decide +kernel
    exact fun name hname => skips_iff.mpr (Option.isNone_iff_eq_none.mp (hnone name hname))
  have hread : ∀ name ∈ ["broken.js", "sealed.js"],
      ¬ Discovery.ReadOnWalk sealedWorkshop "/p" (Discovery.pathOf "/p" [name]) := by
    decide +kernel
  have hquiet : ¬ Skips sealedWorkshop "/p" .standard "/p/quiet.js" := by
    rw [skips_iff, ← Option.isNone_iff_eq_none]
    decide +kernel
  have hrun : run sealedWorkshop "/p" .standard = .ok _ := run_of_discover discover_sealedWorkshop
  obtain ⟨found, hfound, hdelete, hmodule⟩ := skipped_leaves_no_trace hrun
  obtain rfl := Except.ok.inj (discover_sealedWorkshop.symm.trans hfound)
  have hmem : ∀ name ∈ ["broken.js", "sealed.js"],
      [name] ∈ [["a.js"], ["broken.js"], ["lib", "b.js"], ["quiet.js"], ["sealed.js"]] := by decide
  obtain ⟨vertex, hvertex, hisModule, hname⟩ := hmodule ["quiet.js"] (by decide) hquiet
  refine ⟨proper_sealedWorkshop, by decide +kernel, by decide +kernel, _, hrun, ?_, hquiet, vertex,
    hvertex, hisModule, hname.trans (by decide +kernel)⟩
  intro name hname
  exact ⟨hskips name hname, hread name hname, hdelete proper_sealedWorkshop [name]
    (hmem name hname) (hskips name hname) (hread name hname)⟩

/-- A project whose ignore file is a link to a script that cannot be parsed. -/
def linkedIgnore : FileSystem where
  tree := FileTree.empty
    |>.insert (.link "broken.js") ["p", ".gitignore"]
    |>.insert (.file "f()".toUTF8.toList) ["p", "b.js"]
    |>.insert (.file "b.js\nfunction (".toUTF8.toList) ["p", "broken.js"]
  here := []

/-- What a skipped file keeps out as an ignore file is back once it is deleted. -/
theorem run_linkedIgnore_depends_on_skipped :
    linkedIgnore.Proper ∧
    discover linkedIgnore "/p" [] = .ok [["broken.js"]] ∧
    Skips linkedIgnore "/p" .standard "/p/broken.js" ∧
    Discovery.ReadOnWalk linkedIgnore "/p" "/p/broken.js" ∧
    ∃ build after, run linkedIgnore "/p" .standard = .ok build ∧
      run (linkedIgnore.delete "/p/broken.js") "/p" .standard = .ok after ∧
      build.graph.vertices.toList = [] ∧
      after.graph.vertices.toList = [⟨"b", true, false⟩, ⟨"f", false, true⟩] := by
  have hproper : linkedIgnore.tree.Proper := by
    apply FileTree.Proper.insert _ (.file _) (by decide +kernel)
    apply FileTree.Proper.insert _ (.file _) (by decide +kernel)
    apply FileTree.Proper.insert _ (.link _) (by decide +kernel)
    exact .empty
  have hfound : discover linkedIgnore "/p" [] = .ok [["broken.js"]] := by
    apply discover_of_pairwise
    · decide +kernel
    · decide +kernel
    · decide +kernel
  have hleft : discover (linkedIgnore.delete "/p/broken.js") "/p" [] = .ok [["b.js"]] := by
    apply discover_of_pairwise
    · decide +kernel
    · decide +kernel
    · decide +kernel
  have hskips : Skips linkedIgnore "/p" .standard "/p/broken.js" := by
    rw [skips_iff, ← Option.isNone_iff_eq_none]
    decide +kernel
  have hread : Discovery.ReadOnWalk linkedIgnore "/p" "/p/broken.js" := by decide +kernel
  refine ⟨⟨hproper, _, rfl⟩, hfound, hskips, hread, _, _, run_of_discover hfound,
    run_of_discover hleft, ?_⟩
  decide +kernel

end Build

end ScriptGraph
