import Mathlib.Data.List.Perm.Basic
import ScriptGraph.Proofs.Path.Relative
import ScriptGraph.Proofs.Project.Skipping
import ScriptGraph.Proofs.Script.Exactness

/-!
# Requirements meet their modules

The files of a project and the texts that scripts hand to loaders are named by
one rule. The requirements of a built graph are, one for one, the texts in the
calls of loaders that the scans pass; and each text that spells the path of a
file which was not skipped leads to the vertex of that file's module.
-/

namespace ScriptGraph

/-! ## Requests -/

/-- A text that a script hands to a loader, with the module that asks for it. -/
structure Request where
  module : String
  literal : String

def Request.edge (request : Request) : NamedEdge :=
  ⟨request.module, Path.moduleName request.literal, .requirement⟩

namespace Job

/-- The requests of a job: the texts in the calls of loaders that its scan passes, in order. -/
def requests (job : Job) : List Request :=
  (job.func.visits.takeWhile fun visit => (Visit.stop? job.options visit).isNone).flatMap
    fun visit => (visit.2.requiredPaths job.options.loaders).map (.mk job.module)

theorem filter_edges (job : Job) :
    (job.edges.filter fun edge => edge.relation = .requirement) =
      job.requests.map Request.edge := by
  have hown : (job.func.ownReferences.filter
      fun reference => decide (reference.relation = .requirement)) = [] := by
    rw [Func.ownReferences, Reference.filter_map_mk fun relation => relation = .requirement]
    rfl
  have hnoted : (job.references.filter
      fun reference => decide (reference.relation = .requirement)) =
        (job.func.visits.takeWhile fun visit => (Visit.stop? job.options visit).isNone).flatMap
          fun visit => (visit.2.requiredPaths job.options.loaders).map
            fun path => .mk .requirement (Path.moduleName path) := by
    rw [references, job.func.toList_references, List.filter_append, hown, List.nil_append,
      Visit.noted, List.filter_flatMap]
    simp only [Node.filter_references fun relation => relation = .requirement]
    simp [Node.told, Function.comp_def]
  rw [edges, List.filter_map]
  change List.map _ (job.references.filter
    fun reference => decide (reference.relation = .requirement)) = _
  rw [hnoted, requests, List.map_flatMap, List.map_flatMap]
  simp only [List.map_map]
  rfl

end Job

namespace Graph.Holds

variable {graph : Graph} {jobs : List Job}

/-- The requirements of a graph are the requests of its jobs, one for one. -/
theorem exists_requirements (h : graph.Holds jobs) :
    ∃ edges : List Edge,
      edges.Perm (graph.edges.toList.filter fun edge => edge.relation = .requirement) ∧
      edges.map graph.nameEdge = (jobs.flatMap Job.requests).map Request.edge := by
  have hperm := h.edges_perm.filter fun edge => edge.relation = .requirement
  rw [List.filter_flatMap, namedEdges, List.filter_map] at hperm
  simp only [Job.filter_edges, ← List.map_flatMap] at hperm
  -- The named edges agree up to order; the same order is found for the edges themselves.
  have hcomp := congrFun (congrFun (List.eq_map_comp_perm graph.nameEdge)
    ((jobs.flatMap Job.requests).map Request.edge))
    (graph.edges.toList.filter fun edge => edge.relation = .requirement)
  obtain ⟨edges, hedges, harranged⟩ := hcomp.mpr hperm.symm
  exact ⟨edges, harranged, hedges.symm⟩

theorem target_of_request (h : graph.Holds jobs) {edges : List Edge}
    (hperm : edges.Perm (graph.edges.toList.filter fun edge => edge.relation = .requirement))
    {requests : List Request} (hedges : edges.map graph.nameEdge = requests.map Request.edge)
    {request : Request} {edge : Edge} (hpair : (request, edge) ∈ requests.zip edges) {id : Nat}
    (hid : graph.lookup? (Path.moduleName request.literal) = some id) : edge.target = id := by
  have hnamed : List.Forall₂ (fun request edge => request.edge = graph.nameEdge edge)
      requests edges := by
    have hsame : List.Forall₂ (· = ·) (requests.map Request.edge) (edges.map graph.nameEdge) := by
      rw [hedges]
      exact List.forall₂_refl _
    simpa only [List.forall₂_map_left_iff, List.forall₂_map_right_iff] using hsame
  have hedge : graph.nameOf edge.target = Path.moduleName request.literal :=
    (congrArg NamedEdge.target ((List.forall₂_iff_zip.mp hnamed).2 hpair)).symm
  have hmem := (List.mem_filter.mp (hperm.mem_iff.mp (List.of_mem_zip hpair).2)).1
  have hlt := (h.wellFormed.ends_lt edge (Array.mem_toList_iff.mp hmem)).2
  exact (h.wellFormed.nameOf_eq_iff (h.wellFormed.nameAt?_of_lookup? hid) hlt).mp hedge

end Graph.Holds

namespace Build

/-- Names of modules hold neither slashes nor dots and are their own names. Directories before a
path, slashes behind it, and what follows a dot of its last segment do not change the name it
gives. So whatever a build returns, with one worker or with many: its requirements are, one for
one, the texts that the scans hand to loaders, and those which spell the path of a file that was
not skipped, its extension left off, end at the vertex of this file's module. The extension may
begin at the last dot of the path or at any dot behind a character of the file's name. -/
theorem requirements_meet_modules :
    (∀ path : String,
      '/' ∉ (Path.moduleName path).toList ∧ '.' ∉ (Path.moduleName path).toList ∧
      Path.moduleName (Path.moduleName path) = Path.moduleName path) ∧
    (∀ directory path : String, (∃ c ∈ path.toList, c ≠ '/') →
      Path.moduleName (directory ++ "/" ++ path) = Path.moduleName path) ∧
    (∀ path : String, Path.moduleName (path ++ "/") = Path.moduleName path) ∧
    (∀ path extension : String, path.toList.getLast? ≠ some '/' → '/' ∉ extension.toList →
      Path.moduleName (path ++ "." ++ extension) = Path.moduleName path) ∧
    ∀ files root config,
      (∀ build, run files root config = .ok build → Possible files root config build) ∧
      ∀ build, Possible files root config build → ∃ found edges,
        discover files root (config.exclude.getD []) = .ok found ∧
        edges.Perm (build.graph.edges.toList.filter fun edge => edge.relation = .requirement) ∧
        edges.map build.graph.nameEdge =
          ((jobs files root config.scan found).flatMap Job.requests).map Request.edge ∧
        ∀ names ∈ found, ¬ Skips files root config.scan (Discovery.pathOf root names) →
          ∃ (id : Nat) (vertex : Vertex),
            build.graph.lookup?
              (Path.moduleName (Path.relative root (Discovery.pathOf root names))) = some id ∧
            build.graph.vertices[id]? = some vertex ∧ vertex.isModule = true ∧
            ∀ front extension : String,
              Path.relative root (Discovery.pathOf root names) = front ++ "." ++ extension →
              '/' ∉ extension.toList →
              ('.' ∉ extension.toList ∨ front ≠ "" ∧ front.toList.getLast? ≠ some '/') →
              ∀ request edge,
                (request, edge) ∈
                  ((jobs files root config.scan found).flatMap Job.requests).zip edges →
                Path.Spells front request.literal → edge.target = id := by
  refine ⟨?_, fun directory path => Path.moduleName_below directory,
    Path.moduleName_append_slash, fun path extension => Path.moduleName_append_dot,
    fun files root config => ⟨fun build => possible_of_run, ?_⟩⟩
  · intro path
    rw [Path.toList_moduleName]
    exact ⟨Path.slash_not_mem_stem _, Path.dot_not_mem_stem _, Path.moduleName_moduleName path⟩
  · rintro build ⟨found, schedule, hfound, hdone, rfl⟩
    have hholds := Pool.holds_of_isDone hdone
    obtain ⟨edges, hperm, hedges⟩ := hholds.exists_requirements
    refine ⟨found, edges, hfound, hperm, hedges, ?_⟩
    intro names hnames hskips
    rw [skips_iff, ← ne_eq, Option.ne_none_iff_exists'] at hskips
    obtain ⟨func, hfunc⟩ := hskips
    obtain ⟨id, vertex, hid, hvertex, hmodule⟩ :=
      hholds.exists_module (mem_jobs.mpr ⟨names, hnames, func, hfunc, rfl⟩)
    refine ⟨id, vertex, hid, hvertex, hmodule, ?_⟩
    intro front extension hpath hslash hcut request edge hpair hspells
    have hfront : front ≠ "" ∧ front.toList.getLast? ≠ some '/' := by
      rcases hcut with hdot | hfront
      · exact Path.front_of_extension (isScript_of_discover hfound hnames) hpath hslash hdot
      · exact hfront
    refine hholds.target_of_request hperm hedges hpair ?_
    rw [Path.moduleName_of_spells hfront.1 hfront.2 hspells,
      ← Path.moduleName_append_dot hfront.2 hslash, ← hpath]
    exact hid

/-- The texts by which the main script of a project asks for one file. -/
def spellings : List String := ["../lib/util.view", "lib/util.view.min", "x/lib/util.view//"]

/-- A project whose main script asks for one file three times, each time by another spelling. -/
def library : FileSystem where
  tree := FileTree.empty
    |>.insert (.file (some [])) ["p", "lib", "util.view.js"]
    |>.insert (.file ("require(['" ++ "','".intercalate spellings ++ "'],f)").toUTF8.toList)
      ["p", "main.js"]
  here := []

theorem discover_library :
    discover library "/p" [] = .ok [["lib", "util.view.js"], ["main.js"]] := by
  apply discover_of_pairwise
  · decide +kernel
  · decide +kernel
  · decide +kernel

/-- The loader and the three texts, if that is all that a script hands to a loader. -/
def callOfThree? : List Stmt → Option (String × List String)
  | [.eval (.call (.ident loader) [.array [.string a, .string b, .string c], .ident _])] =>
    some (loader, [a, b, c])
  | _ => none

theorem exists_script_util :
    ∃ func, script? library .standard "/p/lib/util.view.js" = some func ∧ func.body = [] := by
  have hread : (script? library .standard "/p/lib/util.view.js").map
      (fun func => func.body.isEmpty) = some true := by
    decide +kernel
  obtain ⟨func, hfunc, hbody⟩ := Option.map_eq_some_iff.mp hread
  exact ⟨func, hfunc, List.isEmpty_iff.mp hbody⟩

theorem exists_script_main :
    ∃ func callback, script? library .standard "/p/main.js" = some func ∧ func.body =
      [.eval (.call (.ident "require") [.array (spellings.map .string), .ident callback])] := by
  have hread : ((script? library .standard "/p/main.js").bind fun func =>
      callOfThree? func.body) = some ("require", spellings) := by
    decide +kernel
  obtain ⟨func, hfunc, hcall⟩ := Option.bind_eq_some_iff.mp hread
  unfold callOfThree? at hcall
  split at hcall
  · rename_i loader a b c callback hbody
    obtain ⟨rfl, hspellings⟩ := Prod.mk.inj (Option.some.inj hcall)
    refine ⟨func, callback, hfunc, ?_⟩
    rw [hbody, ← hspellings]
    rfl
  · cases hcall

def wanted : List Request :=
  (jobs library "/p" .standard [["lib", "util.view.js"], ["main.js"]]).flatMap Job.requests

theorem map_literal_wanted : wanted.map Request.literal = spellings := by
  obtain ⟨_, hutil, hempty⟩ := exists_script_util
  obtain ⟨_, _, hmain, hcall⟩ := exists_script_main
  have hpaths : [["lib", "util.view.js"], ["main.js"]].map (Discovery.pathOf "/p") =
      ["/p/lib/util.view.js", "/p/main.js"] := by
    decide +kernel
  simp only [List.map_cons, List.map_nil, List.cons.injEq, and_true] at hpaths
  simp only [wanted, jobs, plan, job?, List.map_cons, List.map_nil, hpaths, hutil, hmain,
    Option.map_some, List.filterMap_cons, List.filterMap_nil, id]
  simp [Job.requests, Func.visits, Func.visitsBelow, hempty, hcall,
    Node.visits_eq _ (.stmt (.eval _)), Node.visits_eq _ (.expr (.call _ _)),
    Node.visits_eq _ (.expr (.array _)), Node.visits_eq _ (.expr (.string _)),
    Node.visits_eq _ (.expr (.ident _)), Node.children, Visit.stop?, ScanOptions.standard,
    standardDepth, Node.unsupportedKind?, Node.requiredPaths, Expr.identName?, Expr.items,
    Expr.text?, spellings]

/-- The three texts lead to one file, whose name holds a dot before its extension. -/
theorem requirements_meet_modules_library :
    Path.moduleName ("lib" ++ "/" ++ "util") = Path.moduleName "util" ∧
    Path.moduleName ("util" ++ "." ++ "view") = Path.moduleName "util" ∧
    ¬ Skips library "/p" .standard "/p/lib/util.view.js" ∧
    Path.relative "/p" "/p/lib/util.view.js" = "lib/util.view" ++ "." ++ "js" ∧
    (∀ text ∈ spellings, Path.Spells "lib/util.view" text) ∧
    wanted.map Request.literal = spellings ∧
    ∃ build edges id, run library "/p" .standard = .ok build ∧
      edges.Perm (build.graph.edges.toList.filter fun edge => edge.relation = .requirement) ∧
      edges.map build.graph.nameEdge = wanted.map Request.edge ∧
      build.graph.lookup? "util" = some id ∧
      ∀ request edge, (request, edge) ∈ wanted.zip edges → edge.target = id := by
  obtain ⟨-, hbelow, -, hdot, hbuild⟩ := requirements_meet_modules
  have hpath : Discovery.pathOf "/p" ["lib", "util.view.js"] = "/p/lib/util.view.js" := by
    decide +kernel
  have hskips : ¬ Skips library "/p" .standard "/p/lib/util.view.js" := by
    rw [skips_iff, ← Option.isNone_iff_eq_none]
    decide +kernel
  have hrelative : Path.relative "/p" "/p/lib/util.view.js" = "lib/util.view" ++ "." ++ "js" := by
    decide +kernel
  have hspells : ∀ text ∈ spellings, Path.Spells "lib/util.view" text := by
    simp only [spellings, List.forall_mem_cons, List.not_mem_nil, false_implies, implies_true,
      and_true]
    refine ⟨⟨_, .inr ⟨"..", rfl⟩, .inl ⟨0, by decide⟩⟩,
      ⟨_, .inl rfl, .inr ⟨"min", by decide, by decide⟩⟩,
      ⟨_, .inr ⟨"x", rfl⟩, .inl ⟨2, by decide⟩⟩⟩
  have hfiles : discover library "/p" (Config.standard.exclude.getD []) = _ := discover_library
  have hrun := run_of_discover hfiles
  obtain ⟨found, edges, hfound, hperm, hedges, hmeet⟩ :=
    (hbuild library "/p" .standard).2 _ ((hbuild library "/p" .standard).1 _ hrun)
  obtain rfl := Except.ok.inj (hfiles.symm.trans hfound)
  obtain ⟨id, -, hid, -, -, htargets⟩ := hmeet ["lib", "util.view.js"] (by decide) (hpath ▸ hskips)
  have hname : Path.moduleName (Path.relative "/p" "/p/lib/util.view.js") = "util" := by
    decide +kernel
  rw [hpath] at hid htargets
  rw [hname] at hid
  refine ⟨hbelow "lib" "util" ⟨'u', by decide, by decide⟩,
    hdot "util" "view" (by decide) (by decide), hskips, hrelative, hspells, map_literal_wanted,
    _, edges, id, hrun, hperm, hedges, hid, ?_⟩
  intro request edge hpair
  refine htargets "lib/util.view" "js" hrelative (by decide) (.inl (by decide)) request edge hpair
    (hspells _ ?_)
  rw [← map_literal_wanted]
  exact List.mem_map_of_mem (List.of_mem_zip hpair).1

end Build

end ScriptGraph
