import ScriptGraph.Project.Config
import ScriptGraph.Project.Discovery
import ScriptGraph.Report.Summary
import ScriptGraph.Script.OfTree
import ScriptGraph.Script.Scan

/-!
# Building the graph of a project

The scripts of a project are scanned one after another into one graph. A
script that cannot be parsed leaves no trace in it; one whose scan ends early
leaves what was met by then.
-/

namespace ScriptGraph

/-- A graph with the report on how it was built. -/
structure Build where
  graph : Graph
  report : RunReport
  deriving Inhabited

namespace Build

def start (count : Nat) : Build := ⟨.empty, ⟨count, 0, 0, 0, 0, 0.0⟩⟩

/-- Counts a script that could not be read or parsed. -/
def skip (build : Build) : Build :=
  { build with report := { build.report with skipped := build.report.skipped + 1 } }

def add (build : Build) (options : ScanOptions) (path : String) (func : Func) : Build :=
  let (outcome, graph) := build.graph.scan path options func
  let report := { build.report with relations := build.report.relations + outcome.references.size }
  match outcome.result with
  | .ok _ => ⟨graph, { report with scanned := report.scanned + 1 }⟩
  | .error _ => ⟨graph, { report with aborted := report.aborted + 1 }⟩

def visit (files : FileSystem) (root : String) (options : ScanOptions) (build : Build)
    (path : String) : Build :=
  match files.read? path with
  | none => build.skip
  | some bytes =>
    match Func.ofFile path bytes options.maxDepth with
    | .error _ => build.skip
    | .ok func => build.add options (Path.relative root path) func

def run (files : FileSystem) (root : String) (config : Config) : Except WalkError Build := do
  let found ← discover files root (config.exclude.getD [])
  let paths := found.map (Discovery.pathOf root)
  return paths.foldl (visit files root config.scan) (start found.length)

def project (files : FileSystem) (root : String) : Except WalkError Build :=
  run files root (Config.load files root)

end Build

end ScriptGraph
