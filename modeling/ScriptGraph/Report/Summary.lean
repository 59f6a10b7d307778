import ScriptGraph.Graph.Stats

/-!
# The account of a run
-/

namespace ScriptGraph

/-- What became of the files of a run. -/
structure RunReport where
  /-- The files that were found. -/
  files : Nat
  /-- The files that were scanned to their end. -/
  scanned : Nat
  /-- The files that could not be read or parsed. -/
  skipped : Nat
  /-- The files whose scan ended early. -/
  aborted : Nat
  /-- The edges that were added. -/
  relations : Nat
  /-- The time taken, in seconds. -/
  elapsed : Float
  deriving Inhabited

structure Printed where
  out : String
  err : String
  deriving DecidableEq, Repr, Inhabited

namespace RunReport

def toJson (report : RunReport) (stats : Stats) : Json :=
  .obj [
    ("file_count", .nat report.files),
    ("scanned", .nat report.scanned),
    ("skipped", .nat report.skipped),
    ("aborted", .nat report.aborted),
    ("relations", .nat report.relations),
    ("elapsed_secs", .real report.elapsed),
    ("graph", stats.toJson)]

/-- The account in words; files that were not scanned to their end are told on the error channel. -/
def describe (report : RunReport) (stats : Stats) : Printed where
  out :=
    "Scanned " ++ toString report.files ++ " files in " ++ Decimal.fixed 2 report.elapsed ++
      "s\n  " ++ toString stats.vertices ++ " vertices (" ++ toString stats.modules ++
      " modules, " ++ toString stats.symbols ++ " symbols)\n  " ++ toString stats.edges ++
      " relations: " ++ ", ".intercalate (stats.byRelation.map fun (relation, count) =>
        toString count ++ " " ++ relation.label) ++ "\n"
  err :=
    (if 0 < report.skipped then
      "  " ++ toString report.skipped ++ " files skipped (read or parse errors)\n"
    else "") ++
    (if 0 < report.aborted then
      "  " ++ toString report.aborted ++
        " files aborted on unsupported syntax (relations may be partial)\n"
    else "")

def print (report : RunReport) (stats : Stats) (asJson : Bool) : Printed :=
  if asJson then ⟨(report.toJson stats).render ++ "\n", ""⟩
  else report.describe stats

end RunReport

end ScriptGraph
