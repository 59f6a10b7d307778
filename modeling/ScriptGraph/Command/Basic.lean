import ScriptGraph.Export.Basic
import ScriptGraph.Graph.Show
import ScriptGraph.Graph.Stats
import ScriptGraph.Pattern.Parser
import ScriptGraph.Project.Build
import ScriptGraph.Report.Listing
import ScriptGraph.Report.Summary

/-!
# Commands

Each command builds the graph of a project first, and then prints something
about it.
-/

namespace ScriptGraph

inductive Query where
  | summary (asJson : Bool)
  | views (pattern : String) (selection : List Relation) (caseless : Bool) (format : ListingFormat)
  | stats (format : ListingFormat)
  | dump (format : ExportFormat) (params : ExportChoice)
  deriving Inhabited

structure Command where
  root : String
  query : Query
  deriving Inhabited

/-- What a run leaves: its exit code and what it prints. -/
structure Outcome where
  code : Nat
  out : String
  err : String
  deriving DecidableEq, Repr, Inhabited

namespace Outcome

def success (out : String) : Outcome := ⟨0, out, ""⟩

def failure (err : String) : Outcome := ⟨1, "", err⟩

end Outcome

def WalkError.report (error : WalkError) : String :=
  "Error: " ++ error.message ++ "\n\nCaused by:\n    " ++ error.cause ++ "\n"

def endLine (text : String) : String :=
  if text.toList.getLast? == some '\n' then text else text ++ "\n"

/-- Answers a query about a graph that was built; names of tables are bold where there is bold
type. -/
def Build.answer (build : Build) (bold : Bool) : Query → Outcome
  | .summary asJson =>
    let printed := build.report.print build.graph.stats asJson
    ⟨0, printed.out, printed.err⟩
  | .views text selection caseless format =>
    match Pattern.ofText? text caseless with
    | none => .failure ("Error: " ++ Pattern.invalidMessage text ++ "\n")
    | some pattern =>
      match build.graph.views pattern.isIn selection with
      | [] => .failure ("no vertex matches '" ++ text ++ "'\n")
      | found => .success (Listing.views format bold found)
  | .stats format => .success (Listing.stats format build.graph.stats)
  | .dump format params => .success (endLine (build.graph.exportAs format params).content)

def Command.finish (command : Command) (bold : Bool) : Except WalkError Build → Outcome
  | .error error => .failure error.report
  | .ok build => build.answer bold command.query

def Command.run (command : Command) (files : FileSystem) : Outcome :=
  command.finish false (Build.project files command.root)

end ScriptGraph
