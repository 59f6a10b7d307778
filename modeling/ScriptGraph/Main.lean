import ScriptGraph.Command.Arguments
import ScriptGraph.Command.Disk

/-!
# The command line
-/

namespace ScriptGraph

def timedBuild (root : String) : IO (Except WalkError Build) := do
  let start ← IO.monoNanosNow
  let files ← Disk.files root
  let result ← IO.lazyPure fun _ => Build.project files root
  let stop ← IO.monoNanosNow
  let elapsed := (stop - start).toFloat / 1000000000.0
  return result.map fun build => { build with report := { build.report with elapsed := elapsed } }

def outcomeOf (arguments : List String) : IO Outcome := do
  match Command.ofArguments arguments with
  | .error stop => return stop.outcome
  | .ok command =>
    let bold ← (← IO.getStdout).isTty
    return command.finish bold (← timedBuild command.root)

end ScriptGraph

def main (arguments : List String) : IO UInt32 := do
  let outcome ← ScriptGraph.outcomeOf arguments
  IO.print outcome.out
  IO.eprint outcome.err
  return outcome.code.toUInt32
