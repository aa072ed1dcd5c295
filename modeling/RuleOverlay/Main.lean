import RuleOverlay.Inspect
/-! # The inspector's command line

Reads the configuration variables and the configured rules file, runs `Inspect.run`, and
prints its lines. A watching run then stays up, refreshing on its interval, until it is
stopped.
-/
namespace RuleOverlay

namespace Cli

def configVars : List String :=
  [EngineConfig.rulesFileVar, EngineConfig.treeNameVar, EngineConfig.refreshIntervalVar,
    EngineConfig.shutdownTimeoutVar]

def readFile (path : String) : IO (Except String Bytes) := do
  try
    return .ok (← IO.FS.readBinFile path).toList
  catch e =>
    return .error (toString e)

partial def stayUp (millis : Nat) : IO Unit := do
  IO.sleep (UInt32.ofNat (min millis 4000000000))
  stayUp millis

end Cli

end RuleOverlay

open RuleOverlay in
def main (args : List String) : IO UInt32 := do
  let env ← Cli.configVars.mapM fun v => return (v, ← IO.getEnv v)
  let lookup : String → Option String := fun v => (env.lookup v).join
  let (path, interval) := match EngineConfig.fromLookup lookup with
    | .ok c => (c.rulesFile, c.refreshInterval.millis)
    | .error _ => ("", 1000)
  let contents ← Cli.readFile path
  let disk : Disk := fun p => if p == path then contents else .error "No such file or directory"
  let report := Inspect.run lookup args disk ⟨0, 0⟩
  let stdout ← IO.getStdout
  let stderr ← IO.getStderr
  for line in report.stdout do
    stdout.putStrLn line
  for line in report.stderr do
    stderr.putStrLn line
  stdout.flush
  if report.watch.isSome then
    Cli.stayUp (max interval 1)
  return UInt32.ofNat report.status
