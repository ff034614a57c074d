import FleetSelect.CommandLine

namespace FleetSelect

def readFile? (path : String) : IO (Option ByteArray) :=
  try some <$> IO.FS.readBinFile path catch _ => pure none

def readVariables : IO (String → Option String) := do
  let level ← IO.getEnv Settings.logLevelVariable
  let pretty ← IO.getEnv Settings.prettyVariable
  return fun key =>
    if key = Settings.logLevelVariable then level
    else if key = Settings.prettyVariable then pretty
    else none

end FleetSelect

open FleetSelect

def main (words : List String) : IO UInt32 := do
  let setting? ← readVariables
  let content ← match CommandLine.read words with
    | .ok args => readFile? args.inventory
    | .error _ => pure none
  let outcome := CommandLine.run { setting?, file? := fun _ => content } words
  IO.print outcome.output
  IO.eprint outcome.notice
  return outcome.status.toUInt32
