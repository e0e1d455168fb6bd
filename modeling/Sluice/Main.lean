import Sluice.CommandLine.Run

/-
  The program: it runs a command line, prints what the run shows, and exits with its status. There
  are no sockets here to listen on, so a run that gets as far as serving fails to bind its address.
-/

namespace Sluice.CommandLine

/-- What there is at a path of the file system. -/
def readFile (path : String) : IO FileState := do
  try
    let content ← IO.FS.readBinFile path
    return .content content.toList
  catch
    | .noFileOrDirectory .. => return .absent
    | _ => return .unreadable (.ofErrno 5)

/-- The environment variables that a run looks at. -/
def environment : IO Environment := do
  let names := filterVariable :: Setting.all.map Setting.variableName
  let values ← names.mapM fun name => return (name, ← IO.getEnv name)
  return fun name => (values.lookup name).join

/-- The files that a command line may name. -/
def surroundings (words : List String) : IO Surroundings := do
  let path := match read words with
    | .ok (.run a) => a.config.getD Arguments.defaultConfig
    | _ => Arguments.defaultConfig
  let state ← readFile path
  let environment ← environment
  return { file := fun name => if name = path then state else .absent, environment }

/-- Prints what a run shows. -/
def printReport (r : Report) : IO Unit := do
  for line in r.output do
    IO.println line.text
  if r.exit = usageExit then IO.eprintln ("\n".intercalate r.failure)
  else IO.eprint (failureText r.failure)

/-- Runs a command line. -/
def run (words : List String) : IO Nat := do
  let report := match start (← surroundings words) words with
    | .finished report => report
    | .serve launch => launch.notBound (.ofErrno 95)
  printReport report
  return report.exit

end Sluice.CommandLine

def main (args : List String) : IO UInt32 := do
  return UInt32.ofNat (← Sluice.CommandLine.run args)
