import Std.Time.DateTime
import SymbolReference.Cli.Run
import SymbolReference.Log.Stamp

namespace SymbolReference.Cli

/-- The value of each variable that is set. -/
def readVariables (names : List String) : IO (List (String × String)) :=
  names.filterMapM fun name => do
    return (← IO.getEnv name).map fun value => (name, value)

/-- The text of each file that can be read. -/
def readFiles (paths : List String) : IO (List (String × String)) :=
  paths.filterMapM fun path : String => do
    try
      return some (path, ← IO.FS.readFile path)
    catch _ => return none

def writeFile (path text : String) : IO Unit := do
  IO.FS.createDirAll (parentPath (normalPath path))
  IO.FS.writeFile path text

/-- The message about settings that cannot be loaded. -/
def configMessage : ConfigError → String
  | .rejected problems =>
    String.intercalate "\n" (problems.map fun p => p.setting.text ++ ": " ++ p.misfit.message)
  | .fault f | .rejectedFile f _ => f.message
  | .nonTextKey => "keywords must be strings"
  | .repeated function argument => repeatedMessage function argument
  | .lookup e => e.message
  | .number e => e.message
  | .yaml e => e.message
  | .file e => e.message

/-- The message about an error that ends a run. -/
def crashMessage : Crash → String
  | .config e => configMessage e
  | .level e => e.message
  | .inspect e => e.message
  | .file e => e.message
  | .markup e => e.message
  | .number e => e.message
  | .cut e => e.message

end SymbolReference.Cli

open SymbolReference

/-- Run the command line. -/
def main (args : List String) : IO UInt32 := do
  let out ← IO.getStdout
  let err ← IO.getStderr
  let environment ← Cli.readVariables Cli.variableNames
  let files := Files.ofList (← Cli.readFiles (envFileName :: Cli.namedFiles args))
  let input ← if Cli.readsInput args then (← IO.getStdin).readToEnd else pure ""
  let now ← Std.Time.Timestamp.now
  let scene : Cli.Scene := {
    surroundings := { environment := Mapping.ofList environment, files }
    input
    stamp := String.ofList (Log.stamp (now.toNanosecondsSinceUnixEpoch.val.toNat / 1000))
    onTerminal := ← err.isTty }
  let outcome := Cli.run scene args
  for notice in outcome.notices do
    match notice with
    | .log line => err.putStrLn line.write
    | .text s => err.putStr s
  out.putStr outcome.output
  for (path, text) in outcome.files.changedSince files do
    Cli.writeFile path text
  if let some crash := outcome.crash then
    err.putStrLn (Cli.crashMessage crash)
  return outcome.exitCode.toUInt32
