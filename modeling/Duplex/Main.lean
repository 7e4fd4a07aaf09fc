import Duplex.CommandLine
import Duplex.Json.Writer

-- The command line: works out from flags, settings file and environment what the echo server would
-- run with, and prints it.

namespace Duplex.CommandLine

def readEnvironment : IO Settings.Environment := do
  let mut values := []
  for name in Settings.Environment.names do
    if let some value ← IO.getEnv name then
      values := (name, value) :: values
  return .ofList values

-- The bytes at a path, if there is a file.
def readFile (path : String) : IO (Option Bytes) := do
  try
    let bytes ← IO.FS.readBinFile path
    return some bytes.data.toList
  catch
    | .noFileOrDirectory .. => return none
    | e => throw e

def Failure.message : Failure → String
  | .arguments e => e.name
  | .settings .unreadableFile => "the settings file cannot be read"
  | .settings e => (e.message?).getD "the settings file does not hold settings"

def report (failure : Failure) : IO UInt32 := do
  IO.eprintln failure.message
  return 1

def start (args : List String) : IO UInt32 := do
  let env ← readEnvironment
  let file ←
    match read args with
    | .ok flags => readFile (flags.filePath env)
    | .error _ => pure none
  match plan args env fun _ => file with
  | .ok plan =>
    IO.println plan.settings.toJson.render
    return 0
  | .error failure => report failure

-- A file that is there and cannot be read is a failure like any other.
def run (args : List String) : IO UInt32 := do
  try
    start args
  catch _ =>
    report (.settings .unreadableFile)

end Duplex.CommandLine

def main (args : List String) : IO UInt32 :=
  Duplex.CommandLine.run args
