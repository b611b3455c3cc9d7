import AgentConvert.CommandLine.Run

/-!
# The program

Converts a configuration, as the arguments ask for.
-/

namespace AgentConvert.CommandLine

/-- What is said about a file that cannot be read or written. -/
def reasonOf (e : IO.Error) : String :=
  match e with
  | .noFileOrDirectory .. => FileFault.notFound.message
  | e => toString e

/-- The values of the variables that some bytes refer to. -/
def variablesIn (bytes : ByteArray) : IO (List (String × String)) := do
  let names := ((String.fromUTF8? bytes).map Environment.names).getD []
  names.eraseDups.filterMapM fun name => do
    return (← IO.getEnv name).map fun value => (name, value)

/-- Carries out actions; a file that cannot be written ends the run. -/
def carryOut (exitCode : Nat) : List Action → IO Nat
  | [] => return exitCode
  | .say text :: rest => do
    (← IO.getStderr).putStr text
    carryOut exitCode rest
  | .print document :: rest => do
    (← IO.getStdout).write document
    carryOut exitCode rest
  | .write path content complaint :: rest => do
    match ← (IO.FS.writeBinFile path content).toBaseIO with
    | .ok _ => carryOut exitCode rest
    | .error e =>
      (← IO.getStderr).putStr ("error: " ++ complaint ++ ": " ++ reasonOf e ++ "\n")
      return 1

/-- The plan of a run. -/
def planOf (arguments : List String) : IO Plan := do
  match Request.ofArguments arguments with
  | .error fault => return .ofUsageFault fault
  | .ok .version => return .version
  | .ok .help => return .help
  | .ok (.convert o) =>
    match ← (IO.FS.readBinFile o.file).toBaseIO with
    | .error e => return .unreadable o (reasonOf e)
    | .ok bytes =>
      let values ← variablesIn bytes
      return .ofBytes (fun name => (values.find? (·.1 == name)).map Prod.snd) o bytes

end AgentConvert.CommandLine

def main (arguments : List String) : IO UInt32 := do
  let plan ← AgentConvert.CommandLine.planOf arguments
  return (← AgentConvert.CommandLine.carryOut plan.exitCode plan.actions).toUInt32
