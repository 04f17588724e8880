import AdmissionControl.CommandLine

/-!
# The program

Reads the environment and the file of variables in the working directory, starts, and shows what the
start came to. The program has no network of its own, so no route leads from it to a store.
-/

namespace AdmissionControl.Main

def variableNames : List String :=
  ["BIND_ADDR", "REDIS_URL", "IP_RATE_LIMIT", "TOKEN_RATE_LIMIT", "BLOCK_DURATION",
    "RATE_LIMIT_WINDOW_MS", "STORE_TIMEOUT_MS", "LOG_LEVEL", "RUST_LOG"]

def readEnvironment : List String → IO EnvironmentFile.Variables
  | [] => return fun _ => none
  | name :: rest => do
      let value ← IO.getEnv name
      let others ← readEnvironment rest
      return fun other => if other = name then value else others other

/-- The text of the file of variables; empty where there is none. -/
def readFile : IO String := do
  try IO.FS.readFile ".env" catch _ => return ""

end AdmissionControl.Main

open AdmissionControl in
/-- Start, show what came of it, and end with its status. -/
def main : IO UInt32 := do
  let environment ← Main.readEnvironment Main.variableNames
  let file ← Main.readFile
  let outcome := CommandLine.start environment file (.new .unreachable [])
  outcome.log.forM IO.println
  IO.eprint outcome.standardError
  return outcome.status.getD 0
