import AdmissionControl.Log.Filter
import AdmissionControl.Serving
import AdmissionControl.Settings.EnvironmentFile

/-!
# The command line

The program takes its settings from the environment and from a file of variables, refuses settings
that cannot be used, and starts a server. A start that fails ends the program with status one and
one line on standard error.
-/

namespace AdmissionControl.CommandLine

/-- What the program has shown when its start is over. -/
structure Outcome where
  /-- The exit status, if the program has ended. -/
  status : Option UInt32
  standardError : String
  /-- The lines of the log. -/
  log : List String
deriving DecidableEq

def failed (problem : String) (log : List String) : Outcome where
  status := some 1
  standardError := "Error: " ++ problem ++ "\n"
  log

/-- The filter of the log: the one in the environment if it makes sense, else the level in the
settings for this program. -/
def filter (environment : EnvironmentFile.Variables) (settings : Settings) : LogFilter :=
  match (environment "RUST_LOG").bind LogFilter.ofText? with
  | some filter => filter
  | none =>
      { directives :=
          (LogFilter.parts ("ratelimiter=" ++ settings.logLevel ++ ",tower_http=debug")).filterMap
            LogFilter.directive? }

def startingEvents (settings : Settings) : List LogEvent :=
  [Serving.said "ratelimiter" "Starting rate limiter service",
    Serving.said "ratelimiter"
      ("Configuration: bind_addr=" ++ settings.bindAddress.text ++ ", redis_url="
        ++ settings.storeUrl)]

/-- Start the program in an environment, with a file of variables, over a store. -/
def start (inherited : EnvironmentFile.Variables) (file : String)
    (deployment : Remote.Deployment) : Outcome :=
  let environment := EnvironmentFile.load inherited file
  match Settings.load environment with
  | .error unreadable => failed ("Failed to load configuration: " ++ unreadable.message) []
  | .ok settings =>
      match settings.validate with
      | .error fault => failed fault.message []
      | .ok () =>
          let shown (events : List LogEvent) : List String :=
            (events.filter (filter environment settings).shows).map (·.line)
          let before := startingEvents settings
          match Serving.connect settings deployment with
          | (.done (.error cause), events, _) =>
              failed ("Failed to create server: " ++ (Fault.remote cause).message)
                (shown (before ++ events))
          | (.done (.ok ()), events, _) =>
              { status := none
                standardError := ""
                log := shown (before ++ events ++ Serving.listeningEvents settings) }
          | (.silence, events, _) =>
              { status := none, standardError := "", log := shown (before ++ events) }

end AdmissionControl.CommandLine
