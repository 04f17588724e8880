import AdmissionControl.Admission.Service
import AdmissionControl.Http.Application
import AdmissionControl.Remote.Adapter
import AdmissionControl.Settings

/-!
# A server's life

A server connects to its store, listens, answers requests until it is told to stop, and gives its
store up. What it logs at each of these points is stated here; requests in between are handled by
the application.
-/

namespace AdmissionControl

def Service.ofSettings (settings : Settings) : Service where
  limits := settings.limits
  timeout := some settings.storeTimeout

namespace Serving

/-- How a server is told to stop. -/
inductive Signal where
  | interrupt
  | terminate
deriving DecidableEq

/-- The part of the program that logs about the server. -/
def target : String := "ratelimiter::server"

def said (target message : String) : LogEvent where
  level := .info
  target
  message
  fields := []

def listeningEvents (settings : Settings) : List LogEvent :=
  [said target ("Rate limiter listening on " ++ settings.bindAddress.text),
    { level := .info
      target
      message := "Admission limits"
      fields := [("ip_limit", .number settings.ipLimit),
        ("token_limit", .number settings.tokenLimit),
        ("block_duration_secs", .number settings.blockSeconds)] }]

def stoppingEvent : Signal → LogEvent
  | .interrupt => said target "Received Ctrl+C, initiating graceful shutdown"
  | .terminate => said target "Received terminate signal, initiating graceful shutdown"

/-- Connect a server to the store that the settings name. -/
def connect (settings : Settings) (deployment : Remote.Deployment) :
    Remote.Exchanged Unit × List LogEvent × Remote.Deployment :=
  deployment.connect settings.storeUrl settings.window

end Serving

end AdmissionControl
