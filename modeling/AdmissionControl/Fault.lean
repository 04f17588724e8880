import AdmissionControl.Remote.Fault
import AdmissionControl.Time.Text

/-!
# Faults

Why an admission decision could not be made. A fault is reported to the caller as it is; nothing in
the service turns it into a decision. A store call may also be abandoned without a report, when the
clock cannot hold the expiry it asks for.
-/

namespace AdmissionControl

/-- Why the service could not do what it was asked for. -/
inductive Fault where
  | remote (cause : Remote.Fault)
  /-- The store did not answer in time. -/
  | timeout (limit : Duration)
  | storeClosed
  | configuration (problem : String)
  /-- The service is in a state that it cannot work in. -/
  | internal (problem : String)

namespace Fault

def message : Fault → String
  | .remote cause => "Redis error: " ++ cause.message
  | .timeout limit => "Store operation timed out after " ++ limit.text
  | .storeClosed => "Store connection is closed"
  | .configuration problem => "Configuration error: " ++ problem
  | .internal problem => "Internal error: " ++ problem

/-- Whether the fault arose from talking to the counter store. -/
def concernsStore : Fault → Bool
  | .remote _ => true
  | .timeout _ => true
  | .storeClosed => true
  | .configuration _ => false
  | .internal _ => false

end Fault

/-- How a store call can go wrong. -/
inductive Failure where
  | reported (fault : Fault)
  /-- The clock cannot hold the expiry that was asked for, and the call is abandoned. -/
  | abandoned

abbrev Answer (α : Type) := Except Failure α

def Failure.abandonedMessage : String :=
  "overflow when adding duration to instant"

end AdmissionControl
