/-!
# Log events

What the service reports about its work, as data. An event has a level, the part of the service that
speaks, a message and named fields in a fixed order.
-/

namespace AdmissionControl

/-- How much an event matters. -/
inductive LogLevel where
  | error
  | warn
  | info
  | debug
deriving DecidableEq

inductive LogValue where
  | text (value : String)
  | number (value : UInt64)
  | flag (value : Bool)
deriving DecidableEq

structure LogEvent where
  level : LogLevel
  target : String
  message : String
  fields : List (String × LogValue)
deriving DecidableEq

end AdmissionControl
