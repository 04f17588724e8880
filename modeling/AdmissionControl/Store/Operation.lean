import AdmissionControl.Fault
import AdmissionControl.Identity

/-!
# Store operations

What the service asks of a counter store. Every operation is atomic at the store; the kind of its
result depends on the operation (`Operation.Result`).
-/

namespace AdmissionControl

inductive Operation where
  /-- Is there a live block of the identity? -/
  | isBlocked (identity : Identity)
  /-- Count once more for the identity and answer the new count. -/
  | increment (identity : Identity)
  /-- Block the identity from now on for a length of time. -/
  | block (identity : Identity) (span : Duration)
  | reset (identity : Identity)
  /-- Make a round trip to the store. -/
  | ping
  | close
deriving DecidableEq

namespace Operation

@[reducible] def Result : Operation → Type
  | .isBlocked _ => Bool
  | .increment _ => UInt64
  | .block _ _ => Unit
  | .reset _ => Unit
  | .ping => Unit
  | .close => Unit

/-- The identity that an operation is about, if it is about one. -/
def subject? : Operation → Option Identity
  | .isBlocked identity => some identity
  | .increment identity => some identity
  | .block identity _ => some identity
  | .reset identity => some identity
  | .ping => none
  | .close => none

def text : Operation → String
  | .isBlocked identity => "is_blocked " ++ identity.text
  | .increment identity => "increment " ++ identity.text
  | .block identity span =>
      "block " ++ identity.text ++ " " ++ Nat.repr span.nanoseconds ++ "ns"
  | .reset identity => "reset " ++ identity.text
  | .ping => "ping"
  | .close => "close"

end Operation

end AdmissionControl
