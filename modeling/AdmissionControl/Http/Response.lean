import AdmissionControl.Text.Json

/-!
# Responses

A response has a status, headers and a body. Bodies are plain text or JSON, and the header on their
length counts bytes of UTF-8.
-/

namespace AdmissionControl.Http

/-- The statuses that the service answers with. -/
inductive Status where
  | ok
  | notFound
  | methodNotAllowed
  | tooManyRequests
  | internalServerError
  | serviceUnavailable
deriving DecidableEq

namespace Status

def code : Status → Nat
  | .ok => 200
  | .notFound => 404
  | .methodNotAllowed => 405
  | .tooManyRequests => 429
  | .internalServerError => 500
  | .serviceUnavailable => 503

def reason : Status → String
  | .ok => "OK"
  | .notFound => "Not Found"
  | .methodNotAllowed => "Method Not Allowed"
  | .tooManyRequests => "Too Many Requests"
  | .internalServerError => "Internal Server Error"
  | .serviceUnavailable => "Service Unavailable"

def text (status : Status) : String :=
  Nat.repr status.code ++ " " ++ status.reason

end Status

/-- A response. -/
structure Response where
  status : Status
  headers : List (String × String)
  body : String
deriving DecidableEq

namespace Response

def bare (status : Status) : Response where
  status
  headers := []
  body := ""

def plain (status : Status) (body : String) : Response where
  status
  headers := [("content-type", "text/plain; charset=utf-8")]
  body

def json (status : Status) (body : String) : Response where
  status
  headers := [("content-type", "application/json")]
  body

def withHeader (response : Response) (name value : String) : Response :=
  { response with headers := response.headers ++ [(name, value)] }

/-- The response as it is sent: its length is stated, and the body is left out if only the head was
asked for. -/
def sent (response : Response) (headOnly : Bool) : Response :=
  let measured := response.withHeader "content-length" (Nat.repr response.body.utf8ByteSize)
  if headOnly then { measured with body := "" } else measured

end Response

/-- The document that tells a client of an error. -/
structure ErrorReport where
  error : String
  message : String
  code : UInt16

namespace ErrorReport

/-- The report that says nothing about the cause. -/
def internal : ErrorReport where
  error := "internal_error"
  message := "Internal server error"
  code := 500

def json (report : ErrorReport) : String :=
  Text.Json.object [("error", Text.Json.quoted report.error),
    ("message", Text.Json.quoted report.message), ("code", Nat.repr report.code.toNat)]

end ErrorReport

/-- The document that tells whether the service works, at a time in seconds since 1970. -/
structure HealthReport where
  storeConnected : Bool
  timestamp : Nat

namespace HealthReport

def version : String := "0.1.0"

def json (report : HealthReport) : String :=
  Text.Json.object
    [("status", Text.Json.quoted (if report.storeConnected then "healthy" else "unhealthy")),
      ("timestamp", Nat.repr report.timestamp), ("version", Text.Json.quoted version),
      ("store_connected", if report.storeConnected then "true" else "false")]

end HealthReport

end AdmissionControl.Http
