import AdmissionControl.Remote.Value
import AdmissionControl.Text.Decimal

/-!
# Faults of the remote store

Why an operation on the remote store failed: the server answered with an error, the answer was not
of the expected kind, the connection broke or could not be opened, or the address made no sense. The
wording is in `Fault.message`, and `Reply.read`, `Value.word` and `Value.content` say which answers
are acceptable.
-/

namespace AdmissionControl.Remote

/-- The errors of a server that have a meaning of their own. -/
inductive ServerError where
  | responseError
  | execAbortError
  | busyLoadingError
  | noScriptError
  | moved
  | ask
  | tryAgain
  | clusterDown
  | crossSlot
  | masterDown
  | readOnly
  | notBusy
deriving DecidableEq

namespace ServerError

def ofCode? : String → Option ServerError
  | "ERR" => some .responseError
  | "EXECABORT" => some .execAbortError
  | "LOADING" => some .busyLoadingError
  | "NOSCRIPT" => some .noScriptError
  | "MOVED" => some .moved
  | "ASK" => some .ask
  | "TRYAGAIN" => some .tryAgain
  | "CLUSTERDOWN" => some .clusterDown
  | "CROSSSLOT" => some .crossSlot
  | "MASTERDOWN" => some .masterDown
  | "READONLY" => some .readOnly
  | "NOTBUSY" => some .notBusy
  | _ => none

def name : ServerError → String
  | .responseError => "ResponseError"
  | .execAbortError => "ExecAbortError"
  | .busyLoadingError => "BusyLoadingError"
  | .noScriptError => "NoScriptError"
  | .moved => "Moved"
  | .ask => "Ask"
  | .tryAgain => "TryAgain"
  | .clusterDown => "ClusterDown"
  | .crossSlot => "CrossSlot"
  | .masterDown => "MasterDown"
  | .readOnly => "ReadOnly"
  | .notBusy => "NotBusy"

end ServerError

/-- Why a value cannot be what the operation asked for. -/
inductive Mismatch where
  | notList
  | wrongLength
  | notNumeral
  | notNumeric
  | notText
deriving DecidableEq

def Mismatch.text : Mismatch → String
  | .notList => "Not a bulk response"
  | .wrongLength => "Bulk response of wrong dimension"
  | .notNumeral => "Could not convert from string."
  | .notNumeric => "Response type not convertible to numeric."
  | .notText => "Response type not string compatible."

inductive AddressFault where
  | unparsable
  | missingHost
  | invalidDatabase
  | encryptionUnavailable
  | userNotText
  | passwordNotText
deriving DecidableEq

def AddressFault.text : AddressFault → String
  | .unparsable => "Redis URL did not parse"
  | .missingHost => "Missing hostname"
  | .invalidDatabase => "Invalid database number"
  | .encryptionUnavailable => "can't connect with TLS, the feature is not enabled"
  | .userNotText => "Username is not valid UTF-8 string"
  | .passwordNotText => "Password is not valid UTF-8 string"

/-- Why an operation on the remote store failed. -/
inductive Fault where
  /-- The server answered with one of its well-known errors. -/
  | signalled (error : ServerError) (detail : Option String)
  /-- The server answered with an error of another code. -/
  | extension (code : String) (detail : Option String)
  /-- The answer is not of the kind that the operation reads. -/
  | mismatch (problem : Mismatch) (response : Value)
  /-- The answer to a transaction is neither a list nor nil. -/
  | noTransactionResult
  /-- A text in an answer is not UTF-8. -/
  | notUtf8
  /-- The connection was closed while the operation was under way. -/
  | brokenPipe
  | unreachable
  | passwordRefused
  | databaseRefused
  | address (problem : AddressFault)

namespace Fault

/-- The fault that an error line of the server stands for: the text before the first space is a
code, the rest says more. -/
def ofLine (line : String) : Fault :=
  let characters := line.toList
  let code := String.ofList (characters.takeWhile (· ≠ ' '))
  let detail :=
    match characters.dropWhile (· ≠ ' ') with
    | [] => none
    | _ :: rest => some (String.ofList rest)
  match ServerError.ofCode? code with
  | some error => .signalled error detail
  | none => .extension code detail

def message : Fault → String
  | .signalled error (some detail) =>
      "An error was signalled by the server - " ++ error.name ++ ": " ++ detail
  | .signalled error none => "An error was signalled by the server- " ++ error.name
  | .extension code detail =>
      code ++ ": " ++ detail.getD "Unknown extension error encountered"
  | .mismatch problem response =>
      "Response was of incompatible type - TypeError: " ++ Text.Quoted.quoted problem.text
        ++ " (response was " ++ response.text ++ ")"
  | .noTransactionResult => "Invalid response when parsing multi response- ResponseError"
  | .notUtf8 => "Invalid UTF-8- TypeError"
  | .brokenPipe => "broken pipe"
  | .unreachable => "Network is unreachable (os error 101)"
  | .passwordRefused => "Password authentication failed- AuthenticationFailed"
  | .databaseRefused => "Redis server refused to switch database- ResponseError"
  | .address problem => problem.text ++ "- InvalidClientConfig"

end Fault

namespace Reply

mutual

/-- The value of a reply, or the fault of the first error in it. -/
def read : Reply → Except Fault Value
  | .nil => .ok .nil
  | .integer value => .ok (.integer value)
  | .bulk bytes => .ok (.bulk bytes)
  | .status "OK" => .ok .okay
  | .status text => .ok (.status text)
  | .array items => (readAll items).map .list
  | .error line => .error (.ofLine line)

/-- The values of replies in order, or the fault of the first error in them. -/
def readAll : List Reply → Except Fault (List Value)
  | [] => .ok []
  | reply :: rest =>
      match reply.read with
      | .error fault => .error fault
      | .ok value => (readAll rest).map (value :: ·)

end

end Reply

namespace Value

/-- A value as an unsigned number of 64 bits: an integer counts modulo `2 ^ 64`, and a text has to
be a numeral. -/
def word (value : Value) : Except Fault UInt64 :=
  match value with
  | .integer number => .ok (UInt64.ofInt number)
  | .status text => numeral text
  | .bulk bytes =>
      match String.fromUTF8? bytes with
      | some text => numeral text
      | none => .error .notUtf8
  | .nil => .error (.mismatch .notNumeric value)
  | .list _ => .error (.mismatch .notNumeric value)
  | .okay => .error (.mismatch .notNumeric value)
where
  /-- The number that a text of the value stands for. -/
  numeral (text : String) : Except Fault UInt64 :=
    match Text.Decimal.word? text with
    | some number => .ok number
    | none => .error (.mismatch .notNumeral value)

def content (value : Value) : Except Fault String :=
  match value with
  | .okay => .ok "OK"
  | .status text => .ok text
  | .bulk bytes =>
      match String.fromUTF8? bytes with
      | some text => .ok text
      | none => .error .notUtf8
  | .nil => .error (.mismatch .notText value)
  | .integer _ => .error (.mismatch .notText value)
  | .list _ => .error (.mismatch .notText value)

end Value

end AdmissionControl.Remote
