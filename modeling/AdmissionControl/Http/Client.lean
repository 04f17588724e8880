import AdmissionControl.Http.Header
import AdmissionControl.Text.Blank

/-!
# Who sent a request

The token of a client is the value of its `API_KEY` header. Its address is the first entry of the
`X-Forwarded-For` header; without a usable entry it is the address of the connection without its
port, and `unknown` where not even that is known.
-/

namespace AdmissionControl.Http.Client

/-- The host in an address with a port: what stands in brackets at the start, or else before the
only colon. -/
def host (address : List Char) : List Char :=
  match address with
  | '[' :: rest => rest.takeWhile (· ≠ ']')
  | _ => if address.count ':' = 1 then address.takeWhile (· ≠ ':') else address

def stripPort (address : String) : String :=
  String.ofList (host address.toList)

/-- The first entry of the list of forwarding addresses, if it is text and not blank. -/
def forwarded? (headers : List Header) : Option String :=
  (Header.firstText? "x-forwarded-for" headers).bind fun characters =>
    match Text.trimmed (characters.takeWhile (· ≠ ',')) with
    | [] => none
    | entry => some (String.ofList entry)

/-- The address of the client, given the text of the address of its connection. -/
def address (headers : List Header) (connection : Option String) : String :=
  match forwarded? headers, connection with
  | some entry, _ => entry
  | none, some remote => stripPort remote
  | none, none => "unknown"

/-- The token of the client; empty where there is none. -/
def token (headers : List Header) : String :=
  match Header.firstText? "API_KEY" headers with
  | some characters => String.ofList (Text.trimmed characters)
  | none => ""

end AdmissionControl.Http.Client
