import AdmissionControl.Remote.Address
import AdmissionControl.Remote.Key
import AdmissionControl.Remote.Server
import AdmissionControl.Store.CounterStore
import AdmissionControl.Text.Search

/-!
# The store at a server

A counter store kept by a remote server and shared by any number of adapters, each with a connection
of its own. A counter is the number under its key and lives for one window from its creation; a
block is a key that is there for as long as the identity is blocked.

The creation of a counter and its first increment form one transaction: the creation leaves a
counter alone that is there, so no increment ever pushes the end of a window out, and a counter
comes into being with an end, if the server takes the window for a lifetime.

An operation fails with the first error among the replies to its commands, at any depth. An adapter
whose connection was closed by the server opens a new one for its next operation.
-/

namespace AdmissionControl.Remote

/-- Whether the network leads to the server. -/
inductive Route where
  | reachable
  | unreachable
deriving DecidableEq

/-- What an adapter has in the way of a connection. -/
inductive Link where
  | connected (connection : Connection)
  | lost
  | closed

/-- One service's access to the store. -/
structure Adapter where
  address : Address
  /-- How long a counter lives. -/
  window : Duration
  link : Link

/-- A store server and the adapters that use it. -/
structure Deployment where
  route : Route
  server : Server
  adapters : List Adapter

/-- What became of something that waits for replies. -/
inductive Exchanged (α : Type) where
  | done (result : Except Fault α)
  | silence

def Exchange.read : Exchange → Exchanged (List Value)
  | .replies list => .done (Reply.readAll list)
  | .silence => .silence
  | .hangUp => .done (.error .brokenPipe)

/-- Whether a reply says that the server takes a password alone. -/
def refusesUser : Fault → Bool
  | .signalled _ (some detail) => mentions detail
  | .extension _ (some detail) => mentions detail
  | _ => false
where
  /-- Whether a text mentions the wrong number of arguments. -/
  mentions (detail : String) : Bool :=
    Text.occurs "wrong number of arguments for 'auth' command".toList detail.toList

/-- Send a command on a new connection and require the reply OK. -/
def requireOkay (server : Server) (connection : Connection) (command : Command) :
    Exchanged Unit × Connection × Server :=
  let (exchange, later, after) := server.exchange connection [command]
  match exchange.read with
  | .silence => (.silence, later, after)
  | .done (.ok [.okay]) => (.done (.ok ()), later, after)
  | .done (.ok _) => (.done (.error .passwordRefused), later, after)
  | .done (.error fault) => (.done (.error fault), later, after)

def authenticate (address : Address) (server : Server) (connection : Connection) :
    Exchanged Unit × Connection × Server :=
  match address.password with
  | none => (.done (.ok ()), connection, server)
  | some password =>
      match requireOkay server connection (.authenticate address.user password) with
      | (.done (.error fault), later, after) =>
          if refusesUser fault then
            match requireOkay after later (.authenticate none password) with
            | (.done (.error _), last, final) => (.done (.error .passwordRefused), last, final)
            | other => other
          else (.done (.error .passwordRefused), later, after)
      | other => other

/-- Choose the database of an address, if it is not the first. -/
def chooseDatabase (address : Address) (server : Server) (connection : Connection) :
    Exchanged Unit × Connection × Server :=
  if address.database = 0 then (.done (.ok ()), connection, server)
  else
    match requireOkay server connection (.select address.database) with
    | (.done (.error _), later, after) => (.done (.error .databaseRefused), later, after)
    | other => other

def openConnection (route : Route) (address : Address) (server : Server) :
    Exchanged Connection × Server :=
  match route with
  | .unreachable => (.done (.error .unreachable), server)
  | .reachable =>
      match authenticate address server .fresh with
      | (.silence, _, after) => (.silence, after)
      | (.done (.error fault), _, after) => (.done (.error fault), after)
      | (.done (.ok ()), connection, after) =>
          match chooseDatabase address after connection with
          | (.silence, _, final) => (.silence, final)
          | (.done (.error fault), _, final) => (.done (.error fault), final)
          | (.done (.ok ()), last, final) => (.done (.ok last), final)

/-- Try to open a connection once, and as many times more as allowed while it fails. -/
def openWithRetries (route : Route) (address : Address) :
    Nat → Server → Exchanged Connection × Server
  | 0, server => openConnection route address server
  | retries + 1, server =>
      match openConnection route address server with
      | (.done (.error _), after) => openWithRetries route address retries after
      | other => other

def retries : Nat := 6

def connectedEvent (url : String) (window : Duration) : LogEvent where
  level := .info
  target := "ratelimiter::redis"
  message := "Connected to Redis"
  fields := [("redis_url", .text url),
    ("window_ms", .number (UInt64.ofNat window.milliseconds))]

def closedEvent : LogEvent where
  level := .info
  target := "ratelimiter::redis"
  message := "Redis connection closed"
  fields := []

namespace Deployment

/-- A server for trying clients, without content and without adapters: it is lenient, and its
deliveries may be scripted. -/
def new (route : Route) (script : List (Option Delivery)) : Deployment where
  route
  server := { Server.new with manner := .lenient, script }
  adapters := []

def connect (deployment : Deployment) (url : String) (window : Duration) :
    Exchanged Unit × List LogEvent × Deployment :=
  match Address.ofUrl url with
  | .error problem => (.done (.error (.address problem)), [], deployment)
  | .ok address =>
      match openWithRetries deployment.route address retries deployment.server with
      | (.silence, server) => (.silence, [], { deployment with server })
      | (.done (.error fault), server) => (.done (.error fault), [], { deployment with server })
      | (.done (.ok connection), server) =>
          let adapter := { address, window, link := .connected connection }
          (.done (.ok ()), [connectedEvent url window],
            { deployment with server, adapters := deployment.adapters ++ [adapter] })

end Deployment

namespace Adapter

def commands (window : Duration) : Operation → List Command
  | .isBlocked identity => [.present (blockedKey identity)]
  | .increment identity =>
      [.begin, .set (counterKey identity) "0" true (lifetime window),
        .increment (counterKey identity), .execute]
  | .block identity span => [.set (blockedKey identity) "1" false (lifetime span)]
  | .reset identity => [.delete (counterKey identity)]
  | .ping => [.ping]
  | .close => []

/-- The count in the result of a transaction, of whose two results the first does not matter. -/
def countOf (result : Value) : Except Fault UInt64 :=
  match result with
  | .list items =>
      match items.drop 1 with
      | [count] => count.word
      | rest => .error (.mismatch .wrongLength (.list rest))
  | .nil => .error (.mismatch .notList .nil)
  | _ => .error .noTransactionResult

def meaning : (operation : Operation) → List Value → Except Fault operation.Result
  | .isBlocked _, [value] => value.word.map (0 < ·)
  | .increment _, [_, _, _, result] => countOf result
  | .block _ _, _ => .ok ()
  | .reset _, [value] => value.word.map fun _ => ()
  | .ping, [value] => value.content.map fun _ => ()
  | .close, _ => .ok ()
  | .isBlocked _, _ => .error .noTransactionResult
  | .increment _, _ => .error .noTransactionResult
  | .reset _, _ => .error .noTransactionResult
  | .ping, _ => .error .noTransactionResult

/-- How a fault of the server or its client is reported. -/
def report {α : Type} (result : Except Fault α) : Arrival α :=
  .answers none (result.mapError fun fault => .reported (.remote fault))

/-- Send the commands of an operation over a connection. -/
def transact (adapter : Adapter) (operation : Operation) (connection : Connection)
    (server : Server) : Arrival operation.Result × Adapter × Server :=
  let (exchange, later, after) :=
    server.exchange connection (commands adapter.window operation)
  let link := match exchange with
    | .hangUp => .lost
    | _ => .connected later
  let arrival := match exchange.read with
    | .silence => .hangs
    | .done values => report (values.bind (meaning operation))
  (arrival, { adapter with link }, after)

/-- Perform an operation through an adapter. -/
def perform (adapter : Adapter) (route : Route) (operation : Operation) (server : Server) :
    Arrival operation.Result × Adapter × Server :=
  match operation, adapter.link with
  | .close, _ => (.answers none (.ok ()), { adapter with link := .closed }, server)
  | _, .closed => (.answers none (.error (.reported .storeClosed)), adapter, server)
  | operation, .connected connection => adapter.transact operation connection server
  | operation, .lost =>
      match openWithRetries route adapter.address retries server with
      | (.silence, after) => (.hangs, adapter, after)
      | (.done (.error fault), after) => (report (.error fault), adapter, after)
      | (.done (.ok connection), after) => adapter.transact operation connection after

def isClosed (adapter : Adapter) : Bool :=
  match adapter.link with
  | .closed => true
  | _ => false

end Adapter

namespace Deployment

/-- Perform an operation through the adapter at an index; without one, the store is closed. -/
def perform (deployment : Deployment) (index : Nat) (operation : Operation) :
    Arrival operation.Result × Deployment :=
  match deployment.adapters[index]? with
  | none => (.answers none (.error (.reported .storeClosed)), deployment)
  | some adapter =>
      let (arrival, later, server) :=
        adapter.perform deployment.route operation deployment.server
      (arrival,
        { deployment with server, adapters := deployment.adapters.set index later })

/-- What is logged when an operation is performed through the adapter at an index: giving up a
connection is. -/
def announce (deployment : Deployment) (index : Nat) : Operation → List LogEvent
  | .close =>
      match deployment.adapters[index]? with
      | some adapter => if adapter.isClosed then [] else [closedEvent]
      | none => []
  | _ => []

/-- The store as it is reached through the adapter at an index. -/
def store (index : Nat) : CounterStore Deployment where
  perform operation _ deployment := deployment.perform index operation
  announce operation deployment := deployment.announce index operation

end Deployment

end AdmissionControl.Remote
