import AdmissionControl.Remote.Command
import AdmissionControl.Remote.Value
import AdmissionControl.Store.Table
import AdmissionControl.Text.Decimal

/-!
# The remote store

The server keeps texts under keys, each with the lifetime that it was given and the point in time
at which it ends. While the clock of the server stands still nothing vanishes. A key is removed when
the clock reaches its end (`Server.advance`), and the removal may also be an event of its own
(`Server.expire`). Commands between the start of a transaction and its execution are queued on the
connection and carried out together.

A server is strict, as stores are documented: it refuses a lifetime that is not positive or does
not fit 63 bits, and it counts on from nothing but what is written for a number. A refused command
does nothing, and the other commands of its transaction are carried out all the same. For trying a
client, a server may be lenient instead, and deliveries may be scripted: a scripted delivery is made
in place of carrying a command out or queueing it.
-/

namespace AdmissionControl.Remote

/-- What lies under a key. -/
structure Item where
  value : String
  /-- The lifetime in milliseconds that the value was given, if it was given one. -/
  lifetime : Option UInt64
  /-- The end of that lifetime. -/
  ending : Option Instant
deriving DecidableEq

/-- What an absent key counts as. -/
def Item.nought : Item where
  value := "0"
  lifetime := none
  ending := none

/-- How a server takes what it is told. -/
inductive Manner where
  | strict
  /-- Every lifetime is taken, and a number may have a plus sign, leading zeros and a minus sign
  before zero. -/
  | lenient
deriving DecidableEq

namespace Manner

/-- What a server says to a lifetime that it does not take. -/
def refusal? : Manner → UInt64 → Option String
  | .lenient, _ => none
  | .strict, lifetime =>
      if lifetime = 0 then some "ERR invalid expire time in 'set' command"
      else if 9223372036854775808 ≤ lifetime then
        some "ERR value is not an integer or out of range"
      else none

/-- The number that a text counts as. -/
def number? : Manner → String → Option Int
  | .lenient, text => Text.Decimal.long? text
  | .strict, text => Text.Decimal.exactLong? text

variable {manner : Manner}

theorem refusal?_eq_none {lifetime : UInt64} (positive : 0 < lifetime.toNat)
    (below : lifetime.toNat < 9223372036854775808) : manner.refusal? lifetime = none := by
  cases manner with
  | lenient => rfl
  | strict =>
      have some : lifetime ≠ 0 := by
        rintro rfl
        exact Nat.lt_irrefl 0 positive
      have fits : ¬9223372036854775808 ≤ lifetime := by
        rw [UInt64.le_iff_toNat_le]
        exact Nat.not_le_of_lt below
      rw [refusal?, if_neg some, if_neg fits]

theorem refusal?_strict_of_long {lifetime : UInt64} (long : 9223372036854775808 ≤ lifetime.toNat) :
    strict.refusal? lifetime = some "ERR value is not an integer or out of range" := by
  have some : lifetime ≠ 0 := by
    rintro rfl
    exact absurd long (by decide)
  have beyond : 9223372036854775808 ≤ lifetime := UInt64.le_iff_toNat_le.mpr long
  rw [refusal?, if_neg some, if_pos beyond]

/-- What is written for a number counts as that number. -/
theorem number?_toString {number : Int}
    (fits : -9223372036854775808 ≤ number ∧ number < 9223372036854775808) :
    manner.number? (toString number) = some number := by
  cases manner with
  | strict => exact Text.Decimal.exactLong?_eq_some_iff.mpr ⟨rfl, fits⟩
  | lenient => exact Text.Decimal.long?_toString fits

theorem number?_bounds {text : String} {number : Int}
    (counts : manner.number? text = some number) :
    -9223372036854775808 ≤ number ∧ number < 9223372036854775808 := by
  cases manner with
  | strict => exact (Text.Decimal.exactLong?_eq_some_iff.mp counts).2
  | lenient => exact Text.Decimal.long?_bounds counts

end Manner

inductive Delivery where
  | reply (reply : Reply)
  /-- The connection does not answer, now or later. -/
  | silence
  | hangUp

structure Server where
  manner : Manner
  now : Instant
  items : Table String Item
  /-- The deliveries that are to be made in place of the proper ones, where given. -/
  script : List (Option Delivery)
  /-- The words of the commands received so far, in order. -/
  received : List (List String)

/-- One client's connection to a server. -/
structure Connection where
  /-- The commands queued since the start of a transaction, in order. -/
  queue : Option (List Command)
  /-- The connection does not answer any more. -/
  silent : Bool

def Connection.fresh : Connection where
  queue := none
  silent := false

namespace Server

def new : Server where
  manner := .strict
  now := .origin
  items := .empty
  script := []
  received := []

/-- The largest number that a key can hold. -/
def maximum : Int := 9223372036854775807

/-- Add one to the number under a key; a key without a value counts as zero. A lifetime stays. -/
def incremented (manner : Manner) (items : Table String Item) (key : String) :
    Reply × Table String Item :=
  let item := (items.get? key).getD .nought
  match manner.number? item.value with
  | none => (.error "ERR value is not an integer or out of range", items)
  | some number =>
      if number = maximum then (.error "ERR increment or decrement would overflow", items)
      else
        (.integer (number + 1), items.insert key { item with value := toString (number + 1) })

/-- The end of a lifetime that begins at a point in time. The clock has no last point. -/
def endOf (now : Instant) (lifetime : UInt64) : Instant :=
  now.shift (.ofMilliseconds lifetime.toNat)

/-- What a command does and how it is answered. A lifetime is looked at before anything else. -/
def carryOut (manner : Manner) (now : Instant) (items : Table String Item) :
    Command → Reply × Table String Item
  | .set key value onlyIfAbsent lifetime =>
      match manner.refusal? lifetime with
      | some line => (.error line, items)
      | none =>
          if onlyIfAbsent ∧ (items.get? key).isSome then (.nil, items)
          else (.status "OK", items.insert key
            { value, lifetime := some lifetime, ending := some (endOf now lifetime) })
  | .increment key => incremented manner items key
  | .present key => (.integer (if (items.get? key).isSome then 1 else 0), items)
  | .delete key => (.integer (if (items.get? key).isSome then 1 else 0), items.erase key)
  | .ping => (.status "PONG", items)
  | .begin => (.status "OK", items)
  | .execute => (.status "OK", items)
  | .authenticate _ _ => (.status "OK", items)
  | .select _ => (.status "OK", items)

/-- Commands are carried out one after another, and no failure stops the others. -/
def carryOutAll (manner : Manner) (now : Instant) (items : Table String Item) :
    List Command → List Reply × Table String Item
  | [] => ([], items)
  | command :: rest =>
      let (reply, after) := carryOut manner now items command
      let (replies, last) := carryOutAll manner now after rest
      (reply :: replies, last)

/-- How a command is answered that no script gets in the way of. -/
def serve (manner : Manner) (now : Instant) (items : Table String Item)
    (queue : Option (List Command)) (command : Command) :
    Reply × Option (List Command) × Table String Item :=
  match command, queue with
  | .begin, _ => (.status "OK", some [], items)
  | .execute, none => (.error "ERR EXEC without MULTI", none, items)
  | .execute, some commands =>
      let (replies, after) := carryOutAll manner now items commands
      (.array replies, none, after)
  | _, some commands => (.status "QUEUED", some (commands ++ [command]), items)
  | _, none =>
      let (reply, after) := carryOut manner now items command
      (reply, none, after)

def receive (server : Server) (connection : Connection) (command : Command) :
    Delivery × Connection × Server :=
  let noted :=
    { server with
      received := server.received ++ [command.words]
      script := server.script.drop 1 }
  if connection.silent then (.silence, connection, noted)
  else
    match server.script.head?.join with
    | some delivery =>
        let queue := if command = .execute then none else connection.queue
        let silent := match delivery with
          | .silence => true
          | _ => false
        (delivery, { queue, silent }, noted)
    | none =>
        let (reply, queue, items) :=
          serve server.manner server.now server.items connection.queue command
        (.reply reply, { connection with queue }, { noted with items })

/-- Time passes at the server, and every key whose end is reached vanishes. -/
def advance (server : Server) (now : Instant) : Server :=
  { server with
    now
    items := server.items.retain fun item => item.ending.all fun ending => now < ending }

/-- A key reaches the end of its lifetime and vanishes. -/
def expire (server : Server) (key : String) : Server :=
  { server with items := server.items.erase key }

/-- Another program gives a key a value without a lifetime. -/
def put (server : Server) (key value : String) : Server :=
  { server with items := server.items.insert key { value, lifetime := none, ending := none } }

end Server

/-- What a client gets for commands that it sent together. -/
inductive Exchange where
  /-- One reply for each command. -/
  | replies (replies : List Reply)
  /-- The replies never come. -/
  | silence
  | hangUp

/-- Send commands together over a connection. Nothing is received over a connection after it was
closed. -/
def Server.exchange (server : Server) (connection : Connection) :
    List Command → Exchange × Connection × Server
  | [] => (.replies [], connection, server)
  | command :: rest =>
      match server.receive connection command with
      | (.hangUp, later, after) => (.hangUp, later, after)
      | (.silence, later, after) =>
          let (_, last, final) := after.exchange later rest
          (.silence, last, final)
      | (.reply reply, later, after) =>
          match after.exchange later rest with
          | (.replies replies, last, final) => (.replies (reply :: replies), last, final)
          | other => other

end AdmissionControl.Remote
