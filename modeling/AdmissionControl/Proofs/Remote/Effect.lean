import AdmissionControl.Remote.Adapter
import Mathlib.Algebra.Group.Nat.Defs

/-!
# The effect of an operation at the server

What an operation answers and what it leaves under the keys when nothing of another connection comes
between its commands (`effect`). The commands of a transaction take effect together when it is
executed, and every other operation is one command, so this is also what an operation does among
any others, at the moment in which its last command is received.

What lies under the key of a counter is followed through `Table.get?`: a transaction that finds the
key absent puts a one there that ends after one window, and any other transaction raises the number
and leaves its lifetime alone. Where the server refuses the window, the key is raised just so and
the transaction fails (`effect_increment_of_refused`); no window below `2 ^ 63` milliseconds is
refused (`refusal?_lifetime`).
-/

namespace AdmissionControl.Remote

theorem lifetime_toNat (span : Duration) :
    (lifetime span).toNat = max 1 (span.milliseconds % 2 ^ 64) := by
  have word : (UInt64.ofNat span.milliseconds).toNat = span.milliseconds % 2 ^ 64 :=
    UInt64.toNat_ofNat'
  simp only [lifetime, ← UInt64.toNat_inj, word, UInt64.toNat_zero]
  split
  · next none => rw [none, UInt64.toNat_one, Nat.max_eq_left (Nat.zero_le 1)]
  · next some =>
      rw [word]
      omega

theorem one_le_lifetime (span : Duration) : 1 ≤ (lifetime span).toNat := by
  rw [lifetime_toNat]
  exact Nat.le_max_left _ _

theorem refusal?_lifetime {manner : Manner} {span : Duration}
    (below : (lifetime span).toNat < 2 ^ 63) : manner.refusal? (lifetime span) = none :=
  Manner.refusal?_eq_none (one_le_lifetime span) below

theorem refusal?_strict_eq_none_iff {span : Duration} :
    Manner.strict.refusal? (lifetime span) = none ↔ (lifetime span).toNat < 2 ^ 63 := by
  refine ⟨fun taken => Nat.lt_of_not_le fun long => ?_, refusal?_lifetime⟩
  cases taken.symm.trans (Manner.refusal?_strict_of_long long)

/-- What a client hears of a text that cannot be counted on from, and of a lifetime that is too
long: neither is a signed number of 64 bits. -/
def unreadableFault : Fault :=
  .signalled .responseError (some "value is not an integer or out of range")

/-- What lies under the key of a counter. -/
def counterItem (window : Duration) (count : Nat) (ending : Instant) : Item where
  value := Nat.repr count
  lifetime := some (lifetime window)
  ending := some ending

def blockItem (span : Duration) (ending : Instant) : Item where
  value := "1"
  lifetime := some (lifetime span)
  ending := some ending

def creation (window : Duration) (identity : Identity) : Command :=
  .set (counterKey identity) "0" true (lifetime window)

/-- The commands that an increment executes together. -/
def transaction (window : Duration) (identity : Identity) : List Command :=
  [creation window identity, .increment (counterKey identity)]

/-- The answer of an operation and the keys that it leaves, if it takes effect at one stroke. -/
def effect (window : Duration) (server : Server) :
    (operation : Operation) → Except Fault operation.Result × Table String Item
  | .isBlocked identity => (.ok (server.items.get? (blockedKey identity)).isSome, server.items)
  | .increment identity =>
      let (replies, after) :=
        Server.carryOutAll server.manner server.now server.items (transaction window identity)
      ((Reply.array replies).read.bind Adapter.countOf, after)
  | .block identity span =>
      match server.manner.refusal? (lifetime span) with
      | some line => (.error (.ofLine line), server.items)
      | none =>
          (.ok (), server.items.insert (blockedKey identity)
            (blockItem span (Server.endOf server.now (lifetime span))))
  | .reset identity => (.ok (), server.items.erase (counterKey identity))
  | .ping => (.ok (), server.items)
  | .close => (.ok (), server.items)

variable {manner : Manner} {window span : Duration} {now : Instant} {items : Table String Item}
  {identity : Identity} {operation : Operation} {server : Server}

/-! ## Transactions -/

theorem incremented_of_number {key : String} {item : Item} {number : Int}
    (held : (items.get? key).getD .nought = item)
    (readable : manner.number? item.value = some number) (room : number ≠ Server.maximum) :
    Server.incremented manner items key =
      (.integer (number + 1), items.insert key { item with value := toString (number + 1) }) := by
  simp only [Server.incremented, held, readable, if_neg room]

theorem incremented_of_count {key : String} {item : Item} {count : Nat}
    (held : (items.get? key).getD .nought = item) (counts : item.value = Nat.repr count)
    (room : count + 1 < 2 ^ 63) :
    Server.incremented manner items key =
      (.integer (count + 1), items.insert key { item with value := Nat.repr (count + 1) }) := by
  have readable : manner.number? item.value = some (count : Int) := by
    rw [counts]
    exact @Manner.number?_toString manner count (by omega)
  have below : (count : Int) ≠ Server.maximum := by
    simp only [Server.maximum]
    omega
  exact incremented_of_number held readable below

/-- The result of a transaction is its second part. The first only has to be readable. -/
theorem count_of_transaction {first : Reply} {number : Int}
    (fine : first = .status "OK" ∨ first = .nil) :
    (Reply.array [first, .integer number]).read.bind Adapter.countOf =
      .ok (UInt64.ofInt number) := by
  rcases fine with rfl | rfl <;>
    simp [Reply.read, Reply.readAll, Except.map, Except.bind, Adapter.countOf, Value.word]

theorem effect_of_transaction {first : Reply} {created final : Table String Item} {number : Int}
    (fine : first = .status "OK" ∨ first = .nil)
    (creates : Server.carryOut server.manner server.now server.items (creation window identity) =
      (first, created))
    (raises : Server.incremented server.manner created (counterKey identity) =
      (.integer number, final)) :
    effect window server (.increment identity) = (.ok (UInt64.ofInt number), final) := by
  have carried : Server.carryOut server.manner server.now created
      (.increment (counterKey identity)) = (.integer number, final) := raises
  simp only [effect, transaction, Server.carryOutAll, creates, carried, count_of_transaction fine]

theorem carryOut_creation_of_absent (taken : manner.refusal? (lifetime window) = none)
    (absent : items.get? (counterKey identity) = none) :
    Server.carryOut manner now items (creation window identity) =
      (.status "OK", items.insert (counterKey identity)
        (counterItem window 0 (Server.endOf now (lifetime window)))) := by
  simp only [creation, Server.carryOut, taken, absent]
  rfl

theorem carryOut_creation_of_present {item : Item}
    (taken : manner.refusal? (lifetime window) = none)
    (present : items.get? (counterKey identity) = some item) :
    Server.carryOut manner now items (creation window identity) = (.nil, items) := by
  simp [creation, Server.carryOut, taken, present]

theorem effect_increment_of_absent (taken : server.manner.refusal? (lifetime window) = none)
    (absent : server.items.get? (counterKey identity) = none) :
    effect window server (.increment identity) =
      (.ok 1,
        (server.items.insert (counterKey identity)
          (counterItem window 0 (Server.endOf server.now (lifetime window)))).insert
            (counterKey identity)
            (counterItem window 1 (Server.endOf server.now (lifetime window)))) := by
  let created := counterItem window 0 (Server.endOf server.now (lifetime window))
  have held : ((server.items.insert (counterKey identity) created).get?
      (counterKey identity)).getD .nought = created := by
    simp [Table.get?_insert]
  exact effect_of_transaction (.inl rfl) (carryOut_creation_of_absent taken absent)
    (incremented_of_count held rfl (by decide))

/-- A raise of a number counts on from it and leaves its lifetime alone. -/
theorem effect_increment_of_number {item : Item} {number : Int}
    (taken : server.manner.refusal? (lifetime window) = none)
    (present : server.items.get? (counterKey identity) = some item)
    (readable : server.manner.number? item.value = some number)
    (room : number ≠ Server.maximum) :
    effect window server (.increment identity) =
      (.ok (UInt64.ofInt (number + 1)),
        server.items.insert (counterKey identity) { item with value := toString (number + 1) }) :=
  effect_of_transaction (.inr rfl) (carryOut_creation_of_present taken present)
    (incremented_of_number (by simp [present]) readable room)

theorem effect_increment_of_present {count : Nat} {ending : Instant}
    (taken : server.manner.refusal? (lifetime window) = none) (room : count + 1 < 2 ^ 63)
    (present : server.items.get? (counterKey identity) =
      some (counterItem window count ending)) :
    effect window server (.increment identity) =
      (.ok (UInt64.ofNat (count + 1)),
        server.items.insert (counterKey identity) (counterItem window (count + 1) ending)) := by
  have held : (server.items.get? (counterKey identity)).getD .nought =
      counterItem window count ending := by
    rw [present]
    rfl
  have same : UInt64.ofInt (count + 1) = UInt64.ofNat (count + 1) := by
    rw [← UInt64.toNat_inj]
    simp only [UInt64.ofInt, UInt64.toNat_ofNat']
    omega
  rw [effect_of_transaction (.inr rfl) (carryOut_creation_of_present taken present)
    (incremented_of_count held rfl room), same]
  rfl

/-- The refusal of a window stops the creation of a counter, but not its raise. -/
theorem effect_increment_of_refused {line : String}
    (refused : server.manner.refusal? (lifetime window) = some line) :
    effect window server (.increment identity) =
      (.error (.ofLine line),
        (Server.incremented server.manner server.items (counterKey identity)).2) := by
  have creates : Server.carryOut server.manner server.now server.items
      (creation window identity) = (.error line, server.items) := by
    simp only [creation, Server.carryOut, refused]
  have raises : Server.carryOut server.manner server.now server.items
      (.increment (counterKey identity)) =
        Server.incremented server.manner server.items (counterKey identity) := rfl
  simp only [effect, transaction, Server.carryOutAll, creates, raises]
  simp [Reply.read, Reply.readAll, Except.map, Except.bind]

/-- An effect has nothing to do with what a server heard before. -/
theorem effect_eq {other : Server} (manner : other.manner = server.manner)
    (now : other.now = server.now) (items : other.items = server.items) :
    effect window other operation = effect window server operation := by
  cases operation with
  | increment identity => simp only [effect, manner, now, items]
  | block identity span => simp only [effect, manner, now, items]
  | isBlocked identity => simp only [effect, items]
  | reset identity => simp only [effect, items]
  | ping => simp only [effect, items]
  | close => simp only [effect, items]

/-! ## Keys that are left alone -/

/-- The key that a command is about, if it is about one. -/
def Command.key? : Command → Option String
  | .set key _ _ _ => some key
  | .increment key => some key
  | .present key => some key
  | .delete key => some key
  | _ => none

theorem carryOut_of_other {command : Command} {key : String} (other : command.key? ≠ some key) :
    (Server.carryOut manner now items command).2.get? key = items.get? key := by
  cases command with
  | set changed value onlyIfAbsent lifetime =>
      have differs : key ≠ changed := by rintro rfl; exact other rfl
      simp only [Server.carryOut]
      split
      · rfl
      · split
        · rfl
        · simp [Table.get?_insert, differs]
  | increment changed =>
      have differs : key ≠ changed := by rintro rfl; exact other rfl
      simp only [Server.carryOut, Server.incremented]
      split
      · rfl
      · split
        · rfl
        · simp [Table.get?_insert, differs]
  | delete changed =>
      have differs : key ≠ changed := by rintro rfl; exact other rfl
      simp [Server.carryOut, Table.get?_erase, differs]
  | _ => rfl

/-- The key that an operation may change. -/
def changedKey? : Operation → Option String
  | .increment identity => some (counterKey identity)
  | .reset identity => some (counterKey identity)
  | .block identity _ => some (blockedKey identity)
  | .isBlocked _ | .ping | .close => none

theorem effect_of_other {key : String} (other : changedKey? operation ≠ some key) :
    (effect window server operation).2.get? key = server.items.get? key := by
  cases operation with
  | isBlocked identity => rfl
  | increment identity =>
      -- Both commands of the transaction are about the same key.
      have creates : (creation window identity).key? ≠ some key := other
      have raises : (Command.increment (counterKey identity)).key? ≠ some key := other
      simp only [effect, transaction, Server.carryOutAll]
      rw [carryOut_of_other raises, carryOut_of_other creates]
  | block identity span =>
      have differs : key ≠ blockedKey identity := fun same => other (congrArg some same.symm)
      simp only [effect]
      split
      · rfl
      · simp [Table.get?_insert, differs]
  | reset identity =>
      have differs : key ≠ counterKey identity := fun same => other (congrArg some same.symm)
      simp [effect, Table.get?_erase, differs]
  | ping => rfl
  | close => rfl

/-- Only raises and resets of an identity change what lies under the key of its counter. -/
theorem effect_counterKey (unraised : operation ≠ .increment identity)
    (unreset : operation ≠ .reset identity) :
    (effect window server operation).2.get? (counterKey identity) =
      server.items.get? (counterKey identity) := by
  apply effect_of_other
  cases operation with
  | increment subject => simpa [changedKey?, counterKey_inj] using unraised
  | reset subject => simpa [changedKey?, counterKey_inj] using unreset
  | block subject span => simpa [changedKey?] using (counterKey_ne_blockedKey identity subject).symm
  | _ => simp [changedKey?]

theorem effect_blockedKey (unblocked : ∀ span, operation ≠ .block identity span) :
    (effect window server operation).2.get? (blockedKey identity) =
      server.items.get? (blockedKey identity) := by
  apply effect_of_other
  cases operation with
  | block subject span => simpa [changedKey?, blockedKey_inj] using unblocked span
  | increment subject => simpa [changedKey?] using counterKey_ne_blockedKey subject identity
  | reset subject => simpa [changedKey?] using counterKey_ne_blockedKey subject identity
  | _ => simp [changedKey?]

theorem effect_of_foreign {key : String}
    (foreign : ∀ identity, key ≠ counterKey identity ∧ key ≠ blockedKey identity) :
    (effect window server operation).2.get? key = server.items.get? key := by
  apply effect_of_other
  cases operation with
  | increment subject => simpa [changedKey?] using (foreign subject).1.symm
  | reset subject => simpa [changedKey?] using (foreign subject).1.symm
  | block subject span => simpa [changedKey?] using (foreign subject).2.symm
  | _ => simp [changedKey?]

/-! ## Exchanges -/

theorem exchange_cons {server final : Server} {connection last : Connection} {command : Command}
    {rest : List Command} {list : List Reply}
    (exchanged : server.exchange connection (command :: rest) = (.replies list, last, final)) :
    ∃ reply replies later after, server.receive connection command = (.reply reply, later, after) ∧
      after.exchange later rest = (.replies replies, last, final) ∧ list = reply :: replies := by
  simp only [Server.exchange] at exchanged
  split at exchanged
  · simp at exchanged
  · simp at exchanged
  · next reply later after received =>
      cases onward : after.exchange later rest with
      | mk outcome finish =>
          rcases finish with ⟨endmost, ultimate⟩
          rw [onward] at exchanged
          cases outcome with
          | replies replies =>
              simp only [Prod.mk.injEq, Exchange.replies.injEq] at exchanged
              rcases exchanged with ⟨rfl, rfl, rfl⟩
              exact ⟨reply, replies, later, after, received, onward, rfl⟩
          | silence => simp at exchanged
          | hangUp => simp at exchanged

/-- As many replies come back as commands were sent. -/
theorem length_of_exchange {commands : List Command} {connection last : Connection} {final : Server}
    {replies : List Reply}
    (exchanged : server.exchange connection commands = (.replies replies, last, final)) :
    replies.length = commands.length := by
  induction commands generalizing server connection replies with
  | nil =>
      cases exchanged
      rfl
  | cons command rest ih =>
      rcases exchange_cons exchanged with ⟨reply, others, later, after, received, onward, rfl⟩
      exact congrArg Nat.succ (ih onward)

theorem receive_of_script {connection : Connection} {command : Command} {reply : Reply}
    {rest : List (Option Delivery)} (speaking : connection.silent = false)
    (scripted : server.script = some (.reply reply) :: rest) :
    ∃ queue, server.receive connection command =
      (.reply reply, ⟨queue, false⟩,
        { server with received := server.received ++ [command.words], script := rest }) := by
  refine ⟨if command = .execute then none else connection.queue, ?_⟩
  simp [Server.receive, speaking, scripted]

/-- A script of replies is what is heard over a connection that is not silent. -/
theorem exchange_of_script {commands : List Command} {connection : Connection}
    {replies : List Reply} {rest : List (Option Delivery)} (speaking : connection.silent = false)
    (scripted : server.script = replies.map (fun reply => some (.reply reply)) ++ rest)
    (length : replies.length = commands.length) :
    (server.exchange connection commands).1 = .replies replies := by
  induction commands generalizing server connection replies with
  | nil =>
      cases List.length_eq_zero_iff.mp length
      rfl
  | cons command others ih =>
      cases replies with
      | nil => cases length
      | cons reply later =>
          let after : Server :=
            { server with
              received := server.received ++ [command.words]
              script := later.map (fun reply => some (.reply reply)) ++ rest }
          have first : ∃ queue, server.receive connection command =
              (.reply reply, ⟨queue, false⟩, after) := receive_of_script speaking scripted
          rcases first with ⟨queue, received⟩
          have onward : (after.exchange ⟨queue, false⟩ others).1 = .replies later :=
            ih rfl rfl (Nat.succ.inj length)
          rcases exchanged : after.exchange ⟨queue, false⟩ others with ⟨outcome, last, final⟩
          rw [exchanged] at onward
          cases onward
          simp only [Server.exchange, received, exchanged]

/-! ## Commands that nothing comes between -/

/-- A server without a script does what it is asked for. -/
theorem receive_of_unscripted {queue : Option (List Command)} {command : Command}
    (unscripted : server.script = []) :
    server.receive ⟨queue, false⟩ command =
      (.reply (Server.serve server.manner server.now server.items queue command).1,
        ⟨(Server.serve server.manner server.now server.items queue command).2.1, false⟩,
        { server with
          items := (Server.serve server.manner server.now server.items queue command).2.2
          received := server.received ++ [command.words] }) := by
  simp [Server.receive, unscripted]

theorem serve_single {command : Command}
    (single : Adapter.commands window operation = [command]) :
    ∃ reply, Server.serve server.manner server.now server.items none command =
        (reply, none, (effect window server operation).2) ∧
      (Reply.readAll [reply]).bind (Adapter.meaning operation) =
        (effect window server operation).1 := by
  cases operation with
  | isBlocked identity =>
      simp only [Adapter.commands, List.cons.injEq, and_true] at single
      subst single
      refine ⟨_, rfl, ?_⟩
      simp only [effect]
      cases server.items.get? (blockedKey identity) <;> rfl
  | increment identity => simp [Adapter.commands] at single
  | block identity span =>
      simp only [Adapter.commands, List.cons.injEq, and_true] at single
      subst single
      cases refused : server.manner.refusal? (lifetime span) with
      | none =>
          refine ⟨.status "OK", ?_, ?_⟩
          · simp only [Server.serve, Server.carryOut, effect, refused]
            rfl
          · simp only [effect, refused]
            rfl
      | some line =>
          refine ⟨.error line, ?_, ?_⟩
          · simp only [Server.serve, Server.carryOut, effect, refused]
          · simp only [effect, refused]
            rfl
  | reset identity =>
      simp only [Adapter.commands, List.cons.injEq, and_true] at single
      subst single
      refine ⟨_, rfl, ?_⟩
      cases server.items.get? (counterKey identity) <;> rfl
  | ping =>
      simp only [Adapter.commands, List.cons.injEq, and_true] at single
      subst single
      exact ⟨_, rfl, rfl⟩
  | close => simp [Adapter.commands] at single

theorem meaning_of_increment (reply : Reply) :
    (Reply.readAll [.status "OK", .status "QUEUED", .status "QUEUED", reply]).bind
        (Adapter.meaning (.increment identity)) =
      reply.read.bind Adapter.countOf := by
  -- The earlier replies say that a queue was begun and that two commands went into it.
  have okay : (Reply.status "OK").read = .ok .okay := by simp [Reply.read]
  have queued : (Reply.status "QUEUED").read = .ok (.status "QUEUED") := by simp [Reply.read]
  simp only [Reply.readAll, okay, queued]
  cases reply.read <;> rfl

/-- The last command of an increment brings the effect of the whole. -/
theorem serve_execute :
    ∃ reply, Server.serve server.manner server.now server.items
        (some (transaction window identity)) .execute =
        (reply, none, (effect window server (.increment identity)).2) ∧
      (Reply.readAll [.status "OK", .status "QUEUED", .status "QUEUED", reply]).bind
          (Adapter.meaning (.increment identity)) =
        (effect window server (.increment identity)).1 :=
  ⟨_, rfl, meaning_of_increment _⟩

/-- A server after the commands of an operation took effect at one stroke. -/
def performed (window : Duration) (operation : Operation) (server : Server) : Server :=
  { server with
    items := (effect window server operation).2
    received := server.received ++ (Adapter.commands window operation).map Command.words }

/-- The commands of an operation, sent over a connection without a queue, take effect at one
stroke. -/
theorem exchange_commands (unscripted : server.script = []) (kept : operation ≠ .close) :
    ∃ replies,
      server.exchange .fresh (Adapter.commands window operation) =
        (.replies replies, .fresh, performed window operation server) ∧
      (Reply.readAll replies).bind (Adapter.meaning operation) =
        (effect window server operation).1 := by
  have alone {command : Command} (single : Adapter.commands window operation = [command]) :
      ∃ replies,
        server.exchange .fresh (Adapter.commands window operation) =
          (.replies replies, .fresh, performed window operation server) ∧
        (Reply.readAll replies).bind (Adapter.meaning operation) =
          (effect window server operation).1 := by
    rcases @serve_single window _ server _ single with ⟨reply, served, answer⟩
    refine ⟨[reply], ?_, answer⟩
    simp [performed, single, Server.exchange, Connection.fresh, receive_of_unscripted unscripted,
      served]
  -- Only an increment is more than one command, and it queues all but the last.
  cases operation with
  | isBlocked identity => exact alone rfl
  | increment identity =>
      rcases @serve_execute window identity server with ⟨reply, served, answer⟩
      refine ⟨_, ?_, answer⟩
      simp only [Server.serve, transaction, creation, Prod.mk.injEq, true_and] at served
      simpa [performed, Adapter.commands, Server.exchange, Connection.fresh,
        receive_of_unscripted, unscripted, Server.serve] using served
  | block identity span => exact alone rfl
  | reset identity => exact alone rfl
  | ping => exact alone rfl
  | close => exact absurd rfl kept

/-! ## Adapters and deployments -/

theorem report_ok {α : Type} (value : α) : Adapter.report (.ok value) = .answers none (.ok value) :=
  rfl

theorem report_error {α : Type} (fault : Fault) :
    (Adapter.report (.error fault) : Arrival α) =
      .answers none (.error (.reported (.remote fault))) := rfl

/-- The commands of an operation, sent over a fresh connection to a server without a script, take
effect at one stroke and leave the connection as fresh as it was. -/
theorem transact_of_fresh {adapter : Adapter} (unscripted : server.script = [])
    (kept : operation ≠ .close) :
    adapter.transact operation .fresh server =
      (Adapter.report (effect adapter.window server operation).1,
        { adapter with link := .connected .fresh },
        performed adapter.window operation server) := by
  rcases @exchange_commands adapter.window _ _ unscripted kept with ⟨replies, exchanged, answer⟩
  simp only [Adapter.transact, exchanged, Exchange.read, answer]

/-- An adapter with a fresh connection to a server without a script performs its operations at one
stroke, and its connection is as fresh afterwards. -/
theorem perform_connected {adapter : Adapter} {route : Route}
    (connected : adapter.link = .connected .fresh) (unscripted : server.script = [])
    (kept : operation ≠ .close) :
    adapter.perform route operation server =
      (Adapter.report (effect adapter.window server operation).1, adapter,
        performed adapter.window operation server) := by
  rcases adapter with ⟨address, window, link⟩
  cases connected
  cases operation with
  | close => exact absurd rfl kept
  | _ => exact transact_of_fresh unscripted kept

/-- Adapters with one window, connected to a server without a script. -/
structure Deployment.Ready (window : Duration) (deployment : Deployment) : Prop where
  unscripted : deployment.server.script = []
  connected : ∀ adapter ∈ deployment.adapters,
    adapter.window = window ∧ adapter.link = .connected .fresh

theorem Deployment.Ready.perform {deployment : Deployment} {index : Nat}
    (ready : deployment.Ready window) (present : index < deployment.adapters.length)
    (kept : operation ≠ .close) :
    deployment.perform index operation =
      (Adapter.report (effect window deployment.server operation).1,
        { deployment with server := performed window operation deployment.server }) := by
  have found : deployment.adapters[index]? = some deployment.adapters[index] :=
    List.getElem?_eq_getElem present
  rcases ready.connected _ (List.getElem_mem present) with ⟨sameWindow, connected⟩
  simp [Deployment.perform, found, perform_connected connected ready.unscripted kept, sameWindow]

end AdmissionControl.Remote
