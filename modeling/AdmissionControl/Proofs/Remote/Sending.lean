import AdmissionControl.Remote.Adapter

/-!
# What an adapter sends

An adapter sends a server the commands of the operation that it performs, and those that open a
connection where it has lost its own. Whatever each of these commands leaves as it was, or carries
on from state to state, is so left or carried on by the operation (`Server.Carries`), whatever the
server answers and also where the adapter gives up in the middle.

Two such relations: what the server received were permitted commands (`Server.Received`), and
nothing changed under any key (`Deployment.items_of_ping`).
-/

namespace AdmissionControl.Remote

/-- What an adapter does for an operation other than closing depends on its link alone. -/
theorem Adapter.perform_of_kept {adapter : Adapter} {route : Route} {operation : Operation}
    {server : Server} (kept : operation ≠ .close) :
    adapter.perform route operation server =
      match adapter.link with
      | .closed => (.answers none (.error (.reported .storeClosed)), adapter, server)
      | .connected connection => adapter.transact operation connection server
      | .lost =>
          match openWithRetries route adapter.address retries server with
          | (.silence, after) => (.hangs, adapter, after)
          | (.done (.error fault), after) => (Adapter.report (.error fault), adapter, after)
          | (.done (.ok connection), after) => adapter.transact operation connection after := by
  cases operation with
  | close => exact absurd rfl kept
  | _ =>
      unfold Adapter.perform
      cases adapter.link <;> rfl

/-- A command that is sent on a new connection before it is used. -/
inductive Command.Opens : Command → Prop
  | authenticate (user : Option String) (password : String) : Opens (.authenticate user password)
  | select (database : Int) : Opens (.select database)

/-- A command that an adapter may send for an operation. -/
def Adapter.Sends (window : Duration) (operation : Operation) (command : Command) : Prop :=
  command.Opens ∨ command ∈ Adapter.commands window operation

/-- Only the setting of a block sends a value for the key of a block. -/
theorem Adapter.Sends.ne_set {window : Duration} {operation : Operation} {command : Command}
    (sends : Adapter.Sends window operation command)
    (unblocking : ∀ identity span, operation ≠ .block identity span) (subject : Identity)
    (value : String) (once : Bool) (lifetime : UInt64) :
    command ≠ .set (blockedKey subject) value once lifetime := by
  rintro rfl
  rcases sends with opens | member
  · cases opens
  · cases operation with
    | increment identity =>
        simp only [commands, List.mem_cons, reduceCtorEq, Command.set.injEq, List.not_mem_nil,
          or_false, false_or] at member
        exact counterKey_ne_blockedKey identity subject member.1.symm
    | block identity span => exact unblocking identity span rfl
    | _ => simp [commands] at member

/-! ## From commands to operations -/

/-- A relation between earlier and later states of a server that every permitted command carries
on, however it is delivered. -/
structure Server.Carries (permitted : Command → Prop) (related : Server → Server → Prop) :
    Prop where
  refl (server : Server) : related server server
  trans {before between after : Server} :
    related before between → related between after → related before after
  receive {server after : Server} {connection later : Connection} {command : Command}
    {delivery : Delivery} : permitted command →
    server.receive connection command = (delivery, later, after) → related server after

namespace Server.Carries

variable {permitted : Command → Prop} {related : Server → Server → Prop} {server after : Server}
  {connection : Connection} {commands : List Command} {command : Command} {route : Route}
  {address : Address} (carries : Server.Carries permitted related)

include carries

/-- However an exchange ends, it went from command to command. -/
theorem exchange {outcome : Exchange} {later : Connection}
    (allowed : ∀ command ∈ commands, permitted command)
    (exchanged : server.exchange connection commands = (outcome, later, after)) :
    related server after := by
  induction commands generalizing server connection outcome later after with
  | nil =>
      cases exchanged
      exact carries.refl _
  | cons command rest ih =>
      rcases received : server.receive connection command with ⟨delivery, next, between⟩
      rcases onward : between.exchange next rest with ⟨others, last, final⟩
      have first : related server between :=
        carries.receive (allowed command List.mem_cons_self) received
      have further : related between final :=
        ih (fun command member => allowed command (List.mem_cons_of_mem _ member)) onward
      simp only [Server.exchange, received] at exchanged
      cases delivery with
      | hangUp =>
          cases exchanged
          exact first
      | silence =>
          simp only [onward] at exchanged
          cases exchanged
          exact carries.trans first further
      | reply reply =>
          simp only [onward] at exchanged
          cases others <;> cases exchanged <;> exact carries.trans first further

theorem requireOkay {outcome : Exchanged Unit} {later : Connection} (allowed : permitted command)
    (required : requireOkay server connection command = (outcome, later, after)) :
    related server after := by
  rcases exchanged : server.exchange connection [command] with ⟨heard, next, between⟩
  have sent : related server between :=
    carries.exchange (fun other member => List.mem_singleton.mp member ▸ allowed) exchanged
  simp only [Remote.requireOkay, exchanged] at required
  split at required <;> cases required <;> exact sent

section

variable (opening : ∀ command : Command, command.Opens → permitted command)

include opening

theorem authenticate {outcome : Exchanged Unit} {later : Connection}
    (shown : authenticate address server connection = (outcome, later, after)) :
    related server after := by
  unfold Remote.authenticate at shown
  cases credentials : address.password with
  | none =>
      simp only [credentials] at shown
      cases shown
      exact carries.refl _
  | some password =>
      simp only [credentials] at shown
      split at shown
      · next fault next between refused =>
          have first := carries.requireOkay (opening _ (.authenticate _ _)) refused
          split at shown
          · split at shown
            · next again =>
                cases shown
                exact carries.trans first
                  (carries.requireOkay (opening _ (.authenticate _ _)) again)
            · exact carries.trans first
                (carries.requireOkay (opening _ (.authenticate _ _)) shown)
          · cases shown
            exact first
      · exact carries.requireOkay (opening _ (.authenticate _ _)) shown

theorem chooseDatabase {outcome : Exchanged Unit} {later : Connection}
    (chosen : chooseDatabase address server connection = (outcome, later, after)) :
    related server after := by
  unfold Remote.chooseDatabase at chosen
  split at chosen
  · cases chosen
    exact carries.refl _
  · split at chosen
    · next refused =>
        cases chosen
        exact carries.requireOkay (opening _ (.select _)) refused
    · exact carries.requireOkay (opening _ (.select _)) chosen

theorem openConnection {outcome : Exchanged Connection}
    (opened : openConnection route address server = (outcome, after)) : related server after := by
  cases route with
  | unreachable =>
      cases opened
      exact carries.refl _
  | reachable =>
      rcases shown : Remote.authenticate address server .fresh with ⟨first, next, between⟩
      rcases chosen : Remote.chooseDatabase address between next with ⟨second, last, final⟩
      have greeted := carries.authenticate opening shown
      have ready := carries.trans greeted (carries.chooseDatabase opening chosen)
      simp only [Remote.openConnection, shown] at opened
      cases first with
      | silence =>
          cases opened
          exact greeted
      | done permission =>
          cases permission with
          | error fault =>
              cases opened
              exact greeted
          | ok granted =>
              simp only [chosen] at opened
              cases second with
              | silence =>
                  cases opened
                  exact ready
              | done choice => cases choice <;> cases opened <;> exact ready

theorem openWithRetries {outcome : Exchanged Connection} {retries : Nat}
    (opened : openWithRetries route address retries server = (outcome, after)) :
    related server after := by
  induction retries generalizing server with
  | zero => exact carries.openConnection opening opened
  | succ retries ih =>
      simp only [Remote.openWithRetries] at opened
      split at opened
      · next failed => exact carries.trans (carries.openConnection opening failed) (ih opened)
      · exact carries.openConnection opening opened

end

variable {operation : Operation} {adapter later : Adapter} {arrival : Arrival operation.Result}

theorem transact
    (allowed : ∀ command ∈ Adapter.commands adapter.window operation, permitted command)
    (transacted : adapter.transact operation connection server = (arrival, later, after)) :
    related server after := by
  rcases exchanged : server.exchange connection (Adapter.commands adapter.window operation) with
    ⟨heard, next, between⟩
  have sent := carries.exchange allowed exchanged
  simp only [Adapter.transact, exchanged] at transacted
  cases transacted
  exact sent

theorem perform (kept : operation ≠ .close)
    (allowed : ∀ command, Adapter.Sends adapter.window operation command → permitted command)
    (performed : adapter.perform route operation server = (arrival, later, after)) :
    related server after := by
  have opening (command : Command) (opens : command.Opens) := allowed command (.inl opens)
  rw [Adapter.perform_of_kept kept] at performed
  cases link : adapter.link with
  | closed =>
      simp only [link] at performed
      cases performed
      exact carries.refl _
  | connected connection =>
      simp only [link] at performed
      exact carries.transact (fun command member => allowed command (.inr member)) performed
  | lost =>
      simp only [link] at performed
      rcases opened : Remote.openWithRetries route adapter.address retries server with
        ⟨outcome, between⟩
      have greeted := carries.openWithRetries opening opened
      simp only [opened] at performed
      cases outcome with
      | silence =>
          cases performed
          exact greeted
      | done connected =>
          cases connected with
          | error fault =>
              cases performed
              exact greeted
          | ok connection =>
              exact carries.trans greeted
                (carries.transact (fun command member => allowed command (.inr member)) performed)

end Server.Carries

/-- What the commands of an operation and the opening of a connection carry on, a deployment carries
on that performs the operation. -/
theorem Deployment.carries_of_perform {permitted : Command → Prop}
    {related : Server → Server → Prop} (carries : Server.Carries permitted related)
    {deployment : Deployment} {index : Nat} {operation : Operation} (kept : operation ≠ .close)
    (allowed : ∀ window command, Adapter.Sends window operation command → permitted command) :
    related deployment.server (deployment.perform index operation).2.server := by
  cases present : deployment.adapters[index]? with
  | none =>
      simp only [Deployment.perform, present]
      exact carries.refl _
  | some adapter =>
      rcases performed : adapter.perform deployment.route operation deployment.server with
        ⟨arrival, later, after⟩
      simp only [Deployment.perform, present, performed]
      exact carries.perform kept (allowed adapter.window) performed

/-! ## What a server receives -/

/-- What a server received from one state to another were permitted commands. -/
def Server.Received (permitted : Command → Prop) (before after : Server) : Prop :=
  ∃ sent : List Command, after.received = before.received ++ sent.map Command.words ∧
    ∀ command ∈ sent, permitted command

namespace Server.Received

variable {permitted : Command → Prop} {before between after : Server}

theorem refl (server : Server) : server.Received permitted server :=
  ⟨[], (List.append_nil _).symm, nofun⟩

theorem trans (first : before.Received permitted between)
    (second : between.Received permitted after) : before.Received permitted after := by
  rcases first with ⟨earlier, receivedEarlier, permittedEarlier⟩
  rcases second with ⟨later, receivedLater, permittedLater⟩
  refine ⟨earlier ++ later, ?_, ?_⟩
  · rw [receivedLater, receivedEarlier, List.map_append, List.append_assoc]
  · intro command member
    rcases List.mem_append.mp member with member | member
    · exact permittedEarlier command member
    · exact permittedLater command member

theorem mono {wider : Command → Prop} (received : before.Received permitted after)
    (weaker : ∀ command, permitted command → wider command) : before.Received wider after := by
  rcases received with ⟨sent, same, allowed⟩
  exact ⟨sent, same, fun command member => weaker command (allowed command member)⟩

theorem carries : Server.Carries permitted (Server.Received permitted) where
  refl := refl
  trans := trans
  receive := by
    intro server after connection later command delivery allowed received
    refine ⟨[command], ?_, ?_⟩
    · simp only [Server.receive] at received
      split at received
      · cases received
        rfl
      · split at received <;> cases received <;> rfl
    · intro other member
      rwa [List.mem_singleton.mp member]

end Server.Received

/-- Whatever a deployment does for an operation, the server receives nothing but its commands and
those that open a connection. -/
theorem Deployment.received_of_perform {deployment : Deployment} {index : Nat}
    {operation : Operation} (kept : operation ≠ .close) :
    deployment.server.Received (fun command => ∃ window, Adapter.Sends window operation command)
      (deployment.perform index operation).2.server :=
  Deployment.carries_of_perform Server.Received.carries kept
    fun window _ sends => ⟨window, sends⟩

/-! ## What lies under the keys -/

/-- A command that looks at no key. -/
def Command.Keyless (command : Command) : Prop :=
  command.Opens ∨ command = .ping

theorem Server.serve_of_keyless {manner : Manner} {now : Instant} {items : Table String Item}
    {queue : Option (List Command)} {command : Command} (keyless : command.Keyless) :
    (serve manner now items queue command).2.2 = items := by
  rcases keyless with opens | rfl
  · cases opens with
    | authenticate user password => cases queue <;> rfl
    | select database => cases queue <;> rfl
  · cases queue <;> rfl

theorem Server.carries_items_of_keyless :
    Server.Carries Command.Keyless fun before after => after.items = before.items where
  refl _ := rfl
  trans first second := second.trans first
  receive := by
    intro server after connection later command delivery keyless received
    simp only [Server.receive] at received
    split at received
    · cases received
      rfl
    · split at received
      · cases received
        rfl
      · cases received
        exact Server.serve_of_keyless keyless

/-- A round trip to the server leaves everything as it is. -/
theorem Deployment.items_of_ping {deployment : Deployment} {index : Nat} :
    (deployment.perform index .ping).2.server.items = deployment.server.items := by
  refine Deployment.carries_of_perform Server.carries_items_of_keyless nofun ?_
  intro window command sends
  rcases sends with opens | member
  · exact .inl opens
  · exact .inr (List.mem_singleton.mp member)

end AdmissionControl.Remote
