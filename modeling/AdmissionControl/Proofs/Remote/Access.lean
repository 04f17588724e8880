import AdmissionControl.Proofs.Remote.Joining
import AdmissionControl.Proofs.Remote.Sending

/-!
# Access to a server without a script

An adapter of a server without a script either reaches it, and then its operations have their effect
at one stroke, or it is at an impasse and none of them gets to the keys: the adapter was closed, its
connection does not answer any more, or the connection was lost and no other can be opened. Which of
the two it is does not change with what anybody does, except that an adapter may be closed
(`Deployment.Steady.perform`).

No transaction is ever left open on a connection over which something may still be sent. Of the
states that deployments get into (`Deployment.Steady`) nothing else is asked, and nothing at all of
what lies under the keys.
-/

namespace AdmissionControl.Remote

/-- Why an adapter does not get to the keys. -/
inductive Impasse where
  | closed
  | silent
  | unreachable
deriving DecidableEq

def Impasse.arrival {α : Type} : Impasse → Arrival α
  | .closed => .answers none (.error (.reported .storeClosed))
  | .silent => .hangs
  | .unreachable => Adapter.report (.error .unreachable)

theorem Impasse.arrival_ne_ok {α : Type} {wait : Option Duration} {result : α}
    (impasse : Impasse) : impasse.arrival ≠ .answers wait (.ok result) := by
  cases impasse <;> exact nofun

/-- At an impasse every operation fails alike. -/
theorem Impasse.arrival_of_failure {α β : Type} {wait : Option Duration} {failure : Failure}
    {impasse : Impasse} (failed : (impasse.arrival : Arrival α) = .answers wait (.error failure)) :
    (impasse.arrival : Arrival β) = .answers none (.error failure) := by
  cases impasse <;> cases failed <;> rfl

namespace Link

def impasse? (route : Route) : Link → Option Impasse
  | .connected connection => if connection.silent then some .silent else none
  | .lost =>
      match route with
      | .reachable => none
      | .unreachable => some .unreachable
  | .closed => some .closed

/-- No transaction is open where something may still be sent. -/
def Settled : Link → Prop
  | .connected connection => connection.silent = false → connection = .fresh
  | .lost => True
  | .closed => True

end Link

/-- How an adapter gets to the keys: with the window that it gives to counters, or not at all. -/
def Adapter.access (adapter : Adapter) (route : Route) : Except Impasse Duration :=
  match adapter.link.impasse? route with
  | some impasse => .error impasse
  | none => .ok adapter.window

section

variable {server : Server} {connection : Connection} {adapter : Adapter} {route : Route}
  {address : Address} {operation : Operation} {impasse : Impasse}

/-! ## What becomes of an operation -/

theorem exchange_of_silent {command : Command} {rest : List Command}
    (unscripted : server.script = []) (silent : connection.silent = true) :
    ∃ received, server.exchange connection (command :: rest) =
      (.silence, connection, { server with received }) := by
  induction rest generalizing server command with
  | nil => exact ⟨_, by simp [Server.exchange, Server.receive, silent, unscripted]; rfl⟩
  | cons next rest ih =>
      let noted : Server := { server with received := server.received ++ [command.words] }
      rcases @ih noted next unscripted with ⟨received, exchanged⟩
      refine ⟨received, ?_⟩
      have heard : server.receive connection command = (.silence, connection, noted) := by
        simp [Server.receive, silent, unscripted, noted]
      rw [Server.exchange, heard]
      simp only [exchanged]
      rfl

theorem openWithRetries_of_unreachable (retries : Nat) :
    openWithRetries .unreachable address retries server = (.done (.error .unreachable), server) := by
  induction retries with
  | zero => rfl
  | succ retries ih => simpa only [openWithRetries, openConnection] using ih

theorem commands_ne_nil (window : Duration) (kept : operation ≠ .close) :
    ∃ command rest, Adapter.commands window operation = command :: rest := by
  cases operation with
  | close => exact absurd rfl kept
  | _ => exact ⟨_, _, rfl⟩

/-- At an impasse a server is told something at most. -/
theorem perform_of_impasse (unscripted : server.script = []) (kept : operation ≠ .close)
    (stuck : adapter.link.impasse? route = some impasse) :
    ∃ received, adapter.perform route operation server =
      (impasse.arrival, adapter, { server with received }) := by
  rw [Adapter.perform_of_kept kept]
  rcases adapter with ⟨address, window, link⟩
  cases link with
  | closed =>
      cases stuck
      exact ⟨server.received, rfl⟩
  | connected connection =>
      simp only [Link.impasse?, Option.ite_none_right_eq_some, Option.some.injEq] at stuck
      rcases stuck with ⟨silent, rfl⟩
      rcases commands_ne_nil window kept with ⟨command, rest, sent⟩
      rcases @exchange_of_silent _ _ command rest unscripted silent with ⟨received, exchanged⟩
      refine ⟨received, ?_⟩
      simp only [Adapter.transact, sent, exchanged]
      rfl
  | lost =>
      cases route with
      | reachable => cases stuck
      | unreachable =>
          cases stuck
          refine ⟨server.received, ?_⟩
          simp only [openWithRetries_of_unreachable]
          rfl

/-- An adapter that reaches the server performs an operation at one stroke, and reaches it
afterwards. If it has to, it opens a connection first. -/
theorem perform_of_access (unscripted : server.script = []) (kept : operation ≠ .close)
    (settled : adapter.link.Settled) (free : adapter.link.impasse? route = none) :
    ∃ opening : List Command, (∀ command ∈ opening, command.Opens) ∧
      adapter.perform route operation server =
        (Adapter.report (effect adapter.window server operation).1,
          { adapter with link := .connected .fresh },
          { server with
            items := (effect adapter.window server operation).2
            received := server.received ++
              (opening ++ Adapter.commands adapter.window operation).map Command.words }) := by
  rw [Adapter.perform_of_kept kept]
  cases link : adapter.link with
  | closed =>
      rw [link] at free
      cases free
  | connected connection =>
      rw [link] at free settled
      have speaking : connection.silent = false := by simpa [Link.impasse?] using free
      have fresh : connection = .fresh := settled speaking
      subst fresh
      exact ⟨[], nofun, transact_of_fresh unscripted kept⟩
  | lost =>
      cases route with
      | unreachable =>
          rw [link] at free
          cases free
      | reachable =>
          rcases @openConnection_of_unscripted server adapter.address unscripted with
            ⟨received, opened⟩
          rcases Server.Received.carries.openConnection (fun _ opens => opens) opened with
            ⟨opening, sent, opens⟩
          refine ⟨opening, opens, ?_⟩
          simp only [retries, openWithRetries, opened]
          simp only at sent
          rw [List.map_append, ← List.append_assoc, ← sent]
          exact transact_of_fresh unscripted kept

end

/-! ## Deployments -/

namespace Deployment

/-- How the adapter at an index gets to the keys. Where there is none, it is closed. -/
def access (deployment : Deployment) (index : Nat) : Except Impasse Duration :=
  match deployment.adapters[index]? with
  | some adapter => adapter.access deployment.route
  | none => .error .closed

/-- What an operation through the adapter at an index comes to, and what it leaves under the keys. -/
def outcome (deployment : Deployment) (index : Nat) (operation : Operation) :
    Arrival operation.Result × Table String Item :=
  match deployment.access index with
  | .error impasse => (impasse.arrival, deployment.server.items)
  | .ok window =>
      let (answer, items) := effect window deployment.server operation
      (Adapter.report answer, items)

/-- The server has no script, and its adapters left no transaction open. -/
structure Steady (deployment : Deployment) : Prop where
  unscripted : deployment.server.script = []
  settled : ∀ adapter ∈ deployment.adapters, adapter.link.Settled

variable {deployment : Deployment} {index other : Nat} {operation : Operation} {adapter : Adapter}
  {window : Duration}

theorem outcome_of_impasse {impasse : Impasse} (stuck : deployment.access index = .error impasse) :
    deployment.outcome index operation = (impasse.arrival, deployment.server.items) := by
  simp only [outcome, stuck]

theorem outcome_of_access (reaches : deployment.access index = .ok window) :
    deployment.outcome index operation =
      (Adapter.report (effect window deployment.server operation).1,
        (effect window deployment.server operation).2) := by
  simp only [outcome, reaches]

theorem outcome_isBlocked_snd (deployment : Deployment) (index : Nat) (identity : Identity) :
    (deployment.outcome index (.isBlocked identity)).2 = deployment.server.items := by
  unfold outcome
  cases deployment.access index <;> rfl

theorem access_set {server : Server} (present : deployment.adapters[index]? = some adapter)
    (later : Adapter) :
    ({ deployment with server, adapters := deployment.adapters.set index later }).access other =
      if other = index then later.access deployment.route else deployment.access other := by
  have within := (List.getElem?_eq_some_iff.mp present).1
  by_cases same : other = index
  · subst same
    simp [access, within]
  · simp [access, List.getElem?_set_ne (Ne.symm same), same]

theorem access_append (deployment : Deployment) (server : Server) (adapter : Adapter) :
    ({ deployment with server, adapters := deployment.adapters ++ [adapter] }).access other =
      if other = deployment.adapters.length then adapter.access deployment.route
      else deployment.access other := by
  by_cases last : other = deployment.adapters.length
  · simp [access, last]
  · simp only [access, if_neg last]
    rcases Nat.lt_or_gt_of_ne last with old | beyond
    · rw [List.getElem?_append_left old]
    · have within : deployment.adapters.length ≤ other := Nat.le_of_lt beyond
      rw [List.getElem?_eq_none within, List.getElem?_eq_none]
      rw [List.length_append]
      exact beyond

theorem connect_of_unreachable {url : String} (unreachable : deployment.route = .unreachable)
    (window : Duration) : (deployment.connect url window).2.2 = deployment := by
  rcases deployment with ⟨route, server, adapters⟩
  cases unreachable
  unfold Deployment.connect
  cases Address.ofUrl url with
  | error problem => rfl
  | ok address => simp only [openWithRetries_of_unreachable]

theorem Ready.steady (ready : deployment.Ready window) : deployment.Steady where
  unscripted := ready.unscripted
  settled := by
    intro adapter member
    rw [(ready.connected adapter member).2]
    exact fun _ => rfl

namespace Steady

/-- What a deployment is after an operation: it is as steady as before, its adapters get to the keys
as they did, and what lies under the keys is what the operation left there. -/
structure After (index : Nat) (operation : Operation) (before after : Deployment) : Prop where
  steady : after.Steady
  route : after.route = before.route
  adapters : after.adapters.length = before.adapters.length
  manner : after.server.manner = before.server.manner
  now : after.server.now = before.server.now
  items : after.server.items = (before.outcome index operation).2
  access : ∀ other, after.access other = before.access other
  received : ∀ window, before.access index = .ok window →
    ∃ opening : List Command, (∀ command ∈ opening, command.Opens) ∧
      after.server.received = before.server.received ++
        (opening ++ Adapter.commands window operation).map Command.words

/-- After an operation that changed nothing every other comes to what it would have come to. -/
theorem After.outcome_eq {before after : Deployment} {next : Operation}
    (performed : After index operation before after)
    (unchanged : (before.outcome index operation).2 = before.server.items) (other : Nat) :
    after.outcome other next = before.outcome other next := by
  have items : after.server.items = before.server.items := performed.items.trans unchanged
  unfold outcome
  rw [performed.access, items]
  cases before.access other with
  | error impasse => rfl
  | ok window => simp only [effect_eq performed.manner performed.now items]

theorem settled_set (steady : deployment.Steady) {server : Server} {later : Adapter}
    (unscripted : server.script = []) (settled : later.link.Settled) :
    Steady { deployment with server, adapters := deployment.adapters.set index later } where
  unscripted := unscripted
  settled := by
    intro adapter member
    rcases List.mem_or_eq_of_mem_set member with old | new
    · exact steady.settled adapter old
    · exact new ▸ settled

/-- Every operation but closing comes to its outcome, and closes no access. -/
theorem perform (steady : deployment.Steady) (index : Nat) (kept : operation ≠ .close) :
    (deployment.perform index operation).1 = (deployment.outcome index operation).1 ∧
      After index operation deployment (deployment.perform index operation).2 := by
  cases present : deployment.adapters[index]? with
  | none =>
      have none : deployment.access index = .error .closed := by simp [access, present]
      simp only [Deployment.perform, present, outcome_of_impasse none]
      refine ⟨rfl, steady, rfl, rfl, rfl, rfl, ?_, fun _ => rfl, ?_⟩
      · rw [outcome_of_impasse none]
      · intro window reaches
        cases none.symm.trans reaches
  | some adapter =>
      have settled := steady.settled adapter (List.mem_of_getElem? present)
      have own : deployment.access index = adapter.access deployment.route := by
        simp [access, present]
      cases free : adapter.link.impasse? deployment.route with
      | some impasse =>
          have stuck : deployment.access index = .error impasse := by
            rw [own, Adapter.access, free]
          rcases perform_of_impasse steady.unscripted kept free with ⟨received, outcome⟩
          simp only [Deployment.perform, present, outcome, outcome_of_impasse stuck]
          refine ⟨trivial, steady.settled_set steady.unscripted settled, rfl, List.length_set, rfl,
            rfl, ?_, ?_, ?_⟩
          · rw [outcome_of_impasse stuck]
          · intro other
            rw [access_set present]
            split
            · next same => rw [same, own]
            · rfl
          · intro window reaches
            cases stuck.symm.trans reaches
      | none =>
          have reaches : deployment.access index = .ok adapter.window := by
            rw [own, Adapter.access, free]
          rcases perform_of_access steady.unscripted kept settled free with
            ⟨opening, opens, outcome⟩
          simp only [Deployment.perform, present, outcome, outcome_of_access reaches]
          refine ⟨trivial, steady.settled_set steady.unscripted (fun _ => rfl), rfl,
            List.length_set, rfl, rfl, ?_, ?_, ?_⟩
          · rw [outcome_of_access reaches]
          · intro other
            rw [access_set present]
            split
            · next same =>
                rw [same, reaches]
                rfl
            · rfl
          · intro window same
            cases reaches.symm.trans same
            exact ⟨opening, opens, rfl⟩

/-- Closing an adapter closes its access and changes nothing else. -/
theorem perform_close (steady : deployment.Steady) (index : Nat) :
    let after := (deployment.perform index .close).2
    after.Steady ∧ after.route = deployment.route ∧ after.server = deployment.server ∧
      after.adapters.length = deployment.adapters.length ∧
      ∀ other, after.access other =
        if other = index then .error .closed else deployment.access other := by
  intro after
  cases present : deployment.adapters[index]? with
  | none =>
      have same : after = deployment := by simp [after, Deployment.perform, present]
      rw [same]
      refine ⟨steady, rfl, rfl, rfl, fun other => ?_⟩
      split
      · next own => simp [access, own, present]
      · rfl
  | some adapter =>
      have same : after = { deployment with
          adapters := deployment.adapters.set index { adapter with link := .closed } } := by
        simp [after, Deployment.perform, present, Adapter.perform]
      rw [same]
      refine ⟨steady.settled_set steady.unscripted trivial, rfl, rfl, List.length_set,
        fun other => ?_⟩
      exact access_set present _

/-- A server without a script that can be reached takes every adapter whose address is read. -/
theorem connect_of_usable (steady : deployment.Steady) {url : String} {address : Address}
    (usable : Address.ofUrl url = .ok address) (reachable : deployment.route = .reachable)
    (window : Duration) :
    ∃ received, deployment.connect url window =
      (.done (.ok ()), [connectedEvent url window],
        { deployment with
          server := { deployment.server with received }
          adapters := deployment.adapters ++ [⟨address, window, .connected .fresh⟩] }) := by
  rcases @openConnection_of_unscripted deployment.server address steady.unscripted with
    ⟨received, opened⟩
  refine ⟨received, ?_⟩
  simp only [Deployment.connect, usable, reachable, retries, openWithRetries, opened]

theorem connected (steady : deployment.Steady) (received : List (List String)) (address : Address)
    (window : Duration) :
    Steady { deployment with
      server := { deployment.server with received }
      adapters := deployment.adapters ++ [⟨address, window, .connected .fresh⟩] } where
  unscripted := steady.unscripted
  settled := by
    intro adapter member
    rcases List.mem_append.mp member with old | new
    · exact steady.settled adapter old
    · rw [List.mem_singleton.mp new]
      exact fun _ => rfl

theorem connect (steady : deployment.Steady) {url : String} {logged : List LogEvent}
    {connected : Deployment}
    (joined : deployment.connect url window = (.done (.ok ()), logged, connected)) :
    connected.Steady ∧ connected.access deployment.adapters.length = .ok window := by
  cases usable : Address.ofUrl url with
  | error problem => simp [Deployment.connect, usable] at joined
  | ok address =>
      cases route : deployment.route with
      | unreachable =>
          simp [Deployment.connect, usable, route, openWithRetries_of_unreachable] at joined
      | reachable =>
          rcases steady.connect_of_usable usable route window with ⟨received, taken⟩
          rw [taken] at joined
          cases joined
          refine ⟨steady.connected received address window, ?_⟩
          rw [access_append, if_pos rfl]
          rfl

end Steady

end Deployment

end AdmissionControl.Remote
