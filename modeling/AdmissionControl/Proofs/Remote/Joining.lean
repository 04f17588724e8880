import AdmissionControl.Proofs.Remote.Effect

/-!
# Connecting to a server

A server without a script takes every connection: it accepts any password and any database. So a
number of adapters can be connected to it, and all of them are ready (`Deployment.fresh_joined`).
-/

namespace AdmissionControl.Remote

variable {server : Server} {address : Address} {window : Duration}

theorem requireOkay_of_unscripted {command : Command} (unscripted : server.script = [])
    (okay : Server.serve server.manner server.now server.items none command =
      (.status "OK", none, server.items)) :
    ∃ received, requireOkay server .fresh command =
      (.done (.ok ()), .fresh, { server with received }) := by
  refine ⟨server.received ++ [command.words], ?_⟩
  simp [requireOkay, Server.exchange, Connection.fresh, receive_of_unscripted unscripted, okay,
    Exchange.read, Reply.readAll, Reply.read, Except.map]

theorem authenticate_of_unscripted (unscripted : server.script = []) :
    ∃ received, authenticate address server .fresh =
      (.done (.ok ()), .fresh, { server with received }) := by
  unfold authenticate
  cases address.password with
  | none => exact ⟨server.received, rfl⟩
  | some password =>
      rcases @requireOkay_of_unscripted server (.authenticate address.user password) unscripted rfl
        with ⟨received, shown⟩
      exact ⟨received, by simp only [shown]⟩

theorem chooseDatabase_of_unscripted (unscripted : server.script = []) :
    ∃ received, chooseDatabase address server .fresh =
      (.done (.ok ()), .fresh, { server with received }) := by
  unfold chooseDatabase
  split
  · exact ⟨server.received, rfl⟩
  · rcases @requireOkay_of_unscripted server (.select address.database) unscripted rfl
      with ⟨received, chosen⟩
    exact ⟨received, by simp only [chosen]⟩

/-- A server without a script takes every connection. -/
theorem openConnection_of_unscripted (unscripted : server.script = []) :
    ∃ received, openConnection .reachable address server =
      (.done (.ok .fresh), { server with received }) := by
  rcases @authenticate_of_unscripted server address unscripted with ⟨received, authenticated⟩
  rcases @chooseDatabase_of_unscripted { server with received } address unscripted with
    ⟨heard, chosen⟩
  exact ⟨heard, by simp only [openConnection, authenticated, chosen]⟩

namespace Deployment

/-- An empty server to which a number of adapters were connected. -/
def joined (url : String) (window : Duration) : Nat → Deployment
  | 0 => { route := .reachable, server := .new, adapters := [] }
  | count + 1 => ((joined url window count).connect url window).2.2

/-- A number of adapters with one window at an empty server without a script. -/
structure Fresh (window : Duration) (count : Nat) (deployment : Deployment) : Prop where
  ready : deployment.Ready window
  reachable : deployment.route = .reachable
  adapters : deployment.adapters.length = count
  now : deployment.server.now = .origin
  items : deployment.server.items = .empty

theorem fresh_joined {url : String} (usable : Address.ofUrl url = .ok address) (count : Nat) :
    (joined url window count).Fresh window count := by
  induction count with
  | zero => exact ⟨⟨rfl, nofun⟩, rfl, rfl, rfl, rfl⟩
  | succ count ih =>
      rcases @openConnection_of_unscripted _ address ih.ready.unscripted with ⟨received, opened⟩
      have connected : joined url window (count + 1) =
          { joined url window count with
            server := { (joined url window count).server with received }
            adapters := (joined url window count).adapters ++
              [{ address, window, link := .connected .fresh }] } := by
        simp only [joined, connect, usable, ih.reachable, retries, openWithRetries, opened]
      rw [connected]
      refine ⟨⟨ih.ready.unscripted, ?_⟩, ih.reachable, ?_, ih.now, ih.items⟩
      · intro adapter member
        rcases List.mem_append.mp member with old | new
        · exact ih.ready.connected adapter old
        · rw [List.mem_singleton.mp new]
          exact ⟨rfl, rfl⟩
      · simp [ih.adapters]

end Deployment

end AdmissionControl.Remote
