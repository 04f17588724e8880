import AdmissionControl.Proofs.Remote.Effect

/-!
# Many adapters at one server

Any number of adapters with one window are connected to one server. The server receives their
commands one at a time, in any order in which no connection overtakes itself, time passes in
between, and keys vanish at any point. A list of `Switchboard.Move`s is one such order. Each line
carries one operation at a time, since operations over one connection follow one another.

Only the last command of an operation does anything to the keys (`Line.deliver_inOrder`), because
the commands of a transaction before it are queued. So each operation has its `effect` at one moment
(`Switchboard.Orderly.step`). An operation that nothing comes between is what an adapter performs
(`Switchboard.run_alone`).
-/

namespace AdmissionControl.Remote

/-- The connection of an adapter, with the operation that it carries, if it carries one. -/
inductive Line where
  | idle (connection : Connection)
  /-- Some commands of the operation are answered, and others are still to be received. -/
  | busy (connection : Connection) (operation : Operation) (replies : List Reply)
      (next : Command) (rest : List Command)

/-- Something that happened to the keys. -/
inductive Incident where
  | vanished (key : String)
  /-- An operation of a line was answered. -/
  | served (time : Instant) (line : Nat) (operation : Operation)
      (answer : Except Fault operation.Result)

structure Switchboard where
  window : Duration
  server : Server
  lines : List Line
  history : List Incident

/-! ## Lines -/

namespace Line

/-- The line carries an operation, unless it is carrying one already or there is nothing to send. -/
def submit (window : Duration) (operation : Operation) : Line → Line
  | .idle connection =>
      match Adapter.commands window operation with
      | [] => .idle connection
      | next :: rest => .busy connection operation [] next rest
  | line => line

/-- The server receives the next command of a line. The last command brings the answer. -/
def deliver (server : Server) :
    Line → Line × Server × Option ((operation : Operation) × Except Fault operation.Result)
  | .idle connection => (.idle connection, server, none)
  | .busy connection operation replies next rest =>
      match server.receive connection next with
      | (.reply reply, later, after) =>
          match rest with
          | [] =>
              (.idle later, after,
                some ⟨operation,
                  (Reply.readAll (replies ++ [reply])).bind (Adapter.meaning operation)⟩)
          | next :: rest => (.busy later operation (replies ++ [reply]) next rest, after, none)
      | (_, later, after) => (.idle later, after, none)

/-- Where a line to a server without a script can stand. -/
inductive InOrder (window : Duration) : Line → Prop
  | idle : InOrder window (.idle .fresh)
  | submitted {operation : Operation} {next : Command} {rest : List Command}
      (sends : Adapter.commands window operation = next :: rest) :
      InOrder window (.busy .fresh operation [] next rest)
  | opened (identity : Identity) :
      InOrder window (.busy ⟨some [], false⟩ (.increment identity) [.status "OK"]
        (creation window identity) [.increment (counterKey identity), .execute])
  | created (identity : Identity) :
      InOrder window (.busy ⟨some [creation window identity], false⟩ (.increment identity)
        [.status "OK", .status "QUEUED"] (.increment (counterKey identity)) [.execute])
  | queued (identity : Identity) :
      InOrder window (.busy ⟨some (transaction window identity), false⟩ (.increment identity)
        [.status "OK", .status "QUEUED", .status "QUEUED"] .execute [])

variable {window : Duration} {line : Line} {server : Server} {operation : Operation}

theorem InOrder.submit (inOrder : line.InOrder window) :
    (line.submit window operation).InOrder window := by
  cases inOrder with
  | idle =>
      cases sends : Adapter.commands window operation with
      | nil => simpa [Line.submit, sends] using InOrder.idle
      | cons next rest => simpa [Line.submit, sends] using InOrder.submitted sends
  | submitted sends => exact .submitted sends
  | opened identity => exact .opened identity
  | created identity => exact .created identity
  | queued identity => exact .queued identity

/-- What the receipt of a command can do: either the operation takes effect and is answered, or
nothing happens to the keys. -/
inductive Delivered (window : Duration) (server : Server) :
    Line × Server × Option ((operation : Operation) × Except Fault operation.Result) → Prop
  | waiting {line : Line} {received : List (List String)} (inOrder : line.InOrder window) :
      Delivered window server (line, { server with received }, none)
  | answered (operation : Operation) {received : List (List String)} :
      Delivered window server
        (.idle .fresh,
          { server with items := (effect window server operation).2, received },
          some ⟨operation, (effect window server operation).1⟩)

theorem deliver_single {command : Command} (unscripted : server.script = [])
    (single : Adapter.commands window operation = [command]) :
    Delivered window server ((Line.busy .fresh operation [] command []).deliver server) := by
  rcases @serve_single window _ server _ single with ⟨reply, served, answer⟩
  simp only [deliver, Connection.fresh, receive_of_unscripted unscripted, served, List.nil_append,
    answer]
  exact .answered operation

theorem deliver_inOrder (unscripted : server.script = []) (inOrder : line.InOrder window) :
    Delivered window server (line.deliver server) := by
  -- The line says which command is next, and its connection what the server makes of it.
  cases inOrder with
  | idle => exact .waiting .idle
  | @submitted operation next rest sends =>
      cases operation with
      | increment identity =>
          simp only [Adapter.commands, List.cons.injEq] at sends
          rcases sends with ⟨rfl, rfl⟩
          simp only [deliver, Connection.fresh, receive_of_unscripted unscripted]
          exact .waiting (.opened identity)
      | close => simp [Adapter.commands] at sends
      | _ =>
          have single := sends
          simp only [Adapter.commands, List.cons.injEq] at single
          rcases single with ⟨-, rfl⟩
          exact deliver_single unscripted sends
  | opened identity =>
      simp only [deliver, receive_of_unscripted unscripted]
      exact .waiting (.created identity)
  | created identity =>
      simp only [deliver, receive_of_unscripted unscripted]
      exact .waiting (.queued identity)
  | queued identity =>
      rcases @serve_execute window identity server with ⟨reply, served, answer⟩
      simp only [deliver, receive_of_unscripted unscripted, served, List.cons_append,
        List.nil_append, answer]
      exact .answered (.increment identity)

end Line

/-! ## Any order of commands -/

namespace Switchboard

inductive Move where
  /-- Another adapter is connected. -/
  | join
  | pass (span : Duration)
  | vanish (key : String)
  /-- The adapter of a line is asked for an operation. -/
  | submit (number : Nat) (operation : Operation)
  /-- The server receives the next command of a line. -/
  | deliver (number : Nat)

def fresh (window : Duration) : Switchboard where
  window
  server := .new
  lines := []
  history := []

def step (board : Switchboard) : Move → Switchboard
  | .join => { board with lines := board.lines ++ [.idle .fresh] }
  | .pass span =>
      { board with server := { board.server with now := board.server.now.shift span } }
  | .vanish key =>
      { board with
        server := board.server.expire key
        history := board.history ++ [.vanished key] }
  | .submit number operation =>
      match board.lines[number]? with
      | none => board
      | some line =>
          { board with lines := board.lines.set number (line.submit board.window operation) }
  | .deliver number =>
      match board.lines[number]? with
      | none => board
      | some line =>
          match line.deliver board.server with
          | (line, server, none) => { board with server, lines := board.lines.set number line }
          | (line, server, some ⟨operation, answer⟩) =>
              { board with
                server
                lines := board.lines.set number line
                history := board.history ++
                  [.served board.server.now number operation answer] }

def run (board : Switchboard) (moves : List Move) : Switchboard :=
  moves.foldl step board

/-- The server is strict and has no script, and every line is in order. -/
structure Orderly (board : Switchboard) : Prop where
  strict : board.server.manner = .strict
  unscripted : board.server.script = []
  lines : ∀ line ∈ board.lines, line.InOrder board.window

/-- What a move can do to the keys and the history. -/
inductive Change (board : Switchboard) : Switchboard → Prop
  | quiet {after : Switchboard} (items : after.server.items = board.server.items)
      (history : after.history = board.history) : Change board after
  | vanished (key : String) {after : Switchboard}
      (items : after.server.items = board.server.items.erase key)
      (history : after.history = board.history ++ [.vanished key]) : Change board after
  | served (number : Nat) (operation : Operation) {after : Switchboard}
      (items : after.server.items =
        (effect board.window board.server operation).2)
      (history : after.history = board.history ++
        [.served board.server.now number operation
          (effect board.window board.server operation).1]) :
      Change board after

variable {window : Duration} {board : Switchboard}

theorem run_append (first second : List Move) :
    board.run (first ++ second) = (board.run first).run second :=
  List.foldl_append

@[simp]
theorem step_window (move : Move) : (board.step move).window = board.window := by
  cases move with
  | submit number operation =>
      simp only [step]
      split <;> rfl
  | deliver number =>
      simp only [step]
      split
      · rfl
      · split <;> rfl
  | _ => rfl

theorem orderly_fresh : (fresh window).Orderly where
  strict := rfl
  unscripted := rfl
  lines _ member := absurd member List.not_mem_nil

theorem Orderly.set_line (orderly : board.Orderly) {number : Nat} {changed : Line}
    (inOrder : changed.InOrder board.window) :
    ∀ line ∈ board.lines.set number changed, line.InOrder board.window := by
  intro line member
  rcases List.mem_or_eq_of_mem_set member with old | new
  · exact orderly.lines line old
  · rw [new]
    exact inOrder

theorem Orderly.submit (orderly : board.Orderly) (number : Nat) (operation : Operation) :
    (board.step (.submit number operation)).Orderly ∧
      board.Change (board.step (.submit number operation)) := by
  simp only [step]
  cases found : board.lines[number]? with
  | none => exact ⟨orderly, .quiet rfl rfl⟩
  | some line =>
      have inOrder := orderly.lines line (List.mem_of_getElem? found)
      exact ⟨⟨orderly.strict, orderly.unscripted, orderly.set_line inOrder.submit⟩,
        .quiet rfl rfl⟩

theorem Orderly.deliver (orderly : board.Orderly) (number : Nat) :
    (board.step (.deliver number)).Orderly ∧ board.Change (board.step (.deliver number)) := by
  simp only [step]
  cases found : board.lines[number]? with
  | none => exact ⟨orderly, .quiet rfl rfl⟩
  | some line =>
      have delivered := Line.deliver_inOrder orderly.unscripted
        (orderly.lines line (List.mem_of_getElem? found))
      -- From here on only what became of the line matters.
      simp only
      generalize line.deliver board.server = outcome at delivered
      cases delivered with
      | waiting inOrder =>
          exact ⟨⟨orderly.strict, orderly.unscripted, orderly.set_line inOrder⟩, .quiet rfl rfl⟩
      | answered operation =>
          exact ⟨⟨orderly.strict, orderly.unscripted, orderly.set_line .idle⟩,
            .served number operation rfl rfl⟩

/-- Every order of commands keeps the lines in order, and every move does one thing at most. -/
theorem Orderly.step (orderly : board.Orderly) (move : Move) :
    (board.step move).Orderly ∧ board.Change (board.step move) := by
  cases move with
  | join =>
      refine ⟨⟨orderly.strict, orderly.unscripted, ?_⟩, .quiet rfl rfl⟩
      intro line member
      rcases List.mem_append.mp member with old | new
      · exact orderly.lines line old
      · rw [List.mem_singleton.mp new]
        exact .idle
  | pass span => exact ⟨⟨orderly.strict, orderly.unscripted, orderly.lines⟩, .quiet rfl rfl⟩
  | vanish key =>
      exact ⟨⟨orderly.strict, orderly.unscripted, orderly.lines⟩, .vanished key rfl rfl⟩
  | submit number operation => exact orderly.submit number operation
  | deliver number => exact orderly.deliver number

theorem receive_now {server : Server} {connection : Connection} {command : Command} :
    (server.receive connection command).2.2.now = server.now := by
  simp only [Server.receive]
  split
  · rfl
  · split <;> rfl

/-- Commands of a line that nothing comes between are exchanged as an adapter exchanges them. -/
theorem run_deliver {number : Nat} {connection last : Connection} {operation : Operation}
    {replies list : List Reply} {next : Command} {rest : List Command} {final : Server}
    (carries : board.lines[number]? = some (.busy connection operation replies next rest))
    (exchanged : board.server.exchange connection (next :: rest) = (.replies list, last, final)) :
    board.run (List.replicate (rest.length + 1) (.deliver number)) =
      { board with
        server := final
        lines := board.lines.set number (.idle last)
        history := board.history ++ [.served board.server.now number operation
          ((Reply.readAll (replies ++ list)).bind (Adapter.meaning operation))] } := by
  -- On the commands after the next one; each delivery leaves a line that carries one command less.
  induction rest generalizing board connection replies next list with
  | nil =>
      rcases exchange_cons exchanged with ⟨reply, onwards, later, after, received, onward, rfl⟩
      simp only [Server.exchange, Prod.mk.injEq, Exchange.replies.injEq] at onward
      rcases onward with ⟨rfl, rfl, rfl⟩
      simp [run, step, carries, Line.deliver, received]
  | cons second rest ih =>
      rcases exchange_cons exchanged with ⟨reply, onwards, later, after, received, onward, rfl⟩
      have stepped : board.step (.deliver number) =
          { board with
            server := after
            lines := board.lines.set number
              (.busy later operation (replies ++ [reply]) second rest) } := by
        simp [step, carries, Line.deliver, received]
      have within : number < board.lines.length := (List.getElem?_eq_some_iff.mp carries).1
      have now : after.now = board.server.now := by
        have kept := @receive_now board.server connection next
        rwa [received] at kept
      have split : List.replicate ((second :: rest).length + 1) (Move.deliver number) =
          [.deliver number] ++ List.replicate (rest.length + 1) (.deliver number) :=
        List.replicate_succ
      rw [split, run_append]
      have continued := @ih (board.step (.deliver number)) later (replies ++ [reply]) onwards second
        (by simp [stepped, within]) (by simpa [stepped] using onward)
      have first : board.run [.deliver number] = board.step (.deliver number) := rfl
      rw [first, continued, stepped]
      simp [now]

/-- An operation that nothing comes between does at the switchboard what an adapter does. -/
theorem run_alone {number : Nat} {operation : Operation} {adapter : Adapter} {route : Route}
    (idle : board.lines[number]? = some (.idle .fresh)) (unscripted : board.server.script = [])
    (kept : operation ≠ .close) (sameWindow : adapter.window = board.window)
    (connected : adapter.link = .connected .fresh) :
    ∃ answer,
      board.run (.submit number operation ::
          List.replicate (Adapter.commands board.window operation).length (.deliver number)) =
        { board with
          server := (adapter.perform route operation board.server).2.2
          history := board.history ++ [.served board.server.now number operation answer] } ∧
      (adapter.perform route operation board.server).1 = Adapter.report answer := by
  rcases @exchange_commands board.window _ _ unscripted kept with ⟨replies, exchanged, answer⟩
  refine ⟨(effect board.window board.server operation).1, ?_, ?_⟩
  · cases sends : Adapter.commands board.window operation with
    | nil =>
        cases operation with
        | close => exact absurd rfl kept
        | _ => simp [Adapter.commands] at sends
    | cons next rest =>
        rw [sends] at exchanged
        rcases List.getElem?_eq_some_iff.mp idle with ⟨within, same⟩
        have restored : board.lines.set number (.idle .fresh) = board.lines := by
          rw [← same, List.set_getElem_self]
        have submitted : board.step (.submit number operation) =
            { board with
              lines := board.lines.set number (.busy .fresh operation [] next rest) } := by
          simp [step, idle, Line.submit, sends]
        have delivered := @run_deliver (board.step (.submit number operation)) number .fresh .fresh
          operation [] replies next rest _ (by simp [submitted, within])
          (by simpa [submitted] using exchanged)
        have split : board.run (.submit number operation ::
            List.replicate (rest.length + 1) (.deliver number)) =
              (board.step (.submit number operation)).run
                (List.replicate (rest.length + 1) (.deliver number)) := List.foldl_cons ..
        rw [List.length_cons, split, delivered, submitted,
          perform_connected connected unscripted kept, sameWindow]
        simp [answer, restored]
  · rw [perform_connected connected unscripted kept, sameWindow]

end Switchboard

end AdmissionControl.Remote
