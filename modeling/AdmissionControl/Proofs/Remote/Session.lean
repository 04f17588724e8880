import AdmissionControl.Proofs.Admission.Request
import AdmissionControl.Proofs.Remote.Joining
import AdmissionControl.Proofs.Remote.Mirror
import AdmissionControl.Proofs.Store.Headroom

/-!
# Sessions at both kinds of store

A session is a list of requests, each made at a point in time through one of the entrances of a
site. A site of a store in memory has one store behind all its entrances, and a site of a deployment
has an adapter behind each; there, keys vanish as time passes.

A session has the same responses at both sites, and the keys at the server mirror the entries in
memory all the time (`Twins`).
-/

namespace AdmissionControl

/-- A request at a point in time, through one of the entrances of a site. -/
structure Visit where
  time : Instant
  entrance : Nat
  request : Request

structure Site (Contents : Type) where
  store : Nat → CounterStore Contents
  /-- What the passing of time does to the store. -/
  pass : Instant → Contents → Contents

namespace Site

variable {Contents : Type}

def serve (limits : Limits) (store : CounterStore Contents) (timeline : Timeline Contents) :
    (request : Request) → Completion request.Result × Timeline Contents
  | .call operation => Service.request store operation timeline
  | .admission address token =>
      Service.decideOn { limits, timeout := none } store address token timeline

def passTo (site : Site Contents) (timeline : Timeline Contents) (now : Instant) :
    Timeline Contents :=
  { timeline with now, contents := site.pass now timeline.contents }

def session (site : Site Contents) (limits : Limits) (timeline : Timeline Contents) :
    List Visit → List Response × Timeline Contents
  | [] => ([], timeline)
  | visit :: rest =>
      let (completion, after) :=
        serve limits (site.store visit.entrance) (site.passTo timeline visit.time) visit.request
      let (responses, final) := site.session limits after rest
      (⟨visit.request, completion⟩ :: responses, final)

theorem session_cons {site : Site Contents} {limits : Limits}
    {timeline after final : Timeline Contents} {visit : Visit} {rest : List Visit}
    {completion : Completion visit.request.Result} {responses : List Response}
    (served : serve limits (site.store visit.entrance) (site.passTo timeline visit.time)
      visit.request = (completion, after))
    (onward : site.session limits after rest = (responses, final)) :
    site.session limits timeline (visit :: rest) =
      (⟨visit.request, completion⟩ :: responses, final) := by
  simp only [session, served, onward]

end Site

/-- One store in memory behind every entrance. It does not notice the time that passes. -/
def Memory.site : Site Memory where
  store _ := Memory.store
  pass _ memory := memory

namespace Remote

namespace Deployment

/-- One adapter behind each entrance. Keys vanish at their end. -/
def site : Site Deployment where
  store := Deployment.store
  pass now deployment := { deployment with server := deployment.server.advance now }

end Deployment

variable {address : Address} {window : Duration}

/-! ## Calls -/

theorem call_remote {timeline : Timeline Deployment} {operation : Operation} {entrance : Nat}
    {result : operation.Result} (ready : timeline.contents.Ready window)
    (present : entrance < timeline.contents.adapters.length) (kept : operation ≠ .close)
    (answered : (effect window timeline.contents.server operation).1 = .ok result) :
    timeline.call (Deployment.store entrance) none operation =
      (.answered (.ok result),
        { timeline with
          contents :=
            { timeline.contents with
              server := performed window operation timeline.contents.server }
          calls := timeline.calls ++ [(timeline.now, operation)]
          events := timeline.events ++ timeline.contents.announce entrance operation }) := by
  simp [Timeline.call, Deployment.store, ready.perform present kept, answered, report_ok]

/-- What both kinds of store do alike at a point in time: nothing is closed, and the end of a window
or a block can be held by the clock in memory and told to a server. -/
def Shared (window : Duration) (now : Instant) (operation : Operation) : Prop :=
  operation ≠ .close ∧ operation.Fits window now ∧ operation.Exact

instance (window : Duration) (now : Instant) (operation : Operation) :
    Decidable (Shared window now operation) :=
  inferInstanceAs (Decidable (_ ∧ _ ∧ _))

/-- The clock can hold the end of a window and that of a block. -/
def Holds (window blockSpan : Duration) (now : Instant) : Prop :=
  (now.shift window).nanoseconds < Instant.horizon ∧
    (now.shift blockSpan).nanoseconds < Instant.horizon

instance (window blockSpan : Duration) (now : Instant) : Decidable (Holds window blockSpan now) :=
  inferInstanceAs (Decidable (_ ∧ _))

/-- What both kinds of site serve alike at a point in time. -/
def SharedRequest (window : Duration) (limits : Limits) (now : Instant) : Request → Prop
  | .call operation => Shared window now operation
  | .admission _ _ => Holds window limits.blockSpan now

instance (window : Duration) (limits : Limits) (now : Instant) :
    (request : Request) → Decidable (SharedRequest window limits now request)
  | .call operation => inferInstanceAs (Decidable (Shared window now operation))
  | .admission _ _ => inferInstanceAs (Decidable (Holds window limits.blockSpan now))

theorem shared_check {check : Check} {now : Instant} (holds : Holds window check.blockSpan now)
    (exact : check.blockSpan.Exact) (phase : Check.Phase) :
    Shared window now (check.operation phase) := by
  cases phase with
  | lookup => exact ⟨nofun, trivial, trivial⟩
  | count => exact ⟨nofun, holds.1, trivial⟩
  | block count => exact ⟨nofun, holds.2, exact⟩

/-- How often a check may still raise a counter from a phase on. -/
def raisesFrom : Check.Phase → Nat
  | .lookup => 1
  | .count => 1
  | .block _ => 0

theorem raises_le_raisesFrom (check : Check) (phase : Check.Phase) :
    (check.operation phase).raises ≤ raisesFrom phase := by
  cases phase with
  | lookup => exact Nat.zero_le _
  | count => exact Nat.le_refl _
  | block count => exact Nat.le_refl _

theorem raisesFrom_of_waiting {check : Check} {phase next : Check.Phase}
    {result : (check.operation phase).Result} {later : next.callsLeft < phase.callsLeft}
    (progress : check.advance phase result = .waiting next later) :
    raisesFrom phase = (check.operation phase).raises + raisesFrom next := by
  cases phase with
  | lookup =>
      cases result with
      | true => cases progress
      | false =>
          cases progress
          rfl
  | count =>
      simp only [Check.advance] at progress
      split at progress
      · cases progress
      · cases progress
        rfl
  | block count => cases progress

/-! ## Two courses of events -/

/-- A store in memory and a deployment with so many adapters that mirrors it, at one time. So many
more raises leave every count in 63 bits. -/
structure Twins (window : Duration) (count : Nat) (now : Instant) (room : Nat)
    (memory : Timeline Memory) (remote : Timeline Deployment) : Prop where
  memoryTime : memory.now = now
  remoteTime : remote.now = now
  serverTime : remote.contents.server.now = now
  reachable : memory.contents.obstacle? = none
  sameWindow : memory.contents.window = window
  ready : remote.contents.Ready window
  adapters : remote.contents.adapters.length = count
  mirrors : Mirrors memory.contents memory.calls now remote.contents.server.items
  headroom : memory.contents.Headroom now (2 ^ 63) room

variable {count room entrance : Nat} {now : Instant} {memory : Timeline Memory}
  {remote : Timeline Deployment} {operation : Operation}

/-- Something came to the same good end at both sides, and left twins behind. -/
def Alike {α : Type} (window : Duration) (count : Nat) (now : Instant) (room : Nat)
    (inMemory : Reception α × Timeline Memory) (atServer : Reception α × Timeline Deployment) :
    Prop :=
  ∃ result memory remote, inMemory = (.answered (.ok result), memory) ∧
    atServer = (.answered (.ok result), remote) ∧ Twins window count now room memory remote

namespace Twins

theorem fewer {less : Nat} (twins : Twins window count now room memory remote)
    (within : less ≤ room) : Twins window count now less memory remote :=
  { twins with headroom := twins.headroom.fewer within }

theorem logAll (twins : Twins window count now room memory remote) (events : List LogEvent) :
    Twins window count now room (memory.logAll events) (remote.logAll events) :=
  ⟨twins.memoryTime, twins.remoteTime, twins.serverTime, twins.reachable, twins.sameWindow,
    twins.ready, twins.adapters, twins.mirrors, twins.headroom⟩

theorem passTo (twins : Twins window count now room memory remote) {later : Instant}
    (notBefore : now ≤ later) :
    Twins window count later room (Memory.site.passTo memory later)
      (Deployment.site.passTo remote later) where
  memoryTime := rfl
  remoteTime := rfl
  serverTime := rfl
  reachable := twins.reachable
  sameWindow := twins.sameWindow
  ready := ⟨twins.ready.unscripted, twins.ready.connected⟩
  adapters := twins.adapters
  mirrors := twins.mirrors.later notBefore
  headroom := twins.headroom.later notBefore

theorem call (twins : Twins window count now (room + operation.raises) memory remote)
    (present : entrance < count) (exact : window.Exact) (shared : Shared window now operation) :
    Alike window count now room (memory.call Memory.store none operation)
      (remote.call (Deployment.store entrance) none operation) := by
  have serverTime := twins.serverTime
  subst serverTime
  have exactWindow := exact
  have fits := shared.2.1
  rw [← twins.sameWindow] at exactWindow fits
  have room : ∀ identity counter,
      memory.contents.counterAt? remote.contents.server.now identity = some counter →
      operation = .increment identity → counter.count.toNat + 1 < 2 ^ 63 := by
    rintro identity counter live rfl
    have few := twins.headroom.counted identity counter live
    simp only [Operation.raises] at few
    omega
  rcases twins.mirrors.answer_eq twins.reachable exactWindow shared.2.2 fits room with
    ⟨result, inMemory, atServer⟩
  have mirrors := twins.mirrors.perform twins.reachable exactWindow shared.2.2 fits room
  rw [twins.sameWindow] at atServer
  have present : entrance < remote.contents.adapters.length := twins.adapters.symm ▸ present
  refine ⟨result, _, _, Timeline.call_memory none (twins.memoryTime.symm ▸ inMemory),
    call_remote twins.ready present shared.1 atServer, ?_⟩
  rw [twins.memoryTime]
  constructor
  · rfl
  · exact twins.remoteTime
  · exact twins.serverTime
  · exact (Memory.obstacle?_perform shared.1 fits).trans twins.reachable
  · exact Memory.perform_window.trans twins.sameWindow
  · exact ⟨twins.ready.unscripted, twins.ready.connected⟩
  · exact twins.adapters
  · rw [twins.sameWindow] at mirrors
    exact mirrors
  · exact twins.headroom.perform fits

/-- A check comes to the same end at both, from whatever phase on. -/
theorem runFrom {check : Check} {phase : Check.Phase} {memory : Timeline Memory}
    {remote : Timeline Deployment}
    (twins : Twins window count now (room + raisesFrom phase) memory remote)
    (present : entrance < count) (exact : window.Exact) (holds : Holds window check.blockSpan now)
    (exactBlock : check.blockSpan.Exact) :
    Alike window count now room (check.runFrom Memory.store none phase memory)
      (check.runFrom (Deployment.store entrance) none phase remote) := by
  -- The call of this phase uses up the raise, if it is one, and leaves the rest to the next phases.
  have within := raises_le_raisesFrom check phase
  have enough : Twins window count now
      (room + (raisesFrom phase - (check.operation phase).raises) + (check.operation phase).raises)
      memory remote := twins.fewer (by omega)
  rcases enough.call present exact (shared_check holds exactBlock phase) with
    ⟨result, memoryAfter, remoteAfter, inMemory, atServer, after⟩
  rw [Check.runFrom, inMemory, Check.runFrom, atServer]
  simp only
  cases progress : check.advance phase result with
  | decided decision =>
      exact ⟨decision, memoryAfter, remoteAfter, rfl, rfl, after.fewer (Nat.le_add_right _ _)⟩
  | waiting next later =>
      have left : room + (raisesFrom phase - (check.operation phase).raises) =
          room + raisesFrom next := by
        have := raisesFrom_of_waiting progress
        omega
      rw [left] at after
      exact (after.logAll (check.announcement next)).runFrom present exact holds exactBlock
termination_by phase.callsLeft

theorem serve {request : Request} {limits : Limits}
    (twins : Twins window count now (room + 1) memory remote) (present : entrance < count)
    (exact : window.Exact) (exactBlock : limits.blockSpan.Exact)
    (shared : SharedRequest window limits now request) :
    ∃ completion memoryAfter remoteAfter,
      Site.serve limits Memory.store memory request = (completion, memoryAfter) ∧
      Site.serve limits (Deployment.store entrance) remote request = (completion, remoteAfter) ∧
      Twins window count now room memoryAfter remoteAfter := by
  cases request with
  | call operation =>
      have enough : operation.raises ≤ 1 := by cases operation <;> simp [Operation.raises]
      rcases (twins.fewer (Nat.add_le_add_left enough room)).call present exact shared with
        ⟨result, memoryAfter, remoteAfter, inMemory, atServer, after⟩
      refine ⟨.answered (.ok result), memoryAfter, remoteAfter, ?_, ?_, after⟩
      · simp only [Site.serve, Service.request, inMemory]
      · simp only [Site.serve, Service.request, atServer]
  | admission address token =>
      rcases @runFrom _ _ _ entrance _ (Service.check ⟨limits, none⟩ address token) .lookup _ _
        twins present exact shared exactBlock with
        ⟨decision, memoryAfter, remoteAfter, inMemory, atServer, after⟩
      refine ⟨.answered (.ok decision), memoryAfter, remoteAfter, ?_, ?_, after⟩
      · simp only [Site.serve, Service.decideOn, Check.run, inMemory]
      · simp only [Site.serve, Service.decideOn, Check.run, atServer]

theorem session {limits : Limits} {visits : List Visit}
    (twins : Twins window count now visits.length memory remote) (exact : window.Exact)
    (exactBlock : limits.blockSpan.Exact) (late : ∀ visit ∈ visits, now ≤ visit.time)
    (ordered : visits.Pairwise fun first second => first.time ≤ second.time)
    (entrances : ∀ visit ∈ visits, visit.entrance < count)
    (shared : ∀ visit ∈ visits, SharedRequest window limits visit.time visit.request) :
    ∃ responses memoryAfter remoteAfter finish,
      Memory.site.session limits memory visits = (responses, memoryAfter) ∧
      Deployment.site.session limits remote visits = (responses, remoteAfter) ∧
      Twins window count finish 0 memoryAfter remoteAfter := by
  induction visits generalizing now memory remote with
  | nil => exact ⟨[], memory, remote, now, rfl, rfl, twins⟩
  | cons visit rest ih =>
      rcases List.pairwise_cons.mp ordered with ⟨next, onward⟩
      have arrived := twins.passTo (late visit List.mem_cons_self)
      rcases arrived.serve (entrances visit List.mem_cons_self) exact exactBlock
        (shared visit List.mem_cons_self) with
        ⟨completion, memoryAfter, remoteAfter, inMemory, atServer, after⟩
      rcases ih after next onward
        (fun later member => entrances later (List.mem_cons_of_mem visit member))
        (fun later member => shared later (List.mem_cons_of_mem visit member)) with
        ⟨responses, memoryLast, remoteLast, finish, restInMemory, restAtServer, final⟩
      exact ⟨⟨visit.request, completion⟩ :: responses, memoryLast, remoteLast, finish,
        Site.session_cons inMemory restInMemory, Site.session_cons atServer restAtServer, final⟩

end Twins

theorem twins_start {url : String} (usable : Address.ofUrl url = .ok address)
    (few : room < 2 ^ 63) :
    Twins window count .origin room (.start .origin (.new window))
      (.start .origin (.joined url window count)) := by
  have fresh := @Deployment.fresh_joined address window url usable count
  constructor
  · rfl
  · rfl
  · exact fresh.now
  · rfl
  · rfl
  · exact fresh.ready
  · exact fresh.adapters
  · simp only [Timeline.start, fresh.items]
    exact ⟨fun _ => rfl, fun _ => .inl ⟨rfl, rfl⟩, fun _ _ => rfl⟩
  · exact ⟨few, nofun⟩

/-- The two kinds of store agree. A session at an empty store has the same responses in memory and
at a server, however it is spread over the adapters, and from its end on the keys at the server are
those of the entries that live in memory. Nothing is closed, every length of time is one that a
server takes as it is, and every end is one that the clock can hold. -/
theorem sessions_agree {url : String} {limits : Limits} {visits : List Visit}
    (usable : Address.ofUrl url = .ok address) (exact : window.Exact)
    (exactBlock : limits.blockSpan.Exact) (few : visits.length < 2 ^ 63)
    (ordered : visits.Pairwise fun first second => first.time ≤ second.time)
    (entrances : ∀ visit ∈ visits, visit.entrance < count)
    (shared : ∀ visit ∈ visits, SharedRequest window limits visit.time visit.request) :
    let inMemory := Memory.site.session limits (.start .origin (.new window)) visits
    let atServer :=
      Deployment.site.session limits (.start .origin (.joined url window count)) visits
    atServer.1 = inMemory.1 ∧
      ∀ later, inMemory.2.now ≤ later →
        Mirrors inMemory.2.contents inMemory.2.calls later
          (atServer.2.contents.server.advance later).items := by
  intro inMemory atServer
  rcases (twins_start usable few).session exact exactBlock (fun visit _ => Nat.zero_le _) ordered
    entrances shared with ⟨responses, memory, remote, finish, memorySession, remoteSession, twins⟩
  have inMemoryIs : inMemory = (responses, memory) := memorySession
  have atServerIs : atServer = (responses, remote) := remoteSession
  rw [inMemoryIs, atServerIs]
  refine ⟨rfl, fun later notBefore => ?_⟩
  exact twins.mirrors.later (twins.memoryTime ▸ notBefore)

/-- A client is admitted once and then blocked for a second and a half, which outlasts its window.
Meanwhile a token is blocked and comes back at the very end of its block. -/
def crowd : List Visit :=
  [⟨⟨0⟩, 0, .admission "10.0.0.1" ""⟩, ⟨⟨1000000⟩, 1, .admission "10.0.0.1" ""⟩,
    ⟨⟨2000000⟩, 0, .call (.block (.token "abc") (.ofMilliseconds 500))⟩,
    ⟨⟨3000000⟩, 1, .admission "10.0.0.1" "abc"⟩, ⟨⟨502000000⟩, 0, .admission "10.0.0.1" "abc"⟩,
    ⟨⟨502000000⟩, 1, .call (.reset (.token "abc"))⟩, ⟨⟨1000000000⟩, 0, .admission "10.0.0.1" ""⟩,
    ⟨⟨1000000000⟩, 1, .call .ping⟩, ⟨⟨1000000000⟩, 1, .call (.increment (.token "abc"))⟩]

theorem sessions_agree_on_crowd :
    let limits : Limits := ⟨1, 1, .ofMilliseconds 1500⟩
    let inMemory := Memory.site.session limits (.start .origin (.new (.ofSeconds 1))) crowd
    let atServer := Deployment.site.session limits
      (.start .origin (.joined "redis://10.0.0.9" (.ofSeconds 1) 2)) crowd
    atServer.1 = inMemory.1 ∧
      (atServer.2.contents.server.advance ⟨1500000000⟩).items.get? (blockedKey (.ip "10.0.0.1")) =
        some ⟨"1", some 1500, some ⟨1501000000⟩⟩ := by
  intro limits inMemory atServer
  have usable : Address.ofUrl "redis://10.0.0.9" = .ok ⟨"10.0.0.9", 6379, none, none, 0⟩ := by
    rfl
  have agree := @sessions_agree _ (.ofSeconds 1) 2 _ limits crowd usable (by decide) (by decide)
    (by decide) (by decide) (by decide) (by decide)
  exact ⟨agree.1, by decide +kernel⟩

end Remote

end AdmissionControl
