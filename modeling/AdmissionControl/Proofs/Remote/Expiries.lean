import AdmissionControl.Proofs.Admission.Resumption
import AdmissionControl.Proofs.Remote.Access
import AdmissionControl.Proofs.Remote.Decisions

/-!
# The lifetimes that a server is told

A server is told lifetimes in whole milliseconds and in 64 bits. A length of time is counted in
milliseconds exactly, and then narrowed: what does not fit is told modulo `2 ^ 64`
(`lifetime_toNat`).

The window of a service is itself a setting of so many milliseconds, so it is always told exactly.
The length of a block is a setting in seconds, of as many bits, and the settings are accepted with
every one of them but zero. A thousand times the largest of them does not fit. So a block is told
exactly where its milliseconds fit, and beyond that a longer block may end sooner
(`expiries_exact_iff`).
-/

namespace AdmissionControl

theorem Settings.milliseconds_blockSpan (settings : Settings) :
    settings.blockSpan.milliseconds = 1000 * settings.blockSeconds.toNat := by
  simp only [blockSpan, Duration.ofSeconds, Duration.ofParts, Duration.milliseconds,
    Duration.nanosecondsPerSecond, Duration.nanosecondsPerMillisecond]
  omega

theorem Settings.milliseconds_window (settings : Settings) :
    settings.window.milliseconds = settings.windowMilliseconds.toNat := by
  simp only [window, Duration.ofMilliseconds, Duration.milliseconds,
    Duration.nanosecondsPerMillisecond]
  omega

/-- The default settings but for the window. -/
def Settings.windowed (milliseconds : UInt64) : Settings where
  bindAddress := .v4 ⟨0, 0, 0, 0⟩ 8080
  storeAddress := "localhost:6379"
  ipLimit := 10
  tokenLimit := 100
  blockSeconds := 300
  windowMilliseconds := milliseconds
  storeTimeoutMilliseconds := 500
  logLevel := "info"

/-- Every window but zero is accepted. -/
theorem Settings.validate_windowed {milliseconds : UInt64} (positive : 0 < milliseconds.toNat) :
    (windowed milliseconds).validate = .ok () := by
  have address : StoreAddress.validate (StoreAddress.normalize "localhost:6379") = .ok () := by rfl
  simpa [validate_eq_ok_iff, storeUrl, windowed, address] using positive

theorem Duration.milliseconds_le {first second : Duration} (shorter : first ≤ second) :
    first.milliseconds ≤ second.milliseconds :=
  Nat.div_le_div_right shorter

namespace Remote

/-! ## Lifetimes -/

theorem lifetime_eq_iff {span : Duration} (positive : 1 ≤ span.milliseconds) :
    (lifetime span).toNat = span.milliseconds ↔ span.milliseconds < 2 ^ 64 := by
  rw [lifetime_toNat]
  omega

/-- Among the lengths of time up to a bound no longer one is told as a shorter one, exactly if the
bound itself fits. -/
theorem lifetime_monotone_iff {bound : Duration} :
    (∀ first second, first ≤ second → second ≤ bound → lifetime first ≤ lifetime second) ↔
      bound.milliseconds < 2 ^ 64 := by
  constructor
  · intro monotone
    by_contra beyond
    -- The first length that does not fit is told as one millisecond.
    let brief : Duration := .ofMilliseconds 2
    let long : Duration := .ofMilliseconds (2 ^ 64)
    have shorter : brief ≤ long := by
      simp [brief, long, Duration.le_iff, Duration.ofMilliseconds,
        Duration.nanosecondsPerMillisecond]
    have within : long ≤ bound := by
      simp only [long, Duration.le_iff, Duration.ofMilliseconds, Duration.milliseconds,
        Duration.nanosecondsPerMillisecond] at beyond ⊢
      omega
    have told := UInt64.le_iff_toNat_le.mp (monotone brief long shorter within)
    rw [lifetime_toNat, lifetime_toNat] at told
    revert told
    decide
  · intro fits first second shorter within
    have few := Duration.milliseconds_le shorter
    have bounded := Duration.milliseconds_le within
    rw [UInt64.le_iff_toNat_le, lifetime_toNat, lifetime_toNat]
    omega

theorem lifetime_window {settings : Settings} (valid : settings.validate = .ok ()) :
    (lifetime settings.window).toNat = settings.windowMilliseconds.toNat := by
  have positive := (Settings.validate_eq_ok_iff.mp valid).2.2.2.2.1
  have fits := settings.windowMilliseconds.toNat_lt
  rw [lifetime_toNat, settings.milliseconds_window]
  omega

theorem lifetime_blockSpan_iff {settings : Settings} (valid : settings.validate = .ok ()) :
    (lifetime settings.blockSpan).toNat = 1000 * settings.blockSeconds.toNat ↔
      1000 * settings.blockSeconds.toNat < 2 ^ 64 := by
  have positive := (Settings.validate_eq_ok_iff.mp valid).2.2.2.1
  have some : 1 ≤ settings.blockSpan.milliseconds := by
    rw [settings.milliseconds_blockSpan]
    omega
  rw [← settings.milliseconds_blockSpan, lifetime_eq_iff some]

/-! ## What is sent -/

variable {deployment : Deployment} {entrance : Nat} {window : Duration} {operation : Operation}

/-- Whatever is sent before, the commands of an operation are the last that the server receives. -/
theorem Deployment.Steady.received (steady : deployment.Steady)
    (reaches : deployment.access entrance = .ok window) (kept : operation ≠ .close) :
    ∃ earlier, (deployment.perform entrance operation).2.server.received =
      earlier ++ (Adapter.commands window operation).map Command.words := by
  rcases (steady.perform entrance kept).2.received window reaches with ⟨opening, _, received⟩
  refine ⟨deployment.server.received ++ opening.map Command.words, ?_⟩
  rw [received, List.map_append, List.append_assoc]

/-- A client that was not blocked and is turned away is blocked with the last command. -/
theorem received_of_denied {service : Service} {address token : String} {decision : Decision}
    {timeline after : Timeline Deployment} (steady : timeline.contents.Steady)
    (reaches : timeline.contents.access entrance = .ok window)
    (free : timeline.contents.server.items.get? (blockedKey (.resolve address token)) = none)
    (decided : service.decideOn (Deployment.store entrance) address token timeline =
      (.answered (.ok decision), after))
    (denied : decision.allowed = false) :
    ∃ earlier, after.contents.server.received = earlier ++
      [["SET", blockedKey (.resolve address token), "1", "PX",
        Nat.repr (lifetime service.limits.blockSpan).toNat]] := by
  let check := service.check address token
  have course := Service.decideOn_ok_iff.mp decided
  rcases course.of_denied denied with lookup | ⟨looked, counted, count, lookup, raise, _, block⟩
  · rcases (call_eq_ok_iff (check.operation_ne_close .lookup)).mp lookup with ⟨found, _⟩
    rw [(steady.perform entrance (check.operation_ne_close .lookup)).1] at found
    simp [Deployment.outcome, reaches, effect, check, Service.check, free, report_ok] at found
  · rcases (call_eq_ok_iff (check.operation_ne_close .lookup)).mp lookup with ⟨_, rfl⟩
    rcases (call_eq_ok_iff (check.operation_ne_close .count)).mp raise with ⟨_, rfl⟩
    rcases (call_eq_ok_iff (check.operation_ne_close (.block count))).mp block with ⟨_, rfl⟩
    have first := (steady.perform entrance (check.operation_ne_close .lookup)).2
    have second := (first.steady.perform entrance (check.operation_ne_close .count)).2
    have still := (second.access entrance).trans ((first.access entrance).trans reaches)
    exact second.steady.received still (check.operation_ne_close (.block count))

/-- What a server is told of the settings of a service that was connected to it. Every raise of a
counter tells it the window exactly. The block of a client that goes beyond its limit is told as
one millisecond at least, and exactly where its milliseconds fit into 64 bits; so far, and no
further, a longer block is never told as a shorter one. -/
theorem expiries_exact_iff {settings : Settings} {connected : Deployment} {logged : List LogEvent}
    (valid : settings.validate = .ok ()) (steady : deployment.Steady)
    (joined : Serving.connect settings deployment = (.done (.ok ()), logged, connected)) :
    let entrance := deployment.adapters.length
    let service := Service.ofSettings settings
    let told := (lifetime settings.blockSpan).toNat
    connected.Steady ∧ connected.access entrance = .ok settings.window ∧
    (∀ (present : Deployment) identity, present.Steady →
      present.access entrance = .ok settings.window →
      ∃ earlier, (present.perform entrance (.increment identity)).2.server.received = earlier ++
        [["MULTI"],
          ["SET", counterKey identity, "0", "NX", "PX",
            Nat.repr settings.windowMilliseconds.toNat],
          ["INCR", counterKey identity], ["EXEC"]]) ∧
    (∀ (timeline : Timeline Deployment) address token decision, timeline.contents.Steady →
      timeline.contents.access entrance = .ok settings.window →
      timeline.contents.server.items.get? (blockedKey (.resolve address token)) = none →
      let outcome := service.decideOn (Deployment.store entrance) address token timeline
      outcome.1 = .answered (.ok decision) → decision.allowed = false →
      ∃ earlier, outcome.2.contents.server.received = earlier ++
        [["SET", blockedKey (.resolve address token), "1", "PX", Nat.repr told]]) ∧
    1 ≤ told ∧
    (told = 1000 * settings.blockSeconds.toNat ↔ 1000 * settings.blockSeconds.toNat < 2 ^ 64) ∧
    ((∀ first second, first ≤ second → second ≤ settings.blockSpan →
      lifetime first ≤ lifetime second) ↔ 1000 * settings.blockSeconds.toNat < 2 ^ 64) := by
  intro entrance service told
  rcases steady.connect joined with ⟨connectedSteady, reaches⟩
  refine ⟨connectedSteady, reaches, ?_, ?_, one_le_lifetime _, lifetime_blockSpan_iff valid, ?_⟩
  · intro present identity steady reaches
    have kept : Operation.increment identity ≠ .close := nofun
    rcases steady.received reaches kept with ⟨earlier, received⟩
    refine ⟨earlier, received.trans ?_⟩
    simp [Adapter.commands, Command.words, lifetime_window valid]
  · intro timeline address token decision steady reaches free outcome decided denied
    have ended : service.decideOn (Deployment.store entrance) address token timeline =
        (.answered (.ok decision), outcome.2) := Prod.ext decided rfl
    rcases received_of_denied steady reaches free ended denied with ⟨earlier, received⟩
    exact ⟨earlier, received⟩
  · rw [lifetime_monotone_iff, settings.milliseconds_blockSpan]

/-- What an empty server received when a client with a limit of one made two appeals. -/
def receivedOf (settings : Settings) : List (List String) :=
  let connected := (Serving.connect settings (.new .reachable [])).2.2
  let appeal := (Service.ofSettings settings).decideOn (Deployment.store 0) "192.168.1.1" ""
  (appeal (appeal (.start .origin connected)).2).2.contents.server.received

theorem connect_blockingFor (seconds : UInt64) : ∃ logged connected,
    Serving.connect (.blockingFor seconds) (.new .reachable []) =
      (.done (.ok ()), logged, connected) := by
  have url : StoreAddress.normalize "localhost:6379" = "redis://localhost:6379" := by
    decide +kernel
  have usable : Address.ofUrl "redis://localhost:6379" =
      .ok ⟨"localhost", 6379, none, none, 0⟩ := by rfl
  simp [Serving.connect, Settings.storeUrl, Settings.blockingFor, url, Deployment.connect, usable,
    Deployment.new, retries, openWithRetries, openConnection, authenticate, chooseDatabase]

/-- The longest block that fits. -/
theorem expiries_exact_iff_of_longest :
    let settings := Settings.blockingFor 18446744073709551
    (lifetime settings.blockSpan).toNat = 18446744073709551000 ∧
      (receivedOf settings).getLast? =
        some ["SET", "rate_limit:blocked:ip:192.168.1.1", "1", "PX", "18446744073709551000"] := by
  intro settings
  have valid : settings.validate = .ok () := Settings.validate_blockingFor (by decide)
  have empty : (Deployment.new .reachable []).Steady := ⟨rfl, nofun⟩
  rcases connect_blockingFor 18446744073709551 with ⟨logged, connected, joined⟩
  have told := (expiries_exact_iff valid empty joined).2.2.2.2.2.1.mpr (by decide +kernel)
  exact ⟨told.trans (by decide +kernel), by decide +kernel⟩

/-- A block of one second more is told as less than half a second. -/
theorem expiry_wraps_of_longer :
    let settings := Settings.blockingFor 18446744073709552
    settings.validate = .ok () ∧
      (receivedOf settings).getLast? =
        some ["SET", "rate_limit:blocked:ip:192.168.1.1", "1", "PX", "384"] ∧
      lifetime settings.blockSpan < lifetime (Settings.blockingFor 1).blockSpan := by
  intro settings
  exact ⟨Settings.validate_blockingFor (by decide), by decide +kernel, by decide +kernel⟩

end Remote

end AdmissionControl
