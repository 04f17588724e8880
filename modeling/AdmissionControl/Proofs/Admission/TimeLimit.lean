import AdmissionControl.Proofs.Admission.Agenda
import AdmissionControl.Store.Script

/-!
# Checks with and without a time limit

A check under a time limit and the same check without one run side by side: they make the same
calls at the same times until the limit is reached, and only then do they part. What the patient
check brings by the deadline, the other one brings as well; where it brings nothing by then, the
other one ends at the deadline with a timeout (`Service.timeout_changes_no_decision`).

A call that was under way at the deadline has been made, and what it did to the store stays.
-/

namespace AdmissionControl

variable {Contents : Type}

/-- Whether what ended at a point in time has brought an answer by a deadline. -/
def Reception.InTime {α : Type} (reception : Reception α) (finish limit : Instant) : Prop :=
  (∃ answer, reception = .answered answer) ∧ finish ≤ limit

theorem not_inTime_unanswered {α : Type} {finish limit : Instant} :
    ¬(Reception.unanswered : Reception α).InTime finish limit := by
  rintro ⟨⟨_, answered⟩, _⟩
  cases answered

/-- Where there is no deadline, none has passed. -/
theorem no_deadline {now : Instant} : ∀ last ∈ (none : Option Instant), now ≤ last := nofun

/-- The calls that were made by a point in time. -/
def callsBy (limit : Instant) (made : List (Instant × Operation)) : List (Instant × Operation) :=
  made.filter fun call => call.1 ≤ limit

theorem callsBy_cons_of_le {limit : Instant} {call : Instant × Operation} (soon : call.1 ≤ limit)
    (made : List (Instant × Operation)) :
    callsBy limit (call :: made) = call :: callsBy limit made :=
  List.filter_cons_of_pos (decide_eq_true soon)

theorem callsBy_eq_self {limit : Instant} {made : List (Instant × Operation)}
    (soon : ∀ call ∈ made, call.1 ≤ limit) : callsBy limit made = made :=
  List.filter_eq_self.mpr fun call member => decide_eq_true (soon call member)

theorem callsBy_eq_nil {limit : Instant} {made : List (Instant × Operation)}
    (late : ∀ call ∈ made, ¬call.1 ≤ limit) : callsBy limit made = [] :=
  List.filter_eq_nil_iff.mpr fun call member soon => late call member (of_decide_eq_true soon)

namespace Timeline

variable {timeline after : Timeline Contents} {store : CounterStore Contents}
  {operation : Operation} {limit : Instant}

/-- Only the last move counts. -/
@[simp]
theorem moveTo_moveTo (timeline : Timeline Contents) (first second : Instant) :
    (timeline.moveTo first).moveTo second = timeline.moveTo second := rfl

/-- An answer that comes by the deadline comes as if there were no deadline. -/
theorem call_of_inTime {reception : Reception operation.Result}
    (called : timeline.call store none operation = (reception, after))
    (inTime : reception.InTime after.now limit) :
    timeline.call store (some limit) operation = (reception, after) := by
  rcases arrived : store.perform operation timeline.now timeline.contents with ⟨arrival, contents⟩
  simp only [call, arrived] at called ⊢
  cases arrival with
  | answers wait answer =>
      cases wait with
      | none => exact called
      | some wait =>
          cases called
          exact if_pos inTime.2
  | hangs =>
      cases called
      exact absurd inTime not_inTime_unanswered

/-- A call without an answer by the deadline is made all the same; its caller goes on without it. -/
theorem call_of_late {reception : Reception operation.Result}
    (called : timeline.call store none operation = (reception, after))
    (begun : timeline.now ≤ limit) (late : ¬reception.InTime after.now limit) :
    timeline.call store (some limit) operation = (.expired, after.moveTo limit) := by
  rcases arrived : store.perform operation timeline.now timeline.contents with ⟨arrival, contents⟩
  simp only [call, arrived] at called ⊢
  cases arrival with
  | answers wait answer =>
      cases wait with
      | none =>
          cases called
          exact absurd ⟨⟨_, rfl⟩, begun⟩ late
      | some wait =>
          cases called
          rw [moveTo_moveTo]
          exact if_neg fun ready => late ⟨⟨_, rfl⟩, ready⟩
  | hangs =>
      cases called
      rfl

end Timeline

namespace Check

variable {check : Check} {store : CounterStore Contents} {limit : Instant} {phase : Phase}
  {timeline after : Timeline Contents} {reception : Reception Decision}

/-- What a check brings by the deadline, it brings as if there were no deadline. -/
theorem runFrom_of_inTime
    (ran : check.runFrom store none phase timeline = (reception, after))
    (inTime : reception.InTime after.now limit) :
    check.runFrom store (some limit) phase timeline = (reception, after) := by
  fun_induction check.runFrom store none phase timeline with
  | case1 phase timeline result between call decision progress =>
      cases ran
      exact runFrom_of_decided phase (Timeline.call_of_inTime call ⟨⟨_, rfl⟩, inTime.2⟩) progress
  | case2 phase timeline result between call next later progress ih =>
      rcases makes_of_run no_deadline ran with ⟨_, rest⟩
      have soon := Nat.le_trans rest.onward inTime.2
      rw [runFrom_of_waiting phase (Timeline.call_of_inTime call ⟨⟨_, rfl⟩, soon⟩) progress]
      exact ih ran
  | case3 phase timeline failure between call =>
      cases ran
      exact runFrom_of_failed phase (Timeline.call_of_inTime call ⟨⟨_, rfl⟩, inTime.2⟩) rfl
  | case4 phase timeline between call => exact absurd call Timeline.call_ne_expired
  | case5 phase timeline between call =>
      cases ran
      exact absurd inTime not_inTime_unanswered

/-- A check that would have gone on is cut short at a deadline: it ends there without an answer,
with those of its calls made that were due by then. -/
structure CutShort (check : Check) (store : CounterStore Contents) (limit : Instant) (phase : Phase)
    (before after stopped : Timeline Contents) (made : List (Instant × Operation)) : Prop where
  makes : check.Makes store phase before after made
  expired : check.runFrom store (some limit) phase before = (.expired, stopped)
  ended : stopped.now = limit
  footprint : before.Footprint store stopped (callsBy limit made)
  initial : callsBy limit made <+: made

/-- A check is cut short during the call that it came to. -/
theorem cutShort_of_late_call {called : Reception (check.operation phase).Result}
    {between : Timeline Contents} {made : List (Instant × Operation)}
    (call : timeline.call store none (check.operation phase) = (called, between))
    (begun : timeline.now ≤ limit) (late : ¬called.InTime between.now limit)
    (makes : check.Makes store phase timeline after ((timeline.now, check.operation phase) :: made))
    (onward : ∀ other ∈ made, ¬other.1 ≤ limit) :
    check.CutShort store limit phase timeline after (between.moveTo limit)
      ((timeline.now, check.operation phase) :: made) := by
  have expired := Timeline.call_of_late call begun late
  have few : callsBy limit ((timeline.now, check.operation phase) :: made) =
      [(timeline.now, check.operation phase)] := by
    rw [callsBy_cons_of_le begun, callsBy_eq_nil onward]
  constructor
  · exact makes
  · exact runFrom_of_failed phase expired rfl
  · rfl
  · rw [few]
    exact Timeline.footprint_of_call expired
  · rw [few]
    exact ⟨made, rfl⟩

theorem cutShort_of_last_call {called : Reception (check.operation phase).Result}
    (call : timeline.call store none (check.operation phase) = (called, after))
    (begun : timeline.now ≤ limit) (late : ¬called.InTime after.now limit) :
    check.CutShort store limit phase timeline after (after.moveTo limit)
      [(timeline.now, check.operation phase)] :=
  cutShort_of_late_call call begun late (.single no_deadline call)
    fun _ member => absurd member List.not_mem_nil

/-- A check is cut short in what follows a call that is answered in time. -/
theorem CutShort.cons {result : (check.operation phase).Result} {next : Phase}
    {later : next.callsLeft < phase.callsLeft} {between stopped : Timeline Contents}
    {made : List (Instant × Operation)}
    (call : timeline.call store none (check.operation phase) = (.answered (.ok result), between))
    (begun : timeline.now ≤ limit) (soon : between.now ≤ limit)
    (progress : check.advance phase result = .waiting next later)
    (rest : check.CutShort store limit next (between.logAll (check.announcement next)) after stopped
      made) :
    check.CutShort store limit phase timeline after stopped
      ((timeline.now, check.operation phase) :: made) := by
  have answered := Timeline.call_of_inTime call ⟨⟨_, rfl⟩, soon⟩
  have first := Timeline.footprint_of_call answered
  constructor
  · exact .cons no_deadline call progress rest.makes
  · rw [runFrom_of_waiting phase answered progress]
    exact rest.expired
  · exact rest.ended
  · rw [callsBy_cons_of_le begun]
    exact first.trans (rest.footprint.congr rfl rfl)
  · rw [callsBy_cons_of_le begun]
    exact (List.prefix_cons_inj _).mpr rest.initial

/-- A check that brings nothing by the deadline is cut short, during one of its calls. -/
theorem cutShort_of_late (begun : timeline.now ≤ limit)
    (ran : check.runFrom store none phase timeline = (reception, after))
    (late : ¬reception.InTime after.now limit) :
    ∃ stopped made, check.CutShort store limit phase timeline after stopped made := by
  fun_induction check.runFrom store none phase timeline with
  | case1 phase timeline result between call decision progress =>
      cases ran
      exact ⟨_, _, cutShort_of_last_call call begun fun inTime => late ⟨⟨_, rfl⟩, inTime.2⟩⟩
  | case2 phase timeline result between call next later progress ih =>
      by_cases soon : between.now ≤ limit
      · rcases ih soon ran with ⟨stopped, made, rest⟩
        exact ⟨_, _, .cons call begun soon progress rest⟩
      · rcases makes_of_run no_deadline ran with ⟨made, rest⟩
        refine ⟨_, _, cutShort_of_late_call call begun (fun inTime => soon inTime.2)
          (.cons no_deadline call progress rest) ?_⟩
        intro other member inTime
        exact soon (Nat.le_trans (rest.meanwhile other member).1 inTime)
  | case3 phase timeline failure between call =>
      cases ran
      exact ⟨_, _, cutShort_of_last_call call begun fun inTime => late ⟨⟨_, rfl⟩, inTime.2⟩⟩
  | case4 phase timeline between call => exact absurd call Timeline.call_ne_expired
  | case5 phase timeline between call =>
      cases ran
      exact ⟨_, _, cutShort_of_last_call call begun not_inTime_unanswered⟩

end Check

namespace Service

variable {service : Service} {limit : Duration} {store : CounterStore Contents}
  {address token : String} {timeline after : Timeline Contents} {reception : Reception Decision}

theorem decideOn_of_run {deadline : Option Instant} {ended : Timeline Contents}
    (due : service.deadline timeline.now = deadline)
    (ran : (service.check address token).runFrom store deadline .lookup timeline =
      (reception, ended)) :
    service.decideOn store address token timeline = (service.conclude reception, ended) := by
  rw [decideOn_eq, due]
  exact congrArg (fun ran => (service.conclude ran.1, ran.2)) ran

theorem deadline_of_limited (limited : service.timeout = some limit) (start : Instant) :
    service.deadline start = some (start.alarm limit) := by
  rw [deadline, limited, Option.map_some]

/-- A decision that comes in time is the decision. -/
theorem decideOn_of_inTime (limited : service.timeout = some limit)
    (ran : (service.check address token).runFrom store none .lookup timeline = (reception, after))
    (inTime : reception.InTime after.now (timeline.now.alarm limit)) :
    ∃ answer, reception = .answered answer ∧
      service.decideOn store address token timeline = (.answered answer, after) := by
  rcases inTime.1 with ⟨answer, rfl⟩
  have decided := decideOn_of_run (deadline_of_limited limited timeline.now)
    (Check.runFrom_of_inTime ran inTime)
  exact ⟨answer, rfl, decided⟩

/-- A decision that does not come in time is replaced by a timeout. -/
theorem decideOn_of_late (limited : service.timeout = some limit)
    (ran : (service.check address token).runFrom store none .lookup timeline = (reception, after))
    (late : ¬reception.InTime after.now (timeline.now.alarm limit)) :
    ∃ stopped made, (service.check address token).CutShort store (timeline.now.alarm limit) .lookup
        timeline after stopped made ∧
      service.decideOn store address token timeline =
        (.answered (.error (.reported (.timeout limit))), stopped) := by
  rcases Check.cutShort_of_late (timeline.now.le_alarm limit) ran late with ⟨stopped, made, cut⟩
  have decided := decideOn_of_run (deadline_of_limited limited timeline.now) cut.expired
  simp only [conclude, limited] at decided
  exact ⟨stopped, made, cut, decided⟩

/-- Under a time limit a service decides as it would without one, unless the decision comes too
late: then it reports a timeout, at the deadline and with no call made after it. -/
theorem timeout_changes_no_decision (limits : Limits) (limit : Duration)
    (store : CounterStore Contents) (address token : String) (timeline : Timeline Contents) :
    let deadline := timeline.now.alarm limit
    let identity := Identity.resolve address token
    let untimed := decideOn { limits, timeout := none } store address token timeline
    let timed := decideOn { limits, timeout := some limit } store address token timeline
    let inTime := (∃ answer, untimed.1 = .answered answer) ∧ untimed.2.now ≤ deadline
    (∀ due, timeline.now.after? limit = some due → deadline = due.roundUp) ∧
    timeline.now ≤ deadline ∧
    (inTime → timed = untimed) ∧
    (¬inTime → timed.1 = .answered (.error (.reported (.timeout limit))) ∧
      timed.2.now = deadline) ∧
    ∃ made, timeline.Footprint store untimed.2 made ∧
      timeline.Footprint store timed.2 (callsBy deadline made) ∧
      callsBy deadline made <+: made ∧
      made.map Prod.snd <+: [.isBlocked identity, .increment identity,
        .block identity limits.blockSpan] := by
  intro deadline identity untimed timed inTime
  rcases ran : (check { limits, timeout := none } address token).runFrom store none .lookup timeline
    with ⟨reception, after⟩
  have patient : untimed = (conclude { limits, timeout := none } reception, after) :=
    decideOn_of_run rfl ran
  have limited : (Service.mk limits (some limit)).timeout = some limit := rfl
  have soon_iff : inTime ↔ reception.InTime after.now deadline := by
    simp only [inTime, patient]
    cases reception <;> simp [conclude, Reception.InTime]
  refine ⟨?_, timeline.now.le_alarm limit, ?_⟩
  · intro due held
    simp only [deadline, Instant.alarm, held, Option.getD_some]
  by_cases soon : inTime
  · rcases decideOn_of_inTime limited ran (soon_iff.mp soon) with ⟨answer, rfl, decided⟩
    have same : timed = untimed := decided.trans patient.symm
    rcases Check.makes_of_run no_deadline ran with ⟨made, makes⟩
    have all : callsBy deadline made = made := callsBy_eq_self fun call member =>
      Nat.le_trans (makes.meanwhile call member).2 (soon_iff.mp soon).2
    refine ⟨fun _ => same, fun late => absurd soon late, made, ?_⟩
    rw [same, patient, all]
    exact ⟨makes.footprint, makes.footprint, List.prefix_rfl, makes.inTurn⟩
  · have late : ¬reception.InTime after.now deadline := fun inTime => soon (soon_iff.mpr inTime)
    rcases decideOn_of_late limited ran late with ⟨stopped, made, cut, decided⟩
    have timedOut : timed = (.answered (.error (.reported (.timeout limit))), stopped) := decided
    refine ⟨fun inTime => absurd inTime soon, fun _ => ?_, made, ?_⟩
    · rw [timedOut]
      exact ⟨rfl, cut.ended⟩
    · rw [patient, timedOut]
      exact ⟨cut.makes.footprint, cut.footprint, cut.initial, cut.makes.inTurn⟩

/-- A store that needs 300 ms to look an identity up, and 200 ms more to count it. -/
def unhurriedStore : Script where
  isBlocked := [.answers (some (.ofMilliseconds 300)) (.ok false)]
  increment := [.answers (some (.ofMilliseconds 200)) (.ok 1)]
  block := []
  reset := []
  ping := []
  close := []

/-- A decision that takes exactly as long as it may is the decision; with one millisecond less, it
is a timeout. -/
theorem timeout_changes_no_decision_at_tie :
    let limits : Limits := { ipLimit := 2, tokenLimit := 2, blockSpan := .ofSeconds 300 }
    let timeline := Timeline.start .origin unhurriedStore
    let decided (timeout : Option Duration) :=
      decideOn { limits, timeout } Script.store "10.0.0.1" "" timeline
    decided (some (.ofMilliseconds 500)) = decided none ∧
      (decided (some (.ofMilliseconds 499))).1 =
        .answered (.error (.reported (.timeout (.ofMilliseconds 499)))) := by
  intro limits timeline decided
  have patient : decideOn { limits, timeout := none } Script.store "10.0.0.1" "" timeline =
      (.answered (.ok (.ofCount (.ip "10.0.0.1") 2 1)), _) :=
    decideOn_iff.mpr ⟨_, .within rfl rfl (by decide), rfl⟩
  constructor
  · have tie := timeout_changes_no_decision limits (.ofMilliseconds 500) Script.store "10.0.0.1" ""
      timeline
    apply tie.2.2.1
    rw [patient]
    exact ⟨⟨_, rfl⟩, by decide⟩
  · have late := timeout_changes_no_decision limits (.ofMilliseconds 499) Script.store "10.0.0.1" ""
      timeline
    apply (late.2.2.2.1 _).1
    rw [patient]
    rintro ⟨_, soon⟩
    revert soon
    decide

end Service

end AdmissionControl
