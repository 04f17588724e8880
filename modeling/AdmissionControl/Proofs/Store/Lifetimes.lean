import AdmissionControl.Proofs.Store.Log

/-!
# Lifetimes of a counter

A counter lives for one window from its first raise. This file counts the raises of one identity in
any log of a store that does not reset its counter.

Every raise falls into a lifetime (`StoreLog.exists_lifetime`), and within a lifetime the answers
are consecutive numbers (`StoreLog.counts_from`). A raise is within a limit if it answers at most
the limit. What is left of the limit bounds the raises within it until the lifetime ends, and a new
lifetime cannot begin before that, so each window that a span of time touches adds the limit once
(`StoreLog.grants_le_of_span`).

Counts are machine words. The proofs carry the bound `tally + raises < UInt64.size`, which no call
weakens, so that no count wraps around.
-/

namespace AdmissionControl

/-- The calls that raise the counter of an identity. -/
def raisesOf (identity : Identity) (calls : List StoreCall) : List StoreCall :=
  calls.filter fun call => call.raises identity

/-- The calls that raise the counter of an identity at or after one point in time and before
another. -/
def raisesBetween (identity : Identity) (lower upper : Instant) (calls : List StoreCall) :
    List StoreCall :=
  calls.filter fun call =>
    call.raises identity && decide (lower ≤ call.time) && decide (call.time < upper)

/-- The calls that raise the counter of an identity and answer a count within a limit. -/
def grantsOf (identity : Identity) (limit : UInt64) (calls : List StoreCall) : List StoreCall :=
  calls.filter fun call => (call.countFor? identity).any fun count => count ≤ limit

/-- Those of them at or after one point in time and before another. -/
def grantsBetween (identity : Identity) (limit : UInt64) (lower upper : Instant)
    (calls : List StoreCall) : List StoreCall :=
  grantsOf identity limit (raisesBetween identity lower upper calls)

/-- The raises of one lifetime of the counter of an identity: the one that opens it and those that
follow before its window is over. -/
def IsLifetime (identity : Identity) (window : Duration) (calls lifetime : List StoreCall) : Prop :=
  ∃ earlier opening later, calls = earlier ++ opening :: later ∧ opening.Opens identity ∧
    lifetime = raisesBetween identity opening.time (opening.time.shift window) (opening :: later)

/-- The raises of an identity stay within a limit in every span of one window. -/
def IsCompliant (identity : Identity) (limit : UInt64) (window : Duration)
    (calls : List StoreCall) : Prop :=
  ∀ since : Instant,
    (raisesBetween identity since (since.shift window) calls).length ≤ limit.toNat

/-- The count of an identity that lives at a moment, or zero. -/
def Moment.tally (moment : Moment) (identity : Identity) : Nat :=
  ((moment.memory.counterAt? moment.now identity).map fun counter => counter.count.toNat).getD 0

/-! ## Lists of calls -/

section Lists

variable {identity : Identity} {limit : UInt64} {lower upper : Instant} {first : StoreCall}
  {rest calls more : List StoreCall}

theorem mem_raisesBetween {call : StoreCall} :
    call ∈ raisesBetween identity lower upper calls ↔
      call ∈ calls ∧ call.raises identity ∧ lower ≤ call.time ∧ call.time < upper := by
  simp [raisesBetween, and_assoc]

theorem raisesBetween_append :
    raisesBetween identity lower upper (calls ++ more) =
      raisesBetween identity lower upper calls ++ raisesBetween identity lower upper more :=
  List.filter_append ..

theorem raisesBetween_cons_of_raise (raised : first.raises identity)
    (notBefore : lower ≤ first.time) (inTime : first.time < upper) :
    raisesBetween identity lower upper (first :: rest) =
      first :: raisesBetween identity lower upper rest := by
  simp [raisesBetween, raised, notBefore, inTime]

theorem raisesBetween_cons_of_not_raise (unraised : ¬first.raises identity) :
    raisesBetween identity lower upper (first :: rest) =
      raisesBetween identity lower upper rest := by
  simp [raisesBetween, unraised]

theorem raisesOf_cons_of_raise (raised : first.raises identity) :
    raisesOf identity (first :: rest) = first :: raisesOf identity rest := by
  simp [raisesOf, raised]

theorem raisesOf_cons_of_not_raise (unraised : ¬first.raises identity) :
    raisesOf identity (first :: rest) = raisesOf identity rest := by
  simp [raisesOf, unraised]

theorem grantsBetween_cons_of_not_raise (unraised : ¬first.raises identity) :
    grantsBetween identity limit lower upper (first :: rest) =
      grantsBetween identity limit lower upper rest := by
  simp only [grantsBetween, raisesBetween_cons_of_not_raise unraised]

theorem grantsBetween_cons_le (limit : UInt64) (lower upper : Instant) (rest : List StoreCall)
    {count : UInt64} (counted : first.countFor? identity = some count) :
    (grantsBetween identity limit lower upper (first :: rest)).length ≤
      (if count.toNat ≤ limit.toNat then 1 else 0) +
        (grantsBetween identity limit lower upper rest).length := by
  have raised : first.raises identity := StoreCall.raises_iff.mpr ⟨count, counted⟩
  unfold grantsBetween grantsOf raisesBetween
  by_cases inside : (decide (lower ≤ first.time) && decide (first.time < upper)) = true
  · by_cases within : count ≤ limit
    · have withinNat : count.toNat ≤ limit.toNat := UInt64.le_iff_toNat_le.mp within
      simp [raised, counted, inside, Bool.and_assoc, within, withinNat, Nat.add_comm]
    · simp [raised, counted, inside, Bool.and_assoc, within]
  · simp [raised, inside, Bool.and_assoc]

end Lists

namespace Moment

variable {moment : Moment} {identity : Identity}

theorem tally_of_live (moment : Moment) {counter : Counter}
    (live : moment.memory.counterAt? moment.now identity = some counter) :
    moment.tally identity = counter.count.toNat := by
  simp [tally, live]

theorem tally_of_dead (moment : Moment)
    (dead : moment.memory.counterAt? moment.now identity = none) :
    moment.tally identity = 0 := by
  simp [tally, dead]

theorem tally_later_le {later : Instant} (earlier : moment.now ≤ later) :
    tally ⟨later, moment.memory⟩ identity ≤ moment.tally identity := by
  cases live : moment.memory.counterAt? later identity with
  | none => simp [tally, live]
  | some counter =>
      have entry := Memory.counterAt?_eq_some_iff.mp live
      have liveBefore : moment.memory.counterAt? moment.now identity = some counter :=
        Memory.counterAt?_eq_some_iff.mpr ⟨entry.1, Nat.lt_of_le_of_lt earlier entry.2⟩
      simp [tally, live, liveBefore]

/-- A raise adds one at most. -/
theorem tally_after_le {call : StoreCall} (performed : call.Performed)
    (raised : call.raises identity) :
    tally ⟨call.time, call.after⟩ identity ≤ tally ⟨call.time, call.before⟩ identity + 1 := by
  cases live : call.before.counterAt? call.time identity with
  | none =>
      rcases StoreCall.raises_iff.mp raised with ⟨count, counted⟩
      simp only [tally, Memory.counterAt?, (StoreCall.opened performed counted live).2,
        Option.filter_some]
      split <;> simp
  | some counter =>
      have liveAfter := StoreCall.live_of_continued performed raised live
      rw [tally_of_live ⟨call.time, call.before⟩ live,
        tally_of_live ⟨call.time, call.after⟩ liveAfter]
      exact succ_toNat_le counter.count

theorem tally_after_eq {call : StoreCall} (performed : call.Performed)
    (unraised : ¬call.raises identity) (unreset : call.operation ≠ .reset identity) :
    tally ⟨call.time, call.after⟩ identity = tally ⟨call.time, call.before⟩ identity := by
  simp only [tally, StoreCall.counterAt?_after performed unraised unreset (Nat.le_refl _)]

/-- So many raises within a limit are possible before some point: as many as the present lifetime
leaves of the limit, and the limit once for each window that fits in between, begun or not. -/
structure Affords (moment : Moment) (identity : Identity) (limit : UInt64) (upper : Instant)
    (grants : Nat) : Prop where
  dead : moment.memory.counterAt? moment.now identity = none → ∀ windows : Nat,
    upper.nanoseconds ≤ moment.now.nanoseconds + windows * moment.memory.window.nanoseconds →
      grants ≤ windows * limit.toNat
  live : ∀ counter, moment.memory.counterAt? moment.now identity = some counter →
    ∀ windows : Nat,
      upper.nanoseconds ≤ counter.expiry.nanoseconds + windows * moment.memory.window.nanoseconds →
        grants ≤ (limit.toNat - counter.count.toNat) + windows * limit.toNat

namespace Affords

variable {limit : UInt64} {upper : Instant} {grants fewer : Nat}

theorem nothing (moment : Moment) : moment.Affords identity limit upper 0 :=
  ⟨fun _ _ _ => Nat.zero_le _, fun _ _ _ _ => Nat.zero_le _⟩

theorem mono (affords : moment.Affords identity limit upper grants) (less : fewer ≤ grants) :
    moment.Affords identity limit upper fewer :=
  ⟨fun dead windows within => Nat.le_trans less (affords.dead dead windows within),
    fun counter live windows within => Nat.le_trans less (affords.live counter live windows within)⟩

/-- What a store affords later, it affords now if nothing happens in between. -/
theorem earlier {later : Instant} (notBefore : moment.now ≤ later)
    (affords : Affords ⟨later, moment.memory⟩ identity limit upper grants) :
    moment.Affords identity limit upper grants := by
  constructor
  · intro dead windows within
    apply affords.dead (Memory.counterAt?_eq_none_of_le notBefore dead)
    simp only [Instant.le_iff] at notBefore ⊢
    omega
  · intro counter live windows within
    by_cases alive : later < counter.expiry
    · have aliveLater := Memory.counterAt?_of_lt_expiry notBefore live alive
      exact affords.live counter aliveLater windows within
    · have dead : moment.memory.counterAt? later identity = none := by
        rw [Memory.counterAt?_later notBefore, live]
        simp [alive, Option.filter_some]
      have ended : counter.expiry.nanoseconds ≤ later.nanoseconds := Nat.le_of_not_lt alive
      have bound := affords.dead dead windows (by simp only; omega)
      omega

theorem of_not_raise {call : StoreCall} (performed : call.Performed)
    (unraised : ¬call.raises identity) (unreset : call.operation ≠ .reset identity)
    (affords : Affords ⟨call.time, call.after⟩ identity limit upper grants) :
    Affords ⟨call.time, call.before⟩ identity limit upper grants := by
  have same := StoreCall.counterAt?_after performed unraised unreset (Nat.le_refl _)
  have sameWindow := StoreCall.window_after performed
  constructor
  · intro dead windows within
    exact affords.dead (same.trans dead) windows (by rw [sameWindow]; exact within)
  · intro counter live windows within
    exact affords.live counter (same.trans live) windows (by rw [sameWindow]; exact within)

/-- A raise before the end of the span takes one of what the store affords, if its answer is within
the limit. -/
theorem of_raise {call : StoreCall} {count : UInt64} (performed : call.Performed)
    (counted : call.countFor? identity = some count)
    (positive : 0 < call.before.window.nanoseconds) (inTime : call.time < upper)
    (unwrapped : ∀ counter, call.before.counterAt? call.time identity = some counter →
      (counter.count + 1).toNat = counter.count.toNat + 1)
    (affords : Affords ⟨call.time, call.after⟩ identity limit upper grants) :
    Affords ⟨call.time, call.before⟩ identity limit upper
      ((if count.toNat ≤ limit.toNat then 1 else 0) + grants) := by
  have sameWindow := StoreCall.window_after performed
  have raised := StoreCall.raises_iff.mpr ⟨count, counted⟩
  constructor
  · intro dead windows within
    rcases StoreCall.opened performed counted dead with ⟨rfl, _⟩
    have live := StoreCall.live_of_opened performed raised dead positive
    -- The span reaches into the lifetime that begins, which uses up one of its windows.
    cases windows with
    | zero =>
        simp only [Instant.lt_iff] at inTime
        simp only at within
        omega
    | succ others =>
        rw [Nat.succ_mul] at within ⊢
        have rest := affords.live _ live others (by
          simp only [Instant.shift_nanoseconds, sameWindow] at within ⊢
          omega)
        simp only [UInt64.toNat_one] at rest ⊢
        split <;> omega
  · intro counter live windows within
    rcases StoreCall.continued performed counted live with ⟨rfl, _⟩
    have rest := affords.live _ (StoreCall.live_of_continued performed raised live) windows
      (by rw [sameWindow]; exact within)
    simp only [unwrapped counter live] at rest ⊢
    split <;> omega

end Affords

/-- While few raises are still to come, the next one does not wrap around. -/
theorem succ_toNat_of_few (moment : Moment) {counter : Counter} {first : StoreCall}
    {rest : List StoreCall}
    (live : moment.memory.counterAt? moment.now identity = some counter)
    (raised : first.raises identity)
    (few : moment.tally identity + (raisesOf identity (first :: rest)).length < UInt64.size) :
    (counter.count + 1).toNat = counter.count.toNat + 1 := by
  rw [tally_of_live moment live, raisesOf_cons_of_raise raised, List.length_cons] at few
  exact succ_toNat_of_lt (by omega)

/-- The lifetime of the counter that lives at a moment, if one does, was opened by one of some past
calls. -/
def OpenedIn (moment : Moment) (past : List StoreCall) (identity : Identity) : Prop :=
  ∀ counter, moment.memory.counterAt? moment.now identity = some counter →
    ∃ earlier opening later, past = earlier ++ opening :: later ∧ opening.Opens identity ∧
      opening.time ≤ moment.now ∧
      counter.expiry = opening.time.shift moment.memory.window

theorem OpenedIn.later {past : List StoreCall} {later : Instant}
    (known : moment.OpenedIn past identity) (notBefore : moment.now ≤ later) :
    OpenedIn ⟨later, moment.memory⟩ past identity := by
  intro counter live
  have entry := Memory.counterAt?_eq_some_iff.mp live
  rcases known counter (Memory.counterAt?_eq_some_iff.mpr
    ⟨entry.1, Nat.lt_of_le_of_lt notBefore entry.2⟩) with
    ⟨earlier, opening, between, split, opens, before, ends⟩
  exact ⟨earlier, opening, between, split, opens, Nat.le_trans before notBefore, ends⟩

theorem OpenedIn.after {past : List StoreCall} {call : StoreCall} (performed : call.Performed)
    (unreset : call.operation ≠ .reset identity)
    (known : OpenedIn ⟨call.time, call.before⟩ past identity) :
    OpenedIn ⟨call.time, call.after⟩ (past ++ [call]) identity := by
  intro counter live
  have sameWindow := StoreCall.window_after performed
  have carried (older : Counter) (sameEnd : counter.expiry = older.expiry)
      (liveBefore : call.before.counterAt? call.time identity = some older) :
      ∃ earlier opening later, past ++ [call] = earlier ++ opening :: later ∧
        opening.Opens identity ∧ opening.time ≤ call.time ∧
        counter.expiry = opening.time.shift call.after.window := by
    rcases known older liveBefore with ⟨earlier, opening, between, rfl, opens, before, ends⟩
    refine ⟨earlier, opening, between ++ [call], by simp, opens, before, ?_⟩
    rw [sameEnd, ends, sameWindow]
  by_cases raised : call.raises identity
  · rcases StoreCall.raises_iff.mp raised with ⟨count, counted⟩
    have entry := (Memory.counterAt?_eq_some_iff.mp live).1
    cases liveBefore : call.before.counterAt? call.time identity with
    | none =>
        rw [(StoreCall.opened performed counted liveBefore).2] at entry
        cases entry
        exact ⟨past, call, [], rfl, ⟨raised, liveBefore⟩, Nat.le_refl _, by rw [sameWindow]⟩
    | some older =>
        rw [(StoreCall.continued performed counted liveBefore).2] at entry
        cases entry
        exact carried older rfl liveBefore
  · rw [StoreCall.counterAt?_after performed raised unreset (Nat.le_refl _)] at live
    exact carried counter rfl live

/-- The counter that lives at a moment, if one does, counts no more than the raises of some past
calls within its lifetime. -/
def CoveredBy (moment : Moment) (past : List StoreCall) (identity : Identity) : Prop :=
  ∀ counter, moment.memory.counterAt? moment.now identity = some counter →
    ∃ opened : Instant, opened ≤ moment.now ∧
      counter.expiry = opened.shift moment.memory.window ∧
      counter.count.toNat ≤ (raisesBetween identity opened counter.expiry past).length

theorem CoveredBy.later {past : List StoreCall} {later : Instant}
    (covered : moment.CoveredBy past identity) (notBefore : moment.now ≤ later) :
    CoveredBy ⟨later, moment.memory⟩ past identity := by
  intro counter live
  have entry := Memory.counterAt?_eq_some_iff.mp live
  rcases covered counter (Memory.counterAt?_eq_some_iff.mpr
    ⟨entry.1, Nat.lt_of_le_of_lt notBefore entry.2⟩) with ⟨opened, before, ends, atMost⟩
  exact ⟨opened, Nat.le_trans before notBefore, ends, atMost⟩

/-- A call adds to the count of a lifetime only when it is a raise in the lifetime itself; a reset
leaves nothing to be counted. -/
theorem CoveredBy.after {past : List StoreCall} {call : StoreCall} (performed : call.Performed)
    (covered : CoveredBy ⟨call.time, call.before⟩ past identity) :
    CoveredBy ⟨call.time, call.after⟩ (past ++ [call]) identity := by
  intro counter live
  have sameWindow := StoreCall.window_after performed
  have entry := Memory.counterAt?_eq_some_iff.mp live
  simp only [sameWindow, raisesBetween_append, List.length_append]
  by_cases raised : call.raises identity
  · rcases StoreCall.raises_iff.mp raised with ⟨count, counted⟩
    cases liveBefore : call.before.counterAt? call.time identity with
    | none =>
        rw [(StoreCall.opened performed counted liveBefore).2] at entry
        rcases entry with ⟨same, alive⟩
        cases same
        refine ⟨call.time, Nat.le_refl _, rfl, ?_⟩
        rw [raisesBetween_cons_of_raise raised (Nat.le_refl _) alive, List.length_cons]
        simp only [UInt64.toNat_one]
        omega
    | some older =>
        rw [(StoreCall.continued performed counted liveBefore).2] at entry
        rcases entry with ⟨same, alive⟩
        cases same
        rcases covered older liveBefore with ⟨opened, before, ends, atMost⟩
        refine ⟨opened, before, ends, ?_⟩
        rw [raisesBetween_cons_of_raise raised before alive]
        have grown := succ_toNat_le older.count
        simp only [List.length_singleton, raisesBetween, List.filter_nil] at atMost ⊢
        omega
  · have liveBefore := StoreCall.counterAt?_of_after performed raised (Nat.le_refl _) live
    rcases covered counter liveBefore with ⟨opened, before, ends, atMost⟩
    exact ⟨opened, before, ends, Nat.le_add_right_of_le atMost⟩

end Moment

namespace StoreLog

variable {start finish : Moment} {calls : List StoreCall} {identity : Identity}
  {lower upper : Instant} {limit : UInt64}

theorem raisesBetween_eq_nil (log : StoreLog start calls finish) (ended : upper ≤ start.now) :
    raisesBetween identity lower upper calls = [] := by
  apply List.filter_eq_nil_iff.mpr
  intro call made
  have notBefore := log.le_time made
  simp only [Instant.le_iff, Instant.lt_iff, Bool.and_eq_true, decide_eq_true_eq]
    at notBefore ended ⊢
  omega

theorem grantsBetween_eq_nil (log : StoreLog start calls finish) (ended : upper ≤ start.now) :
    grantsBetween identity limit lower upper calls = [] := by
  rw [grantsBetween, log.raisesBetween_eq_nil ended]
  rfl

theorem tally_found_le {first : StoreCall} (later : start.now ≤ first.time)
    (found : first.before = start.memory) :
    Moment.tally ⟨first.time, first.before⟩ identity ≤ start.tally identity := by
  rw [found]
  exact Moment.tally_later_le later

/-- What a counter holds and the raises still to come never add up to more than at the start. -/
theorem tally_add_raises_le {first : StoreCall} {rest : List StoreCall}
    (later : start.now ≤ first.time) (found : first.before = start.memory)
    (performed : first.Performed) (unreset : first.operation ≠ .reset identity) :
    Moment.tally ⟨first.time, first.after⟩ identity + (raisesOf identity rest).length ≤
      start.tally identity + (raisesOf identity (first :: rest)).length := by
  have aged : Moment.tally ⟨first.time, first.before⟩ identity ≤ start.tally identity :=
    tally_found_le later found
  by_cases raised : first.raises identity
  · have once := Moment.tally_after_le performed raised
    rw [raisesOf_cons_of_raise raised, List.length_cons]
    omega
  · have same := Moment.tally_after_eq performed raised unreset
    rw [raisesOf_cons_of_not_raise raised]
    omega

/-- Within the lifetime of a counter the answers to its raises are consecutive numbers: none is lost
and none is answered twice. -/
theorem counts_from (log : StoreLog start calls finish) {counter : Counter}
    (live : start.memory.counterAt? start.now identity = some counter)
    (unreset : ∀ call ∈ calls, call.operation ≠ .reset identity)
    (few : start.tally identity + (raisesOf identity calls).length < UInt64.size)
    (notBefore : lower ≤ start.now) :
    ((raisesBetween identity lower counter.expiry calls).filterMap
        fun call => call.countFor? identity).map UInt64.toNat =
      List.range' (counter.count.toNat + 1)
        (raisesBetween identity lower counter.expiry calls).length := by
  induction log generalizing counter with
  | quiet later same => simp [raisesBetween]
  | @call start finish first rest later found performed continues ih =>
      have unresetFirst := unreset first List.mem_cons_self
      have unresetRest : ∀ call ∈ rest, call.operation ≠ .reset identity :=
        fun call made => unreset call (List.mem_cons_of_mem _ made)
      have fewRest := Nat.lt_of_le_of_lt
        (tally_add_raises_le later found performed unresetFirst) few
      have notBeforeFirst : lower ≤ first.time := Nat.le_trans notBefore later
      by_cases alive : first.time < counter.expiry
      · have liveFirst : first.before.counterAt? first.time identity = some counter := by
          rw [found]
          exact Memory.counterAt?_of_lt_expiry later live alive
        by_cases raised : first.raises identity
        · rcases StoreCall.raises_iff.mp raised with ⟨count, counted⟩
          have next := (StoreCall.continued performed counted liveFirst).1
          have liveRest := StoreCall.live_of_continued performed raised liveFirst
          have unwrapped := Moment.succ_toNat_of_few start live raised few
          have onward := ih liveRest unresetRest fewRest notBeforeFirst
          rw [raisesBetween_cons_of_raise raised notBeforeFirst alive, List.length_cons,
            List.range'_succ]
          simp only [List.filterMap_cons, counted, List.map_cons, next, unwrapped] at onward ⊢
          rw [onward]
        · have liveRest : first.after.counterAt? first.time identity = some counter := by
            rw [StoreCall.counterAt?_after performed raised unresetFirst (Nat.le_refl _)]
            exact liveFirst
          rw [raisesBetween_cons_of_not_raise raised]
          exact ih liveRest unresetRest fewRest notBeforeFirst
      · have ended : counter.expiry ≤ first.time := Nat.le_of_not_lt alive
        have onward := from_first performed continues
        rw [onward.raisesBetween_eq_nil ended]
        rfl

/-- Every log affords the raises within a limit that it contains. -/
theorem affords_grants (log : StoreLog start calls finish)
    (positive : 0 < start.memory.window.nanoseconds)
    (unreset : ∀ call ∈ calls, call.operation ≠ .reset identity)
    (few : start.tally identity + (raisesOf identity calls).length < UInt64.size) :
    start.Affords identity limit upper (grantsBetween identity limit lower upper calls).length := by
  induction log with
  | quiet later same => exact .nothing _
  | @call start finish first rest later found performed continues ih =>
      have unresetFirst := unreset first List.mem_cons_self
      have fewRest := Nat.lt_of_le_of_lt
        (tally_add_raises_le later found performed unresetFirst) few
      have sameWindow := window_first found performed
      have onward := ih (by rw [sameWindow]; exact positive)
        (fun call made => unreset call (List.mem_cons_of_mem _ made)) fewRest
      apply Moment.Affords.earlier later
      rw [← found] at positive ⊢
      by_cases raised : first.raises identity
      · rcases StoreCall.raises_iff.mp raised with ⟨count, counted⟩
        have unwrapped : ∀ counter, first.before.counterAt? first.time identity = some counter →
            (counter.count + 1).toNat = counter.count.toNat + 1 := by
          intro counter live
          exact Moment.succ_toNat_of_few ⟨first.time, first.before⟩ live raised
            (Nat.lt_of_le_of_lt (Nat.add_le_add_right (tally_found_le later found) _) few)
        by_cases inTime : first.time < upper
        · exact (onward.of_raise performed counted positive inTime unwrapped).mono
            (grantsBetween_cons_le limit lower upper rest counted)
        · have again := from_first performed continues
          rw [again.grantsBetween_eq_nil (Nat.le_of_not_lt inTime)]
          exact .nothing _
      · rw [grantsBetween_cons_of_not_raise raised]
        exact onward.of_not_raise performed raised unresetFirst

/-- The raises within a limit in any span of some whole windows are at most the limit once for each
window and once more, since the span may begin within a lifetime. -/
theorem grants_le_of_span (log : StoreLog start calls finish)
    (positive : 0 < start.memory.window.nanoseconds)
    (unreset : ∀ call ∈ calls, call.operation ≠ .reset identity)
    (few : start.tally identity + (raisesOf identity calls).length < UInt64.size) (windows : Nat)
    (span : upper.nanoseconds ≤
      lower.nanoseconds + windows * start.memory.window.nanoseconds) :
    (grantsBetween identity limit lower upper calls).length ≤ (windows + 1) * limit.toNat := by
  induction log with
  | quiet later same => simp [grantsBetween, grantsOf, raisesBetween]
  | @call start finish first rest later found performed continues ih =>
      by_cases inside : lower ≤ first.time
      · have fromFirst := from_first performed continues
        rw [← found] at positive span
        have affords : Moment.Affords ⟨first.time, first.before⟩ identity limit upper
            (grantsBetween identity limit lower upper (first :: rest)).length :=
          fromFirst.affords_grants positive unreset
            (Nat.lt_of_le_of_lt (Nat.add_le_add_right (tally_found_le later found) _) few)
        simp only [Instant.le_iff] at inside
        rw [Nat.succ_mul]
        cases live : first.before.counterAt? first.time identity with
        | none =>
            have bound := affords.dead live windows (by simp only; omega)
            omega
        | some counter =>
            have alive := (Memory.counterAt?_eq_some_iff.mp live).2
            simp only [Instant.lt_iff] at alive
            have bound := affords.live counter live windows (by simp only; omega)
            omega
      · have sameWindow := window_first found performed
        have skipped : grantsBetween identity limit lower upper (first :: rest) =
            grantsBetween identity limit lower upper rest := by
          simp [grantsBetween, raisesBetween, inside]
        rw [skipped]
        apply ih
        · rw [sameWindow]
          exact positive
        · exact fun call made => unreset call (List.mem_cons_of_mem _ made)
        · exact Nat.lt_of_le_of_lt
            (tally_add_raises_le later found performed (unreset first List.mem_cons_self)) few
        · rw [sameWindow]
          exact span

/-- Every raise falls into a lifetime, which a raise of the log or one of the `past` opened. -/
theorem exists_lifetime (log : StoreLog start calls finish)
    (positive : 0 < start.memory.window.nanoseconds)
    (unreset : ∀ call ∈ calls, call.operation ≠ .reset identity) {past : List StoreCall}
    (known : start.OpenedIn past identity) {raise : StoreCall} (made : raise ∈ calls)
    (raised : raise.raises identity) :
    ∃ lifetime, IsLifetime identity start.memory.window (past ++ calls) lifetime ∧
      raise ∈ lifetime := by
  induction log generalizing past with
  | quiet later same => cases made
  | @call start finish first rest later found performed continues ih =>
      have sameWindow := window_first found performed
      have knownFirst : Moment.OpenedIn ⟨first.time, first.before⟩ past identity := by
        rw [found]
        exact known.later later
      rcases List.mem_cons.mp made with rfl | inRest
      · cases live : raise.before.counterAt? raise.time identity with
        | none =>
            refine ⟨_, ⟨past, raise, rest, rfl, ⟨raised, live⟩, rfl⟩, ?_⟩
            refine mem_raisesBetween.mpr ⟨List.mem_cons_self, raised, Nat.le_refl _, ?_⟩
            exact Instant.lt_shift positive
        | some counter =>
            rcases knownFirst counter live with
              ⟨earlier, opening, between, rfl, opens, before, ends⟩
            have alive := (Memory.counterAt?_eq_some_iff.mp live).2
            refine ⟨_, ⟨earlier, opening, between ++ raise :: rest, by simp, opens, rfl⟩, ?_⟩
            refine mem_raisesBetween.mpr ⟨by simp, raised, before, ?_⟩
            rw [← found, ← ends]
            exact alive
      · have onward := ih (by rw [sameWindow]; exact positive)
          (fun call made => unreset call (List.mem_cons_of_mem _ made))
          (knownFirst.after performed (unreset first List.mem_cons_self)) inRest
        simpa [sameWindow] using onward

/-- The answers to the raises of a lifetime are the numbers from one on, in order. -/
theorem counts_of_lifetime (log : StoreLog start calls finish)
    (positive : 0 < start.memory.window.nanoseconds)
    (unreset : ∀ call ∈ calls, call.operation ≠ .reset identity)
    (few : (raisesOf identity calls).length < UInt64.size) {lifetime : List StoreCall}
    (isLifetime : IsLifetime identity start.memory.window calls lifetime) :
    (lifetime.filterMap fun call => call.countFor? identity).map UInt64.toNat =
      List.range' 1 lifetime.length := by
  rcases isLifetime with ⟨earlier, opening, later, rfl, ⟨raised, dead⟩, rfl⟩
  rw [← log.up_to.window_eq] at positive ⊢
  rcases StoreCall.raises_iff.mp raised with ⟨count, counted⟩
  have performed : opening.Performed := log.performed (by simp)
  rcases StoreCall.opened performed counted dead with ⟨rfl, _⟩
  have alive : opening.time < opening.time.shift opening.before.window :=
    Instant.lt_shift positive
  have live := StoreCall.live_of_opened performed raised dead positive
  have fewLater : Moment.tally ⟨opening.time, opening.after⟩ identity +
      (raisesOf identity later).length < UInt64.size := by
    have total := few
    rw [raisesOf, List.filter_append, List.length_append, ← raisesOf, ← raisesOf,
      raisesOf_cons_of_raise raised, List.length_cons] at total
    rw [Moment.tally_of_live ⟨opening.time, opening.after⟩ live, UInt64.toNat_one]
    omega
  have onward := log.onward.counts_from live
    (fun call made => unreset call (by simp [made])) fewLater (Nat.le_refl _)
  rw [raisesBetween_cons_of_raise raised (Nat.le_refl _) alive, List.length_cons,
    List.range'_succ]
  simp only [List.filterMap_cons, counted, List.map_cons, UInt64.toNat_one] at onward ⊢
  rw [onward]

theorem grants_le_of_lifetime (log : StoreLog start calls finish)
    (positive : 0 < start.memory.window.nanoseconds)
    (unreset : ∀ call ∈ calls, call.operation ≠ .reset identity)
    (few : (raisesOf identity calls).length < UInt64.size) {lifetime : List StoreCall}
    (isLifetime : IsLifetime identity start.memory.window calls lifetime) :
    (grantsOf identity limit lifetime).length ≤ limit.toNat := by
  rcases isLifetime with ⟨earlier, opening, later, rfl, ⟨raised, dead⟩, rfl⟩
  rw [← log.up_to.window_eq] at positive ⊢
  have fewOnward : Moment.tally ⟨opening.time, opening.before⟩ identity +
      (raisesOf identity (opening :: later)).length < UInt64.size := by
    have total := few
    rw [raisesOf, List.filter_append, List.length_append, ← raisesOf, ← raisesOf] at total
    rw [Moment.tally_of_dead ⟨opening.time, opening.before⟩ dead]
    omega
  have fromOpening := from_first (log.performed (by simp)) log.onward
  have affords : Moment.Affords ⟨opening.time, opening.before⟩ identity limit
      (opening.time.shift opening.before.window)
      (grantsBetween identity limit opening.time (opening.time.shift opening.before.window)
        (opening :: later)).length :=
    fromOpening.affords_grants positive
      (fun call made => unreset call (List.mem_append_right _ made)) fewOnward
  have bound := affords.dead dead 1 (by simp)
  rwa [Nat.one_mul] at bound

/-- A compliant identity never sees a count beyond its limit. -/
theorem count_le_of_compliant (log : StoreLog start calls finish)
    (positive : 0 < start.memory.window.nanoseconds) {past : List StoreCall}
    (covered : start.CoveredBy past identity)
    (compliant : IsCompliant identity limit start.memory.window (past ++ calls))
    {raise : StoreCall} (made : raise ∈ calls) {count : UInt64}
    (counted : raise.countFor? identity = some count) :
    1 ≤ count.toNat ∧ count.toNat ≤ limit.toNat := by
  induction log generalizing past with
  | quiet later same => cases made
  | @call start finish first rest later found performed continues ih =>
      have sameWindow := window_first found performed
      have coveredFirst : Moment.CoveredBy ⟨first.time, first.before⟩ past identity := by
        rw [found]
        exact covered.later later
      rcases List.mem_cons.mp made with rfl | inRest
      · have raised : raise.raises identity := StoreCall.raises_iff.mpr ⟨count, counted⟩
        -- A raise counts among those of the span of one window that begins with its lifetime.
        have room (opened : Instant) (before : opened ≤ raise.time)
            (alive : raise.time < opened.shift start.memory.window) :
            (raisesBetween identity opened (opened.shift start.memory.window) past).length + 1 ≤
              limit.toNat := by
          have bound := compliant opened
          rw [raisesBetween_append, raisesBetween_cons_of_raise raised before alive,
            List.length_append, List.length_cons] at bound
          omega
        cases live : raise.before.counterAt? raise.time identity with
        | none =>
            have enough := room raise.time (Nat.le_refl _) (Instant.lt_shift positive)
            rw [(StoreCall.opened performed counted live).1, UInt64.toNat_one]
            omega
        | some counter =>
            rcases coveredFirst counter live with ⟨opened, before, ends, atMost⟩
            have alive := (Memory.counterAt?_eq_some_iff.mp live).2
            simp only [found] at ends
            rw [ends] at alive atMost
            have enough := room opened before alive
            have width := limit.toNat_lt_size
            rw [(StoreCall.continued performed counted live).1, succ_toNat_of_lt (by omega)]
            omega
      · apply ih
        · rw [sameWindow]
          exact positive
        · exact coveredFirst.after performed
        · simpa [sameWindow] using compliant
        · exact inRest

end StoreLog

end AdmissionControl
