import AdmissionControl.Proofs.Admission.Appeals
import AdmissionControl.Proofs.Admission.BlockAuthority

/-!
# The law of admission

What the appeals of one client come to, one after another, while those of other clients come in
between: the first ones of a window are let through up to the limit, the next one is denied and
blocked, and the block holds until its own end, whatever the client tries (`admission_law`).

Two inductions carry this, one over the appeals that are counted and one over those that meet the
block. Both end in what stands of the identity after them.
-/

namespace AdmissionControl

/-- The appeals that are about an identity. -/
def appealsOf (identity : Identity) (appeals : List Appeal) : List Appeal :=
  appeals.filter fun appeal => appeal.check.identity = identity

/-- Appeals in the order of their times. The clock can hold the ends of all their entries, and those
about the identity of a check all ask for that check. -/
structure Docket (check : Check) (window : Duration) (appeals : List Appeal) : Prop where
  ordered : appeals.Pairwise fun earlier later => earlier.time ≤ later.time
  fits : ∀ appeal ∈ appeals, appeal.check.Fits window appeal.time
  shared : ∀ appeal ∈ appeals, appeal.check.identity = check.identity → appeal.check = check

variable {identity : Identity} {check : Check} {window : Duration} {appeal first : Appeal}
  {appeals more earlier later rest : List Appeal}

theorem appealsOf_cons_of_eq (own : appeal.check.identity = identity) :
    appealsOf identity (appeal :: appeals) = appeal :: appealsOf identity appeals := by
  simp [appealsOf, own]

theorem appealsOf_cons_of_ne (other : appeal.check.identity ≠ identity) :
    appealsOf identity (appeal :: appeals) = appealsOf identity appeals := by
  simp [appealsOf, other]

theorem appealsOf_append :
    appealsOf identity (appeals ++ more) = appealsOf identity appeals ++ appealsOf identity more :=
  List.filter_append ..

theorem mem_appealsOf : appeal ∈ appealsOf identity appeals ↔
    appeal ∈ appeals ∧ appeal.check.identity = identity := by
  simp [appealsOf]

namespace Docket

theorem of_append_left (docket : Docket check window (appeals ++ more)) :
    Docket check window appeals where
  ordered := (List.pairwise_append.mp docket.ordered).1
  fits := fun appeal member => docket.fits appeal (List.mem_append_left _ member)
  shared := fun appeal member => docket.shared appeal (List.mem_append_left _ member)

theorem of_append_right (docket : Docket check window (appeals ++ more)) :
    Docket check window more where
  ordered := (List.pairwise_append.mp docket.ordered).2.1
  fits := fun appeal member => docket.fits appeal (List.mem_append_right _ member)
  shared := fun appeal member => docket.shared appeal (List.mem_append_right _ member)

theorem cons (docket : Docket check window appeals)
    (onward : ∀ later ∈ appeals, appeal.time ≤ later.time)
    (fits : appeal.check.Fits window appeal.time) (own : appeal.check = check) :
    Docket check window (appeal :: appeals) where
  ordered := .cons onward docket.ordered
  fits := List.forall_mem_cons.mpr ⟨fits, docket.fits⟩
  shared := List.forall_mem_cons.mpr ⟨fun _ => own, docket.shared⟩

theorem tail (docket : Docket check window (appeal :: appeals)) : Docket check window appeals where
  ordered := docket.ordered.of_cons
  fits := fun later member => docket.fits later (List.mem_cons_of_mem _ member)
  shared := fun later member => docket.shared later (List.mem_cons_of_mem _ member)

theorem head_le (docket : Docket check window (appeal :: appeals)) :
    ∀ later ∈ appeals, appeal.time ≤ later.time :=
  fun _ member => List.rel_of_pairwise_cons docket.ordered member

theorem head_fits (docket : Docket check window (appeal :: appeals)) :
    appeal.check.Fits window appeal.time :=
  docket.fits appeal List.mem_cons_self

end Docket

/-! ## Runs of appeals -/

variable {timeline : Timeline Memory} {now final expiry ending : Instant}
  {counter? : Option Counter} {ending? : Option Instant} {number : Nat}

/-- While the block of an identity lasts, neither its own appeals nor those of others change what
stands of it. -/
theorem standing_of_retries
    (standing : timeline.contents.Standing check.identity window now counter? (some ending))
    (docket : Docket check window appeals) (onward : ∀ appeal ∈ appeals, now ≤ appeal.time)
    (inTime : ∀ own ∈ appealsOf check.identity appeals, own.time < ending)
    (notBefore : now ≤ final) (last : ∀ appeal ∈ appeals, appeal.time ≤ final) :
    (timeline.afterAppeals appeals).contents.Standing check.identity window final counter?
      (some ending) := by
  induction appeals generalizing timeline now with
  | nil => exact standing.later notBefore
  | cons appeal rest ih =>
      have here := onward appeal List.mem_cons_self
      have after : (appeal.outcome timeline).2.contents.Standing check.identity window appeal.time
          counter? (some ending) := by
        by_cases own : appeal.check.identity = check.identity
        · have mine := docket.shared appeal List.mem_cons_self own
          rw [appealsOf_cons_of_eq own] at inTime
          rw [← mine] at standing
          rcases appeal.outcome_of_blocked standing here docket.head_fits
            (inTime appeal List.mem_cons_self) with ⟨_, same⟩
          rw [same, ← mine]
          exact standing.later here
        · exact appeal.standing_of_other standing here docket.head_fits own
      apply ih after docket.tail docket.head_le
      · intro own member
        apply inTime own
        rw [mem_appealsOf] at member ⊢
        exact ⟨List.mem_cons_of_mem _ member.1, member.2⟩
      · exact last appeal List.mem_cons_self
      · intro later member
        exact last later (List.mem_cons_of_mem _ member)

theorem ofNat_le_iff {limit : UInt64} (fits : number < UInt64.size) :
    UInt64.ofNat number ≤ limit ↔ number ≤ limit.toNat := by
  rw [UInt64.le_iff_toNat_le, UInt64.toNat_ofNat_of_lt' fits]

theorem succ_not_le {limit : UInt64} (room : limit.toNat + 1 < UInt64.size) :
    ¬UInt64.ofNat (limit.toNat + 1) ≤ limit :=
  mt (ofNat_le_iff room).mp (Nat.not_succ_le_self _)

/-- An appeal within the window of a counter counts one more. -/
theorem raised_of_counted
    (standing : timeline.contents.Standing identity window now
      (some ⟨UInt64.ofNat number, expiry⟩) ending?)
    (notBefore : now ≤ final) (alive : final < expiry) :
    timeline.contents.raised final identity = ⟨UInt64.ofNat (number + 1), expiry⟩ := by
  rw [(standing.later notBefore).raised_of_alive alive, UInt64.ofNat_add]
  rfl

/-- While an identity is counted within its limit, each of its own appeals counts one more. -/
theorem standing_of_counted
    (standing : timeline.contents.Standing check.identity window now
      (some ⟨UInt64.ofNat number, expiry⟩) none)
    (docket : Docket check window appeals) (onward : ∀ appeal ∈ appeals, now ≤ appeal.time)
    (inTime : ∀ own ∈ appealsOf check.identity appeals, own.time < expiry)
    (within : number + (appealsOf check.identity appeals).length ≤ check.limit.toNat)
    (notBefore : now ≤ final) (last : ∀ appeal ∈ appeals, appeal.time ≤ final) :
    (timeline.afterAppeals appeals).contents.Standing check.identity window final
      (some ⟨UInt64.ofNat (number + (appealsOf check.identity appeals).length), expiry⟩) none := by
  induction appeals generalizing timeline now number with
  | nil => exact standing.later notBefore
  | cons appeal rest ih =>
      have here := onward appeal List.mem_cons_self
      have reached := last appeal List.mem_cons_self
      have others : ∀ later ∈ rest, later.time ≤ final :=
        fun later member => last later (List.mem_cons_of_mem _ member)
      by_cases own : appeal.check.identity = check.identity
      · have mine := docket.shared appeal List.mem_cons_self own
        rw [appealsOf_cons_of_eq own] at inTime within ⊢
        simp only [List.length_cons] at within ⊢
        rw [← mine] at standing
        have alive := inTime appeal List.mem_cons_self
        have raised := raised_of_counted standing here alive
        have few : number + 1 ≤ appeal.check.limit.toNat := by
          rw [mine]
          omega
        have fits : number + 1 < UInt64.size := Nat.lt_of_le_of_lt few appeal.check.limit.toNat_lt
        rcases appeal.outcome_of_within (standing.later here) docket.head_fits raised
          ((ofNat_le_iff fits).mpr few) with ⟨_, after⟩
        rw [mine] at after
        have onwards := ih after docket.tail docket.head_le
          (fun own member => inTime own (List.mem_cons_of_mem _ member)) (by omega) reached others
        rwa [show number + 1 + (appealsOf check.identity rest).length =
          number + ((appealsOf check.identity rest).length + 1) by omega] at onwards
      · rw [appealsOf_cons_of_ne own] at inTime within ⊢
        have after := appeal.standing_of_other standing here docket.head_fits own
        exact ih after docket.tail docket.head_le inTime within reached others

/-! ## The first window -/

/-- Appeals that begin with one about an identity without a counter and without a block. Those about
it come within one window, up to the first one beyond the limit. -/
structure Opening (start : Timeline Memory) (check : Check) (window : Duration) (first : Appeal)
    (rest : List Appeal) : Prop where
  reachable : start.contents.obstacle? = none
  sameWindow : start.contents.window = window
  uncounted : start.contents.counterAt? first.time check.identity = none
  unblocked : start.contents.blockAt? first.time check.identity = none
  own : first.check = check
  docket : Docket check window (first :: rest)
  inWindow : ∀ own ∈ (appealsOf check.identity (first :: rest)).take (check.limit.toNat + 1),
    own.time < first.time.shift window

namespace Opening

variable {start : Timeline Memory} (opening : Opening start check window first rest)
include opening

theorem standing : start.contents.Standing check.identity window first.time none none where
  reachable := opening.reachable
  sameWindow := opening.sameWindow
  counter := opening.uncounted
  block := opening.unblocked

/-- The first appeal is counted as the first of its window. -/
theorem standing_after_first (positive : 0 < check.limit.toNat) :
    (first.outcome start).2.contents.Standing check.identity window first.time
      (some ⟨UInt64.ofNat 1, first.time.shift window⟩) none := by
  have standing := opening.standing
  rw [← opening.own] at standing positive ⊢
  have within : (1 : UInt64) ≤ first.check.limit := (ofNat_le_iff (by decide)).mpr positive
  exact (first.outcome_of_within standing opening.docket.head_fits standing.raised_of_none
    within).2

theorem inTime (split : first :: rest = earlier ++ appeal :: later)
    (few : (appealsOf check.identity earlier).length ≤ check.limit.toNat) :
    ∀ own ∈ appealsOf check.identity (earlier ++ [appeal]),
      own.time < first.time.shift window := by
  intro own member
  apply opening.inWindow
  have length : (appealsOf check.identity (earlier ++ [appeal])).length ≤
      check.limit.toNat + 1 := by
    have one := List.length_filter_le (fun other => other.check.identity = check.identity) [appeal]
    rw [appealsOf_append, List.length_append]
    exact Nat.add_le_add few one
  rw [split, List.append_cons, appealsOf_append, List.take_append,
    List.take_of_length_le length]
  exact List.mem_append_left _ member

/-- Up to the first appeal beyond the limit, each appeal about the identity raises its counter to
its own number among them. -/
theorem raised (positive : 0 < check.limit.toNat)
    (split : first :: rest = earlier ++ appeal :: later)
    (own : appeal.check.identity = check.identity)
    (few : (appealsOf check.identity earlier).length ≤ check.limit.toNat) :
    ∃ counter?,
      (start.afterAppeals earlier).contents.Standing check.identity window appeal.time counter?
        none ∧
      (start.afterAppeals earlier).contents.raised appeal.time check.identity =
        ⟨UInt64.ofNat ((appealsOf check.identity earlier).length + 1),
          first.time.shift window⟩ := by
  cases earlier with
  | nil =>
      cases split
      exact ⟨none, opening.standing, opening.standing.raised_of_none⟩
  | cons head more =>
      have inTime := opening.inTime split few
      cases split
      rw [appealsOf_append] at inTime
      have ownFirst : first.check.identity = check.identity := by rw [opening.own]
      rw [appealsOf_cons_of_eq ownFirst] at inTime few ⊢
      simp only [List.length_cons] at few ⊢
      have docket := opening.docket.tail
      have split := List.pairwise_append.mp docket.ordered
      have standing : ((first.outcome start).2.afterAppeals more).contents.Standing check.identity
          window appeal.time (some ⟨UInt64.ofNat (1 + (appealsOf check.identity more).length),
            first.time.shift window⟩) none := by
        apply standing_of_counted (opening.standing_after_first positive) docket.of_append_left
        · intro other member
          exact opening.docket.head_le other (List.mem_append_left _ member)
        · intro mine member
          exact inTime mine (List.mem_append_left _ (List.mem_cons_of_mem _ member))
        · omega
        · exact opening.docket.head_le appeal (List.mem_append_right _ List.mem_cons_self)
        · intro other member
          exact split.2.2 other member appeal List.mem_cons_self
      have alive : appeal.time < first.time.shift window := by
        apply inTime
        rw [appealsOf_cons_of_eq own]
        exact List.mem_append_right _ List.mem_cons_self
      rw [Nat.add_comm] at standing
      exact ⟨_, standing, raised_of_counted standing (Nat.le_refl _) alive⟩

section

variable (split : first :: rest = earlier ++ appeal :: later)
  (own : appeal.check.identity = check.identity)
include split own

theorem docket_of_split :
    appeal.check = check ∧ appeal.check.Fits window appeal.time ∧ Docket check window later ∧
      ∀ other ∈ later, appeal.time ≤ other.time := by
  have docket := opening.docket
  rw [split] at docket
  have onward := docket.of_append_right
  exact ⟨onward.shared appeal List.mem_cons_self own, onward.head_fits, onward.tail,
    onward.head_le⟩

variable (positive : 0 < check.limit.toNat)
include positive

theorem outcome_of_few
    (within : (appealsOf check.identity earlier).length + 1 ≤ check.limit.toNat) :
    (appeal.outcome (start.afterAppeals earlier)).1 = .answered (.ok (.ofCount check.identity
      check.limit (UInt64.ofNat ((appealsOf check.identity earlier).length + 1)))) := by
  rcases opening.docket_of_split split own with ⟨mine, fits, _, _⟩
  rcases opening.raised positive split own (Nat.le_of_succ_le within) with
    ⟨counter?, standing, raised⟩
  rw [← mine] at standing raised within ⊢
  have counted := Nat.lt_of_le_of_lt within appeal.check.limit.toNat_lt
  exact (appeal.outcome_of_within standing fits raised ((ofNat_le_iff counted).mpr within)).1

theorem outcome_of_excess (room : check.limit.toNat + 1 < UInt64.size)
    (beyond : (appealsOf check.identity earlier).length = check.limit.toNat) :
    (appeal.outcome (start.afterAppeals earlier)).1 = .answered (.ok (.ofCount check.identity
        check.limit (UInt64.ofNat (check.limit.toNat + 1)))) ∧
      (appeal.outcome (start.afterAppeals earlier)).2.contents.Standing check.identity window
        appeal.time (some ⟨UInt64.ofNat (check.limit.toNat + 1), first.time.shift window⟩)
        (some (appeal.time.shift check.blockSpan)) := by
  rcases opening.docket_of_split split own with ⟨mine, fits, _, _⟩
  rcases opening.raised positive split own (Nat.le_of_eq beyond) with ⟨counter?, standing, raised⟩
  rw [beyond] at raised
  rw [← mine] at standing raised room ⊢
  exact appeal.outcome_of_beyond standing fits raised (succ_not_le room)

/-- What stands of the identity while its block lasts. -/
theorem standing_of_block (room : check.limit.toNat + 1 < UInt64.size)
    (beyond : (appealsOf check.identity earlier).length = check.limit.toNat)
    {between after : List Appeal} (onward : later = between ++ after)
    (inTime : ∀ own ∈ appealsOf check.identity between,
      own.time < appeal.time.shift check.blockSpan)
    {now : Instant} (last : ∀ other ∈ appeal :: between, other.time ≤ now) :
    (start.afterAppeals (earlier ++ appeal :: between)).contents.Standing check.identity window now
      (some ⟨UInt64.ofNat (check.limit.toNat + 1), first.time.shift window⟩)
      (some (appeal.time.shift check.blockSpan)) := by
  rcases opening.docket_of_split split own with ⟨_, _, docket, notBefore⟩
  subst onward
  rw [Timeline.afterAppeals_append, Timeline.afterAppeals_cons]
  apply standing_of_retries (opening.outcome_of_excess split own positive room beyond).2
    docket.of_append_left
  · intro other member
    exact notBefore other (List.mem_append_left _ member)
  · exact inTime
  · exact last appeal List.mem_cons_self
  · intro other member
    exact last other (List.mem_cons_of_mem _ member)

/-- A retry while the block lasts is denied and leaves the store as it was. -/
theorem outcome_of_retry (room : check.limit.toNat + 1 < UInt64.size)
    (beyond : (appealsOf check.identity earlier).length = check.limit.toNat)
    {between after : List Appeal} {retry : Appeal} (onward : later = between ++ retry :: after)
    (ownRetry : retry.check.identity = check.identity)
    (inTime : retry.time < appeal.time.shift check.blockSpan) :
    (retry.outcome (start.afterAppeals (earlier ++ appeal :: between))).1 =
        .answered (.ok (.ofBlocked check.identity check.limit)) ∧
      (retry.outcome (start.afterAppeals (earlier ++ appeal :: between))).2.contents =
        (start.afterAppeals (earlier ++ appeal :: between)).contents := by
  rcases opening.docket_of_split split own with ⟨_, _, docket, notBefore⟩
  rw [onward] at docket notBefore
  have mine := docket.of_append_right.shared retry List.mem_cons_self ownRetry
  have sooner := (List.pairwise_append.mp docket.ordered).2.2
  have untilRetry : ∀ own ∈ appealsOf check.identity between,
      own.time < appeal.time.shift check.blockSpan := by
    intro other member
    have before := sooner other (mem_appealsOf.mp member).1 retry List.mem_cons_self
    exact Nat.lt_of_le_of_lt before inTime
  have last : ∀ other ∈ appeal :: between, other.time ≤ retry.time := by
    intro other member
    rcases List.mem_cons.mp member with rfl | member
    · exact notBefore retry (List.mem_append_right _ List.mem_cons_self)
    · exact sooner other member retry List.mem_cons_self
  have standing :=
    opening.standing_of_block split own positive room beyond onward untilRetry last
  rw [← mine] at standing inTime ⊢
  exact retry.outcome_of_blocked standing (Nat.le_refl _) docket.of_append_right.head_fits inTime

end

end Opening

/-- The law of admission for one client up to the end of its block, whatever other clients do in
between. Its first appeals of a window are let through up to the limit, each with its own number as
its count. The next one is denied with a count one beyond the limit and sets a block. Until the
block is over each further appeal is denied in the same way and leaves the store as it was, and the
block is over at its own end and not earlier or later. -/
theorem admission_law {start : Timeline Memory} (opening : Opening start check window first rest)
    (positive : 0 < check.limit.toNat) (room : check.limit.toNat + 1 < UInt64.size) :
    ∀ earlier appeal later, first :: rest = earlier ++ appeal :: later →
      appeal.check.identity = check.identity →
      let before := start.afterAppeals earlier
      let number := (appealsOf check.identity earlier).length + 1
      let ending := appeal.time.shift check.blockSpan
      (number ≤ check.limit.toNat →
        ∃ decision, (appeal.outcome before).1 = .answered (.ok decision) ∧
          decision.allowed = true ∧ decision.currentCount.toNat = number ∧
          decision.limit = check.limit ∧ decision.identity = check.identity ∧
          decision.remaining.toNat = check.limit.toNat - number) ∧
      (number = check.limit.toNat + 1 →
        (∃ decision, (appeal.outcome before).1 = .answered (.ok decision) ∧
          decision.allowed = false ∧ decision.currentCount.toNat = check.limit.toNat + 1) ∧
        (∀ between retry after, later = between ++ retry :: after →
          retry.check.identity = check.identity → retry.time < ending →
          let held := start.afterAppeals (earlier ++ appeal :: between)
          (retry.outcome held).2.contents = held.contents ∧
            ∃ decision, (retry.outcome held).1 = .answered (.ok decision) ∧
              decision.allowed = false ∧
              decision.currentCount.toNat = check.limit.toNat + 1 ∧ decision.remaining = 0) ∧
        ∀ between after, later = between ++ after →
          (∀ own ∈ appealsOf check.identity between, own.time < ending) →
          ∀ now, (∀ other ∈ appeal :: between, other.time ≤ now) →
            ((start.afterAppeals (earlier ++ appeal :: between)).contents.blocked now
                check.identity = true ↔
              now < ending)) := by
  intro earlier appeal later split own before number ending
  have counts (count : Nat) (fits : count < UInt64.size) : (UInt64.ofNat count).toNat = count :=
    UInt64.toNat_ofNat_of_lt' fits
  refine ⟨?_, ?_⟩
  · intro within
    have counted : number < UInt64.size := Nat.lt_of_le_of_lt within check.limit.toNat_lt
    refine ⟨_, opening.outcome_of_few split own positive within, ?_, counts _ counted, rfl, rfl, ?_⟩
    · exact decide_eq_true ((ofNat_le_iff counted).mpr within)
    · rw [Decision.remaining_toNat, Decision.ofCount, counts _ counted]
  · intro excess
    have beyond := Nat.succ.inj excess
    refine ⟨⟨_, (opening.outcome_of_excess split own positive room beyond).1,
      decide_eq_false (succ_not_le room), counts _ room⟩, ?_, ?_⟩
    · intro between retry after onward ownRetry inTime held
      rcases opening.outcome_of_retry split own positive room beyond onward ownRetry inTime with
        ⟨denied, same⟩
      refine ⟨same, _, denied, rfl, ?_, Decision.remaining_ofBlocked _ _⟩
      rw [Decision.ofBlocked, Decision.countBeyond_toNat]
      omega
    · intro between after onward inTime now last
      exact (opening.standing_of_block split own positive room beyond onward inTime last).blocked_iff

/-- A client that asks for admission so many milliseconds after the start, where two requests are
let through in a window. -/
def asks (milliseconds : Nat) (address : String) : Appeal where
  time := Instant.origin.shift (.ofMilliseconds milliseconds)
  service := Traffic.serviceOf 2
  address
  token := ""

/-- After its first appeal a client makes two more in the same second and asks again when its counter
has lapsed under the block. Another client comes in between. -/
def persistence : List Appeal :=
  [asks 100 "10.0.0.2", asks 200 "10.0.0.1", asks 300 "10.0.0.1", asks 299000 "10.0.0.1"]

theorem persistence_opening :
    Opening (.start .origin (.new (.ofSeconds 1))) (asks 0 "10.0.0.1").check (.ofSeconds 1)
      (asks 0 "10.0.0.1") persistence where
  reachable := rfl
  sameWindow := rfl
  uncounted := rfl
  unblocked := rfl
  own := rfl
  docket :=
    { ordered := by decide
      fits := by decide
      shared := by
        intro appeal member own
        simp only [persistence, List.mem_cons, List.not_mem_nil, or_false] at member
        rcases member with rfl | rfl | rfl | rfl | rfl
        · rfl
        · exact absurd own (by decide)
        · rfl
        · rfl
        · rfl }
  inWindow := by decide

/-- The third appeal of the client is denied, and so is the retry; the block is over three hundred
seconds after the former. -/
theorem admission_law_of_persistence :
    let start : Timeline Memory := .start .origin (.new (.ofSeconds 1))
    let earlier := [asks 0 "10.0.0.1", asks 100 "10.0.0.2", asks 200 "10.0.0.1"]
    let held := start.afterAppeals (earlier ++ [asks 300 "10.0.0.1"])
    let final := start.afterAppeals (earlier ++ [asks 300 "10.0.0.1", asks 299000 "10.0.0.1"])
    (∃ decision, ((asks 299000 "10.0.0.1").outcome held).1 = .answered (.ok decision) ∧
      decision.allowed = false ∧ decision.currentCount.toNat = 3 ∧ decision.remaining = 0) ∧
    final.contents.blocked (Instant.origin.shift (.ofMilliseconds 300299)) (.ip "10.0.0.1") = true ∧
    ¬final.contents.blocked (Instant.origin.shift (.ofMilliseconds 300300)) (.ip "10.0.0.1") =
      true := by
  have law := (admission_law persistence_opening (by decide) (by decide)
    [asks 0 "10.0.0.1", asks 100 "10.0.0.2", asks 200 "10.0.0.1"] (asks 300 "10.0.0.1")
    [asks 299000 "10.0.0.1"] rfl rfl).2 rfl
  rcases law with ⟨_, retried, ends⟩
  refine ⟨(retried [] _ [] rfl rfl (by decide)).2, ?_, ?_⟩
  · exact (ends [_] [] rfl (by decide) _ (by decide)).mpr (by decide)
  · exact mt (ends [_] [] rfl (by decide) _ (by decide)).mp (by decide)

end AdmissionControl
