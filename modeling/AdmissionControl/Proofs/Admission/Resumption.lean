import AdmissionControl.Proofs.Admission.Succession
import AdmissionControl.Serving

/-!
# What follows a block

The counter of an identity and its block end at times of their own. A block that is as long as a
window outlives the counter that brought it about, so that counting resumes from nothing. A shorter
one lapses under a counter that is still beyond the limit, and the next appeal is denied and blocked
again. Counting therefore resumes after every block exactly where a block is no shorter than a
window (`resumes_iff`), which the settings do not ask for.
-/

namespace AdmissionControl

/-- From a fresh store on, the first appeal of a client that comes when the block it brought upon
itself is over is counted as the first of a new window, and let through. -/
def Resumes (window : Duration) (check : Check) : Prop :=
  ∀ (earlier between : List Appeal) (trip next : Appeal),
    Docket check window (earlier ++ trip :: (between ++ [next])) →
    trip.check.identity = check.identity → next.check.identity = check.identity →
    let before := (Timeline.start .origin (.new window)).afterAppeals earlier
    let ending := trip.time.shift check.blockSpan
    before.contents.blocked trip.time check.identity = false →
    (∃ denied, (trip.outcome before).1 = .answered (.ok denied) ∧ denied.allowed = false) →
    (∀ own ∈ appealsOf check.identity between, own.time < ending) → ending ≤ next.time →
    ∃ decision,
      (next.outcome ((trip.outcome before).2.afterAppeals between)).1 = .answered (.ok decision) ∧
      decision.allowed = true ∧ decision.currentCount = 1

/-! ## The end of a counter -/

/-- A reachable store whose counter of an identity ends within one window from a point in time. -/
structure Memory.Regular (identity : Identity) (window : Duration) (memory : Memory)
    (now : Instant) : Prop where
  reachable : memory.obstacle? = none
  sameWindow : memory.window = window
  soon : ∀ counter, memory.counterAt? now identity = some counter →
    counter.expiry ≤ now.shift window

namespace Memory.Regular

variable {identity : Identity} {window : Duration} {memory after : Memory} {now point : Instant}
  {counter? : Option Counter} {ending? : Option Instant}

theorem fresh : (Memory.new window).Regular identity window now where
  reachable := rfl
  sameWindow := rfl
  soon := by
    intro counter live
    simp [counterAt?, new] at live

theorem later (regular : memory.Regular identity window now) (notBefore : now ≤ point) :
    memory.Regular identity window point where
  reachable := regular.reachable
  sameWindow := regular.sameWindow
  soon := by
    intro counter live
    rw [counterAt?_later notBefore] at live
    have soon := regular.soon counter (Option.filter_eq_some_iff.mp live).1
    exact Nat.le_trans soon (Nat.add_le_add_right notBefore _)

theorem of_agrees (regular : memory.Regular identity window now)
    (agrees : after.AgreesOn identity now memory) : after.Regular identity window now where
  reachable := agrees.obstacle.trans regular.reachable
  sameWindow := agrees.window.trans regular.sameWindow
  soon := by
    intro counter live
    exact regular.soon counter (agrees.counter ▸ live)

theorem of_standing {counter : Counter}
    (standing : memory.Standing identity window now (some counter) ending?)
    (soon : counter.expiry ≤ now.shift window) : memory.Regular identity window now where
  reachable := standing.reachable
  sameWindow := standing.sameWindow
  soon := by
    intro other live
    rw [standing.counter] at live
    rcases Option.filter_eq_some_iff.mp live with ⟨⟨⟩, _⟩
    exact soon

theorem standing (regular : memory.Regular identity window now) :
    memory.Standing identity window now (memory.counterAt? now identity)
      (memory.blockAt? now identity) where
  reachable := regular.reachable
  sameWindow := regular.sameWindow
  counter := by simp [counterAt?]
  block := by simp [blockAt?]

/-- The counter that a raise leaves ends within one window. -/
theorem raised_expiry_le (regular : memory.Regular identity window now) :
    (memory.raised now identity).expiry ≤ now.shift window := by
  cases live : memory.counterAt? now identity with
  | none =>
      simp only [raised, live, Option.getD_none, regular.sameWindow]
      exact Nat.le_refl _
  | some counter =>
      simp only [raised, live, Option.getD_some]
      exact regular.soon counter live

theorem after_ruling {check : Check} {decision : Decision}
    (regular : memory.Regular identity window now) (fits : check.Fits window now)
    (ruling : check.Ruling memory now decision after) : after.Regular identity window now := by
  by_cases own : check.identity = identity
  · subst own
    have soon := regular.raised_expiry_le
    cases ruling with
    | blocked _ => exact regular
    | within _ _ => exact of_standing (regular.standing.increment fits.1) soon
    | beyond _ _ => exact of_standing ((regular.standing.increment fits.1).set fits.2) soon
  · rw [← regular.sameWindow] at fits
    exact regular.of_agrees (ruling.agreesOn fits own)

theorem after_appeals {check : Check} {timeline : Timeline Memory} {appeals : List Appeal}
    (regular : timeline.contents.Regular identity window now)
    (docket : Docket check window appeals) (onward : ∀ appeal ∈ appeals, now ≤ appeal.time)
    (notBefore : now ≤ point) (last : ∀ appeal ∈ appeals, appeal.time ≤ point) :
    (timeline.afterAppeals appeals).contents.Regular identity window point := by
  induction appeals generalizing timeline now with
  | nil => exact regular.later notBefore
  | cons appeal rest ih =>
      have here := regular.later (onward appeal List.mem_cons_self)
      have fits := docket.head_fits
      rw [← regular.sameWindow] at fits
      rcases appeal.ruling regular.reachable fits with ⟨decision, _, ruled⟩
      apply ih (here.after_ruling docket.head_fits ruled) docket.tail docket.head_le
      · exact last appeal List.mem_cons_self
      · intro later member
        exact last later (List.mem_cons_of_mem _ member)

end Memory.Regular

/-! ## Blocks and windows -/

variable {window : Duration} {check : Check} {timeline : Timeline Memory} {appeal : Appeal}
  {counter? : Option Counter}

/-- A client that is denied without being blocked has been counted beyond its limit, and is blocked
from now on. -/
theorem Appeal.standing_of_denied {denied : Decision}
    (standing : timeline.contents.Standing appeal.check.identity window appeal.time counter? none)
    (fits : appeal.check.Fits window appeal.time)
    (decided : (appeal.outcome timeline).1 = .answered (.ok denied))
    (refused : denied.allowed = false) :
    (appeal.outcome timeline).2.contents.Standing appeal.check.identity window appeal.time
      (some (timeline.contents.raised appeal.time appeal.check.identity))
      (some (appeal.time.shift appeal.check.blockSpan)) := by
  by_cases within : (timeline.contents.raised appeal.time appeal.check.identity).count ≤
      appeal.check.limit
  · rcases appeal.outcome_of_within standing fits rfl within with ⟨admitted, _⟩
    cases admitted.symm.trans decided
    exact absurd within (of_decide_eq_false refused)
  · exact (appeal.outcome_of_beyond standing fits rfl within).2

/-- A block that is no shorter than a window outlives the counter that brought it about. -/
theorem resumes_of_le (positive : 0 < check.limit.toNat) (long : window ≤ check.blockSpan) :
    Resumes window check := by
  intro earlier between trip next docket ownTrip ownNext before ending free denied inTime ended
  rcases denied with ⟨denied, decided, refused⟩
  have ahead := (List.pairwise_append.mp docket.ordered).2.2
  have here := docket.of_append_right
  have mine := here.shared trip List.mem_cons_self ownTrip
  have regular : before.contents.Regular check.identity window trip.time := by
    apply Memory.Regular.after_appeals .fresh docket.of_append_left
    · intro appeal _
      exact Nat.zero_le _
    · exact Nat.zero_le _
    · intro appeal member
      exact ahead appeal member trip List.mem_cons_self
  have tripped : (trip.outcome before).2.contents.Standing check.identity window trip.time
      (some (before.contents.raised trip.time check.identity)) (some ending) := by
    have standing := regular.standing.of_free free
    rw [← mine] at standing
    have blocked := trip.standing_of_denied standing here.head_fits decided refused
    rw [mine] at blocked
    exact blocked
  have sooner := (List.pairwise_append.mp here.tail.ordered).2.2
  have final := standing_of_retries tripped here.tail.of_append_left
    (fun appeal member => here.head_le appeal (List.mem_append_left _ member)) inTime
    (here.head_le next (List.mem_append_right _ List.mem_cons_self))
    (fun appeal member => sooner appeal member next List.mem_cons_self)
  -- The counter ends within a window of the denial, and the block a whole span after it.
  have lapsed : (before.contents.raised trip.time check.identity).expiry ≤ next.time := by
    have soon := regular.raised_expiry_le
    rw [Instant.le_iff] at soon ended ⊢
    rw [Duration.le_iff] at long
    simp only [ending, Instant.shift_nanoseconds] at soon ended
    omega
  have nothing := (final.unblocked ended).uncounted lapsed
  have onward := here.tail.of_append_right
  have shared := onward.shared next List.mem_cons_self ownNext
  rw [← shared] at nothing positive
  have first : (1 : UInt64) ≤ next.check.limit := (ofNat_le_iff (by decide)).mpr positive
  have admitted :=
    (next.outcome_of_within nothing onward.head_fits nothing.raised_of_none first).1
  exact ⟨_, admitted, decide_eq_true first, rfl⟩

/-- A client that is not blocked is answered with the count that it leaves, within its limit or
beyond it. -/
theorem Appeal.outcome_of_free {counter : Counter}
    (standing : timeline.contents.Standing appeal.check.identity window appeal.time counter? none)
    (fits : appeal.check.Fits window appeal.time)
    (raised : timeline.contents.raised appeal.time appeal.check.identity = counter) :
    (appeal.outcome timeline).1 =
      .answered (.ok (.ofCount appeal.check.identity appeal.check.limit counter.count)) := by
  by_cases within : counter.count ≤ appeal.check.limit
  · exact (appeal.outcome_of_within standing fits raised within).1
  · exact (appeal.outcome_of_beyond standing fits raised within).1

/-- Two appeals of one client: one that may bring a block upon it, and one when that block is
over, in the same window. -/
structure Comeback (check : Check) (window : Duration) (first last : Appeal) : Prop where
  first_check : first.check = check
  last_check : last.check = check
  last_time : last.time = first.time.shift check.blockSpan
  inWindow : last.time < first.time.shift window
  fits : check.Fits window last.time

namespace Comeback

variable {first last : Appeal} {count : Nat}

theorem eq_or_eq_of_mem (member : appeal ∈ List.replicate count first ++ [last]) :
    appeal = first ∨ appeal = last := by
  rcases List.mem_append.mp member with again | final
  · exact .inl (List.eq_of_mem_replicate again)
  · exact .inr (List.mem_singleton.mp final)

theorem replicate_split : first :: (List.replicate count first ++ [last]) =
    List.replicate count first ++ first :: [last] := by
  rw [← List.cons_append, ← List.replicate_succ, List.replicate_succ', List.append_assoc]
  rfl

variable (comeback : Comeback check window first last)
include comeback

theorem first_le_last : first.time ≤ last.time := by
  rw [comeback.last_time]
  exact Nat.le_add_right _ _

theorem ended : first.time.shift check.blockSpan ≤ last.time :=
  Nat.le_of_eq (congrArg Instant.nanoseconds comeback.last_time.symm)

theorem first_fits : first.check.Fits window first.time := by
  rcases comeback.fits with ⟨counter, block⟩
  have notBefore := comeback.first_le_last
  rw [Instant.le_iff] at notBefore
  rw [comeback.first_check]
  apply And.intro
  · exact Nat.lt_of_le_of_lt (Nat.add_le_add_right notBefore _) counter
  · exact Nat.lt_of_le_of_lt (Nat.add_le_add_right notBefore _) block

theorem last_fits : last.check.Fits window last.time := by
  rw [comeback.last_check]
  exact comeback.fits

/-- The client may make the former appeal any number of times. -/
theorem docket (count : Nat) : Docket check window (List.replicate count first ++ [last]) := by
  induction count with
  | zero =>
      have nothing : Docket check window [] := ⟨.nil, nofun, nofun⟩
      exact nothing.cons nofun comeback.last_fits comeback.last_check
  | succ count ih =>
      apply ih.cons ?_ comeback.first_fits comeback.first_check
      intro later member
      rcases eq_or_eq_of_mem member with rfl | rfl
      · exact Nat.le_refl _
      · exact comeback.first_le_last

theorem opening : Opening (.start .origin (.new window)) check window first
    (List.replicate check.limit.toNat first ++ [last]) where
  reachable := rfl
  sameWindow := rfl
  uncounted := by simp [Timeline.start, Memory.counterAt?, Memory.new]
  unblocked := by simp [Timeline.start, Memory.blockAt?, Memory.new]
  own := comeback.first_check
  docket := comeback.docket (check.limit.toNat + 1)
  inWindow := by
    intro own member
    have among : own ∈ List.replicate (check.limit.toNat + 1) first ++ [last] :=
      (mem_appealsOf.mp (List.mem_of_mem_take member)).1
    rcases eq_or_eq_of_mem among with rfl | rfl
    · exact Nat.lt_of_le_of_lt comeback.first_le_last comeback.inWindow
    · exact comeback.inWindow

section

variable (positive : 0 < check.limit.toNat) (room : check.limit.toNat + 1 < UInt64.size)
include positive room

/-- After as many appeals as its limit, the next one of the client is denied and sets a block. -/
theorem denied :
    let before := (Timeline.start .origin (.new window)).afterAppeals
      (List.replicate check.limit.toNat first)
    before.contents.blocked first.time check.identity = false ∧
      (first.outcome before).1 = .answered (.ok (.ofCount check.identity check.limit
        (UInt64.ofNat (check.limit.toNat + 1)))) ∧
      (first.outcome before).2.contents.Standing check.identity window first.time
        (some ⟨UInt64.ofNat (check.limit.toNat + 1), first.time.shift window⟩)
        (some (first.time.shift check.blockSpan)) := by
  have own := congrArg Check.identity comeback.first_check
  have beyond : (appealsOf check.identity (List.replicate check.limit.toNat first)).length =
      check.limit.toNat := by
    simp [appealsOf, own]
  have opening := comeback.opening
  rcases opening.raised positive replicate_split own (Nat.le_of_eq beyond) with ⟨_, standing, _⟩
  exact ⟨standing.free, opening.outcome_of_excess replicate_split own positive room beyond⟩

/-- When its block is over, the client is counted on from where it was. -/
theorem last_outcome :
    (last.outcome (first.outcome ((Timeline.start .origin (.new window)).afterAppeals
      (List.replicate check.limit.toNat first))).2).1 = .answered (.ok (.ofCount check.identity
        check.limit (UInt64.ofNat (check.limit.toNat + 2)))) := by
  rcases comeback.denied positive room with ⟨_, _, standing⟩
  have notBefore := comeback.first_le_last
  have raised := raised_of_counted standing notBefore comeback.inWindow
  have free := (standing.later notBefore).unblocked comeback.ended
  rw [← congrArg Check.identity comeback.last_check] at free raised
  have outcome := last.outcome_of_free free comeback.last_fits raised
  rw [comeback.last_check] at outcome
  exact outcome

theorem not_resumes : ¬Resumes window check := by
  intro resumes
  have docket := comeback.opening.docket
  rw [replicate_split] at docket
  rcases comeback.denied positive room with ⟨free, denied, _⟩
  rcases resumes _ [] first last docket (congrArg Check.identity comeback.first_check)
    (congrArg Check.identity comeback.last_check) free
    ⟨_, denied, decide_eq_false (succ_not_le room)⟩ (by simp [appealsOf]) comeback.ended with
    ⟨decision, decided, _, one⟩
  cases (comeback.last_outcome positive room).symm.trans decided
  have same := congrArg UInt64.toNat one
  simp only [Decision.ofCount, UInt64.toNat_ofNat', UInt64.toNat_one] at same
  simp only [UInt64.size] at room
  omega

end

end Comeback

/-- A client of a service that appeals at a point in time. -/
def Service.appealAt (service : Service) (address token : String) (time : Instant) : Appeal :=
  { time, service, address, token }

theorem Service.comeback {service : Service} {address token : String}
    (fits : (service.check address token).Fits window
      (Instant.origin.shift service.limits.blockSpan))
    (brief : ¬window ≤ service.limits.blockSpan) :
    Comeback (service.check address token) window (service.appealAt address token .origin)
      (service.appealAt address token (Instant.origin.shift service.limits.blockSpan)) where
  first_check := rfl
  last_check := rfl
  last_time := rfl
  inWindow := Nat.add_lt_add_left (Nat.lt_of_not_le brief) _
  fits := fits

/-- Settings that pass every check keep the promise that counting resumes after a block exactly where
a block is no shorter than a window. -/
theorem resumes_iff {settings : Settings} {address token : String}
    (valid : settings.validate = .ok ())
    (room : ((Service.ofSettings settings).check address token).limit.toNat + 1 < UInt64.size)
    (fits : ((Service.ofSettings settings).check address token).Fits settings.window
      (Instant.origin.shift settings.blockSpan)) :
    Resumes settings.window ((Service.ofSettings settings).check address token) ↔
      settings.window ≤ settings.blockSpan := by
  have positive : 0 < ((Service.ofSettings settings).check address token).limit.toNat :=
    settings.limitFor_positive valid _
  apply Iff.intro
  · intro resumes
    by_contra brief
    exact (Service.comeback fits brief).not_resumes positive room resumes
  · intro long
    exact resumes_of_le positive long

/-- Settings that let one request through in ten seconds, and block for a number of seconds. -/
def Settings.blockingFor (seconds : UInt64) : Settings where
  bindAddress := .v4 ⟨0, 0, 0, 0⟩ 8080
  storeAddress := "localhost:6379"
  ipLimit := 1
  tokenLimit := 1
  blockSeconds := seconds
  windowMilliseconds := 10000
  storeTimeoutMilliseconds := 500
  logLevel := "info"

theorem Settings.validate_blockingFor {seconds : UInt64} (positive : 0 < seconds.toNat) :
    (blockingFor seconds).validate = .ok () := by
  have address : StoreAddress.validate (StoreAddress.normalize "localhost:6379") = .ok () := by rfl
  simpa [validate_eq_ok_iff, storeUrl, blockingFor, address] using positive

theorem resumes_iff_of_equal :
    Resumes (Settings.blockingFor 10).window
      ((Service.ofSettings (.blockingFor 10)).check "192.168.1.1" "") :=
  (resumes_iff (Settings.validate_blockingFor (by decide)) (by decide) (by decide)).mpr
    (Nat.le_refl _)

/-- A client that is blocked for one second and comes back then is counted as the third of its
window, and denied again. -/
theorem not_resumes_of_brief :
    let settings := Settings.blockingFor 1
    let service := Service.ofSettings settings
    let first := service.appealAt "192.168.1.1" "" .origin
    let last := service.appealAt "192.168.1.1" "" (Instant.origin.shift settings.blockSpan)
    settings.validate = .ok () ∧ ¬Resumes settings.window first.check ∧
      (last.outcome ((Timeline.start .origin (.new settings.window)).afterAppeals
        [first, first])).1 = .answered (.ok (.ofCount (.ip "192.168.1.1") 1 3)) := by
  intro settings service first last
  have comeback : Comeback first.check settings.window first last := by
    apply Service.comeback
    · decide
    · rw [Duration.le_iff]
      decide
  refine ⟨Settings.validate_blockingFor (by decide), ?_, ?_⟩
  · exact comeback.not_resumes (by decide) (by decide)
  · exact comeback.last_outcome (by decide) (by decide)

end AdmissionControl
