import AdmissionControl.Proofs.Remote.Expiries
import AdmissionControl.Proofs.Remote.Switchboard
import Mathlib.Data.List.DropRight

/-!
# Counters at a server that many adapters share

What the history of a server says about the counter of an identity. Its raises since its key was
taken away last (`raisesSince`) determine what lies under the key, whatever came in between, and
what each raise is answered. A `Tally` says how, and `Switchboard.Accounts` that it is so in one
state of a switchboard; every move keeps it, because a move is one incident at most.

There are two tallies. Where the server takes the window for a lifetime, raises are counted and the
first of them gives the counter its end (`Tally.timed`). Where it refuses the window, which then
does not fit 63 bits, every raise fails and is carried out all the same, and the counter never ends
(`Tally.endless`). So counters are exact for the windows that fit, and for no others
(`Switchboard.counters_exact_iff`).
-/

namespace AdmissionControl.Remote

namespace Incident

/-- When the counter of an identity was raised, if an incident raised it. -/
def raisedAt? (identity : Identity) : Incident → Option Instant
  | .served time _ (.increment subject) _ => if subject = identity then some time else none
  | _ => none

/-- Whether an incident takes the counter of an identity away. -/
def removes (identity : Identity) : Incident → Bool
  | .vanished key => key = counterKey identity
  | .served _ _ (.reset subject) _ => subject = identity
  | _ => false

end Incident

/-- When the counter of an identity was raised, in order. -/
def raises (identity : Identity) (history : List Incident) : List Instant :=
  history.filterMap (·.raisedAt? identity)

/-- When the counter of an identity was raised since it was taken away last, in order. -/
def raisesSince (identity : Identity) (history : List Incident) : List Instant :=
  raises identity (history.rtakeWhile fun incident => !incident.removes identity)

/-- What lies under the key of a counter that was absent and then raised at some times. The first
raise gives it its lifetime. -/
def standing (window : Duration) : List Instant → Option Item
  | [] => none
  | opening :: later =>
      some (counterItem window (later.length + 1) (Server.endOf opening (lifetime window)))

/-- The same for a counter whose lifetime was refused. -/
def unending : List Instant → Option Item
  | [] => none
  | _ :: later => some { Item.nought with value := Nat.repr (later.length + 1) }

variable {window : Duration} {now : Instant} {items : Table String Item} {identity : Identity}
  {history earlier later : List Incident} {incident : Incident} {times : List Instant}

theorem raisesSince_length_le : (raisesSince identity history).length ≤
    (raises identity history).length :=
  (List.rtakeWhile_suffix _ _).sublist.filterMap _ |>.length_le

theorem raises_concat : raises identity (history ++ [incident]) =
    raises identity history ++ (incident.raisedAt? identity).toList := by
  cases raised : incident.raisedAt? identity <;> simp [raises, raised]

theorem raisesSince_of_removes (removes : incident.removes identity = true) :
    raisesSince identity (history ++ [incident]) = [] := by
  simp [raisesSince, raises, removes]

theorem raisesSince_of_kept (kept : incident.removes identity = false) :
    raisesSince identity (history ++ [incident]) =
      raisesSince identity history ++ (incident.raisedAt? identity).toList := by
  simp only [raisesSince, ← raises_concat]
  rw [List.rtakeWhile_concat_pos]
  simp [kept]

/-- Further raises leave the lifetime of what is standing alone. -/
theorem standing_append {more : List Instant} {item kept : Item}
    (before : standing window times = some item)
    (after : standing window (times ++ more) = some kept) :
    kept.lifetime = item.lifetime ∧ kept.ending = item.ending := by
  cases times with
  | nil => simp [standing] at before
  | cons opening later =>
      simp only [standing, List.cons_append, Option.some.injEq] at before after
      rw [← before, ← after]
      exact ⟨rfl, rfl⟩

theorem raisesSince_of_neither {time : Instant} {line : Nat} {operation : Operation}
    {answer : Except Fault operation.Result} (unraised : operation ≠ .increment identity)
    (unreset : operation ≠ .reset identity) :
    raisesSince identity (history ++ [.served time line operation answer]) =
      raisesSince identity history := by
  have kept : (Incident.served time line operation answer).removes identity = false := by
    cases operation with
    | reset subject => simpa [Incident.removes] using unreset
    | _ => rfl
  have unnoticed : (Incident.served time line operation answer).raisedAt? identity = none := by
    cases operation with
    | increment subject => simpa [Incident.raisedAt?] using unraised
    | _ => rfl
  simp [raisesSince_of_kept kept, unnoticed]

/-! ## Tallies -/

/-- What the raises of a counter since its key was taken away last come to. -/
structure Tally where
  /-- What lies under the key. -/
  stands : List Instant → Option Item
  /-- What the next raise is answered. -/
  answers : List Instant → Except Fault UInt64 → Prop

namespace Tally

/-- Raises are counted, and the counter has a lifetime. -/
def timed (window : Duration) : Tally where
  stands := standing window
  answers times answer := answer.map UInt64.toNat = .ok (times.length + 1)

/-- Raises fail, and the counter has no lifetime. -/
def endless : Tally where
  stands := unending
  answers _ answer := answer = .error unreadableFault

/-- A strict server that is told a window keeps a tally. -/
structure Kept (tally : Tally) (window : Duration) : Prop where
  unraised : tally.stands [] = none
  raise : ∀ {server : Server} {identity : Identity} {times : List Instant},
    server.manner = .strict → times.length + 1 < 2 ^ 63 →
    server.items.get? (counterKey identity) = tally.stands times →
    tally.answers times (effect window server (.increment identity)).1 ∧
      (effect window server (.increment identity)).2.get? (counterKey identity) =
        tally.stands (times ++ [server.now])

theorem kept_timed (fits : (lifetime window).toNat < 2 ^ 63) : (timed window).Kept window where
  unraised := rfl
  raise := by
    intro server identity times _ room held
    have taken : server.manner.refusal? (lifetime window) = none := refusal?_lifetime fits
    cases times with
    | nil =>
        rw [effect_increment_of_absent taken held]
        exact ⟨rfl, by simp [Table.get?_insert, timed, standing]⟩
    | cons opening later =>
        simp only [List.length_cons] at room
        rw [effect_increment_of_present taken room held]
        have word : (UInt64.ofNat (later.length + 1 + 1)).toNat = later.length + 1 + 1 := by
          rw [UInt64.toNat_ofNat']
          omega
        refine ⟨congrArg Except.ok word, ?_⟩
        simp [Table.get?_insert, timed, standing]

theorem kept_endless (long : 2 ^ 63 ≤ (lifetime window).toNat) : endless.Kept window where
  unraised := rfl
  raise := by
    intro server identity times strict room held
    have refused : server.manner.refusal? (lifetime window) =
        some "ERR value is not an integer or out of range" := by
      rw [strict]
      exact Manner.refusal?_strict_of_long long
    rw [effect_increment_of_refused refused]
    refine ⟨rfl, ?_⟩
    -- The raise that is carried out all the same counts on from nothing or from the last raise.
    have counted : (server.items.get? (counterKey identity)).getD .nought =
        { Item.nought with value := Nat.repr times.length } := by
      rw [held]
      cases times <;> rfl
    rw [incremented_of_count counted rfl room]
    have stands : endless.stands (times ++ [server.now]) =
        some { Item.nought with value := Nat.repr (times.length + 1) } := by
      cases times <;> simp [endless, unending]
    rw [stands, Table.get?_insert, if_pos rfl]

end Tally

namespace Switchboard

variable {board after : Switchboard}

/-- The counter of an identity, and what its raises were answered, are what a tally makes of the
history. -/
structure Accounts (tally : Tally) (identity : Identity) (board : Switchboard) : Prop where
  key : board.server.items.get? (counterKey identity) =
    tally.stands (raisesSince identity board.history)
  answers : ∀ earlier time line answer later,
    board.history = earlier ++ .served time line (.increment identity) answer :: later →
      tally.answers (raisesSince identity earlier) answer

variable {tally : Tally}

theorem accounts_fresh (keeps : tally.Kept window) : Accounts tally identity (fresh window) where
  key := keeps.unraised.symm
  answers := by
    intro earlier time line answer later split
    simp [fresh] at split

/-- The last of the incidents is the only one whose answer is new. -/
theorem Accounts.concat (accounts : Accounts tally identity board)
    (grown : after.history = board.history ++ [incident])
    (key : after.server.items.get? (counterKey identity) =
      tally.stands (raisesSince identity after.history))
    (answered : ∀ time line answer, incident = .served time line (.increment identity) answer →
      tally.answers (raisesSince identity board.history) answer) :
    Accounts tally identity after where
  key := key
  answers := by
    intro earlier time line answer later split
    rw [grown] at split
    rcases List.eq_nil_or_concat later with rfl | ⟨rest, last, rfl⟩
    · rcases List.append_inj' split rfl with ⟨rfl, same⟩
      exact answered time line answer (List.singleton_inj.mp same)
    · have shifted : board.history ++ [incident] =
          (earlier ++ .served time line (.increment identity) answer :: rest) ++ [last] := by
        simpa using split
      exact accounts.answers earlier time line answer rest (List.append_inj' shifted rfl).1

theorem Accounts.vanished (accounts : Accounts tally identity board)
    (keeps : tally.Kept board.window) {key : String}
    (items : after.server.items = board.server.items.erase key)
    (grown : after.history = board.history ++ [.vanished key]) : Accounts tally identity after := by
  refine accounts.concat grown ?_ nofun
  rw [items, grown, Table.get?_erase]
  by_cases own : counterKey identity = key
  · rw [if_pos own, raisesSince_of_removes (by simp [Incident.removes, own])]
    exact keeps.unraised.symm
  · rw [if_neg own, raisesSince_of_kept (by simpa [Incident.removes] using Ne.symm own),
      accounts.key]
    simp [Incident.raisedAt?]

theorem Accounts.raised (accounts : Accounts tally identity board)
    (keeps : tally.Kept board.window) (strict : board.server.manner = .strict) {number : Nat}
    (few : (raises identity after.history).length < 2 ^ 63)
    (items : after.server.items =
      (effect board.window board.server (.increment identity)).2)
    (grown : after.history = board.history ++ [.served board.server.now number (.increment identity)
      (effect board.window board.server (.increment identity)).1]) :
    Accounts tally identity after := by
  have room : (raisesSince identity board.history).length + 1 < 2 ^ 63 := by
    have among := @raisesSince_length_le identity board.history
    rw [grown, raises_concat] at few
    simp [Incident.raisedAt?] at few
    omega
  rcases keeps.raise strict room accounts.key with ⟨answered, key⟩
  refine accounts.concat grown ?_ ?_
  · rw [items, key, grown, raisesSince_of_kept rfl]
    simp [Incident.raisedAt?]
  · intro time line answer same
    cases same
    exact answered

theorem Accounts.served (accounts : Accounts tally identity board)
    (keeps : tally.Kept board.window) (strict : board.server.manner = .strict) {number : Nat}
    {operation : Operation} (few : (raises identity after.history).length < 2 ^ 63)
    (items : after.server.items = (effect board.window board.server operation).2)
    (grown : after.history = board.history ++ [.served board.server.now number operation
      (effect board.window board.server operation).1]) :
    Accounts tally identity after := by
  by_cases raise : operation = .increment identity
  · subst raise
    exact accounts.raised keeps strict few items grown
  · have unraised : ∀ time line answer,
        Incident.served board.server.now number operation
            (effect board.window board.server operation).1 =
          .served time line (.increment identity) answer →
        tally.answers (raisesSince identity board.history) answer := by
      intro time line answer same
      cases same
      exact absurd rfl raise
    refine accounts.concat grown ?_ unraised
    rw [items, grown]
    by_cases reset : operation = .reset identity
    · subst reset
      rw [raisesSince_of_removes (by simp [Incident.removes]), keeps.unraised]
      simp [effect, Table.get?_erase]
    · rw [effect_counterKey raise reset, accounts.key, raisesSince_of_neither raise reset]

theorem Accounts.change (accounts : Accounts tally identity board)
    (keeps : tally.Kept board.window) (strict : board.server.manner = .strict)
    (change : board.Change after) (few : (raises identity after.history).length < 2 ^ 63) :
    Accounts tally identity after := by
  cases change with
  | quiet items history =>
      constructor
      · rw [items, history]
        exact accounts.key
      · rw [history]
        exact accounts.answers
  | vanished key items history => exact accounts.vanished keeps items history
  | served number operation items history =>
      exact accounts.served keeps strict few items history

theorem Change.raises_le (change : board.Change after) :
    (raises identity board.history).length ≤ (raises identity after.history).length := by
  cases change with
  | quiet items history => rw [history]
  | vanished key items history =>
      rw [history, raises_concat]
      simp
  | served number operation items history =>
      rw [history, raises_concat]
      simp

/-- A move takes a counter away, or it only adds to its raises. -/
theorem Change.raisesSince_eq (change : board.Change after) :
    raisesSince identity after.history = [] ∨
      ∃ more, raisesSince identity after.history = raisesSince identity board.history ++ more := by
  have grown {incident : Incident} (history : after.history = board.history ++ [incident]) :
      raisesSince identity after.history = [] ∨
        ∃ more, raisesSince identity after.history =
          raisesSince identity board.history ++ more := by
    cases removes : incident.removes identity with
    | true => exact .inl (by rw [history, raisesSince_of_removes removes])
    | false => exact .inr ⟨_, by rw [history, raisesSince_of_kept removes]⟩
  cases change with
  | quiet items history => exact .inr ⟨[], by simp [history]⟩
  | vanished key items history => exact grown history
  | served number operation items history => exact grown history

theorem Accounts.lifetime_kept {item kept : Item}
    (accounts : Accounts (.timed window) identity board)
    (onward : Accounts (.timed window) identity after) (change : board.Change after)
    (before : board.server.items.get? (counterKey identity) = some item)
    (present : after.server.items.get? (counterKey identity) = some kept) :
    kept.lifetime = item.lifetime ∧ kept.ending = item.ending := by
  have stood := accounts.key.symm.trans before
  have stands := onward.key.symm.trans present
  simp only [Tally.timed] at stood stands
  rcases @Change.raisesSince_eq identity _ _ change with gone | ⟨more, grown⟩
  · rw [gone] at stands
    simp [standing] at stands
  · rw [grown] at stands
    exact standing_append stood stands

/-- Every order of moves keeps the lines in order and the accounts right. -/
theorem run_fresh (moves : List Move) : ((fresh window).run moves).Orderly ∧
    ((fresh window).run moves).window = window ∧
    (tally.Kept window → (raises identity ((fresh window).run moves).history).length < 2 ^ 63 →
      Accounts tally identity ((fresh window).run moves)) := by
  -- From the end, because the accounts of a state are about the moves that led to it.
  induction moves using List.reverseRecOn with
  | nil => exact ⟨orderly_fresh, rfl, fun keeps _ => accounts_fresh keeps⟩
  | append_singleton earlier move ih =>
      rcases ih with ⟨orderly, sameWindow, accounts⟩
      rcases orderly.step move with ⟨stillOrderly, change⟩
      rw [run_append]
      refine ⟨stillOrderly, (step_window move).trans sameWindow, fun keeps few => ?_⟩
      have fewBefore := Nat.lt_of_le_of_lt change.raises_le few
      have here : tally.Kept ((fresh window).run earlier).window := sameWindow.symm ▸ keeps
      exact (accounts keeps fewBefore).change here orderly.strict change few

theorem orderly_run (moves : List Move) : ((fresh window).run moves).Orderly :=
  (@run_fresh window (.ip "") .endless moves).1

theorem accounts_run (keeps : tally.Kept window) {moves : List Move}
    (few : (raises identity ((fresh window).run moves).history).length < 2 ^ 63) :
    Accounts tally identity ((fresh window).run moves) :=
  (run_fresh moves).2.2 keeps few

theorem raises_run_le (moves more : List Move) :
    (raises identity ((fresh window).run moves).history).length ≤
      (raises identity ((fresh window).run (moves ++ more)).history).length := by
  induction more using List.reverseRecOn with
  | nil => simp
  | append_singleton rest move ih =>
      have change := (@orderly_run window (moves ++ rest)).step move |>.2
      rw [← List.append_assoc, run_append (moves ++ rest) [move]]
      exact Nat.le_trans ih change.raises_le

/-! ## Windows that fit, and windows that do not -/

/-- What a counter shared by adapters with one window should be after some moves. -/
structure Exact (window : Duration) (identity : Identity) (moves : List Move) : Prop where
  /-- The key is there exactly if the counter was raised since it was taken away last. It holds how
  often that was, and it has had the lifetime of one window since the first of these raises. -/
  key : ((fresh window).run moves).server.items.get? (counterKey identity) =
    standing window (raisesSince identity ((fresh window).run moves).history)
  /-- Every raise is answered one more than the raises since the counter was taken away last. -/
  answers : ∀ earlier time line answer later,
    ((fresh window).run moves).history =
        earlier ++ .served time line (.increment identity) answer :: later →
      answer.map UInt64.toNat = .ok ((raisesSince identity earlier).length + 1)
  /-- A move that leaves the counter there leaves its lifetime alone. -/
  lifetime : ∀ earlier move later item kept, moves = earlier ++ move :: later →
    ((fresh window).run earlier).server.items.get? (counterKey identity) = some item →
    (((fresh window).run earlier).step move).server.items.get? (counterKey identity) =
      some kept →
    kept.lifetime = item.lifetime ∧ kept.ending = item.ending

/-- What the counter is where its lifetime is refused. -/
structure Endless (window : Duration) (identity : Identity) (moves : List Move) : Prop where
  /-- The key holds how often the counter was raised since it was taken away last, and it has no
  end. -/
  key : ((fresh window).run moves).server.items.get? (counterKey identity) =
    unending (raisesSince identity ((fresh window).run moves).history)
  /-- Every raise fails. -/
  answers : ∀ earlier time line answer later,
    ((fresh window).run moves).history =
        earlier ++ .served time line (.increment identity) answer :: later →
      answer = .error unreadableFault

theorem exact_of_fits (fits : (lifetime window).toNat < 2 ^ 63) {moves : List Move}
    (few : (raises identity ((fresh window).run moves).history).length < 2 ^ 63) :
    Exact window identity moves where
  key := (accounts_run (Tally.kept_timed fits) few).key
  answers := (accounts_run (Tally.kept_timed fits) few).answers
  lifetime := by
    rintro earlier move later item kept rfl before present
    have fewAfter : (raises identity ((fresh window).run (earlier ++ [move])).history).length <
        2 ^ 63 := by
      refine Nat.lt_of_le_of_lt (raises_run_le (earlier ++ [move]) later) ?_
      simpa using few
    have fewBefore := Nat.lt_of_le_of_lt (raises_run_le earlier [move]) fewAfter
    have onward := @accounts_run _ identity _ (Tally.kept_timed fits) _ fewAfter
    rw [run_append] at onward
    exact (accounts_run (Tally.kept_timed fits) fewBefore).lifetime_kept onward
      ((orderly_run earlier).step move).2 before present

theorem endless_of_long (long : 2 ^ 63 ≤ (lifetime window).toNat) {moves : List Move}
    (few : (raises identity ((fresh window).run moves).history).length < 2 ^ 63) :
    Endless window identity moves where
  key := (accounts_run (Tally.kept_endless long) few).key
  answers := (accounts_run (Tally.kept_endless long) few).answers

/-- One adapter raises a counter, and nothing else happens. -/
def solo (identity : Identity) : List Move :=
  .join :: .submit 0 (.increment identity) :: List.replicate 4 (.deliver 0)

theorem history_solo : ∃ answer, ((fresh window).run (solo identity)).history =
    [.served .origin 0 (.increment identity) answer] := by
  let adapter : Adapter := ⟨⟨"localhost", 6379, none, none, 0⟩, window, .connected .fresh⟩
  rcases @run_alone ((fresh window).step .join) 0 (.increment identity) adapter .reachable rfl rfl
    nofun rfl rfl with ⟨answer, ran, -⟩
  have begun : (fresh window).run (solo identity) = ((fresh window).step .join).run
      (.submit 0 (.increment identity) :: List.replicate 4 (.deliver 0)) := List.foldl_cons ..
  refine ⟨answer, ?_⟩
  rw [begun]
  exact congrArg Switchboard.history ran

theorem raisesSince_solo :
    raisesSince identity ((fresh window).run (solo identity)).history = [.origin] := by
  rcases @history_solo window identity with ⟨answer, history⟩
  rw [history, ← List.nil_append [_], raisesSince_of_kept rfl]
  simp [raisesSince, raises, Incident.raisedAt?]

theorem few_raises_solo :
    (raises identity ((fresh window).run (solo identity)).history).length < 2 ^ 63 := by
  rcases @history_solo window identity with ⟨answer, history⟩
  simp [history, raises, Incident.raisedAt?]

/-- Counters are exact, in whatever order the commands of any number of adapters are received and
whenever keys vanish, exactly if the window that the server is told fits 63 bits. A longer window is
refused, also by servers that keep to everything else: then each raise fails and is carried out all
the same, on a counter that never ends. -/
theorem counters_exact_iff :
    ((∀ identity moves, (raises identity ((fresh window).run moves).history).length < 2 ^ 63 →
      Exact window identity moves) ↔ (lifetime window).toNat < 2 ^ 63) ∧
    (2 ^ 63 ≤ (lifetime window).toNat → ∀ identity moves,
      (raises identity ((fresh window).run moves).history).length < 2 ^ 63 →
        Endless window identity moves) := by
  refine ⟨⟨?_, ?_⟩, ?_⟩
  · intro exact
    by_contra beyond
    have long : 2 ^ 63 ≤ (lifetime window).toNat := Nat.le_of_not_lt beyond
    rcases @history_solo window (.ip "") with ⟨answer, history⟩
    have counted := (exact _ _ few_raises_solo).answers [] _ _ _ [] history
    have failed := (endless_of_long long few_raises_solo).answers [] _ _ _ [] history
    rw [failed] at counted
    cases counted
  · intro fits identity moves few
    exact exact_of_fits fits few
  · intro long identity moves few
    exact endless_of_long long few

/-- Two adapters raise one counter side by side, and the transaction that was begun later is
executed first. Then the key vanishes in the middle of another transaction. -/
def crossing : List Move :=
  let raise := Operation.increment (.ip "10.0.0.1")
  [.join, .join, .submit 0 raise, .submit 1 raise, .deliver 0, .deliver 1, .deliver 1, .deliver 0,
    .deliver 0, .deliver 1, .pass (.ofMilliseconds 400), .deliver 1, .deliver 0, .submit 0 raise,
    .deliver 0, .deliver 0, .vanish (counterKey (.ip "10.0.0.1")), .deliver 0,
    .submit 1 (.isBlocked (.ip "10.0.0.1")), .deliver 1, .pass (.ofMilliseconds 100), .deliver 0]

theorem counters_exact_iff_of_crossing :
    let board := (fresh (.ofSeconds 1)).run crossing
    raises (.ip "10.0.0.1") board.history = [⟨400000000⟩, ⟨400000000⟩, ⟨500000000⟩] ∧
      board.server.items.get? (counterKey (.ip "10.0.0.1")) =
        some ⟨"1", some 1000, some ⟨1500000000⟩⟩ := by
  intro board
  have exact := (@counters_exact_iff (.ofSeconds 1)).1.mpr (by decide) (.ip "10.0.0.1") crossing
    (by decide)
  exact ⟨by decide, exact.key.trans (by decide)⟩

/-- The shortest window that is refused is accepted as a setting. With it the first raise of a
counter fails and leaves a counter behind that is there at whatever time. -/
theorem counter_without_end :
    let settings := Settings.windowed 9223372036854775808
    let raise := Operation.increment (.ip "192.168.1.1")
    let moves := solo (.ip "192.168.1.1")
    let board := (fresh settings.window).run moves
    settings.validate = .ok () ∧
      (∃ time, board.history = [.served time 0 raise (.error unreadableFault)]) ∧
      (∀ later, (board.server.advance later).items.get? "rate_limit:counter:ip:192.168.1.1" =
        some ⟨"1", none, none⟩) ∧
      ¬Exact settings.window (.ip "192.168.1.1") moves := by
  intro settings raise moves board
  have valid : settings.validate = .ok () := Settings.validate_windowed (by decide)
  have long : 2 ^ 63 ≤ (lifetime settings.window).toNat := by
    rw [lifetime_window valid]
    decide
  have endless := @endless_of_long settings.window (.ip "192.168.1.1") long moves few_raises_solo
  rcases @history_solo settings.window (.ip "192.168.1.1") with ⟨answer, history⟩
  have failed := endless.answers [] _ _ _ [] history
  subst failed
  have named : counterKey (.ip "192.168.1.1") = "rate_limit:counter:ip:192.168.1.1" := by rfl
  have held : board.server.items.get? "rate_limit:counter:ip:192.168.1.1" =
      some ⟨"1", none, none⟩ := by
    rw [← named, endless.key, raisesSince_solo]
    rfl
  refine ⟨valid, ⟨_, history⟩, ?_, ?_⟩
  · intro later
    simp [Server.advance, Table.get?_retain, held, Option.filter_some]
  · intro exact
    cases exact.answers [] _ _ _ [] history

end Switchboard

end AdmissionControl.Remote
