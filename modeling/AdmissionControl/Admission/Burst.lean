import AdmissionControl.Admission.Service

/-!
# Bursts

A burst is a number of admission checks that run side by side in lock-step: in each round every
check that is not finished makes its next store call, in the order of the burst, and the next round
begins when all answers of this one have come. No time limit applies.
-/

namespace AdmissionControl

/-- Where a check stands that runs beside others. -/
inductive FlightState where
  | waiting (phase : Check.Phase)
  | finished (completion : Completion Decision)

/-- A check that runs beside others. -/
structure Flight where
  check : Check
  state : FlightState

namespace Flight

variable {Contents : Type}

/-- Make the next call of a check at the time that a round began. The time afterwards is that of the
latest answer so far. -/
def proceed (flight : Flight) (store : CounterStore Contents) (began : Instant)
    (timeline : Timeline Contents) : Flight × Timeline Contents :=
  match flight.state with
  | .finished _ => (flight, timeline)
  | .waiting phase =>
      let (reception, after) :=
        (timeline.moveTo began).call store none (flight.check.operation phase)
      let latest := after.moveTo (if after.now ≤ timeline.now then timeline.now else after.now)
      match reception with
      | .answered (.ok result) =>
          match flight.check.advance phase result with
          | .decided decision =>
              ({ flight with state := .finished (.answered (.ok decision)) }, latest)
          | .waiting next _ =>
              ({ flight with state := .waiting next },
                latest.logAll (flight.check.announcement next))
      | .answered (.error failure) =>
          ({ flight with state := .finished (.answered (.error failure)) }, latest)
      | _ => ({ flight with state := .finished .unanswered }, latest)

/-- Whether a check was abandoned in the middle of a call. -/
def isAbandoned (flight : Flight) : Bool :=
  match flight.state with
  | .finished (.answered (.error .abandoned)) => true
  | _ => false

/-- One round of a burst. A check that is abandoned takes the burst down with it, and the rest of
the round is not made. -/
def round (store : CounterStore Contents) (began : Instant) :
    List Flight → Timeline Contents → List Flight × Timeline Contents
  | [], timeline => ([], timeline)
  | flight :: rest, timeline =>
      let (moved, after) := flight.proceed store began timeline
      if moved.isAbandoned then (moved :: rest, after)
      else
        let (others, last) := round store began rest after
        (moved :: others, last)

def rounds (store : CounterStore Contents) :
    Nat → List Flight → Timeline Contents → List Flight × Timeline Contents
  | 0, flights, timeline => (flights, timeline)
  | count + 1, flights, timeline =>
      let (moved, after) := round store timeline.now flights timeline
      if moved.any isAbandoned then (moved, after) else rounds store count moved after

end Flight

/-- What a burst comes to: the fault or decision of each of its checks, in order. -/
abbrev BurstResult := List (Except Fault Decision)

namespace Service

variable {Contents : Type}

def burstCompletion : List Flight → Completion BurstResult
  | [] => .answered (.ok [])
  | flight :: rest =>
      match flight.state, burstCompletion rest with
      | .finished (.answered (.error .abandoned)), _ => .answered (.error .abandoned)
      | _, .answered (.error failure) => .answered (.error failure)
      | .finished (.answered (.ok decision)), .answered (.ok results) =>
          .answered (.ok (.ok decision :: results))
      | .finished (.answered (.error (.reported fault))), .answered (.ok results) =>
          .answered (.ok (.error fault :: results))
      | _, _ => .unanswered

/-- Run the checks for some clients side by side. A check makes three calls at most, so three rounds
finish them all. -/
def burst (service : Service) (store : CounterStore Contents) (clients : List (String × String))
    (timeline : Timeline Contents) : Completion BurstResult × Timeline Contents :=
  let flights := clients.map fun client =>
    { check := service.check client.1 client.2, state := .waiting .lookup }
  let (finished, after) := Flight.rounds store 3 flights timeline
  (burstCompletion finished, after)

end Service

end AdmissionControl
