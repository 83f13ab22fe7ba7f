import VirtualRadio.Proofs.Generator.Frames
import VirtualRadio.Station.Build
import VirtualRadio.Station.Run

namespace VirtualRadio

/-!
# Watching a station

A station does one thing after the other, and `Move` lists what that may be: a
request from outside, a step of one of its tasks, or time that goes by.  What
the link makes of a frame is left open.  A generator may find any output in its
place, another one at each step, and the sockets may change by themselves.

Polls are completed here.  A new one begins only at rest, a loop that is asked
to stop in the middle of one makes no further step, and nobody lets go of the
session.  Requests and steps that are not possible change nothing, so every
list of moves is a run.

What is seen of a run are the events and the frames that generators hand to the
link, in one list and in order.
-/

/-- What may happen next to a station. -/
inductive Move (σ : Type) where
  | request (request : Request σ)
  | session
  | consumer
  /-- A generator gets its turn, with something in the place of the link. -/
  | generator (id : Nat) (link : FrameOutput Transport StreamSend)
  | wait (millis : Nat)
  /-- The sockets or the link change by themselves. -/
  | transport (change : Transport → Transport)

/-- What is seen of a station. -/
inductive Sighting where
  | event (event : Event)
  /-- A frame was handed to the link. -/
  | frame (bytes : List UInt8)

namespace Station

variable {σ : Type}

/-- Whether a request may be made.  The owner asks for nothing while a poll is
going on, and keeps the session. -/
def admits (station : Station σ) : Request σ → Bool
  | .poll | .shutdown | .run => station.isResting
  | .drop => false
  | _ => true

/-- Whether the next step of the session would give up a poll. -/
def isGivingUp (station : Station σ) : Bool :=
  match station.session.drive with
  | .looping true => !station.isResting
  | _ => false

/-- The events that were told since an earlier moment. -/
def newsSince (after before : Station σ) : List Event :=
  after.events.toList.drop before.events.size

/-- Make a move, and say which frames were handed to the link. -/
def turn [SinkDevice σ] (station : Station σ) : Move σ → Station σ × List (List UInt8)
  | .request request => (if station.admits request then station.apply request else station, [])
  | .session =>
    (if station.isGivingUp then station else station.sessionStep?.getD station, [])
  | .consumer => ((step? .consumer station).getD station, [])
  | .generator id link =>
    match station.pool.turn? link id station.radio.bank station.now station.transport with
    | some (pool, transport, frames) =>
      ({ station with pool := pool, transport := transport }, frames)
    | none => (station, [])
  | .wait millis => ({ station with now := station.now + millis }, [])
  | .transport change => ({ station with transport := change station.transport }, [])

/-- With the station's own link, the turn of a generator is a step of its
task. -/
theorem turn_generator [SinkDevice σ] (station : Station σ) (id : Nat) :
    (station.turn (.generator id inferInstance)).1 =
      (step? (.generator id) station).getD station := by
  simp only [turn, step?, ← GeneratorPool.turn?_eq_step?]
  rcases station.pool.turn? inferInstance id station.radio.bank station.now station.transport with
    _ | ⟨pool, transport, frames⟩ <;> rfl

/-- Every step of a task is a move, unless it gives up a poll. -/
theorem exists_turn [SinkDevice σ] (station : Station σ) (kept : station.isGivingUp = false)
    (task : StationTask) :
    ∃ move, (station.turn move).1 = (step? task station).getD station := by
  cases task with
  | session => exact ⟨.session, by simp only [turn, step?, kept]; rfl⟩
  | consumer => exact ⟨.consumer, rfl⟩
  | generator id => exact ⟨.generator id inferInstance, station.turn_generator id⟩

end Station

/-- A station, and what has been seen of it. -/
structure Watched (σ : Type) where
  station : Station σ
  seen : List Sighting

namespace Watched

variable {σ : Type}

/-- Begin to watch a station. -/
def ofStation (station : Station σ) : Watched σ :=
  ⟨station, []⟩

/-- Make a move and watch it. -/
def move [SinkDevice σ] (watched : Watched σ) (move : Move σ) : Watched σ :=
  let (station, frames) := watched.station.turn move
  ⟨station, watched.seen ++ (station.newsSince watched.station).map .event
    ++ frames.map .frame⟩

/-- Make moves one after the other and watch them. -/
def after [SinkDevice σ] (watched : Watched σ) (moves : List (Move σ)) : Watched σ :=
  moves.foldl move watched

end Watched
end VirtualRadio
