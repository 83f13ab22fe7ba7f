import VirtualRadio.Schedule
import VirtualRadio.Station.Poll

namespace VirtualRadio

/-!
# A station at work

The session, the consumer and the generators take turns.  The session either
polls when its owner asks it to, or loops by itself.  A loop looks at a request
to stop each time it gets its turn, also in the middle of a poll, which it then
gives up; it shuts down in the end in any case.

`Station.apply` lists what may come from outside.  Steps of tasks and requests
from outside, in any order, are all that ever happens to a station.
-/

/-- What may come from outside. -/
inductive Request (σ : Type) where
  /-- Something happens on the network. -/
  | network (event : NetworkEvent)
  /-- The output sink changes by itself. -/
  | sink (change : σ → σ)
  /-- Poll once. -/
  | poll
  /-- Shut down. -/
  | shutdown
  /-- Begin to loop. -/
  | run
  /-- Ask the loop to stop. -/
  | cancel
  /-- Take the session back after its loop. -/
  | reclaim
  /-- Let go of the session. -/
  | drop

/-- What the owner of a station may do with it. -/
inductive StationCall (σ : Type) where
  /-- Make a request and go on. -/
  | request (request : Request σ)
  /-- Let milliseconds go by. -/
  | advance (millis : Nat)
  /-- Poll a number of times, but only until a poll fails. -/
  | poll (times : Nat)
  /-- Shut down and wait for it. -/
  | shutdown
  /-- Stop the loop and wait for its end. -/
  | stop

namespace Station

variable {σ : Type}

/-- Change who makes the session poll. -/
def setDrive (station : Station σ) (drive : Drive) : Station σ :=
  station.updateSession (fun session => { session with drive := drive })

/-- Let go of the session: its generator is asked to stop, and no more retunes
come. -/
def letGo (station : Station σ) : Station σ :=
  let station := station.abandonPhase
  { station with
    pool := match station.session.generator with
      | some id => station.pool.cancel id
      | none => station.pool
    path := { station.path with consumer := station.path.consumer.close } }
    |>.updateSession (fun session => { session with
      client := none, generator := none, hasConsumer := false, drive := .dropped })

/-- What a request does. -/
def apply (station : Station σ) : Request σ → Station σ
  | .network event => { station with transport := station.transport.apply event }
  | .sink change => { station with path := station.path.changeSink change }
  | .poll => station.beginPoll
  | .shutdown => station.shutdown
  | .run => (station.setDrive (.looping false)).rest
  | .cancel =>
    match station.session.drive with
    | .looping _ => station.setDrive (.looping true)
    | _ => station
  | .reclaim => station.setDrive .byHand
  | .drop => station.letGo

/-- One step of a session that loops by itself. -/
def loopStep? (station : Station σ) (cancelled : Bool) : Option (Station σ) :=
  if cancelled then
    some (station.abandonPhase.setDrive (.closing (.ok ()))).shutdown
  else
    match station.session.phase with
    | .resting none => some station.beginPoll
    | .resting (some fault) => some (station.setDrive (.closing (.error fault))).shutdown
    | _ => station.resume?

/-- One step of the session, if it does not wait. -/
def sessionStep? (station : Station σ) : Option (Station σ) :=
  match station.session.drive with
  | .byHand => station.resume?
  | .looping cancelled => station.loopStep? cancelled
  | .closing result =>
    match station.session.phase with
    | .resting _ => some (station.setDrive (.returned result))
    | _ => station.resume?
  | .returned _ => none
  | .dropped =>
    if station.transport.link.writer.isSome && station.pool.isIdle then
      some { station with transport := station.transport.dropWriter }
    else
      none

/-- One step of a task, if it does not wait. -/
def step? [SinkDevice σ] (task : StationTask) (station : Station σ) : Option (Station σ) :=
  match task with
  | .session => station.sessionStep?
  | .consumer => do
    let (path, tuned) ← station.path.step? station.now
    let station := { station with path := path }
    match tuned with
    | some hertz => return station.emit (.sinkTuned hertz)
    | none => return station
  | .generator id => do
    let (pool, transport) ←
      station.pool.step? id station.radio.bank station.now station.transport
    return { station with pool := pool, transport := transport }

/-- The deadline at which the wait of a task ends, if it has one. -/
def deadline? [SinkDevice σ] (task : StationTask) (station : Station σ) : Option Nat :=
  match task with
  | .session =>
    match station.session.phase with
    | .receiving deadline | .reading deadline | .stopping _ deadline _ | .joining deadline =>
      some deadline
    | _ => none
  | .consumer => station.path.consumer.deadline?
  | .generator id => (station.pool.get? id).bind Generator.deadline?

/-- Whether the session waits together with its owner, who is always first. -/
def isOwnersTurn (station : Station σ) : Bool :=
  match station.session.drive with
  | .byHand => true
  | _ => false

instance [SinkDevice σ] : TaskSystem (Station σ) StationTask where
  tasks := fun station =>
    if station.isOwnersTurn then .session :: station.order.erase .session else station.order
  step? := step?
  deadline? := deadline?
  requeue := fun task station => { station with order := station.order.erase task ++ [task] }
  now := now
  atTime := fun time station => { station with now := time }

/-- Whether the session is at rest. -/
def isResting (station : Station σ) : Bool :=
  match station.session.phase with
  | .resting _ => true
  | _ => false

/-- Whether the loop of the session is over. -/
def hasReturned (station : Station σ) : Bool :=
  match station.session.drive with
  | .returned _ => true
  | _ => false

variable [SinkDevice σ]

/-- Poll once, and let everything happen that comes with it. -/
def poll (station : Station σ) : Station σ × Except Fault Unit :=
  let station := TaskSystem.advanceUntil isResting (station.apply .poll)
  (station,
    match station.session.phase with
    | .resting (some fault) => .error fault
    | _ => .ok ())

/-- Poll a number of times, but only until a poll fails. -/
def pollTimes (station : Station σ) : Nat → Station σ × Except Fault Unit
  | 0 => (station, .ok ())
  | count + 1 =>
    match station.poll with
    | (station, .ok ()) => station.pollTimes count
    | failed => failed

/-- Shut the session down and wait for it. -/
def close (station : Station σ) : Station σ :=
  TaskSystem.advanceUntil isResting (station.apply .shutdown)

/-- Wait for the end of the loop and take the session back. -/
def awaitReturn (station : Station σ) : Station σ × Except Fault Unit :=
  let station := TaskSystem.advanceUntil hasReturned station
  (station.apply .reclaim,
    match station.session.drive with
    | .returned result => result
    | _ => .ok ())

/-- Make a call, and let everything happen that can happen then.  Polls and the
end of the loop have a result. -/
def perform (station : Station σ) : StationCall σ → Station σ × Option (Except Fault Unit)
  | .request request => (TaskSystem.settle (station.apply request), none)
  | .advance millis => (TaskSystem.advance millis station, none)
  | .poll times =>
    let (station, result) := station.pollTimes times
    (TaskSystem.settle station, some result)
  | .shutdown => (TaskSystem.settle station.close, none)
  | .stop =>
    let (station, result) := (station.apply .cancel).awaitReturn
    (TaskSystem.settle station, some result)

end Station
end VirtualRadio
