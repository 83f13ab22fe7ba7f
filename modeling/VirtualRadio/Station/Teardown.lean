import VirtualRadio.Station.Basic

namespace VirtualRadio

/-!
# Taking things down and putting them up

The parts of handling a packet that may have to wait: stopping the generator,
dropping the stream client, shutting the session down.  Each begins with what
it has to wait for and is told what comes after.
-/

namespace Station

variable {σ : Type}

/-- Wait for a datagram. -/
def receive (station : Station σ) : Station σ :=
  station.setPhase (.receiving (station.deadlineIn station.plan.pollTimeout))

/-- Ask the consumer to stop and wait for its end, if it was not before. -/
def joinConsumer (station : Station σ) : Station σ :=
  if station.session.hasConsumer then
    { station with path := { station.path with consumer := station.path.consumer.cancel } }
      |>.updateSession (fun session => { session with hasConsumer := false })
      |>.setPhase (.joining (station.deadlineIn station.plan.stopTimeout))
  else
    station.rest

/-- Go on after the client was dropped. -/
def afterDetach (station : Station σ) : AfterDetach → Station σ
  | .receive => station.receive
  | .rest => station.rest
  | .answered =>
    station.count (fun stats => { stats with discoveryReplies := stats.discoveryReplies + 1 })
      |>.emit (.discoveryAnswered false)
      |>.rest
  | .shutdown => station.joinConsumer

/-- Drop the stream client, if there is one. -/
def dropClient (station : Station σ) (next : AfterDetach) : Station σ :=
  match station.session.client with
  | none => station.afterDetach next
  | some _ =>
    { station with transport := station.transport.acquire .session }
      |>.updateSession (fun session => { session with client := none })
      |>.setPhase (.detaching next)

/-- Close the stream, once its lock is held. -/
def finishDetach (station : Station σ) (next : AfterDetach) : Station σ :=
  { station with transport := station.transport.detach.1 }
    |>.emit .clientDetached
    |>.afterDetach next

/-- Start a generator. -/
def spawnGenerator (station : Station σ) : Station σ :=
  let id := station.pool.nextId
  let pool := station.pool.spawn station.plan.profile
  { station with
    pool := pool
    session := { station.session with generator := some id }
    order := station.order.filter (fun task =>
        match task with
        | .generator other => (pool.get? other).isSome
        | _ => true)
      ++ [.generator id] }

/-- Begin to stream to the sender of a start packet. -/
def startStreaming (station : Station σ) (origin : Origin) : Station σ :=
  let peer := match origin with
    | .datagram source => some source
    | .stream => none
  let station := { station with
    transport := station.transport.setPeer peer
    path :=
      if station.session.hasConsumer then station.path.retune station.radio.bank.txFrequency
      else station.path }
  station.spawnGenerator
    |>.count (fun stats => { stats with starts := stats.starts + 1 })
    |>.emit (.started peer)
    |>.rest

/-- Go on after the generator was stopped. -/
def afterStop (station : Station σ) : AfterStop → Station σ
  | .start origin => station.startStreaming origin
  | .stop =>
    station.updateSession (fun session => { session with lastSequence := none })
      |>.dropClient .rest
  | .shutdown => station.dropClient .shutdown

/-- Stop the generator that is held, if there is one. -/
def stopGenerator (station : Station σ) (next : AfterStop) : Station σ :=
  match station.session.generator with
  | none => station.afterStop next
  | some id =>
    { station with pool := station.pool.cancel id }
      |>.updateSession (fun session => { session with generator := none })
      |>.setPhase (.stopping id (station.deadlineIn station.plan.stopTimeout) next)

/-- Take note of the end of a generator. -/
def finishStop (station : Station σ) (outcome : StopOutcome) (next : AfterStop) : Station σ :=
  station.updateSession (fun session => { session with
      lastSequence := none
      stats := { session.stats with
        forcedStops := session.stats.forcedStops + if outcome.isForced then 1 else 0 } })
    |>.emit (.stopped outcome.isForced)
    |>.afterStop next

/-- Make a connection the stream client, once the lock of the stream is held. -/
def finishAttach (station : Station σ) (id : Nat) : Station σ :=
  let peer := station.transport.network.peerOf id
  { station with transport := station.transport.attach id }
    |>.updateSession (fun session => { session with client := some ⟨id, peer, []⟩ })
    |>.emit (.clientAttached peer)
    |>.rest

/-- Stop streaming, drop the client and stop the consumer. -/
def shutdown (station : Station σ) : Station σ :=
  station.stopGenerator .shutdown

/-- Give up what the session is waiting for.  What it has taken out of its
state by then is let go of: a generator that was being stopped ends by itself,
a connection that was being attached is closed. -/
def abandonPhase (station : Station σ) : Station σ :=
  let withoutBuffer (station : Station σ) : Station σ :=
    station.updateSession (fun session => { session with receiveRoom := 0 })
  let station := match station.session.phase with
    | .resting _ | .reading _ | .joining _ => station
    | .receiving _ => withoutBuffer station
    | .stopping _ _ _ => if station.hasClient then station else withoutBuffer station
    | .detaching _ | .replying _ =>
      { station with transport := station.transport.abandon .session }
    | .attaching id =>
      let transport := station.transport.abandon .session
      { station with transport := { transport with network := transport.network.close id } }
  station.rest

end Station
end VirtualRadio
