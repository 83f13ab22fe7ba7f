import VirtualRadio.Station.Packets

namespace VirtualRadio

/-!
# Polling

A poll takes in at most one packet.  With a stream client it cuts the packet
off what the client has sent; otherwise it waits for a datagram.  After enough
polls in a row without one it looks whether a stream client has come.
-/

namespace Station

variable {σ : Type}

/-- Refuse one connection that came while another is attached. -/
def rejectExtraClient (station : Station σ) : Station σ :=
  match station.transport.network.accept? with
  | none => station
  | some (.error _, network) =>
    { station with transport := { station.transport with network := network } }
  | some (.ok id, network) =>
    { station with transport := { station.transport with network := network.close id } }
      |>.count (fun stats => { stats with rejectedClients := stats.rejectedClients + 1 })

/-- Act on the first packet that the client has sent, if it is complete. -/
def takeUnit? (station : Station σ) (client : StreamClient) : Option (Station σ) :=
  (splitUnit? client.buffer).map (fun (unit, rest) =>
    station.updateSession (fun session =>
        { session with client := some { client with buffer := rest } })
      |>.handlePacket unit .stream)

/-- Begin a poll. -/
def beginPoll (station : Station σ) : Station σ :=
  match station.session.client with
  | none => station.receive
  | some client =>
    if station.transport.link.attached then
      let station := station.rejectExtraClient
      (station.takeUnit? client).getD
        (station.setPhase (.reading (station.deadlineIn station.plan.pollTimeout)))
    else
      station.dropClient .receive

/-- Look whether a stream client has come. -/
def tryAccept (station : Station σ) : Station σ :=
  match station.transport.network.accept? with
  | none => station.rest
  | some (.error _, network) =>
    { station with transport := { station.transport with network := network } }.rest
  | some (.ok id, network) =>
    { station with
        transport := { station.transport with network := network }.acquire .session }
      |>.setPhase (.attaching id)

/-- Note that a poll found no datagram. -/
def missDatagram (station : Station σ) : Station σ :=
  let misses := station.session.emptyReads + 1
  if misses > Session.emptyReadsBeforeAccept then
    station.updateSession (fun session => { session with emptyReads := 0 }) |>.tryAccept
  else
    station.updateSession (fun session => { session with emptyReads := misses }) |>.rest

/-- Go on with a poll that waits for a datagram. -/
def resumeReceive? (station : Station σ) (deadline : Nat) : Option (Station σ) :=
  match station.transport.network.receive? with
  | none => if Clock.isDue deadline station.now then some station.missDatagram else none
  | some (received, network) =>
    let station := { station with transport := { station.transport with network := network } }
    match received with
    | .ok (source, bytes) =>
      some (station.updateSession (fun session => { session with emptyReads := 0 })
        |>.handlePacket (bytes.take station.session.receiveRoom) (.datagram source))
    | .error fault =>
      if fault.kind.isTransient then some station.missDatagram
      else some (station.setPhase (.resting (some (.io fault.detail))))

/-- Go on with a poll that waits for bytes from the client. -/
def resumeRead? (station : Station σ) (deadline : Nat) : Option (Station σ) :=
  match station.session.client with
  | none => some station.rest
  | some client =>
    match station.transport.network.read? client.connection with
    | none => if Clock.isDue deadline station.now then some station.rest else none
    | some (found, network) =>
      let station := { station with transport := { station.transport with network := network } }
      match found with
      | .bytes bytes =>
        let client := { client with buffer := client.buffer ++ bytes }
        some ((station.takeUnit? client).getD
          (station.updateSession (fun session => { session with client := some client })).rest)
      | .ended | .failed => some (station.dropClient .rest)

/-- Go on with a reply to the client.  Whatever becomes of it, the client is
dropped then. -/
def resumeReply? (station : Station σ) (call : StreamSend) : Option (Station σ) :=
  (station.transport.resumeStream? .session call).map (fun (transport, progress) =>
    let station := { station with transport := transport }
    match progress with
    | .waiting call => station.setPhase (.replying call)
    | .finished _ | .crashed => station.dropClient .answered)

/-- Go on with what the session does, if it does not wait. -/
def resume? (station : Station σ) : Option (Station σ) :=
  match station.session.phase with
  | .resting _ => none
  | .receiving deadline => station.resumeReceive? deadline
  | .reading deadline => station.resumeRead? deadline
  | .stopping id deadline next =>
    (station.pool.stopped? id deadline station.now station.transport).map
      (fun (outcome, pool, transport) =>
        { station with pool := pool, transport := transport }.finishStop outcome next)
  | .detaching next =>
    if station.transport.isHeldBy .session then some (station.finishDetach next) else none
  | .replying call => station.resumeReply? call
  | .attaching id =>
    if station.transport.isHeldBy .session then some (station.finishAttach id) else none
  | .joining deadline =>
    (station.path.consumer.joined? deadline station.now).map (fun (consumer, _) =>
      { station with path := { station.path with consumer := consumer.close } }.rest)

end Station
end VirtualRadio
