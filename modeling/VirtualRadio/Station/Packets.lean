import VirtualRadio.Station.Teardown
import VirtualRadio.Wire.Discovery

namespace VirtualRadio

/-!
# Acting on packets

Each packet is classified and acted on.  A packet that is no packet is counted,
reported and dropped.
-/

namespace Station

variable {σ : Type}

/-- Follow the numbers of control frames, and report a gap. -/
def followSequence (station : Station σ) (sequence : UInt32) : Station σ :=
  let station := match station.session.lastSequence with
    | none => station
    | some previous =>
      if sequence = previous + 1 then station
      else
        station.count (fun stats => { stats with sequenceGaps := stats.sequenceGaps + 1 })
          |>.emit (.sequenceGap (previous + 1) sequence)
  station.updateSession (fun session => { session with
    lastSequence := some sequence
    stats := { session.stats with framesReceived := session.stats.framesReceived + 1 } })

/-- Switch to the filter of a transmit frequency, if the plan has one. -/
def selectFilter (station : Station σ) (frequency : UInt32) : Station σ :=
  match Band.select? station.plan.bands frequency with
  | some band => station.note (.filter band) |>.emit (.filterSelected band)
  | none => station

/-- Report the change of a register. -/
def reportChange (station : Station σ) (change : RegisterChange) : Station σ :=
  let station :=
    if change.register = .txFrequency then station.selectFilter (UInt32.ofInt change.new)
    else station
  station.emit (.registerChanged change)

/-- Append the samples of a frame to the ring while streaming. -/
def takeSamples (station : Station σ) (frame : List UInt8) : Station σ :=
  if station.isStreaming then
    match ControlFrame.samples frame with
    | .ok samples => { station with path := station.path.write samples }
    | .error _ => station
  else
    station

/-- Act on a control frame. -/
def handleControl (station : Station σ) (frame : List UInt8) (sequence : UInt32) : Station σ :=
  let station := station.followSequence sequence
  match (Decoder.ofProfile station.plan.profile).decodeFrame station.radio frame with
  | .error _ => station
  | .ok (radio, changes) =>
    (changes.foldl reportChange { station with radio := radio }).takeSamples frame

/-- Answer a discovery probe.  Over the stream it is answered only while
nothing streams, and the client is dropped after it. -/
def handleDiscovery (station : Station σ) (origin : Origin) : Station σ :=
  let active := station.isStreaming
  let reply := discoveryReply station.plan.profile station.plan.mac active
  match origin with
  | .datagram source =>
    let (transport, outcome) := station.transport.sendDatagram reply source
    let station := { station with transport := transport }
    match outcome with
    | .error _ => station.rest
    | .ok () =>
      station.count (fun stats => { stats with discoveryReplies := stats.discoveryReplies + 1 })
        |>.emit (.discoveryAnswered active)
        |>.rest
  | .stream =>
    if active then
      station.rest
    else
      { station with transport := station.transport.acquire .session }
        |>.setPhase (.replying (.locking reply))

/-- Hand a maintenance packet to its handler, and send the reply if it came in
a datagram. -/
def handleMaintenance (station : Station σ) (kind : MaintenanceKind) (packet : List UInt8)
    (origin : Origin) : Station σ :=
  let station := station.note (.maintenance kind packet)
  match station.maintenance kind packet, origin with
  | some reply, .datagram source =>
    { station with transport := (station.transport.sendDatagram reply source).1 }.rest
  | _, _ => station.rest

/-- Act on one packet. -/
def handlePacket (station : Station σ) (packet : List UInt8) (origin : Origin) : Station σ :=
  match Packet.classify packet with
  | .error fault =>
    station.count (fun stats => { stats with packetsDropped := stats.packetsDropped + 1 })
      |>.emit (.frameDropped fault)
      |>.rest
  | .ok (.controlIq sequence) => (station.handleControl packet sequence).rest
  | .ok .discovery => station.handleDiscovery origin
  | .ok (.start _) => station.stopGenerator (.start origin)
  | .ok .stop =>
    station.count (fun stats => { stats with stops := stats.stops + 1 })
      |>.stopGenerator .stop
  | .ok (.maintenance kind) => station.handleMaintenance kind packet origin

end Station
end VirtualRadio
