import VirtualRadio.Proofs.Station.Calls

namespace VirtualRadio

/-!
# What is kept only to tell of it

What observers were told, the calls of handlers, the datagrams that were sent and
two of the counts are kept, and nothing that a station does while packets are
handed to it ever looks at them.  So whatever happens to a station with such a
record, happens in the same way to the station without it, and only the record
grows by the same entries.

The record of a station that is put behind an earlier one is written
`station.since record`; one lemma for each function says that it passes through.
-/

/-- What a station keeps only to tell of it. -/
structure Record where
  events : Array Event
  hooks : Array HookCall
  sent : Array (SocketAddress × List UInt8)
  /-- Packets that were dropped. -/
  dropped : Nat
  /-- Discovery probes that were answered. -/
  answered : Nat

namespace Network

variable (network : Network) (sent : Array (SocketAddress × List UInt8))

/-- The sockets, had other datagrams been sent before. -/
def since : Network :=
  { network with sent := sent ++ network.sent }

theorem send_since (bytes : List UInt8) (target : SocketAddress) :
    (network.since sent).send bytes target =
      (network.send bytes target).map fun network => network.since sent := by
  simp only [send, since]
  cases network.sendFault with
  | some fault => rfl
  | none => simp only [Except.map, Array.push_append]

theorem write_since (id : Nat) (bytes : List UInt8) :
    (network.since sent).write id bytes =
      ((network.write id bytes).1, (network.write id bytes).2.since sent) := by
  cases bytes with
  | nil => rfl
  | cons first rest =>
      simp only [write, since]
      cases (network.connections.getD id default).window <;> rfl

theorem apply_since (event : NetworkEvent) :
    (network.since sent).apply event = (network.apply event).since sent := by
  cases event <;> rfl

end Network

namespace Transport

variable (transport : Transport) (sent : Array (SocketAddress × List UInt8))

/-- The transport, had other datagrams been sent before. -/
def since : Transport :=
  { transport with network := transport.network.since sent }

theorem dropWriter_since :
    (transport.since sent).dropWriter = transport.dropWriter.since sent := by
  simp only [dropWriter, since]
  cases transport.link.writer <;> rfl

theorem sendDatagram_since (bytes : List UInt8) (target : SocketAddress) :
    (transport.since sent).sendDatagram bytes target =
      ((transport.sendDatagram bytes target).1.since sent,
        (transport.sendDatagram bytes target).2) := by
  simp only [sendDatagram, since, Network.send_since]
  cases transport.network.send bytes target <;> rfl

theorem writeStream_since (bytes : List UInt8) :
    (transport.since sent).writeStream bytes =
      ((transport.writeStream bytes).1.since sent, (transport.writeStream bytes).2) := by
  have dropped := transport.dropWriter_since sent
  simp only [since] at dropped
  simp only [writeStream, since]
  cases transport.link.writer with
  | none => rfl
  | some id =>
      simp only [Network.write_since]
      rcases transport.network.write id bytes with ⟨⟨_ | _⟩ | _, network⟩
      · rfl
      · rfl
      · simp only [dropped]
        rfl

theorem resumeStream?_since (user : LinkUser) (call : StreamSend) :
    (transport.since sent).resumeStream? user call =
      (transport.resumeStream? user call).map fun made => (made.1.since sent, made.2) := by
  cases call with
  | locking bytes =>
      simp only [resumeStream?, writeStream_since]
      cases held : transport.isHeldBy user with
      | true =>
          have same : (transport.since sent).isHeldBy user = true := held
          rw [if_pos same, if_pos rfl]
          rfl
      | false =>
          have same : (transport.since sent).isHeldBy user = false := held
          rw [same]
          rfl
  | writing bytes =>
      simp only [resumeStream?, writeStream_since]
      rcases transport.writeStream bytes with ⟨moved, ⟨_ | rest⟩ | _ | _⟩
      · rfl
      · simp only
        split <;> rfl
      · rfl
      · rfl

theorem startFrame_since (user : LinkUser) (frame : List UInt8) :
    (transport.since sent).startFrame user frame =
      ((transport.startFrame user frame).1.since sent, (transport.startFrame user frame).2) := by
  simp only [startFrame]
  cases attached : transport.link.attached with
  | true =>
      have same : (transport.since sent).link.attached = true := attached
      rw [if_pos same, if_pos rfl]
      rfl
  | false =>
      have same : (transport.since sent).link.attached = false := attached
      rw [same]
      cases peer : transport.link.peer with
      | none =>
          have same : (transport.since sent).link.peer = none := peer
          rw [same]
          rfl
      | some target =>
          have same : (transport.since sent).link.peer = some target := peer
          rw [same]
          simp only [sendDatagram_since]
          rfl

end Transport

/-! ## Generators -/

theorem Generator.step?_since (generator : Generator StreamSend) (id : Nat)
    (bank : RegisterBank) (now : Nat) (transport : Transport)
    (sent : Array (SocketAddress × List UInt8)) :
    generator.step? id bank now (transport.since sent) =
      (generator.step? id bank now transport).map fun made => (made.1, made.2.since sent) := by
  unfold step?
  cases generator.phase with
  | pacing inputs =>
      simp only [FrameOutput.start, Transport.startFrame_since]
      split
      · rfl
      · split <;> rfl
  | sending call =>
      simp only [FrameOutput.resume?, Transport.resumeStream?_since, Option.map_map]
      rfl
  | _ => rfl

namespace GeneratorPool

variable (pool : GeneratorPool StreamSend) (id now : Nat) (transport : Transport)
variable (sent : Array (SocketAddress × List UInt8))

theorem step?_since (bank : RegisterBank) :
    pool.step? id bank now (transport.since sent) =
      (pool.step? id bank now transport).map fun made => (made.1, made.2.since sent) := by
  simp only [step?, Option.bind_eq_bind]
  cases pool.get? id with
  | none => rfl
  | some generator =>
      simp only [Option.bind_some, Generator.step?_since]
      cases generator.step? id bank now transport <;> rfl

theorem abort_since :
    pool.abort id (transport.since sent) =
      ((pool.abort id transport).1, (pool.abort id transport).2.since sent) := by
  simp only [abort]
  rcases pool.get? id with _ | generator
  · rfl
  · cases phase : generator.phase <;> simp only [Option.map_some, phase]
    rfl

theorem stopped?_since (deadline : Nat) :
    pool.stopped? id deadline now (transport.since sent) =
      (pool.stopped? id deadline now transport).map fun made =>
        (made.1, made.2.1, made.2.2.since sent) := by
  unfold stopped?
  cases pool.get? id with
  | none => rfl
  | some generator =>
      simp only [abort_since, Option.map_map]
      rfl

end GeneratorPool

/-! ## The session -/

/-- The counts of a session, had all of a record come before. -/
def SessionStats.since (stats : SessionStats) (record : Record) : SessionStats :=
  { stats with
    packetsDropped := record.dropped + stats.packetsDropped
    discoveryReplies := record.answered + stats.discoveryReplies }

namespace Station

variable {σ : Type}

/-- What a station keeps only to tell of it. -/
def record (station : Station σ) : Record where
  events := station.events
  hooks := station.hooks
  sent := station.transport.network.sent
  dropped := station.session.stats.packetsDropped
  answered := station.session.stats.discoveryReplies

/-- A station without what it keeps only to tell of it. -/
def unrecorded (station : Station σ) : Station σ :=
  { station with
    transport := { station.transport with
      network := { station.transport.network with sent := #[] } }
    session := { station.session with stats := { station.session.stats with
      packetsDropped := 0
      discoveryReplies := 0 } }
    events := #[]
    hooks := #[] }

/-- A station, had all of a record come before. -/
def since (station : Station σ) (record : Record) : Station σ :=
  { station with
    transport := station.transport.since record.sent
    session := { station.session with stats := station.session.stats.since record }
    events := record.events ++ station.events
    hooks := record.hooks ++ station.hooks }

variable (station : Station σ) (record : Record)

theorem unrecorded_since : station.unrecorded.since station.record = station := by
  simp only [since, unrecorded, Station.record, SessionStats.since, Transport.since,
    Network.since, Nat.add_zero, Array.append_empty]

theorem setPhase_since (phase : SessionPhase) :
    (station.since record).setPhase phase = (station.setPhase phase).since record := rfl

theorem emit_since (event : Event) :
    (station.since record).emit event = (station.emit event).since record := by
  simp only [emit, since, Array.push_append]

theorem note_since (call : HookCall) :
    (station.since record).note call = (station.note call).since record := by
  simp only [note, since, Array.push_append]

theorem count_since {change : SessionStats → SessionStats}
    (passes : ∀ stats, change (stats.since record) = (change stats).since record) :
    (station.since record).count change = (station.count change).since record := by
  simp only [count, updateSession, since, passes]

theorem isStreaming_since : (station.since record).isStreaming = station.isStreaming := rfl

theorem afterDetach_since (next : AfterDetach) :
    (station.since record).afterDetach next = (station.afterDetach next).since record := by
  cases next with
  | receive => rfl
  | rest => rfl
  | answered =>
      simp only [afterDetach]
      rw [count_since _ _ fun _ => rfl, emit_since]
      rfl
  | shutdown =>
      simp only [afterDetach, joinConsumer]
      cases consumer : station.session.hasConsumer with
      | true =>
          have same : (station.since record).session.hasConsumer = true := consumer
          rw [if_pos same, if_pos rfl]
          rfl
      | false =>
          have same : (station.since record).session.hasConsumer = false := consumer
          rw [same]
          rfl

theorem dropClient_since (next : AfterDetach) :
    (station.since record).dropClient next = (station.dropClient next).since record := by
  unfold dropClient
  cases client : station.session.client with
  | none =>
      have same : (station.since record).session.client = none := client
      rw [same]
      exact station.afterDetach_since record next
  | some attached =>
      have same : (station.since record).session.client = some attached := client
      rw [same]
      rfl

theorem finishDetach_since (next : AfterDetach) :
    (station.since record).finishDetach next = (station.finishDetach next).since record := by
  have detached : (station.transport.since record.sent).detach.1 =
      station.transport.detach.1.since record.sent :=
    Transport.dropWriter_since station.transport.release record.sent
  simp only [finishDetach]
  rw [← afterDetach_since, ← emit_since]
  simp only [since, detached]

theorem startStreaming_since (origin : Origin) :
    (station.since record).startStreaming origin =
      (station.startStreaming origin).since record := by
  simp only [startStreaming]
  rw [rest, rest, ← setPhase_since, ← emit_since, ← count_since _ _ fun _ => rfl]
  rfl

theorem afterStop_since (next : AfterStop) :
    (station.since record).afterStop next = (station.afterStop next).since record := by
  cases next with
  | start origin => exact station.startStreaming_since record origin
  | stop =>
      simp only [afterStop]
      rw [← dropClient_since]
      rfl
  | shutdown => exact station.dropClient_since record .shutdown

theorem stopGenerator_since (next : AfterStop) :
    (station.since record).stopGenerator next = (station.stopGenerator next).since record := by
  unfold stopGenerator
  cases held : station.session.generator with
  | none =>
      have same : (station.since record).session.generator = none := held
      rw [same]
      exact station.afterStop_since record next
  | some id =>
      have same : (station.since record).session.generator = some id := held
      rw [same]
      rfl

theorem finishStop_since (outcome : StopOutcome) (next : AfterStop) :
    (station.since record).finishStop outcome next =
      (station.finishStop outcome next).since record := by
  simp only [finishStop]
  rw [← afterStop_since, ← emit_since]
  rfl

theorem followSequence_since (sequence : UInt32) :
    (station.since record).followSequence sequence =
      (station.followSequence sequence).since record := by
  unfold followSequence
  cases last : station.session.lastSequence with
  | none =>
      have same : (station.since record).session.lastSequence = none := last
      simp only [same]
      rfl
  | some previous =>
      have same : (station.since record).session.lastSequence = some previous := last
      simp only [same]
      split
      · rfl
      · rw [count_since _ _ fun _ => rfl, emit_since]
        rfl

theorem reportChange_since (change : RegisterChange) :
    (station.since record).reportChange change = (station.reportChange change).since record := by
  simp only [reportChange]
  rw [← emit_since]
  split
  · simp only [selectFilter]
    have same : (station.since record).plan = station.plan := rfl
    rw [same]
    split
    · rw [note_since, emit_since]
    · rfl
  · rfl

theorem reportChanges_since (changes : List RegisterChange) :
    changes.foldl reportChange (station.since record) =
      (changes.foldl reportChange station).since record := by
  induction changes generalizing station with
  | nil => rfl
  | cons change changes ih => rw [List.foldl_cons, reportChange_since, ih, List.foldl_cons]

theorem takeSamples_since (frame : List UInt8) :
    (station.since record).takeSamples frame = (station.takeSamples frame).since record := by
  cases streaming : station.isStreaming with
  | true =>
      simp only [takeSamples, isStreaming_since, streaming, if_true]
      cases ControlFrame.samples frame <;> rfl
  | false => simp only [takeSamples, isStreaming_since, streaming, Bool.false_eq_true, if_false]

theorem handleControl_since (frame : List UInt8) (sequence : UInt32) :
    (station.since record).handleControl frame sequence =
      (station.handleControl frame sequence).since record := by
  simp only [handleControl, followSequence_since]
  have plan : ((station.followSequence sequence).since record).plan =
    (station.followSequence sequence).plan := rfl
  have radio : ((station.followSequence sequence).since record).radio =
    (station.followSequence sequence).radio := rfl
  simp only [plan, radio]
  split
  · rfl
  · rw [← takeSamples_since, ← reportChanges_since]
    rfl

theorem handleDiscovery_since (origin : Origin) :
    (station.since record).handleDiscovery origin =
      (station.handleDiscovery origin).since record := by
  cases origin with
  | datagram source =>
      have plan : (station.since record).plan = station.plan := rfl
      have transport : (station.since record).transport =
        station.transport.since record.sent := rfl
      simp only [handleDiscovery, isStreaming_since, plan, transport,
        Transport.sendDatagram_since]
      split
      · rfl
      · rw [rest, rest, ← setPhase_since, ← emit_since, ← count_since _ _ fun _ => rfl]
        rfl
  | stream =>
      cases streaming : station.isStreaming with
      | true =>
          simp only [handleDiscovery, isStreaming_since, streaming, if_true]
          rfl
      | false =>
          simp only [handleDiscovery, isStreaming_since, streaming, Bool.false_eq_true, if_false]
          rfl

theorem handleMaintenance_since (kind : MaintenanceKind) (packet : List UInt8) (origin : Origin) :
    (station.since record).handleMaintenance kind packet origin =
      (station.handleMaintenance kind packet origin).since record := by
  simp only [handleMaintenance, note_since]
  have handler : ((station.note (.maintenance kind packet)).since record).maintenance =
    (station.note (.maintenance kind packet)).maintenance := rfl
  have transport : ((station.note (.maintenance kind packet)).since record).transport =
    (station.note (.maintenance kind packet)).transport.since record.sent := rfl
  rw [handler, transport]
  split
  · rw [Transport.sendDatagram_since]
    rfl
  · rfl

theorem handlePacket_since (packet : List UInt8) (origin : Origin) :
    (station.since record).handlePacket packet origin =
      (station.handlePacket packet origin).since record := by
  unfold handlePacket
  split
  · rw [count_since _ _ fun _ => rfl, emit_since]
    rfl
  · rw [handleControl_since]
    rfl
  · exact station.handleDiscovery_since record origin
  · exact station.stopGenerator_since record _
  · rw [count_since _ _ fun _ => rfl, stopGenerator_since]
  · exact station.handleMaintenance_since record _ packet origin

theorem resumeReply?_since (call : StreamSend) :
    (station.since record).resumeReply? call =
      (station.resumeReply? call).map fun station => station.since record := by
  have transport : (station.since record).transport =
    station.transport.since record.sent := rfl
  unfold resumeReply?
  rw [transport, Transport.resumeStream?_since, Option.map_map, Option.map_map]
  refine congrArg (Option.map · _) (funext fun made => ?_)
  rcases made with ⟨moved, progress⟩
  cases progress with
  | waiting rest => rfl
  | finished outcome => exact dropClient_since { station with transport := moved } record .answered
  | crashed => exact dropClient_since { station with transport := moved } record .answered

variable {station}

/-- A session that acts on a packet which was handed to it never looks at the record. -/
theorem TakesCalls.resume?_since (takes : station.TakesCalls) :
    (station.since record).resume? = station.resume?.map fun station => station.since record := by
  have ofCall := takes.phase
  unfold Station.resume?
  cases phase : station.session.phase with
  | resting failure =>
      have same : (station.since record).session.phase = .resting failure := phase
      rw [same]
      rfl
  | stopping id deadline next =>
      have same : (station.since record).session.phase = .stopping id deadline next := phase
      have pool : (station.since record).pool = station.pool := rfl
      have now : (station.since record).now = station.now := rfl
      have transport : (station.since record).transport =
        station.transport.since record.sent := rfl
      simp only [same, pool, now, transport, GeneratorPool.stopped?_since, Option.map_map]
      refine congrArg (Option.map · _) (funext fun made => ?_)
      exact finishStop_since { station with pool := made.2.1, transport := made.2.2 } record
        made.1 next
  | detaching next =>
      have same : (station.since record).session.phase = .detaching next := phase
      have transport : (station.since record).transport.isHeldBy .session =
        station.transport.isHeldBy .session := rfl
      simp only [same, transport]
      split
      · rw [finishDetach_since]
        rfl
      · rfl
  | replying call =>
      have same : (station.since record).session.phase = .replying call := phase
      simp only [same]
      exact station.resumeReply?_since record call
  | _ =>
      rw [phase] at ofCall
      contradiction

variable [SinkDevice σ]

theorem TakesCalls.step?_since (takes : station.TakesCalls) (task : StationTask) :
    step? task (station.since record) =
      (step? task station).map fun station => station.since record := by
  cases task with
  | session =>
      have takesSince : (station.since record).TakesCalls := ⟨takes.drive, takes.phase⟩
      rw [step?, step?, takes.sessionStep?, takesSince.sessionStep?, takes.resume?_since]
  | consumer =>
      have path : (station.since record).path.step? (station.since record).now =
        station.path.step? station.now := rfl
      simp only [step?, path, Option.bind_eq_bind]
      rcases station.path.step? station.now with _ | ⟨path, _ | hertz⟩
      · rfl
      · rfl
      · simp only [Option.bind_some, Option.pure_def, Option.map_some, ← emit_since]
        rfl
  | generator id =>
      have same : (station.since record).pool.step? id (station.since record).radio.bank
          (station.since record).now (station.since record).transport =
        station.pool.step? id station.radio.bank station.now
          (station.transport.since record.sent) := rfl
      simp only [step?, same, GeneratorPool.step?_since, Option.bind_eq_bind]
      cases station.pool.step? id station.radio.bank station.now station.transport <;> rfl

theorem TakesCalls.happen_since (takes : station.TakesCalls) {happening : Happening σ}
    (suits : happening.suitsCalls = true) :
    (station.since record).happen happening = (station.happen happening).since record := by
  cases happening with
  | packet bytes origin =>
      have same : (station.since record).isResting = station.isResting := rfl
      rw [Station.happen, Station.happen, same]
      split
      · exact station.handlePacket_since record bytes origin
      · rfl
  | step task =>
      rw [Station.happen, Station.happen, takes.step?_since]
      cases step? task station <;> rfl
  | requeue task => rfl
  | wait millis => rfl
  | transport change => contradiction
  | request request =>
      cases request with
      | network event =>
          have moved := station.transport.network.apply_since record.sent event
          simp only [Station.happen, apply, Transport.apply, since, Transport.since, moved]
      | sink change => rfl
      | _ => contradiction

end Station
end VirtualRadio
