import VirtualRadio.Proofs.Generator.Routes
import VirtualRadio.Proofs.Station.Arrivals
import VirtualRadio.Proofs.Station.Phases

namespace VirtualRadio

/-!
# Who asked to stream

The last start packet that reached the session says where frames go while no client is
attached: to the address that it came from, or nowhere if it came over the stream.  A
start that finds a generator running waits for its end first, and the session handles no
other packet before.  So whenever the session holds a generator, that generator was
started for the last start packet, and the peer of the link is its sender.
-/

/-- The start that a session which waits so is about to make. -/
def SessionPhase.pending? : SessionPhase → Option Origin
  | stopping _ _ (.start origin) => some origin
  | _ => none

/-- Whether a packet asks to stream. -/
def Packet.isStart (bytes : List UInt8) : Bool :=
  match Packet.classify bytes with
  | .ok (.start _) => true
  | _ => false

/-- The receiver of frames whom a start asks for that came from there. -/
def Origin.peer? : Origin → Option SocketAddress
  | datagram source => some source
  | stream => none

/-- Whether what comes next after a generator was stopped is another start. -/
def AfterStop.isStart : AfterStop → Bool
  | start _ => true
  | _ => false

namespace Station

variable {σ : Type} {before middle after station : Station σ}

/-! ## Where nothing starts -/

/-- A change in which no generator is started and no start becomes pending. -/
structure StartsNone (before after : Station σ) : Prop where
  pending : after.session.phase.pending? = none
  held : ∀ id, after.session.generator = some id → before.session.generator = some id
  peer : after.transport.link.peer = before.transport.link.peer

/-- What goes before may leave anything pending. -/
theorem StartsNone.of_same (later : StartsNone middle after)
    (held : middle.session.generator = before.session.generator)
    (peer : middle.transport.link.peer = before.transport.link.peer) : StartsNone before after where
  pending := later.pending
  held := fun id holds => held ▸ later.held id holds
  peer := later.peer.trans peer

theorem Alike.startsNone (alike : Alike before middle) (later : StartsNone middle after) :
    StartsNone before after :=
  later.of_same alike.generator (congrArg Link.peer alike.link)

/-- A session that goes over to a wait with nothing pending. -/
theorem setPhase_startsNone (station : Station σ) {phase : SessionPhase}
    (pending : phase.pending? = none) : StartsNone station (station.setPhase phase) :=
  ⟨pending, fun _ holds => holds, rfl⟩

theorem joinConsumer_startsNone (station : Station σ) :
    StartsNone station station.joinConsumer := by
  unfold joinConsumer
  split <;> exact ⟨rfl, fun _ holds => holds, rfl⟩

theorem afterDetach_startsNone (station : Station σ) (next : AfterDetach) :
    StartsNone station (station.afterDetach next) := by
  cases next with
  | shutdown => exact station.joinConsumer_startsNone
  | _ => exact ⟨rfl, fun _ holds => holds, rfl⟩

theorem dropClient_startsNone (station : Station σ) (next : AfterDetach) :
    StartsNone station (station.dropClient next) := by
  unfold dropClient
  split
  · exact station.afterDetach_startsNone next
  · exact ⟨rfl, fun _ holds => holds, rfl⟩

theorem finishDetach_startsNone (station : Station σ) (next : AfterDetach) :
    StartsNone station (station.finishDetach next) :=
  (afterDetach_startsNone _ next).of_same rfl rfl

theorem afterStop_startsNone (station : Station σ) {next : AfterStop}
    (other : next.isStart = false) : StartsNone station (station.afterStop next) := by
  cases next with
  | start origin => contradiction
  | stop => exact (dropClient_startsNone _ .rest).of_same rfl rfl
  | shutdown => exact station.dropClient_startsNone .shutdown

theorem stopGenerator_startsNone (station : Station σ) {next : AfterStop}
    (other : next.isStart = false) : StartsNone station (station.stopGenerator next) := by
  unfold stopGenerator
  split
  · exact station.afterStop_startsNone other
  · refine ⟨?_, fun _ holds => by contradiction, rfl⟩
    cases next <;> first | rfl | contradiction

theorem handleDiscovery_startsNone (station : Station σ) (origin : Origin) :
    StartsNone station (station.handleDiscovery origin) := by
  unfold handleDiscovery
  cases origin with
  | datagram source =>
      have sent := station.sendDatagram_alike
        (discoveryReply station.plan.profile station.plan.mac station.isStreaming) source
      simp only
      split
      · exact sent.startsNone (setPhase_startsNone _ rfl)
      · exact ((sent.count _).emit rfl).startsNone (setPhase_startsNone _ rfl)
  | stream =>
      simp only
      split
      · exact setPhase_startsNone _ rfl
      · exact ⟨rfl, fun _ holds => holds, rfl⟩

theorem handlePacket_startsNone (station : Station σ) {packet : List UInt8}
    (other : Packet.isStart packet = false) (origin : Origin) :
    StartsNone station (station.handlePacket packet origin) := by
  have is := Alike.refl station
  unfold handlePacket
  split
  · exact ((is.count _).emit rfl).startsNone (setPhase_startsNone _ rfl)
  · exact (station.handleControl_alike packet _).startsNone (setPhase_startsNone _ rfl)
  · exact station.handleDiscovery_startsNone origin
  · next mode starts =>
      rw [Packet.isStart, starts] at other
      contradiction
  · exact (is.count _).startsNone (stopGenerator_startsNone _ rfl)
  · next kind _ =>
      have noted := is.note (.maintenance kind packet)
      unfold handleMaintenance
      simp only
      split
      · exact (noted.trans (sendDatagram_alike _ _ _)).startsNone (setPhase_startsNone _ rfl)
      · exact noted.startsNone (setPhase_startsNone _ rfl)

/-! ## What a packet leads to -/

/-- What comes of the packet that reaches the session, if one does: a start packet is acted
on.  Without one nothing starts, unless a start that is pending is made. -/
inductive Leads (before : Station σ) (packet? : Option (List UInt8 × Origin))
    (after : Station σ) : Prop
  | still (nothing : packet? = none) (same : after = before) : Leads before packet? after
  | start (middle : Station σ) (bytes : List UInt8) (origin : Origin)
      (comes : packet? = some (bytes, origin)) (starts : Packet.isStart bytes = true)
      (made : after = middle.stopGenerator (.start origin)) : Leads before packet? after
  | other (other : ∀ bytes origin, packet? = some (bytes, origin) → Packet.isStart bytes = false)
      (none : StartsNone before after) : Leads before packet? after
  | finish (nothing : packet? = none) (middle : Station σ) (origin : Origin)
      (pending : before.session.phase.pending? = some origin)
      (made : after = middle.startStreaming origin) : Leads before packet? after

theorem StartsNone.leads (none : StartsNone before after) : Leads before .none after :=
  .other (fun _ _ comes => by contradiction) none

theorem handlePacket_leads (packet : List UInt8) (origin : Origin)
    (held : middle.session.generator = before.session.generator)
    (peer : middle.transport.link.peer = before.transport.link.peer) :
    Leads before (some (packet, origin)) (middle.handlePacket packet origin) := by
  cases starts : Packet.isStart packet with
  | true =>
      refine .start middle packet origin rfl starts ?_
      unfold Packet.isStart at starts
      split at starts
      · next mode is => simp only [handlePacket, is]
      · contradiction
  | false =>
      have none := (middle.handlePacket_startsNone starts origin).of_same held peer
      refine .other (fun _ _ comes => ?_) none
      cases comes
      exact starts

theorem takeUnit?_leads {client : StreamClient}
    (held : middle.session.generator = before.session.generator)
    (peer : middle.transport.link.peer = before.transport.link.peer)
    (otherwise : StartsNone before after) :
    Leads before (unitPacket? client) ((middle.takeUnit? client).getD after) := by
  unfold takeUnit? unitPacket?
  cases splitUnit? client.buffer with
  | none => exact otherwise.leads
  | some split => exact handlePacket_leads split.1 .stream held peer

theorem beginPoll_leads (station : Station σ) :
    Leads station station.polledPacket? station.beginPoll := by
  unfold polledPacket?
  cases client : station.session.client with
  | none =>
      have received : station.beginPoll = station.receive := by rw [beginPoll, client]
      have nothing : (if station.transport.link.attached then
          (none : Option StreamClient).bind unitPacket? else none) = none := by split <;> rfl
      rw [received, nothing]
      exact (setPhase_startsNone _ rfl).leads
  | some client =>
      simp only [beginPoll, client]
      split
      · have rejected := station.rejectExtraClient_alike
        have peer := congrArg Link.peer rejected.link
        exact takeUnit?_leads rejected.generator peer
          (rejected.startsNone (setPhase_startsNone _ rfl))
      · exact (station.dropClient_startsNone .receive).leads

theorem missDatagram_startsNone (station : Station σ) :
    StartsNone station station.missDatagram := by
  unfold missDatagram
  simp only
  split
  · unfold tryAccept
    split <;> exact ⟨rfl, fun _ holds => holds, rfl⟩
  · exact ⟨rfl, fun _ holds => holds, rfl⟩

theorem resumeReceive?_leads (station : Station σ) (deadline : Nat) :
    Leads station station.receivedPacket? ((station.resumeReceive? deadline).getD station) := by
  unfold resumeReceive? receivedPacket?
  rcases station.transport.network.receive? with _ | ⟨fault | ⟨source, bytes⟩, network⟩
  · simp only
    split
    · exact station.missDatagram_startsNone.leads
    · exact .still rfl rfl
  · refine StartsNone.leads ?_
    simp only
    split
    · exact (missDatagram_startsNone _).of_same rfl rfl
    · exact (setPhase_startsNone _ rfl).of_same rfl rfl
  · exact handlePacket_leads _ (.datagram source) rfl rfl

theorem resumeRead?_leads (station : Station σ) (deadline : Nat) :
    Leads station station.readPacket? ((station.resumeRead? deadline).getD station) := by
  unfold resumeRead? readPacket?
  rcases station.session.client with _ | client
  · exact (setPhase_startsNone _ rfl).leads
  simp only [Option.bind_some]
  rcases station.transport.network.read? client.connection with _ | ⟨found, network⟩
  · simp only
    split
    · exact (setPhase_startsNone _ rfl).leads
    · exact .still rfl rfl
  · cases found with
    | bytes bytes =>
        exact takeUnit?_leads rfl rfl ((setPhase_startsNone _ rfl).of_same rfl rfl)
    | ended =>
        refine StartsNone.leads ?_
        exact (dropClient_startsNone _ .rest).of_same rfl rfl
    | failed =>
        refine StartsNone.leads ?_
        exact (dropClient_startsNone _ .rest).of_same rfl rfl

theorem resumeReply?_startsNone {call : StreamSend}
    (resumed : before.resumeReply? call = some after) : StartsNone before after := by
  rcases Option.map_eq_some_iff.mp resumed with ⟨⟨transport, progress⟩, goesOn, rfl⟩
  rcases Transport.resumeStream?_eq_some goesOn with ⟨bytes, _, writes⟩
  have peer := writes.peer
  cases progress with
  | waiting rest => exact (setPhase_startsNone _ rfl).of_same rfl peer
  | finished outcome => exact (dropClient_startsNone _ .answered).of_same rfl peer
  | crashed => exact (dropClient_startsNone _ .answered).of_same rfl peer

theorem finishStop_leads {id deadline : Nat} {next : AfterStop} {outcome : StopOutcome}
    {pool : GeneratorPool StreamSend} {transport : Transport}
    (phase : station.session.phase = .stopping id deadline next)
    (stopped : station.pool.stopped? id deadline station.now station.transport =
      some (outcome, pool, transport)) :
    Leads station none
      ({ station with pool := pool, transport := transport }.finishStop outcome next) := by
  have peer : transport.link.peer = station.transport.link.peer := by
    rcases GeneratorPool.stopped?_transport stopped with rfl | rfl <;> rfl
  cases starts : next.isStart with
  | true =>
      cases next with
      | start origin => exact .finish rfl _ origin (by rw [phase]; rfl) rfl
      | _ => contradiction
  | false =>
      refine StartsNone.leads ?_
      unfold finishStop
      exact (afterStop_startsNone _ starts).of_same rfl peer

theorem abandonPhase_peer (station : Station σ) :
    station.abandonPhase.transport.link.peer = station.transport.link.peer := by
  unfold abandonPhase
  split
  case h_5 => split <;> rfl
  all_goals rfl

/-- Nothing else that the session waits for comes with a packet. -/
theorem resume?_leads (station : Station σ) :
    Leads station station.resumedPacket? (station.resume?.getD station) := by
  cases phase : station.session.phase with
  | resting failure =>
      simp only [resume?, resumedPacket?, phase]
      exact .still rfl rfl
  | receiving deadline =>
      simp only [resume?, resumedPacket?, phase]
      exact station.resumeReceive?_leads deadline
  | reading deadline =>
      simp only [resume?, resumedPacket?, phase]
      exact station.resumeRead?_leads deadline
  | stopping id deadline next =>
      simp only [resume?, resumedPacket?, phase]
      cases stopped : station.pool.stopped? id deadline station.now station.transport with
      | none => exact .still rfl rfl
      | some made => exact finishStop_leads phase stopped
  | detaching next =>
      simp only [resume?, resumedPacket?, phase]
      split
      · exact (station.finishDetach_startsNone next).leads
      · exact .still rfl rfl
  | replying call =>
      simp only [resume?, resumedPacket?, phase]
      cases resumed : station.resumeReply? call with
      | none => exact .still rfl rfl
      | some after => exact (resumeReply?_startsNone resumed).leads
  | attaching id =>
      simp only [resume?, resumedPacket?, phase]
      split
      · exact StartsNone.leads ⟨rfl, fun _ holds => holds, rfl⟩
      · exact .still rfl rfl
  | joining deadline =>
      simp only [resume?, resumedPacket?, phase]
      rcases station.path.consumer.joined? deadline station.now with _ | ⟨consumer, result⟩
      · exact .still rfl rfl
      · exact StartsNone.leads ⟨rfl, fun _ holds => holds, rfl⟩

theorem sessionStep?_leads (composed : station.session.IsComposed) :
    Leads station station.steppedPacket? (station.sessionStep?.getD station) := by
  have resumed := station.resume?_leads
  cases drive : station.session.drive with
  | byHand =>
      simp only [sessionStep?, steppedPacket?, drive]
      exact resumed
  | looping cancelled =>
      cases cancelled with
      | true =>
          simp only [sessionStep?, loopStep?, steppedPacket?, drive]
          have left := station.abandonPhase_abandons
          refine StartsNone.leads ?_
          exact (stopGenerator_startsNone _ rfl).of_same left.generator station.abandonPhase_peer
      | false =>
          cases phase : station.session.phase with
          | resting failure =>
              cases failure with
              | none =>
                  simp only [sessionStep?, loopStep?, steppedPacket?, drive, phase]
                  exact station.beginPoll_leads
              | some fault =>
                  simp only [sessionStep?, loopStep?, steppedPacket?, resumedPacket?, drive, phase]
                  refine StartsNone.leads ?_
                  exact (stopGenerator_startsNone _ rfl).of_same rfl rfl
          | _ =>
              simp only [sessionStep?, loopStep?, steppedPacket?, drive, phase]
              exact resumed
  | closing result =>
      cases phase : station.session.phase with
      | resting failure =>
          simp only [sessionStep?, steppedPacket?, resumedPacket?, drive, phase]
          refine StartsNone.leads ⟨?_, fun _ holds => holds, rfl⟩
          change station.session.phase.pending? = none
          rw [phase]
          rfl
      | _ =>
          simp only [sessionStep?, steppedPacket?, drive, phase]
          exact resumed
  | returned result =>
      simp only [sessionStep?, steppedPacket?, drive]
      exact .still rfl rfl
  | dropped =>
      rcases composed.of_dropped drive with ⟨failure, phase⟩
      simp only [sessionStep?, steppedPacket?, drive]
      split
      · refine StartsNone.leads ⟨?_, fun _ holds => holds, ?_⟩
        · change station.session.phase.pending? = none
          rw [phase]
          rfl
        · rfl
      · exact .still rfl rfl

/-! ## The last start -/

/-- Who sent the last start packet, after one more happening. -/
def starterAfter (station : Station σ) (starter : Option Origin) (happening : Happening σ) :
    Option Origin :=
  match station.packet? happening with
  | some (bytes, origin) => if Packet.isStart bytes then some origin else starter
  | none => starter

/-- A generator that is held was started for whoever sent the last start packet, and a start
that is pending is his. -/
structure StartedBy (starter : Option Origin) (station : Station σ) : Prop where
  pending : ∀ origin, station.session.phase.pending? = some origin → starter = some origin
  held : ∀ id, station.session.generator = some id →
    ∃ origin, starter = some origin ∧ station.transport.link.peer = origin.peer?

namespace StartedBy

variable {starter : Option Origin}

theorem startStreaming (station : Station σ) (origin : Origin) :
    StartedBy (some origin) (station.startStreaming origin) := by
  refine ⟨fun _ pending => by contradiction, fun _ _ => ⟨origin, rfl, ?_⟩⟩
  cases origin <;> rfl

theorem stopGenerator (station : Station σ) (origin : Origin) :
    StartedBy (some origin) (station.stopGenerator (.start origin)) := by
  unfold Station.stopGenerator
  split
  · exact startStreaming station origin
  · refine ⟨fun _ pending => ?_, fun _ held => by contradiction⟩
    exact pending

theorem startsNone (started : StartedBy starter before) (none : StartsNone before after) :
    StartedBy starter after := by
  refine ⟨fun origin pending => ?_, fun id holds => ?_⟩
  · rw [none.pending] at pending
    contradiction
  · rw [none.peer]
    exact started.held id (none.held id holds)

/-- A change that leaves what is pending, what is held and the peer alone. -/
theorem congr (started : StartedBy starter before)
    (phase : after.session.phase.pending? = before.session.phase.pending?)
    (held : after.session.generator = before.session.generator)
    (peer : after.transport.link.peer = before.transport.link.peer) : StartedBy starter after := by
  refine ⟨fun origin pending => started.pending origin (phase ▸ pending), fun id holds => ?_⟩
  rw [peer]
  exact started.held id (held ▸ holds)

/-- What becomes of the packet that reaches the session. -/
theorem leads (started : StartedBy starter before) {happening : Happening σ}
    (leads : Leads before (before.packet? happening) after) :
    StartedBy (before.starterAfter starter happening) after := by
  unfold starterAfter
  cases leads with
  | still nothing same =>
      rw [nothing, same]
      exact started
  | start middle bytes origin comes starts made =>
      rw [comes, made]
      simp only [starts, if_true]
      exact stopGenerator middle origin
  | other other none =>
      cases comes : before.packet? happening with
      | none => exact started.startsNone none
      | some packet =>
          simp only [other packet.1 packet.2 comes, Bool.false_eq_true, if_false]
          exact started.startsNone none
  | finish nothing middle origin pending made =>
      rw [nothing, made, started.pending origin pending]
      exact startStreaming middle origin

end StartedBy

theorem generator_peer {id : Nat} {pool : GeneratorPool StreamSend} {transport : Transport}
    (stepped : station.pool.step? id station.radio.bank station.now station.transport =
      some (pool, transport)) : transport.link.peer = station.transport.link.peer := by
  rcases GeneratorPool.step?_turn stepped with ⟨generator, later, _, _, turn, _⟩
  cases turn with
  | resume call bytes _ progress sending goesOn writes => exact writes.peer
  | _ => rfl

variable [SinkDevice σ] {starter : Option Origin}

theorem happen_startedBy (composed : station.session.IsComposed)
    (started : StartedBy starter station) {happening : Happening σ}
    (permitted : station.permits happening = true) :
    StartedBy (station.starterAfter starter happening) (station.happen happening) := by
  cases happening with
  | packet bytes origin => contradiction
  | transport change => contradiction
  | requeue task => exact started.congr rfl rfl rfl
  | wait millis => exact started.congr rfl rfl rfl
  | step task =>
      cases task with
      | session => exact started.leads (sessionStep?_leads composed)
      | consumer =>
          have beside := station.consumer_beside
          refine started.congr ?_ ?_ ?_
          · exact congrArg (fun session => session.phase.pending?) beside.session
          · exact congrArg Session.generator beside.session
          · exact congrArg (fun transport => transport.link.peer) beside.transport
      | generator id =>
          change StartedBy starter ((step? (.generator id) station).getD station)
          simp only [step?]
          cases stepped :
              station.pool.step? id station.radio.bank station.now station.transport with
          | none => exact started
          | some made => exact started.congr rfl rfl (generator_peer stepped)
  | request request =>
      cases request with
      | poll => exact started.leads station.beginPoll_leads
      | network event => exact started.congr rfl rfl rfl
      | sink change => exact started.congr rfl rfl rfl
      | shutdown => exact started.startsNone (stopGenerator_startsNone _ rfl)
      | run => exact started.startsNone ⟨rfl, fun _ holds => holds, rfl⟩
      | reclaim => exact started.congr rfl rfl rfl
      | drop =>
          refine started.startsNone ⟨rfl, fun _ holds => by contradiction, ?_⟩
          exact station.abandonPhase_peer
      | cancel =>
          change StartedBy starter (station.apply .cancel)
          unfold apply
          simp only
          split
          · exact started.congr rfl rfl rfl
          · exact started

end Station
end VirtualRadio
