import VirtualRadio.Proofs.Station.ControlFrames
import VirtualRadio.Proofs.Transmit.Turns

namespace VirtualRadio

/-!
# The packets that reach the session

Packets come in datagrams, are cut off the stream, or are handed to the session
directly.  Whichever way it comes, a packet reaches the session in one happening,
and each happening brings at most one.  `Station.packet?` reads it off the station
and the happening before anything is done with it.

Between two packets nothing is taken in: registers, received samples and the count
of frames stay as they are, and the only thing that becomes of the ring is that the
consumer takes a burst.
-/

/-- A burst is all that the consumer takes from the ring in one step. -/
theorem Consumer.step?_ring {σ : Type} [SinkDevice σ] {consumer after : Consumer σ}
    {backoff now : Nat} {ring ringAfter : Ring} {tuned : Option UInt32}
    (stepped : consumer.step? backoff ring now = some (after, ringAfter, tuned)) :
    ringAfter = ring ∨ ringAfter = ring.read.2 := by
  cases step?_turn stepped with
  | hands | drops => exact .inr rfl
  | goesOn | takes | tunes | finishes | abandons | leaves | releases => exact .inl rfl

namespace Station

variable {σ : Type} {before middle after station : Station σ}

/-! ## What comes next -/

/-- The packet that what a client has sent begins with, if it is complete. -/
def unitPacket? (client : StreamClient) : Option (List UInt8 × Origin) :=
  (splitUnit? client.buffer).map (fun (unit, _) => (unit, .stream))

/-- The packet that a poll begins with. -/
def polledPacket? (station : Station σ) : Option (List UInt8 × Origin) :=
  if station.transport.link.attached then station.session.client.bind unitPacket? else none

/-- The packet in the datagram that waits first. -/
def receivedPacket? (station : Station σ) : Option (List UInt8 × Origin) :=
  match station.transport.network.receive? with
  | some (.ok (source, bytes), _) =>
    some (bytes.take station.session.receiveRoom, .datagram source)
  | _ => none

/-- The packet that is complete with what can be read from the client. -/
def readPacket? (station : Station σ) : Option (List UInt8 × Origin) :=
  station.session.client.bind (fun client =>
    match station.transport.network.read? client.connection with
    | some (.bytes bytes, _) => unitPacket? { client with buffer := client.buffer ++ bytes }
    | _ => none)

/-- The packet that the poll that is going on finds. -/
def resumedPacket? (station : Station σ) : Option (List UInt8 × Origin) :=
  match station.session.phase with
  | .receiving _ => station.receivedPacket?
  | .reading _ => station.readPacket?
  | _ => none

/-- The packet that the next step of the session takes in. -/
def steppedPacket? (station : Station σ) : Option (List UInt8 × Origin) :=
  match station.session.drive, station.session.phase with
  | .looping true, _ | .returned _, _ | .dropped, _ => none
  | .looping false, .resting none => station.polledPacket?
  | _, _ => station.resumedPacket?

/-- The packet that reaches the session in a happening, and where it came from. -/
def packet? (station : Station σ) : Happening σ → Option (List UInt8 × Origin)
  | .packet bytes origin => if station.isResting then some (bytes, origin) else none
  | .request .poll => station.polledPacket?
  | .step .session => station.steppedPacket?
  | _ => none

/-! ## Changes that take nothing in -/

/-- A change that takes nothing in. -/
structure Aside (before after : Station σ) : Prop where
  plan : after.plan = before.plan
  radio : after.radio = before.radio
  ring : after.path.ring = before.path.ring
  counted : after.session.stats.framesReceived = before.session.stats.framesReceived

namespace Aside

theorem refl (station : Station σ) : Aside station station :=
  ⟨rfl, rfl, rfl, rfl⟩

theorem trans (first : Aside before middle) (second : Aside middle after) : Aside before after where
  plan := second.plan.trans first.plan
  radio := second.radio.trans first.radio
  ring := second.ring.trans first.ring
  counted := second.counted.trans first.counted

theorem updateSession (aside : Aside before after) (change : Session → Session)
    (kept : (change after.session).stats.framesReceived = after.session.stats.framesReceived) :
    Aside before (after.updateSession change) :=
  aside.trans ⟨rfl, rfl, rfl, kept⟩

theorem setPhase (aside : Aside before after) (phase : SessionPhase) :
    Aside before (after.setPhase phase) :=
  aside.updateSession _ rfl

theorem rest (aside : Aside before after) : Aside before after.rest :=
  aside.setPhase _

theorem emit (aside : Aside before after) (event : Event) : Aside before (after.emit event) :=
  aside.trans ⟨rfl, rfl, rfl, rfl⟩

end Aside

theorem joinConsumer_aside (station : Station σ) : Aside station station.joinConsumer := by
  unfold joinConsumer
  split
  · exact ⟨rfl, rfl, rfl, rfl⟩
  · exact (Aside.refl station).rest

theorem afterDetach_aside (station : Station σ) (next : AfterDetach) :
    Aside station (station.afterDetach next) := by
  cases next with
  | receive => exact (Aside.refl station).setPhase _
  | rest => exact (Aside.refl station).rest
  | answered => exact (((Aside.refl station).updateSession _ rfl).emit _).rest
  | shutdown => exact station.joinConsumer_aside

theorem dropClient_aside (station : Station σ) (next : AfterDetach) :
    Aside station (station.dropClient next) := by
  unfold dropClient
  split
  · exact station.afterDetach_aside next
  · exact ⟨rfl, rfl, rfl, rfl⟩

theorem finishDetach_aside (station : Station σ) (next : AfterDetach) :
    Aside station (station.finishDetach next) := by
  have detached : Aside station { station with transport := station.transport.detach.1 } :=
    ⟨rfl, rfl, rfl, rfl⟩
  exact (detached.emit _).trans (afterDetach_aside _ next)

/-- A new generator has no part in what is taken in, and a retune none in the ring. -/
theorem startStreaming_aside (station : Station σ) (origin : Origin) :
    Aside station (station.startStreaming origin) := by
  refine Aside.rest (Aside.emit ?_ _)
  refine ⟨rfl, rfl, ?_, rfl⟩
  change (if station.session.hasConsumer then
    station.path.retune station.radio.bank.txFrequency else station.path).ring = station.path.ring
  split <;> rfl

theorem afterStop_aside (station : Station σ) (next : AfterStop) :
    Aside station (station.afterStop next) := by
  cases next with
  | start origin => exact station.startStreaming_aside origin
  | stop => exact ((Aside.refl station).updateSession _ rfl).trans (dropClient_aside _ .rest)
  | shutdown => exact station.dropClient_aside .shutdown

theorem stopGenerator_aside (station : Station σ) (next : AfterStop) :
    Aside station (station.stopGenerator next) := by
  unfold stopGenerator
  split
  · exact station.afterStop_aside next
  · exact ⟨rfl, rfl, rfl, rfl⟩

theorem finishStop_aside (station : Station σ) (outcome : StopOutcome) (next : AfterStop) :
    Aside station (station.finishStop outcome next) := by
  have noted : Aside station (station.updateSession (fun session => { session with
      lastSequence := none
      stats := { session.stats with
        forcedStops := session.stats.forcedStops + if outcome.isForced then 1 else 0 } })) :=
    (Aside.refl station).updateSession _ rfl
  exact (noted.emit _).trans (afterStop_aside _ next)

theorem abandonPhase_aside (station : Station σ) : Aside station station.abandonPhase := by
  unfold abandonPhase
  refine Aside.rest ?_
  split
  case h_5 => split <;> exact ⟨rfl, rfl, rfl, rfl⟩
  all_goals exact ⟨rfl, rfl, rfl, rfl⟩

theorem handleDiscovery_aside (station : Station σ) (origin : Origin) :
    Aside station (station.handleDiscovery origin) := by
  unfold handleDiscovery
  cases origin with
  | datagram source =>
      simp only
      split <;> exact ⟨rfl, rfl, rfl, rfl⟩
  | stream =>
      simp only
      split <;> exact ⟨rfl, rfl, rfl, rfl⟩

theorem handleMaintenance_aside (station : Station σ) (kind : MaintenanceKind)
    (packet : List UInt8) (origin : Origin) :
    Aside station (station.handleMaintenance kind packet origin) := by
  unfold handleMaintenance
  simp only
  split <;> exact ⟨rfl, rfl, rfl, rfl⟩

theorem rejectExtraClient_aside (station : Station σ) :
    Aside station station.rejectExtraClient := by
  unfold rejectExtraClient
  split <;> exact ⟨rfl, rfl, rfl, rfl⟩

theorem tryAccept_aside (station : Station σ) : Aside station station.tryAccept := by
  unfold tryAccept
  split <;> exact ⟨rfl, rfl, rfl, rfl⟩

theorem missDatagram_aside (station : Station σ) : Aside station station.missDatagram := by
  unfold missDatagram
  simp only
  split
  · exact ((Aside.refl station).updateSession _ rfl).trans (tryAccept_aside _)
  · exact ⟨rfl, rfl, rfl, rfl⟩

theorem resumeReply?_aside {call : StreamSend} (resumed : before.resumeReply? call = some after) :
    Aside before after := by
  rcases Option.map_eq_some_iff.mp resumed with ⟨⟨transport, progress⟩, _, rfl⟩
  have moved : Aside before { before with transport := transport } := ⟨rfl, rfl, rfl, rfl⟩
  cases progress with
  | waiting call => exact moved.updateSession _ rfl
  | finished outcome => exact moved.trans (dropClient_aside _ .answered)
  | crashed => exact moved.trans (dropClient_aside _ .answered)

/-! ## What is handed to the session -/

/-- A change between two packets: nothing is taken in, and no control frame has a
part in what is told. -/
structure Between (before after : Station σ) : Prop where
  aside : Aside before after
  apart : Apart before after

namespace Between

theorem refl (station : Station σ) : Between station station :=
  ⟨.refl station, .refl station⟩

theorem trans (first : Between before middle) (second : Between middle after) :
    Between before after :=
  ⟨first.aside.trans second.aside, first.apart.trans second.apart⟩

theorem updateSession (between : Between before after) (change : Session → Session)
    (kept : (change after.session).stats.framesReceived = after.session.stats.framesReceived) :
    Between before (after.updateSession change) :=
  ⟨between.aside.updateSession change kept, between.apart.updateSession change⟩

theorem setPhase (between : Between before after) (phase : SessionPhase) :
    Between before (after.setPhase phase) :=
  between.updateSession _ rfl

theorem rest (between : Between before after) : Between before after.rest :=
  between.setPhase _

theorem transport (station : Station σ) (transport : Transport) :
    Between station { station with transport := transport } :=
  ⟨⟨rfl, rfl, rfl, rfl⟩, .silent rfl rfl rfl rfl⟩

theorem dropClient (between : Between before after) (next : AfterDetach) :
    Between before (after.dropClient next) :=
  between.trans ⟨after.dropClient_aside next, after.dropClient_apart next⟩

theorem stopGenerator (between : Between before after) (next : AfterStop) :
    Between before (after.stopGenerator next) :=
  between.trans ⟨after.stopGenerator_aside next, after.stopGenerator_apart next⟩

theorem missDatagram (between : Between before after) : Between before after.missDatagram :=
  between.trans ⟨after.missDatagram_aside, after.missDatagram_apart⟩

end Between

/-- A change in which the session is handed the packet that comes next, or nothing
is taken in because none does.  What goes before the packet does not change
whether the station streams. -/
inductive Hands (before : Station σ) (packet? : Option (List UInt8 × Origin))
    (after : Station σ) : Prop where
  | none (nothing : packet? = .none) (between : Between before after)
  | packet (middle : Station σ) (bytes : List UInt8) (origin : Origin)
      (comes : packet? = .some (bytes, origin)) (between : Between before middle)
      (streaming : middle.isStreaming = before.isStreaming)
      (handed : after = middle.handlePacket bytes origin)

theorem Between.hands (between : Between before middle)
    (streaming : middle.isStreaming = before.isStreaming) (bytes : List UInt8) (origin : Origin) :
    Hands before (some (bytes, origin)) (middle.handlePacket bytes origin) :=
  .packet middle bytes origin rfl between streaming rfl

theorem takeUnit?_hands {client : StreamClient} (between : Between before middle)
    (streaming : middle.isStreaming = before.isStreaming) (otherwise : Between before after) :
    Hands before (unitPacket? client) ((middle.takeUnit? client).getD after) := by
  unfold takeUnit? unitPacket?
  cases splitUnit? client.buffer with
  | none => exact .none rfl otherwise
  | some split =>
      have cut := between.updateSession (fun session =>
        { session with client := some { client with buffer := split.2 } }) rfl
      exact cut.hands streaming split.1 .stream

theorem isStreaming_rejectExtraClient (station : Station σ) :
    station.rejectExtraClient.isStreaming = station.isStreaming := by
  unfold rejectExtraClient
  split <;> rfl

theorem beginPoll_hands (station : Station σ) :
    Hands station station.polledPacket? station.beginPoll := by
  unfold polledPacket?
  cases client : station.session.client with
  | none =>
      have received : station.beginPoll = station.receive := by rw [beginPoll, client]
      rw [received]
      exact .none (by split <;> rfl) ((Between.refl station).setPhase _)
  | some client =>
      simp only [beginPoll, client]
      split
      · have rejected : Between station station.rejectExtraClient :=
          ⟨station.rejectExtraClient_aside, station.rejectExtraClient_apart⟩
        exact takeUnit?_hands rejected station.isStreaming_rejectExtraClient (rejected.setPhase _)
      · exact .none rfl ((Between.refl station).dropClient .receive)

theorem resumeReceive?_hands (station : Station σ) (deadline : Nat) :
    Hands station station.receivedPacket? ((station.resumeReceive? deadline).getD station) := by
  unfold resumeReceive? receivedPacket?
  rcases station.transport.network.receive? with _ | ⟨fault | ⟨source, bytes⟩, network⟩
  · refine .none rfl ?_
    simp only
    split
    · exact (Between.refl station).missDatagram
    · exact .refl station
  · have moved := Between.transport station { station.transport with network := network }
    refine .none rfl ?_
    simp only
    split
    · exact moved.missDatagram
    · exact moved.setPhase _
  · have moved := Between.transport station { station.transport with network := network }
    have found := moved.updateSession (fun session => { session with emptyReads := 0 }) rfl
    exact found.hands rfl _ (.datagram source)

theorem resumeRead?_hands (station : Station σ) (deadline : Nat) :
    Hands station station.readPacket? ((station.resumeRead? deadline).getD station) := by
  unfold resumeRead? readPacket?
  rcases station.session.client with _ | client
  · exact .none rfl (Between.refl station).rest
  simp only [Option.bind_some]
  rcases station.transport.network.read? client.connection with _ | ⟨found, network⟩
  · refine .none rfl ?_
    simp only
    split
    · exact (Between.refl station).rest
    · exact .refl station
  · have moved := Between.transport station { station.transport with network := network }
    cases found with
    | bytes bytes => exact takeUnit?_hands moved rfl (moved.updateSession _ rfl).rest
    | ended => exact .none rfl (moved.dropClient .rest)
    | failed => exact .none rfl (moved.dropClient .rest)

/-- Whatever else the session waits for, nothing is taken in at its end. -/
theorem resume?_hands (station : Station σ) :
    Hands station station.resumedPacket? (station.resume?.getD station) := by
  cases phase : station.session.phase with
  | resting failure =>
      simp only [resume?, resumedPacket?, phase]
      exact .none rfl (.refl station)
  | receiving deadline =>
      simp only [resume?, resumedPacket?, phase]
      exact station.resumeReceive?_hands deadline
  | reading deadline =>
      simp only [resume?, resumedPacket?, phase]
      exact station.resumeRead?_hands deadline
  | stopping id deadline next =>
      simp only [resume?, resumedPacket?, phase]
      refine .none rfl ?_
      rcases station.pool.stopped? id deadline station.now station.transport with
        _ | ⟨outcome, pool, transport⟩
      · exact .refl station
      · have stopped : Between station { station with pool := pool, transport := transport } :=
          ⟨⟨rfl, rfl, rfl, rfl⟩, .silent rfl rfl rfl rfl⟩
        exact stopped.trans ⟨finishStop_aside _ outcome next, finishStop_apart _ outcome next⟩
  | detaching next =>
      simp only [resume?, resumedPacket?, phase]
      refine .none rfl ?_
      split
      · exact ⟨station.finishDetach_aside next, station.finishDetach_apart next⟩
      · exact .refl station
  | replying call =>
      simp only [resume?, resumedPacket?, phase]
      refine .none rfl ?_
      cases resumed : station.resumeReply? call with
      | none => exact .refl station
      | some after => exact ⟨resumeReply?_aside resumed, resumeReply?_apart resumed⟩
  | attaching id =>
      simp only [resume?, resumedPacket?, phase]
      refine .none rfl ?_
      split
      · exact ⟨⟨rfl, rfl, rfl, rfl⟩, station.finishAttach_apart id⟩
      · exact .refl station
  | joining deadline =>
      simp only [resume?, resumedPacket?, phase]
      refine .none rfl ?_
      rcases station.path.consumer.joined? deadline station.now with _ | ⟨consumer, result⟩
      · exact .refl station
      · exact ⟨⟨rfl, rfl, rfl, rfl⟩, .silent rfl rfl rfl rfl⟩

theorem abandonPhase_between (station : Station σ) : Between station station.abandonPhase :=
  ⟨station.abandonPhase_aside, station.abandonPhase_apart⟩

theorem sessionStep?_hands (station : Station σ) :
    Hands station station.steppedPacket? (station.sessionStep?.getD station) := by
  have turned : ∀ drive, Between station (station.setDrive drive) := fun _ =>
    (Between.refl station).updateSession _ rfl
  have resumed := station.resume?_hands
  cases drive : station.session.drive with
  | byHand =>
      simp only [sessionStep?, steppedPacket?, drive]
      exact resumed
  | looping cancelled =>
      cases cancelled with
      | true =>
          simp only [sessionStep?, loopStep?, steppedPacket?, drive]
          have closing : Between station (station.abandonPhase.setDrive (.closing (.ok ()))) :=
            station.abandonPhase_between.updateSession _ rfl
          exact .none rfl (closing.stopGenerator .shutdown)
      | false =>
          cases phase : station.session.phase with
          | resting failure =>
              cases failure with
              | none =>
                  simp only [sessionStep?, loopStep?, steppedPacket?, drive, phase]
                  exact station.beginPoll_hands
              | some fault =>
                  simp only [sessionStep?, loopStep?, steppedPacket?, resumedPacket?, drive, phase]
                  exact .none rfl ((turned _).stopGenerator .shutdown)
          | _ =>
              simp only [sessionStep?, loopStep?, steppedPacket?, drive, phase]
              exact resumed
  | closing result =>
      cases phase : station.session.phase with
      | resting failure =>
          simp only [sessionStep?, steppedPacket?, resumedPacket?, drive, phase]
          exact .none rfl (turned _)
      | _ =>
          simp only [sessionStep?, steppedPacket?, drive, phase]
          exact resumed
  | returned result =>
      simp only [sessionStep?, steppedPacket?, drive]
      exact .none rfl (.refl station)
  | dropped =>
      simp only [sessionStep?, steppedPacket?, drive]
      refine .none rfl ?_
      split
      · exact ⟨⟨rfl, rfl, rfl, rfl⟩, .silent rfl rfl rfl rfl⟩
      · exact .refl station

theorem apply_hands [SinkDevice σ] (station : Station σ) (request : Request σ) :
    Hands station (station.packet? (.request request)) (station.apply request) := by
  cases request with
  | poll => exact station.beginPoll_hands
  | shutdown => exact .none rfl ((Between.refl station).stopGenerator .shutdown)
  | cancel =>
      refine .none rfl ?_
      unfold apply
      simp only
      split
      · exact (Between.refl station).updateSession _ rfl
      · exact .refl station
  | drop =>
      have given : Between station.abandonPhase station.letGo :=
        ⟨⟨rfl, rfl, rfl, rfl⟩, .silent rfl rfl rfl rfl⟩
      exact .none rfl (station.abandonPhase_between.trans given)
  | _ => exact .none rfl ⟨⟨rfl, rfl, rfl, rfl⟩, .silent rfl rfl rfl rfl⟩

end Station
end VirtualRadio
