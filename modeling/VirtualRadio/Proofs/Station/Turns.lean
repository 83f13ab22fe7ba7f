import VirtualRadio.Proofs.Network.Written
import VirtualRadio.Proofs.Station.Histories
import VirtualRadio.Proofs.Station.Quiet

namespace VirtualRadio

/-!
# The turns of the session

Whatever the session does in one step, it either goes on to another poll, or it
begins or ends one of the waits in which it tears down or puts up a generator or
the stream client.  `Station.Turn` lists these; later modules go through the list
once for each property and open no handler again.

What comes before a wait in the same step is alike to what there was: the
generators, the link and the client are left alone, nothing is written, and
nothing is told of a generator or a client.
-/

/-- Whether an event tells that something was put up or torn down. -/
def Event.isOfTeardown : Event → Bool
  | started _ | stopped _ | clientAttached _ | clientDetached => true
  | _ => false

/-- Whether a session that waits so is between two packets. -/
def SessionPhase.isPlain : SessionPhase → Bool
  | resting _ | receiving _ | reading _ => true
  | _ => false

/-- Whether a stop is part of a shutdown. -/
def AfterStop.isShutdown : AfterStop → Bool
  | shutdown => true
  | _ => false

/-- Whether a detachment is part of a shutdown. -/
def AfterDetach.isShutdown : AfterDetach → Bool
  | shutdown => true
  | _ => false

/-- Whether a wait is part of a shutdown. -/
def SessionPhase.isShutdown : SessionPhase → Bool
  | stopping _ _ next => next.isShutdown
  | detaching next => next.isShutdown
  | joining _ => true
  | _ => false

/-- Whether a session waits for something. -/
def SessionPhase.waits : SessionPhase → Bool
  | resting _ => false
  | _ => true

/-- Whether the session polls. -/
def Drive.isPolling : Drive → Bool
  | byHand | looping _ => true
  | _ => false

/-- Whether the session was asked to stop its loop, and is about to give up its poll. -/
def Drive.isCancelled : Drive → Bool
  | looping cancelled => cancelled
  | _ => false

/-- Whether a session may begin a shutdown, or something else. -/
def Drive.leadsTo : Drive → Bool → Bool
  | byHand, _ => true
  | looping _, isShutdown => !isShutdown
  | closing _, isShutdown => isShutdown
  | returned _, _ | dropped, _ => false

theorem Drive.isPolling_of_leadsTo {drive : Drive} (leads : drive.leadsTo false = true) :
    drive.isPolling = true := by
  cases drive <;> simp_all [leadsTo, isPolling]

theorem Drive.leadsTo_of_isPolling {drive : Drive} (polling : drive.isPolling = true) :
    drive.leadsTo false = true := by
  cases drive <;> simp_all [leadsTo, isPolling]

/-! ## What phases go together with -/

namespace Session

/-- Whether nothing is left to shut down. -/
def IsShut (session : Session) : Prop :=
  session.client = none ∧ session.generator = none ∧ session.hasConsumer = false

/-- What a session has taken out of itself before it waits for something. -/
def FitsPhase (session : Session) : Prop :=
  match session.phase with
  | .stopping _ _ _ => session.generator = none
  | .receiving _ | .attaching _ => session.client = none
  | .detaching next =>
    session.client = none ∧ (next.isShutdown = true → session.generator = none)
  | .replying _ => session.client.isSome = true
  | .joining _ => session.IsShut
  | _ => True

/-- Who makes a session wait for what. -/
def FitsDrive (session : Session) : Prop :=
  match session.drive, session.phase with
  | .byHand, _ => True
  | .looping _, phase => phase.isShutdown = false
  | .closing _, .resting _ => session.IsShut
  | .closing _, phase => phase.isShutdown = true ∧ session.generator = none
  | .returned _, .resting _ | .dropped, .resting _ => session.IsShut
  | .returned _, _ | .dropped, _ => False

/-- A session whose parts go together. -/
structure IsComposed (session : Session) : Prop where
  phase : session.FitsPhase
  drive : session.FitsDrive

variable {session : Session}

theorem IsComposed.of_dropped (composed : session.IsComposed) (drive : session.drive = .dropped) :
    ∃ failure, session.phase = .resting failure := by
  have fits := composed.drive
  rw [FitsDrive, drive] at fits
  cases phase : session.phase <;> rw [phase] at fits
  case resting failure => exact ⟨failure, rfl⟩
  all_goals contradiction

theorem IsComposed.of_returned (composed : session.IsComposed) {result : Except Fault Unit}
    (drive : session.drive = .returned result) :
    session.IsShut ∧ ∃ failure, session.phase = .resting failure := by
  have fits := composed.drive
  rw [FitsDrive, drive] at fits
  cases phase : session.phase <;> rw [phase] at fits
  case resting failure => exact ⟨fits, failure, rfl⟩
  all_goals contradiction

/-- What may follow on a wait is what the wait was for. -/
theorem IsComposed.leadsTo (composed : session.IsComposed) {phase : SessionPhase}
    (is : session.phase = phase) (waits : phase.waits = true) :
    session.drive.leadsTo phase.isShutdown = true := by
  have fits := composed.drive
  subst is
  unfold FitsDrive at fits
  cases drive : session.drive with
  | byHand => rfl
  | looping cancelled => simp_all [Drive.leadsTo]
  | closing result =>
      cases phase : session.phase with
      | resting failure => simp [phase, SessionPhase.waits] at waits
      | _ => simp_all [Drive.leadsTo]
  | returned result =>
      rcases composed.of_returned drive with ⟨_, failure, resting⟩
      simp [resting, SessionPhase.waits] at waits
  | dropped =>
      rcases composed.of_dropped drive with ⟨failure, resting⟩
      simp [resting, SessionPhase.waits] at waits

/-- A session that waits, and not in a shutdown, polls. -/
theorem IsComposed.isPolling (composed : session.IsComposed) {phase : SessionPhase}
    (is : session.phase = phase) (polls : phase.isShutdown = false) (waits : phase.waits = true) :
    session.drive.isPolling = true := by
  have leads := composed.leadsTo is waits
  rw [polls] at leads
  exact Drive.isPolling_of_leadsTo leads

end Session

namespace Station

variable {σ : Type} {before middle after station : Station σ}

/-! ## What comes before a wait -/

/-- A change that neither puts up nor tears down anything. -/
structure Alike (before after : Station σ) : Prop where
  plan : after.plan = before.plan
  pool : after.pool = before.pool
  link : after.transport.link = before.transport.link
  network : before.transport.network.Keeps after.transport.network
  generator : after.session.generator = before.session.generator
  client : after.session.client.map StreamClient.connection =
    before.session.client.map StreamClient.connection
  hasConsumer : after.session.hasConsumer = before.session.hasConsumer
  drive : after.session.drive = before.session.drive
  consumer : after.path.consumer = before.path.consumer
  told : TellsNo Event.isOfTeardown before after

namespace Alike

/-- A change of the session alone. -/
theorem updateSession (station : Station σ) (change : Session → Session)
    (generator : (change station.session).generator = station.session.generator)
    (client : (change station.session).client.map StreamClient.connection =
      station.session.client.map StreamClient.connection)
    (hasConsumer : (change station.session).hasConsumer = station.session.hasConsumer)
    (drive : (change station.session).drive = station.session.drive) :
    Alike station (station.updateSession change) :=
  ⟨rfl, rfl, rfl, .refl _, generator, client, hasConsumer, drive, rfl, .silent rfl⟩

theorem refl (station : Station σ) : Alike station station :=
  updateSession station id rfl rfl rfl rfl

theorem trans (first : Alike before middle) (second : Alike middle after) : Alike before after where
  plan := second.plan.trans first.plan
  pool := second.pool.trans first.pool
  link := second.link.trans first.link
  network := first.network.trans second.network
  generator := second.generator.trans first.generator
  client := second.client.trans first.client
  hasConsumer := second.hasConsumer.trans first.hasConsumer
  drive := second.drive.trans first.drive
  consumer := second.consumer.trans first.consumer
  told := first.told.trans second.told

theorem sockets (station : Station σ) {network : Network}
    (keeps : station.transport.network.Keeps network) :
    Alike station { station with transport := { station.transport with network := network } } :=
  ⟨rfl, rfl, rfl, keeps, rfl, rfl, rfl, rfl, rfl, .silent rfl⟩

theorem setPhase (alike : Alike before after) (phase : SessionPhase) :
    Alike before (after.setPhase phase) :=
  alike.trans (updateSession after _ rfl rfl rfl rfl)

theorem count (alike : Alike before after) (change : SessionStats → SessionStats) :
    Alike before (after.count change) :=
  alike.trans (updateSession after _ rfl rfl rfl rfl)

theorem emit (alike : Alike before after) {event : Event} (other : event.isOfTeardown = false) :
    Alike before (after.emit event) :=
  alike.trans ⟨rfl, rfl, rfl, .refl _, rfl, rfl, rfl, rfl, rfl, .emit after other⟩

theorem note (alike : Alike before after) (call : HookCall) : Alike before (after.note call) :=
  alike.trans ⟨rfl, rfl, rfl, .refl _, rfl, rfl, rfl, rfl, rfl, .silent rfl⟩

end Alike

/-! ## Turns -/

/-- Whether the session reads next from its client, and finds that it sends no more. -/
def findsEnd (station : Station σ) : Bool :=
  !station.session.drive.isCancelled &&
    match station.session.phase, station.session.client with
    | .reading _, some client =>
      match station.transport.network.read? client.connection with
      | some (.ended, _) | some (.failed, _) => true
      | _ => false
    | _, _ => false

/-- The reply to a discovery probe over the stream. -/
def streamReply (station : Station σ) : List UInt8 :=
  discoveryReply station.plan.profile station.plan.mac false

/-- What the session does in one step. -/
inductive Turn (before : Station σ) : Station σ → Prop
  /-- It takes in what puts up and tears down nothing. -/
  | poll (after : Station σ) (alike : Alike before after)
      (polling : before.session.drive.isPolling = true)
      (plain : before.session.phase.isPlain = true)
      (plainAfter : after.session.phase.isPlain = true)
      (receives : ∀ deadline, after.session.phase = .receiving deadline →
        after.session.client = none) : Turn before after
  /-- The stream client is lost. -/
  | lose (middle : Station σ) (next : AfterDetach) (alike : Alike before middle)
      (polling : before.session.drive.isPolling = true)
      (plain : before.session.phase.isPlain = true)
      (cause : next = .receive ∧ before.transport.link.attached = false ∨
        next = .rest ∧ before.findsEnd = true) : Turn before (middle.dropClient next)
  /-- A start or stop packet comes, or the owner asks for a shutdown. -/
  | stop (middle : Station σ) (next : AfterStop) (alike : Alike before middle)
      (polling : before.session.drive.isPolling = true)
      (plain : before.session.phase.isPlain = true)
      (asked : next = .shutdown → before.session.drive = .byHand) :
      Turn before (middle.stopGenerator next)
  /-- A discovery probe comes over the stream. -/
  | reply (middle : Station σ) (alike : Alike before middle)
      (polling : before.session.drive.isPolling = true)
      (plain : before.session.phase.isPlain = true)
      (client : before.session.client.isSome = true) (silent : before.isStreaming = false) :
      Turn before ({ middle with transport := middle.transport.acquire .session }.setPhase
        (.replying (.locking middle.streamReply)))
  /-- A connection comes. -/
  | accept (middle : Station σ) (id : Nat) (network : Network) (alike : Alike before middle)
      (polling : before.session.drive.isPolling = true)
      (plain : before.session.phase.isPlain = true) (client : before.session.client = none)
      (accepts : middle.transport.network.accept? = some (.ok id, network)) :
      Turn before ({ middle with
          transport := { middle.transport with network := network }.acquire .session }.setPhase
        (.attaching id))
  | finishStop (id deadline : Nat) (next : AfterStop) (outcome : StopOutcome)
      (pool : GeneratorPool StreamSend) (transport : Transport)
      (phase : before.session.phase = .stopping id deadline next)
      (stopped : before.pool.stopped? id deadline before.now before.transport =
        some (outcome, pool, transport)) (heeds : before.session.drive.isCancelled = false) :
      Turn before ({ before with pool := pool, transport := transport }.finishStop outcome next)
  | finishDetach (next : AfterDetach) (phase : before.session.phase = .detaching next)
      (held : before.transport.isHeldBy .session = true) : Turn before (before.finishDetach next)
  | writeOn (call rest : StreamSend) (transport : Transport)
      (phase : before.session.phase = .replying call)
      (resumed : before.transport.resumeStream? .session call = some (transport, .waiting rest)) :
      Turn before ({ before with transport := transport }.setPhase (.replying rest))
  | finishReply (call : StreamSend) (transport : Transport) (progress : SendProgress StreamSend)
      (phase : before.session.phase = .replying call)
      (resumed : before.transport.resumeStream? .session call = some (transport, progress))
      (ended : ∀ rest, progress ≠ .waiting rest) :
      Turn before ({ before with transport := transport }.dropClient .answered)
  | finishAttach (id : Nat) (phase : before.session.phase = .attaching id)
      (held : before.transport.isHeldBy .session = true) : Turn before (before.finishAttach id)
  | finishJoin (deadline : Nat) (consumer : Consumer σ) (result : Except Fault (Nat × Nat))
      (phase : before.session.phase = .joining deadline)
      (joined : before.path.consumer.joined? deadline before.now = some (consumer, result)) :
      Turn before ({ before with path := { before.path with consumer := consumer.close } }.rest)
  /-- The loop was asked to stop, and gives up what it waits for. -/
  | giveUp (drive : before.session.drive = .looping true) :
      Turn before (before.abandonPhase.setDrive (.closing (.ok ()))).shutdown
  /-- A poll of the loop has failed. -/
  | fail (fault : Fault) (drive : before.session.drive = .looping false)
      (phase : before.session.phase = .resting (some fault)) :
      Turn before (before.setDrive (.closing (.error fault))).shutdown
  | finish (result : Except Fault Unit) (failure : Option Fault)
      (drive : before.session.drive = .closing result)
      (phase : before.session.phase = .resting failure) :
      Turn before (before.setDrive (.returned result))
  /-- The last of the generators that were let go is over. -/
  | vanish (drive : before.session.drive = .dropped) (idle : before.pool.isIdle = true) :
      Turn before { before with transport := before.transport.dropWriter }

theorem Alike.isStreaming (alike : Alike before after) :
    after.isStreaming = before.isStreaming := by
  rw [Station.isStreaming, alike.pool, alike.generator, Station.isStreaming]

/-- A poll may end wherever it came to. -/
theorem Alike.rests (alike : Alike before after) (polling : before.session.drive.isPolling = true)
    (plain : before.session.phase.isPlain = true) (failure : Option Fault) :
    Turn before (after.setPhase (.resting failure)) :=
  .poll _ (alike.setPhase _) polling plain rfl fun _ waits => nomatch waits

/-! ## Packets -/

theorem followSequence_alike (station : Station σ) (sequence : UInt32) :
    Alike station (station.followSequence sequence) := by
  unfold followSequence
  refine Alike.trans ?_ (.updateSession _ _ rfl rfl rfl rfl)
  split
  · exact .refl station
  · split
    · exact .refl station
    · exact ((Alike.refl station).count _).emit rfl

theorem reportChange_alike (station : Station σ) (change : RegisterChange) :
    Alike station (station.reportChange change) := by
  unfold reportChange selectFilter
  refine Alike.emit ?_ rfl
  split
  · split
    · exact ((Alike.refl station).note _).emit rfl
    · exact .refl station
  · exact .refl station

theorem reportChanges_alike (station : Station σ) (changes : List RegisterChange) :
    Alike station (changes.foldl reportChange station) := by
  induction changes generalizing station with
  | nil => exact .refl station
  | cons change changes ih => exact (station.reportChange_alike change).trans (ih _)

theorem takeSamples_alike (station : Station σ) (frame : List UInt8) :
    Alike station (station.takeSamples frame) := by
  rcases station.takeSamples_eq_ring frame with ⟨ring, taken⟩
  rw [taken]
  exact ⟨rfl, rfl, rfl, .refl _, rfl, rfl, rfl, rfl, rfl, .silent rfl⟩

theorem handleControl_alike (station : Station σ) (frame : List UInt8) (sequence : UInt32) :
    Alike station (station.handleControl frame sequence) := by
  have followed := station.followSequence_alike sequence
  unfold handleControl
  simp only
  split
  · exact followed
  · next radio changes _ =>
      have decoded : Alike (station.followSequence sequence)
          { station.followSequence sequence with radio := radio } :=
        ⟨rfl, rfl, rfl, .refl _, rfl, rfl, rfl, rfl, rfl, .silent rfl⟩
      exact ((followed.trans decoded).trans (reportChanges_alike _ changes)).trans
        (takeSamples_alike _ frame)

/-- A datagram goes out whether or not anything streams. -/
theorem sendDatagram_alike (station : Station σ) (bytes : List UInt8) (target : SocketAddress) :
    Alike station
      { station with transport := (station.transport.sendDatagram bytes target).1 } := by
  unfold Transport.sendDatagram
  cases sent : station.transport.network.send bytes target with
  | error fault => exact .refl station
  | ok network => exact .sockets station (.send sent)

theorem handleDiscovery_turn (alike : Alike before middle)
    (polling : before.session.drive.isPolling = true)
    (plain : before.session.phase.isPlain = true) {origin : Origin}
    (sender : origin = .stream → before.session.client.isSome = true) :
    Turn before (middle.handleDiscovery origin) := by
  unfold handleDiscovery
  cases origin with
  | datagram source =>
      have sent := alike.trans (middle.sendDatagram_alike
        (discoveryReply middle.plan.profile middle.plan.mac middle.isStreaming) source)
      simp only
      split
      · exact sent.rests polling plain none
      · exact ((sent.count _).emit rfl).rests polling plain none
  | stream =>
      cases streaming : middle.isStreaming with
      | true => exact alike.rests polling plain none
      | false =>
          refine .reply middle alike polling plain (sender rfl) ?_
          rw [← alike.isStreaming, streaming]

theorem handlePacket_turn (alike : Alike before middle)
    (polling : before.session.drive.isPolling = true)
    (plain : before.session.phase.isPlain = true) (packet : List UInt8) {origin : Origin}
    (sender : origin = .stream → before.session.client.isSome = true) :
    Turn before (middle.handlePacket packet origin) := by
  unfold handlePacket
  split
  · exact ((alike.count _).emit rfl).rests polling plain none
  · exact (alike.trans (middle.handleControl_alike packet _)).rests polling plain none
  · exact handleDiscovery_turn alike polling plain sender
  · exact .stop middle _ alike polling plain fun asked => nomatch asked
  · exact .stop _ .stop (alike.count _) polling plain fun asked => nomatch asked
  · next kind _ =>
      have noted := alike.note (.maintenance kind packet)
      unfold handleMaintenance
      simp only
      split
      · exact (noted.trans (sendDatagram_alike _ _ _)).rests polling plain none
      · exact noted.rests polling plain none

/-! ## Polls -/

theorem takeUnit?_turn {client : StreamClient} (alike : Alike before middle)
    (polling : before.session.drive.isPolling = true)
    (plain : before.session.phase.isPlain = true)
    (attached : middle.session.client.map StreamClient.connection = some client.connection)
    (otherwise : Turn before after) : Turn before ((middle.takeUnit? client).getD after) := by
  unfold takeUnit?
  cases splitUnit? client.buffer with
  | none => exact otherwise
  | some split =>
      have cut : Alike middle (middle.updateSession fun session =>
          { session with client := some { client with buffer := split.2 } }) :=
        .updateSession middle _ rfl attached.symm rfl rfl
      refine handlePacket_turn (alike.trans cut) polling plain split.1 fun _ => ?_
      rw [alike.client, Option.map_eq_some_iff] at attached
      rcases attached with ⟨other, found, _⟩
      rw [found]
      rfl

theorem rejectExtraClient_alike (station : Station σ) :
    Alike station station.rejectExtraClient := by
  unfold rejectExtraClient
  split
  · exact .refl station
  · next accepts => exact .sockets station (Network.accept?_keeps accepts)
  · next id network accepts =>
      have closed := (Network.accept?_keeps accepts).trans (.close network id)
      exact (Alike.sockets station closed).count _

theorem beginPoll_turn (station : Station σ) (polling : station.session.drive.isPolling = true)
    (plain : station.session.phase.isPlain = true) : Turn station station.beginPoll := by
  cases client : station.session.client with
  | none =>
      simp only [beginPoll, client]
      exact .poll _ ((Alike.refl station).setPhase _) polling plain rfl fun _ _ => client
  | some attached =>
      simp only [beginPoll, client]
      split
      · have rejected := station.rejectExtraClient_alike
        refine takeUnit?_turn rejected polling plain ?_ ?_
        · rw [rejected.client, client, Option.map_some]
        · exact .poll _ (rejected.setPhase _) polling plain rfl fun _ waits => nomatch waits
      · next lost =>
          exact .lose station .receive (.refl station) polling plain
            (.inl ⟨rfl, Bool.eq_false_iff.mpr lost⟩)

theorem missDatagram_turn (alike : Alike before middle)
    (polling : before.session.drive.isPolling = true)
    (plain : before.session.phase.isPlain = true) (client : before.session.client = none) :
    Turn before middle.missDatagram := by
  have counted : ∀ misses, Alike before
      (middle.updateSession fun session => { session with emptyReads := misses }) := fun misses =>
    alike.trans (.updateSession middle _ rfl rfl rfl rfl)
  unfold missDatagram
  simp only
  split
  · unfold tryAccept
    split
    · exact (counted 0).rests polling plain none
    · next accepts =>
        exact ((counted 0).trans (.sockets _ (Network.accept?_keeps accepts))).rests polling plain
          none
    · next id network accepts =>
        exact .accept _ id network (counted 0) polling plain client accepts
  · exact (counted _).rests polling plain none

theorem resumeReceive?_turn {deadline : Nat} (polling : before.session.drive.isPolling = true)
    (phase : before.session.phase = .receiving deadline) (client : before.session.client = none)
    (resumed : before.resumeReceive? deadline = some after) : Turn before after := by
  have plain : before.session.phase.isPlain = true := by rw [phase]; rfl
  unfold resumeReceive? at resumed
  split at resumed
  · split at resumed
    · cases resumed
      exact missDatagram_turn (.refl before) polling plain client
    · contradiction
  · next received network receives =>
      have moved := Alike.sockets before (Network.Keeps.receive? receives)
      simp only at resumed
      split at resumed
      · cases resumed
        refine handlePacket_turn (moved.trans ?_) polling plain _ fun stream => nomatch stream
        exact .updateSession _ _ rfl rfl rfl rfl
      · split at resumed
        · cases resumed
          exact missDatagram_turn moved polling plain client
        · cases resumed
          exact moved.rests polling plain _

theorem resumeRead?_turn {deadline : Nat} (polling : before.session.drive.isPolling = true)
    (heeds : before.session.drive.isCancelled = false)
    (phase : before.session.phase = .reading deadline)
    (resumed : before.resumeRead? deadline = some after) : Turn before after := by
  have plain : before.session.phase.isPlain = true := by rw [phase]; rfl
  unfold resumeRead? at resumed
  split at resumed
  · cases resumed
    exact (Alike.refl before).rests polling plain none
  · next client attached =>
      split at resumed
      · split at resumed
        · cases resumed
          exact (Alike.refl before).rests polling plain none
        · contradiction
      · next found network reads =>
          have moved := Alike.sockets before (Network.Keeps.read? reads)
          have ends : ∀ {found}, before.transport.network.read? client.connection =
              some (found, network) → found = .ended ∨ found = .failed →
              before.findsEnd = true := by
            intro found reads finds
            unfold findsEnd
            rw [phase, attached, heeds]
            rcases finds with rfl | rfl <;> simp [reads]
          simp only at resumed
          split at resumed
          · next bytes =>
              cases resumed
              refine takeUnit?_turn moved polling plain (by rw [attached]; rfl) ?_
              refine Alike.rests (moved.trans ?_) polling plain none
              exact .updateSession _ _ rfl (by rw [attached]; rfl) rfl rfl
          · cases resumed
            exact .lose _ .rest moved polling plain (.inr ⟨rfl, ends reads (.inl rfl)⟩)
          · cases resumed
            exact .lose _ .rest moved polling plain (.inr ⟨rfl, ends reads (.inr rfl)⟩)

theorem resume?_turn (composed : before.session.IsComposed)
    (heeds : before.session.drive.isCancelled = false) (resumed : before.resume? = some after) :
    Turn before after := by
  unfold resume? at resumed
  cases phase : before.session.phase with
  | resting failure =>
      rw [phase] at resumed
      contradiction
  | receiving deadline =>
      rw [phase] at resumed
      have polling := composed.isPolling phase rfl rfl
      have client := composed.phase
      rw [Session.FitsPhase, phase] at client
      exact resumeReceive?_turn polling phase client resumed
  | reading deadline =>
      rw [phase] at resumed
      have polling := composed.isPolling phase rfl rfl
      exact resumeRead?_turn polling heeds phase resumed
  | stopping id deadline next =>
      rw [phase] at resumed
      rcases Option.map_eq_some_iff.mp resumed with ⟨⟨outcome, pool, transport⟩, stopped, rfl⟩
      exact .finishStop id deadline next outcome pool transport phase stopped heeds
  | detaching next =>
      simp only [phase, Option.ite_none_right_eq_some, Option.some.injEq] at resumed
      rw [← resumed.2]
      exact .finishDetach next phase resumed.1
  | replying call =>
      rw [phase] at resumed
      rcases Option.map_eq_some_iff.mp resumed with ⟨⟨transport, progress⟩, moved, rfl⟩
      cases progress with
      | waiting rest => exact .writeOn call rest transport phase moved
      | finished outcome => exact .finishReply call transport _ phase moved nofun
      | crashed => exact .finishReply call transport _ phase moved nofun
  | attaching id =>
      simp only [phase, Option.ite_none_right_eq_some, Option.some.injEq] at resumed
      rw [← resumed.2]
      exact .finishAttach id phase resumed.1
  | joining deadline =>
      rw [phase] at resumed
      rcases Option.map_eq_some_iff.mp resumed with ⟨⟨consumer, result⟩, joined, rfl⟩
      exact .finishJoin deadline consumer result phase joined

/-- A step of the session is one of its turns. -/
theorem sessionStep?_turn (composed : before.session.IsComposed)
    (stepped : before.sessionStep? = some after) : Turn before after := by
  unfold sessionStep? at stepped
  cases drive : before.session.drive with
  | byHand =>
      rw [drive] at stepped
      exact resume?_turn composed (by rw [drive]; rfl) stepped
  | looping cancelled =>
      simp only [drive, loopStep?] at stepped
      cases cancelled with
      | true =>
          cases stepped
          exact .giveUp drive
      | false =>
          have polling : before.session.drive.isPolling = true := by rw [drive]; rfl
          rw [if_neg Bool.false_ne_true] at stepped
          split at stepped
          · next phase =>
              cases stepped
              exact before.beginPoll_turn polling (by rw [phase]; rfl)
          · next fault phase =>
              cases stepped
              exact .fail fault drive phase
          · exact resume?_turn composed (by rw [drive]; rfl) stepped
  | closing result =>
      simp only [drive] at stepped
      split at stepped
      · next failure phase =>
          cases stepped
          exact .finish result failure drive phase
      · exact resume?_turn composed (by rw [drive]; rfl) stepped
  | returned result =>
      rw [drive] at stepped
      contradiction
  | dropped =>
      simp only [drive, Option.ite_none_right_eq_some, Option.some.injEq, Bool.and_eq_true]
        at stepped
      rw [← stepped.2]
      exact .vanish drive stepped.1.2

/-! ## Everything that may happen -/

/-- A change in which the session, the generators and the link have no part. -/
structure Beside (before after : Station σ) : Prop where
  plan : after.plan = before.plan
  transport : after.transport = before.transport
  pool : after.pool = before.pool
  session : after.session = before.session
  ended : before.path.consumer.isOver = true → after.path.consumer.isOver = true
  told : TellsNo Event.isOfTeardown before after

theorem Beside.refl (station : Station σ) : Beside station station :=
  ⟨rfl, rfl, rfl, rfl, id, .silent rfl⟩

/-- What a station does in one happening that is permitted. -/
inductive Act (before : Station σ) : Happening σ → Station σ → Prop
  /-- The session makes a step by itself, or its owner makes it begin. -/
  | turn (happening : Happening σ) (after : Station σ) (turn : Turn before after)
      (made : happening = .step .session ∨
        before.session.drive = .byHand ∧ before.isResting = true) : Act before happening after
  | run (drive : before.session.drive = .byHand) (resting : before.isResting = true) :
      Act before (.request .run) (before.setDrive (.looping false)).rest
  | cancel (cancelled : Bool) (drive : before.session.drive = .looping cancelled) :
      Act before (.request .cancel) (before.setDrive (.looping true))
  | reclaim (result : Except Fault Unit) (drive : before.session.drive = .returned result) :
      Act before (.request .reclaim) (before.setDrive .byHand)
  | letGo : Act before (.request .drop) before.letGo
  | outside (event : NetworkEvent) : Act before (.request (.network event))
      { before with transport := before.transport.apply event }
  | generator (id : Nat) (pool : GeneratorPool StreamSend) (transport : Transport)
      (stepped : before.pool.step? id before.radio.bank before.now before.transport =
        some (pool, transport)) :
      Act before (.step (.generator id)) { before with pool := pool, transport := transport }
  /-- The consumer goes on, or only the clock, the queue of the tasks or the sink
  changes. -/
  | aside (happening : Happening σ) (after : Station σ) (beside : Beside before after) :
      Act before happening after

theorem isOver_of_step? [SinkDevice σ] {consumer after : Consumer σ} {backoff now : Nat}
    {ring ringAfter : Ring} {tuned : Option UInt32}
    (stepped : consumer.step? backoff ring now = some (after, ringAfter, tuned)) :
    consumer.isOver = false := by
  unfold Consumer.step? at stepped
  unfold Consumer.isOver
  split at stepped
  case h_8 => contradiction
  case h_9 => contradiction
  all_goals simp_all

theorem byHand_of_isOwnersTurn (own : station.isOwnersTurn = true) :
    station.session.drive = .byHand := by
  unfold isOwnersTurn at own
  split at own
  · assumption
  · contradiction

theorem returned_of_hasReturned (returned : station.hasReturned = true) :
    ∃ result, station.session.drive = .returned result := by
  unfold hasReturned at returned
  split at returned
  · exact ⟨_, by assumption⟩
  · contradiction

theorem isPlain_of_isResting (resting : station.isResting = true) :
    station.session.phase.isPlain = true := by
  unfold isResting at resting
  split at resting
  · next phase => rw [phase]; rfl
  · contradiction

variable [SinkDevice σ]

theorem consumer_beside (station : Station σ) :
    Beside station ((step? .consumer station).getD station) := by
  cases stepped : station.path.step? station.now with
  | none =>
      simp only [step?, stepped]
      exact .refl station
  | some made =>
      rcases made with ⟨path, tuned⟩
      rcases Option.map_eq_some_iff.mp stepped with ⟨⟨consumer, ring, heard⟩, taken, _⟩
      have alive := isOver_of_step? taken
      have ended : station.path.consumer.isOver = true → path.consumer.isOver = true := fun was =>
        absurd was (by rw [alive]; exact Bool.false_ne_true)
      have moved : Beside station { station with path := path } :=
        ⟨rfl, rfl, rfl, rfl, ended, .silent rfl⟩
      simp only [step?, stepped]
      cases tuned with
      | none => exact moved
      | some hertz => exact { moved with told := moved.told.trans (.emit _ rfl) }

/-- Whatever is permitted to happen is one of the acts. -/
theorem happen_act (composed : station.session.IsComposed) (happening : Happening σ)
    (permitted : station.permits happening = true) :
    Act station happening (station.happen happening) := by
  cases happening with
  | packet bytes origin => contradiction
  | transport change => contradiction
  | requeue task => exact .aside _ _ ⟨rfl, rfl, rfl, rfl, id, .silent rfl⟩
  | wait millis => exact .aside _ _ ⟨rfl, rfl, rfl, rfl, id, .silent rfl⟩
  | step task =>
      rw [happen]
      cases task with
      | session =>
          cases stepped : step? .session station with
          | none => exact .aside _ _ (.refl station)
          | some after => exact .turn _ after (sessionStep?_turn composed stepped) (.inl rfl)
      | consumer => exact .aside _ _ station.consumer_beside
      | generator id =>
          cases stepped : station.pool.step? id station.radio.bank station.now station.transport with
          | none =>
              simp only [step?, stepped]
              exact .aside _ _ (.refl station)
          | some moved =>
              simp only [step?, stepped]
              exact .generator id moved.1 moved.2 stepped
  | request request =>
      cases request with
      | network event => exact .outside event
      | sink change => exact .aside _ _ ⟨rfl, rfl, rfl, rfl, id, .silent rfl⟩
      | drop => exact .letGo
      | cancel =>
          simp only [happen, apply]
          split
          · next cancelled drive => exact .cancel cancelled drive
          · exact .aside _ _ (.refl station)
      | reclaim =>
          rcases returned_of_hasReturned permitted with ⟨result, drive⟩
          exact .reclaim result drive
      | poll =>
          have both := Bool.and_eq_true_iff.mp permitted
          have drive := byHand_of_isOwnersTurn both.1
          refine .turn _ _ (station.beginPoll_turn ?_ (isPlain_of_isResting both.2))
            (.inr ⟨drive, both.2⟩)
          rw [drive]
          rfl
      | shutdown =>
          have both := Bool.and_eq_true_iff.mp permitted
          have drive := byHand_of_isOwnersTurn both.1
          refine .turn _ _ (.stop station .shutdown (.refl station) ?_
            (isPlain_of_isResting both.2) fun _ => drive) (.inr ⟨drive, both.2⟩)
          rw [drive]
          rfl
      | run =>
          have both := Bool.and_eq_true_iff.mp permitted
          exact .run (byHand_of_isOwnersTurn both.1) both.2

end Station
end VirtualRadio
