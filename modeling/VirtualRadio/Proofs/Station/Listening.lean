import VirtualRadio.Proofs.Generator.Sends
import VirtualRadio.Proofs.Network.Queues
import VirtualRadio.Proofs.Station.Phases

namespace VirtualRadio

/-!
# What is taken off the sockets

Datagrams and connections wait at the sockets until the session takes them.  It takes
a datagram only in a poll that waits for one.  It takes a connection at the begin of
a poll with a client, to refuse it, and at the end of a poll without a datagram, if
that is one too many in a row, to make it the client.  Nothing else has a part in
what waits, or in the count of polls without a datagram.
-/

namespace Station

variable {σ : Type} {before middle after station : Station σ}

/-- A change that has no part in what waits at the sockets, nor in the count of polls
without a datagram. -/
structure Deaf (before after : Station σ) : Prop where
  queues : before.transport.network.SameQueues after.transport.network
  emptyReads : after.session.emptyReads = before.session.emptyReads

namespace Deaf

theorem refl (station : Station σ) : Deaf station station :=
  ⟨.refl _, rfl⟩

theorem trans (first : Deaf before middle) (second : Deaf middle after) : Deaf before after :=
  ⟨first.queues.trans second.queues, second.emptyReads.trans first.emptyReads⟩

/-- A change that leaves the sockets and the session's count as they are. -/
theorem silent (network : after.transport.network = before.transport.network)
    (emptyReads : after.session.emptyReads = before.session.emptyReads) : Deaf before after :=
  ⟨by rw [network]; exact .refl _, emptyReads⟩

end Deaf

/-! ## Teardown -/

theorem joinConsumer_deaf (station : Station σ) : Deaf station station.joinConsumer := by
  unfold joinConsumer
  split <;> exact .silent rfl rfl

theorem afterDetach_deaf (station : Station σ) (next : AfterDetach) :
    Deaf station (station.afterDetach next) := by
  cases next with
  | shutdown => exact station.joinConsumer_deaf
  | _ => exact .silent rfl rfl

theorem dropClient_deaf (station : Station σ) (next : AfterDetach) :
    Deaf station (station.dropClient next) := by
  unfold dropClient
  split
  · exact station.afterDetach_deaf next
  · exact .silent rfl rfl

theorem finishDetach_deaf (station : Station σ) (next : AfterDetach) :
    Deaf station (station.finishDetach next) := by
  have detached : Deaf station
      ({ station with transport := station.transport.detach.1 }.emit .clientDetached) :=
    ⟨station.transport.release.dropWriter_sameQueues, rfl⟩
  exact detached.trans (afterDetach_deaf _ next)

theorem afterStop_deaf (station : Station σ) (next : AfterStop) :
    Deaf station (station.afterStop next) := by
  cases next with
  | start origin => exact .silent rfl rfl
  | stop =>
      have forgets : Deaf station
          (station.updateSession fun session => { session with lastSequence := none }) :=
        .silent rfl rfl
      exact forgets.trans (dropClient_deaf _ .rest)
  | shutdown => exact station.dropClient_deaf .shutdown

theorem stopGenerator_deaf (station : Station σ) (next : AfterStop) :
    Deaf station (station.stopGenerator next) := by
  unfold stopGenerator
  split
  · exact station.afterStop_deaf next
  · exact .silent rfl rfl

theorem finishStop_deaf {id deadline : Nat} {outcome : StopOutcome}
    {pool : GeneratorPool StreamSend} {transport : Transport}
    (stopped : station.pool.stopped? id deadline station.now station.transport =
      some (outcome, pool, transport)) (next : AfterStop) :
    Deaf station
      ({ station with pool := pool, transport := transport }.finishStop outcome next) := by
  have network : transport.network = station.transport.network := by
    rcases GeneratorPool.stopped?_transport stopped with rfl | rfl <;> rfl
  unfold finishStop
  refine Deaf.trans ?_ (afterStop_deaf _ next)
  exact .silent network rfl

theorem finishAttach_deaf (station : Station σ) (id : Nat) :
    Deaf station (station.finishAttach id) :=
  ⟨station.transport.dropWriter_sameQueues, rfl⟩

theorem abandonPhase_deaf (station : Station σ) : Deaf station station.abandonPhase := by
  unfold abandonPhase
  split
  case h_5 => split <;> exact .silent rfl rfl
  case h_8 id phase => exact ⟨.close _ id, rfl⟩
  all_goals exact .silent rfl rfl

/-! ## Packets -/

theorem sendDatagram_deaf (station : Station σ) (bytes : List UInt8) (target : SocketAddress) :
    Deaf station
      { station with transport := (station.transport.sendDatagram bytes target).1 } :=
  ⟨station.transport.sendDatagram_sameQueues bytes target, rfl⟩

theorem followSequence_deaf (station : Station σ) (sequence : UInt32) :
    Deaf station (station.followSequence sequence) := by
  unfold followSequence
  cases station.session.lastSequence with
  | none => exact .silent rfl rfl
  | some previous =>
      simp only
      split <;> exact .silent rfl rfl

theorem reportChanges_deaf (station : Station σ) (changes : List RegisterChange) :
    Deaf station (changes.foldl reportChange station) := by
  have one : ∀ (station : Station σ) change, Deaf station (station.reportChange change) := by
    intro station change
    unfold reportChange selectFilter
    split
    · split <;> exact .silent rfl rfl
    · exact .silent rfl rfl
  induction changes generalizing station with
  | nil => exact .refl station
  | cons change changes ih => exact (one station change).trans (ih _)

theorem takeSamples_deaf (station : Station σ) (frame : List UInt8) :
    Deaf station (station.takeSamples frame) := by
  rcases station.takeSamples_eq_ring frame with ⟨ring, taken⟩
  rw [taken]
  exact .silent rfl rfl

theorem handleControl_deaf (station : Station σ) (frame : List UInt8) (sequence : UInt32) :
    Deaf station (station.handleControl frame sequence) := by
  have followed := station.followSequence_deaf sequence
  unfold handleControl
  simp only
  split
  · exact followed
  · next radio changes _ =>
      have decoded : Deaf station { station.followSequence sequence with radio := radio } :=
        followed.trans (.silent rfl rfl)
      exact (decoded.trans (reportChanges_deaf _ changes)).trans (takeSamples_deaf _ frame)

theorem handleDiscovery_deaf (station : Station σ) (origin : Origin) :
    Deaf station (station.handleDiscovery origin) := by
  unfold handleDiscovery
  cases origin with
  | datagram source =>
      have sent := station.sendDatagram_deaf
        (discoveryReply station.plan.profile station.plan.mac station.isStreaming) source
      simp only
      split
      · exact sent.trans (.silent rfl rfl)
      · exact sent.trans (.silent rfl rfl)
  | stream =>
      simp only
      split <;> exact .silent rfl rfl

theorem handleMaintenance_deaf (station : Station σ) (kind : MaintenanceKind)
    (packet : List UInt8) (origin : Origin) :
    Deaf station (station.handleMaintenance kind packet origin) := by
  unfold handleMaintenance
  simp only
  split
  · next reply source _ =>
      have noted : Deaf station (station.note (.maintenance kind packet)) := .silent rfl rfl
      exact (noted.trans (sendDatagram_deaf _ reply source)).trans (.silent rfl rfl)
  · exact .silent rfl rfl

theorem handlePacket_deaf (station : Station σ) (packet : List UInt8) (origin : Origin) :
    Deaf station (station.handlePacket packet origin) := by
  unfold handlePacket
  split
  · exact .silent rfl rfl
  · exact (station.handleControl_deaf packet _).trans (.silent rfl rfl)
  · exact station.handleDiscovery_deaf origin
  · exact station.stopGenerator_deaf _
  · have counted : Deaf station (station.count fun stats =>
        { stats with stops := stats.stops + 1 }) := .silent rfl rfl
    exact counted.trans (stopGenerator_deaf _ .stop)
  · exact station.handleMaintenance_deaf _ packet origin

theorem takeUnit?_deaf {client : StreamClient} (otherwise : Deaf station after) :
    Deaf station ((station.takeUnit? client).getD after) := by
  unfold takeUnit?
  cases splitUnit? client.buffer with
  | none => exact otherwise
  | some split =>
      have cut : Deaf station (station.updateSession fun session =>
          { session with client := some { client with buffer := split.2 } }) := .silent rfl rfl
      exact cut.trans (handlePacket_deaf _ split.1 .stream)

/-! ## Waits -/

theorem resumeRead?_deaf {deadline : Nat} (resumed : before.resumeRead? deadline = some after) :
    Deaf before after := by
  unfold resumeRead? at resumed
  cases attached : before.session.client with
  | none =>
      simp only [attached, Option.some.injEq] at resumed
      rw [← resumed]
      exact .silent rfl rfl
  | some client =>
      simp only [attached] at resumed
      cases reads : before.transport.network.read? client.connection with
      | none =>
          simp only [reads, Option.ite_none_right_eq_some, Option.some.injEq] at resumed
          rw [← resumed.2]
          exact .silent rfl rfl
      | some read =>
          rcases read with ⟨found, network⟩
          have moved : Deaf before
              { before with transport := { before.transport with network := network } } :=
            ⟨.read? reads, rfl⟩
          rw [reads] at resumed
          simp only at resumed
          split at resumed
          · cases resumed
            exact moved.trans (takeUnit?_deaf (.silent rfl rfl))
          · cases resumed
            exact moved.trans (dropClient_deaf _ .rest)
          · cases resumed
            exact moved.trans (dropClient_deaf _ .rest)

theorem resumeReply?_deaf {call : StreamSend} (resumed : before.resumeReply? call = some after) :
    Deaf before after := by
  rcases Option.map_eq_some_iff.mp resumed with ⟨⟨transport, progress⟩, goesOn, rfl⟩
  rcases Transport.resumeStream?_eq_some goesOn with ⟨bytes, _, writes⟩
  have moved : Deaf before { before with transport := transport } := ⟨writes.sameQueues, rfl⟩
  cases progress with
  | waiting rest => exact moved.trans (.silent rfl rfl)
  | finished outcome => exact moved.trans (dropClient_deaf _ .answered)
  | crashed => exact moved.trans (dropClient_deaf _ .answered)

/-! ## What the session takes -/

/-- Whether a client would be there at the begin of a poll. -/
def isAttended (station : Station σ) : Bool :=
  station.session.client.isSome && station.transport.link.attached

/-- Whether a poll begins with a client. -/
def attends (station : Station σ) : Happening σ → Bool
  | .request .poll => station.isAttended
  | .step .session =>
    match station.session.drive, station.session.phase with
    | .looping false, .resting none => station.isAttended
    | _, _ => false
  | _ => false

/-- Whether the session waits for a datagram and looks for one. -/
def listens (station : Station σ) : Happening σ → Bool
  | .step .session =>
    !station.session.drive.isCancelled &&
      match station.session.phase with
      | .receiving _ => true
      | _ => false
  | _ => false

/-- Whether a wait for a datagram that began at some time is over without one. -/
def missesAt (station : Station σ) (deadline : Nat) : Bool :=
  match station.transport.network.datagrams with
  | [] => Clock.isDue deadline station.now
  | .error fault :: _ => fault.kind.isTransient
  | .ok _ :: _ => false

/-- Whether a poll ends without a datagram. -/
def misses (station : Station σ) (happening : Happening σ) : Bool :=
  station.listens happening &&
    match station.session.phase with
    | .receiving deadline => station.missesAt deadline
    | _ => false

/-- Whether a poll takes a datagram. -/
def hears (station : Station σ) (happening : Happening σ) : Bool :=
  station.listens happening &&
    match station.transport.network.datagrams with
    | .ok _ :: _ => true
    | _ => false

/-- The number of polls in a row without a datagram, after one more happening.  It begins
again with a datagram, and when the listener has been looked at. -/
def countMisses (station : Station σ) (count : Nat) (happening : Happening σ) : Nat :=
  if station.misses happening then
    if count < Session.emptyReadsBeforeAccept then count + 1 else 0
  else if station.hears happening then 0
  else count

/-- Whether the listener is looked at. -/
def looks (station : Station σ) (count : Nat) (happening : Happening σ) : Bool :=
  station.attends happening ||
    station.misses happening && decide (Session.emptyReadsBeforeAccept ≤ count)

/-- What becomes of what waits at the sockets, and of the count of polls without a
datagram, if the first datagram or the first connection is taken. -/
structure Draws (before : Station σ) (datagram connection : Bool) (count : Nat)
    (after : Station σ) : Prop where
  datagrams : after.transport.network.datagrams =
    if datagram then before.transport.network.datagrams.tail
    else before.transport.network.datagrams
  arrivals : after.transport.network.arrivals =
    if connection then before.transport.network.arrivals.tail
    else before.transport.network.arrivals
  emptyReads : after.session.emptyReads = count
  closed : ∀ id, before.transport.network.isClosed id = true →
    after.transport.network.isClosed id = true

theorem Deaf.draws (deaf : Deaf before after) :
    Draws before false false before.session.emptyReads after :=
  ⟨deaf.queues.datagrams, deaf.queues.arrivals, deaf.emptyReads, deaf.queues.closed⟩

namespace Draws

variable {datagram connection : Bool} {count : Nat}

theorem deaf (draws : Draws before datagram connection count middle) (deaf : Deaf middle after) :
    Draws before datagram connection count after where
  datagrams := deaf.queues.datagrams.trans draws.datagrams
  arrivals := deaf.queues.arrivals.trans draws.arrivals
  emptyReads := deaf.emptyReads.trans draws.emptyReads
  closed := fun id closed => deaf.queues.closed id (draws.closed id closed)

theorem setPhase (draws : Draws before datagram connection count after) (phase : SessionPhase) :
    Draws before datagram connection count (after.setPhase phase) :=
  draws.deaf (.silent rfl rfl)

/-- A datagram is taken before a connection is. -/
theorem follow (draws : Draws before datagram false before.session.emptyReads middle)
    (later : Draws middle false connection count after) :
    Draws before datagram connection count after where
  datagrams := later.datagrams.trans draws.datagrams
  arrivals := by
    rw [later.arrivals, draws.arrivals]
    rfl
  emptyReads := later.emptyReads
  closed := fun id closed => later.closed id (draws.closed id closed)

end Draws

theorem accept?_draws (station : Station σ) {accepted : Except IoFault Nat} {network : Network}
    (accepts : station.transport.network.accept? = some (accepted, network)) :
    Draws station false true station.session.emptyReads
      { station with transport := { station.transport with network := network } } := by
  unfold Network.accept? at accepts
  split at accepts
  · contradiction
  · next first rest arrivals =>
      cases accepts
      refine ⟨rfl, ?_, rfl, fun _ closed => closed⟩
      change rest = station.transport.network.arrivals.tail
      rw [arrivals]
      rfl

/-- Where no connection waits, the first one may as well be taken. -/
theorem draws_of_accept?_eq_none (station : Station σ)
    (none : station.transport.network.accept? = none) :
    Draws station false true station.session.emptyReads station := by
  unfold Network.accept? at none
  split at none
  · next arrivals =>
      refine ⟨rfl, ?_, rfl, fun _ closed => closed⟩
      rw [arrivals]
      rfl
  · contradiction

theorem rejectExtraClient_draws (station : Station σ) :
    Draws station false true station.session.emptyReads station.rejectExtraClient := by
  unfold rejectExtraClient
  split
  · next none => exact station.draws_of_accept?_eq_none none
  · next accepts => exact station.accept?_draws accepts
  · next id network accepts =>
      refine (station.accept?_draws accepts).deaf ?_
      exact ⟨.close network id, rfl⟩

theorem beginPoll_draws (station : Station σ) :
    Draws station false station.isAttended station.session.emptyReads station.beginPoll := by
  unfold beginPoll isAttended
  cases client : station.session.client with
  | none => exact Deaf.draws (.silent rfl rfl)
  | some attached =>
      cases lost : station.transport.link.attached with
      | true =>
          refine station.rejectExtraClient_draws.deaf (takeUnit?_deaf ?_)
          exact .silent rfl rfl
      | false => exact (station.dropClient_deaf .receive).draws

theorem tryAccept_draws (station : Station σ) :
    Draws station false true station.session.emptyReads station.tryAccept := by
  unfold tryAccept
  split
  · next none => exact (station.draws_of_accept?_eq_none none).setPhase _
  · next accepts => exact (station.accept?_draws accepts).setPhase _
  · next accepts => exact (station.accept?_draws accepts).deaf (.silent rfl rfl)

theorem missDatagram_draws (station : Station σ) :
    Draws station false (decide (Session.emptyReadsBeforeAccept ≤ station.session.emptyReads))
      (if station.session.emptyReads < Session.emptyReadsBeforeAccept then
        station.session.emptyReads + 1 else 0) station.missDatagram := by
  unfold missDatagram
  by_cases few : station.session.emptyReads < Session.emptyReadsBeforeAccept
  · rw [if_pos few, decide_eq_false (Nat.not_le_of_lt few)]
    simp only [if_neg (Nat.not_lt_of_le (Nat.succ_le_of_lt few))]
    exact ⟨rfl, rfl, rfl, fun _ closed => closed⟩
  · have many := Nat.le_of_not_lt few
    rw [if_neg few, decide_eq_true many]
    simp only [if_pos (Nat.lt_succ_of_le many)]
    have taken := tryAccept_draws
      (station.updateSession fun session => { session with emptyReads := 0 })
    exact ⟨taken.datagrams, taken.arrivals, taken.emptyReads, taken.closed⟩

/-- Nobody waits for a datagram at the begin of a poll. -/
theorem attends_of_listens {happening : Happening σ}
    (listens : station.listens happening = true) : station.attends happening = false := by
  unfold Station.listens at listens
  split at listens
  · rw [Bool.and_eq_true] at listens
    have waiting := listens.2
    split at waiting
    · next phase =>
        simp only [attends, phase]
        cases station.session.drive with
        | looping cancelled => cases cancelled <;> rfl
        | _ => rfl
    · contradiction
  · contradiction

/-- The first of the datagrams that wait is taken off. -/
theorem receive_draws (station : Station σ)
    {first : Except IoFault (SocketAddress × List UInt8)}
    {rest : List (Except IoFault (SocketAddress × List UInt8))}
    (waiting : station.transport.network.datagrams = first :: rest) :
    Draws station true false station.session.emptyReads
      { station with transport := { station.transport with
          network := { station.transport.network with datagrams := rest } } } := by
  refine ⟨?_, rfl, rfl, fun _ closed => closed⟩
  rw [waiting]
  rfl

/-- What a wait for a datagram comes to. -/
theorem resumeReceive?_draws {deadline : Nat} {happening : Happening σ}
    (phase : station.session.phase = .receiving deadline)
    (listens : station.listens happening = true) :
    Draws station true (station.looks station.session.emptyReads happening)
      (station.countMisses station.session.emptyReads happening)
      ((station.resumeReceive? deadline).getD station) := by
  have unattended := attends_of_listens listens
  have missed := station.missDatagram_draws
  simp only [looks, countMisses, misses, hears, missesAt, unattended, listens, phase,
    Bool.true_and, Bool.false_or]
  unfold resumeReceive? Network.receive?
  cases waiting : station.transport.network.datagrams with
  | nil =>
      have none : Draws station true false station.session.emptyReads station :=
        ⟨by rw [waiting]; rfl, rfl, rfl, fun _ closed => closed⟩
      cases due : Clock.isDue deadline station.now with
      | false => simpa [due] using none
      | true => simpa [due] using none.follow missed
  | cons first rest =>
      have taken := station.receive_draws waiting
      cases first with
      | ok received =>
          have heard : Draws station true false 0 (({ station with
              transport := { station.transport with
                network := { station.transport.network with datagrams := rest } } }
                : Station σ).updateSession fun session => { session with emptyReads := 0 }) :=
            ⟨taken.datagrams, taken.arrivals, rfl, taken.closed⟩
          exact heard.deaf (handlePacket_deaf _ _ _)
      | error fault =>
          cases again : fault.kind.isTransient with
          | true => simpa [again] using taken.follow (missDatagram_draws _)
          | false =>
              simpa [again] using taken.setPhase (.resting (some (.io fault.detail)))

theorem resume?_deaf (resumed : before.resume? = some after)
    (waits : ∀ deadline, before.session.phase ≠ .receiving deadline) : Deaf before after := by
  unfold resume? at resumed
  cases phase : before.session.phase with
  | resting failure =>
      rw [phase] at resumed
      contradiction
  | receiving deadline => exact absurd phase (waits deadline)
  | reading deadline =>
      rw [phase] at resumed
      exact resumeRead?_deaf resumed
  | stopping id deadline next =>
      rw [phase] at resumed
      rcases Option.map_eq_some_iff.mp resumed with ⟨⟨outcome, pool, transport⟩, stopped, rfl⟩
      exact finishStop_deaf stopped next
  | detaching next =>
      simp only [phase, Option.ite_none_right_eq_some, Option.some.injEq] at resumed
      rw [← resumed.2]
      exact before.finishDetach_deaf next
  | replying call =>
      rw [phase] at resumed
      exact resumeReply?_deaf resumed
  | attaching id =>
      simp only [phase, Option.ite_none_right_eq_some, Option.some.injEq] at resumed
      rw [← resumed.2]
      exact before.finishAttach_deaf id
  | joining deadline =>
      rw [phase] at resumed
      rcases Option.map_eq_some_iff.mp resumed with ⟨⟨consumer, result⟩, joined, rfl⟩
      exact .silent rfl rfl

/-- What a happening takes of what waits at the sockets. -/
def DrawsFor (happening : Happening σ) (before after : Station σ) : Prop :=
  Draws before (before.listens happening) (before.looks before.session.emptyReads happening)
    (before.countMisses before.session.emptyReads happening) after

/-- Where nobody looks, nothing is taken. -/
theorem Deaf.drawsFor {happening : Happening σ} (deaf : Deaf before after)
    (inattentive : before.listens happening = false) (away : before.attends happening = false) :
    DrawsFor happening before after := by
  simp only [DrawsFor, looks, countMisses, misses, hears, inattentive, away, Bool.false_and,
    Bool.or_false, Bool.false_eq_true, if_false]
  exact deaf.draws

theorem beginPoll_drawsFor {happening : Happening σ}
    (inattentive : station.listens happening = false)
    (begins : station.attends happening = station.isAttended) :
    DrawsFor happening station station.beginPoll := by
  simp only [DrawsFor, looks, countMisses, misses, hears, inattentive, begins, Bool.false_and,
    Bool.or_false, Bool.false_eq_true, if_false]
  exact station.beginPoll_draws

/-- What a session that goes on with a poll takes. -/
theorem resume?_drawsFor (heeds : station.session.drive.isCancelled = false)
    (away : station.attends (.step .session) = false) :
    DrawsFor (.step .session) station (station.resume?.getD station) := by
  by_cases waits : ∃ deadline, station.session.phase = .receiving deadline
  · rcases waits with ⟨deadline, phase⟩
    have listening : station.listens (.step .session) = true := by
      simp only [listens, heeds, phase, Bool.not_false, Bool.and_true]
    have taken := station.resumeReceive?_draws phase listening
    simpa only [DrawsFor, listening, resume?, phase] using taken
  · have other : ∀ deadline, station.session.phase ≠ .receiving deadline := fun deadline phase =>
      waits ⟨deadline, phase⟩
    have inattentive : station.listens (.step .session) = false := by
      simp only [listens, heeds]
      cases phase : station.session.phase with
      | receiving deadline => exact absurd phase (other deadline)
      | _ => rfl
    refine Deaf.drawsFor ?_ inattentive away
    cases resumed : station.resume? with
    | none => exact .refl station
    | some after => exact resume?_deaf resumed other

theorem sessionStep?_drawsFor (composed : station.session.IsComposed) :
    DrawsFor (.step .session) station (station.sessionStep?.getD station) := by
  cases drive : station.session.drive with
  | byHand =>
      have heeds : station.session.drive.isCancelled = false := by rw [drive]; rfl
      simp only [sessionStep?, drive]
      exact resume?_drawsFor heeds (by simp only [attends, drive])
  | looping cancelled =>
      cases cancelled with
      | true =>
          simp only [sessionStep?, drive, loopStep?, if_true, Option.getD_some]
          refine Deaf.drawsFor ?_ (by simp [listens, drive, Drive.isCancelled])
            (by simp only [attends, drive])
          have given : Deaf station (station.abandonPhase.setDrive (.closing (.ok ()))) :=
            station.abandonPhase_deaf.trans (.silent rfl rfl)
          exact given.trans (stopGenerator_deaf _ .shutdown)
      | false =>
          have heeds : station.session.drive.isCancelled = false := by rw [drive]; rfl
          simp only [sessionStep?, drive, loopStep?, Bool.false_eq_true, if_false]
          cases phase : station.session.phase with
          | resting failure =>
              have inattentive : station.listens (.step .session) = false := by
                simp [listens, phase]
              cases failure with
              | none => exact beginPoll_drawsFor inattentive (by simp only [attends, drive, phase])
              | some fault =>
                  refine Deaf.drawsFor ?_ inattentive (by simp only [attends, drive, phase])
                  have closing : Deaf station (station.setDrive (.closing (.error fault))) :=
                    .silent rfl rfl
                  exact closing.trans (stopGenerator_deaf _ .shutdown)
          | _ => exact resume?_drawsFor heeds (by simp only [attends, drive, phase])
  | closing result =>
      have heeds : station.session.drive.isCancelled = false := by rw [drive]; rfl
      have away : station.attends (.step .session) = false := by simp only [attends, drive]
      simp only [sessionStep?, drive]
      cases phase : station.session.phase with
      | resting failure =>
          exact Deaf.drawsFor (.silent rfl rfl) (by simp [listens, phase]) away
      | _ => exact resume?_drawsFor heeds away
  | returned result =>
      rcases composed.of_returned drive with ⟨_, failure, phase⟩
      simp only [sessionStep?, drive]
      exact Deaf.drawsFor (.refl station) (by simp [listens, phase]) (by simp only [attends, drive])
  | dropped =>
      rcases composed.of_dropped drive with ⟨failure, phase⟩
      simp only [sessionStep?, drive]
      refine Deaf.drawsFor ?_ (by simp [listens, phase]) (by simp only [attends, drive])
      split
      · exact ⟨station.transport.dropWriter_sameQueues, rfl⟩
      · exact .refl station

/-! ## Everything that may happen -/

theorem letGo_deaf (station : Station σ) : Deaf station station.letGo :=
  station.abandonPhase_deaf.trans (.silent rfl rfl)

/-- The datagrams and failures that come with a happening. -/
def comingDatagrams : Happening σ → List (Except IoFault (SocketAddress × List UInt8))
  | .request (.network (.datagram source bytes)) => [.ok (source, bytes)]
  | .request (.network (.receiveFault fault)) => [.error fault]
  | _ => []

/-- The connections and failures that come with a happening. -/
def comingArrivals (station : Station σ) : Happening σ → List (Except IoFault Nat)
  | .request (.network (.connect _)) => [.ok station.transport.network.connections.size]
  | .request (.network (.acceptFault fault)) => [.error fault]
  | _ => []

/-- What waits at the sockets after one more happening. -/
structure Queues (happening : Happening σ) (before after : Station σ) : Prop where
  datagrams : after.transport.network.datagrams =
    (if before.listens happening then before.transport.network.datagrams.tail
      else before.transport.network.datagrams) ++ comingDatagrams happening
  arrivals : after.transport.network.arrivals =
    (if before.looks before.session.emptyReads happening then
      before.transport.network.arrivals.tail
      else before.transport.network.arrivals) ++ before.comingArrivals happening
  emptyReads : after.session.emptyReads =
    before.countMisses before.session.emptyReads happening
  closed : ∀ id, before.transport.network.isClosed id = true →
    after.transport.network.isClosed id = true

theorem DrawsFor.queues {happening : Happening σ} (draws : DrawsFor happening before after)
    (datagrams : comingDatagrams happening = []) (arrivals : before.comingArrivals happening = []) :
    Queues happening before after := by
  refine ⟨?_, ?_, draws.emptyReads, draws.closed⟩
  · rw [datagrams, List.append_nil]
    exact draws.datagrams
  · rw [arrivals, List.append_nil]
    exact draws.arrivals

theorem apply_queues (station : Station σ) (event : NetworkEvent) :
    Queues (.request (.network event)) station
      { station with transport := station.transport.apply event } := by
  refine ⟨?_, ?_, rfl, station.transport.network.isClosed_apply event⟩
  · cases event <;> first | rfl | exact (List.append_nil _).symm
  · cases event <;> first | rfl | exact (List.append_nil _).symm

variable [SinkDevice σ]

theorem happen_queues (composed : station.session.IsComposed) {happening : Happening σ}
    (permitted : station.permits happening = true) :
    Queues happening station (station.happen happening) := by
  cases happening with
  | packet bytes origin => contradiction
  | transport change => contradiction
  | requeue task => exact DrawsFor.queues (Deaf.drawsFor (.silent rfl rfl) rfl rfl) rfl rfl
  | wait millis => exact DrawsFor.queues (Deaf.drawsFor (.silent rfl rfl) rfl rfl) rfl rfl
  | step task =>
      refine DrawsFor.queues ?_ rfl rfl
      rw [happen]
      cases task with
      | session => exact sessionStep?_drawsFor composed
      | consumer =>
          have beside := station.consumer_beside
          refine Deaf.drawsFor (.silent ?_ ?_) rfl rfl
          · rw [beside.transport]
          · rw [beside.session]
      | generator id =>
          refine Deaf.drawsFor ?_ rfl rfl
          simp only [step?]
          cases stepped :
              station.pool.step? id station.radio.bank station.now station.transport with
          | none => exact .refl station
          | some moved =>
              exact ⟨GeneratorPool.step?_sameQueues stepped, rfl⟩
  | request request =>
      cases request with
      | network event => exact station.apply_queues event
      | poll => exact DrawsFor.queues (beginPoll_drawsFor rfl rfl) rfl rfl
      | drop => exact DrawsFor.queues (Deaf.drawsFor station.letGo_deaf rfl rfl) rfl rfl
      | shutdown =>
          exact DrawsFor.queues (Deaf.drawsFor (stopGenerator_deaf _ .shutdown) rfl rfl) rfl rfl
      | cancel =>
          refine DrawsFor.queues (Deaf.drawsFor ?_ rfl rfl) rfl rfl
          simp only [happen, apply]
          split
          · exact .silent rfl rfl
          · exact .refl station
      | sink change => exact DrawsFor.queues (Deaf.drawsFor (.silent rfl rfl) rfl rfl) rfl rfl
      | run => exact DrawsFor.queues (Deaf.drawsFor (.silent rfl rfl) rfl rfl) rfl rfl
      | reclaim => exact DrawsFor.queues (Deaf.drawsFor (.silent rfl rfl) rfl rfl) rfl rfl

end Station
end VirtualRadio
