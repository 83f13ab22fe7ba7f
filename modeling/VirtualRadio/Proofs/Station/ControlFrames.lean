import VirtualRadio.Proofs.Station.Happenings
import VirtualRadio.Proofs.Station.Quiet

namespace VirtualRadio

/-!
# Where control frames are taken

Whatever happens to a station, it takes at most one control frame in, and that
one is a packet.  Everything else that it does is apart from control frames: the
radio stays as it is, no filter is switched, and nothing is told of registers, of
the numbers of control frames or of filters.

Each function of the session that is apart has one lemma here.  The ones that
may take a frame in end with it.
-/

/-- Whether an event tells something of a control frame. -/
def Event.isOfControl : Event → Bool
  | registerChanged _ | sequenceGap _ _ | filterSelected _ => true
  | _ => false

/-- The band whose filter a call of a handler switches to. -/
def HookCall.filter? : HookCall → Option Band
  | filter band => some band
  | maintenance _ _ => none

namespace Station

variable {σ : Type} {before middle after station : Station σ}

/-- The bands whose filters were switched to, in order. -/
def switchedBands (station : Station σ) : List Band :=
  station.hooks.toList.filterMap HookCall.filter?

theorem switchedBands_note (station : Station σ) (call : HookCall) :
    (station.note call).switchedBands = station.switchedBands ++ call.filter?.toList := by
  have noted : (station.note call).hooks.toList = station.hooks.toList ++ [call] :=
    Array.toList_push
  rw [switchedBands, noted, List.filterMap_append, ← switchedBands]
  cases band : call.filter? <;> simp [band]

/-- A change in which no control frame has a part. -/
structure Apart (before after : Station σ) : Prop where
  plan : after.plan = before.plan
  radio : after.radio = before.radio
  told : TellsNo Event.isOfControl before after
  switched : after.switchedBands = before.switchedBands

namespace Apart

/-- A change that tells nothing. -/
theorem silent (plan : after.plan = before.plan) (radio : after.radio = before.radio)
    (events : after.events = before.events) (hooks : after.hooks = before.hooks) :
    Apart before after :=
  ⟨plan, radio, .silent events, by rw [switchedBands, hooks, switchedBands]⟩

theorem refl (station : Station σ) : Apart station station :=
  silent rfl rfl rfl rfl

theorem trans (first : Apart before middle) (second : Apart middle after) :
    Apart before after :=
  ⟨second.plan.trans first.plan, second.radio.trans first.radio, first.told.trans second.told,
    second.switched.trans first.switched⟩

theorem emit (apart : Apart before after) {event : Event} (other : event.isOfControl = false) :
    Apart before (after.emit event) :=
  apart.trans ⟨rfl, rfl, .emit after other, rfl⟩

theorem updateSession (apart : Apart before after) (change : Session → Session) :
    Apart before (after.updateSession change) :=
  apart.trans (silent rfl rfl rfl rfl)

theorem rest (apart : Apart before after) : Apart before after.rest :=
  apart.trans (silent rfl rfl rfl rfl)

end Apart

/-! ## Teardown -/

theorem joinConsumer_apart (station : Station σ) : Apart station station.joinConsumer := by
  unfold joinConsumer
  split
  · exact .silent rfl rfl rfl rfl
  · exact .silent rfl rfl rfl rfl

theorem afterDetach_apart (station : Station σ) (next : AfterDetach) :
    Apart station (station.afterDetach next) := by
  cases next with
  | receive => exact .silent rfl rfl rfl rfl
  | rest => exact .silent rfl rfl rfl rfl
  | answered => exact (((Apart.refl station).updateSession _).emit rfl).rest
  | shutdown => exact station.joinConsumer_apart

theorem dropClient_apart (station : Station σ) (next : AfterDetach) :
    Apart station (station.dropClient next) := by
  unfold dropClient
  split
  · exact station.afterDetach_apart next
  · exact .silent rfl rfl rfl rfl

theorem finishDetach_apart (station : Station σ) (next : AfterDetach) :
    Apart station (station.finishDetach next) := by
  have detached : Apart station { station with transport := station.transport.detach.1 } :=
    .silent rfl rfl rfl rfl
  exact (detached.emit rfl).trans (afterDetach_apart _ next)

theorem startStreaming_apart (station : Station σ) (origin : Origin) :
    Apart station (station.startStreaming origin) := by
  refine Apart.rest (Apart.emit ?_ rfl)
  exact .silent rfl rfl rfl rfl

theorem afterStop_apart (station : Station σ) (next : AfterStop) :
    Apart station (station.afterStop next) := by
  cases next with
  | start origin => exact station.startStreaming_apart origin
  | stop => exact ((Apart.refl station).updateSession _).trans (dropClient_apart _ .rest)
  | shutdown => exact station.dropClient_apart .shutdown

theorem stopGenerator_apart (station : Station σ) (next : AfterStop) :
    Apart station (station.stopGenerator next) := by
  unfold stopGenerator
  split
  · exact station.afterStop_apart next
  · exact .silent rfl rfl rfl rfl

theorem finishStop_apart (station : Station σ) (outcome : StopOutcome) (next : AfterStop) :
    Apart station (station.finishStop outcome next) :=
  (((Apart.refl station).updateSession _).emit rfl).trans (afterStop_apart _ next)

theorem finishAttach_apart (station : Station σ) (id : Nat) :
    Apart station (station.finishAttach id) := by
  have attached : Apart station { station with transport := station.transport.attach id } :=
    .silent rfl rfl rfl rfl
  exact ((attached.updateSession _).emit rfl).rest

theorem abandonPhase_apart (station : Station σ) : Apart station station.abandonPhase := by
  unfold abandonPhase
  refine Apart.rest ?_
  split
  · exact .refl station
  · exact .refl station
  · exact .refl station
  · exact .silent rfl rfl rfl rfl
  · split
    · exact .refl station
    · exact .silent rfl rfl rfl rfl
  · exact .silent rfl rfl rfl rfl
  · exact .silent rfl rfl rfl rfl
  · exact .silent rfl rfl rfl rfl

/-! ## Other packets -/

theorem handleDiscovery_apart (station : Station σ) (origin : Origin) :
    Apart station (station.handleDiscovery origin) := by
  unfold handleDiscovery
  cases origin with
  | datagram source =>
      simp only
      split
      · exact .silent rfl rfl rfl rfl
      · refine Apart.rest (Apart.emit ?_ rfl)
        exact .silent rfl rfl rfl rfl
  | stream =>
      simp only
      split
      · exact .silent rfl rfl rfl rfl
      · exact .silent rfl rfl rfl rfl

theorem handleMaintenance_apart (station : Station σ) (kind : MaintenanceKind)
    (packet : List UInt8) (origin : Origin) :
    Apart station (station.handleMaintenance kind packet origin) := by
  have noted : Apart station (station.note (.maintenance kind packet)) :=
    ⟨rfl, rfl, .silent rfl, (station.switchedBands_note _).trans (List.append_nil _)⟩
  unfold handleMaintenance
  simp only
  split
  · exact noted.trans (.silent rfl rfl rfl rfl)
  · exact noted.rest

/-! ## Polls -/

theorem rejectExtraClient_apart (station : Station σ) :
    Apart station station.rejectExtraClient := by
  unfold rejectExtraClient
  split
  · exact .refl station
  · exact .silent rfl rfl rfl rfl
  · exact .silent rfl rfl rfl rfl

theorem tryAccept_apart (station : Station σ) : Apart station station.tryAccept := by
  unfold tryAccept
  split
  · exact .silent rfl rfl rfl rfl
  · exact .silent rfl rfl rfl rfl
  · exact .silent rfl rfl rfl rfl

theorem missDatagram_apart (station : Station σ) : Apart station station.missDatagram := by
  unfold missDatagram
  simp only
  split
  · exact ((Apart.refl station).updateSession _).trans (tryAccept_apart _)
  · exact .silent rfl rfl rfl rfl

theorem resumeReply?_apart {call : StreamSend} (resumed : before.resumeReply? call = some after) :
    Apart before after := by
  rcases Option.map_eq_some_iff.mp resumed with ⟨⟨transport, progress⟩, _, rfl⟩
  have moved : Apart before { before with transport := transport } := .silent rfl rfl rfl rfl
  cases progress with
  | waiting call => exact .silent rfl rfl rfl rfl
  | finished outcome => exact moved.trans (dropClient_apart _ .answered)
  | crashed => exact moved.trans (dropClient_apart _ .answered)

/-! ## Control frames -/

/-- The number of a frame has no part in how it is decoded. -/
theorem followSequence_kept (station : Station σ) (sequence : UInt32) :
    (station.followSequence sequence).plan = station.plan ∧
      (station.followSequence sequence).radio = station.radio ∧
      (station.followSequence sequence).path = station.path ∧
      (station.followSequence sequence).hooks = station.hooks := by
  unfold followSequence
  split
  · exact ⟨rfl, rfl, rfl, rfl⟩
  · split <;> exact ⟨rfl, rfl, rfl, rfl⟩

/-- Nothing but a gap is told of the number of a frame. -/
theorem told_followSequence {α : Type} {view : Event → Option α} (station : Station σ)
    (sequence : UInt32) (unseen : ∀ expected received, view (.sequenceGap expected received) = none) :
    (station.followSequence sequence).told view = station.told view := by
  unfold followSequence
  split
  · rfl
  · split
    · rfl
    · refine (told_emit view _ _).trans ?_
      rw [unseen]
      exact List.append_nil _

/-- A frame is followed by its number, decoded, told of and heard. -/
theorem handleControl_eq {frame : List UInt8} {radio : Radio} {changes : List RegisterChange}
    (decoded : (Decoder.ofProfile station.plan.profile).decodeFrame station.radio frame =
      .ok (radio, changes)) (sequence : UInt32) :
    station.handleControl frame sequence =
      (changes.foldl reportChange { station.followSequence sequence with radio := radio }).takeSamples
        frame := by
  rcases station.followSequence_kept sequence with ⟨plan, same, -, -⟩
  simp only [handleControl, plan, same, decoded]

/-- A change in which at most one control frame has a part. -/
inductive Takes (before after : Station σ) : Prop where
  | none (apart : Apart before after)
  /-- A control frame is taken in, and the poll that it came with is over. -/
  | frame (middle : Station σ) (bytes : List UInt8) (sequence : UInt32)
      (apart : Apart before middle)
      (accepted : Packet.classify bytes = .ok (.controlIq sequence))
      (taken : after = (middle.handleControl bytes sequence).rest)

theorem Apart.takes (first : Apart before middle) (second : Takes middle after) :
    Takes before after := by
  cases second with
  | none apart => exact .none (first.trans apart)
  | frame last bytes sequence apart accepted taken =>
      exact .frame last bytes sequence (first.trans apart) accepted taken

theorem handlePacket_apart (station : Station σ) {packet : List UInt8} (origin : Origin)
    (other : ∀ sequence, Packet.classify packet ≠ .ok (.controlIq sequence)) :
    Apart station (station.handlePacket packet origin) := by
  unfold handlePacket
  split
  · exact (((Apart.refl station).updateSession _).emit rfl).rest
  · next sequence accepted => exact absurd accepted (other sequence)
  · exact station.handleDiscovery_apart origin
  · exact station.stopGenerator_apart _
  · exact ((Apart.refl station).updateSession _).trans (stopGenerator_apart _ .stop)
  · exact station.handleMaintenance_apart _ packet origin

theorem handlePacket_takes (station : Station σ) (packet : List UInt8) (origin : Origin) :
    Takes station (station.handlePacket packet origin) := by
  by_cases frame : ∃ sequence, Packet.classify packet = .ok (.controlIq sequence)
  · rcases frame with ⟨sequence, accepted⟩
    refine .frame station packet sequence (.refl station) accepted ?_
    rw [handlePacket, accepted]
  · exact .none (station.handlePacket_apart origin
      (fun sequence accepted => frame ⟨sequence, accepted⟩))

theorem takeUnit?_takes {client : StreamClient} (taken : before.takeUnit? client = some after) :
    Takes before after := by
  rcases Option.map_eq_some_iff.mp taken with ⟨⟨unit, rest⟩, _, rfl⟩
  exact ((Apart.refl before).updateSession _).takes (handlePacket_takes _ unit .stream)

theorem takeUnit?_getD_takes {client : StreamClient} (apart : Apart before after) :
    Takes before ((before.takeUnit? client).getD after) := by
  cases taken : before.takeUnit? client with
  | none => exact .none apart
  | some served => exact takeUnit?_takes taken

theorem beginPoll_takes (station : Station σ) : Takes station station.beginPoll := by
  unfold beginPoll
  split
  · exact .none (.silent rfl rfl rfl rfl)
  · split
    · exact station.rejectExtraClient_apart.takes (takeUnit?_getD_takes (.silent rfl rfl rfl rfl))
    · exact .none (station.dropClient_apart .receive)

theorem resumeReceive?_takes {deadline : Nat}
    (resumed : before.resumeReceive? deadline = some after) : Takes before after := by
  unfold resumeReceive? at resumed
  split at resumed
  · split at resumed
    · cases resumed
      exact .none before.missDatagram_apart
    · contradiction
  · next received network _ =>
      have moved : Apart before
          { before with transport := { before.transport with network := network } } :=
        .silent rfl rfl rfl rfl
      simp only at resumed
      split at resumed
      · cases resumed
        exact (moved.updateSession _).takes (handlePacket_takes _ _ _)
      · split at resumed
        · cases resumed
          exact .none (moved.trans (missDatagram_apart _))
        · cases resumed
          exact .none (moved.updateSession _)

theorem resumeRead?_takes {deadline : Nat}
    (resumed : before.resumeRead? deadline = some after) : Takes before after := by
  unfold resumeRead? at resumed
  split at resumed
  · cases resumed
    exact .none (.silent rfl rfl rfl rfl)
  · split at resumed
    · split at resumed
      · cases resumed
        exact .none (.silent rfl rfl rfl rfl)
      · contradiction
    · next found network _ =>
        have moved : Apart before
            { before with transport := { before.transport with network := network } } :=
          .silent rfl rfl rfl rfl
        simp only at resumed
        split at resumed
        · cases resumed
          exact moved.takes (takeUnit?_getD_takes (.silent rfl rfl rfl rfl))
        · cases resumed
          exact .none (moved.trans (dropClient_apart _ .rest))
        · cases resumed
          exact .none (moved.trans (dropClient_apart _ .rest))

theorem resume?_takes (resumed : before.resume? = some after) : Takes before after := by
  unfold resume? at resumed
  cases phase : before.session.phase with
  | resting failure =>
      rw [phase] at resumed
      contradiction
  | receiving deadline =>
      rw [phase] at resumed
      exact resumeReceive?_takes resumed
  | reading deadline =>
      rw [phase] at resumed
      exact resumeRead?_takes resumed
  | stopping id deadline next =>
      rw [phase] at resumed
      rcases Option.map_eq_some_iff.mp resumed with ⟨⟨outcome, pool, transport⟩, _, rfl⟩
      have stopped : Apart before { before with pool := pool, transport := transport } :=
        .silent rfl rfl rfl rfl
      exact .none (stopped.trans (finishStop_apart _ outcome next))
  | detaching next =>
      simp only [phase] at resumed
      split at resumed
      · cases resumed
        exact .none (before.finishDetach_apart next)
      · contradiction
  | replying call =>
      rw [phase] at resumed
      exact .none (resumeReply?_apart resumed)
  | attaching id =>
      simp only [phase] at resumed
      split at resumed
      · cases resumed
        exact .none (before.finishAttach_apart id)
      · contradiction
  | joining deadline =>
      rw [phase] at resumed
      rcases Option.map_eq_some_iff.mp resumed with ⟨⟨consumer, result⟩, _, rfl⟩
      exact .none (.silent rfl rfl rfl rfl)

/-! ## Happenings -/

theorem sessionStep?_takes (stepped : before.sessionStep? = some after) :
    Takes before after := by
  unfold sessionStep? at stepped
  split at stepped
  · exact resume?_takes stepped
  · unfold loopStep? at stepped
    split at stepped
    · cases stepped
      have closing : Apart before (before.abandonPhase.setDrive (.closing (.ok ()))) :=
        before.abandonPhase_apart.updateSession _
      exact .none (closing.trans (stopGenerator_apart _ .shutdown))
    · split at stepped
      · cases stepped
        exact before.beginPoll_takes
      · cases stepped
        exact .none (((Apart.refl before).updateSession _).trans (stopGenerator_apart _ .shutdown))
      · exact resume?_takes stepped
  · split at stepped
    · cases stepped
      exact .none (.silent rfl rfl rfl rfl)
    · exact resume?_takes stepped
  · contradiction
  · split at stepped
    · cases stepped
      exact .none (.silent rfl rfl rfl rfl)
    · contradiction

theorem apply_takes (station : Station σ) (request : Request σ) :
    Takes station (station.apply request) := by
  cases request with
  | network event => exact .none (.silent rfl rfl rfl rfl)
  | sink change => exact .none (.silent rfl rfl rfl rfl)
  | poll => exact station.beginPoll_takes
  | shutdown => exact .none (station.stopGenerator_apart .shutdown)
  | run => exact .none (.silent rfl rfl rfl rfl)
  | cancel =>
      unfold apply
      simp only
      split
      · exact .none (.silent rfl rfl rfl rfl)
      · exact .none (.refl station)
  | reclaim => exact .none (.silent rfl rfl rfl rfl)
  | drop =>
      have given : Apart station.abandonPhase station.letGo := .silent rfl rfl rfl rfl
      exact .none (station.abandonPhase_apart.trans given)

variable [SinkDevice σ]

theorem consumer_apart (stepped : step? .consumer before = some after) : Apart before after := by
  simp only [step?, Option.bind_eq_bind, Option.bind_eq_some_iff] at stepped
  rcases stepped with ⟨⟨path, tuned⟩, _, told⟩
  have moved : Apart before { before with path := path } := .silent rfl rfl rfl rfl
  cases tuned with
  | none =>
      cases told
      exact moved
  | some hertz =>
      cases told
      exact moved.emit rfl

theorem generator_apart {id : Nat} (stepped : step? (.generator id) before = some after) :
    Apart before after := by
  simp only [step?, Option.bind_eq_bind, Option.bind_eq_some_iff] at stepped
  rcases stepped with ⟨⟨pool, transport⟩, _, moved⟩
  cases moved
  exact .silent rfl rfl rfl rfl

theorem step?_takes {task : StationTask} (stepped : step? task before = some after) :
    Takes before after := by
  cases task with
  | session => exact sessionStep?_takes stepped
  | consumer => exact .none (consumer_apart stepped)
  | generator id => exact .none (generator_apart stepped)

/-- Whatever happens, at most one control frame is taken in. -/
theorem happen_takes (station : Station σ) (happening : Happening σ) :
    Takes station (station.happen happening) := by
  cases happening with
  | request request => exact station.apply_takes request
  | packet bytes origin =>
      rw [happen]
      split
      · exact station.handlePacket_takes bytes origin
      · exact .none (.refl station)
  | step task =>
      rw [happen]
      cases stepped : step? task station with
      | none => exact .none (.refl station)
      | some after => exact step?_takes stepped
  | requeue task => exact .none (.silent rfl rfl rfl rfl)
  | wait millis => exact .none (.silent rfl rfl rfl rfl)
  | transport change => exact .none (.silent rfl rfl rfl rfl)

end Station
end VirtualRadio
