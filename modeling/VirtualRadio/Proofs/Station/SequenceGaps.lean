import VirtualRadio.Proofs.Station.Calls
import VirtualRadio.Sink.Discard

namespace VirtualRadio

/-!
# Gaps in the numbers of control frames

Of the packets that are handed to a session, three kinds have a part in the numbers
of control frames: a control frame has one, and a stop packet makes the session
forget the last one, as does a start packet that finds a generator held.  What
becomes of the numbers is a function of these marks alone: which gaps there are, and
which number is the last.

A session that waits for the end of its generator still has the last number, though
it is going to forget it before it takes in anything else.  So the number that counts
is none while it waits.
-/

/-- What a packet has to do with the numbers of control frames. -/
inductive SequenceMark where
  /-- A control frame with this number. -/
  | frame (sequence : UInt32)
  /-- The last number is forgotten. -/
  | forget
  deriving DecidableEq, Repr

namespace SequenceMark

/-- The number that the next one is held against the successor of, if any. -/
def number? : SequenceMark → Option UInt32
  | frame sequence => some sequence
  | forget => none

/-- The gap that a mark shows: the number that was expected and the one that came. -/
def gap? (last : Option UInt32) : SequenceMark → Option (UInt32 × UInt32)
  | forget => none
  | frame sequence =>
    match last with
    | none => none
    | some previous =>
      if sequence = previous + 1 then none else some (previous + 1, sequence)

/-- The number that is left after some marks. -/
def lastNumber (last : Option UInt32) (marks : List SequenceMark) : Option UInt32 :=
  marks.foldl (fun _ mark => mark.number?) last

/-- The gaps that marks show, in order. -/
def gaps (last : Option UInt32) : List SequenceMark → List (UInt32 × UInt32)
  | [] => []
  | mark :: marks => (mark.gap? last).toList ++ gaps mark.number? marks

theorem gaps_append (last : Option UInt32) (marks later : List SequenceMark) :
    gaps last (marks ++ later) = gaps last marks ++ gaps (lastNumber last marks) later := by
  induction marks generalizing last with
  | nil => rfl
  | cons mark marks ih =>
      rw [List.cons_append, gaps, ih, gaps, List.append_assoc]
      rfl

/-- The number that is expected is the previous one and one more, where the numbers
begin again after the last one that there is. -/
theorem gap?_eq_none_iff (previous sequence : UInt32) :
    (frame sequence).gap? (some previous) = none ↔
      sequence.toNat = (previous.toNat + 1) % UInt32.size := by
  rw [gap?]
  simp only [ite_eq_left_iff, reduceCtorEq, imp_false, Decidable.not_not]
  rw [← UInt32.toNat_inj, UInt32.toNat_add]
  rfl

example : gaps none [.frame 0xFFFFFFFF, .frame 0, .frame 2, .forget, .frame 9] = [(1, 2)] := by
  decide

end SequenceMark

/-- The numbers that an event tells of as a gap. -/
def Event.gap? : Event → Option (UInt32 × UInt32)
  | sequenceGap expected received => some (expected, received)
  | _ => none

namespace Station

variable {σ : Type} {before middle after station : Station σ}

/-- The gaps that observers were told of, in order. -/
def gapsTold (station : Station σ) : List (UInt32 × UInt32) :=
  station.events.toList.filterMap Event.gap?

/-- The number that the next control frame is held against the successor of, if any. -/
def followed (station : Station σ) : Option UInt32 :=
  match station.session.phase with
  | .stopping _ _ _ => none
  | _ => station.session.lastSequence

/-- What a packet that is handed to a session at rest has to do with the numbers. -/
def packetMark? (station : Station σ) (bytes : List UInt8) : Option SequenceMark :=
  match Packet.classify bytes with
  | .ok (.controlIq sequence) => some (.frame sequence)
  | .ok .stop => some .forget
  | .ok (.start _) => if station.session.generator.isSome then some .forget else none
  | _ => none

/-! ## What has no part in the numbers -/

/-- A change that has no part in the numbers. -/
structure Unnumbered (before after : Station σ) : Prop where
  last : after.session.lastSequence = before.session.lastSequence
  counted : after.session.stats.sequenceGaps = before.session.stats.sequenceGaps
  told : after.gapsTold = before.gapsTold

namespace Unnumbered

theorem refl (station : Station σ) : Unnumbered station station :=
  ⟨rfl, rfl, rfl⟩

theorem trans (first : Unnumbered before middle) (second : Unnumbered middle after) :
    Unnumbered before after where
  last := second.last.trans first.last
  counted := second.counted.trans first.counted
  told := second.told.trans first.told

theorem emit (unnumbered : Unnumbered before after) {event : Event} (other : event.gap? = none) :
    Unnumbered before (after.emit event) := by
  refine unnumbered.trans ⟨rfl, rfl, (after.told_emit Event.gap? event).trans ?_⟩
  rw [other]
  exact List.append_nil _

theorem rest (unnumbered : Unnumbered before after) : Unnumbered before after.rest :=
  unnumbered.trans ⟨rfl, rfl, rfl⟩

end Unnumbered

theorem joinConsumer_unnumbered (station : Station σ) :
    Unnumbered station station.joinConsumer := by
  unfold joinConsumer
  split <;> exact ⟨rfl, rfl, rfl⟩

theorem afterDetach_unnumbered (station : Station σ) (next : AfterDetach) :
    Unnumbered station (station.afterDetach next) := by
  cases next with
  | receive => exact ⟨rfl, rfl, rfl⟩
  | rest => exact ⟨rfl, rfl, rfl⟩
  | answered =>
      have counted : Unnumbered station (station.count fun stats =>
          { stats with discoveryReplies := stats.discoveryReplies + 1 }) := ⟨rfl, rfl, rfl⟩
      exact (counted.emit rfl).rest
  | shutdown => exact station.joinConsumer_unnumbered

theorem dropClient_unnumbered (station : Station σ) (next : AfterDetach) :
    Unnumbered station (station.dropClient next) := by
  unfold dropClient
  split
  · exact station.afterDetach_unnumbered next
  · exact ⟨rfl, rfl, rfl⟩

theorem finishDetach_unnumbered (station : Station σ) (next : AfterDetach) :
    Unnumbered station (station.finishDetach next) := by
  have detached : Unnumbered station { station with transport := station.transport.detach.1 } :=
    ⟨rfl, rfl, rfl⟩
  exact (detached.emit rfl).trans (afterDetach_unnumbered _ next)

theorem startStreaming_unnumbered (station : Station σ) (origin : Origin) :
    Unnumbered station (station.startStreaming origin) := by
  refine Unnumbered.rest (Unnumbered.emit ?_ rfl)
  exact ⟨rfl, rfl, rfl⟩

theorem reportChanges_unnumbered (station : Station σ) (changes : List RegisterChange) :
    Unnumbered station (changes.foldl reportChange station) := by
  have one : ∀ (station : Station σ) change, Unnumbered station (station.reportChange change) := by
    intro station change
    unfold reportChange selectFilter
    refine Unnumbered.emit ?_ rfl
    split
    · split
      · next band _ =>
          have noted : Unnumbered station (station.note (.filter band)) := ⟨rfl, rfl, rfl⟩
          exact noted.emit rfl
      · exact .refl station
    · exact .refl station
  induction changes generalizing station with
  | nil => exact .refl station
  | cons change changes ih => exact (one station change).trans (ih _)

theorem takeSamples_unnumbered (station : Station σ) (frame : List UInt8) :
    Unnumbered station (station.takeSamples frame) := by
  rcases station.takeSamples_eq_ring frame with ⟨ring, taken⟩
  rw [taken]
  exact ⟨rfl, rfl, rfl⟩

theorem handleDiscovery_unnumbered (station : Station σ) (origin : Origin) :
    Unnumbered station (station.handleDiscovery origin) := by
  unfold handleDiscovery
  cases origin with
  | datagram source =>
      simp only
      split
      · exact ⟨rfl, rfl, rfl⟩
      · refine Unnumbered.rest (Unnumbered.emit ?_ rfl)
        exact ⟨rfl, rfl, rfl⟩
  | stream =>
      simp only
      split <;> exact ⟨rfl, rfl, rfl⟩

theorem handleMaintenance_unnumbered (station : Station σ) (kind : MaintenanceKind)
    (packet : List UInt8) (origin : Origin) :
    Unnumbered station (station.handleMaintenance kind packet origin) := by
  unfold handleMaintenance
  simp only
  split <;> exact ⟨rfl, rfl, rfl⟩

/-! ## What has a part in them -/

/-- A change in which the numbers go on by some marks. -/
structure Follows (before : Station σ) (marks : List SequenceMark) (after : Station σ) :
    Prop where
  followed : after.followed = SequenceMark.lastNumber before.followed marks
  counted : after.session.stats.sequenceGaps =
    before.session.stats.sequenceGaps + (SequenceMark.gaps before.followed marks).length
  told : after.gapsTold = before.gapsTold ++ SequenceMark.gaps before.followed marks

theorem Follows.trans {marks later : List SequenceMark} (first : Follows before marks middle)
    (second : Follows middle later after) : Follows before (marks ++ later) after where
  followed := by
    rw [second.followed, first.followed, SequenceMark.lastNumber, SequenceMark.lastNumber,
      SequenceMark.lastNumber, List.foldl_append]
  counted := by
    rw [second.counted, first.counted, first.followed, SequenceMark.gaps_append,
      List.length_append, Nat.add_assoc]
  told := by
    rw [second.told, first.told, first.followed, SequenceMark.gaps_append, List.append_assoc]

theorem Unnumbered.follows (unnumbered : Unnumbered before after)
    (followed : after.followed = before.followed) : Follows before [] after :=
  ⟨followed, unnumbered.counted, unnumbered.told.trans (List.append_nil _).symm⟩

theorem followed_of_awaited (none : station.awaited = none) :
    station.followed = station.session.lastSequence := by
  unfold followed
  cases phase : station.session.phase with
  | stopping id deadline next =>
      rw [awaited, phase] at none
      contradiction
  | _ => rfl

/-- What has no part in the numbers, before it and after it no generator being waited
for. -/
theorem Unnumbered.settled (unnumbered : Unnumbered before after)
    (none : before.awaited = none) (settled : after.awaited = .none) : Follows before [] after := by
  refine unnumbered.follows ?_
  rw [followed_of_awaited settled, followed_of_awaited none, unnumbered.last]

/-- A control frame is held against the last number, which its own replaces. -/
theorem followSequence_numbers (station : Station σ) (sequence : UInt32) :
    (station.followSequence sequence).session.lastSequence = some sequence ∧
      (station.followSequence sequence).session.stats.sequenceGaps =
        station.session.stats.sequenceGaps +
          (SequenceMark.gaps station.session.lastSequence [.frame sequence]).length ∧
      (station.followSequence sequence).gapsTold = station.gapsTold ++
        SequenceMark.gaps station.session.lastSequence [.frame sequence] := by
  unfold followSequence
  cases last : station.session.lastSequence with
  | none => exact ⟨rfl, rfl, (List.append_nil _).symm⟩
  | some previous =>
      simp only [SequenceMark.gaps, SequenceMark.gap?]
      by_cases next : sequence = previous + 1
      · simp only [if_pos next]
        exact ⟨rfl, rfl, (List.append_nil _).symm⟩
      · simp only [if_neg next]
        refine ⟨rfl, rfl, ?_⟩
        simp [gapsTold, emit, count, updateSession, Event.gap?]

/-- Whatever becomes of the rest of a frame, its number counts. -/
theorem handleControl_unnumbered (station : Station σ) (frame : List UInt8) (sequence : UInt32) :
    Unnumbered (station.followSequence sequence) (station.handleControl frame sequence) := by
  unfold handleControl
  simp only
  split
  · exact .refl _
  · next radio changes _ =>
      have decoded : Unnumbered (station.followSequence sequence)
          { station.followSequence sequence with radio := radio } := ⟨rfl, rfl, rfl⟩
      exact (decoded.trans (reportChanges_unnumbered _ changes)).trans
        (takeSamples_unnumbered _ frame)

theorem handleControl_follows (resting : station.isResting = true) (frame : List UInt8)
    (sequence : UInt32) :
    Follows station [.frame sequence] (station.handleControl frame sequence).rest := by
  rcases station.followSequence_numbers sequence with ⟨last, counted, told⟩
  have others := (station.handleControl_unnumbered frame sequence).rest
  rw [← followed_of_awaited (awaited_of_isResting resting)] at counted told
  exact ⟨others.last.trans last, others.counted.trans counted, others.told.trans told⟩

/-- A session that is to stop its generator forgets the last number if it has one to
stop. -/
theorem stopGenerator_follows_of_isSome (held : station.session.generator.isSome = true)
    (next : AfterStop) : Follows station [.forget] (station.stopGenerator next) := by
  rcases Option.isSome_iff_exists.mp held with ⟨id, held⟩
  rw [stopGenerator, held]
  exact ⟨rfl, rfl, (List.append_nil _).symm⟩

/-- What comes after a generator has no part in the numbers, if the last one has been
forgotten. -/
theorem afterStop_unnumbered (station : Station σ)
    (forgot : station.session.lastSequence = none) (next : AfterStop) :
    Unnumbered station (station.afterStop next) ∧ (station.afterStop next).awaited = none := by
  cases next with
  | start origin => exact ⟨station.startStreaming_unnumbered origin, rfl⟩
  | stop =>
      have forgets : Unnumbered station (station.updateSession fun session =>
          { session with lastSequence := none }) := ⟨forgot.symm, rfl, rfl⟩
      exact ⟨forgets.trans (dropClient_unnumbered _ .rest), (dropClient_settles _ .rest).awaited⟩
  | shutdown =>
      exact ⟨station.dropClient_unnumbered .shutdown,
        (station.dropClient_settles .shutdown).awaited⟩

/-- A stop packet makes the session forget the last number in any case. -/
theorem stopGenerator_stop_follows (station : Station σ) :
    Follows station [.forget] (station.stopGenerator .stop) := by
  cases held : station.session.generator with
  | some id => exact stopGenerator_follows_of_isSome (by rw [held]; rfl) .stop
  | none =>
      rcases afterStop_unnumbered (station.updateSession fun session =>
        { session with lastSequence := none }) rfl .stop with ⟨others, settled⟩
      rw [stopGenerator, held]
      exact ⟨(followed_of_awaited settled).trans others.last, others.counted,
        others.told.trans (List.append_nil _).symm⟩

theorem handlePacket_follows (resting : station.isResting = true) (packet : List UInt8)
    (origin : Origin) :
    Follows station (station.packetMark? packet).toList (station.handlePacket packet origin) := by
  have none := awaited_of_isResting resting
  unfold handlePacket packetMark?
  cases Packet.classify packet with
  | error fault =>
      have counted : Unnumbered station (station.count fun stats =>
          { stats with packetsDropped := stats.packetsDropped + 1 }) := ⟨rfl, rfl, rfl⟩
      exact (counted.emit rfl).rest.settled none rfl
  | ok kind =>
      cases kind with
      | controlIq sequence => exact handleControl_follows resting packet sequence
      | discovery =>
          exact (station.handleDiscovery_unnumbered origin).settled none
            (station.handleDiscovery_settles origin).awaited
      | start mode =>
          simp only
          cases held : station.session.generator with
          | some id => exact stopGenerator_follows_of_isSome (by rw [held]; rfl) (.start origin)
          | none =>
              rw [stopGenerator, held]
              exact (station.startStreaming_unnumbered origin).settled none rfl
      | stop =>
          have counted : Unnumbered station (station.count fun stats =>
              { stats with stops := stats.stops + 1 }) := ⟨rfl, rfl, rfl⟩
          exact (counted.settled none none).trans (stopGenerator_stop_follows _)
      | maintenance kind =>
          exact (station.handleMaintenance_unnumbered kind packet origin).settled none
            (station.handleMaintenance_settles kind packet origin).awaited

/-! ## Runs -/

/-- The session forgets the last number when its generator has come to its end, if it
has not been forgotten before. -/
theorem finishStop_follows (forgotten : station.followed = none) (outcome : StopOutcome)
    (next : AfterStop) : Follows station [] (station.finishStop outcome next) := by
  let forgetful := station.updateSession fun session => { session with
    lastSequence := none
    stats := { session.stats with
      forcedStops := session.stats.forcedStops + if outcome.isForced then 1 else 0 } }
  have told : Unnumbered forgetful (forgetful.emit (.stopped outcome.isForced)) :=
    (Unnumbered.refl forgetful).emit rfl
  rcases afterStop_unnumbered (forgetful.emit (.stopped outcome.isForced)) rfl next with
    ⟨others, settled⟩
  have all := told.trans others
  exact ⟨((followed_of_awaited settled).trans all.last).trans forgotten.symm, all.counted,
    all.told.trans (List.append_nil _).symm⟩

theorem TakesCalls.resume?_follows (takes : before.TakesCalls)
    (resumed : before.resume? = some after) : Follows before [] after := by
  rcases takes with ⟨byHand, ofCall⟩
  unfold Station.resume? at resumed
  cases phase : before.session.phase with
  | resting failure =>
      rw [phase] at resumed
      contradiction
  | stopping id deadline next =>
      rw [phase] at ofCall resumed
      rcases Option.map_eq_some_iff.mp resumed with ⟨⟨outcome, pool, transport⟩, _, rfl⟩
      have forgotten : before.followed = none := by rw [followed, phase]
      have stopped : Follows before []
          { before with pool := pool, transport := transport } :=
        Unnumbered.follows ⟨rfl, rfl, rfl⟩ rfl
      refine stopped.trans (finishStop_follows ?_ outcome next)
      exact forgotten
  | detaching next =>
      have none : before.awaited = none := by rw [awaited, phase]
      rw [phase] at ofCall
      simp only [phase, Option.ite_none_right_eq_some, Option.some.injEq] at resumed
      rw [← resumed.2]
      exact (before.finishDetach_unnumbered next).settled none
        (before.finishDetach_settles next).awaited
  | replying call =>
      have none : before.awaited = none := by rw [awaited, phase]
      rw [phase] at resumed
      have settled := (resumeReply?_settles resumed).awaited
      rcases Option.map_eq_some_iff.mp resumed with ⟨⟨transport, progress⟩, _, rfl⟩
      have moved : Unnumbered before { before with transport := transport } := ⟨rfl, rfl, rfl⟩
      cases progress with
      | waiting rest => exact Unnumbered.settled ⟨rfl, rfl, rfl⟩ none rfl
      | _ => exact (moved.trans (dropClient_unnumbered _ .answered)).settled none settled
  | _ =>
      rw [phase] at ofCall
      contradiction

/-- What something that happens has to do with the numbers. -/
def mark? (station : Station σ) : Happening σ → Option SequenceMark
  | .packet bytes _ => if station.isResting then station.packetMark? bytes else none
  | _ => none

variable [SinkDevice σ]

/-- What a run has to do with the numbers. -/
def marks (station : Station σ) : List (Happening σ) → List SequenceMark
  | [] => []
  | happening :: happenings =>
    (station.mark? happening).toList ++ (station.happen happening).marks happenings

theorem TakesCalls.happen_follows (takes : station.TakesCalls) {happening : Happening σ}
    (suits : happening.suitsCalls = true) :
    Follows station (station.mark? happening).toList (station.happen happening) := by
  have still : ∀ {after : Station σ}, after.session = station.session →
      after.gapsTold = station.gapsTold → Follows station [] after := by
    intro after session told
    refine Unnumbered.follows ⟨?_, ?_, told⟩ ?_
    · rw [session]
    · rw [session]
    · rw [followed, session, followed]
  cases happening with
  | packet bytes origin =>
      rw [Station.happen, mark?]
      split
      · next resting => exact handlePacket_follows resting bytes origin
      · exact still rfl rfl
  | step task =>
      rw [Station.happen]
      cases task with
      | session =>
          cases stepped : station.sessionStep? with
          | none =>
              rw [step?, stepped]
              exact still rfl rfl
          | some after =>
              rw [step?, stepped]
              exact takes.resume?_follows (takes.sessionStep? ▸ stepped)
      | consumer =>
          simp only [step?]
          rcases station.path.step? station.now with _ | ⟨path, _ | hertz⟩
          · exact still rfl rfl
          · exact still rfl rfl
          · refine still rfl ?_
            have tuned : Unnumbered { station with path := path }
                ({ station with path := path }.emit (.sinkTuned hertz)) :=
              (Unnumbered.refl _).emit rfl
            exact tuned.told
      | generator id =>
          simp only [step?]
          rcases station.pool.step? id station.radio.bank station.now station.transport with
            _ | ⟨pool, transport⟩
          · exact still rfl rfl
          · exact still rfl rfl
  | requeue task => exact still rfl rfl
  | wait millis => exact still rfl rfl
  | transport change => contradiction
  | request request =>
      cases request with
      | network event => exact still rfl rfl
      | sink change => exact still rfl rfl
      | _ => contradiction

theorem TakesCalls.afterAll_follows (takes : station.TakesCalls)
    {happenings : List (Happening σ)}
    (suits : ∀ happening ∈ happenings, happening.suitsCalls = true) :
    Follows station (station.marks happenings) (station.afterAll happenings) := by
  induction happenings generalizing station with
  | nil => exact Unnumbered.follows (.refl station) rfl
  | cons happening happenings ih =>
      rw [List.forall_mem_cons] at suits
      exact (takes.happen_follows suits.1).trans (ih (takes.happen suits.1) suits.2)

/-- Packets are handed to a session.  The gaps that it counts, and those that observers
are told of, are exactly those that the control frames among the packets show, each
against the one before it; the last number is forgotten with every stop packet and every
start packet that finds a generator held. -/
theorem sequence_gaps_of_calls (start : Station σ) (own : start.isOwnersTurn = true)
    (resting : start.isResting = true) (happenings : List (Happening σ))
    (suits : ∀ happening ∈ happenings, happening.suitsCalls = true) :
    let after := start.afterAll happenings
    let last := start.session.lastSequence
    let gaps := SequenceMark.gaps last (start.marks happenings)
    after.gapsTold = start.gapsTold ++ gaps ∧
      after.session.stats.sequenceGaps = start.session.stats.sequenceGaps + gaps.length ∧
      (after.isResting = true →
        after.session.lastSequence = SequenceMark.lastNumber last (start.marks happenings)) := by
  intro after last gaps
  have follows := (takesCalls_of_isResting own resting).afterAll_follows suits
  have begins : start.followed = last := followed_of_awaited (awaited_of_isResting resting)
  have told := follows.told
  have counted := follows.counted
  rw [begins] at told counted
  refine ⟨told, counted, fun rests => ?_⟩
  rw [← followed_of_awaited (awaited_of_isResting rests), follows.followed, begins]

/-- A number is skipped, and after a stop and a start packet one may begin with any. -/
theorem skipped_number_is_gap :
    let start : Station DiscardSink := initial default .ignore (Ring.empty 2 1) (.idle 0)
    let frame := fun number : UInt8 =>
      [0xEF, 0xFE, 1, 2, 0, 0, 0, number] ++ List.replicate 1024 0
    let run := start.afterAll [.packet (frame 7) .stream, .packet [0] .stream,
      .packet (frame 9) .stream, .packet Command.stop .stream, .packet (frame 3) .stream]
    run.gapsTold = [(8, 9)] := by
  intro start frame run
  have gaps := (sequence_gaps_of_calls start rfl rfl [.packet (frame 7) .stream,
    .packet [0] .stream, .packet (frame 9) .stream, .packet Command.stop .stream,
    .packet (frame 3) .stream] (by decide)).1
  exact gaps.trans (by decide +kernel)

end Station
end VirtualRadio
