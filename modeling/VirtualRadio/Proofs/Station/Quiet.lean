import VirtualRadio.Station.Run

namespace VirtualRadio

/-!
# Where nothing begins or ends to stream

Almost all that a session does has no part in streaming: it leaves the
generators alone, and the one that it holds, and tells only events that say
nothing of them.  Such a change is quiet.  Most quiet changes also settle the
session in a wait for something else than the end of a generator.

Each function of the session that is quiet has one lemma here.
-/

/-- Whether an event says that streaming began or ended. -/
def Event.marksStreaming : Event → Bool
  | started _ | stopped _ => true
  | _ => false

namespace Station

variable {σ : Type} {before middle after station : Station σ}

/-- The generator whose end the session waits for. -/
def awaited (station : Station σ) : Option Nat :=
  match station.session.phase with
  | .stopping id _ _ => some id
  | _ => none

theorem awaited_of_isResting (resting : station.isResting = true) : station.awaited = none := by
  unfold isResting at resting
  split at resting
  · next phase => rw [awaited, phase]
  · contradiction

/-- A change that tells no event of some kind. -/
def TellsNo (kind : Event → Bool) (before after : Station σ) : Prop :=
  ∃ news, after.events.toList = before.events.toList ++ news ∧ ∀ event ∈ news, kind event = false

namespace TellsNo

variable {kind : Event → Bool}

theorem silent (events : after.events = before.events) : TellsNo kind before after :=
  ⟨[], by rw [events, List.append_nil], fun _ member => absurd member List.not_mem_nil⟩

theorem trans (first : TellsNo kind before middle) (second : TellsNo kind middle after) :
    TellsNo kind before after := by
  rcases first with ⟨news, told, unmarked⟩
  rcases second with ⟨later, toldLater, unmarkedLater⟩
  refine ⟨news ++ later, ?_, ?_⟩
  · rw [toldLater, told, List.append_assoc]
  · intro event member
    rcases List.mem_append.mp member with earlier | later
    · exact unmarked event earlier
    · exact unmarkedLater event later

theorem emit (station : Station σ) {event : Event} (unmarked : kind event = false) :
    TellsNo kind station (station.emit event) := by
  refine ⟨[event], Array.toList_push, ?_⟩
  intro other member
  rw [List.mem_singleton.mp member]
  exact unmarked

end TellsNo

section Told

variable {α : Type} {view : Event → Option α}

/-- What events show of something, in the order in which they were told. -/
def told (view : Event → Option α) (station : Station σ) : List α :=
  station.events.toList.filterMap view

theorem told_emit (view : Event → Option α) (station : Station σ) (event : Event) :
    (station.emit event).told view = station.told view ++ (view event).toList := by
  rw [told, emit, Array.toList_push, List.filterMap_append, ← told]
  cases shown : view event <;> simp [shown]

/-- Where no event of a kind is told, nothing new is shown that only this kind shows. -/
theorem TellsNo.told_eq {kind : Event → Bool} (tells : TellsNo kind before after)
    (others : ∀ event, kind event = false → view event = none) :
    after.told view = before.told view := by
  rcases tells with ⟨news, told, unmarked⟩
  have unseen : news.filterMap view = [] :=
    List.filterMap_eq_nil_iff.mpr fun event member => others event (unmarked event member)
  rw [Station.told, told, List.filterMap_append, unseen, List.append_nil, Station.told]

end Told

/-- A change that has no part in streaming. -/
structure Quiet (before after : Station σ) : Prop where
  pool : after.pool = before.pool
  held : after.session.generator = before.session.generator
  told : ∃ news, after.events.toList = before.events.toList ++ news ∧
    ∀ event ∈ news, event.marksStreaming = false

/-- A change that has no part in streaming, after which no generator's end is
waited for. -/
structure Settles (before after : Station σ) : Prop where
  quiet : Quiet before after
  awaited : after.awaited = none

namespace Quiet

/-- A change that tells nothing. -/
theorem silent (pool : after.pool = before.pool)
    (held : after.session.generator = before.session.generator)
    (events : after.events = before.events) : Quiet before after :=
  ⟨pool, held, TellsNo.silent events⟩

theorem refl (station : Station σ) : Quiet station station :=
  silent rfl rfl rfl

theorem trans (first : Quiet before middle) (second : Quiet middle after) :
    Quiet before after :=
  ⟨second.pool.trans first.pool, second.held.trans first.held,
    TellsNo.trans first.told second.told⟩

theorem emit (station : Station σ) {event : Event} (unmarked : event.marksStreaming = false) :
    Quiet station (station.emit event) :=
  ⟨rfl, rfl, TellsNo.emit station unmarked⟩

theorem updateSession (station : Station σ) {change : Session → Session}
    (keeps : (change station.session).generator = station.session.generator) :
    Quiet station (station.updateSession change) :=
  silent rfl keeps rfl

theorem settles (first : Quiet before middle) (second : Settles middle after) :
    Settles before after :=
  ⟨first.trans second.quiet, second.awaited⟩

theorem setPhase (quiet : Quiet before after) {phase : SessionPhase}
    (waits : (after.setPhase phase).awaited = none) :
    Settles before (after.setPhase phase) :=
  ⟨quiet.trans (silent rfl rfl rfl), waits⟩

theorem rest (quiet : Quiet before after) : Settles before after.rest :=
  quiet.setPhase rfl

end Quiet

/-! ## Waits -/

theorem receive_settles (station : Station σ) : Settles station station.receive :=
  ⟨.silent rfl rfl rfl, rfl⟩

theorem joinConsumer_settles (station : Station σ) : Settles station station.joinConsumer := by
  unfold joinConsumer
  split
  · exact ⟨.silent rfl rfl rfl, rfl⟩
  · exact (Quiet.refl station).rest

theorem afterDetach_settles (station : Station σ) (next : AfterDetach) :
    Settles station (station.afterDetach next) := by
  cases next with
  | receive => exact station.receive_settles
  | rest => exact (Quiet.refl station).rest
  | answered =>
      have counted : Quiet station (station.count (fun stats =>
          { stats with discoveryReplies := stats.discoveryReplies + 1 })) :=
        .silent rfl rfl rfl
      exact (counted.trans (.emit _ rfl)).rest
  | shutdown => exact station.joinConsumer_settles

theorem dropClient_settles (station : Station σ) (next : AfterDetach) :
    Settles station (station.dropClient next) := by
  unfold dropClient
  split
  · exact station.afterDetach_settles next
  · exact ⟨.silent rfl rfl rfl, rfl⟩

theorem finishDetach_settles (station : Station σ) (next : AfterDetach) :
    Settles station (station.finishDetach next) := by
  have detached : Quiet station { station with transport := station.transport.detach.1 } :=
    .silent rfl rfl rfl
  exact (detached.trans (.emit _ rfl)).settles (afterDetach_settles _ next)

theorem finishAttach_settles (station : Station σ) (id : Nat) :
    Settles station (station.finishAttach id) := by
  have attached : Quiet station ({ station with transport := station.transport.attach id }
      |>.updateSession (fun session =>
        { session with client := some ⟨id, station.transport.network.peerOf id, []⟩ })) :=
    .silent rfl rfl rfl
  exact (attached.trans (.emit _ rfl)).rest

theorem tryAccept_settles (station : Station σ) : Settles station station.tryAccept := by
  unfold tryAccept
  split
  · exact (Quiet.refl station).rest
  · exact ⟨.silent rfl rfl rfl, rfl⟩
  · exact ⟨.silent rfl rfl rfl, rfl⟩

theorem missDatagram_settles (station : Station σ) : Settles station station.missDatagram := by
  unfold missDatagram
  simp only
  split
  · have reset : Quiet station
        (station.updateSession (fun session => { session with emptyReads := 0 })) :=
      .silent rfl rfl rfl
    exact reset.settles (tryAccept_settles _)
  · exact ⟨.silent rfl rfl rfl, rfl⟩

theorem abandonPhase_settles (station : Station σ) : Settles station station.abandonPhase := by
  unfold abandonPhase
  refine Quiet.rest ?_
  split
  · exact .refl station
  · exact .refl station
  · exact .refl station
  · exact .silent rfl rfl rfl
  · split
    · exact .refl station
    · exact .silent rfl rfl rfl
  · exact .silent rfl rfl rfl
  · exact .silent rfl rfl rfl
  · exact .silent rfl rfl rfl

theorem setDrive_quiet (station : Station σ) (drive : Drive) :
    Quiet station (station.setDrive drive) :=
  .silent rfl rfl rfl

theorem rejectExtraClient_quiet (station : Station σ) :
    Quiet station station.rejectExtraClient := by
  unfold rejectExtraClient
  split
  · exact .refl station
  · exact .silent rfl rfl rfl
  · exact .silent rfl rfl rfl

/-! ## Packets -/

theorem followSequence_quiet (station : Station σ) (sequence : UInt32) :
    Quiet station (station.followSequence sequence) := by
  unfold followSequence
  simp only
  refine Quiet.trans ?_ (.updateSession _ rfl)
  split
  · exact .refl station
  · split
    · exact .refl station
    · have counted : Quiet station (station.count (fun stats =>
          { stats with sequenceGaps := stats.sequenceGaps + 1 })) :=
        .silent rfl rfl rfl
      exact counted.trans (.emit _ rfl)

theorem selectFilter_quiet (station : Station σ) (frequency : UInt32) :
    Quiet station (station.selectFilter frequency) := by
  unfold selectFilter
  split
  · next band _ =>
      have noted : Quiet station (station.note (.filter band)) := .silent rfl rfl rfl
      exact noted.trans (.emit _ rfl)
  · exact .refl station

theorem reportChange_quiet (station : Station σ) (change : RegisterChange) :
    Quiet station (station.reportChange change) := by
  unfold reportChange
  refine Quiet.trans ?_ (.emit _ rfl)
  split
  · exact station.selectFilter_quiet _
  · exact .refl station

theorem reportChanges_quiet (station : Station σ) (changes : List RegisterChange) :
    Quiet station (changes.foldl reportChange station) := by
  induction changes generalizing station with
  | nil => exact .refl station
  | cons change changes ih => exact (station.reportChange_quiet change).trans (ih _)

/-- Nothing but the ring has to do with samples. -/
theorem takeSamples_eq_ring (station : Station σ) (frame : List UInt8) : ∃ ring,
    station.takeSamples frame = { station with path := { station.path with ring := ring } } := by
  unfold takeSamples
  split
  · split
    · exact ⟨_, rfl⟩
    · exact ⟨station.path.ring, rfl⟩
  · exact ⟨station.path.ring, rfl⟩

theorem takeSamples_quiet (station : Station σ) (frame : List UInt8) :
    Quiet station (station.takeSamples frame) := by
  rcases station.takeSamples_eq_ring frame with ⟨ring, taken⟩
  rw [taken]
  exact .silent rfl rfl rfl

theorem handleControl_quiet (station : Station σ) (frame : List UInt8) (sequence : UInt32) :
    Quiet station (station.handleControl frame sequence) := by
  have followed := station.followSequence_quiet sequence
  unfold handleControl
  simp only
  split
  · exact followed
  · next radio changes _ =>
      have decoded : Quiet (station.followSequence sequence)
          { station.followSequence sequence with radio := radio } :=
        .silent rfl rfl rfl
      exact ((followed.trans decoded).trans (reportChanges_quiet _ changes)).trans
        (takeSamples_quiet _ frame)

theorem handleDiscovery_settles (station : Station σ) (origin : Origin) :
    Settles station (station.handleDiscovery origin) := by
  unfold handleDiscovery
  cases origin with
  | datagram source =>
      simp only
      split
      · exact ⟨.silent rfl rfl rfl, rfl⟩
      · refine Quiet.rest (.trans ?_ (.emit _ rfl))
        exact .silent rfl rfl rfl
  | stream =>
      simp only
      split
      · exact (Quiet.refl station).rest
      · exact ⟨.silent rfl rfl rfl, rfl⟩

theorem handleMaintenance_settles (station : Station σ) (kind : MaintenanceKind)
    (packet : List UInt8) (origin : Origin) :
    Settles station (station.handleMaintenance kind packet origin) := by
  unfold handleMaintenance
  simp only
  split
  · exact ⟨.silent rfl rfl rfl, rfl⟩
  · exact ⟨.silent rfl rfl rfl, rfl⟩

/-! ## Polls -/

theorem resumeReply?_settles {call : StreamSend} (resumed : before.resumeReply? call = some after) :
    Settles before after := by
  rcases Option.map_eq_some_iff.mp resumed with ⟨⟨transport, progress⟩, _, rfl⟩
  have moved : Quiet before { before with transport := transport } := .silent rfl rfl rfl
  cases progress with
  | waiting call => exact ⟨.silent rfl rfl rfl, rfl⟩
  | finished outcome => exact moved.settles (dropClient_settles _ .answered)
  | crashed => exact moved.settles (dropClient_settles _ .answered)

end Station
end VirtualRadio
