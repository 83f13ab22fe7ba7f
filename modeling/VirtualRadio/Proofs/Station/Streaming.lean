import VirtualRadio.Proofs.Generator.Pool
import VirtualRadio.Proofs.Station.Quiet
import VirtualRadio.Proofs.Station.Watched

namespace VirtualRadio

/-!
# Streaming

Between the event that says that streaming began and the one that says that it
ended, the link is handed frames with the numbers zero, one, two and so on, and
at no other time is it handed any.  `Streaming.follow?` is the observer who
insists on that.

The invariant behind it is that a new generator begins only after every other
one is over, so the pool has at most one that is not.  While the radio streams
it is the one generator in the pool, and it is held by the session, or the
session waits for its end.
-/

/-- Whether the radio streams, and how many frames were handed to the link since
it began to. -/
inductive Streaming where
  | idle
  | running (frames : Nat)
  deriving DecidableEq, Repr

namespace Streaming

/-- Whether the last of the events that begin and end to stream was one that
begins. -/
def isRunning : Streaming → Bool
  | idle => false
  | running _ => true

/-- What an observer makes of one more sighting, if there is nothing wrong with
it. -/
def follow? : Streaming → Sighting → Option Streaming
  | idle, .event (.started _) => some (running 0)
  | running _, .event (.stopped _) => some idle
  | streaming, .event event => if event.marksStreaming then none else some streaming
  | idle, .frame _ => none
  | running frames, .frame bytes =>
    if Packet.sequenceOf bytes = UInt32.ofNat frames then some (running (frames + 1)) else none

/-- What an observer makes of all that was seen, in order. -/
def followAll? (streaming : Streaming) (seen : List Sighting) : Option Streaming :=
  seen.foldlM follow? streaming

theorem followAll?_append {streaming middle : Streaming} {seen : List Sighting}
    (first : streaming.followAll? seen = some middle) (later : List Sighting) :
    streaming.followAll? (seen ++ later) = middle.followAll? later := by
  unfold followAll? at first ⊢
  rw [List.foldlM_append, first]
  rfl

theorem follow?_unmarked (streaming : Streaming) {event : Event}
    (unmarked : event.marksStreaming = false) :
    streaming.follow? (.event event) = some streaming := by
  cases event with
  | started peer => contradiction
  | stopped forced => contradiction
  | _ => cases streaming <;> rfl

theorem followAll?_unmarked (streaming : Streaming) {events : List Event}
    (unmarked : ∀ event ∈ events, event.marksStreaming = false) :
    streaming.followAll? (events.map .event) = some streaming := by
  induction events with
  | nil => rfl
  | cons event events ih =>
      have first := streaming.follow?_unmarked (unmarked event List.mem_cons_self)
      rw [List.map_cons, followAll?, List.foldlM_cons, first]
      exact ih (fun other member => unmarked other (List.mem_cons_of_mem event member))

end Streaming

/-- Whether a generator has handed on so many frames, or is over. -/
def Generator.HasHanded {κ : Type} (generator : Generator κ) (frames : Nat) : Prop :=
  generator.isOver = true ∨ generator.cursor.sequence = UInt32.ofNat frames

namespace Station

variable {σ : Type} {before middle after station : Station σ} {streaming : Streaming}

/-- How the generators stand when the session waits for the end of one, or of
none. -/
def Streams (station : Station σ) (awaited : Option Nat) : Streaming → Prop
  | .idle =>
    station.session.generator = none ∧ awaited = none ∧ station.pool.isIdle = true
  | .running frames =>
    ∃ id generator, station.pool.members = [(id, generator)] ∧ generator.HasHanded frames ∧
      ((station.session.generator = some id ∧ awaited = none) ∨
        (station.session.generator = none ∧ awaited = some id))

/-- The invariant of a station whose polls are completed. -/
def Steady (station : Station σ) (streaming : Streaming) : Prop :=
  station.Streams station.awaited streaming

theorem Streams.congr {awaited : Option Nat} (streams : before.Streams awaited streaming)
    (pool : after.pool = before.pool)
    (held : after.session.generator = before.session.generator) :
    after.Streams awaited streaming := by
  cases streaming <;> simpa only [Streams, pool, held] using streams

theorem Streams.idle_of_not_held (streams : before.Streams none streaming)
    (free : before.session.generator = none) :
    streaming = .idle ∧ before.pool.isIdle = true := by
  cases streaming with
  | idle => exact ⟨rfl, streams.2.2⟩
  | running frames =>
      rcases streams with ⟨id, generator, _, _, ⟨held, _⟩ | ⟨_, awaits⟩⟩
      · rw [free] at held
        contradiction
      · contradiction

/-- A change during a poll, from a moment at which no generator's end is waited
for: what it tells is in order, and it leaves the station steady. -/
def Advances (before after : Station σ) : Prop :=
  ∀ streaming, before.Streams none streaming →
    ∃ news next, after.events.toList = before.events.toList ++ news ∧
      streaming.followAll? (news.map .event) = some next ∧ after.Steady next

theorem Settles.advances (settles : Settles before after) : Advances before after := by
  intro streaming streams
  rcases settles.quiet.told with ⟨news, told, unmarked⟩
  refine ⟨news, streaming, told, streaming.followAll?_unmarked unmarked, ?_⟩
  rw [Steady, settles.awaited]
  exact streams.congr settles.quiet.pool settles.quiet.held

theorem Quiet.advances (quiet : Quiet before middle) (advances : Advances middle after) :
    Advances before after := by
  intro streaming streams
  rcases quiet.told with ⟨news, told, unmarked⟩
  rcases advances streaming (streams.congr quiet.pool quiet.held) with
    ⟨later, next, toldLater, followed, steady⟩
  refine ⟨news ++ later, next, ?_, ?_, steady⟩
  · rw [toldLater, told, List.append_assoc]
  · rw [List.map_append,
      Streaming.followAll?_append (streaming.followAll?_unmarked unmarked)]
    exact followed

/-! ## Beginning and ending to stream -/

/-- Streaming begins only where nothing streams. -/
theorem startStreaming_advances (free : before.session.generator = none) (origin : Origin) :
    Advances before (before.startStreaming origin) := by
  intro streaming streams
  rcases streams.idle_of_not_held free with ⟨rfl, idle⟩
  refine ⟨[.started _], .running 0, Array.toList_push, rfl, before.pool.nextId,
    .spawn before.plan.profile, GeneratorPool.spawn_members idle _, .inr rfl, .inl ⟨rfl, rfl⟩⟩

theorem afterStop_advances (free : before.session.generator = none) (next : AfterStop) :
    Advances before (before.afterStop next) := by
  cases next with
  | start origin => exact startStreaming_advances free origin
  | stop =>
      have forgotten : Quiet before (before.updateSession (fun session =>
          { session with lastSequence := none })) := .updateSession before rfl
      exact (forgotten.settles (dropClient_settles _ .rest)).advances
  | shutdown => exact (before.dropClient_settles .shutdown).advances

theorem stopGenerator_advances (before : Station σ) (next : AfterStop) :
    Advances before (before.stopGenerator next) := by
  cases held : before.session.generator with
  | none =>
      rw [stopGenerator, held]
      exact afterStop_advances held next
  | some id =>
      rw [stopGenerator, held]
      intro streaming streams
      cases streaming with
      | idle =>
          rw [streams.1] at held
          contradiction
      | running frames =>
          rcases streams with ⟨other, generator, members, handed, ⟨same, _⟩ | ⟨_, awaits⟩⟩
          · rw [held, Option.some.injEq] at same
            subst same
            -- It stays in the pool and may still hand on frames until it is over.
            exact ⟨[], .running frames, (List.append_nil _).symm, rfl, id, generator.cancel,
              GeneratorPool.update_members members _, handed, .inr ⟨rfl, rfl⟩⟩
          · contradiction

/-- The end of a generator is told, and the session goes on. -/
theorem finishStop_followed (before : Station σ) (free : before.session.generator = none)
    (idle : before.pool.isIdle = true) (outcome : StopOutcome) (next : AfterStop)
    (frames : Nat) :
    ∃ news later, (before.finishStop outcome next).events.toList =
        before.events.toList ++ news ∧
      (Streaming.running frames).followAll? (news.map .event) = some later ∧
      (before.finishStop outcome next).Steady later := by
  unfold finishStop
  generalize noted : before.updateSession _ = counted
  have told : counted.events = before.events := by
    rw [← noted]
    rfl
  have stopped : (counted.emit (.stopped outcome.isForced)).Streams none .idle := by
    subst noted
    exact ⟨free, rfl, idle⟩
  rcases afterStop_advances stopped.1 next .idle stopped with
    ⟨news, later, toldLater, followed, steady⟩
  refine ⟨.stopped outcome.isForced :: news, later, ?_, followed, steady⟩
  rw [toldLater, emit, Array.toList_push, told, List.append_assoc]
  rfl

/-! ## Polls -/

theorem handlePacket_advances (before : Station σ) (packet : List UInt8) (origin : Origin) :
    Advances before (before.handlePacket packet origin) := by
  unfold handlePacket
  split
  · refine (Quiet.rest (.trans ?_ (.emit _ rfl))).advances
    exact .silent rfl rfl rfl
  · exact (before.handleControl_quiet packet _).rest.advances
  · exact (before.handleDiscovery_settles origin).advances
  · exact before.stopGenerator_advances (.start origin)
  · have counted : Quiet before
        (before.count (fun stats => { stats with stops := stats.stops + 1 })) :=
      .silent rfl rfl rfl
    exact counted.advances (stopGenerator_advances _ .stop)
  · exact (before.handleMaintenance_settles _ packet origin).advances

theorem takeUnit?_advances {client : StreamClient}
    (taken : before.takeUnit? client = some after) : Advances before after := by
  rcases Option.map_eq_some_iff.mp taken with ⟨⟨unit, rest⟩, _, rfl⟩
  exact Quiet.advances (.updateSession _ rfl) (handlePacket_advances _ unit .stream)

theorem takeUnit?_getD_advances {client : StreamClient} (settles : Settles before after) :
    Advances before ((before.takeUnit? client).getD after) := by
  cases taken : before.takeUnit? client with
  | none => exact settles.advances
  | some served => exact takeUnit?_advances taken

theorem beginPoll_advances (before : Station σ) : Advances before before.beginPoll := by
  unfold beginPoll
  split
  · exact before.receive_settles.advances
  · split
    · refine before.rejectExtraClient_quiet.advances (takeUnit?_getD_advances ?_)
      exact ⟨.silent rfl rfl rfl, rfl⟩
    · exact (before.dropClient_settles .receive).advances

theorem resumeReceive?_advances {deadline : Nat}
    (resumed : before.resumeReceive? deadline = some after) : Advances before after := by
  unfold resumeReceive? at resumed
  split at resumed
  · split at resumed
    · cases resumed
      exact before.missDatagram_settles.advances
    · contradiction
  · next received network _ =>
      have moved : Quiet before
          { before with transport := { before.transport with network := network } } :=
        .silent rfl rfl rfl
      simp only at resumed
      split at resumed
      · cases resumed
        refine moved.advances (Quiet.advances (.updateSession _ ?_) (handlePacket_advances _ _ _))
        rfl
      · split at resumed
        · cases resumed
          exact (moved.settles (missDatagram_settles _)).advances
        · cases resumed
          exact (moved.setPhase rfl).advances

theorem resumeRead?_advances {deadline : Nat}
    (resumed : before.resumeRead? deadline = some after) : Advances before after := by
  unfold resumeRead? at resumed
  split at resumed
  · cases resumed
    exact (Quiet.refl before).rest.advances
  · split at resumed
    · split at resumed
      · cases resumed
        exact (Quiet.refl before).rest.advances
      · contradiction
    · next found network _ =>
        have moved : Quiet before
            { before with transport := { before.transport with network := network } } :=
          .silent rfl rfl rfl
        simp only at resumed
        split at resumed
        · cases resumed
          refine moved.advances (takeUnit?_getD_advances ?_)
          exact ⟨.silent rfl rfl rfl, rfl⟩
        · cases resumed
          exact (moved.settles (dropClient_settles _ .rest)).advances
        · cases resumed
          exact (moved.settles (dropClient_settles _ .rest)).advances

end Station
end VirtualRadio
