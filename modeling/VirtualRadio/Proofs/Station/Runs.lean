import VirtualRadio.Proofs.Station.Streaming
import VirtualRadio.Sink.Discard

namespace VirtualRadio

/-!
# Runs of completed polls

Every move of a watched station keeps the invariant of streaming, whatever
stands in the place of the link, and shows an observer nothing out of order.  A
whole run does so by induction on its moves.
-/

namespace Station

variable {σ : Type} {before after station : Station σ} {streaming : Streaming}

/-- A move that hands some frames to the link: what is seen of it is in order,
and the station stays steady. -/
def Continues (before after : Station σ) (frames : List (List UInt8)) : Prop :=
  ∀ streaming, before.Steady streaming →
    ∃ next, streaming.followAll?
        ((after.newsSince before).map .event ++ frames.map .frame) = some next ∧
      after.Steady next

theorem newsSince_eq {news : List Event}
    (told : after.events.toList = before.events.toList ++ news) :
    after.newsSince before = news := by
  rw [newsSince, told, ← Array.length_toList, List.drop_left]

/-- A move that hands on no frame is in order when what it tells is. -/
theorem continues_of_told {news : List Event} {next : Streaming}
    (told : after.events.toList = before.events.toList ++ news)
    (followed : streaming.followAll? (news.map .event) = some next)
    (steady : after.Steady next) :
    ∃ later, streaming.followAll?
        ((after.newsSince before).map .event ++ [].map .frame) = some later ∧
      after.Steady later := by
  refine ⟨next, ?_, steady⟩
  rw [newsSince_eq told, List.map_nil, List.append_nil]
  exact followed

theorem Advances.continues (advances : Advances before after) (free : before.awaited = none) :
    Continues before after [] := by
  intro streaming steady
  rw [Steady, free] at steady
  rcases advances streaming steady with ⟨news, next, told, followed, steadyAfter⟩
  exact continues_of_told told followed steadyAfter

theorem Quiet.continues (quiet : Quiet before after) (same : after.awaited = before.awaited) :
    Continues before after [] := by
  intro streaming steady
  rcases quiet.told with ⟨news, told, unmarked⟩
  refine continues_of_told told (streaming.followAll?_unmarked unmarked) ?_
  rw [Steady, same]
  exact Streams.congr steady quiet.pool quiet.held

theorem Continues.refl (station : Station σ) : Continues station station [] :=
  (Quiet.refl station).continues rfl

theorem stopping_continues {id deadline : Nat} {next : AfterStop}
    (phase : before.session.phase = .stopping id deadline next)
    {outcome : StopOutcome} {pool : GeneratorPool StreamSend} {transport : Transport}
    (stopped : before.pool.stopped? id deadline before.now before.transport =
      some (outcome, pool, transport)) :
    Continues before ({ before with pool := pool, transport := transport }.finishStop outcome next)
      [] := by
  intro streaming steady
  have awaits : before.awaited = some id := by rw [awaited, phase]
  rw [Steady, awaits] at steady
  cases streaming with
  | idle =>
      rcases steady with ⟨_, awaits, _⟩
      contradiction
  | running frames =>
      rcases steady with ⟨other, generator, members, _, ⟨_, none⟩ | ⟨free, same⟩⟩
      · contradiction
      · rw [Option.some.injEq] at same
        subst same
        have idle := GeneratorPool.stopped?_isIdle members stopped
        rcases finishStop_followed { before with pool := pool, transport := transport } free idle
            outcome next frames with ⟨news, later, told, followed, steadyAfter⟩
        exact continues_of_told told followed steadyAfter

theorem resume?_continues (resumed : before.resume? = some after) :
    Continues before after [] := by
  unfold resume? at resumed
  cases phase : before.session.phase with
  | stopping id deadline next =>
      rw [phase] at resumed
      rcases Option.map_eq_some_iff.mp resumed with ⟨⟨outcome, pool, transport⟩, stopped, rfl⟩
      exact stopping_continues phase stopped
  | resting failure =>
      rw [phase] at resumed
      contradiction
  | receiving deadline =>
      rw [phase] at resumed
      exact (resumeReceive?_advances resumed).continues (by rw [awaited, phase])
  | reading deadline =>
      rw [phase] at resumed
      exact (resumeRead?_advances resumed).continues (by rw [awaited, phase])
  | detaching next =>
      simp only [phase] at resumed
      split at resumed
      · cases resumed
        exact (before.finishDetach_settles next).advances.continues (by rw [awaited, phase])
      · contradiction
  | replying call =>
      rw [phase] at resumed
      exact (resumeReply?_settles resumed).advances.continues (by rw [awaited, phase])
  | attaching id =>
      simp only [phase] at resumed
      split at resumed
      · cases resumed
        exact (before.finishAttach_settles id).advances.continues (by rw [awaited, phase])
      · contradiction
  | joining deadline =>
      rw [phase] at resumed
      rcases Option.map_eq_some_iff.mp resumed with ⟨⟨consumer, result⟩, _, rfl⟩
      have closed : Quiet before
          { before with path := { before.path with consumer := consumer.close } } :=
        .silent rfl rfl rfl
      exact closed.rest.advances.continues (by rw [awaited, phase])

theorem sessionStep?_continues (kept : before.isGivingUp = false)
    (stepped : before.sessionStep? = some after) : Continues before after [] := by
  unfold sessionStep? at stepped
  cases drive : before.session.drive with
  | byHand =>
      rw [drive] at stepped
      exact resume?_continues stepped
  | looping cancelled =>
      simp only [drive, loopStep?] at stepped
      split at stepped
      · next asked =>
          cases stepped
          rw [asked] at drive
          -- The session is at rest, so the wait that it abandons is for nothing.
          simp only [isGivingUp, drive, Bool.not_eq_false'] at kept
          have closing : Quiet before (before.abandonPhase.setDrive (.closing (.ok ()))) :=
            before.abandonPhase_settles.quiet.trans (setDrive_quiet _ _)
          exact (closing.advances (stopGenerator_advances _ .shutdown)).continues
            (awaited_of_isResting kept)
      · split at stepped
        · next phase =>
            cases stepped
            exact before.beginPoll_advances.continues (by rw [awaited, phase])
        · next fault phase =>
            cases stepped
            exact ((before.setDrive_quiet _).advances
              (stopGenerator_advances _ .shutdown)).continues (by rw [awaited, phase])
        · exact resume?_continues stepped
  | closing result =>
      simp only [drive] at stepped
      split at stepped
      · cases stepped
        exact (before.setDrive_quiet _).continues rfl
      · exact resume?_continues stepped
  | returned result =>
      rw [drive] at stepped
      contradiction
  | dropped =>
      simp only [drive] at stepped
      split at stepped
      · cases stepped
        exact Quiet.continues (.silent rfl rfl rfl) rfl
      · contradiction

theorem apply_continues (request : Request σ) (admitted : before.admits request = true) :
    Continues before (before.apply request) [] := by
  cases request with
  | network event => exact Quiet.continues (.silent rfl rfl rfl) rfl
  | sink change => exact Quiet.continues (.silent rfl rfl rfl) rfl
  | poll => exact before.beginPoll_advances.continues (awaited_of_isResting admitted)
  | shutdown =>
      exact (before.stopGenerator_advances .shutdown).continues (awaited_of_isResting admitted)
  | run =>
      exact (before.setDrive_quiet _).rest.advances.continues (awaited_of_isResting admitted)
  | cancel =>
      unfold apply
      simp only
      split
      · exact (before.setDrive_quiet _).continues rfl
      · exact .refl before
  | reclaim => exact (before.setDrive_quiet _).continues rfl
  | drop => contradiction

theorem consumer_continues [SinkDevice σ] (stepped : step? .consumer before = some after) :
    Continues before after [] := by
  simp only [step?, Option.bind_eq_bind, Option.bind_eq_some_iff] at stepped
  rcases stepped with ⟨⟨path, tuned⟩, _, told⟩
  cases tuned with
  | none =>
      cases told
      exact Quiet.continues (.silent rfl rfl rfl) rfl
  | some hertz =>
      cases told
      have moved : Quiet before { before with path := path } := .silent rfl rfl rfl
      exact (moved.trans (.emit _ rfl)).continues rfl

/-- Whatever stands in the place of the link, the only generator that is not
over hands on the frame whose turn it is. -/
theorem generator_continues {link : FrameOutput Transport StreamSend} {id : Nat}
    {pool : GeneratorPool StreamSend} {transport : Transport} {frames : List (List UInt8)}
    (turn : before.pool.turn? link id before.radio.bank before.now before.transport =
      some (pool, transport, frames)) :
    Continues before { before with pool := pool, transport := transport } frames := by
  rcases GeneratorPool.turn?_eq_some turn with ⟨generator, generatorAfter, found, moved, rfl⟩
  have going := Generator.turn?_isOver moved
  have silent : ({ before with
      pool := before.pool.update id (fun _ => generatorAfter), transport := transport } :
        Station σ).newsSince before = [] := newsSince_eq (List.append_nil _).symm
  intro streaming steady
  rw [silent, List.map_nil, List.nil_append]
  cases streaming with
  | idle =>
      have ended := GeneratorPool.isOver_of_isIdle steady.2.2 found
      rw [going] at ended
      contradiction
  | running count =>
      rcases steady with ⟨other, only, members, handed, held⟩
      -- The one that moves is the only one there is, and it has not lost count.
      rcases GeneratorPool.get?_of_members members found with ⟨rfl, rfl⟩
      have number := handed.resolve_left (by rw [going]; exact Bool.false_ne_true)
      have updated := GeneratorPool.update_members members (fun _ => generatorAfter)
      rcases Generator.turn?_frames moved with ⟨rfl, cursor⟩ | ⟨frame, rfl, carries, cursor⟩
      · refine ⟨.running count, rfl, id, generatorAfter, updated, .inr ?_, held⟩
        rw [cursor, number]
      · refine ⟨.running (count + 1), ?_, id, generatorAfter, updated, .inr ?_, held⟩
        · have next : (Streaming.running count).follow? (.frame frame) =
              some (.running (count + 1)) := if_pos (carries.trans number)
          rw [List.map_singleton, Streaming.followAll?, List.foldlM_cons, next]
          rfl
        · rw [cursor, StatusCursor.advance, number]
          exact (UInt32.ofNat_add count 1).symm

theorem turn_continues [SinkDevice σ] (station : Station σ) (move : Move σ) :
    Continues station (station.turn move).1 (station.turn move).2 := by
  cases move with
  | request request =>
      unfold turn
      simp only
      split
      · next admitted => exact apply_continues request admitted
      · exact .refl station
  | session =>
      unfold turn
      simp only
      split
      · exact .refl station
      · next kept =>
          cases stepped : station.sessionStep? with
          | none => exact .refl station
          | some after => exact sessionStep?_continues (Bool.not_eq_true _ ▸ kept) stepped
  | consumer =>
      unfold turn
      cases stepped : step? .consumer station with
      | none => exact .refl station
      | some after => exact consumer_continues stepped
  | generator id link =>
      unfold turn
      simp only
      split
      · next pool transport frames turned => exact generator_continues turned
      · exact .refl station
  | wait millis => exact Quiet.continues (.silent rfl rfl rfl) rfl
  | transport change => exact Quiet.continues (.silent rfl rfl rfl) rfl

/-- At most one generator of a steady station is not over. -/
theorem Steady.alive_le_one (steady : station.Steady streaming) :
    station.pool.alive.length ≤ 1 := by
  cases streaming with
  | idle =>
      rw [GeneratorPool.alive_of_isIdle steady.2.2]
      exact Nat.zero_le 1
  | running frames =>
      rcases steady with ⟨id, generator, members, _⟩
      exact GeneratorPool.alive_of_members members

theorem Steady.held_iff (steady : station.Steady streaming) (resting : station.isResting = true) :
    station.session.generator.isSome = streaming.isRunning := by
  rw [Steady, awaited_of_isResting resting] at steady
  cases streaming with
  | idle => rw [steady.1]; rfl
  | running frames =>
      rcases steady with ⟨id, generator, _, _, ⟨held, _⟩ | ⟨_, awaits⟩⟩
      · rw [held]; rfl
      · contradiction

theorem initial_steady (plan : StationPlan) (maintenance : MaintenanceHandler) (ring : Ring)
    (sink : σ) : (initial plan maintenance ring sink).Steady .idle :=
  ⟨rfl, rfl, rfl⟩

end Station

namespace Watched

variable {σ : Type} [SinkDevice σ]

/-- The invariant of a watched run: an observer has nothing to object to, and
what he has made of it is how the station stands. -/
def InOrder (watched : Watched σ) (streaming : Streaming) : Prop :=
  Streaming.idle.followAll? watched.seen = some streaming ∧ watched.station.Steady streaming

theorem InOrder.after {watched : Watched σ} {streaming : Streaming}
    (inOrder : watched.InOrder streaming) (moves : List (Move σ)) :
    ∃ next, (watched.after moves).InOrder next := by
  induction moves generalizing watched streaming with
  | nil => exact ⟨streaming, inOrder⟩
  | cons move moves ih =>
      rcases watched.station.turn_continues move streaming inOrder.2 with ⟨next, followed, steady⟩
      have seen : (watched.move move).seen = watched.seen ++
          (((watched.station.turn move).1.newsSince watched.station).map .event ++
            (watched.station.turn move).2.map .frame) := List.append_assoc _ _ _
      have moved : (watched.move move).InOrder next := by
        refine ⟨?_, steady⟩
        rw [seen, Streaming.followAll?_append inOrder.1]
        exact followed
      exact ih moved

/-- Whatever the link makes of the frames, in every run of completed polls at
most one generator is not over, the events that begin and end to stream
alternate, the frames between them are numbered from zero without a gap, there
are no others, and at rest a generator is held exactly while the radio
streams. -/
theorem streaming_in_order (plan : StationPlan) (maintenance : MaintenanceHandler) (ring : Ring)
    (sink : σ) (moves : List (Move σ)) :
    let run := (ofStation (Station.initial plan maintenance ring sink)).after moves
    run.station.pool.alive.length ≤ 1 ∧
      ∃ streaming, Streaming.idle.followAll? run.seen = some streaming ∧
        (run.station.isResting = true →
          run.station.session.generator.isSome = streaming.isRunning) := by
  have begins : (ofStation (Station.initial plan maintenance ring sink)).InOrder .idle :=
    ⟨rfl, Station.initial_steady plan maintenance ring sink⟩
  rcases begins.after moves with ⟨streaming, followed, steady⟩
  exact ⟨steady.alive_le_one, streaming, followed, steady.held_iff⟩

/-- A start packet, a frame that is sent, and one that has nowhere to go. -/
example :
    let packet := [0xEF, 0xFE, 0x04, 0x01] ++ List.replicate 60 0
    let station := Station.initial default .ignore (Ring.empty 2 1) (DiscardSink.idle 0)
    let run := (ofStation station).after
      [.request (.network (.datagram ⟨.unspecified, 1024⟩ packet)), .request .poll, .session,
        .generator 0 inferInstance, .wait 100, .generator 0 inferInstance,
        .transport (fun _ => .initial), .generator 0 inferInstance, .generator 0 inferInstance]
    Streaming.idle.followAll? run.seen = some (.running 2) := by
  decide

end Watched
end VirtualRadio
