import VirtualRadio.Proofs.Station.FrameSteps
import VirtualRadio.Proofs.Station.Generators
import VirtualRadio.Proofs.Station.Refusals
import VirtualRadio.Proofs.Station.Starters
import VirtualRadio.Sink.Discard

namespace VirtualRadio

/-!
# Where frames go

A frame goes to the client that the link has attached, and if there is none to the
address that the last start packet came from.  A frame that begins while a client is
attached is his: if he is gone when its turn comes it is lost, and so is a frame that
begins without a client after a start over the stream.  Every lost frame counts as
failed.

Only the generator that the session holds begins frames, and it was started for the last
start packet.  So it does not matter where earlier start packets came from, nor who sent
other packets.
-/

open FrameStep

namespace Station

variable {σ : Type} {station : Station σ} {starter : Option Origin} {id : Nat}
  {before after : Generator StreamSend} {moved : Transport} {lines : List FrameStep}

/-! ## The log -/

/-- The step of a generator that becomes another one while the sockets and the link come to
be `moved`. -/
def frameStep (station : Station σ) (starter : Option Origin) (id : Nat)
    (before after : Generator StreamSend) (moved : Transport) : FrameStep where
  sender := id
  number := before.handled
  client := station.transport.link.client?
  starter := starter
  faulty := station.transport.network.sendFault.isSome
  broken := station.transport.link.writer.any station.transport.network.isBroken
  begins := before.begins? station.now
  resumes := before.send?.isSome
  departs := station.transport.network.departed moved.network
  sent := after.sent - before.sent
  failed := after.failed - before.failed

/-- The step that a generator makes in something that happens, if one does. -/
def frameStep? (station : Station σ) (starter : Option Origin) : Happening σ → Option FrameStep
  | .step (.generator id) => do
    let before ← station.pool.get? id
    let (after, moved) ← before.step? id station.radio.bank station.now station.transport
    return station.frameStep starter id before after moved
  | _ => none

/-- The steps that generators make in a history. -/
def frameSteps [SinkDevice σ] (station : Station σ) (starter : Option Origin) :
    List (Happening σ) → List FrameStep
  | [] => []
  | happening :: happenings =>
    if station.permits happening then
      (station.frameStep? starter happening).toList ++
        (station.happen happening).frameSteps (station.starterAfter starter happening) happenings
    else
      station.frameSteps starter happenings

/-! ## At every moment -/

/-- What is so at every moment of a history, if `starter` sent the last start packet. -/
structure InOrder (starter : Option Origin) (station : Station σ) : Prop where
  composed : station.session.IsComposed
  locked : IsLocked station
  untouched : Untouched station.transport (station.spares [])
  attached : station.transport.link.attached = station.transport.link.writer.isSome
  wanted : HoldsWanted station
  started : StartedBy starter station

theorem client?_eq_writer (order : InOrder starter station) :
    station.transport.link.client? = station.transport.link.writer := by
  unfold Link.client?
  rw [order.attached]
  cases station.transport.link.writer <;> rfl

/-- What a generator does with a frame is what it is meant to do. -/
theorem frameStep_isRouted (order : InOrder starter station)
    (finds : station.pool.get? id = some before)
    (stepped : before.step? id station.radio.bank station.now station.transport =
      some (after, moved)) :
    (station.frameStep starter id before after moved).IsRouted := by
  have client := client?_eq_writer order
  have alive := Generator.isOver_of_step? stepped
  have unattached : station.transport.link.attached = false →
      station.transport.link.client? = none := fun lost => by rw [Link.client?, lost]; rfl
  -- A frame begins only in a generator that was not asked to stop, so the session holds it.
  have owner : ∀ {frame}, before.begins? station.now = some frame →
      ∃ origin, starter = some origin ∧ station.transport.link.peer = origin.peer? := by
    intro frame begins
    refine order.started.held id (order.wanted id before finds alive ?_)
    exact Generator.cancelled_of_begins? begins
  have silent : before.send? = none → before.send?.isSome = false := fun quiet => by
    rw [quiet]
    rfl
  have still : ∀ {late early : Nat}, late = early → late - early = 0 := by
    rintro late _ rfl
    exact Nat.sub_self late
  have counts : ∀ {late early : Nat}, late = early + 1 → late - early = 1 := by
    rintro _ early rfl
    exact Nat.add_sub_cancel_left early 1
  cases Generator.step?_sends stepped with
  | pause _ quiet none quietAfter same kept =>
      exact .pause none (silent quiet) (Network.departed_self _) (still same) (still kept)
  | queue frame _ quiet starts attached asks same kept =>
      have writes : station.transport.link.writer.isSome = true := order.attached ▸ attached
      rcases Option.isSome_iff_exists.mp writes with ⟨writer, found⟩
      exact .queue frame writer starts (silent quiet) (client.trans found)
        (Network.departed_self _) (still same) (still kept)
  | refuse frame _ quiet starts attached cause quietAfter same kept =>
      refine .refuse frame starts (silent quiet) (unattached attached) ?_
        (Network.departed_self _) (still same) (counts kept)
      rcases owner starts with ⟨origin, starter, peer⟩
      refine cause.imp_left fun none => starter.trans ?_
      cases origin with
      | stream => rfl
      | datagram source => simp [peer, Origin.peer?] at none
  | cast frame _ target network quiet starts attached peer casts quietAfter same kept =>
      rcases owner starts with ⟨origin, starter, peered⟩
      rcases Network.departed_send casts with ⟨left, others⟩
      rw [peer] at peered
      cases origin with
      | stream => contradiction
      | datagram source =>
          cases peered
          refine .cast frame target starts (silent quiet) (unattached attached) starter ?_ left
            others (counts same) (still kept)
          change station.transport.network.sendFault.isSome = false
          rw [Network.sendFault_of_send casts]
          rfl
  | resume call _ progress sending resumed =>
      have begins : before.begins? station.now = none := Generator.begins?_of_send? sending
      have resumes : before.send?.isSome = true := by rw [sending]; rfl
      rcases Transport.resumeStream?_eq_some resumed with ⟨bytes, _, writes⟩
      rcases writes.departed order.untouched.known with
        ⟨⟨fault, rfl⟩, nothing⟩ | ⟨writer, rest, found, _, outcome, _, others⟩
      · refine .lose begins resumes ?_ nothing (Nat.sub_self _) (Nat.add_sub_cancel_left _ _)
        cases found : station.transport.link.writer with
        | none => exact .inl (client.trans found)
        | some writer =>
            refine .inr ?_
            change station.transport.link.writer.any _ = true
            rw [found]
            exact Transport.isBroken_of_resumeStream? resumed found
      · rcases outcome with ⟨rfl, _⟩ | rfl
        · exact .stream writer begins resumes (client.trans found) others
            (Nat.le_of_eq (Nat.add_sub_cancel_left _ _)) (Nat.sub_self _)
        · exact .stream writer begins resumes (client.trans found) others
            (Nat.le_trans (Nat.le_of_eq (Nat.sub_self _)) (Nat.zero_le 1)) (Nat.sub_self _)

/-- How a log agrees with the generators and the link that the history has led to. -/
structure Records (station : Station σ) (log : List FrameStep) : Prop where
  /-- Nobody has made a step before he was started. -/
  early : ∀ line ∈ log, line.sender < station.pool.nextId
  /-- Nobody has made a step with a frame that is yet to come. -/
  handled : ∀ line ∈ log, ∀ generator, station.pool.get? line.sender = some generator →
    generator.isOver = false → line.number ≤ generator.handled
  ones : ∀ sender number, GoesToOne (stepsOf log sender number)
  current : ∀ sender generator, station.pool.get? sender = some generator →
    generator.isOver = false →
    Stage station.transport.link (stepsOf log sender generator.handled) generator.send?

theorem Records.manages {earlier later : Station σ} {log : List FrameStep}
    (records : Records earlier log) (manages : Manages (WritesNothing earlier.pool) earlier later) :
    Records later log := by
  refine ⟨fun line among => Nat.lt_of_lt_of_le (records.early line among) manages.ids,
    fun line among generator finds alive => ?_, records.ones,
    fun sender generator finds alive => ?_⟩
  · cases manages.comes _ generator finds alive with
    | kept before there lives send handled held =>
        rw [handled]
        exact records.handled line among before there lives
    | started new quiet handled held =>
        exact absurd (records.early line among) (Nat.not_lt_of_le new)
  · cases manages.comes _ generator finds alive with
    | kept before there lives send handled held =>
        rw [handled, send]
        refine (records.current sender before there lives).relink fun rest writes => ?_
        refine manages.client.writer_eq fun free => free sender rest ?_
        rw [GeneratorPool.send?, there]
        exact writes
    | started new quiet handled held =>
        have nobody : stepsOf log sender generator.handled = [] := by
          refine stepsOf_eq_nil fun line among same => ?_
          have early := records.early line among
          rw [same] at early
          exact absurd early (Nat.not_lt_of_le new)
        rw [quiet, nobody]
        exact .none _

theorem Records.frameStep {log : List FrameStep} (order : InOrder starter station)
    (records : Records station log) (finds : station.pool.get? id = some before)
    (stepped : before.step? id station.radio.bank station.now station.transport =
      some (after, moved)) :
    Records { station with pool := station.pool.update id fun _ => after, transport := moved }
      (log ++ [station.frameStep starter id before after moved]) := by
  have alive := Generator.isOver_of_step? stepped
  have poolStepped : station.pool.step? id station.radio.bank station.now station.transport =
      some (station.pool.update id fun _ => after, moved) :=
    GeneratorPool.step?_of_get? finds stepped
  have exchanges := generator_exchanges order.locked poolStepped
  have stage := records.current id before finds alive
  rcases stage.step (station.frameStep starter id before after moved)
    (Generator.step?_sends stepped) order.untouched.known rfl rfl rfl rfl with ⟨ones, next⟩
  have further : before.handled ≤ after.handled := by
    rcases next with ⟨same, _⟩ | ⟨later, _⟩ <;> omega
  have found : ∀ {other generator},
      (station.pool.update id fun _ => after).get? other = some generator →
      other = id ∧ generator = after ∨
        other ≠ id ∧ station.pool.get? other = some generator := by
    intro other generator there
    rw [GeneratorPool.get?_update, finds] at there
    split at there
    · next same => exact .inl ⟨same, (Option.some.inj there).symm⟩
    · next apart => exact .inr ⟨apart, there⟩
  refine ⟨fun line among => ?_, fun line among generator there lives => ?_, fun sender number => ?_,
    fun sender generator there lives => ?_⟩
  · rcases List.mem_append.mp among with among | last
    · exact records.early line among
    · rw [List.mem_singleton.mp last]
      exact order.locked.numbered.lt_nextId finds
  · rcases found there with ⟨same, rfl⟩ | ⟨apart, there⟩
    · rcases List.mem_append.mp among with among | last
      · exact Nat.le_trans (records.handled line among before (same ▸ finds) alive) further
      · rw [List.mem_singleton.mp last]
        exact further
    · rcases List.mem_append.mp among with among | last
      · exact records.handled line among generator there lives
      · rw [List.mem_singleton.mp last] at apart
        exact absurd rfl apart
  · rw [stepsOf_concat]
    split
    · next key =>
        rw [← key.1, ← key.2]
        exact ones
    · exact records.ones sender number
  · rw [stepsOf_concat]
    rcases found there with ⟨rfl, rfl⟩ | ⟨apart, there⟩
    · rcases next with ⟨same, stage⟩ | ⟨later, quiet⟩
      · rw [if_pos ⟨rfl, same.symm⟩, same]
        exact stage
      · have nobody : stepsOf log sender generator.handled = [] := by
          refine stepsOf_eq_nil fun line among same number => ?_
          have early := records.handled line among before (same ▸ finds) alive
          omega
        have apart : before.handled ≠ generator.handled := by omega
        rw [if_neg fun key => apart key.2, nobody, quiet]
        exact .none _
    · rw [if_neg fun key => apart key.1.symm]
      refine (records.current sender generator there lives).relink fun rest writes => ?_
      refine exchanges.writer_eq fun free => free sender rest apart ?_
      rw [GeneratorPool.send?, there]
      exact writes

/-! ## Histories -/

theorem initial_inOrder (plan : StationPlan) (maintenance : MaintenanceHandler) (ring : Ring)
    (sink : σ) : InOrder none (initial plan maintenance ring sink) where
  composed := initial_isComposed plan maintenance ring sink
  locked := initial_isLocked plan maintenance ring sink
  untouched := (initial_hasRefused plan maintenance ring sink).untouched
  attached := rfl
  wanted := fun _ _ finds => by contradiction
  started := ⟨fun _ pending => by contradiction, fun _ held => by contradiction⟩

theorem initial_records (plan : StationPlan) (maintenance : MaintenanceHandler) (ring : Ring)
    (sink : σ) : Records (initial plan maintenance ring sink) [] where
  early := fun _ among => absurd among List.not_mem_nil
  handled := fun _ among => absurd among List.not_mem_nil
  ones := fun _ _ => (Stage.none (initial plan maintenance ring sink).transport.link).goesToOne
  current := fun _ _ finds => by contradiction

variable {happening : Happening σ}

theorem step?_of_frameStep?_eq_none (none : station.frameStep? starter happening = none) (id : Nat)
    (made : happening = .step (.generator id)) :
    station.pool.step? id station.radio.bank station.now station.transport = .none := by
  subst made
  simp only [frameStep?, Option.bind_eq_bind, Option.bind_eq_none_iff] at none
  cases finds : station.pool.get? id with
  | none => rw [GeneratorPool.step?, finds]; rfl
  | some generator =>
      cases stepped :
          generator.step? id station.radio.bank station.now station.transport with
      | none => simp [GeneratorPool.step?, finds, stepped]
      | some made => exact absurd (none generator finds made stepped) (by simp)

theorem frameStep?_eq_some {line : FrameStep}
    (some : station.frameStep? starter happening = some line) :
    ∃ id before after moved, happening = .step (.generator id) ∧
      station.pool.get? id = .some before ∧
      before.step? id station.radio.bank station.now station.transport = .some (after, moved) ∧
      line = station.frameStep starter id before after moved := by
  unfold frameStep? at some
  split at some
  · next id =>
      simp only [Option.bind_eq_bind, Option.bind_eq_some_iff] at some
      rcases some with ⟨before, finds, ⟨after, moved⟩, stepped, same⟩
      exact ⟨id, before, after, moved, rfl, finds, stepped, (Option.some.inj same).symm⟩
  · contradiction

variable [SinkDevice σ]

/-- Whatever happens, everything stays in order, and the log goes on as it should. -/
theorem InOrder.happen {log : List FrameStep} (order : InOrder starter station)
    (records : Records station log) (permitted : station.permits happening = true) :
    InOrder (station.starterAfter starter happening) (station.happen happening) ∧
      Records (station.happen happening)
        (log ++ (station.frameStep? starter happening).toList) ∧
      ∀ line ∈ station.frameStep? starter happening, line.IsRouted := by
  have act := station.happen_act order.composed happening permitted
  have composed := act.isComposed order.composed
  have locked := act.isLocked order.locked
  have untouched := act.untouched order.locked.numbered order.composed order.untouched
  have started := happen_startedBy order.composed order.started permitted
  cases made : station.frameStep? starter happening with
  | none =>
      have manages := act.manages order.locked order.composed (step?_of_frameStep?_eq_none made)
      refine ⟨⟨composed, locked, untouched, manages.client.attached_eq order.attached,
        manages.holdsWanted order.wanted, started⟩, ?_, fun _ among => by contradiction⟩
      rw [Option.toList_none, List.append_nil]
      exact records.manages manages
  | some line =>
      rcases frameStep?_eq_some made with ⟨id, before, after, moved, rfl, finds, stepped, rfl⟩
      have pool : station.pool.step? id station.radio.bank station.now station.transport =
          some (station.pool.update id fun _ => after, moved) :=
        GeneratorPool.step?_of_get? finds stepped
      have becomes : station.happen (.step (.generator id)) =
          { station with pool := station.pool.update id fun _ => after, transport := moved } := by
        simp only [Station.happen, step?, pool, Option.bind_eq_bind, Option.bind_some]
        rfl
      have exchanges := generator_exchanges order.locked pool
      have goesOn := records.frameStep order finds stepped
      rw [becomes] at composed locked untouched started ⊢
      refine ⟨⟨composed, locked, untouched, exchanges.attached_eq order.attached,
        generator_holdsWanted order.wanted pool, started⟩, goesOn, fun line among => ?_⟩
      cases among
      exact frameStep_isRouted order finds stepped

theorem InOrder.frameSteps {log : List FrameStep} (order : InOrder starter station)
    (records : Records station log) (happenings : List (Happening σ)) :
    (∀ line ∈ station.frameSteps starter happenings, line.IsRouted) ∧
      ∀ sender number,
        GoesToOne (stepsOf (log ++ station.frameSteps starter happenings) sender number) := by
  induction happenings generalizing station starter log with
  | nil =>
      rw [Station.frameSteps, List.append_nil]
      exact ⟨fun _ among => absurd among List.not_mem_nil, records.ones⟩
  | cons happening happenings ih =>
      rw [Station.frameSteps]
      split
      · next permitted =>
          rcases order.happen records permitted with ⟨order, records, routed⟩
          rcases ih order records with ⟨later, ones⟩
          rw [← List.append_assoc]
          refine ⟨fun line among => ?_, ones⟩
          rcases List.mem_append.mp among with now | among
          · exact routed line (Option.mem_toList.mp now)
          · exact later line among
      · exact ih order records

/-- Whatever happens, every frame goes to one destination at most.  In each step that a
generator makes, whatever leaves goes to the client that the link has attached at that
moment, or without one to the sender of the last start packet; and a frame that has
nowhere to go counts as failed. -/
theorem frames_go_to_one_destination (plan : StationPlan) (maintenance : MaintenanceHandler)
    (ring : Ring) (sink : σ) (happenings : List (Happening σ)) :
    let log := (initial plan maintenance ring sink).frameSteps none happenings
    (∀ line ∈ log, line.IsRouted ∧
      ∀ destination, line.departs destination ≠ [] → line.target? = some destination) ∧
    ∀ sender number, GoesToOne (stepsOf log sender number) := by
  intro log
  rcases (initial_inOrder plan maintenance ring sink).frameSteps
    (initial_records plan maintenance ring sink) happenings with ⟨routed, ones⟩
  exact ⟨fun line among => ⟨routed line among, fun _ => (routed line among).target?_eq⟩, ones⟩

/-- Another address asks to stream, and the next frame goes there. -/
theorem restart_redirects_frames :
    let first : SocketAddress := ⟨.unspecified, 1024⟩
    let second : SocketAddress := ⟨.unspecified, 1025⟩
    let start : Station DiscardSink := initial default .ignore (Ring.empty 2 1) (.idle 0)
    let log := start.frameSteps none
      [.request .run, .request (.network (.datagram first (Command.start 1))), .step .session,
        .step .session, .step (.generator 0), .wait 50, .step (.generator 0),
        .request (.network (.datagram second (Command.start 1))), .step .session, .step .session,
        .step (.generator 0), .step (.generator 0), .step .session, .step (.generator 1), .wait 50,
        .step (.generator 1)]
    (log.filter fun line => line.sent = 1).map FrameStep.target? =
        [some (.peer first), some (.peer second)] ∧
      ∀ sender number, GoesToOne (stepsOf log sender number) :=
  ⟨by decide +kernel, (frames_go_to_one_destination _ _ _ _ _).2⟩

end Station
end VirtualRadio
