import VirtualRadio.Proofs.Station.Locking
import VirtualRadio.Proofs.Station.Orderly
import VirtualRadio.Sink.Discard

namespace VirtualRadio

/-!
# Waiting for a generator that sends

A frame for the stream client is sent with the lock of the stream in hand, and the
client decides how long that takes.  A session that asks for the lock then waits for
the client, so it first has its generator stopped.  There is one exception: a session
whose read finds that the client sends no more asks at once, and stalls for as long as
the client takes nothing.

Otherwise a session waits for the lock only where no client is left that could hold up
the frame, or where no generator is held.  The link has no write half in the first case,
and so the next step of whoever holds the lock hands it on.
-/

namespace Transport

variable {before after : Transport} {user : LinkUser} {call : StreamSend}

/-- Without a write half nothing holds up a send. -/
theorem resumeStream?_of_writer_eq_none (writer : before.link.writer = none)
    (holds : before.link.lock.holder = some user) :
    before.resumeStream? user call = some (before.release, .finished (.error .notConnected)) := by
  have nowhere : ∀ bytes, before.writeStream bytes =
      (before.release, .finished (.error .notConnected)) := by
    intro bytes
    unfold writeStream
    rw [writer]
  cases call with
  | locking bytes =>
      have held : before.isHeldBy user = true := decide_eq_true holds
      rw [resumeStream?, if_pos held, nowhere]
  | writing bytes => rw [resumeStream?, nowhere]

/-- A write leaves the link its write half, or takes it. -/
theorem Writes.writer {bytes : List UInt8} {progress : SendProgress StreamSend}
    (writes : before.Writes bytes after progress) :
    after.link.writer = before.link.writer ∨ after.link.writer = none := by
  cases writes with
  | failed => exact .inr rfl
  | _ => exact .inl rfl

end Transport

/-- A generator makes nobody else wait, and attaches nobody. -/
theorem Generator.Turn.waiting {id : Nat} {before after : Generator StreamSend}
    {transport transportAfter : Transport}
    (turn : Turn id before transport after transportAfter) :
    (transportAfter.link.writer = transport.link.writer ∨ transportAfter.link.writer = none) ∧
      ∀ user ∈ transportAfter.link.lock.waiting,
        user ∈ transport.link.lock.waiting ∨ user = .generator id := by
  cases turn with
  | pace => exact ⟨.inl rfl, fun _ waits => .inl waits⟩
  | finish => exact ⟨.inl rfl, fun _ waits => .inl waits⟩
  | begin =>
      refine ⟨.inl rfl, fun user waits => ?_⟩
      change user ∈ (transport.link.lock.acquire (.generator id)).waiting at waits
      unfold Lock.acquire at waits
      split at waits
      · exact .inl waits
      · exact (List.mem_append.mp waits).imp_right List.mem_singleton.mp
  | resume call bytes _ progress sending goesOn writes =>
      refine ⟨writes.writer, fun user waits => .inl ?_⟩
      rcases writes.lock with ⟨_, _, kept⟩ | ⟨_, released⟩
      · rw [← kept]
        exact waits
      · rw [released] at waits
        exact transport.link.lock.waiting_release_subset waits

theorem Tended.held_eq_none {loose : Bool} {pool : GeneratorPool StreamSend}
    {held awaited : Option Nat} {drive : Drive} (tended : Tended loose pool held awaited drive)
    (idle : pool.isIdle = true) : held = none := by
  cases tended with
  | held id generator _ members working wanted =>
      have ended := List.all_eq_true.mp idle (id, generator) (by simp [members])
      rw [working.alive] at ended
      contradiction
  | _ => rfl

/-- Nobody but a generator that is held works on without having been asked to stop. -/
theorem Tended.isOver_or_cancelled {loose : Bool} {pool : GeneratorPool StreamSend}
    {awaited : Option Nat} {drive : Drive} {id : Nat} {generator : Generator StreamSend}
    (tended : Tended loose pool none awaited drive) (finds : pool.get? id = some generator) :
    generator.isOver = true ∨ generator.cancelled = true := by
  cases tended with
  | idle _ idle => exact .inl (GeneratorPool.isOver_of_isIdle idle finds)
  | awaited other _ _ members cancelled =>
      rcases GeneratorPool.get?_of_members members finds with ⟨_, rfl⟩
      exact .inr cancelled
  | left other _ _ members cancelled leaves =>
      rcases GeneratorPool.get?_of_members members finds with ⟨_, rfl⟩
      exact .inr cancelled

/-- Nobody has asked a generator to stop that is at work beside a session that polls. -/
theorem Tended.wanted {loose : Bool} {pool : GeneratorPool StreamSend} {held : Option Nat}
    {drive : Drive} {id : Nat} {generator : Generator StreamSend}
    (tended : Tended loose pool held none drive) (kept : drive.mayLeave loose = false)
    (finds : pool.get? id = some generator) (alive : generator.isOver = false) :
    generator.cancelled = false := by
  cases tended with
  | idle _ idle =>
      rw [GeneratorPool.isOver_of_isIdle idle finds] at alive
      contradiction
  | held other _ _ members working wanted =>
      rcases GeneratorPool.get?_of_members members finds with ⟨_, rfl⟩
      exact wanted
  | left other _ _ members cancelled leaves =>
      rw [kept] at leaves
      contradiction

namespace Station

variable {σ : Type} {before middle after station : Station σ}

/-- Whether the session waits for the lock while a generator holds it that nobody has
asked to stop and that cannot go on. -/
def isStalled (station : Station σ) : Bool :=
  decide (.session ∈ station.transport.link.lock.waiting) &&
    match station.transport.link.lock.holder with
    | some (.generator id) =>
      (station.pool.get? id).any (fun generator => !generator.cancelled) &&
        (station.pool.step? id station.radio.bank station.now station.transport).isNone
    | _ => false

theorem isStalled_iff : station.isStalled = true ↔
    .session ∈ station.transport.link.lock.waiting ∧
      ∃ id generator, station.transport.link.lock.holder = some (.generator id) ∧
        station.pool.get? id = some generator ∧ generator.cancelled = false ∧
        station.pool.step? id station.radio.bank station.now station.transport = none := by
  unfold isStalled
  rw [Bool.and_eq_true, decide_eq_true_iff]
  refine and_congr_right fun _ => ?_
  cases holder : station.transport.link.lock.holder with
  | none => simp
  | some user =>
      cases user with
      | session => simp
      | generator id => cases finds : station.pool.get? id <;> simp [finds]

/-- Whether a generator holds the lock of the stream. -/
def isSending (station : Station σ) : Bool :=
  match station.transport.link.lock.holder with
  | some (.generator _) => true
  | _ => false

/-- Whether the session finds the end of its client while a generator sends to it. -/
def losesUnderSend (station : Station σ) : Happening σ → Bool
  | .step .session => station.findsEnd && station.isSending
  | _ => false

/-- Whether nobody whom the client may hold up keeps the session waiting. -/
def WaitsFreely (station : Station σ) : Prop :=
  .session ∈ station.transport.link.lock.waiting →
    station.transport.link.writer = none ∨ station.session.generator = none

namespace WaitsFreely

theorem of_apart (locked : IsLocked station)
    (apart : station.session.phase.standing = .apart) : WaitsFreely station := by
  intro waits
  exact absurd apart ((locked.serves.places .session).mp (Lock.mem_queue_of_waiting waits))

theorem of_generator (released : station.session.generator = none) : WaitsFreely station :=
  fun _ => .inr released

end WaitsFreely

theorem standing_afterDetach (station : Station σ) (next : AfterDetach) :
    (station.afterDetach next).session.phase.standing = .apart := by
  cases next with
  | shutdown =>
      simp only [afterDetach, joinConsumer]
      split <;> rfl
  | _ => rfl

/-- Whoever drops the client has not yet dropped the write half, and stops no generator. -/
theorem dropClient_keeps (station : Station σ) (next : AfterDetach) :
    (station.dropClient next).transport.link.writer = station.transport.link.writer ∧
      (station.dropClient next).session.generator = station.session.generator := by
  unfold dropClient
  split
  · cases next with
    | shutdown =>
        simp only [afterDetach, joinConsumer]
        split <;> exact ⟨rfl, rfl⟩
    | _ => exact ⟨rfl, rfl⟩
  · exact ⟨rfl, rfl⟩

/-- After a stop the session holds no generator, or it waits for nothing. -/
theorem afterStop_generator (released : station.session.generator = none) (next : AfterStop) :
    (station.afterStop next).session.generator = none ∨
      (station.afterStop next).session.phase.standing = .apart := by
  cases next with
  | start origin => exact .inr rfl
  | stop => exact .inl ((dropClient_keeps _ _).2.trans released)
  | shutdown => exact .inl ((dropClient_keeps _ _).2.trans released)

theorem stopGenerator_generator (station : Station σ) (next : AfterStop) :
    (station.stopGenerator next).session.generator = none ∨
      (station.stopGenerator next).session.phase.standing = .apart := by
  unfold stopGenerator
  split
  · next released => exact afterStop_generator released next
  · exact .inl rfl

/-- A generator that holds the lock makes a send. -/
theorem IsLocked.exists_member (locked : IsLocked station) {id : Nat}
    (holds : station.transport.link.lock.holder = some (.generator id)) :
    ∃ generator call, station.pool.get? id = some generator ∧ generator.send? = some call := by
  have first := (Lock.head?_queue locked.serves.fair).trans holds
  have stands := (locked.serves.places _).mp (Lock.mem_queue_of_head? first)
  rw [standing, send?, GeneratorPool.send?] at stands
  cases finds : station.pool.get? id with
  | none => simp [finds, Standing.ofSend] at stands
  | some generator =>
      cases sends : generator.send? with
      | none => simp [finds, sends, Standing.ofSend] at stands
      | some call => exact ⟨generator, call, rfl, sends⟩

/-- Nobody holds the lock while the session is between two packets and no generator sends. -/
theorem holder_eq_none (locked : IsLocked station) (plain : station.session.phase.isPlain = true)
    (silent : station.isSending = false) : station.transport.link.lock.holder = none := by
  cases holds : station.transport.link.lock.holder with
  | none => rfl
  | some user =>
      cases user with
      | generator id => simp [isSending, holds] at silent
      | session =>
          have first := Lock.head?_queue locked.serves.fair
          rw [holds] at first
          have stands := (locked.serves.places .session).mp (Lock.mem_queue_of_head? first)
          exact absurd (SessionPhase.standing_of_isPlain plain) stands

/-- Whoever asks for a lock that nobody holds does not wait. -/
theorem dropClient_waitsFreely {next : AfterDetach} (locked : IsLocked (station.dropClient next))
    (free : station.transport.link.lock.holder = none) :
    WaitsFreely (station.dropClient next) := by
  unfold dropClient at locked ⊢
  split
  · next released =>
      rw [released] at locked
      exact .of_apart locked (standing_afterDetach station next)
  · next client attached =>
      rw [attached] at locked
      exact fun waits => absurd waits
        (locked.serves.not_mem_waiting (Lock.holder_acquire_of_free free _))

/-- A session that finds its client gone asks for the lock when nobody holds it, unless
the link has lost its write half. -/
theorem Turn.waitsFreely (turn : Turn before after) (orderly : IsOrderly true before)
    (locked : IsLocked before) (composed : before.session.IsComposed)
    (kept : before.findsEnd = true → before.isSending = false) : WaitsFreely after := by
  have lockedAfter := turn.isLocked locked
  have of_either : after.session.generator = none ∨ after.session.phase.standing = .apart →
      WaitsFreely after := fun either =>
    either.elim WaitsFreely.of_generator (WaitsFreely.of_apart lockedAfter)
  cases turn with
  | poll _ alike polling plain plainAfter receives =>
      exact of_either (.inr (SessionPhase.standing_of_isPlain plainAfter))
  | lose middle next alike polling plain cause =>
      -- Either a failed send has cost the link its write half, or nobody is sending.
      rcases cause with ⟨rfl, lost⟩ | ⟨rfl, ends⟩
      · have writer : before.transport.link.writer = none := by
          simpa [lost] using orderly.linked.attached
        exact fun _ => .inl ((dropClient_keeps _ _).1.trans (by rw [alike.link, writer]))
      · have free := holder_eq_none locked plain (kept ends)
        rw [← alike.link] at free
        exact dropClient_waitsFreely lockedAfter free
  | stop middle next alike polling plain asked =>
      exact of_either (middle.stopGenerator_generator next)
  | reply middle alike polling plain client silent =>
      have rested := (orderly.rest_of_isPlain plain).alike alike
      rw [← alike.isStreaming] at silent
      have idle := rested.isIdle_of_silent silent (by rw [alike.drive, polling])
      exact of_either (.inl (rested.tended.held_eq_none idle))
  | accept middle id network alike polling plain client accepts =>
      have linked := orderly.linked
      rw [client, SessionPhase.isDetaching_of_isPlain plain] at linked
      have writer := linked.writer_eq_none (Drive.mayLeave_of_isPolling polling true)
      exact fun _ => .inl ((congrArg Link.writer alike.link).trans writer)
  | finishStop id deadline next outcome pool transport phase stopped =>
      have released := composed.phase
      rw [Session.FitsPhase, phase] at released
      refine of_either (afterStop_generator ?_ next)
      exact released
  | finishDetach next phase held => exact of_either (.inr (standing_afterDetach _ next))
  | writeOn call rest transport phase resumed =>
      exact of_either (.inl (orderly.tended.held_eq_none (orderly.replying call phase)))
  | finishReply call transport progress phase resumed ended =>
      have released := orderly.tended.held_eq_none (orderly.replying call phase)
      exact of_either (.inl ((dropClient_keeps _ _).2.trans released))
  | finishAttach id phase held => exact of_either (.inr rfl)
  | finishJoin deadline consumer result phase joined => exact of_either (.inr rfl)
  | giveUp drive => exact of_either (stopGenerator_generator _ _)
  | fail fault drive phase => exact of_either (stopGenerator_generator _ _)
  | finish result failure drive phase =>
      exact of_either (.inr (congrArg SessionPhase.standing phase))
  | vanish drive idle =>
      rcases composed.of_dropped drive with ⟨failure, resting⟩
      exact of_either (.inr (congrArg SessionPhase.standing resting))

theorem Act.waitsFreely {happening : Happening σ} (act : Act before happening after)
    (free : WaitsFreely before) (orderly : IsOrderly true before) (locked : IsLocked before)
    (composed : before.session.IsComposed) (kept : before.losesUnderSend happening = false) :
    WaitsFreely after := by
  have lockedAfter := act.isLocked locked
  cases act with
  | turn _ _ turn made =>
      refine turn.waitsFreely orderly locked composed fun ends => ?_
      rcases made with rfl | ⟨_, resting⟩
      · simpa [losesUnderSend, ends] using kept
      · unfold isResting at resting
        unfold findsEnd at ends
        split at resting <;> simp_all
  | run drive resting => exact .of_apart lockedAfter rfl
  | cancel cancelled drive => exact free
  | reclaim result drive => exact free
  | letGo => exact .of_generator rfl
  | outside event => exact free
  | generator id pool transport stepped =>
      rcases GeneratorPool.step?_turn stepped with ⟨_, _, _, _, turn, _⟩
      intro waits
      rcases turn.waiting.2 _ waits with waits | is
      · rcases free waits with writer | released
        · exact .inl (turn.waiting.1.elim (fun same => same.trans writer) fun gone => gone)
        · exact .inr released
      · contradiction
  | aside _ _ beside =>
      unfold WaitsFreely
      rw [beside.transport, beside.session]
      exact free

/-! ## Histories -/

/-- What keeps a session from stalling. -/
structure IsUnhindered (station : Station σ) : Prop where
  composed : station.session.IsComposed
  orderly : IsOrderly true station
  locked : IsLocked station
  free : WaitsFreely station

/-- A generator that keeps the session waiting hands the lock on in its next step, unless
it was asked to stop. -/
theorem IsUnhindered.handsOn (unhindered : IsUnhindered station) {id : Nat}
    {generator : Generator StreamSend}
    (waits : .session ∈ station.transport.link.lock.waiting)
    (holds : station.transport.link.lock.holder = some (.generator id))
    (finds : station.pool.get? id = some generator) (wanted : generator.cancelled = false) :
    ∃ pool, station.pool.step? id station.radio.bank station.now station.transport =
      some (pool, station.transport.release) := by
  rcases unhindered.locked.exists_member holds with ⟨_, call, found, sends⟩
  cases finds.symm.trans found
  rcases unhindered.free waits with writer | released
  · rw [GeneratorPool.step?_of_send? finds sends,
      Transport.resumeStream?_of_writer_eq_none writer holds]
    exact ⟨_, rfl⟩
  · have tended := unhindered.orderly.tended
    rw [released] at tended
    rcases tended.isOver_or_cancelled finds with ended | cancelled
    · rw [Generator.send?_of_isOver ended] at sends
      contradiction
    · rw [wanted] at cancelled
      contradiction

theorem IsUnhindered.isStalled (unhindered : IsUnhindered station) :
    station.isStalled = false := by
  rw [Bool.eq_false_iff, Ne, isStalled_iff]
  rintro ⟨waits, id, generator, holds, finds, wanted, blocked⟩
  rcases unhindered.handsOn waits holds finds wanted with ⟨pool, stepped⟩
  rw [blocked] at stepped
  contradiction

/-- A session that finds the end of its client drops it at once. -/
theorem sessionStep?_of_findsEnd (composed : station.session.IsComposed)
    (ends : station.findsEnd = true) :
    station.session.phase.isPlain = true ∧ station.session.drive.isPolling = true ∧
      ∃ client network found, station.session.client = some client ∧
        station.transport.network.read? client.connection = some (found, network) ∧
        station.sessionStep? = some ({ station with
          transport := { station.transport with network := network } }.dropClient .rest) := by
  rw [findsEnd, Bool.and_eq_true, Bool.not_eq_true'] at ends
  rcases ends with ⟨heeds, ends⟩
  split at ends
  · next deadline client phase attached =>
      have polling := composed.isPolling phase rfl rfl
      have steps : station.sessionStep? = station.resumeRead? deadline := by
        cases drive : station.session.drive with
        | looping cancelled =>
            rw [drive, Drive.isCancelled] at heeds
            simp [sessionStep?, loopStep?, resume?, drive, heeds, phase]
        | byHand => simp [sessionStep?, resume?, drive, phase]
        | _ => simp [drive, Drive.isPolling] at polling
      refine ⟨by rw [phase]; rfl, polling, client, ?_⟩
      split at ends
      · next network reads =>
          exact ⟨network, .ended, attached, reads, by simp [steps, resumeRead?, attached, reads]⟩
      · next network reads =>
          exact ⟨network, .failed, attached, reads, by simp [steps, resumeRead?, attached, reads]⟩
      · contradiction
  · contradiction

/-- A session that finds the end of its client while a generator is held up by it stalls,
whatever made the session lose its client. -/
theorem IsUnhindered.stalls (unhindered : IsUnhindered station) (ends : station.findsEnd = true)
    {id : Nat} (holds : station.transport.link.lock.holder = some (.generator id))
    (blocked : station.pool.step? id station.radio.bank station.now station.transport = none) :
    ∃ after, station.sessionStep? = some after ∧ after.isStalled = true := by
  rcases sessionStep?_of_findsEnd unhindered.composed ends with
    ⟨plain, polling, client, network, found, attached, reads, stepped⟩
  rcases unhindered.locked.exists_member holds with ⟨generator, call, finds, sends⟩
  have wanted : generator.cancelled = false := by
    have tended := unhindered.orderly.tended
    rw [awaited_of_isPlain plain] at tended
    refine tended.wanted (Drive.mayLeave_of_isPolling polling true) finds ?_
    exact Generator.isOver_of_phase (Generator.phase_of_send? sends)
  -- To find the end of the stream changes nothing that the blocked generator looks at.
  have stuck : ∀ after : Transport, after.link.writer = station.transport.link.writer →
      (∀ other, (after.network.connections.getD other default).window =
        (station.transport.network.connections.getD other default).window) →
      station.pool.step? id station.radio.bank station.now after = none := by
    intro after writer windows
    rw [GeneratorPool.step?_of_send? finds sends, Option.map_eq_none_iff] at blocked ⊢
    cases call with
    | locking bytes =>
        have held : station.transport.isHeldBy (.generator id) = true := decide_eq_true holds
        rw [Transport.resumeStream?, if_pos held] at blocked
        contradiction
    | writing bytes =>
        rw [Transport.resumeStream?_eq_none_iff] at blocked ⊢
        rcases blocked with ⟨left, client, attached, takes⟩
        exact ⟨left, client, writer.trans attached, (windows client).trans takes⟩
  refine ⟨_, stepped, isStalled_iff.mpr ?_⟩
  simp only [dropClient, attached]
  refine ⟨?_, id, generator, ?_, finds, wanted, stuck _ rfl fun other => ?_⟩
  · change LinkUser.session ∈ (station.transport.link.lock.acquire .session).waiting
    rw [Lock.acquire, holds]
    exact List.mem_append_right _ (List.mem_singleton_self _)
  · change (station.transport.link.lock.acquire .session).holder = _
    rw [Lock.acquire, holds]
  · exact Network.window_read? reads other

theorem initial_isUnhindered (plan : StationPlan) (maintenance : MaintenanceHandler)
    (ring : Ring) (sink : σ) : IsUnhindered (initial plan maintenance ring sink) :=
  ⟨initial_isComposed plan maintenance ring sink, initial_isOrderly true plan maintenance ring sink,
    initial_isLocked plan maintenance ring sink, nofun⟩

variable [SinkDevice σ]

theorem history_isUnhindered (plan : StationPlan) (maintenance : MaintenanceHandler) (ring : Ring)
    (sink : σ) {happenings : List (Happening σ)}
    (kept : (initial plan maintenance ring sink).avoids reclaimsEarly happenings = true)
    (steady : (initial plan maintenance ring sink).avoids losesUnderSend happenings = true) :
    ((initial plan maintenance ring sink).history happenings).IsUnhindered := by
  refine history_keeps ?_ (initial_isUnhindered plan maintenance ring sink)
    (avoids_or kept steady)
  intro station happening ⟨composed, orderly, locked, free⟩ permitted avoided
  rw [Bool.or_eq_false_iff] at avoided
  have act := station.happen_act composed happening permitted
  exact ⟨act.isComposed composed, act.isOrderly orderly composed avoided.1, act.isLocked locked,
    act.waitsFreely free orderly locked composed avoided.2⟩

/-- A session never stalls, whatever its client does, if it does not find the end of its
client while a generator sends to it, and is never taken back with something left
behind.  If it waits for a generator that nobody has asked to stop then that one hands
the lock on in its next step.  But a session that finds the end of its client while a
generator is held up by it stalls at once. -/
theorem history_never_stalls (plan : StationPlan) (maintenance : MaintenanceHandler) (ring : Ring)
    (sink : σ) (happenings : List (Happening σ))
    (kept : (initial plan maintenance ring sink).avoids reclaimsEarly happenings = true)
    (steady : (initial plan maintenance ring sink).avoids losesUnderSend happenings = true) :
    let run := (initial plan maintenance ring sink).history happenings
    run.isStalled = false ∧
      (∀ id generator, .session ∈ run.transport.link.lock.waiting →
        run.transport.link.lock.holder = some (.generator id) →
        run.pool.get? id = some generator → generator.cancelled = false →
        ∃ pool, run.pool.step? id run.radio.bank run.now run.transport =
          some (pool, run.transport.release)) ∧
      (∀ id, run.findsEnd = true → run.transport.link.lock.holder = some (.generator id) →
        run.pool.step? id run.radio.bank run.now run.transport = none →
        ∃ after, run.sessionStep? = some after ∧ after.isStalled = true) := by
  have unhindered := history_isUnhindered plan maintenance ring sink kept steady
  exact ⟨unhindered.isStalled, fun id generator => unhindered.handsOn,
    fun id ends => unhindered.stalls ends⟩

/-- A session waits for a generator with a frame for a client that is gone by now. -/
theorem accepted_behind_generator_not_stalled :
    let start : Station DiscardSink := initial default .ignore (Ring.empty 2 1) (.idle 0)
    let run := start.history (untilStreaming ++
      [.step (.generator 0), .wait 50, .request (.network (.endOfStream 0)), .step .session,
        .step .session, .step (.generator 0), .step .session] ++ untilAccepted)
    run.transport.link.lock = ⟨some (.generator 0), [.session]⟩ ∧ run.isStalled = false :=
  ⟨by decide +kernel,
    (history_never_stalls _ _ _ _ _ (by decide +kernel) (by decide +kernel)).1⟩

/-- A session whose client has closed its side waits for a generator whose frame that
client does not take. -/
theorem closed_client_stalls :
    let start : Station DiscardSink := initial default .ignore (Ring.empty 2 1) (.idle 0)
    let run := start.history (untilStreaming ++
      [.step (.generator 0), .wait 50, .request (.network (.window 0 (.limited 0))),
        .step (.generator 0), .step (.generator 0), .request (.network (.endOfStream 0)),
        .step .session, .step .session])
    run.isStalled = true := by
  decide +kernel

end Station
end VirtualRadio
