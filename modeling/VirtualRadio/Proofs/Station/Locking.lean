import VirtualRadio.Proofs.Generator.Sends
import VirtualRadio.Proofs.Station.Phases

namespace VirtualRadio

/-!
# The queue for the lock of the stream

The session has a place in the queue while it waits to drop the client, to answer a
probe over the stream or to attach a connection, and a generator has one while it
sends a frame to the client.  Nobody else is in the queue, nobody is in it twice, and
whoever writes stands first.  This is so in every history, also after waits were given
up and a session was let go of.
-/

/-- The send that a session is in that waits so. -/
def SessionPhase.send? : SessionPhase → Option StreamSend
  | replying call => some call
  | _ => none

/-- How a session that waits so stands to the lock of the stream. -/
def SessionPhase.standing : SessionPhase → Standing
  | detaching _ | attaching _ => .asked
  | replying call => call.standing
  | _ => .apart

theorem SessionPhase.standing_of_isPlain {phase : SessionPhase} (plain : phase.isPlain = true) :
    phase.standing = .apart := by
  cases phase <;> first | rfl | contradiction

namespace Station

variable {σ : Type} {before middle after station : Station σ}

/-- The send that one who uses the link is in. -/
def send? (station : Station σ) : LinkUser → Option StreamSend
  | .session => station.session.phase.send?
  | .generator id => station.pool.send? id

/-- How one who uses the link stands to the lock of the stream. -/
def standing (station : Station σ) : LinkUser → Standing
  | .session => station.session.phase.standing
  | .generator id => .ofSend (station.send? (.generator id))

/-- Whether the lock of the stream is used in good order. -/
structure IsLocked (station : Station σ) : Prop where
  numbered : station.pool.IsNumbered
  serves : station.transport.link.lock.Serves station.standing

theorem send?_of_replying {call : StreamSend} (phase : station.session.phase = .replying call) :
    station.send? .session = some call := by
  rw [send?, phase]
  rfl

/-- Who makes a send stands as his send has it. -/
theorem standing_of_send? {user : LinkUser} {call : StreamSend}
    (sends : station.send? user = some call) : station.standing user = call.standing := by
  cases user with
  | generator id => rw [standing, sends]; rfl
  | session =>
      cases phase : station.session.phase <;> simp [send?, SessionPhase.send?, phase] at sends
      rw [standing, phase, ← sends]
      rfl

namespace IsLocked

theorem congr (locked : IsLocked before) (pool : after.pool = before.pool)
    (lock : after.transport.link.lock = before.transport.link.lock)
    (phase : after.session.phase.standing = before.session.phase.standing) : IsLocked after := by
  refine ⟨pool ▸ locked.numbered, ?_⟩
  rw [lock]
  refine locked.serves.congr fun user => ?_
  cases user with
  | session => exact phase
  | generator id => rw [standing, standing, send?, send?, pool]

theorem rest (locked : IsLocked station) (apart : station.session.phase.standing = .apart) :
    IsLocked station.rest :=
  locked.congr rfl rfl apart.symm

theorem rest_of_isPlain (locked : IsLocked station)
    (plain : station.session.phase.isPlain = true) : IsLocked station.rest :=
  locked.rest (SessionPhase.standing_of_isPlain plain)

theorem alike (locked : IsLocked before.rest) (alike : Alike before after) :
    IsLocked after.rest :=
  locked.congr alike.pool (congrArg Link.lock alike.link) rfl

/-- Only the place of the session changes. -/
theorem move (pool : after.pool = before.pool) (user : LinkUser) (other : user ≠ .session) :
    after.standing user = before.standing user := by
  cases user with
  | session => contradiction
  | generator id => rw [standing, standing, send?, send?, pool]

/-- The session asks for the lock. -/
theorem asks (locked : IsLocked before.rest) (pool : after.pool = before.pool)
    (lock : after.transport.link.lock = before.transport.link.lock.acquire .session)
    (asks : after.session.phase.standing = .asked) : IsLocked after := by
  refine ⟨pool ▸ locked.numbered, ?_⟩
  rw [lock]
  exact locked.serves.acquire rfl asks (move pool)

/-- The session is done with the lock. -/
theorem leaves (locked : IsLocked before)
    (holds : before.transport.link.lock.holder = some .session)
    (pool : after.pool = before.pool)
    (lock : after.transport.link.lock = before.transport.link.lock.release)
    (leaves : after.session.phase.standing = .apart) : IsLocked after := by
  refine ⟨pool ▸ locked.numbered, ?_⟩
  rw [lock]
  exact locked.serves.release holds leaves (move pool)

/-- The session gives up its place. -/
theorem givesUp (locked : IsLocked before) (pool : after.pool = before.pool)
    (lock : after.transport.link.lock = before.transport.link.lock.abandon .session)
    (leaves : after.session.phase.standing = .apart) : IsLocked after := by
  refine ⟨pool ▸ locked.numbered, ?_⟩
  rw [lock]
  exact locked.serves.abandon leaves (move pool)

/-- A change of the generators that leaves every send as it is. -/
theorem pool (locked : IsLocked before) (numbered : after.pool.IsNumbered)
    (sends : ∀ id, after.send? (.generator id) = before.send? (.generator id))
    (lock : after.transport.link.lock = before.transport.link.lock)
    (phase : after.session.phase.standing = before.session.phase.standing) : IsLocked after := by
  refine ⟨numbered, ?_⟩
  rw [lock]
  refine locked.serves.congr fun user => ?_
  cases user with
  | session => exact phase
  | generator id => rw [standing, standing, sends]

/-! A session that is about to wait has no place in the queue any more. -/

theorem joinConsumer (locked : IsLocked station.rest) : IsLocked station.joinConsumer := by
  unfold Station.joinConsumer
  split
  · exact locked.congr rfl rfl rfl
  · exact locked

theorem afterDetach (locked : IsLocked station.rest) (next : AfterDetach) :
    IsLocked (station.afterDetach next) := by
  cases next with
  | shutdown => exact locked.joinConsumer
  | _ => exact locked.congr rfl rfl rfl

theorem dropClient (locked : IsLocked station.rest) (next : AfterDetach) :
    IsLocked (station.dropClient next) := by
  unfold Station.dropClient
  split
  · exact locked.afterDetach next
  · exact locked.asks rfl rfl rfl

theorem startStreaming (locked : IsLocked station.rest) (origin : Origin) :
    IsLocked (station.startStreaming origin) := by
  refine locked.pool (locked.numbered.spawn _) (fun id => ?_) rfl rfl
  exact GeneratorPool.send?_spawn locked.numbered _ id

theorem afterStop (locked : IsLocked station.rest) (next : AfterStop) :
    IsLocked (station.afterStop next) := by
  cases next with
  | start origin => exact locked.startStreaming origin
  | stop =>
      refine IsLocked.dropClient ?_ .rest
      exact locked.congr rfl rfl rfl
  | shutdown => exact locked.dropClient .shutdown

/-- To ask a generator to stop changes nothing of its send. -/
theorem cancel (locked : IsLocked before) {id : Nat} (pool : after.pool = before.pool.cancel id)
    (lock : after.transport.link.lock = before.transport.link.lock)
    (phase : after.session.phase.standing = before.session.phase.standing) : IsLocked after := by
  refine locked.pool (pool ▸ locked.numbered.update id _) (fun other => ?_) lock phase
  rw [send?, send?, pool, GeneratorPool.send?_cancel]

theorem stopGenerator (locked : IsLocked station.rest) (next : AfterStop) :
    IsLocked (station.stopGenerator next) := by
  unfold Station.stopGenerator
  split
  · exact locked.afterStop next
  · exact locked.cancel rfl rfl rfl

/-- A generator that is over, or ended from outside, has no place in the queue. -/
theorem stopped {id deadline now : Nat} {outcome : StopOutcome}
    {stoppedPool : GeneratorPool StreamSend} {transport : Transport}
    (locked : IsLocked before)
    (stopped : before.pool.stopped? id deadline now before.transport =
      some (outcome, stoppedPool, transport))
    (pool : after.pool = stoppedPool) (lock : after.transport.link.lock = transport.link.lock)
    (phase : after.session.phase.standing = before.session.phase.standing) : IsLocked after := by
  rcases GeneratorPool.stopped?_sends locked.numbered stopped with ⟨numbered, ended, others, moved⟩
  subst pool
  cases sends : before.pool.send? id with
  | none =>
      rw [sends] at moved
      refine locked.pool numbered (fun other => ?_) (lock.trans (by rw [moved]; rfl)) phase
      by_cases same : other = id
      · rw [same, send?, send?, ended, sends]
      · exact others other same
  | some call =>
      rw [sends] at moved
      refine ⟨numbered, ?_⟩
      rw [lock, moved]
      refine locked.serves.abandon ?_ fun user apart => ?_
      · change Standing.ofSend (after.pool.send? id) = .apart
        rw [ended]
        rfl
      · cases user with
        | session => exact phase
        | generator other =>
            have different : other ≠ id := fun same => apart (congrArg LinkUser.generator same)
            rw [standing, standing, send?, send?, others other different]

theorem finishStop {id deadline : Nat} {next : AfterStop} {outcome : StopOutcome}
    {stoppedPool : GeneratorPool StreamSend} {transport : Transport}
    (locked : IsLocked station)
    (phase : station.session.phase = .stopping id deadline next)
    (stopped : station.pool.stopped? id deadline station.now station.transport =
      some (outcome, stoppedPool, transport)) :
    IsLocked
      ({ station with pool := stoppedPool, transport := transport }.finishStop outcome next) := by
  unfold Station.finishStop
  refine IsLocked.afterStop ?_ next
  exact locked.stopped stopped rfl rfl (by rw [phase]; rfl)

theorem abandonPhase (locked : IsLocked station) : IsLocked station.abandonPhase := by
  cases phase : station.session.phase with
  | stopping id deadline next =>
      simp only [Station.abandonPhase, phase]
      split
      · exact locked.rest (by rw [phase]; rfl)
      · exact locked.congr rfl rfl (by rw [phase]; rfl)
  | detaching next =>
      simp only [Station.abandonPhase, phase]
      exact locked.givesUp rfl rfl rfl
  | replying call =>
      simp only [Station.abandonPhase, phase]
      exact locked.givesUp rfl rfl rfl
  | attaching id =>
      simp only [Station.abandonPhase, phase]
      exact locked.givesUp rfl rfl rfl
  | _ =>
      simp only [Station.abandonPhase, phase]
      exact locked.congr rfl rfl (by rw [phase]; rfl)

/-- Whoever goes on with a send holds the lock. -/
theorem holder_of_send? (locked : IsLocked station) {user : LinkUser} {call : StreamSend}
    {bytes : List UInt8} (sends : station.send? user = some call)
    (goesOn : call = .locking bytes ∧ station.transport.isHeldBy user = true ∨
      call = .writing bytes) : station.transport.link.lock.holder = some user := by
  rcases goesOn with ⟨_, held⟩ | rfl
  · exact of_decide_eq_true held
  · exact locked.serves.holder (standing_of_send? sends)

end IsLocked

theorem Turn.isLocked (turn : Turn before after) (locked : IsLocked before) : IsLocked after := by
  cases turn with
  | poll _ alike polling plain plainAfter receives =>
      have rested := (locked.rest_of_isPlain plain).alike alike
      exact rested.congr rfl rfl (SessionPhase.standing_of_isPlain plainAfter)
  | lose middle next alike polling plain cause =>
      exact ((locked.rest_of_isPlain plain).alike alike).dropClient next
  | stop middle next alike polling plain asked =>
      exact ((locked.rest_of_isPlain plain).alike alike).stopGenerator next
  | reply middle alike polling plain client silent =>
      exact ((locked.rest_of_isPlain plain).alike alike).asks rfl rfl rfl
  | accept middle id network alike polling plain client accepts =>
      exact ((locked.rest_of_isPlain plain).alike alike).asks rfl rfl rfl
  | finishStop id deadline next outcome pool transport phase stopped =>
      exact locked.finishStop phase stopped
  | finishDetach next phase held =>
      refine IsLocked.afterDetach ?_ next
      exact locked.leaves (of_decide_eq_true held) rfl rfl rfl
  | writeOn call rest transport phase resumed =>
      rcases Transport.resumeStream?_eq_some resumed with ⟨bytes, goesOn, writes⟩
      have holds := locked.holder_of_send? (send?_of_replying phase) goesOn
      rcases writes.lock with ⟨_, waits, kept⟩ | ⟨⟨_, finished⟩, _⟩
      · cases waits
        refine ⟨locked.numbered, ?_⟩
        change transport.link.lock.Serves _
        rw [kept]
        exact locked.serves.work holds (by rw [standing]; nofun) (IsLocked.move rfl)
      · contradiction
  | finishReply call transport progress phase resumed ended =>
      rcases Transport.resumeStream?_eq_some resumed with ⟨bytes, goesOn, writes⟩
      have holds := locked.holder_of_send? (send?_of_replying phase) goesOn
      rcases writes.lock with ⟨rest, waits, _⟩ | ⟨_, released⟩
      · exact absurd waits (ended _)
      · refine IsLocked.dropClient ?_ .answered
        exact locked.leaves holds rfl released rfl
  | finishAttach id phase held => exact locked.leaves (of_decide_eq_true held) rfl rfl rfl
  | finishJoin deadline consumer result phase joined =>
      exact (locked.rest (by rw [phase]; rfl)).congr rfl rfl rfl
  | giveUp drive =>
      refine IsLocked.stopGenerator ?_ .shutdown
      exact locked.abandonPhase.congr rfl rfl rfl
  | fail fault drive phase =>
      refine IsLocked.stopGenerator ?_ .shutdown
      exact (locked.rest (by rw [phase]; rfl)).congr rfl rfl rfl
  | finish result failure drive phase => exact locked.congr rfl rfl rfl
  | vanish drive idle => exact locked.congr rfl rfl rfl

theorem letGo_isLocked (locked : IsLocked station) : IsLocked station.letGo := by
  have abandoned := locked.abandonPhase
  rcases station.letGo_pool with ⟨_, pool⟩ | ⟨id, _, pool⟩
  · exact abandoned.congr pool rfl rfl
  · exact abandoned.cancel pool rfl rfl

theorem Act.isLocked {happening : Happening σ} (act : Act before happening after)
    (locked : IsLocked before) : IsLocked after := by
  cases act with
  | turn _ _ turn made => exact turn.isLocked locked
  | run drive resting =>
      exact (locked.rest_of_isPlain (isPlain_of_isResting resting)).congr rfl rfl rfl
  | cancel cancelled drive => exact locked.congr rfl rfl rfl
  | reclaim result drive => exact locked.congr rfl rfl rfl
  | letGo => exact letGo_isLocked locked
  | outside event => exact locked.congr rfl rfl rfl
  | generator id pool transport stepped =>
      rcases GeneratorPool.step?_turn stepped with ⟨generator, later, finds, _, turn, rfl⟩
      refine ⟨locked.numbered.update id fun _ => later,
        turn.serves locked.serves ?_ ?_ fun user apart => ?_⟩
      · rw [standing, send?, GeneratorPool.send?, finds]
        rfl
      · rw [standing, send?, GeneratorPool.send?, GeneratorPool.get?_update, if_pos rfl, finds]
        rfl
      · cases user with
        | session => rfl
        | generator other =>
            have different : other ≠ id := fun same => apart (congrArg LinkUser.generator same)
            exact congrArg Standing.ofSend (GeneratorPool.send?_update_of_ne different _)
  | aside _ _ beside =>
      exact locked.congr beside.pool (by rw [beside.transport]) (by rw [beside.session])

theorem initial_isLocked (plan : StationPlan) (maintenance : MaintenanceHandler) (ring : Ring)
    (sink : σ) : (initial plan maintenance ring sink).IsLocked := by
  refine ⟨.empty, ?_⟩
  refine Lock.Serves.free.congr fun user => ?_
  cases user <;> rfl

variable [SinkDevice σ]

/-- The lock of the stream is used in good order at every moment. -/
theorem history_isLocked (plan : StationPlan) (maintenance : MaintenanceHandler) (ring : Ring)
    (sink : σ) (happenings : List (Happening σ)) :
    ((initial plan maintenance ring sink).history happenings).IsLocked := by
  have keeps : ∀ {station : Station σ} happening, station.session.IsComposed ∧ station.IsLocked →
      station.permits happening = true →
      (station.happen happening).session.IsComposed ∧ (station.happen happening).IsLocked := by
    intro station happening ⟨composed, locked⟩ permitted
    have act := station.happen_act composed happening permitted
    exact ⟨act.isComposed composed, act.isLocked locked⟩
  exact (history_invariant keeps ⟨initial_isComposed plan maintenance ring sink,
    initial_isLocked plan maintenance ring sink⟩ happenings).2

end Station
end VirtualRadio
