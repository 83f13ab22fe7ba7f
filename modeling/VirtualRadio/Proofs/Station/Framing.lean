import VirtualRadio.Proofs.Network.Units
import VirtualRadio.Proofs.Station.Locking
import VirtualRadio.Proofs.Station.Orderly
import VirtualRadio.Sink.Discard

namespace VirtualRadio

/-!
# Units of the session and the generators

A send that is given up may leave a unit on the stream cut short.  Whoever gives it up
must not let anything be sent to that client after it: the write half is to be dropped
before another send begins.  So it is when the session gives up a reply, and when a
generator is ended by a stop packet or a shutdown, for the client is dropped next or
the loop is over.

A restart keeps the client, though.  If it ends a generator in the middle of a frame
then the frames of the next one follow on what was written of it.  Without such a
restart the bytes on every connection are whole units, of which the last may be cut
short.
-/

/-- The connection that a session which waits so has accepted. -/
def SessionPhase.accepted? : SessionPhase → Option Nat
  | attaching id => some id
  | _ => none

theorem SessionPhase.send?_of_isPlain {phase : SessionPhase} (plain : phase.isPlain = true) :
    phase.send? = none := by
  cases phase <;> first | rfl | contradiction

theorem SessionPhase.accepted?_of_isPlain {phase : SessionPhase} (plain : phase.isPlain = true) :
    phase.accepted? = none := by
  cases phase <;> first | rfl | contradiction

theorem GeneratorPool.isIdle_cancel {pool : GeneratorPool StreamSend} (idle : pool.isIdle = true)
    (id : Nat) : (pool.cancel id).isIdle = true := by
  rw [isIdle, List.all_eq_true] at idle ⊢
  intro member among
  rcases List.mem_map.mp among with ⟨original, present, rfl⟩
  have ended := idle original present
  dsimp only
  split
  · exact ended
  · exact ended

namespace Station

variable {σ : Type} {before middle after station : Station σ}

/-- Whether nothing is sent any more before the write half is dropped. -/
def IsDoomed (station : Station σ) : Prop :=
  station.pool.isIdle = true ∧
    (station.session.phase.isDetaching = true ∨ station.session.drive.mayLeave true = true)

theorem not_isDoomed (polling : station.session.drive.isPolling = true)
    (keeps : station.session.phase.isDetaching = false) : ¬ station.IsDoomed := by
  rintro ⟨_, detaching | leaves⟩
  · rw [keeps] at detaching
    contradiction
  · rw [Drive.mayLeave_of_isPolling polling] at leaves
    contradiction

/-- Whether what was written to every connection agrees with what is being sent. -/
def WritesUnits (station : Station σ) : Prop :=
  Framed station.transport station.session.phase.accepted? station.send? station.IsDoomed

/-- Nobody writes but the holder of the lock. -/
theorem IsLocked.alone (locked : IsLocked station) {user : LinkUser}
    (holds : station.transport.link.lock.holder = some user) (other : LinkUser)
    (rest : List UInt8) (apart : other ≠ user) : station.send? other ≠ some (.writing rest) := by
  intro writes
  have working := locked.serves.holder (standing_of_send? writes)
  rw [holds] at working
  exact apart (Option.some.inj working).symm

/-! ## Changes that write nothing -/

/-- A change after which the session sends nothing and has accepted nobody, and which
leaves everything else about the sends as it is. -/
structure Calm (before after : Station σ) : Prop where
  network : after.transport.network = before.transport.network
  writer : after.transport.link.writer = before.transport.link.writer
  sends : ∀ id, after.pool.send? id = before.pool.send? id
  silent : after.session.phase.send? = none
  settled : after.session.phase.accepted? = none
  drive : after.session.drive = before.session.drive
  idle : before.pool.isIdle = true → before.session.drive.mayLeave true = true →
    after.pool.isIdle = true

namespace Calm

theorem afterDetach (station : Station σ) (next : AfterDetach) :
    Calm station (station.afterDetach next) := by
  cases next with
  | shutdown =>
      simp only [Station.afterDetach, joinConsumer]
      split
      · exact ⟨rfl, rfl, fun _ => rfl, rfl, rfl, rfl, fun idle _ => idle⟩
      · exact ⟨rfl, rfl, fun _ => rfl, rfl, rfl, rfl, fun idle _ => idle⟩
  | _ => exact ⟨rfl, rfl, fun _ => rfl, rfl, rfl, rfl, fun idle _ => idle⟩

theorem dropClient (station : Station σ) (next : AfterDetach) :
    Calm station (station.dropClient next) := by
  unfold Station.dropClient
  split
  · exact afterDetach station next
  · exact ⟨rfl, rfl, fun _ => rfl, rfl, rfl, rfl, fun idle _ => idle⟩

theorem afterStop (numbered : station.pool.IsNumbered) {next : AfterStop}
    (polling : next.isShutdown = false → station.session.drive.isPolling = true) :
    Calm station (station.afterStop next) := by
  cases next with
  | start origin =>
      refine ⟨rfl, rfl, GeneratorPool.send?_spawn numbered _, rfl, rfl, rfl, fun _ leaves => ?_⟩
      rw [Drive.mayLeave_of_isPolling (polling rfl)] at leaves
      contradiction
  | stop =>
      have dropped := dropClient
        (station.updateSession fun session => { session with lastSequence := none }) .rest
      exact ⟨dropped.network, dropped.writer, dropped.sends, dropped.silent, dropped.settled,
        dropped.drive, dropped.idle⟩
  | shutdown => exact dropClient station .shutdown

theorem stopGenerator (numbered : station.pool.IsNumbered) {next : AfterStop}
    (polling : next.isShutdown = false → station.session.drive.isPolling = true) :
    Calm station (station.stopGenerator next) := by
  unfold Station.stopGenerator
  split
  · exact afterStop numbered polling
  · next id held =>
      exact ⟨rfl, rfl, station.pool.send?_cancel id, rfl, rfl, rfl, fun idle _ =>
        GeneratorPool.isIdle_cancel idle id⟩

end Calm

namespace WritesUnits

theorem rest (framed : WritesUnits station) (silent : station.session.phase.send? = none)
    (keeps : station.session.phase.isDetaching = false) : WritesUnits station.rest := by
  refine Framed.congr framed (.refl _) rfl (fun user => ?_) (.inr rfl) ?_
  · cases user with
    | session => exact silent.symm
    | generator id => rfl
  · rintro ⟨idle, detaching | leaves⟩
    · rw [keeps] at detaching
      contradiction
    · exact ⟨idle, .inr leaves⟩

theorem rest_of_isPlain (framed : WritesUnits station)
    (plain : station.session.phase.isPlain = true) : WritesUnits station.rest :=
  framed.rest (SessionPhase.send?_of_isPlain plain) (SessionPhase.isDetaching_of_isPlain plain)

theorem alike (framed : WritesUnits before.rest) (alike : Alike before after) :
    WritesUnits after.rest := by
  have writer := congrArg Link.writer alike.link
  refine Framed.congr framed alike.network writer (fun user => ?_) (.inl rfl) ?_
  · cases user with
    | session => rfl
    | generator id => exact congrArg (GeneratorPool.send? · id) alike.pool
  · rintro ⟨idle, detaching | leaves⟩
    · contradiction
    · exact ⟨(congrArg GeneratorPool.isIdle alike.pool).trans idle,
        .inr ((congrArg (Drive.mayLeave true) alike.drive).trans leaves)⟩

theorem calm (framed : WritesUnits before.rest) (calm : Calm before after) :
    WritesUnits after := by
  refine Framed.congr framed ?_ calm.writer (fun user => ?_) (.inr calm.settled) ?_
  · rw [calm.network]
    exact .refl _
  · cases user with
    | session => exact calm.silent
    | generator id => exact calm.sends id
  · rintro ⟨idle, detaching | leaves⟩
    · contradiction
    · exact ⟨calm.idle idle leaves, .inr (calm.drive ▸ leaves)⟩

end WritesUnits

/-! ## Sends that are given up -/

/-- A restart that is about to end a generator in the middle of a frame. -/
def cutsFrame (station : Station σ) : Happening σ → Bool
  | .step .session =>
    !station.session.drive.isCancelled &&
      match station.session.phase with
      | .stopping id deadline (.start _) =>
        Clock.isDue deadline station.now &&
          match station.pool.send? id with
          | some (.writing rest) => decide (rest.length < Packet.frameLength)
          | _ => false
      | _ => false
  | _ => false

/-- A session that drops its client, or whose loop is about to be over, sends nothing
more. -/
theorem dropClient_isDoomed (idle : station.pool.isIdle = true)
    (leaves : station.session.client.isSome = true ∨ station.session.drive.mayLeave true = true)
    (next : AfterDetach) : (station.dropClient next).IsDoomed := by
  have calm := Calm.dropClient station next
  rcases leaves with attached | leaves
  · rcases Option.isSome_iff_exists.mp attached with ⟨client, found⟩
    simp only [dropClient, found]
    exact ⟨idle, .inl rfl⟩
  · exact ⟨calm.idle idle leaves, .inr (calm.drive ▸ leaves)⟩

namespace WritesUnits

/-- A generator that is ended by a stop packet or a shutdown has sent its last. -/
theorem afterStop_isDoomed {next : AfterStop} (idle : station.pool.isIdle = true)
    (leaves : station.session.client.isSome = true ∨ station.session.drive.mayLeave true = true)
    (ends : ∀ origin, next ≠ .start origin) : (station.afterStop next).IsDoomed := by
  cases next with
  | start origin => exact absurd rfl (ends origin)
  | stop =>
      refine dropClient_isDoomed ?_ ?_ .rest
      · exact idle
      · exact leaves
  | shutdown => exact dropClient_isDoomed idle leaves .shutdown

/-- What follows on the end of a generator, if a restart finds the last frame whole. -/
theorem afterStop {stopping : Station σ} {id : Nat} {next : AfterStop}
    (framed : WritesUnits station) (silent : station.session.phase.send? = none)
    (keeps : station.session.phase.isDetaching = false)
    (network : stopping.transport.network = station.transport.network)
    (writer : stopping.transport.link.writer = station.transport.link.writer)
    (drive : stopping.session.drive = station.session.drive)
    (numbered : stopping.pool.IsNumbered) (idle : stopping.pool.isIdle = true)
    (ended : stopping.pool.send? id = none)
    (others : ∀ other, other ≠ id → stopping.pool.send? other = station.pool.send? other)
    (owned : ∀ client, station.transport.link.writer = some client →
      stopping.session.client.isSome = true ∨ stopping.session.drive.mayLeave true = true)
    (polling : next.isShutdown = false → stopping.session.drive.isPolling = true)
    (kept : ∀ origin rest, next = .start origin → station.pool.send? id = some (.writing rest) →
      Packet.frameLength ≤ rest.length) : WritesUnits (stopping.afterStop next) := by
  have calm : Calm stopping (stopping.afterStop next) := .afterStop numbered polling
  refine framed.change ?_ (.inl (calm.writer.trans writer)) (.inr calm.settled) ?_ ?_ ?_
  · rw [calm.network, network]
    exact .refl _
  · intro user call made
    cases user with
    | session =>
        rw [send?, calm.silent] at made
        contradiction
    | generator other =>
        rw [send?, calm.sends] at made
        by_cases same : other = id
        · rw [same, ended] at made
          contradiction
        · exact .inl ((others other same).symm.trans made)
  · intro client user rest attached _ writes stops
    cases user with
    | session =>
        rw [send?, silent] at writes
        contradiction
    | generator other =>
        by_cases same : other = id
        -- The frame of the generator that was ended: a restart has found it whole, and
        -- otherwise nothing is sent after it.
        · subst same
          by_cases restarts : ∃ origin, next = .start origin
          · rcases restarts with ⟨origin, start⟩
            have lacks := framed.lacks client _ rest attached writes
            exact .inl (lacks.isComplete_of_length (kept origin rest start writes))
          · exact .inr (afterStop_isDoomed idle (owned client attached) fun origin start =>
              restarts ⟨origin, start⟩)
        · exact absurd (((calm.sends other).trans (others other same)).trans writes) stops
  · rintro ⟨_, detaching | leaves⟩ _
    · rw [keeps] at detaching
      contradiction
    · rw [← drive] at leaves
      exact ⟨calm.idle idle leaves, .inr (calm.drive ▸ leaves)⟩

theorem finishStop {id deadline : Nat} {next : AfterStop} {outcome : StopOutcome}
    {stoppedPool : GeneratorPool StreamSend} {transport : Transport}
    (framed : WritesUnits station) (orderly : IsOrderly true station) (locked : IsLocked station)
    (composed : station.session.IsComposed)
    (phase : station.session.phase = .stopping id deadline next)
    (stopped : station.pool.stopped? id deadline station.now station.transport =
      some (outcome, stoppedPool, transport))
    (kept : ∀ origin rest, next = .start origin → station.pool.send? id = some (.writing rest) →
      Packet.frameLength ≤ rest.length) :
    WritesUnits
      ({ station with pool := stoppedPool, transport := transport }.finishStop outcome next) := by
  rcases GeneratorPool.stopped?_sends locked.numbered stopped with ⟨numbered, ended, others, moved⟩
  have linked := orderly.linked
  rw [phase] at linked
  unfold Station.finishStop
  refine framed.afterStop (by rw [phase]; rfl) (by rw [phase]; rfl) ?_ ?_ rfl numbered
    (orderly.isIdle_of_stopped composed phase stopped) ended others ?_ ?_ kept
  · change transport.network = _
    rw [moved]
    split <;> rfl
  · change transport.link.writer = _
    rw [moved]
    split <;> rfl
  · intro client attached
    rcases linked.owned client attached with same | detaching | leaves
    · rcases Option.map_eq_some_iff.mp same with ⟨found, holds, _⟩
      exact .inl (Option.isSome_iff_exists.mpr ⟨found, holds⟩)
    · contradiction
    · exact .inr leaves
  · intro goesOn
    exact composed.isPolling phase goesOn rfl

/-- A reply that is given up is the last that is sent to the client. -/
theorem abandonPhase (framed : WritesUnits station) (orderly : IsOrderly true station)
    {next : Drive} (leaves : next.mayLeave true = true) :
    WritesUnits (station.abandonPhase.setDrive next) := by
  have left := station.abandonPhase_abandons
  have sends : ∀ id, (station.abandonPhase.setDrive next).send? (.generator id) =
      station.send? (.generator id) := fun id => congrArg (GeneratorPool.send? · id) left.pool
  have doomed : station.pool.isIdle = true → (station.abandonPhase.setDrive next).IsDoomed :=
    fun idle => ⟨(congrArg GeneratorPool.isIdle left.pool).trans idle, .inr leaves⟩
  refine framed.change left.network (.inl left.writer) (.inr rfl) ?_ ?_ fun so _ => doomed so.1
  · intro user call made
    cases user with
    | session => contradiction
    | generator id => exact .inl ((sends id).symm.trans made)
  · intro client user rest _ _ writes stops
    cases user with
    | generator id => exact absurd ((sends id).trans writes) stops
    | session =>
        cases phase : station.session.phase <;> simp [send?, SessionPhase.send?, phase] at writes
        exact .inr (doomed (orderly.replying _ phase))

end WritesUnits

/-- A reply goes on, if anything, where the client left off. -/
theorem WritesUnits.reply (framed : WritesUnits before) (locked : IsLocked before)
    (composed : before.session.IsComposed) {call : StreamSend} {progress : SendProgress StreamSend}
    {transport : Transport} (phase : before.session.phase = .replying call)
    (resumed : before.transport.resumeStream? .session call = some (transport, progress))
    (moved : after.transport = transport) (pool : after.pool = before.pool)
    (left : ∀ rest, progress = .waiting rest → after.session.phase.send? = some rest)
    (ended : ∀ outcome, progress = .finished outcome → after.session.phase.send? = none)
    (settled : after.session.phase.accepted? = none) : WritesUnits after := by
  rcases Transport.resumeStream?_eq_some resumed with ⟨bytes, goesOn, writes⟩
  have sends := send?_of_replying phase
  have holds := locked.holder_of_send? sends goesOn
  have polling := composed.isPolling phase rfl rfl
  have accepted : before.session.phase.accepted? = none := by rw [phase]; rfl
  unfold WritesUnits at framed ⊢
  rw [accepted] at framed
  rw [settled, moved]
  refine framed.writes sends (goesOn.imp_left And.left) (locked.alone holds)
    (not_isDoomed polling (by rw [phase]; rfl)) writes (fun other apart => ?_) left ended
  cases other with
  | session => contradiction
  | generator id => exact congrArg (GeneratorPool.send? · id) pool

theorem Turn.writesUnits (turn : Turn before after) (framed : WritesUnits before)
    (orderly : IsOrderly true before) (locked : IsLocked before)
    (composed : before.session.IsComposed)
    (kept : before.cutsFrame (.step .session) = false) : WritesUnits after := by
  cases turn with
  | poll _ alike polling plain plainAfter receives =>
      exact ((framed.rest_of_isPlain plain).alike alike).calm ⟨rfl, rfl, fun _ => rfl,
        SessionPhase.send?_of_isPlain plainAfter, SessionPhase.accepted?_of_isPlain plainAfter, rfl,
        fun idle _ => idle⟩
  | lose middle next alike polling plain cause =>
      exact ((framed.rest_of_isPlain plain).alike alike).calm (.dropClient middle next)
  | stop middle next alike polling plain asked =>
      have polls := alike.isPolling polling
      refine ((framed.rest_of_isPlain plain).alike alike).calm (.stopGenerator ?_ fun _ => polls)
      rw [alike.pool]
      exact locked.numbered
  | reply middle alike polling plain client silent =>
      have rested := (framed.rest_of_isPlain plain).alike alike
      have steady : ¬ middle.rest.IsDoomed :=
        not_isDoomed (alike.isPolling polling) rfl
      refine rested.change (.refl _) (.inl rfl) (.inr rfl) ?_ ?_ fun doomed _ =>
        absurd doomed steady
      · intro user call made
        cases user with
        | generator id => exact .inl made
        | session =>
            cases made
            exact .inr ⟨_, rfl, .reply _ _⟩
      · intro client user rest _ _ writes stops
        cases user with
        | generator id => exact absurd writes stops
        | session => contradiction
  | accept middle id network alike polling plain client accepts =>
      have rested := (framed.rest_of_isPlain plain).alike alike
      have steady : ¬ middle.rest.IsDoomed :=
        not_isDoomed (alike.isPolling polling) rfl
      have accepted : Framed ({ middle.transport with network := network }.acquire .session)
          (some id) middle.rest.send? middle.rest.IsDoomed := Framed.accept rested accepts rfl
      refine accepted.relabel (fun user => ?_) fun doomed => absurd doomed steady
      cases user <;> rfl
  | finishStop id deadline next outcome pool transport phase stopped heeds =>
      refine framed.finishStop orderly locked composed phase stopped ?_
      intro origin rest start writes
      have due := GeneratorPool.isDue_of_stopped? writes stopped
      simpa [cutsFrame, heeds, phase, start, due, writes] using kept
  | finishDetach next phase held =>
      have detached : WritesUnits
          ({ before with transport := before.transport.detach.1 }.emit .clientDetached).rest := by
        refine framed.lose before.transport.release.dropWriter_keeps rfl (.inr rfl) ?_
        intro user call made
        cases user with
        | session => contradiction
        | generator id => exact made
      exact detached.calm (.afterDetach _ next)
  | writeOn call rest transport phase resumed =>
      exact framed.reply locked composed phase resumed rfl rfl (fun _ same => by cases same; rfl)
        (fun _ same => by contradiction) rfl
  | finishReply call transport progress phase resumed ended =>
      have moved : WritesUnits { before with transport := transport }.rest :=
        framed.reply locked composed phase resumed rfl rfl
          (fun rest same => absurd same (ended rest)) (fun _ _ => rfl) rfl
      exact moved.calm (.dropClient _ .answered)
  | finishAttach id phase held =>
      have quiet : before.send? .session = none := by rw [send?, phase]; rfl
      have accepted : Framed before.transport (some id) before.send? before.IsDoomed := by
        unfold WritesUnits at framed
        rw [phase] at framed
        exact framed
      have silent : ∀ user rest, before.send? user ≠ some (.writing rest) := by
        intro user rest
        cases user with
        | session => simp [quiet]
        | generator other => exact locked.alone (of_decide_eq_true held) _ rest (by simp)
      refine (accepted.attach silent).relabel (fun user => ?_) fun doomed => doomed
      cases user with
      | session => exact quiet.symm
      | generator other => rfl
  | finishJoin deadline consumer result phase joined =>
      have rested := framed.rest (by rw [phase]; rfl) (by rw [phase]; rfl)
      exact rested.calm ⟨rfl, rfl, fun _ => rfl, rfl, rfl, rfl, fun idle _ => idle⟩
  | giveUp drive =>
      have given : WritesUnits (before.abandonPhase.setDrive (.closing (.ok ()))) :=
        framed.abandonPhase orderly rfl
      refine (given.rest_of_isPlain rfl).calm (.stopGenerator ?_ fun polls => by contradiction)
      change before.abandonPhase.pool.IsNumbered
      rw [before.abandonPhase_abandons.pool]
      exact locked.numbered
  | fail fault drive phase =>
      have steady : ¬ before.IsDoomed :=
        not_isDoomed (by rw [drive]; rfl) (by rw [phase]; rfl)
      have plain : before.session.phase.isPlain = true := by rw [phase]; rfl
      have closing : WritesUnits (before.setDrive (.closing (.error fault))) :=
        framed.relabel (fun user => by cases user <;> rfl) fun doomed => absurd doomed steady
      refine (closing.rest_of_isPlain plain).calm (.stopGenerator ?_ fun polls => ?_)
      · exact locked.numbered
      · contradiction
  | finish result failure drive phase =>
      exact framed.relabel (fun user => by cases user <;> rfl) fun doomed => ⟨doomed.1, .inr rfl⟩
  | vanish drive idle =>
      refine framed.lose before.transport.dropWriter_keeps rfl (.inl rfl) fun user call made => ?_
      cases user <;> exact made

/-! ## Histories -/

theorem letGo_writesUnits (framed : WritesUnits station) (orderly : IsOrderly true station) :
    WritesUnits station.letGo := by
  have given : WritesUnits (station.abandonPhase.setDrive .dropped) :=
    framed.abandonPhase orderly rfl
  have kept : (∀ id, station.letGo.pool.send? id = station.abandonPhase.pool.send? id) ∧
      (station.abandonPhase.pool.isIdle = true → station.letGo.pool.isIdle = true) := by
    rcases station.letGo_pool with ⟨_, pool⟩ | ⟨id, _, pool⟩ <;> rw [pool]
    · exact ⟨fun _ => rfl, fun idle => idle⟩
    · exact ⟨GeneratorPool.send?_cancel _ id, fun idle => GeneratorPool.isIdle_cancel idle id⟩
  refine Framed.congr given (.refl _) rfl (fun user => ?_) (.inl rfl) fun doomed =>
    ⟨kept.2 doomed.1, .inr rfl⟩
  cases user with
  | session => rfl
  | generator id => exact kept.1 id

/-- A generator goes on, if anything, where the client left off. -/
theorem WritesUnits.generator {id : Nat} {pool : GeneratorPool StreamSend} {transport : Transport}
    (framed : WritesUnits before) (locked : IsLocked before)
    (stepped : before.pool.step? id before.radio.bank before.now before.transport =
      some (pool, transport)) :
    WritesUnits { before with pool := pool, transport := transport } := by
  rcases GeneratorPool.step?_turn stepped with ⟨generator, later, finds, alive, turn, rfl⟩
  have steady : ¬ before.IsDoomed := by
    rintro ⟨idle, _⟩
    rw [GeneratorPool.isOver_of_isIdle idle finds] at alive
    contradiction
  have sent : before.send? (.generator id) = generator.send? := by
    rw [send?, GeneratorPool.send?, finds, Option.bind_some]
  generalize made : ({ before with
    pool := before.pool.update id fun _ => later, transport := transport } : Station σ) = after
  have sends : after.send? (.generator id) = later.send? := by
    subst made
    rw [send?, GeneratorPool.send?, GeneratorPool.get?_update, if_pos rfl, finds]
    rfl
  have others : ∀ user, user ≠ .generator id → after.send? user = before.send? user := by
    intro user apart
    subst made
    cases user with
    | session => rfl
    | generator other =>
        exact GeneratorPool.send?_update_of_ne (fun same => apart (congrArg _ same)) _
  have unchanged : generator.send? = none → later.send? = none → ∀ user,
      after.send? user = before.send? user := by
    intro quiet quietAfter user
    by_cases same : user = .generator id
    · rw [same, sends, sent, quiet, quietAfter]
    · exact others user same
  have moved : after.transport = transport := by rw [← made]
  have accepted : after.session.phase.accepted? = before.session.phase.accepted? := by rw [← made]
  unfold WritesUnits
  rw [moved, accepted]
  cases turn with
  | pace _ network quiet cancelled active alive quietAfter keeps =>
      exact framed.congr keeps rfl (unchanged quiet quietAfter) (.inl rfl) fun doomed =>
        absurd doomed steady
  | finish cancelled quiet =>
      exact framed.relabel (unchanged quiet rfl) fun doomed => absurd doomed steady
  | begin inputs quiet attached =>
      refine framed.change (.refl _) (.inl rfl) (.inl rfl) ?_ ?_ fun doomed _ =>
        absurd doomed steady
      · intro user call made
        by_cases same : user = .generator id
        · rw [same, sends] at made
          cases made
          exact .inr ⟨_, rfl, .frame _ _⟩
        · exact .inl ((others user same).symm.trans made)
      · intro client user rest _ _ writes stops
        by_cases same : user = .generator id
        · rw [same, sent, quiet] at writes
          contradiction
        · exact absurd ((others user same).trans writes) stops
  | resume call bytes _ progress sending goesOn writes =>
      have holds := locked.holder_of_send? (sent.trans sending) goesOn
      refine framed.writes (sent.trans sending) (goesOn.imp_left And.left) (locked.alone holds)
        steady writes others ?_ ?_
      · rintro rest rfl
        exact sends
      · rintro outcome rfl
        exact sends.trans generator.send?_follow_of_finished

theorem Act.writesUnits {happening : Happening σ} (act : Act before happening after)
    (framed : WritesUnits before) (orderly : IsOrderly true before) (locked : IsLocked before)
    (composed : before.session.IsComposed) (restores : before.reclaimsEarly happening = false)
    (kept : before.cutsFrame happening = false) : WritesUnits after := by
  cases act with
  | turn _ _ turn made =>
      refine turn.writesUnits framed orderly locked composed ?_
      rcases made with rfl | ⟨_, resting⟩
      · exact kept
      · unfold isResting at resting
        split at resting
        · next phase => simp [cutsFrame, phase]
        · contradiction
  | run drive resting =>
      have plain := isPlain_of_isResting resting
      have polling : before.session.drive.isPolling = true := by rw [drive]; rfl
      have steady : ¬ before.rest.IsDoomed := not_isDoomed polling rfl
      exact (framed.rest_of_isPlain plain).relabel (fun user => by cases user <;> rfl)
        fun doomed => absurd doomed steady
  | cancel cancelled drive =>
      refine framed.relabel (fun user => by cases user <;> rfl) ?_
      rintro ⟨idle, detaching | leaves⟩
      · exact ⟨idle, .inl detaching⟩
      · rw [drive] at leaves
        contradiction
  | reclaim result drive =>
      have down : before.isTornDown = true := by simpa [reclaimsEarly] using restores
      rw [isTornDown, Bool.and_eq_true, Option.isNone_iff_eq_none] at down
      refine framed.lose (.refl _) down.2 (.inl rfl) fun user call made => ?_
      cases user <;> exact made
  | letGo => exact letGo_writesUnits framed orderly
  | outside event =>
      exact (Framed.apply framed event).relabel (fun user => by cases user <;> rfl)
        fun doomed => doomed
  | generator id pool transport stepped =>
      exact framed.generator locked stepped
  | aside _ _ beside =>
      refine Framed.congr framed ?_ (by rw [beside.transport]) (fun user => ?_) ?_ ?_
      · rw [beside.transport]
        exact .refl _
      · cases user with
        | session => rw [send?, send?, beside.session]
        | generator id => rw [send?, send?, beside.pool]
      · rw [beside.session]
        exact .inl rfl
      · unfold IsDoomed
        rw [beside.pool, beside.session]
        exact fun doomed => doomed

theorem initial_writesUnits (plan : StationPlan) (maintenance : MaintenanceHandler) (ring : Ring)
    (sink : σ) : WritesUnits (initial plan maintenance ring sink) := by
  have blank : ∀ id, Network.quiet.writtenTo id = [] := fun id =>
    Network.writtenTo_of_size_le (Nat.zero_le id)
  have silent : ∀ user, (initial plan maintenance ring sink).send? user = none := by
    intro user
    cases user <;> rfl
  refine ⟨nofun, .nil, fun _ among => absurd among List.not_mem_nil, fun id => ?_, ?_, nofun, nofun⟩
  · exact .inl ((blank id).symm ▸ .nil)
  · intro user bytes asks
    rw [silent] at asks
    contradiction

variable [SinkDevice σ]

/-- Whatever happens, the bytes that were written to a stream client are whole units, of
which only the last may be cut short, if no restart ends a generator in the middle of a
frame and no session is taken back with something left behind. -/
theorem history_writes_units (plan : StationPlan) (maintenance : MaintenanceHandler) (ring : Ring)
    (sink : σ) (happenings : List (Happening σ))
    (kept : (initial plan maintenance ring sink).avoids reclaimsEarly happenings = true)
    (whole : (initial plan maintenance ring sink).avoids cutsFrame happenings = true) (id : Nat) :
    IsFramed (((initial plan maintenance ring sink).history happenings).transport.network.writtenTo
      id) := by
  have keeps : ∀ {station : Station σ} happening,
      (station.session.IsComposed ∧ station.IsOrderly true ∧ station.IsLocked ∧
        station.WritesUnits) → station.permits happening = true →
      (station.reclaimsEarly happening || station.cutsFrame happening) = false →
      (station.happen happening).session.IsComposed ∧ (station.happen happening).IsOrderly true ∧
        (station.happen happening).IsLocked ∧ (station.happen happening).WritesUnits := by
    intro station happening ⟨composed, orderly, locked, framed⟩ permitted avoided
    rw [Bool.or_eq_false_iff] at avoided
    have act := station.happen_act composed happening permitted
    exact ⟨act.isComposed composed, act.isOrderly orderly composed avoided.1, act.isLocked locked,
      act.writesUnits framed orderly locked composed avoided.1 avoided.2⟩
  have run := history_keeps keeps ⟨initial_isComposed plan maintenance ring sink,
    initial_isOrderly true plan maintenance ring sink, initial_isLocked plan maintenance ring sink,
    initial_writesUnits plan maintenance ring sink⟩ (avoids_or kept whole)
  exact run.2.2.2.framed id

/-- A stop packet ends a generator of whose frame the client has taken one byte, and
nothing follows on that byte. -/
theorem stop_writes_units :
    let start : Station DiscardSink := initial default .ignore (Ring.empty 2 1) (.idle 0)
    let run := start.history (untilStreaming ++
      [.step (.generator 0), .request (.network (.window 0 (.limited 1))), .wait 50,
        .step (.generator 0), .step (.generator 0),
        .request (.network (.bytes 0 Command.stop)), .step .session, .step .session, .wait 500,
        .step .session, .step .session])
    run.transport.network.writtenTo 0 = [0xEF] ∧
      IsFramed (run.transport.network.writtenTo 0) :=
  ⟨by decide +kernel,
    history_writes_units _ _ _ _ _ (by decide +kernel) (by decide +kernel) 0⟩

/-- A second start packet ends a generator of whose frame the client has taken one byte,
and the frames of the next generator follow on that byte. -/
theorem restart_breaks_units :
    let start : Station DiscardSink := initial default .ignore (Ring.empty 2 1) (.idle 0)
    let run := start.history (untilStreaming ++
      [.step (.generator 0), .request (.network (.window 0 (.limited 1))), .wait 50,
        .step (.generator 0), .step (.generator 0),
        .request (.network (.bytes 0 (Command.start 1))), .step .session, .step .session,
        .wait 500, .step .session, .request (.network (.window 0 .unlimited)),
        .step (.generator 1), .wait 50, .step (.generator 1), .step (.generator 1)])
    (run.transport.network.writtenTo 0).take 2 = [0xEF, 0xEF] ∧
      ¬ IsFramed (run.transport.network.writtenTo 0) :=
  have begins := by decide +kernel
  ⟨begins, not_isFramed_of_second begins (by decide)⟩

end Station
end VirtualRadio
