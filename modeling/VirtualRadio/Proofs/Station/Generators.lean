import VirtualRadio.Proofs.Generator.Routes
import VirtualRadio.Proofs.Station.Framing

namespace VirtualRadio

/-!
# What becomes of generators

Only its own steps take a generator further.  The session starts generators, asks them
to stop and ends them, and does nothing else to them.  So a generator that is not over
after a step that is not its own was there before, as far with its frames as it is now,
or has just been started.  Whoever was not asked to stop is the generator that the
session holds.

The link changes its client only under the lock.  While a generator writes to him, no
step but its own takes him away.
-/

/-- What a step does with the client of the link, whom it changes only if it is `free`
to. -/
inductive Link.Exchanges (free : Prop) (before after : Link) : Prop
  | keeps (writer : after.writer = before.writer) (attached : after.attached = before.attached) :
      Exchanges free before after
  | drops (may : free) (writer : after.writer = none) (attached : after.attached = false) :
      Exchanges free before after
  | attaches (may : free) (id : Nat) (writer : after.writer = some id)
      (attached : after.attached = true) : Exchanges free before after

namespace Link.Exchanges

variable {free : Prop} {before middle after : Link}

theorem refl (link : Link) : Exchanges free link link :=
  .keeps rfl rfl

/-- What comes later keeps the client. -/
theorem trans (first : Exchanges free before middle) (second : Exchanges False middle after) :
    Exchanges free before after := by
  cases second with
  | drops may => exact may.elim
  | attaches may => exact may.elim
  | keeps writer attached =>
      cases first with
      | keeps writes attaches => exact .keeps (writer.trans writes) (attached.trans attaches)
      | drops may writes attaches =>
          exact .drops may (writer.trans writes) (attached.trans attaches)
      | attaches may id writes attaches =>
          exact .attaches may id (writer.trans writes) (attached.trans attaches)

/-- Frames go to a stream client if and only if the link has one. -/
theorem attached_eq (exchanges : Exchanges free before after)
    (agrees : before.attached = before.writer.isSome) : after.attached = after.writer.isSome := by
  cases exchanges with
  | keeps writer attached => rw [writer, attached, agrees]
  | drops _ writer attached => rw [writer, attached]; rfl
  | attaches _ id writer attached => rw [writer, attached]; rfl

theorem writer_eq (exchanges : Exchanges free before after) (busy : ¬ free) :
    after.writer = before.writer := by
  cases exchanges with
  | keeps writer => exact writer
  | drops may => exact absurd may busy
  | attaches may => exact absurd may busy

/-- A write that fails drops the client. -/
theorem writes {transport moved : Transport} {bytes : List UInt8}
    {progress : SendProgress StreamSend} (writes : transport.Writes bytes moved progress)
    (may : free) : Exchanges free transport.link moved.link := by
  cases writes with
  | nowhere none => exact .keeps rfl rfl
  | failed id writer => exact .drops may rfl rfl
  | whole id network writer written => exact .keeps rfl rfl
  | part id network rest writer written => exact .keeps rfl rfl

end Link.Exchanges

namespace Station

variable {σ : Type} {free : Prop} {before middle after station : Station σ}

/-- Where a generator comes from that is not over after a step that is not its own. -/
inductive ComesFrom (before after : Station σ) (id : Nat) (generator : Generator StreamSend) :
    Prop
  /-- It was there, and has been asked to stop at most. -/
  | kept (earlier : Generator StreamSend) (finds : before.pool.get? id = some earlier)
      (alive : earlier.isOver = false) (send : generator.send? = earlier.send?)
      (handled : generator.handled = earlier.handled)
      (held : generator.cancelled = false → earlier.cancelled = false ∧
        (before.session.generator = some id → after.session.generator = some id)) :
      ComesFrom before after id generator
  /-- It has just been started. -/
  | started (new : before.pool.nextId ≤ id) (quiet : generator.send? = none)
      (handled : generator.handled = 0)
      (held : generator.cancelled = false → after.session.generator = some id) :
      ComesFrom before after id generator

/-- A change in which no generator makes a step. -/
structure Manages (free : Prop) (before after : Station σ) : Prop where
  ids : before.pool.nextId ≤ after.pool.nextId
  comes : ∀ id generator, after.pool.get? id = some generator → generator.isOver = false →
    ComesFrom before after id generator
  client : before.transport.link.Exchanges free after.transport.link

namespace Manages

/-- A change that does nothing to generators. -/
theorem of_same (pool : after.pool = before.pool)
    (held : after.session.generator = before.session.generator)
    (client : before.transport.link.Exchanges free after.transport.link) :
    Manages free before after := by
  refine ⟨Nat.le_of_eq (by rw [pool]), fun id generator finds alive => ?_, client⟩
  rw [pool] at finds
  exact .kept generator finds alive rfl rfl fun works => ⟨works, fun holds => held.trans holds⟩

/-- What comes later keeps the client of the link. -/
theorem trans (first : Manages free before middle) (second : Manages False middle after) :
    Manages free before after := by
  refine ⟨Nat.le_trans first.ids second.ids, fun id generator finds alive => ?_,
    first.client.trans second.client⟩
  cases second.comes id generator finds alive with
  | started new quiet handled held =>
      exact .started (Nat.le_trans first.ids new) quiet handled held
  | kept earlier there lives send handled held =>
      cases first.comes id earlier there lives with
      | started new quiet none holds =>
          exact .started new (send.trans quiet) (handled.trans none) fun works =>
            (held works).2 (holds (held works).1)
      | kept earliest there lives sends same holds =>
          refine .kept earliest there lives (send.trans sends) (handled.trans same) fun works => ?_
          have wanted := holds (held works).1
          exact ⟨wanted.1, fun was => (held works).2 (wanted.2 was)⟩

theorem alike (alike : Alike before after) : Manages free before after := by
  refine of_same alike.pool alike.generator ?_
  rw [alike.link]
  exact .refl _

/-- The generator that is held is asked to stop. -/
theorem cancel {id : Nat} (held : before.session.generator = some id)
    (pool : after.pool = before.pool.cancel id)
    (client : before.transport.link.Exchanges free after.transport.link) :
    Manages free before after := by
  refine ⟨Nat.le_of_eq (by rw [pool]; rfl), fun other generator finds alive => ?_, client⟩
  rw [pool, GeneratorPool.cancel, GeneratorPool.get?_update] at finds
  split at finds
  · next same =>
      rcases Option.map_eq_some_iff.mp finds with ⟨earlier, there, rfl⟩
      rw [same]
      exact .kept earlier there alive rfl rfl fun works => by contradiction
  · next apart =>
      refine .kept generator finds alive rfl rfl fun works => ⟨works, fun holds => ?_⟩
      rw [held] at holds
      exact absurd (Option.some.inj holds).symm apart

/-- A generator is over, or ended from outside. -/
theorem stopped {id deadline now : Nat} {outcome : StopOutcome}
    {pool : GeneratorPool StreamSend} {transport : Transport}
    (stopped : before.pool.stopped? id deadline now before.transport =
      some (outcome, pool, transport)) :
    Manages free before { before with pool := pool, transport := transport } := by
  have client : before.transport.link.Exchanges free transport.link := by
    rcases GeneratorPool.stopped?_transport stopped with rfl | rfl <;> exact .keeps rfl rfl
  cases there : before.pool.get? id with
  | none =>
      simp only [GeneratorPool.stopped?, there, Option.some.injEq, Prod.mk.injEq] at stopped
      exact of_same stopped.2.1.symm rfl client
  | some ended =>
      rcases GeneratorPool.stopped?_eq_some there stopped with ⟨rfl, _⟩
      refine ⟨Nat.le_refl _, fun other generator finds alive => ?_, client⟩
      change (before.pool.update id Generator.abort).get? other = some generator at finds
      rw [GeneratorPool.get?_update, there] at finds
      split at finds
      · cases finds
        rw [ended.abort_isOver] at alive
        contradiction
      · exact .kept generator finds alive rfl rfl fun works => ⟨works, fun holds => holds⟩

theorem startStreaming (numbered : station.pool.IsNumbered)
    (released : station.session.generator = none) (origin : Origin) :
    Manages free station (station.startStreaming origin) := by
  refine ⟨Nat.le_succ _, fun id generator finds alive => ?_, .keeps rfl rfl⟩
  change (station.pool.spawn station.plan.profile).get? id = some generator at finds
  rw [GeneratorPool.get?_spawn numbered] at finds
  split at finds
  · next new =>
      cases finds
      exact .started (Nat.le_of_eq new.symm) rfl rfl fun _ => congrArg some new.symm
  · have there := Option.filter_eq_some_iff.mp finds
    refine .kept generator there.1 alive rfl rfl fun works => ⟨works, fun holds => ?_⟩
    rw [released] at holds
    contradiction

theorem afterDetach (station : Station σ) (next : AfterDetach) :
    Manages free station (station.afterDetach next) := by
  cases next with
  | shutdown =>
      simp only [Station.afterDetach, joinConsumer]
      split <;> exact of_same rfl rfl (.refl _)
  | _ => exact of_same rfl rfl (.refl _)

theorem dropClient (station : Station σ) (next : AfterDetach) :
    Manages free station (station.dropClient next) := by
  unfold Station.dropClient
  split
  · exact afterDetach station next
  · exact of_same rfl rfl (.keeps rfl rfl)

theorem afterStop (numbered : station.pool.IsNumbered)
    (released : station.session.generator = none) (next : AfterStop) :
    Manages free station (station.afterStop next) := by
  cases next with
  | start origin => exact startStreaming numbered released origin
  | stop =>
      have forgets : Manages free station
          (station.updateSession fun session => { session with lastSequence := none }) :=
        of_same rfl rfl (.refl _)
      exact forgets.trans (dropClient _ .rest)
  | shutdown => exact dropClient station .shutdown

theorem stopGenerator (numbered : station.pool.IsNumbered) (next : AfterStop) :
    Manages free station (station.stopGenerator next) := by
  unfold Station.stopGenerator
  split
  · next released => exact afterStop numbered released next
  · next id held => exact cancel held rfl (.refl _)

theorem abandonPhase (station : Station σ) : Manages free station station.abandonPhase := by
  have left := station.abandonPhase_abandons
  exact of_same left.pool left.generator (.keeps left.writer left.attached)

end Manages

/-! ## Turns -/

/-- Whether no generator is in the middle of a write to the client. -/
def WritesNothing (pool : GeneratorPool StreamSend) : Prop :=
  ∀ id rest, pool.send? id ≠ some (.writing rest)

theorem writesNothing_of_isIdle {pool : GeneratorPool StreamSend} (idle : pool.isIdle = true) :
    WritesNothing pool := by
  intro id rest writes
  rcases Option.bind_eq_some_iff.mp writes with ⟨generator, finds, sends⟩
  rw [Generator.send?_of_isOver (GeneratorPool.isOver_of_isIdle idle finds)] at sends
  contradiction

/-- While the session has the lock, no generator writes. -/
theorem IsLocked.writesNothing (locked : IsLocked station)
    (holds : station.transport.link.lock.holder = some .session) : WritesNothing station.pool :=
  fun id rest => locked.alone holds (.generator id) rest (by simp)

theorem Turn.manages (turn : Turn before after) (locked : IsLocked before)
    (composed : before.session.IsComposed) :
    Manages (WritesNothing before.pool) before after := by
  cases turn with
  | poll _ alike polling plain plainAfter receives => exact .alike alike
  | lose middle next alike polling plain cause =>
      exact (Manages.alike alike).trans (.dropClient middle next)
  | stop middle next alike polling plain asked =>
      have numbered : middle.pool.IsNumbered := alike.pool ▸ locked.numbered
      exact (Manages.alike alike).trans (.stopGenerator numbered next)
  | reply middle alike polling plain client silent =>
      exact (Manages.alike alike).trans (.of_same rfl rfl (.keeps rfl rfl))
  | accept middle id network alike polling plain client accepts =>
      exact (Manages.alike alike).trans (.of_same rfl rfl (.keeps rfl rfl))
  | finishStop id deadline next outcome pool transport phase stopped =>
      have released := composed.phase
      simp only [Session.FitsPhase, phase] at released
      rcases GeneratorPool.stopped?_sends locked.numbered stopped with ⟨numbered, _⟩
      unfold Station.finishStop
      refine (Manages.stopped stopped).trans (Manages.trans ?_ (.afterStop ?_ ?_ next))
      · exact .of_same rfl rfl (.refl _)
      · exact numbered
      · exact released
  | finishDetach next phase held =>
      have free := locked.writesNothing (of_decide_eq_true held)
      unfold Station.finishDetach
      refine Manages.trans ?_ (.afterDetach _ next)
      exact .of_same rfl rfl (.drops free rfl rfl)
  | writeOn call rest transport phase resumed =>
      rcases Transport.resumeStream?_eq_some resumed with ⟨bytes, goesOn, writes⟩
      have holds := locked.holder_of_send? (send?_of_replying phase) goesOn
      exact .of_same rfl rfl (.writes writes (locked.writesNothing holds))
  | finishReply call transport progress phase resumed ended =>
      rcases Transport.resumeStream?_eq_some resumed with ⟨bytes, goesOn, writes⟩
      have holds := locked.holder_of_send? (send?_of_replying phase) goesOn
      have written : Manages (WritesNothing before.pool) before
          { before with transport := transport } :=
        .of_same rfl rfl (.writes writes (locked.writesNothing holds))
      exact written.trans (.dropClient _ .answered)
  | finishAttach id phase held =>
      have free := locked.writesNothing (of_decide_eq_true held)
      exact .of_same rfl rfl (.attaches free id rfl rfl)
  | finishJoin deadline consumer result phase joined => exact .of_same rfl rfl (.refl _)
  | giveUp drive =>
      have left : Manages (WritesNothing before.pool) before
          (before.abandonPhase.setDrive (.closing (.ok ()))) :=
        (Manages.abandonPhase before).trans (.of_same rfl rfl (.refl _))
      refine left.trans (.stopGenerator ?_ .shutdown)
      change before.abandonPhase.pool.IsNumbered
      rw [before.abandonPhase_abandons.pool]
      exact locked.numbered
  | fail fault drive phase =>
      have closing : Manages (WritesNothing before.pool) before
          (before.setDrive (.closing (.error fault))) := .of_same rfl rfl (.refl _)
      refine closing.trans (.stopGenerator ?_ .shutdown)
      exact locked.numbered
  | finish result failure drive phase => exact .of_same rfl rfl (.refl _)
  | vanish drive idle => exact .of_same rfl rfl (.drops (writesNothing_of_isIdle idle) rfl rfl)

theorem letGo_manages (station : Station σ) : Manages free station station.letGo := by
  have abandoned : Manages free station station.abandonPhase := .abandonPhase station
  rcases station.letGo_pool with ⟨none, pool⟩ | ⟨id, held, pool⟩
  · refine abandoned.trans (.of_same pool none.symm (.refl _))
  · exact abandoned.trans (.cancel held pool (.refl _))

/-- Whatever happens but a step of a generator. -/
theorem Act.manages {happening : Happening σ} (act : Act before happening after)
    (locked : IsLocked before) (composed : before.session.IsComposed)
    (other : ∀ id, happening = .step (.generator id) →
      before.pool.step? id before.radio.bank before.now before.transport = none) :
    Manages (WritesNothing before.pool) before after := by
  cases act with
  | turn _ _ turn made => exact turn.manages locked composed
  | run drive resting => exact .of_same rfl rfl (.refl _)
  | cancel cancelled drive => exact .of_same rfl rfl (.refl _)
  | reclaim result drive => exact .of_same rfl rfl (.refl _)
  | letGo => exact before.letGo_manages
  | outside event => exact .of_same rfl rfl (.keeps rfl rfl)
  | generator id pool transport stepped =>
      rw [other id rfl] at stepped
      contradiction
  | aside _ _ beside =>
      refine .of_same beside.pool (congrArg Session.generator beside.session) ?_
      rw [beside.transport]
      exact .refl _

/-- A generator that writes to the client is the only one that does. -/
theorem generator_exchanges {id : Nat} {pool : GeneratorPool StreamSend} {transport : Transport}
    (locked : IsLocked station)
    (stepped : station.pool.step? id station.radio.bank station.now station.transport =
      some (pool, transport)) :
    station.transport.link.Exchanges
      (∀ other rest, other ≠ id → station.pool.send? other ≠ some (.writing rest))
      transport.link := by
  rcases GeneratorPool.step?_turn stepped with ⟨generator, later, finds, _, turn, _⟩
  cases turn with
  | resume call bytes _ progress sending goesOn writes =>
      have sends : station.send? (.generator id) = some call := by
        rw [send?, GeneratorPool.send?, finds]
        exact sending
      have holds := locked.holder_of_send? sends goesOn
      refine .writes writes fun other rest apart => locked.alone holds (.generator other) rest ?_
      exact fun same => apart (LinkUser.generator.inj same)
  | _ => exact .keeps rfl rfl

/-! ## Whoever was not asked to stop -/

/-- Whether every generator that was not asked to stop is the one that the session holds. -/
def HoldsWanted (station : Station σ) : Prop :=
  ∀ id generator, station.pool.get? id = some generator → generator.isOver = false →
    generator.cancelled = false → station.session.generator = some id

theorem Manages.holdsWanted (manages : Manages free before after) (wanted : HoldsWanted before) :
    HoldsWanted after := by
  intro id generator finds alive works
  cases manages.comes id generator finds alive with
  | kept earlier there lives send handled held =>
      exact (held works).2 (wanted id earlier there lives (held works).1)
  | started new quiet handled held => exact held works

theorem generator_holdsWanted {id : Nat} {pool : GeneratorPool StreamSend} {transport : Transport}
    (wanted : HoldsWanted station)
    (stepped : station.pool.step? id station.radio.bank station.now station.transport =
      some (pool, transport)) :
    HoldsWanted { station with pool := pool, transport := transport } := by
  rcases GeneratorPool.step?_turn stepped with ⟨generator, later, there, lives, turn, rfl⟩
  intro other found finds alive works
  change (station.pool.update id fun _ => later).get? other = some found at finds
  rw [GeneratorPool.get?_update, there] at finds
  split at finds
  · next same =>
      cases finds
      rw [same]
      exact wanted id generator there lives (turn.cancelled.symm.trans works)
  · exact wanted other found finds alive works

end Station
end VirtualRadio
