import VirtualRadio.Proofs.Generator.Sends
import VirtualRadio.Proofs.Station.Phases

namespace VirtualRadio

/-!
# Who looks after generators and the stream client

A generator that is not over is held by the session, or the session waits for its
end, or it was asked to stop and let go of.  A write half that the link has belongs
to the client of the session, or the session waits to drop it, or it was let go of.

A session that its owner lets go of leaves both behind.  So does a loop that is asked
to stop while it waits for the end of a generator or for the lock to detach the
client: it has taken them out of its state by then, and its shutdown finds nothing.
What is left behind then is `loose` as long as the loop shuts down and after its end.
The station is orderly in either reading, if such a wait is never given up, or if a
session is taken back only when nothing of it is left behind.
-/

/-- Whether generators and a write half may have been left behind. -/
def Drive.mayLeave (loose : Bool) : Drive → Bool
  | dropped => true
  | closing _ | returned _ => loose
  | byHand | looping _ => false

theorem Drive.mayLeave_of_isPolling {drive : Drive} (polling : drive.isPolling = true)
    (loose : Bool) : drive.mayLeave loose = false := by
  cases drive <;> simp_all [mayLeave, isPolling]

variable {loose : Bool} {pool : GeneratorPool StreamSend} {held awaited : Option Nat}
  {drive next : Drive}

/-- Every generator that is not over is held, or its end is awaited, or it was asked
to stop and left behind. -/
inductive Tended (loose : Bool) (pool : GeneratorPool StreamSend) :
    Option Nat → Option Nat → Drive → Prop
  | idle (drive : Drive) (idle : pool.isIdle = true) : Tended loose pool none none drive
  | held (id : Nat) (generator : Generator StreamSend) (drive : Drive)
      (members : pool.members = [(id, generator)]) (working : generator.IsAtWork)
      (wanted : generator.cancelled = false) : Tended loose pool (some id) none drive
  | awaited (id : Nat) (generator : Generator StreamSend) (drive : Drive)
      (members : pool.members = [(id, generator)]) (cancelled : generator.cancelled = true) :
      Tended loose pool none (some id) drive
  | left (id : Nat) (generator : Generator StreamSend) (drive : Drive)
      (members : pool.members = [(id, generator)]) (cancelled : generator.cancelled = true)
      (leaves : drive.mayLeave loose = true) : Tended loose pool none none drive

namespace Tended

theorem isIdle (tended : Tended loose pool none none drive)
    (kept : drive.mayLeave loose = false) : pool.isIdle = true := by
  cases tended with
  | idle _ idle => exact idle
  | left id generator _ members cancelled leaves => simp [kept] at leaves

theorem turnTo (tended : Tended loose pool held awaited drive)
    (leaves : drive.mayLeave loose = true → next.mayLeave loose = true) :
    Tended loose pool held awaited next := by
  cases tended with
  | idle _ idle => exact .idle next idle
  | held id generator _ members working wanted =>
      exact .held id generator next members working wanted
  | awaited id generator _ members cancelled => exact .awaited id generator next members cancelled
  | left id generator _ members cancelled left =>
      exact .left id generator next members cancelled (leaves left)

theorem cancel {id : Nat} (tended : Tended loose pool (some id) none drive) :
    Tended loose (pool.cancel id) none (some id) drive := by
  cases tended with
  | held _ generator _ members working wanted =>
      exact .awaited id _ drive (GeneratorPool.update_members members _) rfl

/-- The end of a generator may be given up if it may be left behind. -/
theorem giveUp (tended : Tended loose pool held awaited drive)
    (leaves : awaited.isSome = true → drive.mayLeave loose = true) :
    Tended loose pool held none drive := by
  cases tended with
  | idle _ idle => exact .idle _ idle
  | held id generator _ members working wanted => exact .held id generator _ members working wanted
  | awaited id generator _ members cancelled =>
      exact .left id generator _ members cancelled (leaves rfl)
  | left id generator _ members cancelled left => exact .left id generator _ members cancelled left

theorem stopped? {id deadline now : Nat} {transport transportAfter : Transport}
    {outcome : StopOutcome} {after : GeneratorPool StreamSend}
    (tended : Tended loose pool none (some id) drive)
    (stopped : pool.stopped? id deadline now transport = some (outcome, after, transportAfter)) :
    after.isIdle = true := by
  cases tended with
  | awaited _ generator _ members cancelled =>
      exact GeneratorPool.stopped?_isIdle members stopped

/-- Whoever waits for the end of a generator waits for the only one. -/
theorem members {id : Nat} (tended : Tended loose pool none (some id) drive) :
    ∃ generator, pool.members = [(id, generator)] ∧ generator.cancelled = true := by
  cases tended with
  | awaited _ generator _ members cancelled => exact ⟨generator, members, cancelled⟩

theorem spawn (idle : pool.isIdle = true) (profile : Profile) :
    Tended loose (pool.spawn profile) (some pool.nextId) none drive :=
  .held pool.nextId _ drive (GeneratorPool.spawn_members idle profile)
    (Generator.spawn_isAtWork profile) rfl

/-- A step of a generator changes nothing of who looks after it. -/
theorem step? {id now : Nat} {bank : RegisterBank} {transport transportAfter : Transport}
    {after : GeneratorPool StreamSend} (tended : Tended loose pool held awaited drive)
    (stepped : pool.step? id bank now transport = some (after, transportAfter)) :
    Tended loose after held awaited drive := by
  rcases GeneratorPool.step?_turn stepped with ⟨generator, later, finds, alive, turn, rfl⟩
  cases tended with
  | idle _ idle =>
      rw [GeneratorPool.isOver_of_isIdle idle finds] at alive
      contradiction
  | held other _ _ members working wanted =>
      rcases GeneratorPool.get?_of_members members finds with ⟨rfl, rfl⟩
      exact .held _ later _ (GeneratorPool.update_members members _) (turn.isAtWork working wanted)
        (turn.cancelled.trans wanted)
  | awaited other _ _ members cancelled =>
      rcases GeneratorPool.get?_of_members members finds with ⟨rfl, rfl⟩
      exact .awaited _ later _ (GeneratorPool.update_members members _)
        (turn.cancelled.trans cancelled)
  | left other _ _ members cancelled leaves =>
      rcases GeneratorPool.get?_of_members members finds with ⟨rfl, rfl⟩
      exact .left _ later _ (GeneratorPool.update_members members _)
        (turn.cancelled.trans cancelled) leaves

end Tended

/-- Whether a session that waits so has taken the client out of itself to drop it. -/
def SessionPhase.isDetaching : SessionPhase → Bool
  | detaching _ => true
  | _ => false

theorem SessionPhase.isDetaching_of_isPlain {phase : SessionPhase}
    (plain : phase.isPlain = true) : phase.isDetaching = false := by
  cases phase <;> simp_all [isPlain, isDetaching]

/-- A write half that the link has belongs to the client, or is about to be dropped, or
was left behind. -/
structure Linked (loose : Bool) (link : Link) (client : Option Nat) (detaching : Bool)
    (drive : Drive) : Prop where
  attached : link.attached = link.writer.isSome
  owned : ∀ id, link.writer = some id →
    client = some id ∨ detaching = true ∨ drive.mayLeave loose = true

namespace Linked

variable {link after : Link} {client : Option Nat} {detaching : Bool}

theorem of_writer_none (attached : link.attached = false) (writer : link.writer = none) :
    Linked loose link client detaching drive := by
  constructor
  · rw [attached, writer]
    rfl
  · intro id some
    rw [writer] at some
    contradiction

theorem turnTo (linked : Linked loose link client detaching drive)
    (leaves : drive.mayLeave loose = true → next.mayLeave loose = true) :
    Linked loose link client detaching next :=
  ⟨linked.attached, fun id writer =>
    (linked.owned id writer).imp_right (Or.imp_right leaves)⟩

/-- The lock to detach the client may be given up if the client may be left behind. -/
theorem giveUp (linked : Linked loose link client detaching drive)
    (attached : after.attached = link.attached) (writer : after.writer = link.writer)
    (leaves : detaching = true → drive.mayLeave loose = true) :
    Linked loose after client false drive := by
  refine ⟨?_, fun id writes => ?_⟩
  · rw [attached, writer]
    exact linked.attached
  · rw [writer] at writes
    exact (linked.owned id writes).imp_right fun left => .inr (left.elim leaves fun so => so)

theorem writer_eq_none (linked : Linked loose link none false drive)
    (kept : drive.mayLeave loose = false) : link.writer = none := by
  rw [Option.eq_none_iff_forall_not_mem]
  intro id writer
  simpa [kept] using linked.owned id writer

/-- A write may cost the link its write half, and nothing else. -/
theorem writes {before transport : Transport} {bytes : List UInt8}
    {progress : SendProgress StreamSend}
    (linked : Linked loose before.link client detaching drive)
    (writes : before.Writes bytes transport progress) :
    Linked loose transport.link client detaching drive := by
  cases writes with
  | nowhere writer => exact ⟨linked.attached, linked.owned⟩
  | failed id writer => exact of_writer_none rfl rfl
  | whole id network writer written => exact ⟨linked.attached, linked.owned⟩
  | part id network rest writer written => exact linked

/-- Nor may the turn of a generator. -/
theorem turn {id : Nat} {generator later : Generator StreamSend} {before transport : Transport}
    (linked : Linked loose before.link client detaching drive)
    (turn : Generator.Turn id generator before later transport) :
    Linked loose transport.link client detaching drive := by
  cases turn with
  | pace => exact linked
  | finish => exact linked
  | begin => exact ⟨linked.attached, linked.owned⟩
  | resume call bytes _ progress sending goesOn writes => exact linked.writes writes

end Linked

namespace Station

variable {σ : Type} {before middle after station : Station σ}

theorem awaited_of_isPlain (plain : station.session.phase.isPlain = true) :
    station.awaited = none := by
  unfold awaited
  split
  · next phase =>
      rw [phase] at plain
      contradiction
  · rfl

/-- Whether generators and the stream client are looked after. -/
structure IsOrderly (loose : Bool) (station : Station σ) : Prop where
  tended : Tended loose station.pool station.session.generator station.awaited
    station.session.drive
  linked : Linked loose station.transport.link
    (station.session.client.map StreamClient.connection) station.session.phase.isDetaching
    station.session.drive
  /-- Nothing streams while a discovery probe is answered over the stream. -/
  replying : ∀ call, station.session.phase = .replying call → station.pool.isIdle = true

/-- Whether the session waits to tear down what it has taken out of its state. -/
def isTearingDown (station : Station σ) : Bool :=
  match station.session.phase with
  | .stopping _ _ _ | .detaching _ => true
  | _ => false

theorem isTearingDown_of_awaited (awaits : station.awaited.isSome = true) :
    station.isTearingDown = true := by
  unfold awaited at awaits
  split at awaits
  · next phase => simp only [isTearingDown, phase]
  · contradiction

theorem isTearingDown_of_isDetaching (detaches : station.session.phase.isDetaching = true) :
    station.isTearingDown = true := by
  unfold SessionPhase.isDetaching at detaches
  split at detaches
  · next phase => simp only [isTearingDown, phase]
  · contradiction

/-- Whether the loop was asked to stop while it tears something down. -/
def abandonsTeardown (station : Station σ) : Bool :=
  match station.session.drive with
  | .looping true => station.isTearingDown
  | _ => false

/-- Whether nothing of the generators and the stream client is left. -/
def isTornDown (station : Station σ) : Bool :=
  station.pool.isIdle && station.transport.link.writer.isNone

/-- Whether the loop gives up a teardown. -/
def givesUpTeardown (station : Station σ) : Happening σ → Bool
  | .step .session => station.abandonsTeardown
  | _ => false

/-- Whether the session is taken back from a loop that has left something behind. -/
def reclaimsEarly (station : Station σ) : Happening σ → Bool
  | .request .reclaim => !station.isTornDown
  | _ => false

/-- Whether a happening breaks the order. -/
def strays : Bool → Station σ → Happening σ → Bool
  | false => givesUpTeardown
  | true => reclaimsEarly

/-! ## Waits

What follows is about a session that is about to wait: what it waited for before no
longer counts. -/

namespace IsOrderly

/-- A session that awaits no generator and drops no client may as well rest. -/
theorem rest (orderly : IsOrderly loose station) (awaits : station.awaited = none)
    (detaches : station.session.phase.isDetaching = false) : IsOrderly loose station.rest := by
  have tended := orderly.tended
  have linked := orderly.linked
  rw [awaits] at tended
  rw [detaches] at linked
  exact ⟨tended, linked, nofun⟩

theorem rest_of_isPlain (orderly : IsOrderly loose station)
    (plain : station.session.phase.isPlain = true) : IsOrderly loose station.rest :=
  orderly.rest (awaited_of_isPlain plain) (SessionPhase.isDetaching_of_isPlain plain)

theorem alike (orderly : IsOrderly loose before.rest) (alike : Alike before after) :
    IsOrderly loose after.rest := by
  refine ⟨?_, ?_, nofun⟩
  · change Tended loose after.pool after.session.generator none after.session.drive
    rw [alike.pool, alike.generator, alike.drive]
    exact orderly.tended
  · change Linked loose after.transport.link (after.session.client.map StreamClient.connection)
      false after.session.drive
    rw [alike.link, alike.client, alike.drive]
    exact orderly.linked

theorem of_rest (orderly : IsOrderly loose station.rest)
    (plain : station.session.phase.isPlain = true) : IsOrderly loose station where
  tended := by
    rw [awaited_of_isPlain plain]
    exact orderly.tended
  linked := by
    rw [SessionPhase.isDetaching_of_isPlain plain]
    exact orderly.linked
  replying := by
    intro call phase
    rw [phase] at plain
    contradiction

/-- A session that polls while nothing streams has nothing that it looks after. -/
theorem isIdle_of_silent (orderly : IsOrderly loose station.rest)
    (silent : station.isStreaming = false) (polling : station.session.drive.isPolling = true) :
    station.pool.isIdle = true := by
  have tended := orderly.tended
  change Tended loose station.pool station.session.generator none station.session.drive at tended
  cases held : station.session.generator with
  | none =>
      rw [held] at tended
      exact tended.isIdle (Drive.mayLeave_of_isPolling polling loose)
  | some id =>
      rw [held] at tended
      cases tended with
      | held _ generator _ members working wanted =>
          have streams : station.isStreaming = true := by
            simp [isStreaming, held, GeneratorPool.isActive, GeneratorPool.get?_of_sole members,
              working.active]
          rw [streams] at silent
          contradiction

theorem joinConsumer (orderly : IsOrderly loose station.rest) :
    IsOrderly loose station.joinConsumer := by
  unfold Station.joinConsumer
  split
  · exact ⟨orderly.tended, orderly.linked, nofun⟩
  · exact orderly

theorem afterDetach (orderly : IsOrderly loose station.rest) (next : AfterDetach) :
    IsOrderly loose (station.afterDetach next) := by
  cases next with
  | receive => exact ⟨orderly.tended, orderly.linked, nofun⟩
  | rest => exact orderly
  | answered => exact ⟨orderly.tended, orderly.linked, nofun⟩
  | shutdown => exact orderly.joinConsumer

theorem dropClient (orderly : IsOrderly loose station.rest) (next : AfterDetach) :
    IsOrderly loose (station.dropClient next) := by
  unfold Station.dropClient
  split
  · exact orderly.afterDetach next
  · exact ⟨orderly.tended, ⟨orderly.linked.attached, fun _ _ => .inr (.inl rfl)⟩, nofun⟩

theorem startStreaming (idle : station.pool.isIdle = true)
    (linked : Linked loose station.transport.link
      (station.session.client.map StreamClient.connection) false station.session.drive)
    (origin : Origin) : IsOrderly loose (station.startStreaming origin) :=
  ⟨.spawn idle _, ⟨linked.attached, linked.owned⟩, nofun⟩

/-- Another generator starts only when no other one is left. -/
theorem afterStop (orderly : IsOrderly loose station.rest) {next : AfterStop}
    (idle : next.isShutdown = false → station.pool.isIdle = true) :
    IsOrderly loose (station.afterStop next) := by
  cases next with
  | start origin => exact startStreaming (idle rfl) orderly.linked origin
  | stop =>
      refine IsOrderly.dropClient ?_ .rest
      exact ⟨orderly.tended, orderly.linked, nofun⟩
  | shutdown => exact orderly.dropClient .shutdown

theorem stopGenerator (orderly : IsOrderly loose station.rest) {next : AfterStop}
    (polling : next.isShutdown = false → station.session.drive.isPolling = true) :
    IsOrderly loose (station.stopGenerator next) := by
  unfold Station.stopGenerator
  have tended := orderly.tended
  split
  · next released =>
      refine orderly.afterStop fun ordinary => ?_
      change Tended loose station.pool station.session.generator none station.session.drive
        at tended
      rw [released] at tended
      exact tended.isIdle (Drive.mayLeave_of_isPolling (polling ordinary) loose)
  · next id held =>
      change Tended loose station.pool station.session.generator none station.session.drive
        at tended
      rw [held] at tended
      exact ⟨tended.cancel, orderly.linked, nofun⟩

/-- What a wait that is given up leaves behind is left by a loop that shuts down, or by
a session that is let go of. -/
theorem abandonPhase (orderly : IsOrderly loose station)
    (leaves : next.mayLeave loose = true ∨ station.isTearingDown = false)
    (later : station.session.drive.mayLeave loose = true → next.mayLeave loose = true) :
    IsOrderly loose (station.abandonPhase.setDrive next) := by
  have left := station.abandonPhase_abandons
  have tearing : station.isTearingDown = true → next.mayLeave loose = true := fun tears =>
    leaves.resolve_right (by simp [tears])
  refine ⟨?_, ?_, fun _ replies => by contradiction⟩
  · change Tended loose station.abandonPhase.pool station.abandonPhase.session.generator none next
    rw [left.pool, left.generator]
    exact (orderly.tended.turnTo later).giveUp fun awaits =>
      tearing (isTearingDown_of_awaited awaits)
  · change Linked loose station.abandonPhase.transport.link
      (station.abandonPhase.session.client.map StreamClient.connection) false next
    rw [left.client]
    exact (orderly.linked.turnTo later).giveUp left.attached left.writer fun detaches =>
      tearing (isTearingDown_of_isDetaching detaches)

/-- A shutdown begins with whatever the session still holds. -/
theorem shutdown (orderly : IsOrderly loose station)
    (plain : station.session.phase.isPlain = true) : IsOrderly loose station.shutdown :=
  (orderly.rest_of_isPlain plain).stopGenerator nofun

theorem setDrive (orderly : IsOrderly loose station)
    (later : station.session.drive.mayLeave loose = true → next.mayLeave loose = true) :
    IsOrderly loose (station.setDrive next) :=
  ⟨orderly.tended.turnTo later, orderly.linked.turnTo later, orderly.replying⟩

/-- No generator is left once the session has waited for the end of one. -/
theorem isIdle_of_stopped {id deadline : Nat} {after : AfterStop} {outcome : StopOutcome}
    {stoppedPool : GeneratorPool StreamSend} {transport : Transport}
    (orderly : IsOrderly loose station) (composed : station.session.IsComposed)
    (phase : station.session.phase = .stopping id deadline after)
    (stopped : station.pool.stopped? id deadline station.now station.transport =
      some (outcome, stoppedPool, transport)) : stoppedPool.isIdle = true := by
  have released := composed.phase
  have tended := orderly.tended
  simp only [Session.FitsPhase, phase] at released
  simp only [awaited, phase, released] at tended
  exact tended.stopped? stopped

theorem finishStop {id deadline : Nat} {after : AfterStop} {outcome : StopOutcome}
    {stoppedPool : GeneratorPool StreamSend} {transport : Transport}
    (orderly : IsOrderly loose station) (composed : station.session.IsComposed)
    (phase : station.session.phase = .stopping id deadline after)
    (stopped : station.pool.stopped? id deadline station.now station.transport =
      some (outcome, stoppedPool, transport)) :
    IsOrderly loose
      ({ station with pool := stoppedPool, transport := transport }.finishStop outcome after) := by
  have released := composed.phase
  have tended := orderly.tended
  have linked := orderly.linked
  simp only [Session.FitsPhase, phase] at released
  simp only [awaited, phase, released] at tended
  simp only [phase] at linked
  have idle := orderly.isIdle_of_stopped composed phase stopped
  rcases tended.members with ⟨generator, members, _⟩
  have finds : station.pool.get? id = some generator := by
    rw [GeneratorPool.get?_of_sole members, if_pos rfl]
  rcases GeneratorPool.stopped?_eq_some finds stopped with ⟨_, moved⟩
  unfold Station.finishStop
  refine IsOrderly.afterStop ?_ fun _ => idle
  refine ⟨?_, ?_, fun _ replies => by contradiction⟩
  · change Tended loose stoppedPool station.session.generator none station.session.drive
    rw [released]
    exact .idle _ idle
  · change Linked loose transport.link _ false station.session.drive
    rw [moved]
    split
    · exact ⟨linked.attached, linked.owned⟩
    · exact linked

end IsOrderly

/-! ## Turns -/

theorem Turn.isOrderly (turn : Turn before after) (orderly : IsOrderly loose before)
    (composed : before.session.IsComposed)
    (kept : loose = true ∨ before.abandonsTeardown = false) : IsOrderly loose after := by
  cases turn with
  | poll _ alike polling plain plainAfter receives =>
      exact ((orderly.rest_of_isPlain plain).alike alike).of_rest plainAfter
  | lose middle next alike polling plain cause =>
      exact ((orderly.rest_of_isPlain plain).alike alike).dropClient next
  | stop middle next alike polling plain asked =>
      refine ((orderly.rest_of_isPlain plain).alike alike).stopGenerator fun _ => ?_
      rw [alike.drive, polling]
  | reply middle alike polling plain client silent =>
      have rested := (orderly.rest_of_isPlain plain).alike alike
      have idle : middle.pool.isIdle = true := by
        rw [← alike.isStreaming] at silent
        exact rested.isIdle_of_silent silent (by rw [alike.drive, polling])
      exact ⟨rested.tended, ⟨rested.linked.attached, rested.linked.owned⟩, fun _ _ => idle⟩
  | accept middle id network alike polling plain client accepts =>
      have rested := (orderly.rest_of_isPlain plain).alike alike
      exact ⟨rested.tended, ⟨rested.linked.attached, rested.linked.owned⟩,
        fun _ replies => by contradiction⟩
  | finishStop id deadline next outcome pool transport phase stopped =>
      exact orderly.finishStop composed phase stopped
  | finishDetach next phase held =>
      have tended := orderly.tended
      simp only [awaited, phase] at tended
      unfold Station.finishDetach
      have detached : IsOrderly loose
          ({ before with transport := before.transport.detach.1 }.emit .clientDetached).rest :=
        ⟨tended, .of_writer_none rfl rfl, fun _ replies => by contradiction⟩
      exact detached.afterDetach next
  | writeOn call rest transport phase resumed =>
      have rested := orderly.rest (by rw [awaited, phase]) (by rw [phase]; rfl)
      rcases Transport.resumeStream?_eq_some resumed with ⟨bytes, _, writes⟩
      exact ⟨rested.tended, rested.linked.writes writes, fun _ _ => orderly.replying call phase⟩
  | finishReply call transport progress phase resumed ended =>
      have rested := orderly.rest (by rw [awaited, phase]) (by rw [phase]; rfl)
      rcases Transport.resumeStream?_eq_some resumed with ⟨bytes, _, writes⟩
      have moved : IsOrderly loose { before with transport := transport }.rest :=
        ⟨rested.tended, rested.linked.writes writes, fun _ replies => by contradiction⟩
      exact moved.dropClient .answered
  | finishAttach id phase held =>
      have rested := orderly.rest (by rw [awaited, phase]) (by rw [phase]; rfl)
      exact ⟨rested.tended, ⟨rfl, fun _ writer => .inl writer⟩,
        fun _ replies => by contradiction⟩
  | finishJoin deadline consumer result phase joined =>
      have rested := orderly.rest (by rw [awaited, phase]) (by rw [phase]; rfl)
      exact ⟨rested.tended, rested.linked, fun _ replies => by contradiction⟩
  | giveUp drive =>
      have later : before.session.drive.mayLeave loose = true →
          (Drive.closing (.ok ())).mayLeave loose = true := by
        rw [drive]
        intro leaves
        contradiction
      refine IsOrderly.shutdown (orderly.abandonPhase ?_ later) rfl
      refine kept.imp (fun loose => loose) fun abandons => ?_
      simpa [abandonsTeardown, drive] using abandons
  | fail fault drive phase =>
      refine IsOrderly.shutdown (orderly.setDrive (by rw [drive]; intro leaves; contradiction)) ?_
      change before.session.phase.isPlain = true
      rw [phase]
      rfl
  | finish result failure drive phase =>
      refine orderly.setDrive ?_
      rw [drive]
      exact id
  | vanish drive idle => exact ⟨orderly.tended, .of_writer_none rfl rfl, orderly.replying⟩

/-! ## Histories -/

theorem letGo_isOrderly (orderly : IsOrderly loose station) : IsOrderly loose station.letGo := by
  have left : IsOrderly loose (station.abandonPhase.setDrive .dropped) :=
    orderly.abandonPhase (.inl rfl) fun _ => rfl
  have tended := left.tended
  change Tended loose station.abandonPhase.pool station.abandonPhase.session.generator none
    .dropped at tended
  refine ⟨?_, ⟨left.linked.attached, fun _ _ => .inr (.inr rfl)⟩, fun _ replies => ?_⟩
  · change Tended loose station.letGo.pool none none .dropped
    rcases station.letGo_pool with ⟨held, pool⟩ | ⟨id, held, pool⟩ <;>
      rw [held] at tended <;> rw [pool]
    · exact tended
    · exact tended.cancel.giveUp fun _ => rfl
  · contradiction

theorem Act.isOrderly {happening : Happening σ} (act : Act before happening after)
    (orderly : IsOrderly loose before) (composed : before.session.IsComposed)
    (kept : strays loose before happening = false) : IsOrderly loose after := by
  cases act with
  | turn _ _ turn made =>
      refine turn.isOrderly orderly composed ?_
      rcases made with rfl | ⟨drive, _⟩
      · cases loose with
        | true => exact .inl rfl
        | false => exact .inr kept
      · exact .inr (by simp [abandonsTeardown, drive])
  | run drive resting =>
      have polling : before.session.drive.isPolling = true := by rw [drive]; rfl
      have rested := orderly.rest_of_isPlain (isPlain_of_isResting resting)
      refine rested.setDrive fun leaves => ?_
      rw [← leaves]
      exact (Drive.mayLeave_of_isPolling polling loose).symm
  | cancel cancelled drive => exact orderly.setDrive (by rw [drive]; nofun)
  | reclaim result drive =>
      cases loose with
      | false => exact orderly.setDrive (by rw [drive]; nofun)
      | true =>
          have down : before.isTornDown = true := by simpa [strays, reclaimsEarly] using kept
          rw [isTornDown, Bool.and_eq_true, Option.isNone_iff_eq_none] at down
          rcases composed.of_returned drive with ⟨shut, failure, resting⟩
          refine ⟨?_, ?_, ?_⟩
          · change Tended true before.pool before.session.generator before.awaited .byHand
            rw [shut.2.1, awaited_of_isPlain (by rw [resting]; rfl)]
            exact .idle _ down.1
          · exact .of_writer_none (orderly.linked.attached.trans (by rw [down.2]; rfl)) down.2
          · exact fun _ _ => down.1
  | letGo => exact letGo_isOrderly orderly
  | outside event => exact ⟨orderly.tended, orderly.linked, orderly.replying⟩
  | generator id pool transport stepped =>
      rcases GeneratorPool.step?_turn stepped with ⟨generator, later, finds, alive, turn, _⟩
      refine ⟨orderly.tended.step? stepped, orderly.linked.turn turn, ?_⟩
      intro call phase
      have ended := GeneratorPool.isOver_of_isIdle (orderly.replying call phase) finds
      rw [alive] at ended
      contradiction
  | aside _ _ beside =>
      refine ⟨?_, ?_, ?_⟩
      · rw [awaited, beside.pool, beside.session]
        exact orderly.tended
      · rw [beside.transport, beside.session]
        exact orderly.linked
      · rw [beside.pool, beside.session]
        exact orderly.replying

theorem initial_isOrderly (loose : Bool) (plan : StationPlan) (maintenance : MaintenanceHandler)
    (ring : Ring) (sink : σ) : (initial plan maintenance ring sink).IsOrderly loose :=
  ⟨.idle _ rfl, .of_writer_none rfl rfl, nofun⟩

variable [SinkDevice σ]

/-- A history in which nothing strays is orderly. -/
theorem history_isOrderly (plan : StationPlan) (maintenance : MaintenanceHandler) (ring : Ring)
    (sink : σ) {happenings : List (Happening σ)}
    (kept : (initial plan maintenance ring sink).avoids (strays loose) happenings = true) :
    ((initial plan maintenance ring sink).history happenings).IsOrderly loose := by
  have keeps : ∀ {station : Station σ} happening,
      station.session.IsComposed ∧ station.IsOrderly loose →
      station.permits happening = true → strays loose station happening = false →
      (station.happen happening).session.IsComposed ∧
        (station.happen happening).IsOrderly loose := by
    intro station happening ⟨composed, orderly⟩ permitted kept
    have act := station.happen_act composed happening permitted
    exact ⟨act.isComposed composed, act.isOrderly orderly composed kept⟩
  exact (history_keeps keeps ⟨initial_isComposed plan maintenance ring sink,
    initial_isOrderly loose plan maintenance ring sink⟩ kept).2

end Station
end VirtualRadio
