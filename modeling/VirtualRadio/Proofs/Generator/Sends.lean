import VirtualRadio.Proofs.Generator.Pool
import VirtualRadio.Proofs.Lock
import VirtualRadio.Proofs.Network.Written

namespace VirtualRadio

/-!
# Generators over the link

One step of a generator touches the link in at most one way.  Between two frames
it writes nothing; a frame for the stream client begins with a place in the queue
for the lock; and a frame that has begun is written on.  A generator is over only
if it was asked to stop or is ended from outside.
-/

/-- How one who makes a send stands to the lock of the stream. -/
def StreamSend.standing : StreamSend → Standing
  | locking _ => .asked
  | writing _ => .working

/-- How one stands who makes a send, if he makes one. -/
def Standing.ofSend (call : Option StreamSend) : Standing :=
  call.elim .apart StreamSend.standing

namespace Generator

variable {before generator : Generator StreamSend}

/-- The send that a generator is in. -/
def send? (generator : Generator StreamSend) : Option StreamSend :=
  match generator.phase with
  | .sending call => some call
  | _ => none

/-- Whether a generator is at work, so that it may still send. -/
structure IsAtWork (generator : Generator StreamSend) : Prop where
  active : generator.active = true
  alive : generator.isOver = false

theorem spawn_isAtWork (profile : Profile) : (spawn profile : Generator StreamSend).IsAtWork :=
  ⟨rfl, rfl⟩

theorem isOver_of_phase {call : StreamSend} (sending : generator.phase = .sending call) :
    generator.isOver = false := by
  rw [isOver, sending]

theorem phase_of_send? {call : StreamSend} (sends : generator.send? = some call) :
    generator.phase = .sending call := by
  unfold send? at sends
  split at sends
  · next phase =>
      cases sends
      exact phase
  · contradiction

theorem send?_of_isOver (ended : generator.isOver = true) : generator.send? = none := by
  unfold isOver at ended
  unfold send?
  split at ended <;> simp_all

theorem send?_abort (generator : Generator StreamSend) : generator.abort.send? = none :=
  send?_of_isOver generator.abort_isOver

@[simp] theorem send?_cancel (generator : Generator StreamSend) :
    generator.cancel.send? = generator.send? := rfl

/-- What one step of a generator may be. -/
inductive Turn (id : Nat) (before : Generator StreamSend) (transport : Transport) :
    Generator StreamSend → Transport → Prop
  /-- It waits for the next frame, or has sent one past the stream client. -/
  | pace (after : Generator StreamSend) (network : Network) (quiet : before.send? = none)
      (cancelled : after.cancelled = before.cancelled) (active : after.active = before.active)
      (alive : after.isOver = false) (quietAfter : after.send? = none)
      (keeps : transport.network.Keeps network) :
      Turn id before transport after { transport with network := network }
  | finish (cancelled : before.cancelled = true) (quiet : before.send? = none) :
      Turn id before transport before.finish transport
  /-- A frame for the stream client begins with asking for the lock. -/
  | begin (inputs : StatusInputs) (quiet : before.send? = none)
      (attached : transport.link.attached = true) :
      Turn id before transport
        { before with
          cursor := before.cursor.advance
          phase := .sending (.locking (before.cursor.frame inputs)) }
        (transport.acquire (.generator id))
  | resume (call : StreamSend) (bytes : List UInt8) (transportAfter : Transport)
      (progress : SendProgress StreamSend) (sending : before.send? = some call)
      (goesOn : call = .locking bytes ∧ transport.isHeldBy (.generator id) = true ∨
        call = .writing bytes)
      (writes : transport.Writes bytes transportAfter progress) :
      Turn id before transport (before.follow progress) transportAfter

theorem step?_turn {id now : Nat} {bank : RegisterBank} {transport transportAfter : Transport}
    {after : Generator StreamSend}
    (stepped : before.step? id bank now transport = some (after, transportAfter)) :
    Turn id before transport after transportAfter := by
  have still := Network.Keeps.refl transport.network
  cases phase : before.phase with
  | fresh =>
      simp only [step?, phase, Option.some.injEq, Prod.mk.injEq] at stepped
      rcases stepped with ⟨rfl, rfl⟩
      exact .pace _ _ (by rw [send?, phase]) rfl rfl rfl rfl still
  | turning =>
      simp only [step?, phase, Option.some.injEq, Prod.mk.injEq] at stepped
      rcases stepped with ⟨rfl, rfl⟩
      exact .pace _ _ (by rw [send?, phase]) rfl rfl rfl rfl still
  | pacing inputs =>
      have quiet : before.send? = none := by rw [send?, phase]
      simp only [step?, phase] at stepped
      split at stepped
      · next cancelled =>
          cases stepped
          exact .finish cancelled quiet
      · split at stepped
        · simp only [FrameOutput.start, Transport.startFrame] at stepped
          split at stepped
          · next attached =>
              cases stepped
              exact .begin inputs quiet attached
          · cases target : transport.link.peer with
            | none =>
                rw [target] at stepped
                cases stepped
                exact .pace _ _ quiet rfl rfl rfl rfl still
            | some peer =>
                simp only [target, Transport.sendDatagram] at stepped
                cases sent : transport.network.send (before.cursor.frame inputs) peer with
                | error fault =>
                    rw [sent] at stepped
                    cases stepped
                    exact .pace _ _ quiet rfl rfl rfl rfl still
                | ok network =>
                    rw [sent] at stepped
                    cases stepped
                    exact .pace _ _ quiet rfl rfl rfl rfl (.send sent)
        · contradiction
  | sending call =>
      simp only [step?, phase, Option.map_eq_some_iff] at stepped
      rcases stepped with ⟨⟨moved, progress⟩, resumed, same⟩
      cases same
      rcases Transport.resumeStream?_eq_some resumed with ⟨bytes, goesOn, writes⟩
      exact .resume call bytes _ progress (by rw [send?, phase]) goesOn writes
  | ended =>
      rw [step?, phase] at stepped
      contradiction
  | crashed =>
      rw [step?, phase] at stepped
      contradiction
  | aborted =>
      rw [step?, phase] at stepped
      contradiction

theorem isOver_of_step? {id now : Nat} {bank : RegisterBank}
    {transport transportAfter : Transport} {after : Generator StreamSend}
    (stepped : before.step? id bank now transport = some (after, transportAfter)) :
    before.isOver = false := by
  unfold step? at stepped
  unfold isOver
  split at stepped <;> simp_all

variable {id : Nat} {after : Generator StreamSend} {transport transportAfter : Transport}

theorem follow_cancelled (generator : Generator StreamSend)
    (progress : SendProgress StreamSend) :
    (generator.follow progress).cancelled = generator.cancelled := by
  unfold follow
  split <;> rfl

theorem Turn.cancelled (turn : Turn id before transport after transportAfter) :
    after.cancelled = before.cancelled := by
  cases turn with
  | pace _ _ quiet cancelled => exact cancelled
  | finish => rfl
  | begin => rfl
  | resume call bytes _ progress => exact before.follow_cancelled progress

/-- A generator that nobody has asked to stop works on. -/
theorem Turn.isAtWork (turn : Turn id before transport after transportAfter)
    (working : before.IsAtWork) (wanted : before.cancelled = false) : after.IsAtWork := by
  cases turn with
  | pace _ _ quiet cancelled active alive => exact ⟨active.trans working.active, alive⟩
  | finish cancelled =>
      rw [wanted] at cancelled
      contradiction
  | begin => exact ⟨working.active, rfl⟩
  | resume call bytes _ progress sending goesOn writes =>
      cases writes with
      | nowhere => exact ⟨working.active, rfl⟩
      | failed => exact ⟨working.active, rfl⟩
      | whole => exact ⟨working.active, rfl⟩
      | part => exact ⟨working.active, rfl⟩

theorem send?_follow_of_finished {outcome : Except Fault Unit} (generator : Generator StreamSend) :
    (generator.follow (.finished outcome)).send? = none := by
  rcases outcome with _ | ⟨⟩ <;> rfl

/-- A generator keeps to the order of the queue for the lock. -/
theorem Turn.serves {standing later : LinkUser → Standing}
    (turn : Turn id before transport after transportAfter)
    (serves : transport.link.lock.Serves standing)
    (stood : standing (.generator id) = .ofSend before.send?)
    (stands : later (.generator id) = .ofSend after.send?)
    (others : ∀ user, user ≠ .generator id → later user = standing user) :
    transportAfter.link.lock.Serves later := by
  have still : before.send? = none → after.send? = none →
      transport.link.lock.Serves later := fun quiet quietAfter =>
    serves.congr fun user => by
      by_cases same : user = .generator id
      · rw [same, stood, stands, quiet, quietAfter]
      · exact others user same
  cases turn with
  | pace _ network quiet cancelled active alive quietAfter => exact still quiet quietAfter
  | finish cancelled quiet => exact still quiet rfl
  | begin inputs quiet attached =>
      rw [quiet] at stood
      exact serves.acquire stood stands others
  | resume call bytes _ progress sending goesOn writes =>
      rw [sending] at stood
      have holds : transport.link.lock.holder = some (.generator id) := by
        rcases goesOn with ⟨_, held⟩ | rfl
        · exact of_decide_eq_true held
        · exact serves.holder stood
      rcases writes.lock with ⟨rest, rfl, kept⟩ | ⟨⟨outcome, rfl⟩, released⟩
      · rw [kept]
        refine serves.work holds ?_ others
        rw [stands]
        nofun
      · rw [released]
        refine serves.release holds ?_ others
        rw [stands, send?_follow_of_finished]
        rfl

end Generator

namespace GeneratorPool

variable {pool after : GeneratorPool StreamSend} {id other : Nat}
variable {generator : Generator StreamSend}

theorem get?_of_sole (members : pool.members = [(id, generator)]) (other : Nat) :
    pool.get? other = if other = id then some generator else none := by
  rw [get?, members, List.lookup_cons, List.lookup_nil]
  by_cases same : other = id
  · simp [same]
  · rw [if_neg same, beq_false_of_ne same]

/-- A step of a pool is the turn of one generator in it. -/
theorem step?_turn {now : Nat} {bank : RegisterBank} {transport transportAfter : Transport}
    (stepped : pool.step? id bank now transport = some (after, transportAfter)) :
    ∃ generator generatorAfter, pool.get? id = some generator ∧ generator.isOver = false ∧
      Generator.Turn id generator transport generatorAfter transportAfter ∧
      after = pool.update id (fun _ => generatorAfter) := by
  obtain ⟨generator, generatorAfter, finds, turned, same⟩ := step?_eq_some stepped
  exact ⟨generator, generatorAfter, finds, Generator.isOver_of_step? turned,
    Generator.step?_turn turned, same⟩

/-- The step of a generator is a step of its pool. -/
theorem step?_of_get? {now : Nat} {bank : RegisterBank} {transport transportAfter : Transport}
    {generatorAfter : Generator StreamSend} (finds : pool.get? id = some generator)
    (stepped : generator.step? id bank now transport = some (generatorAfter, transportAfter)) :
    pool.step? id bank now transport =
      some (pool.update id fun _ => generatorAfter, transportAfter) := by
  rw [step?, finds, Option.bind_eq_bind, Option.bind_some, stepped]
  rfl

/-- A generator that sends makes the step that its send can make, and none otherwise. -/
theorem step?_of_send? {call : StreamSend} {now : Nat} {bank : RegisterBank}
    {transport : Transport} (finds : pool.get? id = some generator)
    (sends : generator.send? = some call) :
    pool.step? id bank now transport =
      (transport.resumeStream? (.generator id) call).map fun made =>
        (pool.update id fun _ => generator.follow made.2, made.1) := by
  have stepped : generator.step? id bank now transport =
      (transport.resumeStream? (.generator id) call).map fun made =>
        (generator.follow made.2, made.1) := by
    rw [Generator.step?, Generator.phase_of_send? sends]
    rfl
  rw [step?, finds, Option.bind_eq_bind, Option.bind_some, stepped]
  cases transport.resumeStream? (.generator id) call <;> rfl

/-- Whoever has waited for the end of a generator finds it over; a send that it was in
is taken back from the queue for the lock. -/
theorem stopped?_eq_some {deadline now : Nat} {outcome : StopOutcome}
    {transport transportAfter : Transport} (finds : pool.get? id = some generator)
    (stopped : pool.stopped? id deadline now transport = some (outcome, after, transportAfter)) :
    after = pool.update id Generator.abort ∧
      transportAfter =
        if generator.send?.isSome then transport.abandon (.generator id) else transport := by
  simp only [stopped?, finds, Option.map_eq_some_iff, Prod.mk.injEq] at stopped
  rcases stopped with ⟨_, _, _, aborted⟩
  refine ⟨(congrArg Prod.fst aborted).symm, (congrArg Prod.snd aborted).symm.trans ?_⟩
  unfold Generator.send?
  rw [abort, finds]
  cases phase : generator.phase with
  | sending call => simp [phase]; rfl
  | _ => simp [phase]

/-- Whoever waits for the end of a generator changes at most its place in the queue. -/
theorem stopped?_transport {deadline now : Nat} {outcome : StopOutcome}
    {transport transportAfter : Transport}
    (stopped : pool.stopped? id deadline now transport = some (outcome, after, transportAfter)) :
    transportAfter = transport ∨ transportAfter = transport.abandon (.generator id) := by
  cases finds : pool.get? id with
  | none =>
      simp only [stopped?, finds, Option.some.injEq, Prod.mk.injEq] at stopped
      exact .inl stopped.2.2.symm
  | some generator =>
      rw [(stopped?_eq_some finds stopped).2]
      split
      · exact .inr rfl
      · exact .inl rfl

/-! ## Sends -/

/-- The send that a generator of the pool is in. -/
def send? (pool : GeneratorPool StreamSend) (id : Nat) : Option StreamSend :=
  (pool.get? id).bind Generator.send?

theorem send?_update_of_ne (apart : other ≠ id)
    (change : Generator StreamSend → Generator StreamSend) :
    (pool.update id change).send? other = pool.send? other := by
  rw [send?, get?_update, if_neg apart, send?]

/-- A generator that begins sends nothing, and those that are forgotten sent nothing. -/
theorem send?_spawn (numbered : pool.IsNumbered) (profile : Profile) (other : Nat) :
    (pool.spawn profile).send? other = pool.send? other := by
  rw [send?, get?_spawn numbered, send?]
  split
  · next new =>
      rw [new, numbered.get?_nextId]
      rfl
  · cases finds : pool.get? other with
    | none => rfl
    | some generator =>
        cases ended : generator.isOver with
        | true => simp [Option.filter, ended, Generator.send?_of_isOver ended]
        | false => simp [Option.filter, ended]

theorem send?_cancel (pool : GeneratorPool StreamSend) (id other : Nat) :
    (pool.cancel id).send? other = pool.send? other := by
  rw [send?, cancel, get?_update, send?]
  split
  · next same => cases found : pool.get? id <;> simp [same, found]
  · rfl

/-- Whoever has waited for the end of a generator finds that it sends nothing more. -/
theorem stopped?_sends {deadline now : Nat} {outcome : StopOutcome}
    {transport transportAfter : Transport} (numbered : pool.IsNumbered)
    (stopped : pool.stopped? id deadline now transport = some (outcome, after, transportAfter)) :
    after.IsNumbered ∧ after.send? id = none ∧
      (∀ other, other ≠ id → after.send? other = pool.send? other) ∧
      transportAfter =
        if (pool.send? id).isSome then transport.abandon (.generator id) else transport := by
  cases finds : pool.get? id with
  | none =>
      simp only [stopped?, finds, Option.some.injEq, Prod.mk.injEq] at stopped
      rcases stopped with ⟨_, rfl, rfl⟩
      simp [numbered, send?, finds]
  | some generator =>
      rcases stopped?_eq_some finds stopped with ⟨rfl, moved⟩
      refine ⟨numbered.update id _, ?_, fun other apart => send?_update_of_ne apart _, ?_⟩
      · rw [send?, get?_update, if_pos rfl, finds]
        exact generator.send?_abort
      · rw [moved, send?, finds]
        rfl

/-- Nobody waits less long than he may for a generator that still sends. -/
theorem isDue_of_stopped? {call : StreamSend} {deadline now : Nat} {outcome : StopOutcome}
    {transport transportAfter : Transport} (sends : pool.send? id = some call)
    (stopped : pool.stopped? id deadline now transport = some (outcome, after, transportAfter)) :
    Clock.isDue deadline now = true := by
  rcases Option.bind_eq_some_iff.mp sends with ⟨generator, finds, sending⟩
  simp only [stopped?, finds, Generator.stopped?, Generator.phase_of_send? sending] at stopped
  split at stopped
  · assumption
  · contradiction

end GeneratorPool
end VirtualRadio
