import VirtualRadio.Proofs.Station.Framing
import VirtualRadio.Proofs.Station.Listening

namespace VirtualRadio

/-!
# Connections that are refused

A connection that comes while a client is attached is taken off the listener and
closed.  It was not written to before, and it never is later: the link writes to a
connection only after the session has accepted it to make it the client, and no
connection is accepted twice.
-/

/-- How the connections that nobody uses agree with the link: there are no bytes on them,
and the link has none of them. -/
structure Untouched (transport : Transport) (spares : List Nat) : Prop where
  known : ∀ id, transport.link.writer = some id → id < transport.network.connections.size
  once : spares.Nodup
  blank : ∀ id ∈ spares, id < transport.network.connections.size ∧
    transport.network.writtenTo id = [] ∧ transport.link.writer ≠ some id

namespace Untouched

variable {before after : Transport} {spares fewer : List Nat} {id : Nat}

/-- A change that writes nothing. -/
theorem change (untouched : Untouched before spares)
    (keeps : before.network.Keeps after.network)
    (writer : after.link.writer = before.link.writer ∨ after.link.writer = none)
    (sub : fewer.Sublist spares) : Untouched after fewer := by
  have same : ∀ id, after.link.writer = some id → before.link.writer = some id := by
    intro id attached
    rcases writer with writer | writer
    · rw [← writer, attached]
    · rw [writer] at attached
      contradiction
  refine ⟨fun id attached => ?_, untouched.once.sublist sub, fun id among => ?_⟩
  · rw [keeps.size]
    exact untouched.known id (same id attached)
  · rcases untouched.blank id (sub.subset among) with ⟨known, blank, apart⟩
    exact ⟨keeps.size ▸ known, (keeps.written id).trans blank, fun attached =>
      apart (same id attached)⟩

/-- A write goes to the connection that the link has. -/
theorem writes {bytes : List UInt8} {progress : SendProgress StreamSend}
    (untouched : Untouched before spares) (writes : before.Writes bytes after progress) :
    Untouched after spares := by
  have adds : ∀ {network : Network} {rest : List UInt8} {writer : Nat},
      before.link.writer = some writer →
      before.network.write writer bytes = (.rest rest, network) →
      after.network = network → after.link.writer = before.link.writer →
      Untouched after spares := by
    intro network rest writer attached written moved same
    rcases Network.write_rest (untouched.known writer attached) written with ⟨taken, _, adds⟩
    rw [← moved] at adds
    refine ⟨fun id attached => ?_, untouched.once, fun id among => ?_⟩
    · rw [adds.size]
      exact untouched.known id (same ▸ attached)
    · rcases untouched.blank id among with ⟨known, blank, apart⟩
      have other : id ≠ writer := by
        rintro rfl
        exact apart attached
      exact ⟨adds.size ▸ known, (adds.others id other).trans blank, same ▸ apart⟩
  cases writes with
  | nowhere => exact untouched.change (.refl _) (.inl rfl) (.refl _)
  | failed => exact untouched.change before.dropWriter_keeps (.inr rfl) (.refl _)
  | whole id network writer written => exact adds writer written rfl rfl
  | part id network rest writer written => exact adds writer written rfl rfl

/-- A connection that is attached is no longer one that nobody uses. -/
theorem attach (untouched : Untouched before spares) (among : id ∈ spares)
    (sub : fewer.Sublist spares) (gone : id ∉ fewer) : Untouched (before.attach id) fewer := by
  have keeps : before.network.Keeps (before.attach id).network := before.dropWriter_keeps
  refine ⟨fun other attached => ?_, untouched.once.sublist sub, fun other among => ?_⟩
  · cases attached
    rw [keeps.size]
    exact (untouched.blank id among).1
  · rcases untouched.blank other (sub.subset among) with ⟨known, blank, _⟩
    refine ⟨keeps.size ▸ known, (keeps.written other).trans blank, fun attached => ?_⟩
    cases attached
    exact gone among

/-- Nobody uses a connection that has just come. -/
theorem apply {event : NetworkEvent} {news : List Nat} (untouched : Untouched before spares)
    (grows : before.network.Grows (before.network.apply event) news) :
    Untouched (before.apply event) (spares ++ news) := by
  have later : ∀ {id}, id < before.network.connections.size →
      id < (before.network.apply event).connections.size := by
    intro id known
    rw [grows.size]
    omega
  have new : ∀ id ∈ news, id = before.network.connections.size ∧
      id < (before.network.apply event).connections.size := by
    intro id among
    rcases grows.news with rfl | rfl
    · contradiction
    · rw [grows.size, List.mem_singleton.mp among]
      exact ⟨rfl, Nat.lt_succ_self _⟩
  refine ⟨fun id attached => later (untouched.known id attached), ?_, fun id among => ?_⟩
  · rw [List.nodup_append]
    refine ⟨untouched.once, ?_, ?_⟩
    · rcases grows.news with rfl | rfl <;> simp
    · rintro id among _ fresh rfl
      exact absurd (new id fresh).1 (Nat.ne_of_lt (untouched.blank id among).1)
  · rcases List.mem_append.mp among with among | fresh
    · rcases untouched.blank id among with ⟨known, blank, apart⟩
      exact ⟨later known, (grows.written id).trans blank, apart⟩
    · rcases new id fresh with ⟨is, known⟩
      refine ⟨known, (grows.written id).trans ?_, fun attached => ?_⟩
      · exact Network.writtenTo_of_size_le (Nat.le_of_eq is.symm)
      · exact absurd is (Nat.ne_of_lt (untouched.known id attached))

end Untouched

namespace Station

variable {σ : Type} {before middle after station : Station σ}

/-! ## What is done with connections -/

/-- What one step may do with the connections, and with the one that the session has
accepted. -/
inductive Handles (before after : Station σ) : Prop
  | keeps (keeps : before.transport.network.Keeps after.transport.network)
      (writer : after.transport.link.writer = before.transport.link.writer ∨
        after.transport.link.writer = none)
      (accepted : after.session.phase.accepted? = before.session.phase.accepted? ∨
        after.session.phase.accepted? = none)
  | writes (bytes : List UInt8) (transport : Transport) (progress : SendProgress StreamSend)
      (writes : before.transport.Writes bytes transport progress)
      (network : after.transport.network = transport.network)
      (writer : after.transport.link.writer = transport.link.writer)
      (accepted : after.session.phase.accepted? = before.session.phase.accepted? ∨
        after.session.phase.accepted? = none)
  | accepts (id : Nat) (network : Network) (client : before.session.client = none)
      (keeps : before.transport.network.Keeps network)
      (accepts : network.accept? = some (.ok id, after.transport.network))
      (writer : after.transport.link.writer = before.transport.link.writer)
      (was : before.session.phase.accepted? = none)
      (accepted : after.session.phase.accepted? = some id)
  | attaches (id : Nat) (was : before.session.phase.accepted? = some id)
      (transport : after.transport = before.transport.attach id)
      (accepted : after.session.phase.accepted? = none)

/-- The connections that nobody uses: those that were refused, the one that is about to be
attached, and those that wait. -/
def spares (station : Station σ) (refused : List Nat) : List Nat :=
  refused ++ (station.session.phase.accepted?.toList ++ station.transport.network.waitingIds)

theorem Handles.untouched {refused : List Nat} (handles : Handles before after)
    (untouched : Untouched before.transport (before.spares refused)) :
    Untouched after.transport (after.spares refused) := by
  have sub : ∀ {accepted : Option Nat} {waiting : List Nat},
      accepted = before.session.phase.accepted? ∨ accepted = none →
      waiting.Sublist before.transport.network.waitingIds →
      (refused ++ (accepted.toList ++ waiting)).Sublist (before.spares refused) := by
    intro accepted waiting settles fewer
    refine List.Sublist.append (.refl _) (List.Sublist.append ?_ fewer)
    rcases settles with rfl | rfl
    · exact List.Sublist.refl _
    · exact List.nil_sublist _
  cases handles with
  | keeps keeps writer accepted =>
      exact untouched.change keeps writer (sub accepted keeps.waitingIds_suffix.sublist)
  | writes bytes transport progress writes network writer accepted =>
      have waiting : after.transport.network.waitingIds =
          before.transport.network.waitingIds := by
        rw [network]
        exact congrArg (List.filterMap Except.toOption) writes.sameQueues.arrivals
      have written := untouched.writes writes
      have keeps : transport.network.Keeps after.transport.network := network ▸ .refl _
      exact written.change keeps (.inl writer) (sub accepted (waiting ▸ .refl _))
  | accepts id network client keeps accepts writer was accepted =>
      have waiting := Network.waitingIds_accept? accepts
      have moved := untouched.change (keeps.trans (Network.accept?_keeps accepts)) (.inl writer)
        (sub (.inr rfl) keeps.waitingIds_suffix.sublist)
      rw [spares, accepted]
      rwa [waiting] at moved
  | attaches id was transport accepted =>
      have keeps : before.transport.network.Keeps after.transport.network := by
        rw [transport]
        exact before.transport.dropWriter_keeps
      have once := untouched.once
      have fewer := keeps.waitingIds_suffix.sublist
      rw [spares, was, Option.toList_some, List.nodup_append, List.singleton_append,
        List.nodup_cons] at once
      have gone : id ∉ after.spares refused := by
        rw [spares, accepted, Option.toList_none, List.nil_append]
        intro among
        rcases List.mem_append.mp among with refused | waits
        · exact once.2.2 id refused id List.mem_cons_self rfl
        · exact once.2.1.1 (fewer.subset waits)
      rw [transport]
      exact untouched.attach (by simp [spares, was]) (sub (.inr accepted) fewer) gone

/-! ## Turns -/

theorem Calm.handles (calm : Calm middle after)
    (keeps : before.transport.network.Keeps middle.transport.network)
    (writer : middle.transport.link.writer = before.transport.link.writer ∨
      middle.transport.link.writer = none) : Handles before after := by
  refine .keeps ?_ (by rwa [calm.writer]) (.inr calm.settled)
  rwa [calm.network]

theorem Turn.handles (turn : Turn before after) (numbered : before.pool.IsNumbered)
    (composed : before.session.IsComposed) : Handles before after := by
  cases turn with
  | poll _ alike polling plain plainAfter receives =>
      have writer : after.transport.link.writer = _ := congrArg Link.writer alike.link
      exact .keeps alike.network (.inl writer)
        (.inr (SessionPhase.accepted?_of_isPlain plainAfter))
  | lose middle next alike polling plain cause =>
      have writer : middle.transport.link.writer = _ := congrArg Link.writer alike.link
      exact (Calm.dropClient middle next).handles alike.network (.inl writer)
  | stop middle next alike polling plain asked =>
      have writer : middle.transport.link.writer = _ := congrArg Link.writer alike.link
      have calm : Calm middle (middle.stopGenerator next) :=
        .stopGenerator (alike.pool ▸ numbered) fun _ => alike.isPolling polling
      exact calm.handles alike.network (.inl writer)
  | reply middle alike polling plain client silent =>
      have writer : middle.transport.link.writer = _ := congrArg Link.writer alike.link
      exact .keeps alike.network (.inl writer) (.inr rfl)
  | accept middle id network alike polling plain client accepts =>
      have writer : middle.transport.link.writer = _ := congrArg Link.writer alike.link
      exact .accepts id middle.transport.network client alike.network accepts writer
        (SessionPhase.accepted?_of_isPlain plain) rfl
  | finishStop id deadline next outcome pool transport phase stopped =>
      rcases GeneratorPool.stopped?_sends numbered stopped with ⟨numbered, _⟩
      have same : transport.network = before.transport.network ∧
          transport.link.writer = before.transport.link.writer := by
        rcases GeneratorPool.stopped?_transport stopped with rfl | rfl <;> exact ⟨rfl, rfl⟩
      unfold Station.finishStop
      refine Calm.handles (.afterStop numbered fun goesOn => ?_) ?_ (.inl same.2)
      · exact composed.isPolling phase goesOn rfl
      · change before.transport.network.Keeps transport.network
        rw [same.1]
        exact .refl _
  | finishDetach next phase held =>
      exact Calm.handles (.afterDetach _ next) before.transport.release.dropWriter_keeps (.inr rfl)
  | writeOn call rest transport phase resumed =>
      rcases Transport.resumeStream?_eq_some resumed with ⟨bytes, _, writes⟩
      exact .writes bytes transport _ writes rfl rfl (.inr rfl)
  | finishReply call transport progress phase resumed ended =>
      rcases Transport.resumeStream?_eq_some resumed with ⟨bytes, _, writes⟩
      have calm := Calm.dropClient { before with transport := transport } .answered
      exact .writes bytes transport _ writes calm.network calm.writer (.inr calm.settled)
  | finishAttach id phase held => exact .attaches id (by rw [phase]; rfl) rfl rfl
  | finishJoin deadline consumer result phase joined =>
      exact .keeps (.refl _) (.inl rfl) (.inr rfl)
  | giveUp drive =>
      have left := before.abandonPhase_abandons
      refine Calm.handles (.stopGenerator ?_ fun polls => by contradiction) left.network
        (.inl left.writer)
      change before.abandonPhase.pool.IsNumbered
      rw [left.pool]
      exact numbered
  | fail fault drive phase =>
      refine Calm.handles (.stopGenerator ?_ fun polls => by contradiction) (.refl _) (.inl rfl)
      exact numbered
  | finish result failure drive phase => exact .keeps (.refl _) (.inl rfl) (.inl rfl)
  | vanish drive idle => exact .keeps before.transport.dropWriter_keeps (.inr rfl) (.inl rfl)

theorem generator_handles {id : Nat} {pool : GeneratorPool StreamSend} {transport : Transport}
    (stepped : before.pool.step? id before.radio.bank before.now before.transport =
      some (pool, transport)) :
    Handles before { before with pool := pool, transport := transport } := by
  rcases GeneratorPool.step?_turn stepped with ⟨generator, later, _, _, turn, _⟩
  cases turn with
  | pace _ network quiet cancelled active alive quietAfter keeps =>
      exact .keeps keeps (.inl rfl) (.inl rfl)
  | finish => exact .keeps (.refl _) (.inl rfl) (.inl rfl)
  | begin => exact .keeps (.refl _) (.inl rfl) (.inl rfl)
  | resume call bytes _ progress sending goesOn writes =>
      exact .writes bytes transport progress writes rfl rfl (.inl rfl)

/-- Whatever happens leaves the connections that nobody uses as they are, but for new ones
and the one that the session attaches. -/
theorem Act.untouched {happening : Happening σ} {refused : List Nat}
    (act : Act before happening after) (numbered : before.pool.IsNumbered)
    (composed : before.session.IsComposed)
    (untouched : Untouched before.transport (before.spares refused)) :
    Untouched after.transport (after.spares refused) := by
  cases act with
  | turn _ _ turn made => exact (turn.handles numbered composed).untouched untouched
  | run drive resting =>
      have handles : Handles before (before.setDrive (.looping false)).rest :=
        .keeps (.refl _) (.inl rfl) (.inr rfl)
      exact handles.untouched untouched
  | cancel cancelled drive => exact untouched
  | reclaim result drive => exact untouched
  | letGo =>
      have left := before.abandonPhase_abandons
      have handles : Handles before before.letGo :=
        .keeps left.network (.inl left.writer) (.inr rfl)
      exact handles.untouched untouched
  | outside event =>
      rcases before.transport.network.apply_grows event with ⟨news, grows⟩
      have grown := untouched.apply grows
      rw [spares, List.append_assoc, List.append_assoc, ← grows.waiting] at grown
      exact grown
  | generator id pool transport stepped => exact (generator_handles stepped).untouched untouched
  | aside _ _ beside =>
      rw [spares, beside.transport, beside.session]
      exact untouched

/-! ## Refusals -/

/-- The connection that waits first. -/
def comer? (station : Station σ) : Option Nat :=
  match station.transport.network.arrivals with
  | .ok id :: _ => some id
  | _ => none

/-- The connection that is refused, if one is. -/
def refuses? (station : Station σ) (happening : Happening σ) : Option Nat :=
  if station.attends happening then station.comer? else none

/-- The connections that a history refuses. -/
def refusals [SinkDevice σ] (station : Station σ) : List (Happening σ) → List Nat
  | [] => []
  | happening :: happenings =>
    (if station.permits happening then (station.refuses? happening).toList else []) ++
      (station.proceed happening).refusals happenings

/-- What is so of connections that were refused. -/
structure HasRefused (station : Station σ) (refused : List Nat) : Prop where
  untouched : Untouched station.transport (station.spares refused)
  closed : ∀ id ∈ refused, station.transport.network.isClosed id = true

variable {refused : List Nat}

theorem rejectExtraClient_phase (station : Station σ) :
    station.rejectExtraClient.session.phase = station.session.phase := by
  unfold rejectExtraClient
  split <;> rfl

theorem HasRefused.rejectExtraClient (has : station.HasRefused refused)
    (plain : station.session.phase.isPlain = true) :
    station.rejectExtraClient.HasRefused (refused ++ station.comer?.toList) := by
  have untouched := has.untouched
  unfold Station.spares at untouched
  rw [SessionPhase.accepted?_of_isPlain plain, Option.toList_none, List.nil_append] at untouched
  have keeps := station.rejectExtraClient_alike.network
  have writer := congrArg Link.writer station.rejectExtraClient_alike.link
  have closes := station.rejectExtraClient_draws.closed
  -- Where nobody is refused there are at most some arrivals fewer.
  have kept : station.comer? = none → station.rejectExtraClient.HasRefused
      (refused ++ station.comer?.toList) := by
    intro nobody
    rw [nobody, Option.toList_none, List.append_nil]
    refine ⟨untouched.change keeps (.inl writer) ?_, fun id among =>
      closes id (has.closed id among)⟩
    unfold Station.spares
    rw [rejectExtraClient_phase, SessionPhase.accepted?_of_isPlain plain, Option.toList_none,
      List.nil_append]
    exact (List.Sublist.refl _).append keeps.waitingIds_suffix.sublist
  cases waiting : station.transport.network.arrivals with
  | nil => exact kept (by rw [comer?, waiting])
  | cons first rest =>
      cases first with
      | error fault => exact kept (by rw [comer?, waiting])
      | ok id =>
          have comes : station.comer? = some id := by rw [comer?, waiting]
          have ids : station.transport.network.waitingIds =
              id :: station.rejectExtraClient.transport.network.waitingIds := by
            unfold Station.rejectExtraClient Network.accept? Network.waitingIds
            rw [waiting]
            rfl
          have known : id < station.transport.network.connections.size :=
            (untouched.blank id (by simp [ids])).1
          have closed : station.rejectExtraClient.transport.network.isClosed id = true := by
            unfold Station.rejectExtraClient Network.accept?
            rw [waiting]
            exact Network.isClosed_close known
          have same : station.rejectExtraClient.spares (refused ++ [id]) =
              refused ++ station.transport.network.waitingIds := by
            rw [Station.spares, rejectExtraClient_phase, SessionPhase.accepted?_of_isPlain plain,
              Option.toList_none, List.nil_append, List.append_assoc, List.singleton_append, ids]
          rw [comes, Option.toList_some]
          refine ⟨?_, fun other among => ?_⟩
          · rw [same]
            exact untouched.change keeps (.inl writer) (.refl _)
          · rcases List.mem_append.mp among with before | last
            · exact closes other (has.closed other before)
            · rw [List.mem_singleton.mp last]
              exact closed

/-- A poll that begins with a client refuses the connection that waits first, and goes on as
if it had not been there. -/
theorem beginPoll_turn_of_isAttended (attended : station.isAttended = true)
    (polling : station.session.drive.isPolling = true)
    (plain : station.session.phase.isPlain = true) :
    Turn station.rejectExtraClient station.beginPoll ∧
      Deaf station.rejectExtraClient station.beginPoll := by
  have rejected := station.rejectExtraClient_alike
  rcases Bool.and_eq_true_iff.mp attended with ⟨present, attached⟩
  rcases Option.isSome_iff_exists.mp present with ⟨client, holds⟩
  have polls := rejected.isPolling polling
  have plains : station.rejectExtraClient.session.phase.isPlain = true := by
    rw [rejectExtraClient_phase, plain]
  simp only [beginPoll, holds, attached, if_true]
  constructor
  · refine takeUnit?_turn (.refl _) polls plains ?_ ?_
    · rw [rejected.client, holds, Option.map_some]
    · exact .poll _ ((Alike.refl _).setPhase _) polls plains rfl fun _ waits => by contradiction
  · exact takeUnit?_deaf (.silent rfl rfl)

theorem rejectExtraClient_isComposed (composed : station.session.IsComposed) :
    station.rejectExtraClient.session.IsComposed := by
  unfold rejectExtraClient
  split
  · exact composed
  · exact composed
  · exact ⟨composed.phase, composed.drive⟩

theorem initial_hasRefused (plan : StationPlan) (maintenance : MaintenanceHandler) (ring : Ring)
    (sink : σ) : (initial plan maintenance ring sink).HasRefused [] :=
  ⟨⟨fun _ attached => by contradiction, .nil, fun _ among => absurd among List.not_mem_nil⟩,
    fun _ among => absurd among List.not_mem_nil⟩

variable [SinkDevice σ]

theorem happen_of_attends {happening : Happening σ} (permitted : station.permits happening = true)
    (attends : station.attends happening = true) :
    station.happen happening = station.beginPoll ∧ station.isAttended = true ∧
      station.session.drive.isPolling = true ∧ station.session.phase.isPlain = true := by
  unfold Station.attends at attends
  split at attends
  · rcases Bool.and_eq_true_iff.mp permitted with ⟨own, resting⟩
    refine ⟨rfl, attends, ?_, isPlain_of_isResting resting⟩
    rw [byHand_of_isOwnersTurn own]
    rfl
  · split at attends
    · next drive phase =>
        refine ⟨?_, attends, by rw [drive]; rfl, by rw [phase]; rfl⟩
        simp [happen, step?, sessionStep?, drive, loopStep?, phase]
    · contradiction
  · contradiction

/-- What is so of connections that were refused stays so, and one more may be refused. -/
theorem happen_hasRefused (composed : station.session.IsComposed)
    (numbered : station.pool.IsNumbered) (has : station.HasRefused refused)
    {happening : Happening σ} (permitted : station.permits happening = true) :
    (station.happen happening).HasRefused (refused ++ (station.refuses? happening).toList) := by
  cases attends : station.attends happening with
  | true =>
      rcases happen_of_attends permitted attends with ⟨begins, attended, polling, plain⟩
      rcases beginPoll_turn_of_isAttended attended polling plain with ⟨turn, deaf⟩
      have rejected := has.rejectExtraClient plain
      rw [refuses?, attends, if_pos rfl, begins]
      refine ⟨?_, fun id among => deaf.queues.closed id (rejected.closed id among)⟩
      refine (turn.handles ?_ (rejectExtraClient_isComposed composed)).untouched rejected.untouched
      rw [station.rejectExtraClient_alike.pool]
      exact numbered
  | false =>
      have act := station.happen_act composed happening permitted
      have closes := (happen_queues composed permitted).closed
      rw [refuses?, attends, if_neg Bool.false_ne_true, Option.toList_none, List.append_nil]
      exact ⟨act.untouched numbered composed has.untouched, fun id among =>
        closes id (has.closed id among)⟩

/-- Whatever becomes of a station, the connections that it has refused are closed, and
nothing is ever written to them. -/
theorem history_hasRefused (composed : station.session.IsComposed) (locked : station.IsLocked)
    (has : station.HasRefused refused) (happenings : List (Happening σ)) :
    (station.history happenings).HasRefused (refused ++ station.refusals happenings) := by
  induction happenings generalizing station refused with
  | nil => rwa [refusals, List.append_nil]
  | cons happening happenings ih =>
      rw [refusals, ← List.append_assoc]
      change ((station.proceed happening).history happenings).HasRefused _
      unfold proceed
      split
      · next permitted =>
          have act := station.happen_act composed happening permitted
          refine ih (act.isComposed composed) (act.isLocked locked) ?_
          exact happen_hasRefused composed locked.numbered has permitted
      · rw [List.append_nil]
        exact ih composed locked has

end Station
end VirtualRadio
