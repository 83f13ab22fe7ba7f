import VirtualRadio.Proofs.Station.Closing
import VirtualRadio.Proofs.Station.Refusals

namespace VirtualRadio

/-!
# The client and the listener

While the session has a client it takes no datagram, and a connection that comes is
refused.  While it has none, it looks at the listener when eleven polls in a row have
ended without a datagram, and not before.  Between two polls the client is attached to
the link or was lost by a write, and what was told of attachments comes in turn.
-/

namespace Station

variable {σ : Type} {before after station : Station σ}

/-! ## Who has a client -/

/-- Whether the session has a client or is about to have one. -/
def isEngaged (station : Station σ) : Bool :=
  station.hasClient || station.session.phase.accepted?.isSome

theorem afterDetach_client (station : Station σ) (next : AfterDetach) :
    (station.afterDetach next).session.client = station.session.client := by
  cases next with
  | shutdown =>
      simp only [afterDetach, joinConsumer]
      split <;> rfl
  | _ => rfl

theorem dropClient_client (station : Station σ) (next : AfterDetach) :
    (station.dropClient next).session.client = none := by
  unfold dropClient
  split
  · next nobody => exact (station.afterDetach_client next).trans nobody
  · rfl

theorem afterStop_hasClient {next : AfterStop}
    (has : (station.afterStop next).hasClient = true) : station.hasClient = true := by
  cases next with
  | start origin => exact has
  | stop =>
      simp only [hasClient, afterStop, dropClient_client] at has
      contradiction
  | shutdown =>
      simp only [hasClient, afterStop, dropClient_client] at has
      contradiction

theorem stopGenerator_hasClient {next : AfterStop}
    (has : (station.stopGenerator next).hasClient = true) : station.hasClient = true := by
  unfold stopGenerator at has
  split at has
  · exact afterStop_hasClient has
  · exact has

theorem Alike.hasClient (alike : Alike before after) : after.hasClient = before.hasClient :=
  alike.isSome_client

/-- A client is kept, or was about to be attached. -/
theorem Turn.isEngaged_of_hasClient (turn : Turn before after) (has : after.hasClient = true) :
    before.isEngaged = true := by
  have kept : before.hasClient = true → before.isEngaged = true := fun had => by
    rw [isEngaged, had, Bool.true_or]
  cases turn with
  | poll _ alike polling plain plainAfter receives => exact kept (alike.hasClient.symm.trans has)
  | lose middle next alike polling plain cause =>
      rw [hasClient, dropClient_client] at has
      contradiction
  | stop middle next alike polling plain asked =>
      exact kept (alike.hasClient.symm.trans (stopGenerator_hasClient has))
  | reply middle alike polling plain client silent =>
      exact kept (alike.hasClient.symm.trans has)
  | accept middle id network alike polling plain client accepts =>
      exact kept (alike.hasClient.symm.trans has)
  | finishStop id deadline next outcome pool transport phase stopped =>
      unfold Station.finishStop at has
      have had := afterStop_hasClient has
      exact kept had
  | finishDetach next phase held =>
      rw [hasClient, Station.finishDetach, afterDetach_client] at has
      exact kept has
  | writeOn call rest transport phase resumed => exact kept has
  | finishReply call transport progress phase resumed ended =>
      rw [hasClient, dropClient_client] at has
      contradiction
  | finishAttach id phase held => simp [isEngaged, phase, SessionPhase.accepted?]
  | finishJoin deadline consumer result phase joined => exact kept has
  | giveUp drive =>
      unfold shutdown at has
      have had := stopGenerator_hasClient has
      refine kept ?_
      rw [hasClient, ← before.abandonPhase_abandons.client]
      exact had
  | fail fault drive phase =>
      unfold shutdown at has
      have had := stopGenerator_hasClient has
      exact kept had
  | finish result failure drive phase => exact kept has
  | vanish drive idle => exact kept has

/-- Whoever has a client, or is about to have one, had one or was about to, or has just taken
a connection off the listener. -/
theorem Turn.engages (turn : Turn before after) (numbered : before.pool.IsNumbered)
    (composed : before.session.IsComposed) (engaged : after.isEngaged = true) :
    before.isEngaged = true ∨ before.hasClient = false ∧
      after.transport.network.arrivals.length < before.transport.network.arrivals.length := by
  rcases Bool.or_eq_true_iff.mp engaged with has | accepted
  · exact .inl (turn.isEngaged_of_hasClient has)
  · have same : after.session.phase.accepted? = before.session.phase.accepted? ∨
        after.session.phase.accepted? = none → before.isEngaged = true := by
      intro settles
      rcases settles with same | none
      · rw [same] at accepted
        rw [isEngaged, accepted, Bool.or_true]
      · rw [none] at accepted
        contradiction
    cases turn.handles numbered composed with
    | keeps keeps writer settles => exact .inl (same settles)
    | writes bytes transport progress writes network writer settles => exact .inl (same settles)
    | accepts id network client keeps accepts writer was now =>
        refine .inr ⟨by rw [hasClient, client]; rfl, ?_⟩
        have shorter := keeps.arrivals.sublist.length_le
        rw [(Network.accept?_eq_some accepts).1, List.length_cons] at shorter
        exact shorter
    | attaches id was transport now => exact .inl (same (.inr now))

theorem Act.engages {happening : Happening σ} (act : Act before happening after)
    (numbered : before.pool.IsNumbered) (composed : before.session.IsComposed)
    (engaged : after.isEngaged = true) :
    before.isEngaged = true ∨ before.hasClient = false ∧
      after.transport.network.arrivals.length < before.transport.network.arrivals.length := by
  cases act with
  | turn _ _ turn made => exact turn.engages numbered composed engaged
  | run drive resting =>
      rcases Bool.or_eq_true_iff.mp engaged with has | accepted
      · exact .inl (Bool.or_eq_true_iff.mpr (.inl has))
      · contradiction
  | cancel cancelled drive => exact .inl engaged
  | reclaim result drive => exact .inl engaged
  | letGo => contradiction
  | outside event => exact .inl engaged
  | generator id pool transport stepped => exact .inl engaged
  | aside _ _ beside =>
      rw [Station.isEngaged, hasClient, beside.session] at engaged
      exact .inl engaged

/-! ## Between two polls -/

/-- Whether the owner has let go of the session. -/
def isLetGo (station : Station σ) : Bool :=
  match station.session.drive with
  | .dropped => true
  | _ => false

/-- Between two polls of a session that has given up no teardown, the client is the one
that the link has, if it has any, and the last that was told. -/
theorem IsAccounted.of_isResting (accounted : IsAccounted station)
    (resting : station.isResting = true) (owned : station.isLetGo = false) :
    (station.transport.link.attached = true → station.hasClient = true ∧
      station.transport.link.writer = station.session.client.map StreamClient.connection) ∧
    Matter.attachment.told station.events.toList = some station.hasClient := by
  have plain := isPlain_of_isResting resting
  have linked := accounted.orderly.linked
  refine ⟨fun attached => ?_, ?_⟩
  · rw [linked.attached] at attached
    rcases Option.isSome_iff_exists.mp attached with ⟨id, writer⟩
    have client : station.session.client.map StreamClient.connection = some id := by
      rcases linked.owned id writer with client | detaching | leaves
      · exact client
      · rw [SessionPhase.isDetaching_of_isPlain plain] at detaching
        contradiction
      · cases drive : station.session.drive <;> rw [drive] at leaves <;> try contradiction
        simp only [isLetGo, drive] at owned
        contradiction
    refine ⟨?_, writer.trans client.symm⟩
    rw [hasClient, ← Option.isSome_map, client]
    rfl
  · have told := accounted.told .attachment
    rwa [Accords, IsTold, isOpen_of_not_closing (isClosing_of_isPlain plain .attachment)] at told

/-! ## How often nobody was heard -/

/-- The count of polls without a datagram is small, and nought while there is a client. -/
structure CountsMisses (station : Station σ) : Prop where
  few : station.session.emptyReads ≤ Session.emptyReadsBeforeAccept
  engaged : station.isEngaged = true → station.session.emptyReads = 0

theorem listens_of_isEngaged (composed : station.session.IsComposed)
    (engaged : station.isEngaged = true) (happening : Happening σ) :
    station.listens happening = false := by
  refine Bool.eq_false_iff.mpr fun listening => ?_
  unfold listens at listening
  split at listening
  · rw [Bool.and_eq_true] at listening
    have waiting := listening.2
    split at waiting
    · next phase =>
        have client := composed.phase
        rw [Session.FitsPhase, phase] at client
        simp [isEngaged, hasClient, client, phase, SessionPhase.accepted?] at engaged
    · contradiction
  · contradiction

theorem countMisses_le {count : Nat} (few : count ≤ Session.emptyReadsBeforeAccept)
    (happening : Happening σ) :
    station.countMisses count happening ≤ Session.emptyReadsBeforeAccept := by
  unfold countMisses
  split
  · split
    · next fewer => exact fewer
    · exact Nat.zero_le _
  · split
    · exact Nat.zero_le _
    · exact few

theorem countMisses_of_isEngaged (composed : station.session.IsComposed)
    (engaged : station.isEngaged = true) (count : Nat) (happening : Happening σ) :
    station.countMisses count happening = count := by
  have inattentive := listens_of_isEngaged composed engaged happening
  simp [countMisses, misses, hears, inattentive]

/-- The count begins again when the listener is looked at for a client. -/
theorem countMisses_of_looks {count : Nat} {happening : Happening σ}
    (unattended : station.attends happening = false)
    (looks : station.looks count happening = true) :
    station.countMisses count happening = 0 := by
  rw [Station.looks, unattended, Bool.false_or, Bool.and_eq_true, decide_eq_true_eq] at looks
  rw [countMisses, if_pos looks.1, if_neg (Nat.not_lt_of_le looks.2)]

variable [SinkDevice σ]

theorem attends_of_not_hasClient {happening : Happening σ}
    (permitted : station.permits happening = true) (nobody : station.hasClient = false) :
    station.attends happening = false := by
  refine Bool.eq_false_iff.mpr fun attends => ?_
  have attended := (happen_of_attends permitted attends).2.1
  rw [isAttended, ← hasClient, nobody] at attended
  contradiction

theorem happen_countsMisses (composed : station.session.IsComposed)
    (numbered : station.pool.IsNumbered) (counts : CountsMisses station)
    {happening : Happening σ} (permitted : station.permits happening = true) :
    CountsMisses (station.happen happening) := by
  have act := station.happen_act composed happening permitted
  have queues := happen_queues composed permitted
  refine ⟨?_, fun engaged => ?_⟩
  · rw [queues.emptyReads]
    exact countMisses_le counts.few happening
  · rw [queues.emptyReads]
    rcases act.engages numbered composed engaged with was | ⟨nobody, shorter⟩
    · rw [countMisses_of_isEngaged composed was]
      exact counts.engaged was
    · refine countMisses_of_looks (attends_of_not_hasClient permitted nobody) ?_
      cases looks : station.looks station.session.emptyReads happening with
      | true => rfl
      | false =>
          rw [queues.arrivals, looks, if_neg Bool.false_ne_true, List.length_append] at shorter
          exact absurd shorter (Nat.not_lt_of_le (Nat.le_add_right _ _))

/-! ## Histories -/

/-- The number of polls in a row without a datagram, after a history.  Polls are counted
from the last datagram, or from the last time that the listener was looked at. -/
def missesInARow (station : Station σ) (count : Nat) : List (Happening σ) → Nat
  | [] => count
  | happening :: happenings =>
    (station.proceed happening).missesInARow
      (if station.permits happening then station.countMisses count happening else count) happenings

theorem history_emptyReads (composed : station.session.IsComposed)
    (happenings : List (Happening σ)) :
    (station.history happenings).session.emptyReads =
      station.missesInARow station.session.emptyReads happenings := by
  induction happenings generalizing station with
  | nil => rfl
  | cons happening happenings ih =>
      change ((station.proceed happening).history happenings).session.emptyReads = _
      rw [missesInARow]
      unfold proceed
      split
      · next permitted =>
          have act := station.happen_act composed happening permitted
          rw [ih (act.isComposed composed), (happen_queues composed permitted).emptyReads]
      · exact ih composed

theorem history_countsMisses (plan : StationPlan) (maintenance : MaintenanceHandler) (ring : Ring)
    (sink : σ) (happenings : List (Happening σ)) :
    CountsMisses ((initial plan maintenance ring sink).history happenings) := by
  have keeps : ∀ {station : Station σ} happening,
      station.session.IsComposed ∧ station.IsLocked ∧ CountsMisses station →
      station.permits happening = true →
      (station.happen happening).session.IsComposed ∧ (station.happen happening).IsLocked ∧
        CountsMisses (station.happen happening) := by
    intro station happening ⟨composed, locked, counts⟩ permitted
    have act := station.happen_act composed happening permitted
    exact ⟨act.isComposed composed, act.isLocked locked,
      happen_countsMisses composed locked.numbered counts permitted⟩
  exact (history_invariant keeps ⟨initial_isComposed plan maintenance ring sink,
    initial_isLocked plan maintenance ring sink, Nat.zero_le _, fun _ => rfl⟩ happenings).2.2

/-- As long as no teardown is given up and the session is not let go of, its client, the
link and what was told of attachments agree.  While there is a client no datagram is taken
and other connections are refused: they are closed, and nothing is ever written to them.
While there is none, the listener is looked at when the eleventh poll in a row ends without
a datagram, and at no other time. -/
theorem client_and_listener_agree (plan : StationPlan) (maintenance : MaintenanceHandler)
    (ring : Ring) (sink : σ) (happenings : List (Happening σ))
    (kept : (initial plan maintenance ring sink).avoids givesUpTeardown happenings = true)
    (owned : ((initial plan maintenance ring sink).history happenings).isLetGo = false) :
    let start := initial plan maintenance ring sink
    let station := start.history happenings
    let link := station.transport.link
    let network := station.transport.network
    let misses := start.missesInARow 0 happenings
    link.attached = link.writer.isSome ∧
    (station.isResting = true →
      (link.attached = true → station.hasClient = true ∧
        link.writer = station.session.client.map StreamClient.connection) ∧
      Matter.attachment.told station.events.toList = some station.hasClient) ∧
    station.session.emptyReads = misses ∧ misses ≤ 10 ∧
    (station.hasClient = true → misses = 0) ∧
    (∀ id ∈ start.refusals happenings,
      network.isClosed id = true ∧ network.writtenTo id = [] ∧ link.writer ≠ some id) ∧
    ∀ happening, station.permits happening = true →
      let after := (station.happen happening).transport.network
      (station.hasClient = true →
        after.datagrams = network.datagrams ++ comingDatagrams happening ∧
        after.arrivals = (if station.attends happening then network.arrivals.tail
          else network.arrivals) ++ station.comingArrivals happening) ∧
      (station.hasClient = false →
        after.arrivals = (if station.misses happening ∧ misses = 10 then network.arrivals.tail
          else network.arrivals) ++ station.comingArrivals happening) := by
  intro start station link network misses
  have composed : station.session.IsComposed :=
    history_isComposed plan maintenance ring sink happenings
  have begins : Holds IsAccounted start :=
    ⟨initial_isComposed plan maintenance ring sink,
      .inr (initial_isAccounted plan maintenance ring sink)⟩
  have accounted : IsAccounted station := by
    have holds := history_isAccounted_or_isLost begins happenings
    rw [if_pos kept] at holds
    refine holds.2.resolve_left fun dropped => ?_
    rw [isLetGo, dropped] at owned
    contradiction
  have counted : station.session.emptyReads = misses :=
    history_emptyReads (initial_isComposed plan maintenance ring sink) happenings
  have counts : CountsMisses station :=
    history_countsMisses plan maintenance ring sink happenings
  have refused : station.HasRefused (start.refusals happenings) :=
    history_hasRefused (initial_isComposed plan maintenance ring sink)
      (initial_isLocked plan maintenance ring sink)
      (initial_hasRefused plan maintenance ring sink) happenings
  have few : misses ≤ 10 := counted ▸ counts.few
  refine ⟨accounted.orderly.linked.attached, fun resting =>
    accounted.of_isResting resting owned, counted, few, fun has => ?_, fun id among => ?_,
    fun happening permitted => ⟨fun has => ?_, fun nobody => ?_⟩⟩
  · rw [← counted]
    exact counts.engaged (by rw [isEngaged, has, Bool.true_or])
  · rcases refused.untouched.blank id (List.mem_append_left _ among) with ⟨_, blank, apart⟩
    exact ⟨refused.closed id among, blank, apart⟩
  · have queues := happen_queues composed permitted
    have inattentive := listens_of_isEngaged composed (by rw [isEngaged, has, Bool.true_or])
      happening
    have looks : station.looks station.session.emptyReads happening =
        station.attends happening := by
      simp [Station.looks, Station.misses, inattentive]
    refine ⟨?_, ?_⟩
    · rw [queues.datagrams, inattentive]
      rfl
    · rw [queues.arrivals, looks]
  · have queues := happen_queues composed permitted
    have looks : station.looks station.session.emptyReads happening =
        (station.misses happening && decide (misses = 10)) := by
      have last : Session.emptyReadsBeforeAccept ≤ misses ↔ misses = 10 :=
        ⟨fun many => Nat.le_antisymm few many, fun ten => Nat.le_of_eq ten.symm⟩
      rw [Station.looks, attends_of_not_hasClient permitted nobody, Bool.false_or, counted,
        decide_eq_decide.mpr last]
    rw [queues.arrivals, looks]
    simp only [Bool.and_eq_true, decide_eq_true_eq]
    rfl

/-- A client is attached and another connection comes: it is refused by the next poll, and
the first one remains the client. -/
theorem second_client_is_refused :
    let start : Station DiscardSink := initial default .ignore (Ring.empty 2 1) (.idle 0)
    let happenings := .request .run :: untilAccepted ++
      [.step .session, .request (.network (.connect ⟨.unspecified, 1025⟩)), .step .session,
        .wait 1, .step .session]
    let run := start.history happenings
    start.refusals happenings = [1] ∧ run.isResting = true ∧
      run.transport.link.attached = true ∧
      run.transport.link.writer = run.session.client.map StreamClient.connection ∧
      run.transport.network.writtenTo 1 = [] := by
  refine ⟨by decide +kernel, by decide +kernel, by decide +kernel, ?_, ?_⟩
  · exact (((client_and_listener_agree _ _ _ _ _ (by decide +kernel) (by decide +kernel)).2.1
      (by decide +kernel)).1 (by decide +kernel)).2
  · exact ((client_and_listener_agree _ _ _ _ _ (by decide +kernel)
      (by decide +kernel)).2.2.2.2.2.1 1 (by decide +kernel)).2.1

end Station
end VirtualRadio
