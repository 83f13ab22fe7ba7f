import VirtualRadio.Proofs.Station.Accounts
import VirtualRadio.Sink.Discard

namespace VirtualRadio

/-!
# What a loop leaves behind

A loop shuts down at its end, whether it was asked to stop or a poll has failed.
Everything is closed then if it was never asked to stop while it waited for the end
of a generator or for the lock to detach the client, and only then.  Such a wait has
taken what it tears down out of the session, so the shutdown finds nothing to tear
down, and nobody is told that it ended.
-/

namespace Station

variable {σ : Type} {before middle after station : Station σ} {matter : Matter}
  {agrees : Option Bool → Bool → Prop}

/-! ## The consumer -/

/-- Whether the end of the consumer is waited for. -/
def isJoining (station : Station σ) : Bool :=
  match station.session.phase with
  | .joining _ => true
  | _ => false

theorem isJoining_of_isShutdown (polls : station.session.phase.isShutdown = false) :
    station.isJoining = false := by
  unfold isJoining
  split
  · next phase =>
      rw [phase] at polls
      contradiction
  · rfl

theorem isJoining_of_isPlain (plain : station.session.phase.isPlain = true) :
    station.isJoining = false := by
  unfold isJoining
  split
  · next phase =>
      rw [phase] at plain
      contradiction
  · rfl

/-- A consumer that the session no longer may stop is over, or its end is waited for. -/
def HasJoined (station : Station σ) : Prop :=
  station.session.hasConsumer = false →
    station.path.consumer.isOver = true ∨ station.isJoining = true

theorem isOver_of_joined? {consumer after : Consumer σ} {deadline now : Nat}
    {result : Except Fault (Nat × Nat)}
    (joined : consumer.joined? deadline now = some (after, result)) : after.isOver = true := by
  unfold Consumer.joined? at joined
  split at joined
  · next ended =>
      cases joined
      exact ended
  · split at joined
    · cases joined
      rfl
    · contradiction

namespace HasJoined

theorem rest (joined : HasJoined station)
    (joins : station.isJoining = false) : HasJoined station.rest := by
  intro released
  rcases joined released with ended | joining
  · exact .inl ended
  · rw [joins] at joining
    contradiction

theorem congr (joined : HasJoined before.rest)
    (hasConsumer : after.session.hasConsumer = before.session.hasConsumer)
    (consumer : after.path.consumer = before.path.consumer) : HasJoined after := by
  intro released
  rw [hasConsumer] at released
  rw [consumer]
  rcases joined released with ended | joining
  · exact .inl ended
  · contradiction

theorem joinConsumer (joined : HasJoined station.rest) : HasJoined station.joinConsumer := by
  unfold Station.joinConsumer
  split
  · exact fun _ => .inr rfl
  · exact joined

theorem afterDetach (joined : HasJoined station.rest) (next : AfterDetach) :
    HasJoined (station.afterDetach next) := by
  cases next with
  | shutdown => exact joined.joinConsumer
  | _ => exact joined.congr rfl rfl

theorem dropClient (joined : HasJoined station.rest) (next : AfterDetach) :
    HasJoined (station.dropClient next) := by
  unfold Station.dropClient
  split
  · exact joined.afterDetach next
  · exact joined.congr rfl rfl

/-- A retune is asked for only while the session may stop the consumer. -/
theorem startStreaming (joined : HasJoined station.rest) (origin : Origin) :
    HasJoined (station.startStreaming origin) := by
  intro released
  change station.session.hasConsumer = false at released
  have path : (station.startStreaming origin).path = station.path := by
    change (if station.session.hasConsumer then _ else station.path) = station.path
    rw [released]
    rfl
  rw [path]
  rcases joined released with ended | joining
  · exact .inl ended
  · contradiction

theorem afterStop (joined : HasJoined station.rest) (next : AfterStop) :
    HasJoined (station.afterStop next) := by
  cases next with
  | start origin => exact joined.startStreaming origin
  | stop =>
      refine HasJoined.dropClient ?_ .rest
      exact joined.congr rfl rfl
  | shutdown => exact joined.dropClient .shutdown

theorem stopGenerator (joined : HasJoined station.rest) (next : AfterStop) :
    HasJoined (station.stopGenerator next) := by
  unfold Station.stopGenerator
  split
  · exact joined.afterStop next
  · exact joined.congr rfl rfl

end HasJoined

theorem Turn.hasJoined (turn : Turn before after) (joined : HasJoined before)
    (composed : before.session.IsComposed) : HasJoined after := by
  have plainRest : before.session.phase.isPlain = true → HasJoined before.rest := fun plain =>
    joined.rest (isJoining_of_isPlain plain)
  cases turn with
  | poll _ alike polling plain plainAfter receives =>
      exact (plainRest plain).congr alike.hasConsumer alike.consumer
  | lose middle next alike polling plain cause =>
      refine HasJoined.dropClient ?_ next
      exact (plainRest plain).congr alike.hasConsumer alike.consumer
  | stop middle next alike polling plain asked =>
      refine HasJoined.stopGenerator ?_ next
      exact (plainRest plain).congr alike.hasConsumer alike.consumer
  | reply middle alike polling plain client silent =>
      exact (plainRest plain).congr alike.hasConsumer alike.consumer
  | accept middle id network alike polling plain client accepts =>
      exact (plainRest plain).congr alike.hasConsumer alike.consumer
  | finishStop id deadline next outcome pool transport phase stopped =>
      have rested := joined.rest (by rw [isJoining, phase])
      unfold Station.finishStop
      refine HasJoined.afterStop ?_ next
      exact rested.congr rfl rfl
  | finishDetach next phase held =>
      have rested := joined.rest (by rw [isJoining, phase])
      unfold Station.finishDetach
      refine HasJoined.afterDetach ?_ next
      exact rested.congr rfl rfl
  | writeOn call rest transport phase resumed =>
      exact (joined.rest (by rw [isJoining, phase])).congr rfl rfl
  | finishReply call transport progress phase resumed ended =>
      have rested := joined.rest (by rw [isJoining, phase])
      refine HasJoined.dropClient ?_ .answered
      exact rested.congr rfl rfl
  | finishAttach id phase held =>
      exact (joined.rest (by rw [isJoining, phase])).congr rfl rfl
  | finishJoin deadline consumer result phase joinedConsumer =>
      have ended := isOver_of_joined? joinedConsumer
      exact fun _ => .inl ended
  | giveUp drive =>
      have left := before.abandonPhase_abandons
      have fits := composed.drive
      rw [Session.FitsDrive, drive] at fits
      have rested := joined.rest (isJoining_of_isShutdown fits)
      refine HasJoined.stopGenerator ?_ .shutdown
      exact rested.congr left.hasConsumer (congrArg TransmitPath.consumer left.path)
  | fail fault drive phase =>
      have rested := joined.rest (by rw [isJoining, phase])
      refine HasJoined.stopGenerator ?_ .shutdown
      exact rested.congr rfl rfl
  | finish result failure drive phase =>
      exact (joined.rest (by rw [isJoining, phase])).congr rfl rfl
  | vanish drive idle => exact joined

/-! ## Runs -/

/-- Nothing brings a session back that was let go of. -/
theorem Turn.drive_of_dropped (turn : Turn before after) (composed : before.session.IsComposed)
    (drive : before.session.drive = .dropped) : after.session.drive = .dropped := by
  rcases composed.of_dropped drive with ⟨failure, resting⟩
  have polls : before.session.drive.isPolling = false := by rw [drive]; rfl
  cases turn <;> simp_all

theorem Act.drive_of_dropped {happening : Happening σ} (act : Act before happening after)
    (composed : before.session.IsComposed) (drive : before.session.drive = .dropped) :
    after.session.drive = .dropped := by
  cases act with
  | turn _ _ turn made => exact turn.drive_of_dropped composed drive
  | run byHand resting => simp_all
  | cancel cancelled looping => simp_all
  | reclaim result returned => simp_all
  | letGo => rfl
  | outside event => exact drive
  | generator id pool transport stepped => exact drive
  | aside _ _ beside => rw [beside.session, drive]

theorem Act.accords {happening : Happening σ} (act : Act before happening after)
    (account : IsAccount agrees) (accords : Accords agrees matter before)
    (composed : before.session.IsComposed)
    (kept : (∀ told, agrees told true → agrees told false) ∨
      before.givesUpTeardown happening = false) :
    after.session.drive = .dropped ∨ Accords agrees matter after := by
  cases act with
  | letGo => exact .inl rfl
  | turn _ _ turn made =>
      refine .inr (turn.accords account accords composed (kept.imp_right fun steady => ?_))
      rcases made with rfl | ⟨drive, _⟩
      · exact steady
      · simp [abandonsTeardown, drive]
  | run drive resting =>
      have rested := accords.rest_of_isPlain (isPlain_of_isResting resting)
      exact .inr (rested.congr (.silent rfl) (by cases matter <;> rfl))
  | cancel cancelled drive => exact .inr (accords.congr (.silent rfl) (by cases matter <;> rfl))
  | reclaim result drive => exact .inr (accords.congr (.silent rfl) (by cases matter <;> rfl))
  | outside event => exact .inr (accords.congr (.silent rfl) (by cases matter <;> rfl))
  | generator id pool transport stepped =>
      exact .inr (accords.congr (.silent rfl) (by cases matter <;> rfl))
  | aside _ _ beside =>
      refine .inr (accords.congr beside.told ?_)
      unfold isOpen isHeld isClosing
      rw [beside.session]

theorem Act.hasJoined {happening : Happening σ} (act : Act before happening after)
    (joined : HasJoined before) (composed : before.session.IsComposed) :
    after.session.drive = .dropped ∨ HasJoined after := by
  cases act with
  | letGo => exact .inl rfl
  | turn _ _ turn made => exact .inr (turn.hasJoined joined composed)
  | run drive resting =>
      have plain := isPlain_of_isResting resting
      exact .inr ((joined.rest (isJoining_of_isPlain plain)).congr rfl rfl)
  | cancel cancelled drive => exact .inr joined
  | reclaim result drive => exact .inr joined
  | outside event => exact .inr joined
  | generator id pool transport stepped => exact .inr joined
  | aside _ _ beside =>
      right
      intro released
      unfold isJoining
      rw [beside.session] at released ⊢
      exact (joined released).imp_left beside.ended

/-- What is so as long as no teardown is given up. -/
structure IsAccounted (station : Station σ) : Prop where
  orderly : IsOrderly false station
  told : ∀ matter, Accords IsTold matter station
  joined : HasJoined station

/-- What is so at every moment, unless the session was let go of. -/
def Holds (property : Station σ → Prop) (station : Station σ) : Prop :=
  station.session.IsComposed ∧ (station.session.drive = .dropped ∨ property station)

theorem Act.holds {happening : Happening σ} {property : Station σ → Prop}
    (act : Act before happening after) (holds : Holds property before)
    (keeps : before.session.IsComposed → property before →
      after.session.drive = .dropped ∨ property after) : Holds property after := by
  refine ⟨act.isComposed holds.1, ?_⟩
  rcases holds.2 with dropped | so
  · exact .inl (act.drive_of_dropped holds.1 dropped)
  · exact keeps holds.1 so

theorem Act.isAccounted {happening : Happening σ} (act : Act before happening after)
    (accounted : IsAccounted before) (composed : before.session.IsComposed)
    (kept : before.givesUpTeardown happening = false) :
    after.session.drive = .dropped ∨ IsAccounted after := by
  by_cases dropped : after.session.drive = .dropped
  · exact .inl dropped
  · right
    refine ⟨act.isOrderly accounted.orderly composed kept, fun matter => ?_, ?_⟩
    · exact (act.accords isTold_isAccount (accounted.told matter) composed
        (.inr kept)).resolve_left dropped
    · exact (act.hasJoined accounted.joined composed).resolve_left dropped

/-- A teardown that is given up is never told of. -/
theorem isLost_of_isTearingDown (told : ∀ matter, Accords IsTold matter station)
    (composed : station.session.IsComposed) (tearing : station.isTearingDown = true) :
    ∃ matter, Accords IsLost matter station.abandonPhase := by
  rcases exists_isClosing tearing with ⟨matter, closing⟩
  have so : matter.told station.events.toList = some true := by
    rw [told matter, isOpen, closing, Bool.or_true]
  refine ⟨matter, .inr ⟨?_, ?_⟩⟩
  · rw [station.abandonPhase_abandons.events, so]
  · rw [isOpen_abandonPhase, isHeld_of_isClosing composed closing]

theorem initial_isAccounted (plan : StationPlan) (maintenance : MaintenanceHandler) (ring : Ring)
    (sink : σ) : IsAccounted (initial plan maintenance ring sink) :=
  ⟨initial_isOrderly false plan maintenance ring sink, fun matter => by cases matter <;> rfl, nofun⟩

/-- Whether nothing is left open, and everything that was opened was told closed. -/
structure IsClosed (station : Station σ) : Prop where
  generators : station.pool.isIdle = true
  writer : station.transport.link.writer = none
  consumer : station.path.consumer.isOver = true
  told : ∀ matter : Matter, matter.told station.events.toList = some false

/-- Where everything is closed, a closing was told after each opening. -/
theorem IsClosed.closes_after_opening (closed : station.IsClosed) {earlier later : List Event}
    {opening : Event} (events : station.events.toList = earlier ++ opening :: later)
    (opens : matter.mark? opening = some true) :
    ∃ closing ∈ later, matter.mark? closing = some false :=
  Matter.closes_after_opening opens (events ▸ closed.told matter)

/-- A session whose loop is over has closed what is accounted for. -/
theorem IsAccounted.isClosed (accounted : IsAccounted station)
    (composed : station.session.IsComposed) (returned : station.hasReturned = true) :
    station.IsClosed := by
  rcases returned_of_hasReturned returned with ⟨result, drive⟩
  rcases composed.of_returned drive with ⟨⟨client, generator, hasConsumer⟩, failure, resting⟩
  have plain : station.session.phase.isPlain = true := by rw [resting]; rfl
  have tended := accounted.orderly.tended
  have linked := accounted.orderly.linked
  rw [generator, awaited_of_isPlain plain, drive] at tended
  rw [client, SessionPhase.isDetaching_of_isPlain plain, drive] at linked
  refine ⟨tended.isIdle rfl, linked.writer_eq_none rfl, ?_, fun matter => ?_⟩
  · rcases accounted.joined hasConsumer with ended | joining
    · exact ended
    · rw [isJoining_of_isPlain plain] at joining
      contradiction
  · rw [accounted.told matter, isOpen_of_not_closing (isClosing_of_isPlain plain matter)]
    cases matter with
    | streaming => rw [isHeld, generator]; rfl
    | attachment => rw [isHeld, client]; rfl

variable [SinkDevice σ]

theorem happen_of_abandonsTeardown (abandons : station.abandonsTeardown = true) :
    station.happen (.step .session) =
        (station.abandonPhase.setDrive (.closing (.ok ()))).shutdown ∧
      station.isTearingDown = true := by
  unfold abandonsTeardown at abandons
  split at abandons
  · next drive =>
      refine ⟨?_, abandons⟩
      simp only [happen, step?, sessionStep?, drive, loopStep?]
      rfl
  · contradiction

/-- Nobody is told later of a closing that was lost. -/
theorem history_isLost (lost : Holds (Accords IsLost matter) station)
    (happenings : List (Happening σ)) :
    Holds (Accords IsLost matter) (station.history happenings) := by
  refine history_invariant ?_ lost happenings
  intro station happening holds permitted
  have act := station.happen_act holds.1 happening permitted
  refine act.holds holds fun composed lost => act.accords isLost_isAccount lost composed (.inl ?_)
  rintro told (missed | ⟨_, open_⟩)
  · exact .inl missed
  · contradiction

theorem happen_isAccounted (accounted : Holds IsAccounted station) (happening : Happening σ)
    (permitted : station.permits happening = true)
    (kept : station.givesUpTeardown happening = false) :
    Holds IsAccounted (station.happen happening) := by
  have act := station.happen_act accounted.1 happening permitted
  exact act.holds accounted fun composed so => act.isAccounted so composed kept

/-- A loop that gives up a teardown loses its closing. -/
theorem happen_isLost (accounted : Holds IsAccounted station) {happening : Happening σ}
    (gives : station.givesUpTeardown happening = true) :
    ∃ matter, Holds (Accords IsLost matter) (station.proceed happening) := by
  unfold givesUpTeardown at gives
  split at gives
  · rcases happen_of_abandonsTeardown gives with ⟨closes, tearing⟩
    have act := station.happen_act accounted.1 (.step .session) rfl
    have so : IsAccounted station := by
      refine accounted.2.resolve_left fun dropped => ?_
      simp [abandonsTeardown, dropped] at gives
    rcases isLost_of_isTearingDown so.told accounted.1 tearing with ⟨matter, lost⟩
    refine ⟨matter, act.isComposed accounted.1, .inr ?_⟩
    change Accords IsLost matter (station.happen (.step .session))
    rw [closes]
    exact lost.giveUp isLost_isAccount _
  · contradiction

theorem history_isAccounted_or_isLost (accounted : Holds IsAccounted station)
    (happenings : List (Happening σ)) :
    if station.avoids givesUpTeardown happenings then Holds IsAccounted (station.history happenings)
    else ∃ matter, Holds (Accords IsLost matter) (station.history happenings) := by
  -- Everything is accounted for up to the first teardown that is given up; what is lost
  -- there stays lost, whatever else the history brings.
  induction happenings generalizing station with
  | nil => exact accounted
  | cons happening happenings ih =>
      cases strays : station.permits happening && station.givesUpTeardown happening with
      | true =>
          rcases happen_isLost accounted (Bool.and_eq_true_iff.mp strays).2 with ⟨matter, lost⟩
          rw [avoids, strays, Bool.not_true, Bool.false_and, if_neg Bool.false_ne_true]
          exact ⟨matter, history_isLost lost happenings⟩
      | false =>
          rw [avoids, strays, Bool.not_false, Bool.true_and]
          refine ih ?_
          unfold proceed
          split
          · next permitted =>
              rw [permitted, Bool.true_and] at strays
              exact happen_isAccounted accounted happening permitted strays
          · exact accounted

/-! ## The end of a loop -/

/-- A loop that is over has closed everything if and only if it was never asked to stop
while it waited to tear something down: all generators are over, the stream has no
client, the consumer is over, and a closing was told after each opening. -/
theorem returned_isClosed_iff (plan : StationPlan) (maintenance : MaintenanceHandler)
    (ring : Ring) (sink : σ) (happenings : List (Happening σ))
    (returned : ((initial plan maintenance ring sink).history happenings).hasReturned = true) :
    ((initial plan maintenance ring sink).history happenings).IsClosed ↔
      (initial plan maintenance ring sink).avoids givesUpTeardown happenings = true := by
  have begins : Holds IsAccounted (initial plan maintenance ring sink) :=
    ⟨initial_isComposed plan maintenance ring sink,
      .inr (initial_isAccounted plan maintenance ring sink)⟩
  rcases returned_of_hasReturned returned with ⟨result, drive⟩
  have kept := history_isAccounted_or_isLost begins happenings
  split at kept
  · next avoided =>
      have so := kept.2.resolve_left (by rw [drive]; nofun)
      exact ⟨fun _ => avoided, fun _ => so.isClosed kept.1 returned⟩
  · next strays =>
      rcases kept with ⟨matter, composed, lost⟩
      refine ⟨fun closed => ?_, fun avoided => absurd avoided strays⟩
      have lost := lost.resolve_left (by rw [drive]; nofun)
      rw [Accords, closed.told matter] at lost
      rcases lost with missed | ⟨missed, _⟩ <;> contradiction

/-- A loop that is asked to stop in the middle of a poll stops its generator. -/
theorem poll_given_up_isClosed :
    let start : Station DiscardSink := initial default .ignore (Ring.empty 2 1) (.idle 0)
    let run := start.history [.request .run, .step .session,
      .request (.network (.datagram ⟨.unspecified, 1024⟩ (Command.start 1))), .step .session,
      .step .session, .request .cancel, .step .session, .step (.generator 0),
      .step (.generator 0), .step .session, .step .consumer, .step .session, .step .session]
    run.hasReturned = true ∧ run.IsClosed :=
  have returned := by decide +kernel
  ⟨returned, (returned_isClosed_iff _ _ _ _ _ returned).mpr (by decide +kernel)⟩

/-- A loop that is asked to stop while it waits for the end of its generator leaves the
generator behind, and tells nobody. -/
theorem stop_given_up_not_isClosed :
    let start : Station DiscardSink := initial default .ignore (Ring.empty 2 1) (.idle 0)
    let run := start.history [.request .run, .step .session,
      .request (.network (.datagram ⟨.unspecified, 1024⟩ (Command.start 1))), .step .session,
      .step .session, .request (.network (.datagram ⟨.unspecified, 1024⟩ Command.stop)),
      .step .session, .request .cancel, .step .session, .step .consumer, .step .session,
      .step .session]
    run.hasReturned = true ∧ run.pool.isIdle = false ∧
      Matter.streaming.told run.events.toList = some true := by
  decide +kernel

end Station
end VirtualRadio
