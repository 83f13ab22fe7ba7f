import VirtualRadio.Proofs.Station.Turns

namespace VirtualRadio

/-!
# What the session waits for, and why

At every moment of a history the parts of the session go together.  While it waits
for the end of a generator it holds none; while it waits for the lock of the stream
to detach or to attach a client it has none; and what is waited for in a shutdown is
waited for in no other case.
-/

namespace Session

variable {session : Session}

theorem fitsDrive_waiting (waits : session.phase.waits = true)
    (leads : session.drive.leadsTo session.phase.isShutdown = true)
    (released : session.phase.isShutdown = true → session.generator = none) :
    session.FitsDrive := by
  unfold FitsDrive
  cases drive : session.drive with
  | byHand => trivial
  | looping cancelled => simpa [drive, Drive.leadsTo] using leads
  | closing result =>
      have shuts : session.phase.isShutdown = true := by simpa [drive, Drive.leadsTo] using leads
      cases phase : session.phase with
      | resting failure => simp [phase, SessionPhase.waits] at waits
      | _ => exact ⟨phase ▸ shuts, released shuts⟩
  | returned result => simp [drive, Drive.leadsTo] at leads
  | dropped => simp [drive, Drive.leadsTo] at leads

theorem fitsDrive_polling (waits : session.phase.waits = true)
    (polling : session.drive.isPolling = true) (polls : session.phase.isShutdown = false) :
    session.FitsDrive := by
  refine fitsDrive_waiting waits ?_ fun shuts => ?_
  · rw [polls]
    exact Drive.leadsTo_of_isPolling polling
  · rw [polls] at shuts
    contradiction

theorem isComposed_resting {failure : Option Fault} (phase : session.phase = .resting failure)
    (fits : session.drive.isPolling = true ∨ session.IsShut) : session.IsComposed := by
  constructor
  · simp [FitsPhase, phase]
  · cases drive : session.drive <;> simp_all [FitsDrive, Drive.isPolling, SessionPhase.isShutdown]

end Session

namespace Station

variable {σ : Type} {before middle after station : Station σ}

/-! ## Waits -/

theorem joinConsumer_isComposed (client : station.session.client = none)
    (generator : station.session.generator = none)
    (leads : station.session.drive.leadsTo true = true) :
    station.joinConsumer.session.IsComposed := by
  unfold joinConsumer
  split
  · exact ⟨⟨client, generator, rfl⟩, Session.fitsDrive_waiting rfl leads fun _ => generator⟩
  · next joined =>
      exact Session.isComposed_resting rfl (.inr ⟨client, generator, Bool.eq_false_iff.mpr joined⟩)

theorem afterDetach_isComposed (client : station.session.client = none) {next : AfterDetach}
    (leads : station.session.drive.leadsTo next.isShutdown = true)
    (released : next.isShutdown = true → station.session.generator = none) :
    (station.afterDetach next).session.IsComposed := by
  cases next with
  | receive => exact ⟨client, Session.fitsDrive_polling rfl (Drive.isPolling_of_leadsTo leads) rfl⟩
  | rest => exact Session.isComposed_resting rfl (.inl (Drive.isPolling_of_leadsTo leads))
  | answered => exact Session.isComposed_resting rfl (.inl (Drive.isPolling_of_leadsTo leads))
  | shutdown => exact joinConsumer_isComposed client (released rfl) leads

theorem dropClient_isComposed {next : AfterDetach}
    (leads : station.session.drive.leadsTo next.isShutdown = true)
    (released : next.isShutdown = true → station.session.generator = none) :
    (station.dropClient next).session.IsComposed := by
  unfold dropClient
  split
  · next client => exact afterDetach_isComposed client leads released
  · exact ⟨⟨rfl, released⟩, Session.fitsDrive_waiting rfl leads released⟩

theorem dropClient_isComposed_of_isPolling {next : AfterDetach}
    (polling : station.session.drive.isPolling = true) (polls : next.isShutdown = false) :
    (station.dropClient next).session.IsComposed := by
  refine dropClient_isComposed ?_ fun shuts => ?_
  · rw [polls]
    exact Drive.leadsTo_of_isPolling polling
  · rw [polls] at shuts
    contradiction

theorem afterStop_isComposed (generator : station.session.generator = none) {next : AfterStop}
    (leads : station.session.drive.leadsTo next.isShutdown = true) :
    (station.afterStop next).session.IsComposed := by
  cases next with
  | start origin => exact Session.isComposed_resting rfl (.inl (Drive.isPolling_of_leadsTo leads))
  | stop => exact dropClient_isComposed_of_isPolling (Drive.isPolling_of_leadsTo leads) rfl
  | shutdown => exact dropClient_isComposed leads fun _ => generator

theorem stopGenerator_isComposed {next : AfterStop}
    (leads : station.session.drive.leadsTo next.isShutdown = true) :
    (station.stopGenerator next).session.IsComposed := by
  unfold stopGenerator
  split
  · next generator => exact afterStop_isComposed generator leads
  · exact ⟨rfl, Session.fitsDrive_waiting rfl leads fun _ => rfl⟩

theorem shutdown_isComposed (leads : station.session.drive.leadsTo true = true) :
    station.shutdown.session.IsComposed :=
  stopGenerator_isComposed leads

/-! ## Turns -/

theorem Alike.isPolling (alike : Alike before after)
    (polling : before.session.drive.isPolling = true) : after.session.drive.isPolling = true := by
  rw [alike.drive]
  exact polling

theorem Alike.isSome_client (alike : Alike before after) :
    after.session.client.isSome = before.session.client.isSome := by
  have same := congrArg Option.isSome alike.client
  rwa [Option.isSome_map, Option.isSome_map] at same

theorem Alike.client_eq_none (alike : Alike before after)
    (client : before.session.client = none) : after.session.client = none := by
  rw [← Option.isNone_iff_eq_none, ← Option.not_isSome, alike.isSome_client, client]
  rfl

theorem Turn.isComposed (turn : Turn before after) (composed : before.session.IsComposed) :
    after.session.IsComposed := by
  have phased := composed.phase
  unfold Session.FitsPhase at phased
  cases turn with
  | poll _ alike polling plain plainAfter receives =>
      have polls := alike.isPolling polling
      cases phase : after.session.phase with
      | resting failure => exact Session.isComposed_resting phase (.inl polls)
      | receiving deadline =>
          refine ⟨?_, Session.fitsDrive_polling ?_ polls ?_⟩
          · simpa only [Session.FitsPhase, phase] using receives deadline phase
          · rw [phase]
            rfl
          · rw [phase]
            rfl
      | reading deadline =>
          refine ⟨?_, Session.fitsDrive_polling ?_ polls ?_⟩
          · simp only [Session.FitsPhase, phase]
          · rw [phase]
            rfl
          · rw [phase]
            rfl
      | _ =>
          rw [phase] at plainAfter
          contradiction
  | lose middle next alike polling plain cause =>
      have polls := alike.isPolling polling
      rcases cause with ⟨rfl, _⟩ | ⟨rfl, _⟩
      · exact dropClient_isComposed_of_isPolling polls rfl
      · exact dropClient_isComposed_of_isPolling polls rfl
  | stop middle next alike polling plain asked =>
      refine stopGenerator_isComposed ?_
      cases next with
      | shutdown => rw [alike.drive, asked rfl]; rfl
      | _ => exact Drive.leadsTo_of_isPolling (alike.isPolling polling)
  | reply middle alike polling plain client silent =>
      have polls := alike.isPolling polling
      refine ⟨?_, Session.fitsDrive_polling rfl polls rfl⟩
      exact alike.isSome_client.trans client
  | accept middle id network alike polling plain client accepts =>
      have polls := alike.isPolling polling
      refine ⟨?_, Session.fitsDrive_polling rfl polls rfl⟩
      exact alike.client_eq_none client
  | finishStop id deadline next outcome pool transport phase stopped =>
      simp only [phase] at phased
      unfold Station.finishStop
      apply afterStop_isComposed
      · exact phased
      · exact composed.leadsTo phase rfl
  | finishDetach next phase held =>
      simp only [phase] at phased
      unfold Station.finishDetach
      apply afterDetach_isComposed
      · exact phased.1
      · exact composed.leadsTo phase rfl
      · exact phased.2
  | writeOn call rest transport phase resumed =>
      simp only [phase] at phased
      have polling := composed.isPolling phase rfl rfl
      exact ⟨phased, Session.fitsDrive_polling rfl polling rfl⟩
  | finishReply call transport progress phase resumed ended =>
      have polling := composed.isPolling phase rfl rfl
      exact dropClient_isComposed_of_isPolling polling rfl
  | finishAttach id phase held =>
      have polling := composed.isPolling phase rfl rfl
      exact Session.isComposed_resting rfl (.inl polling)
  | finishJoin deadline consumer result phase joined =>
      simp only [phase] at phased
      exact Session.isComposed_resting rfl (.inr phased)
  | giveUp drive => exact shutdown_isComposed rfl
  | fail fault drive phase => exact shutdown_isComposed rfl
  | finish result failure drive phase =>
      have shut := composed.drive
      simp only [Session.FitsDrive, drive, phase] at shut
      exact Session.isComposed_resting phase (.inr shut)
  | vanish drive idle => exact composed

/-! ## Giving up -/

/-- What is left alone when a wait is given up. -/
structure Abandons (before after : Station σ) : Prop where
  pool : after.pool = before.pool
  path : after.path = before.path
  events : after.events = before.events
  attached : after.transport.link.attached = before.transport.link.attached
  writer : after.transport.link.writer = before.transport.link.writer
  network : before.transport.network.Keeps after.transport.network
  generator : after.session.generator = before.session.generator
  client : after.session.client = before.session.client
  hasConsumer : after.session.hasConsumer = before.session.hasConsumer

theorem abandonPhase_abandons (station : Station σ) : Abandons station station.abandonPhase := by
  unfold abandonPhase
  split
  case h_5 => split <;> exact ⟨rfl, rfl, rfl, rfl, rfl, .refl _, rfl, rfl, rfl⟩
  case h_8 id phase => exact ⟨rfl, rfl, rfl, rfl, rfl, .close _ id, rfl, rfl, rfl⟩
  all_goals exact ⟨rfl, rfl, rfl, rfl, rfl, .refl _, rfl, rfl, rfl⟩

/-- A generator that is let go of with its session is asked to stop. -/
theorem letGo_pool (station : Station σ) :
    (station.abandonPhase.session.generator = none ∧
      station.letGo.pool = station.abandonPhase.pool) ∨
    ∃ id, station.abandonPhase.session.generator = some id ∧
      station.letGo.pool = station.abandonPhase.pool.cancel id := by
  cases held : station.abandonPhase.session.generator with
  | none =>
      refine .inl ⟨rfl, ?_⟩
      simp only [letGo, updateSession, held]
  | some id =>
      refine .inr ⟨id, rfl, ?_⟩
      simp only [letGo, updateSession, held]

theorem letGo_isShut (station : Station σ) : station.letGo.session.IsShut :=
  ⟨rfl, rfl, rfl⟩

/-! ## Histories -/

theorem Act.isComposed {happening : Happening σ} (act : Act before happening after)
    (composed : before.session.IsComposed) : after.session.IsComposed := by
  cases act with
  | turn _ _ turn made => exact turn.isComposed composed
  | run drive resting => exact Session.isComposed_resting rfl (.inl rfl)
  | cancel cancelled drive =>
      have fits := composed.drive
      rw [Session.FitsDrive, drive] at fits
      exact ⟨composed.phase, fits⟩
  | reclaim result drive => exact ⟨composed.phase, trivial⟩
  | letGo => exact Session.isComposed_resting rfl (.inr before.letGo_isShut)
  | outside event => exact composed
  | generator id pool transport stepped => exact composed
  | aside _ _ beside =>
      rw [beside.session]
      exact composed

theorem initial_isComposed (plan : StationPlan) (maintenance : MaintenanceHandler) (ring : Ring)
    (sink : σ) : (initial plan maintenance ring sink).session.IsComposed :=
  ⟨trivial, trivial⟩

variable [SinkDevice σ]

/-- The parts of a session go together at every moment of a history. -/
theorem history_isComposed (plan : StationPlan) (maintenance : MaintenanceHandler) (ring : Ring)
    (sink : σ) (happenings : List (Happening σ)) :
    ((initial plan maintenance ring sink).history happenings).session.IsComposed := by
  have keeps : ∀ {station : Station σ} happening, station.session.IsComposed →
      station.permits happening = true → (station.happen happening).session.IsComposed := by
    intro station happening composed permitted
    exact (station.happen_act composed happening permitted).isComposed composed
  exact history_invariant keeps (initial_isComposed plan maintenance ring sink) happenings

end Station
end VirtualRadio
