import VirtualRadio.Proofs.Station.Orderly

namespace VirtualRadio

/-!
# What was told, and what is open

Two matters are opened and closed in turn and told of: streaming and the attachment
of a client.  What was told of each agrees with what the session holds or is closing.

A wait has taken what it tears down out of the session, so a wait that is given up
loses a closing, and nobody is told of it later.  An account is a relation between
what was told and what is so that openings and closings keep: that both agree, or
that a closing was lost.
-/

/-- What is opened and closed. -/
inductive Matter where
  | streaming
  | attachment

namespace Matter

/-- Whether an event tells that a matter was opened, or that it was closed. -/
def mark? : Matter → Event → Option Bool
  | streaming, .started _ => some true
  | streaming, .stopped _ => some false
  | attachment, .clientAttached _ => some true
  | attachment, .clientDetached => some false
  | _, _ => none

/-- What was told of a matter after one more opening or closing: whether it is open, as
long as both come in turn. -/
def note (told : Option Bool) (opens : Bool) : Option Bool :=
  told.bind (fun isOpen => if opens = isOpen then none else some opens)

/-- What was told of a matter after one more event. -/
def follow (matter : Matter) (told : Option Bool) (event : Event) : Option Bool :=
  match matter.mark? event with
  | some opens => note told opens
  | none => told

/-- What events tell of a matter: whether it is open after them, if openings and
closings come in turn. -/
def told (matter : Matter) (events : List Event) : Option Bool :=
  events.foldl matter.follow (some false)

variable {matter : Matter} {events : List Event} {event : Event}

theorem mark?_of_isOfTeardown (matter : Matter) (silent : event.isOfTeardown = false) :
    matter.mark? event = none := by
  cases event <;> cases matter <;> first | rfl | contradiction

theorem told_append_of_silent (matter : Matter) (events : List Event) {news : List Event}
    (silent : ∀ event ∈ news, event.isOfTeardown = false) :
    matter.told (events ++ news) = matter.told events := by
  unfold told
  rw [List.foldl_append]
  generalize events.foldl matter.follow (some false) = start
  induction news with
  | nil => rfl
  | cons event news ih =>
      have other := matter.mark?_of_isOfTeardown (silent event List.mem_cons_self)
      rw [List.foldl_cons, follow, other]
      exact ih fun later member => silent later (List.mem_cons_of_mem event member)

theorem exists_closing {start : Option Bool} (open_ : start ≠ some false)
    (closed : events.foldl matter.follow start = some false) :
    ∃ closing ∈ events, matter.mark? closing = some false := by
  induction events generalizing start with
  | nil => contradiction
  | cons event events ih =>
      rw [List.foldl_cons, follow] at closed
      cases mark : matter.mark? event with
      | none =>
          rw [mark] at closed
          rcases ih open_ closed with ⟨closing, member, closes⟩
          exact ⟨closing, List.mem_cons_of_mem event member, closes⟩
      | some opens =>
          cases opens with
          | false => exact ⟨event, List.mem_cons_self, mark⟩
          | true =>
              rw [mark] at closed
              have opened : note start true ≠ some false := by
                rcases start with _ | _ | _ <;> simp_all [note]
              rcases ih opened closed with ⟨closing, member, closes⟩
              exact ⟨closing, List.mem_cons_of_mem event member, closes⟩

/-- Whoever finds everything closed was told of a closing after each opening. -/
theorem closes_after_opening {earlier later : List Event} (opens : matter.mark? event = some true)
    (closed : matter.told (earlier ++ event :: later) = some false) :
    ∃ closing ∈ later, matter.mark? closing = some false := by
  unfold told at closed
  rw [List.foldl_append, List.foldl_cons] at closed
  refine exists_closing ?_ closed
  rw [follow, opens]
  rcases earlier.foldl matter.follow (some false) with _ | _ | _ <;> simp [note]

end Matter

/-- What every opening and every closing keeps, of what was told and of what is so. -/
def IsAccount (agrees : Option Bool → Bool → Prop) : Prop :=
  ∀ told opens, agrees told (!opens) → agrees (Matter.note told opens) opens

/-- What was told is so. -/
def IsTold (told : Option Bool) (isOpen : Bool) : Prop :=
  told = some isOpen

/-- A closing was never told. -/
def IsLost (told : Option Bool) (isOpen : Bool) : Prop :=
  told = none ∨ told = some true ∧ isOpen = false

theorem isTold_isAccount : IsAccount IsTold := by
  intro told opens before
  rw [IsTold] at before ⊢
  subst before
  cases opens <;> rfl

theorem isLost_isAccount : IsAccount IsLost := by
  rintro told opens (rfl | ⟨rfl, opening⟩)
  · exact .inl rfl
  · cases opens with
    | true => exact .inl rfl
    | false => contradiction

namespace Station

variable {σ : Type} {before middle after station : Station σ} {matter : Matter}
  {agrees : Option Bool → Bool → Prop}

/-- Whether the session holds what a matter is about. -/
def isHeld (station : Station σ) : Matter → Bool
  | .streaming => station.session.generator.isSome
  | .attachment => station.session.client.isSome

/-- Whether the session waits to close a matter. -/
def isClosing (station : Station σ) (matter : Matter) : Bool :=
  match matter, station.session.phase with
  | .streaming, .stopping _ _ _ | .attachment, .detaching _ => true
  | _, _ => false

/-- Whether a matter is open: it is held, or it is not yet closed. -/
def isOpen (station : Station σ) (matter : Matter) : Bool :=
  station.isHeld matter || station.isClosing matter

/-- What was told of a matter agrees with what is so. -/
def Accords (agrees : Option Bool → Bool → Prop) (matter : Matter) (station : Station σ) : Prop :=
  agrees (matter.told station.events.toList) (station.isOpen matter)

theorem isOpen_rest (station : Station σ) (matter : Matter) :
    station.rest.isOpen matter = station.isHeld matter := by
  cases matter <;> exact Bool.or_false _

theorem isOpen_of_not_closing (idle : station.isClosing matter = false) :
    station.isOpen matter = station.isHeld matter := by
  rw [isOpen, idle, Bool.or_false]

theorem isClosing_of_isPlain (plain : station.session.phase.isPlain = true) (matter : Matter) :
    station.isClosing matter = false := by
  unfold isClosing
  split
  · next phase => simp [phase, SessionPhase.isPlain] at plain
  · next phase => simp [phase, SessionPhase.isPlain] at plain
  · rfl

/-- What is being closed is not held any more. -/
theorem isHeld_of_isClosing (composed : station.session.IsComposed)
    (closing : station.isClosing matter = true) : station.isHeld matter = false := by
  have taken := composed.phase
  unfold isClosing at closing
  split at closing
  · next phase =>
      rw [Session.FitsPhase, phase] at taken
      rw [isHeld, taken]
      rfl
  · next phase =>
      rw [Session.FitsPhase, phase] at taken
      rw [isHeld, taken.1]
      rfl
  · contradiction

theorem exists_isClosing (tearing : station.isTearingDown = true) :
    ∃ matter, station.isClosing matter = true := by
  unfold isTearingDown at tearing
  split at tearing
  · next phase => exact ⟨.streaming, by simp only [isClosing, phase]⟩
  · next phase => exact ⟨.attachment, by simp only [isClosing, phase]⟩
  · contradiction

theorem isTearingDown_of_isClosing (closing : station.isClosing matter = true) :
    station.isTearingDown = true := by
  unfold isClosing at closing
  split at closing
  · next phase => simp only [isTearingDown, phase]
  · next phase => simp only [isTearingDown, phase]
  · contradiction

namespace Accords

/-- A change that tells nothing of the matter and leaves it as it is. -/
theorem congr (accords : Accords agrees matter before)
    (told : TellsNo Event.isOfTeardown before after)
    (same : after.isOpen matter = before.isOpen matter) : Accords agrees matter after := by
  rcases told with ⟨news, told, silent⟩
  rw [Accords, told, Matter.told_append_of_silent matter _ silent, same]
  exact accords

/-- A change that is told of. -/
theorem tell (account : IsAccount agrees) (accords : Accords agrees matter before) {event : Event}
    (told : after.events = before.events.push event)
    (same : matter.mark? event = none → after.isOpen matter = before.isOpen matter)
    (changes : ∀ opens, matter.mark? event = some opens →
      before.isOpen matter = !opens ∧ after.isOpen matter = opens) :
    Accords agrees matter after := by
  have followed : matter.told after.events.toList =
      matter.follow (matter.told before.events.toList) event := by
    rw [told, Array.toList_push, Matter.told, List.foldl_append]
    rfl
  rw [Accords, followed, Matter.follow]
  cases mark : matter.mark? event with
  | none =>
      rw [same mark]
      exact accords
  | some opens =>
      rcases changes opens mark with ⟨wasOpen, isOpen⟩
      rw [isOpen]
      rw [Accords, wasOpen] at accords
      exact account _ opens accords

theorem rest (accords : Accords agrees matter station)
    (idle : station.isClosing matter = false) : Accords agrees matter station.rest :=
  accords.congr (.silent rfl) ((station.isOpen_rest matter).trans (isOpen_of_not_closing idle).symm)

theorem rest_of_isPlain (accords : Accords agrees matter station)
    (plain : station.session.phase.isPlain = true) : Accords agrees matter station.rest :=
  accords.rest (isClosing_of_isPlain plain matter)

theorem alike (accords : Accords agrees matter before.rest) (alike : Alike before after) :
    Accords agrees matter after.rest := by
  refine accords.congr alike.told ?_
  have client := alike.isSome_client
  rw [isOpen_rest, isOpen_rest]
  cases matter with
  | streaming => exact congrArg Option.isSome alike.generator
  | attachment => exact client

/-! A session that is about to wait: what it waited for before no longer counts. -/

theorem joinConsumer (accords : Accords agrees matter station.rest) :
    Accords agrees matter station.joinConsumer := by
  unfold Station.joinConsumer
  split
  · exact accords.congr (.silent rfl) (by cases matter <;> rfl)
  · exact accords

theorem afterDetach (accords : Accords agrees matter station.rest) (next : AfterDetach) :
    Accords agrees matter (station.afterDetach next) := by
  cases next with
  | receive => exact accords.congr (.silent rfl) (by cases matter <;> rfl)
  | rest => exact accords
  | answered => exact accords.congr (.emit _ rfl) (by cases matter <;> rfl)
  | shutdown => exact accords.joinConsumer

theorem dropClient (accords : Accords agrees matter station.rest) (next : AfterDetach) :
    Accords agrees matter (station.dropClient next) := by
  unfold Station.dropClient
  split
  · exact accords.afterDetach next
  · next client attached =>
      refine accords.congr (.silent rfl) ?_
      cases matter with
      | streaming => rfl
      | attachment =>
          rw [isOpen_rest, isHeld, attached]
          rfl

theorem startStreaming (account : IsAccount agrees) (accords : Accords agrees matter station.rest)
    (released : station.session.generator = none) (origin : Origin) :
    Accords agrees matter (station.startStreaming origin) := by
  refine accords.tell account rfl ?_ ?_
  · intro other
    cases matter with
    | streaming => contradiction
    | attachment => rfl
  · intro opens mark
    cases matter with
    | streaming =>
        cases mark
        refine ⟨?_, rfl⟩
        rw [isOpen_rest, isHeld, released]
        rfl
    | attachment => contradiction

theorem afterStop (account : IsAccount agrees) (accords : Accords agrees matter station.rest)
    (released : station.session.generator = none) (next : AfterStop) :
    Accords agrees matter (station.afterStop next) := by
  cases next with
  | start origin => exact accords.startStreaming account released origin
  | stop =>
      refine Accords.dropClient ?_ .rest
      exact accords.congr (.silent rfl) (by cases matter <;> rfl)
  | shutdown => exact accords.dropClient .shutdown

theorem stopGenerator (account : IsAccount agrees) (accords : Accords agrees matter station.rest)
    (next : AfterStop) : Accords agrees matter (station.stopGenerator next) := by
  unfold Station.stopGenerator
  split
  · next released => exact accords.afterStop account released next
  · next id held =>
      refine accords.congr (.silent rfl) ?_
      cases matter with
      | attachment => rfl
      | streaming =>
          rw [isOpen_rest, isHeld, held]
          rfl

theorem finishStop (account : IsAccount agrees) (accords : Accords agrees matter station)
    (composed : station.session.IsComposed) {id deadline : Nat} {next : AfterStop}
    (phase : station.session.phase = .stopping id deadline next) (outcome : StopOutcome)
    (pool : GeneratorPool StreamSend) (transport : Transport) :
    Accords agrees matter
      ({ station with pool := pool, transport := transport }.finishStop outcome next) := by
  have released := composed.phase
  rw [Session.FitsPhase, phase] at released
  unfold Station.finishStop
  refine Accords.afterStop account (accords.tell account rfl ?_ ?_) ?_ next
  · intro other
    cases matter with
    | streaming => contradiction
    | attachment =>
        have idle : station.isClosing .attachment = false := by simp only [isClosing, phase]
        exact (isOpen_rest _ _).trans (isOpen_of_not_closing idle).symm
  · intro opens mark
    cases matter with
    | streaming =>
        cases mark
        constructor
        · simp [isOpen, isClosing, phase]
        · refine (isOpen_rest _ _).trans ?_
          exact congrArg Option.isSome released
    | attachment => contradiction
  · exact released

theorem finishDetach (account : IsAccount agrees) (accords : Accords agrees matter station)
    (composed : station.session.IsComposed) {next : AfterDetach}
    (phase : station.session.phase = .detaching next) :
    Accords agrees matter (station.finishDetach next) := by
  have taken := composed.phase
  simp only [Session.FitsPhase, phase] at taken
  unfold Station.finishDetach
  refine Accords.afterDetach ?_ next
  refine accords.tell account rfl ?_ ?_
  · intro other
    cases matter with
    | attachment => contradiction
    | streaming =>
        have idle : station.isClosing .streaming = false := by simp only [isClosing, phase]
        exact (isOpen_rest _ _).trans (isOpen_of_not_closing idle).symm
  · intro opens mark
    cases matter with
    | attachment =>
        cases mark
        constructor
        · simp [isOpen, isClosing, phase]
        · refine (isOpen_rest _ _).trans ?_
          exact congrArg Option.isSome taken.1
    | streaming => contradiction

theorem finishAttach (account : IsAccount agrees) (accords : Accords agrees matter station)
    (composed : station.session.IsComposed) {id : Nat}
    (phase : station.session.phase = .attaching id) :
    Accords agrees matter (station.finishAttach id) := by
  have client := composed.phase
  rw [Session.FitsPhase, phase] at client
  have idle : station.isClosing matter = false := by
    unfold isClosing
    rw [phase]
    cases matter <;> rfl
  refine accords.tell account rfl ?_ ?_
  · intro other
    cases matter with
    | attachment => contradiction
    | streaming => exact (isOpen_rest _ _).trans (isOpen_of_not_closing idle).symm
  · intro opens mark
    cases matter with
    | attachment =>
        cases mark
        constructor
        · rw [isOpen_of_not_closing idle, isHeld, client]
          rfl
        · rfl
    | streaming => contradiction

end Accords

/-! ## Giving up -/

/-- What was being closed counts as closed when the wait for it is given up. -/
theorem isOpen_abandonPhase (station : Station σ) (matter : Matter) :
    station.abandonPhase.isOpen matter = station.isHeld matter := by
  have left := station.abandonPhase_abandons
  refine (isOpen_rest _ matter).trans ?_
  cases matter with
  | streaming => exact congrArg Option.isSome left.generator
  | attachment => exact congrArg Option.isSome left.client

theorem Accords.abandonPhase (accords : Accords agrees matter station)
    (composed : station.session.IsComposed)
    (kept : (∀ told, agrees told true → agrees told false) ∨ station.isTearingDown = false) :
    Accords agrees matter station.abandonPhase := by
  rw [Accords, station.abandonPhase_abandons.events, isOpen_abandonPhase]
  cases closing : station.isClosing matter with
  | false =>
      rw [← isOpen_of_not_closing closing]
      exact accords
  | true =>
      rcases kept with weaker | steady
      · rw [Accords, isOpen, closing, Bool.or_true] at accords
        rw [isHeld_of_isClosing composed closing]
        exact weaker _ accords
      · rw [isTearingDown_of_isClosing closing] at steady
        contradiction

/-- The shutdown of a loop whose wait was given up. -/
theorem Accords.giveUp (accords : Accords agrees matter station.abandonPhase)
    (account : IsAccount agrees) (drive : Drive) :
    Accords agrees matter (station.abandonPhase.setDrive drive).shutdown := by
  have closing : Accords agrees matter (station.abandonPhase.setDrive drive).rest :=
    accords.congr (.silent rfl) (by cases matter <;> rfl)
  exact closing.stopGenerator account .shutdown

theorem Turn.accords (turn : Turn before after) (account : IsAccount agrees)
    (accords : Accords agrees matter before) (composed : before.session.IsComposed)
    (kept : (∀ told, agrees told true → agrees told false) ∨ before.abandonsTeardown = false) :
    Accords agrees matter after := by
  cases turn with
  | poll _ alike polling plain plainAfter receives =>
      have rested := (accords.rest_of_isPlain plain).alike alike
      refine rested.congr (.silent rfl) ?_
      exact (isOpen_of_not_closing (isClosing_of_isPlain plainAfter matter)).trans
        (isOpen_rest _ matter).symm
  | lose middle next alike polling plain cause =>
      exact ((accords.rest_of_isPlain plain).alike alike).dropClient next
  | stop middle next alike polling plain asked =>
      exact ((accords.rest_of_isPlain plain).alike alike).stopGenerator account next
  | reply middle alike polling plain client silent =>
      have rested := (accords.rest_of_isPlain plain).alike alike
      exact rested.congr (.silent rfl) (by cases matter <;> rfl)
  | accept middle id network alike polling plain client accepts =>
      have rested := (accords.rest_of_isPlain plain).alike alike
      exact rested.congr (.silent rfl) (by cases matter <;> rfl)
  | finishStop id deadline next outcome pool transport phase stopped =>
      exact accords.finishStop account composed phase outcome pool transport
  | finishDetach next phase held => exact accords.finishDetach account composed phase
  | writeOn call rest transport phase resumed =>
      have rested := accords.rest (by unfold isClosing; rw [phase]; cases matter <;> rfl)
      exact rested.congr (.silent rfl) (by cases matter <;> rfl)
  | finishReply call transport progress phase resumed ended =>
      have rested := accords.rest (by unfold isClosing; rw [phase]; cases matter <;> rfl)
      have moved : Accords agrees matter { before with transport := transport }.rest :=
        rested.congr (.silent rfl) (by cases matter <;> rfl)
      exact moved.dropClient .answered
  | finishAttach id phase held => exact accords.finishAttach account composed phase
  | finishJoin deadline consumer result phase joined =>
      have rested := accords.rest (by unfold isClosing; rw [phase]; cases matter <;> rfl)
      exact rested.congr (.silent rfl) (by cases matter <;> rfl)
  | giveUp drive =>
      have given : Accords agrees matter before.abandonPhase :=
        accords.abandonPhase composed (kept.imp_right fun steady => by
          simpa [abandonsTeardown, drive] using steady)
      exact given.giveUp account _
  | fail fault drive phase =>
      have rested := accords.rest (by unfold isClosing; rw [phase]; cases matter <;> rfl)
      have closing : Accords agrees matter (before.setDrive (.closing (.error fault))).rest :=
        rested.congr (.silent rfl) (by cases matter <;> rfl)
      exact closing.stopGenerator account .shutdown
  | finish result failure drive phase =>
      exact accords.congr (.silent rfl) (by cases matter <;> rfl)
  | vanish drive idle => exact accords.congr (.silent rfl) (by cases matter <;> rfl)

end Station
end VirtualRadio
