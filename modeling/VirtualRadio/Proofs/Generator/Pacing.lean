import VirtualRadio.Generator.Recording
import VirtualRadio.Proofs.Generator.Fates

namespace VirtualRadio

/-!
# The pace of a generator

The deadline of a frame is the instant at which its generator began, and all
intervals up to its own one on top.  The intervals are those that the registers
ask for when the waits begin; nothing that happens to the frames enters.  So a
send begins at the first millisecond that is not before its deadline, or when
the send before it returns if this is later: rounding never adds up, and what a
blocked output holds back leaves at once when it takes frames again.
-/

/-! ## Deadlines -/

/-- The deadline of the last of some waits, which follow on each other from the
time at which a generator began. -/
def Generator.dueAfter (began : Nat) (waits : List StatusInputs) : Nat :=
  waits.foldl (fun due inputs => due + Generator.interval inputs) (Clock.nanos began)

namespace Generator

variable {began number : Nat} {waits : List StatusInputs}

theorem dueAfter_concat (began : Nat) (waits : List StatusInputs) (inputs : StatusInputs) :
    dueAfter began (waits ++ [inputs]) = dueAfter began waits + interval inputs := by
  rw [dueAfter, List.foldl_append]
  rfl

theorem dueAfter_le_append (began : Nat) (waits more : List StatusInputs) :
    dueAfter began waits ≤ dueAfter began (waits ++ more) := by
  induction more generalizing waits with
  | nil => exact Nat.le_of_eq (congrArg _ (List.append_nil waits).symm)
  | cons inputs more ih =>
      have longer := ih (waits ++ [inputs])
      rw [dueAfter_concat, List.append_assoc] at longer
      exact Nat.le_trans (Nat.le_add_right _ _) longer

/-- Deadlines never go back. -/
theorem dueAfter_take_mono (began : Nat) (waits : List StatusInputs) {first second : Nat}
    (ordered : first ≤ second) :
    dueAfter began (waits.take first) ≤ dueAfter began (waits.take second) := by
  have split : (waits.take second).take first ++ (waits.take second).drop first =
      waits.take second := List.take_append_drop _ _
  rw [List.take_take, Nat.min_eq_left ordered] at split
  rw [← split]
  exact dueAfter_le_append began _ _

theorem nanos_le_dueAfter (began : Nat) (waits : List StatusInputs) :
    Clock.nanos began ≤ dueAfter began waits :=
  dueAfter_le_append began [] waits

end Generator

/-! ## Sends on schedule -/

/-- When a sender may begin the send with a number: as soon as it begins itself,
and after that when the send before returns. -/
def SendDiary.freed? (diary : SendDiary) (began number : Nat) : Option Nat :=
  (began :: diary.returned.map Prod.fst)[number]?

/-- Every send of a diary hands on the frame of its own wait, at the end of this
wait or when the sender becomes free. -/
def SendDiary.OnSchedule (profile : Profile) (began : Nat) (waits : List StatusInputs)
    (diary : SendDiary) : Prop :=
  ∀ number time frame, diary.begun[number]? = some (time, frame) →
    ((StatusCursor.start profile).frames waits)[number]? = some frame ∧
      ∃ freed, diary.freed? began number = some freed ∧
        time = max (Clock.ceilMillis (Generator.dueAfter began (waits.take (number + 1)))) freed

namespace SendDiary

variable {profile : Profile} {began number now freed : Nat} {waits : List StatusInputs}
variable {diary : SendDiary} {κ : Type}

theorem freed?_follow (free : diary.freed? began number = some freed)
    (progress : SendProgress κ) :
    (diary.follow now progress).freed? began number = some freed := by
  cases progress with
  | finished outcome =>
      have known := (List.getElem?_eq_some_iff.mp free).1
      rw [follow, freed?, List.map_append, ← List.cons_append, List.getElem?_append_left known]
      exact free
  | _ => exact free

/-- Whoever has seen all sends return is free since the last one did. -/
theorem freed?_follow_finished (inFlight : diary.begun.length = diary.returned.length + 1)
    (outcome : Except Fault Unit) :
    (diary.follow now (.finished outcome : SendProgress κ)).freed? began diary.begun.length =
      some now := by
  have size : (began :: diary.returned.map Prod.fst).length = diary.begun.length := by
    rw [List.length_cons, List.length_map, inFlight]
  rw [follow, freed?, List.map_append, ← List.cons_append, ← size]
  exact List.getElem?_concat_length

namespace OnSchedule

/-- Waits that begin later do not matter. -/
theorem append (scheduled : diary.OnSchedule profile began waits) (more : List StatusInputs) :
    diary.OnSchedule profile began (waits ++ more) := by
  intro number time frame listed
  obtain ⟨own, freed, free, punctual⟩ := scheduled number time frame listed
  rw [StatusCursor.getElem?_frames, Option.map_eq_some_iff] at own
  obtain ⟨inputs, wait, same⟩ := own
  have known : number < waits.length := (List.getElem?_eq_some_iff.mp wait).1
  refine ⟨?_, freed, free, ?_⟩
  · rw [StatusCursor.getElem?_frames, List.getElem?_append_left known, wait, ← same]
    rfl
  · rw [List.take_append_of_le_length known]
    exact punctual

/-- One more send, at the end of its wait. -/
theorem start {inputs : StatusInputs} (scheduled : diary.OnSchedule profile began waits)
    (wait : waits[diary.begun.length]? = some inputs)
    (last : waits.length = diary.begun.length + 1)
    (free : diary.freed? began diary.begun.length = some freed)
    (punctual : now = max (Clock.ceilMillis (Generator.dueAfter began waits)) freed) :
    (diary.start now ((StatusCursor.reached profile diary.begun.length).frame inputs)).OnSchedule
      profile began waits := by
  intro number time frame listed
  by_cases earlier : number < diary.begun.length
  · rw [SendDiary.start, List.getElem?_append_left earlier] at listed
    exact scheduled number time frame listed
  · have same : number = diary.begun.length := by
      have bounded := (List.getElem?_eq_some_iff.mp listed).1
      rw [SendDiary.start, List.length_append, List.length_singleton] at bounded
      omega
    subst same
    rw [SendDiary.start, List.getElem?_concat_length, Option.some.injEq, Prod.mk.injEq] at listed
    obtain ⟨rfl, rfl⟩ := listed
    refine ⟨?_, freed, free, ?_⟩
    · rw [StatusCursor.getElem?_frames, wait]
      rfl
    · rw [← last, List.take_length]
      exact punctual

theorem follow (scheduled : diary.OnSchedule profile began waits) (now : Nat)
    (progress : SendProgress κ) : (diary.follow now progress).OnSchedule profile began waits := by
  have begun : (diary.follow now progress).begun = diary.begun := by cases progress <;> rfl
  intro number time frame listed
  rw [begun] at listed
  obtain ⟨own, freed, free, punctual⟩ := scheduled number time frame listed
  exact ⟨own, freed, freed?_follow free progress, punctual⟩

end OnSchedule

/-- Whether the send with a number returned at the moment at which it began. -/
def IsInstant (diary : SendDiary) (number : Nat) : Prop :=
  (diary.returned[number]?).map Prod.fst = (diary.begun[number]?).map Prod.fst

/-- Sends keep the pace of the waits before them. -/
structure KeepsPace (profile : Profile) (began : Nat) (waits : List StatusInputs)
    (diary : SendDiary) : Prop where
  scheduled : diary.OnSchedule profile began waits
  /-- After a send that the output held back, frames leave back to back until
  the deadlines are met again, and then at their deadlines. -/
  resumed : ∀ first freed, diary.freed? began first = some freed →
    ∀ number ≥ first, (∀ between ≥ first, between < number → diary.IsInstant between) →
      ∀ time frame, diary.begun[number]? = some (time, frame) →
        time = max (Clock.ceilMillis (Generator.dueAfter began (waits.take (number + 1)))) freed
  /-- Without such a send every frame leaves within a millisecond after its
  deadline. -/
  undrifted : ∀ number, (∀ earlier < number, diary.IsInstant earlier) →
    ∀ time frame, diary.begun[number]? = some (time, frame) →
      Generator.dueAfter began (waits.take (number + 1)) ≤ Clock.nanos time ∧
        Clock.nanos time <
          Generator.dueAfter began (waits.take (number + 1)) + Clock.nanosPerMilli

theorem OnSchedule.resumed (scheduled : diary.OnSchedule profile began waits) {first : Nat}
    (free : diary.freed? began first = some freed) (later : first ≤ number)
    (instant : ∀ between ≥ first, between < number → diary.IsInstant between)
    {time : Nat} {frame : List UInt8} (listed : diary.begun[number]? = some (time, frame)) :
    time = max (Clock.ceilMillis (Generator.dueAfter began (waits.take (number + 1)))) freed := by
  induction later generalizing time frame with
  | refl =>
      obtain ⟨-, since, freeSince, punctual⟩ := scheduled first time frame listed
      cases free.symm.trans freeSince
      exact punctual
  | @step number later ih =>
      obtain ⟨-, since, freeSince, punctual⟩ := scheduled (number + 1) time frame listed
      have known : number < diary.begun.length :=
        Nat.lt_of_succ_lt (List.getElem?_eq_some_iff.mp listed).1
      have before : (diary.begun[number]).1 = _ :=
        ih (fun between after earlier => instant between after (Nat.lt_succ_of_lt earlier))
          (List.getElem?_eq_getElem known)
      have returned := instant number later (Nat.lt_succ_self _)
      rw [IsInstant, List.getElem?_eq_getElem known, ← List.getElem?_map] at returned
      have same : since = (diary.begun[number]).1 := by
        rw [freed?, List.getElem?_cons_succ, returned] at freeSince
        exact (Option.some.inj freeSince).symm
      have ordered := Clock.ceilMillis_mono
        (Generator.dueAfter_take_mono began waits (Nat.le_succ (number + 1)))
      rw [punctual, same, before, ← Nat.max_assoc, Nat.max_eq_left ordered]

theorem OnSchedule.keepsPace (scheduled : diary.OnSchedule profile began waits) :
    diary.KeepsPace profile began waits where
  scheduled := scheduled
  resumed := fun _ _ free _ later instant _ _ listed => scheduled.resumed free later instant listed
  undrifted := by
    intro number instant time frame listed
    let due := Generator.dueAfter began (waits.take (number + 1))
    have punctual : time = max (Clock.ceilMillis due) began :=
      scheduled.resumed rfl (Nat.zero_le _) (fun between _ => instant between) listed
    have ahead : began ≤ Clock.ceilMillis due := by
      have bounded := Clock.ceilMillis_mono
        (Generator.nanos_le_dueAfter began (waits.take (number + 1)))
      rwa [Clock.ceilMillis_nanos] at bounded
    rw [punctual, Nat.max_eq_left ahead]
    exact ⟨Clock.le_nanos_ceilMillis due, Clock.nanos_ceilMillis_lt due⟩

end SendDiary

namespace Generator

variable {ω κ : Type} {profile : Profile} {began now id : Nat} {waits : List StatusInputs}
variable {diary : SendDiary} {generator : Generator κ}

/-- What waits and sends so far and the clock say of a generator that still
sends. -/
def InPhase (began now : Nat) (waits : List StatusInputs) (diary : SendDiary)
    (generator : Generator κ) : Prop :=
  match generator.phase with
  | .fresh => waits = [] ∧ diary.begun = [] ∧ now = began
  | .turning => waits.length = diary.begun.length ∧ generator.deadline = dueAfter began waits ∧
      diary.freed? began diary.begun.length = some now
  | .pacing inputs => waits.length = diary.begun.length + 1 ∧
      generator.deadline = dueAfter began waits ∧ waits[diary.begun.length]? = some inputs ∧
      ∃ freed, diary.freed? began diary.begun.length = some freed ∧ freed ≤ now ∧
        now ≤ max (Clock.ceilMillis generator.deadline) freed
  | .sending _ => waits.length = diary.begun.length ∧ generator.deadline = dueAfter began waits
  | _ => True

theorem inPhase_follow (whole : waits.length = diary.begun.length)
    (deadline : generator.deadline = dueAfter began waits)
    (inFlight : diary.begun.length = diary.returned.length + 1) (progress : SendProgress κ) :
    (generator.follow progress).InPhase began now waits (diary.follow now progress) := by
  rcases progress with call | (fault | _) | _
  · exact ⟨whole, deadline⟩
  · exact ⟨whole, deadline, SendDiary.freed?_follow_finished (κ := κ) inFlight _⟩
  · exact ⟨whole, deadline, SendDiary.freed?_follow_finished inFlight _⟩
  · trivial

theorem deadline?_follow (generator : Generator κ) (progress : SendProgress κ) :
    (some (generator.follow progress)).bind deadline? = none := by
  rcases progress with _ | (_ | _) | _ <;> rfl

/-- The inputs of the wait that a generator begins between two moments, if it
begins one. -/
def newWait (before after : Option (Generator κ)) (bank : RegisterBank) : List StatusInputs :=
  if (before.bind deadline?).isNone && (after.bind deadline?).isSome then
    [StatusInputs.ofBank bank]
  else []

variable {bank : RegisterBank} {before after : Generator κ}
variable {observed observedAfter : ObservedOutput ω}

theorem newWait_of_not_waiting {earlier later : Option (Generator κ)}
    (free : later.bind deadline? = none) (bank : RegisterBank) :
    newWait earlier later bank = [] := by
  rw [newWait, free, Option.isSome_none, Bool.and_false, if_neg Bool.false_ne_true]

theorem newWait_of_same {earlier later : Option (Generator κ)}
    (same : later.bind deadline? = earlier.bind deadline?) (bank : RegisterBank) :
    newWait earlier later bank = [] := by
  rw [newWait, same]
  cases earlier.bind deadline? <;> rfl

/-- A wait that begins goes on from the deadline before it, or from the moment
at which the generator begins. -/
theorem inPhase_pace {previous : Nat} (inPhase : before.InPhase began now waits diary)
    (early : before.phase = .fresh ∧ previous = Clock.nanos now ∨
      before.phase = .turning ∧ previous = before.deadline) :
    (before.pace previous bank).InPhase began now (waits ++ [StatusInputs.ofBank bank]) diary := by
  have longer : (waits ++ [StatusInputs.ofBank bank]).length = waits.length + 1 :=
    List.length_append
  rcases early with ⟨fresh, rfl⟩ | ⟨turning, rfl⟩
  · rw [InPhase, fresh] at inPhase
    obtain ⟨rfl, unsent, rfl⟩ := inPhase
    refine ⟨?_, rfl, ?_, now, ?_, Nat.le_refl _, Nat.le_max_right _ _⟩
    · rw [unsent]
      rfl
    · rw [unsent]
      rfl
    · rw [unsent]
      rfl
  · rw [InPhase, turning] at inPhase
    obtain ⟨whole, deadline, free⟩ := inPhase
    refine ⟨?_, ?_, ?_, now, free, Nat.le_refl _, Nat.le_max_right _ _⟩
    · rw [longer, whole]
    · rw [dueAfter_concat, ← deadline]
      rfl
    · rw [← whole, List.getElem?_concat_length]

theorem moves_onSchedule (books : before.Books profile (observed.seen id))
    (scheduled : (observed.seen id).OnSchedule profile began waits)
    (inPhase : before.InPhase began now waits (observed.seen id))
    (moves : Moves id now bank before observed after observedAfter) :
    (observedAfter.seen id).OnSchedule profile began
        (waits ++ newWait (some before) (some after) bank) ∧
      after.InPhase began now (waits ++ newWait (some before) (some after) bank)
        (observedAfter.seen id) := by
  have matching := books.phase
  cases moves with
  | waits previous early =>
      have begins : newWait (some before) (some (before.pace previous bank)) bank =
          [StatusInputs.ofBank bank] := by
        rcases early with ⟨phase, -⟩ | ⟨phase, -⟩ <;> simp [newWait, deadline?, pace, phase]
      rw [begins]
      exact ⟨scheduled.append _, inPhase_pace inPhase early⟩
  | finishes =>
      rw [newWait_of_not_waiting rfl, List.append_nil]
      exact ⟨scheduled, trivial⟩
  | begins inputs pacing uncancelled due output progress =>
      rw [newWait_of_not_waiting (deadline?_follow _ _), List.append_nil,
        ObservedOutput.seen_note]
      rw [InPhase, pacing] at inPhase
      obtain ⟨last, deadline, wait, freed, free, since, untilDue⟩ := inPhase
      rw [pacing] at matching
      have reached := (Clock.isDue_iff_ceilMillis_le _ _).mp due
      have punctual : now = max (Clock.ceilMillis (dueAfter began waits)) freed := by
        rw [← deadline]
        exact Nat.le_antisymm untilDue (Nat.max_le.mpr ⟨reached, since⟩)
      have longer : ((observed.seen id).start now (before.cursor.frame inputs)).begun.length =
          (observed.seen id).begun.length + 1 := List.length_append
      have sameDeadline : ({ before with cursor := before.cursor.advance } : Generator κ).deadline =
          dueAfter began waits := deadline
      have sent := scheduled.start wait last free punctual
      rw [← books.cursor] at sent
      refine ⟨sent.follow now progress, inPhase_follow ?_ sameDeadline ?_ progress⟩
      · rw [longer, last]
      · rw [longer, matching.2]
        rfl
  | resumes call sending output progress =>
      rw [newWait_of_not_waiting (deadline?_follow _ _), List.append_nil,
        ObservedOutput.seen_note]
      rw [InPhase, sending] at inPhase
      rw [sending] at matching
      exact ⟨scheduled.follow now progress,
        inPhase_follow inPhase.1 inPhase.2 matching.2 progress⟩

/-- A request to stop changes nothing about the wait or the send it meets. -/
theorem inPhase_cancel (inPhase : before.InPhase began now waits diary) :
    before.cancel.InPhase began now waits diary :=
  inPhase

/-- Nothing is said of one who is over. -/
theorem inPhase_of_isOver (gone : before.isOver = true) :
    before.InPhase began now waits diary := by
  rw [InPhase]
  rcases phase_of_isOver gone with phase | phase | phase <;> rw [phase] <;> trivial

end Generator

namespace GeneratorRun

variable {ω κ : Type} [FrameOutput ω κ]

/-- What the registers ask for whenever the generator with a number begins to
wait. -/
def waitsBegun (id : Nat) (run : GeneratorRun ω κ) :
    List (GeneratorHappening ω) → List StatusInputs
  | [] => []
  | happening :: later =>
    let after := run.happen happening
    Generator.newWait (run.pool.get? id) (after.pool.get? id) run.radio.bank ++
      after.waitsBegun id later

variable {id began : Nat} {waits : List StatusInputs}
variable {run after : GeneratorRun (ObservedOutput ω) κ}

/-- The generator with a number began at a time, and has kept its pace since. -/
structure IsPaced (began id : Nat) (waits : List StatusInputs)
    (run : GeneratorRun (ObservedOutput ω) κ) : Prop where
  known : id < run.pool.nextId
  scheduled : (run.output.seen id).OnSchedule run.profile began waits
  inPhase : ∀ generator, run.pool.get? id = some generator →
    generator.InPhase began run.now waits (run.output.seen id)

/-- No time goes by for a generator that has a step to make. -/
theorem inPhase_pass {millis : Nat} {generator : Generator κ}
    (finds : run.pool.get? id = some generator)
    (may : TaskSystem.mayPass millis run = true)
    (inPhase : generator.InPhase began run.now waits (run.output.seen id)) :
    generator.InPhase began (run.now + millis) waits (run.output.seen id) := by
  have stuck := step?_of_rest finds (TaskSystem.isAtRest_of_mayPass may)
  cases phase : generator.phase with
  | fresh => simp [Generator.step?, phase] at stuck
  | turning => simp [Generator.step?, phase] at stuck
  | pacing inputs =>
      have bounded : run.now + millis ≤ Clock.ceilMillis generator.deadline :=
        le_ceilMillis_of_wait finds (by rw [Generator.deadline?, phase]) may
      rw [Generator.InPhase, phase] at inPhase ⊢
      obtain ⟨last, deadline, wait, freed, free, since, -⟩ := inPhase
      exact ⟨last, deadline, wait, freed, free, Nat.le_add_right_of_le since,
        Nat.le_trans bounded (Nat.le_max_left _ _)⟩
  | sending => rwa [Generator.InPhase, phase] at inPhase ⊢
  | _ => exact Generator.inPhase_of_isOver (by rw [Generator.isOver, phase])

namespace IsPaced

theorem keep (sound : run.IsSound) (paced : run.IsPaced began id waits)
    (continues : Continues run after) (befalls : Befalls id run after) :
    after.IsPaced began id
      (waits ++ Generator.newWait (run.pool.get? id) (after.pool.get? id) run.radio.bank) := by
  have known := Nat.lt_of_lt_of_le paced.known continues.nextId
  have scheduled := paced.scheduled
  have profile := continues.profile
  rw [← profile] at scheduled
  cases befalls with
  | apart member seen now =>
      rw [Generator.newWait_of_same (congrArg (·.bind Generator.deadline?) member),
        List.append_nil]
      refine ⟨known, seen ▸ scheduled, ?_⟩
      rw [member, seen, now]
      exact paced.inPhase
  | born new => exact absurd paced.known (Nat.not_lt_of_le (Nat.le_of_eq new))
  | moves before moved finds _ moves member now =>
      rw [finds, member]
      have ⟨scheduled, inPhase⟩ := Generator.moves_onSchedule (sound.books id before finds)
        paced.scheduled (paced.inPhase before finds) moves
      refine ⟨known, profile ▸ scheduled, fun found foundHere => ?_⟩
      cases member.symm.trans foundHere
      rw [now]
      exact inPhase
  | passes millis may same =>
      subst same
      rw [Generator.newWait_of_same rfl, List.append_nil]
      exact ⟨known, scheduled, fun found finds =>
        inPhase_pass finds may (paced.inPhase found finds)⟩
  | cancels _ member seen now =>
      rw [Generator.newWait_of_same ?_, List.append_nil]
      · refine ⟨known, seen ▸ scheduled, fun found finds => ?_⟩
        rw [member, Option.map_eq_some_iff] at finds
        obtain ⟨before, there, rfl⟩ := finds
        rw [seen, now]
        exact Generator.inPhase_cancel (paced.inPhase before there)
      · rw [member]
        cases run.pool.get? id <;> rfl
  | aborts _ member seen now =>
      rw [Generator.newWait_of_not_waiting ?_, List.append_nil]
      · refine ⟨known, seen ▸ scheduled, fun found finds => ?_⟩
        rw [member, Option.map_eq_some_iff] at finds
        obtain ⟨before, there, rfl⟩ := finds
        exact Generator.inPhase_of_isOver before.abort_isOver
      · rw [member]
        cases run.pool.get? id with
        | none => rfl
        | some before => exact Generator.deadline?_of_isOver before.abort_isOver
  | forgets _ _ _ _ member seen =>
      rw [Generator.newWait_of_not_waiting (by rw [member]; rfl), List.append_nil]
      exact ⟨known, seen ▸ scheduled, fun _ finds =>
        absurd (finds.symm.trans member) (Option.some_ne_none _)⟩

theorem happen (sound : run.IsSound) (paced : run.IsPaced began id waits)
    (happening : GeneratorHappening ω) :
    (run.happen happening.observed).IsPaced began id (waits ++
      Generator.newWait (run.pool.get? id) ((run.happen happening.observed).pool.get? id)
        run.radio.bank) :=
  paced.keep sound (happen_continues run happening) (happen_befalls sound.numbered id happening)

theorem afterAll (sound : run.IsSound) (paced : run.IsPaced began id waits)
    (later : List (GeneratorHappening ω)) :
    (run.afterAll (later.map .observed)).IsPaced began id
      (waits ++ run.waitsBegun id (later.map .observed)) := by
  induction later generalizing run waits with
  | nil =>
      rw [List.map_nil, waitsBegun, List.append_nil]
      exact paced
  | cons happening later ih =>
      have rest := ih (sound.happen happening) (paced.happen sound happening)
      rw [List.append_assoc] at rest
      exact rest

/-- A generator that has just been started. -/
theorem start (sound : run.IsSound) (free : run.stopping = none) :
    (run.happen .start).IsPaced run.now run.pool.nextId [] := by
  have permitted : run.permits .start = true := Option.isNone_iff_eq_none.mpr free
  have unsent : run.start.output.seen run.pool.nextId = .blank := by
    rw [start_eq]
    exact sound.blank _ (Nat.le_refl _)
  have member := get?_start sound.numbered run.pool.nextId
  rw [if_pos rfl] at member
  rw [GeneratorRun.happen, if_pos permitted]
  change run.start.IsPaced run.now run.pool.nextId []
  refine ⟨?_, ?_, fun generator finds => ?_⟩
  · rw [start_eq]
    exact Nat.lt_of_lt_of_eq (Nat.lt_succ_self _) (congrArg Nat.succ (nextId_drop run).symm)
  · rw [unsent]
    exact fun _ _ _ listed => absurd listed (Option.some_ne_none _).symm
  · cases member.symm.trans finds
    rw [unsent, start_eq]
    exact ⟨rfl, rfl, rfl⟩

/-- At rest, a generator that nobody has asked to stop waits for a deadline that
is yet to come, unless its output keeps or crashed it. -/
theorem waits_of_rest (sound : run.IsSound) (paced : run.IsPaced began id waits)
    (holds : run.held = some id) (rests : TaskSystem.isAtRest run = true)
    (whole : (run.output.seen id).crashed = false)
    (answered : (run.output.seen id).isInFlight = false) :
    waits.length = (run.output.seen id).begun.length + 1 ∧
      run.now < Clock.ceilMillis (Generator.dueAfter began waits) := by
  obtain ⟨generator, finds, wanted⟩ := sound.held id holds
  have stuck := step?_of_rest finds rests
  have inPhase := paced.inPhase generator finds
  have matching := (sound.books id generator finds).phase
  have unstopped := wanted.unstopped
  cases phase : generator.phase with
  | fresh => simp [Generator.step?, phase] at stuck
  | turning => simp [Generator.step?, phase] at stuck
  | pacing inputs =>
      rw [Generator.InPhase, phase] at inPhase
      obtain ⟨last, deadline, -⟩ := inPhase
      have ahead : Clock.nanos run.now < generator.deadline :=
        Generator.nanos_lt_of_waits (by rw [Generator.deadline?, phase]) stuck
      rw [Clock.lt_ceilMillis_iff, ← deadline]
      exact ⟨last, ahead⟩
  | sending call =>
      rw [phase] at matching
      have inFlight := SendDiary.isInFlight_eq_true matching.1 matching.2
      exact absurd (answered.symm.trans inFlight) Bool.false_ne_true
  | ended => rw [phase] at unstopped; contradiction
  | crashed =>
      rw [phase] at matching
      exact absurd (whole.symm.trans matching.1) Bool.false_ne_true
  | aborted => rw [phase] at unstopped; contradiction

end IsPaced

/-- A generator that is started at any time, whatever registers and output do
then: its sends keep the pace of its waits, and none is left out.  At rest the
next deadline lies ahead, unless a send is still in flight. -/
theorem sends_keep_pace (profile : Profile) (output : ω)
    (before later : List (GeneratorHappening ω))
    (free : (watched profile output before : GeneratorRun (ObservedOutput ω) κ).stopping = none) :
    let run : GeneratorRun (ObservedOutput ω) κ := watched profile output before
    let id := run.pool.nextId
    let spawned := run.happen .start
    let waits := spawned.waitsBegun id (later.map .observed)
    let final := spawned.afterAll (later.map .observed)
    let diary := final.output.seen id
    diary.KeepsPace profile run.now waits ∧
      (final.held = some id → TaskSystem.isAtRest final = true →
        diary.crashed = false → diary.isInFlight = false →
          waits.length = diary.begun.length + 1 ∧
            final.now < Clock.ceilMillis (Generator.dueAfter run.now waits)) := by
  intro run id spawned waits final diary
  have sound : run.IsSound := watched_isSound profile output before
  have born : spawned.IsPaced run.now id [] := .start sound free
  have spawnedSound : spawned.IsSound := sound.happen .start
  have paced : final.IsPaced run.now id waits := born.afterAll spawnedSound later
  have kept : final.profile = profile :=
    (profile_afterAll spawned later).trans ((happen_continues run .start).profile.trans
      (profile_afterAll _ before))
  refine ⟨?_, ?_⟩
  · have scheduled := paced.scheduled
    rw [kept] at scheduled
    exact scheduled.keepsPace
  · intro holds rests whole answered
    exact paced.waits_of_rest (spawnedSound.afterAll later) holds rests whole answered

/-- What happens when an output holds back the second frame of a generator for
six milliseconds while the radio turns to two receivers. -/
def heldBack : List (GeneratorHappening ScriptedOutput) :=
  let step := .step (.generator 0)
  let twoReceivers := { Radio.initial with bank := (Radio.initial.bank.set .receivers 2).1 }
  [step, .pass 3, step, step, .change (fun output => { output with mode := .hold }), .pass 3, step,
    .tune twoReceivers, .pass 6, .change (fun output => { output with mode := .take }), step,
    step, step, step, step, step, step, step, step, step, .pass 1, step]

/-- The four frames that became due in the meantime leave at once, and the one
after them in time again. -/
theorem sends_keep_pace_heldBack :
    let run : GeneratorRun (ObservedOutput ScriptedOutput) (List UInt8) :=
      watched .hermes ⟨.take, #[]⟩ []
    let spawned := run.happen .start
    let waits := spawned.waitsBegun run.pool.nextId (heldBack.map .observed)
    let final := spawned.afterAll (heldBack.map .observed)
    let diary := final.output.seen run.pool.nextId
    run.stopping = none ∧ diary.KeepsPace .hermes run.now waits ∧
      diary.begun.map Prod.fst = [3, 6, 12, 12, 12, 12, 13] := by
  have paced := sends_keep_pace .hermes (⟨.take, #[]⟩ : ScriptedOutput) [] heldBack rfl
  exact ⟨rfl, paced.1, by decide +kernel⟩

end GeneratorRun
end VirtualRadio
