import VirtualRadio.Proofs.Control.Writes
import VirtualRadio.Proofs.Station.ControlFrames
import VirtualRadio.Proofs.Stream.Datagrams
import VirtualRadio.Sink.Discard

namespace VirtualRadio

/-!
# The log of the registers

Observers are told of every register that changes, and of the changes alone.
Whoever has noted all of them down, in order and from the beginning, has the
registers of the station, and was never told an old value other than the one
that he had.

The radio changes only where a control frame is taken in, and each frame adds
the changes of its two blocks to the log.  Between two frames both stand still.
-/

/-- The change of a register that an event tells of. -/
def Event.registerChange? : Event → Option RegisterChange
  | registerChanged change => some change
  | _ => none

theorem Event.registerChange?_of_isOfControl {event : Event} (other : event.isOfControl = false) :
    event.registerChange? = none := by
  cases event with
  | registerChanged change => contradiction
  | _ => rfl

namespace Station

variable {σ : Type} {before middle after station : Station σ}
  {changes later : List RegisterChange}

/-- The changes of registers that were told, in order. -/
def registerLog (station : Station σ) : List RegisterChange :=
  station.events.toList.filterMap Event.registerChange?

theorem registerLog_emit (station : Station σ) (event : Event) :
    (station.emit event).registerLog = station.registerLog ++ event.registerChange?.toList :=
  station.told_emit Event.registerChange? event

/-- A change that tells of some registers, and leaves the radio as it is. -/
structure Reports (before : Station σ) (changes : List RegisterChange)
    (after : Station σ) : Prop where
  plan : after.plan = before.plan
  radio : after.radio = before.radio
  log : after.registerLog = before.registerLog ++ changes

namespace Reports

theorem silent (plan : after.plan = before.plan) (radio : after.radio = before.radio)
    (events : after.events = before.events) : Reports before [] after :=
  ⟨plan, radio, by rw [registerLog, events, List.append_nil, registerLog]⟩

theorem refl (station : Station σ) : Reports station [] station :=
  silent rfl rfl rfl

theorem trans (first : Reports before changes middle) (second : Reports middle later after) :
    Reports before (changes ++ later) after := by
  refine ⟨second.plan.trans first.plan, second.radio.trans first.radio, ?_⟩
  rw [second.log, first.log, List.append_assoc]

theorem emit (reports : Reports before changes after) {event : Event}
    (other : event.registerChange? = none) : Reports before changes (after.emit event) := by
  refine ⟨reports.plan, reports.radio, ?_⟩
  rw [registerLog_emit, other, reports.log]
  exact List.append_nil _

theorem registerChanged (reports : Reports before changes after) (change : RegisterChange) :
    Reports before (changes ++ [change]) (after.emit (.registerChanged change)) := by
  refine ⟨reports.plan, reports.radio, ?_⟩
  rw [registerLog_emit, reports.log, List.append_assoc]
  rfl

end Reports

theorem Apart.reports (apart : Apart before after) : Reports before [] after := by
  refine ⟨apart.plan, apart.radio, ?_⟩
  rw [List.append_nil]
  exact apart.told.told_eq fun _ => Event.registerChange?_of_isOfControl

/-! ## One frame -/

theorem followSequence_reports (station : Station σ) (sequence : UInt32) :
    Reports station [] (station.followSequence sequence) := by
  rcases station.followSequence_kept sequence with ⟨plan, radio, -, -⟩
  refine ⟨plan, radio, ?_⟩
  rw [List.append_nil]
  exact station.told_followSequence sequence fun _ _ => rfl

theorem selectFilter_reports (station : Station σ) (frequency : UInt32) :
    Reports station [] (station.selectFilter frequency) := by
  unfold selectFilter
  split
  · next band _ =>
      have noted : Reports station [] (station.note (.filter band)) := .silent rfl rfl rfl
      exact noted.emit rfl
  · exact .refl station

theorem reportChange_reports (station : Station σ) (change : RegisterChange) :
    Reports station [change] (station.reportChange change) := by
  unfold reportChange
  have filtered : Reports station []
      (if change.register = .txFrequency then station.selectFilter (UInt32.ofInt change.new)
        else station) := by
    split
    · exact station.selectFilter_reports _
    · exact .refl station
  exact filtered.registerChanged change

theorem reportChanges_reports (station : Station σ) (changes : List RegisterChange) :
    Reports station changes (changes.foldl reportChange station) := by
  induction changes generalizing station with
  | nil => exact .refl station
  | cons change changes ih => exact (station.reportChange_reports change).trans (ih _)

theorem takeSamples_reports (station : Station σ) (frame : List UInt8) :
    Reports station [] (station.takeSamples frame) := by
  rcases station.takeSamples_eq_ring frame with ⟨ring, taken⟩
  rw [taken]
  exact .silent rfl rfl rfl

/-- A control frame is decoded wholly, and the changes that it brings are told
in order. -/
theorem handleControl_registers (station : Station σ) {frame : List UInt8} {sequence : UInt32}
    (accepted : Packet.classify frame = .ok (.controlIq sequence)) :
    ∃ radio changes,
      (Decoder.ofProfile station.plan.profile).decodeFrame station.radio frame =
        .ok (radio, changes) ∧
      RegisterBank.Recorded station.radio.bank changes radio.bank ∧
      (station.handleControl frame sequence).plan = station.plan ∧
      (station.handleControl frame sequence).radio = radio ∧
      (station.handleControl frame sequence).registerLog = station.registerLog ++ changes := by
  rcases Packet.classify_eq_ok accepted with ⟨_, _, whole, _⟩
  rcases decoded : (Decoder.ofProfile station.plan.profile).decodeFrame station.radio frame with
    fault | ⟨radio, changes⟩
  · rw [Decoder.decodeFrame_eq_ok _ _ whole] at decoded
    contradiction
  · have followed := station.followSequence_reports sequence
    have reported := (reportChanges_reports
      { station.followSequence sequence with radio := radio } changes).trans
      (takeSamples_reports _ frame)
    rw [List.append_nil] at reported
    refine ⟨radio, changes, rfl, Decoder.decodeFrame_recorded whole decoded, ?_⟩
    rw [handleControl_eq decoded]
    refine ⟨reported.plan.trans followed.plan, reported.radio, reported.log.trans ?_⟩
    have before := followed.log
    rw [List.append_nil] at before
    exact congrArg (· ++ changes) before

/-! ## Runs -/

/-- The invariant: what was told is a record of the registers. -/
def IsLogged (station : Station σ) : Prop :=
  RegisterBank.Recorded .empty station.registerLog station.radio.bank

theorem IsLogged.handleControl (logged : station.IsLogged) {frame : List UInt8}
    {sequence : UInt32} (accepted : Packet.classify frame = .ok (.controlIq sequence)) :
    (station.handleControl frame sequence).IsLogged := by
  rcases station.handleControl_registers accepted with ⟨radio, changes, _, recorded, _, same, log⟩
  rw [IsLogged, same, log]
  exact logged.append recorded

theorem IsLogged.reports (logged : before.IsLogged) (reports : Reports before [] after) :
    after.IsLogged := by
  rw [IsLogged, reports.radio, reports.log, List.append_nil]
  exact logged

theorem IsLogged.takes (logged : before.IsLogged) (takes : Takes before after) :
    after.IsLogged := by
  cases takes with
  | none apart => exact logged.reports apart.reports
  | frame middle bytes sequence apart accepted taken =>
      subst taken
      have handled := (logged.reports apart.reports).handleControl accepted
      exact handled.reports (.silent rfl rfl rfl)

theorem Takes.plan (takes : Takes before after) : after.plan = before.plan := by
  cases takes with
  | none apart => exact apart.plan
  | frame middle bytes sequence apart accepted taken =>
      subst taken
      rcases middle.handleControl_registers accepted with ⟨_, _, _, _, kept, _⟩
      exact kept.trans apart.plan

variable [SinkDevice σ]

theorem afterAll_plan (station : Station σ) (happenings : List (Happening σ)) :
    (station.afterAll happenings).plan = station.plan := by
  induction happenings generalizing station with
  | nil => rfl
  | cons happening happenings ih => exact (ih _).trans (station.happen_takes happening).plan

theorem IsLogged.afterAll (logged : station.IsLogged) (happenings : List (Happening σ)) :
    (station.afterAll happenings).IsLogged := by
  induction happenings generalizing station with
  | nil => exact logged
  | cons happening happenings ih => exact ih (logged.takes (station.happen_takes happening))

/-- So it is whatever the owner of a station does, on any schedule of its tasks. -/
theorem IsLogged.perform (logged : station.IsLogged) (call : StationCall σ) :
    (station.perform call).1.IsLogged := by
  rcases (Reaches.refl station).perform call with ⟨happenings, same⟩
  rw [← same]
  exact logged.afterAll happenings

/-- Whatever happens to a station from its beginning, the changes that it told
are a record of its registers.  A control frame that comes next, from wherever,
is decoded wholly; its changes are added to the log, which is a record of the
registers again. -/
theorem register_log_replays (plan : StationPlan) (maintenance : MaintenanceHandler)
    (ring : Ring) (sink : σ) (happenings : List (Happening σ)) :
    let run := (initial plan maintenance ring sink).afterAll happenings
    RegisterBank.Recorded .empty run.registerLog run.radio.bank ∧
    ∀ frame sequence origin, Packet.classify frame = .ok (.controlIq sequence) →
      ∃ radio changes,
        (Decoder.ofProfile plan.profile).decodeFrame run.radio frame = .ok (radio, changes) ∧
        (run.handlePacket frame origin).radio = radio ∧
        (run.handlePacket frame origin).registerLog = run.registerLog ++ changes ∧
        RegisterBank.Recorded .empty (run.registerLog ++ changes) radio.bank := by
  have begins : (initial plan maintenance ring sink).IsLogged := .refl .empty
  have logged := begins.afterAll happenings
  refine ⟨logged, ?_⟩
  intro frame sequence origin accepted
  rcases handleControl_registers _ accepted with
    ⟨radio, changes, decoded, recorded, _, same, log⟩
  rw [afterAll_plan (initial plan maintenance ring sink)] at decoded
  have handled : ∀ station : Station σ, station.handlePacket frame origin =
      (station.handleControl frame sequence).rest := by
    intro station
    rw [handlePacket, accepted]
  rw [handled]
  exact ⟨radio, changes, decoded, same, log, logged.append recorded⟩

/-- On a C25 board a converter is told twice, first as the block has it and then
as it is wired. -/
example :
    let frame := ControlFrame.write 0 (.ofGeneral 1 2) (.onPage 14 true 0xFF 0 0 0) []
    let plan := { (default : StationPlan) with profile := .c25 }
    let run := (initial plan .ignore (Ring.empty 2 1) (DiscardSink.idle 0)).afterAll
      [.request (.network (.datagram ⟨.unspecified, 1024⟩ frame)), .request .poll, .step .session]
    run.registerLog.filter (fun change => change.register ∈ [.receivers, .ptt, .rxAdc 0]) =
      [⟨.ptt, none, 0⟩, ⟨.receivers, none, 2⟩, ⟨.ptt, some 0, 1⟩, ⟨.rxAdc 0, none, 3⟩,
        ⟨.rxAdc 0, some 3, 0⟩] := by
  decide +kernel

end Station
end VirtualRadio
