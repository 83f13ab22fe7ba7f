import VirtualRadio.Proofs.Control.Frequencies
import VirtualRadio.Proofs.Station.Intake
import VirtualRadio.Sink.Discard

namespace VirtualRadio

/-!
# Filters follow the transmit frequency

Every change of the transmit frequency looks for a band, and one that is found is
handed to the filter switch and told to observers at once.  No filter is switched
and no band is told anywhere else.

So what a run does to the filters can be read off the control blocks that came in
it, with nothing else of the run: the frequencies on them, without repeats, and of
each the first band that contains it.
-/

/-- The band whose filter an event tells of. -/
def Event.filter? : Event → Option Band
  | filterSelected band => some band
  | _ => none

theorem Event.filter?_of_isOfControl {event : Event} (other : event.isOfControl = false) :
    event.filter? = none := by
  cases event with
  | filterSelected band => contradiction
  | _ => rfl

/-- The band that the change of a register leads to. -/
def Band.ofChange? (plan : List Band) (change : RegisterChange) : Option Band :=
  if change.register = .txFrequency then select? plan (UInt32.ofInt change.new) else none

theorem Band.filterMap_ofChange? (plan : List Band) (changes : List RegisterChange) :
    changes.filterMap (ofChange? plan) =
      ((changesOf .txFrequency changes).map (fun change => UInt32.ofInt change.new)).filterMap
        (select? plan) := by
  rw [List.filterMap_map, changesOf, List.filterMap_filter]
  apply List.filterMap_congr
  intro change _
  simp only [ofChange?, decide_eq_true_eq, Function.comp_apply]

/-- The control blocks of a frame that reached the session. -/
def Intake.blocks (intake : Intake) : List ControlBlock :=
  ControlFrame.blockList intake.frame

namespace Station

variable {σ : Type} {before middle after station : Station σ}
  {bands later : List Band} {blocks more : List ControlBlock}

/-- The bands that observers were told of, in order. -/
def toldBands (station : Station σ) : List Band :=
  station.events.toList.filterMap Event.filter?

theorem toldBands_emit (station : Station σ) (event : Event) :
    (station.emit event).toldBands = station.toldBands ++ event.filter?.toList :=
  station.told_emit Event.filter? event

/-- A change that switches filters in order, and tells of each. -/
structure Selects (before : Station σ) (bands : List Band) (after : Station σ) : Prop where
  switched : after.switchedBands = before.switchedBands ++ bands
  told : after.toldBands = before.toldBands ++ bands

namespace Selects

theorem silent (events : after.events = before.events) (hooks : after.hooks = before.hooks) :
    Selects before [] after :=
  ⟨by rw [switchedBands, hooks, List.append_nil, switchedBands],
    by rw [toldBands, events, List.append_nil, toldBands]⟩

theorem refl (station : Station σ) : Selects station [] station :=
  silent rfl rfl

theorem trans (first : Selects before bands middle) (second : Selects middle later after) :
    Selects before (bands ++ later) after where
  switched := by rw [second.switched, first.switched, List.append_assoc]
  told := by rw [second.told, first.told, List.append_assoc]

theorem emit (selects : Selects before bands after) {event : Event}
    (other : event.filter? = none) : Selects before bands (after.emit event) := by
  refine ⟨selects.switched, ?_⟩
  rw [toldBands_emit, other, selects.told]
  exact List.append_nil _

end Selects

theorem Apart.selects (apart : Apart before after) : Selects before [] after := by
  refine ⟨by rw [apart.switched, List.append_nil], ?_⟩
  rw [List.append_nil]
  exact apart.told.told_eq fun _ => Event.filter?_of_isOfControl

/-! ## One frame -/

theorem followSequence_selects (station : Station σ) (sequence : UInt32) :
    Selects station [] (station.followSequence sequence) := by
  rcases station.followSequence_kept sequence with ⟨-, -, -, hooks⟩
  refine ⟨?_, ?_⟩
  · rw [List.append_nil, switchedBands, hooks, switchedBands]
  · rw [List.append_nil]
    exact station.told_followSequence sequence fun _ _ => rfl

theorem selectFilter_selects (station : Station σ) (frequency : UInt32) :
    Selects station (Band.select? station.plan.bands frequency).toList
      (station.selectFilter frequency) := by
  unfold selectFilter
  split
  · next band found =>
      rw [found]
      exact ⟨station.switchedBands_note (.filter band), toldBands_emit _ (.filterSelected band)⟩
  · next missing =>
      rw [missing]
      exact .refl station

theorem reportChange_selects (station : Station σ) (change : RegisterChange) :
    Selects station (Band.ofChange? station.plan.bands change).toList
      (station.reportChange change) := by
  unfold reportChange Band.ofChange?
  refine Selects.emit ?_ rfl
  split
  · exact station.selectFilter_selects _
  · exact .refl station

theorem reportChanges_selects (station : Station σ) (changes : List RegisterChange) :
    Selects station (changes.filterMap (Band.ofChange? station.plan.bands))
      (changes.foldl reportChange station) := by
  induction changes generalizing station with
  | nil => exact .refl station
  | cons change changes ih =>
      have rest := ih (station.reportChange change)
      rw [(station.reportChange_aside change).plan] at rest
      have both := (station.reportChange_selects change).trans rest
      rw [List.filterMap_cons]
      cases found : Band.ofChange? station.plan.bands change with
      | none =>
          rw [found] at both
          exact both
      | some band =>
          rw [found] at both
          exact both

theorem takeSamples_selects (station : Station σ) (frame : List UInt8) :
    Selects station [] (station.takeSamples frame) := by
  rcases station.takeSamples_eq_ring frame with ⟨ring, taken⟩
  rw [taken]
  exact .silent rfl rfl

/-! ## Blocks -/

/-- A change in which some control blocks are decoded one after the other, and
filters are switched for what they change. -/
structure Decodes (before : Station σ) (blocks : List ControlBlock) (after : Station σ) :
    Prop where
  plan : after.plan = before.plan
  radio : after.radio =
    ((Decoder.ofProfile before.plan.profile).decodeAll before.radio blocks).1
  selects : Selects before
    (((Decoder.ofProfile before.plan.profile).decodeAll before.radio blocks).2.filterMap
      (Band.ofChange? before.plan.bands)) after

theorem Apart.decodes (apart : Apart before after) : Decodes before [] after :=
  ⟨apart.plan, apart.radio, apart.selects⟩

theorem Decodes.trans (first : Decodes before blocks middle) (second : Decodes middle more after) :
    Decodes before (blocks ++ more) after := by
  have radio := second.radio
  have selects := second.selects
  rw [first.plan, first.radio] at radio selects
  refine ⟨second.plan.trans first.plan, ?_, ?_⟩
  · rw [Decoder.decodeAll_append]
    exact radio
  · rw [Decoder.decodeAll_append, List.filterMap_append]
    exact first.selects.trans selects

theorem handleControl_decodes (station : Station σ) {frame : List UInt8}
    (whole : frame.length = Packet.frameLength) (sequence : UInt32) :
    Decodes station (ControlFrame.blockList frame) (station.handleControl frame sequence) := by
  rcases station.followSequence_kept sequence with ⟨plan, -, -, -⟩
  have applied := station.handleControl_applies whole sequence
  have followed := station.followSequence_selects sequence
  have decoded := Decoder.decodeFrame_eq_decodeAll (.ofProfile station.plan.profile)
    station.radio whole
  refine ⟨applied.plan, applied.radio, ?_⟩
  rcases both : (Decoder.ofProfile station.plan.profile).decodeAll station.radio
    (ControlFrame.blockList frame) with ⟨radio, changes⟩
  rw [both] at decoded
  rw [handleControl_eq decoded, ← plan]
  generalize station.followSequence sequence = noted at followed
  have stored : Selects station [] { noted with radio := radio } :=
    ⟨followed.switched, followed.told⟩
  have reported := stored.trans (reportChanges_selects _ changes)
  have heard := reported.trans (takeSamples_selects _ frame)
  rw [List.nil_append, List.append_nil] at heard
  exact heard

theorem handlePacket_decodes (station : Station σ) (bytes : List UInt8) (origin : Origin) :
    Decodes station ((station.asIntake? bytes).toList.flatMap Intake.blocks)
      (station.handlePacket bytes origin) := by
  by_cases frame : ∃ sequence, Packet.classify bytes = .ok (.controlIq sequence)
  · rcases frame with ⟨sequence, accepted⟩
    rcases Packet.classify_eq_ok accepted with ⟨_, _, whole, _⟩
    have decoded := (station.handleControl_decodes whole sequence).trans
      (Apart.refl _).rest.decodes
    simp only [handlePacket, asIntake?, accepted]
    exact decoded
  · have other : ∀ sequence, Packet.classify bytes ≠ .ok (.controlIq sequence) :=
      fun sequence accepted => frame ⟨sequence, accepted⟩
    have nothing : station.asIntake? bytes = none := by
      unfold asIntake?
      split
      · next sequence accepted => exact absurd accepted (other sequence)
      · rfl
    rw [nothing]
    exact (station.handlePacket_apart origin other).decodes

/-! ## Runs -/

theorem Hands.decodes {packet? : Option (List UInt8 × Origin)}
    (hands : Hands before packet? after) :
    Decodes before ((packet?.bind (fun packet => before.asIntake? packet.1)).toList.flatMap
      Intake.blocks) after := by
  cases hands with
  | none nothing between =>
      rw [nothing]
      exact between.apart.decodes
  | packet middle bytes origin comes between streaming handed =>
      have same : middle.asIntake? bytes = before.asIntake? bytes := by
        rw [asIntake?, streaming, asIntake?]
      have decoded := between.apart.decodes.trans (middle.handlePacket_decodes bytes origin)
      rw [comes, handed, Option.bind_some, ← same]
      exact decoded

variable [SinkDevice σ]

theorem happen_decodes (station : Station σ) (happening : Happening σ) :
    Decodes station ((station.intake? happening).toList.flatMap Intake.blocks)
      (station.happen happening) := by
  cases happening with
  | request request => exact (station.apply_hands request).decodes
  | packet bytes origin =>
      unfold intake?
      rw [happen, packet?]
      split
      · exact station.handlePacket_decodes bytes origin
      · exact (Apart.refl station).decodes
  | step task =>
      cases task with
      | session => exact station.sessionStep?_hands.decodes
      | consumer =>
          refine Apart.decodes ?_
          rw [happen]
          cases stepped : step? .consumer station with
          | none => exact .refl station
          | some after => exact consumer_apart stepped
      | generator id =>
          refine Apart.decodes ?_
          rw [happen]
          cases stepped : step? (.generator id) station with
          | none => exact .refl station
          | some after => exact generator_apart stepped
  | requeue task => exact Apart.decodes (.silent rfl rfl rfl rfl)
  | wait millis => exact Apart.decodes (.silent rfl rfl rfl rfl)
  | transport change => exact Apart.decodes (.silent rfl rfl rfl rfl)

theorem afterAll_decodes (station : Station σ) (happenings : List (Happening σ)) :
    Decodes station ((station.intakes happenings).flatMap Intake.blocks)
      (station.afterAll happenings) := by
  induction happenings generalizing station with
  | nil => exact (Apart.refl station).decodes
  | cons happening happenings ih =>
      have decoded := (station.happen_decodes happening).trans (ih _)
      rw [← List.flatMap_append] at decoded
      exact decoded

/-- **Filters follow the transmit frequency.**  Whatever happens to a station from
its beginning, the bands that are handed to the filter switch, and the bands that
observers are told of, are the same: take the words on page 1 of the control blocks
in order, both of each frame; leave out every one that is the same as the one
before; and take for each the first band of the plan that contains it, if one
does. -/
theorem filters_follow_frequencies (plan : StationPlan) (maintenance : MaintenanceHandler)
    (ring : Ring) (sink : σ) (happenings : List (Happening σ)) :
    let begins := initial plan maintenance ring sink
    let run := begins.afterAll happenings
    let blocks := (begins.intakes happenings).flatMap
      (fun intake => ControlFrame.blockList intake.frame)
    let frequencies := (blocks.filterMap ControlBlock.transmitFrequency?).destutter (· ≠ ·)
    let bands := frequencies.filterMap (fun frequency => plan.bands.find? (fun band =>
      band.startHz ≤ frequency ∧ frequency ≤ band.endHz))
    run.hooks.toList.filterMap HookCall.filter? = bands ∧
      run.events.toList.filterMap Event.filter? = bands := by
  intro begins run blocks frequencies bands
  have decodes := begins.afterAll_decodes happenings
  have reported := Decoder.reported_frequencies (.ofProfile plan.profile) blocks
  have select : Band.select? plan.bands = fun frequency => plan.bands.find? (fun band =>
      band.startHz ≤ frequency ∧ frequency ≤ band.endHz) := by
    funext frequency
    simp only [Band.select?, Band.contains, Bool.decide_and]
  have selected : ((Decoder.ofProfile plan.profile).decodeAll .initial blocks).2.filterMap
      (Band.ofChange? plan.bands) = bands := by
    rw [Band.filterMap_ofChange?, reported, select]
  have selects : Selects begins bands run := by
    rw [← selected]
    exact decodes.selects
  exact ⟨selects.switched.trans (List.nil_append _), selects.told.trans (List.nil_append _)⟩

/-- A frequency outside of all bands lies between two that are the same: the band
is handed to the switch again. -/
example :
    let band : Band := ⟨"40m", 7000000, 7200000, 1, 2⟩
    let inside := ControlBlock.ofWord 1 false 7074000
    let outside := ControlBlock.ofWord 1 false 14074000
    let plan := { (default : StationPlan) with bands := [band, { band with name := "all of it" }] }
    let run := (initial plan .ignore (Ring.empty 2 1) (DiscardSink.idle 0)).afterAll
      [.packet (ControlFrame.write 0 inside inside []) .stream,
        .packet (ControlFrame.write 1 outside inside []) .stream]
    run.switchedBands = [band, band] := by
  decide +kernel

end Station
end VirtualRadio
