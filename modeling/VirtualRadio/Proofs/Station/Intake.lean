import VirtualRadio.Proofs.Control.Writes
import VirtualRadio.Proofs.Ring.Calls
import VirtualRadio.Proofs.Station.Arrivals
import VirtualRadio.Proofs.Station.Quiet
import VirtualRadio.Proofs.Stream.Datagrams
import VirtualRadio.Proofs.Wire.ControlFrames
import VirtualRadio.Sink.Discard

namespace VirtualRadio

/-!
# What becomes of control frames

A packet that is classified as a control frame has the length of one, and so
nothing that is done with it can fail.  It is counted, its two blocks are decoded
one after the other, and its samples are appended to the ring if the station
streams at that moment.

An intake is a control frame that was handed to the session, with whether the
station streamed then.  The intakes of a run are read off its packets alone;
count, registers and ring are then what they make of them.
-/

/-- A control frame that was handed to the session. -/
structure Intake where
  frame : List UInt8
  /-- Whether the station streamed then. -/
  streaming : Bool
  deriving DecidableEq

namespace Intake

/-- The samples that are appended to the ring. -/
def samples (intake : Intake) : List Sample :=
  if intake.streaming then ControlFrame.payload intake.frame else []

/-- The radio after one more frame. -/
def decode (decoder : Decoder) (radio : Radio) (intake : Intake) : Except PacketFault Radio :=
  (decoder.decodeFrame radio intake.frame).map Prod.fst

/-- Frames that came while the station did not stream leave nothing in the ring. -/
theorem flatMap_samples (intakes : List Intake) :
    intakes.flatMap samples =
      (intakes.filter streaming).flatMap (fun intake => ControlFrame.payload intake.frame) := by
  induction intakes with
  | nil => rfl
  | cons intake intakes ih =>
      rw [List.flatMap_cons, ih, samples]
      cases streams : intake.streaming <;> simp [streams]

end Intake

namespace Station

variable {σ : Type} {before middle after station : Station σ}

/-! ## One frame -/

theorem followSequence_counted (station : Station σ) (sequence : UInt32) :
    (station.followSequence sequence).session.stats.framesReceived =
      station.session.stats.framesReceived + 1 := by
  unfold followSequence
  split
  · rfl
  · split <;> rfl

theorem reportChange_aside (station : Station σ) (change : RegisterChange) :
    Aside station (station.reportChange change) := by
  unfold reportChange selectFilter
  refine Aside.emit ?_ _
  split
  · split <;> exact ⟨rfl, rfl, rfl, rfl⟩
  · exact .refl station

theorem reportChanges_aside (station : Station σ) (changes : List RegisterChange) :
    Aside station (changes.foldl reportChange station) := by
  induction changes generalizing station with
  | nil => exact .refl station
  | cons change changes ih => exact (station.reportChange_aside change).trans (ih _)

theorem Quiet.isStreaming (quiet : Quiet before after) :
    after.isStreaming = before.isStreaming := by
  rw [Station.isStreaming, quiet.pool, quiet.held, Station.isStreaming]

theorem takeSamples_eq (station : Station σ) {frame : List UInt8}
    (whole : frame.length = Packet.frameLength) :
    station.takeSamples frame = { station with path :=
      if station.isStreaming then station.path.write (ControlFrame.payload frame)
      else station.path } := by
  rw [takeSamples, ControlFrame.samples_eq_ok whole]
  cases station.isStreaming <;> rfl

/-- What becomes of one frame: no part of it is left out. -/
structure Applies (before : Station σ) (frame : List UInt8) (after : Station σ) : Prop where
  plan : after.plan = before.plan
  counted : after.session.stats.framesReceived = before.session.stats.framesReceived + 1
  radio : after.radio =
    ((Decoder.ofProfile before.plan.profile).decodeBoth before.radio frame).1
  ring : after.path.ring =
    if before.isStreaming then before.path.ring.write (ControlFrame.payload frame)
    else before.path.ring

theorem handleControl_applies (station : Station σ) {frame : List UInt8}
    (whole : frame.length = Packet.frameLength) (sequence : UInt32) :
    Applies station frame (station.handleControl frame sequence) := by
  rcases station.followSequence_kept sequence with ⟨plan, -, path, -⟩
  have handled := handleControl_eq (Decoder.decodeFrame_eq_ok
    (.ofProfile station.plan.profile) station.radio whole) sequence
  -- Each stage gets a name before the next one is opened, so that the flag to stream can
  -- be carried through them without unfolding what they tell.
  generalize followed : station.followSequence sequence = noted at plan path handled
  generalize decoded :
    (Decoder.ofProfile station.plan.profile).decodeBoth station.radio frame = both
  have handled : station.handleControl frame sequence =
      (both.2.foldl reportChange { noted with radio := both.1 }).takeSamples frame := by
    rw [handled, ← decoded]
    rfl
  have reported := reportChanges_aside { noted with radio := both.1 } both.2
  have streaming := (reportChanges_quiet { noted with radio := both.1 } both.2).isStreaming
  generalize told : both.2.foldl reportChange { noted with radio := both.1 } = report
    at handled reported streaming
  rw [handled, takeSamples_eq _ whole]
  have same : report.isStreaming = station.isStreaming := by
    rw [streaming, ← (station.followSequence_quiet sequence).isStreaming, followed]
    rfl
  have ring : report.path.ring = station.path.ring := by
    rw [reported.ring, ← path]
  refine ⟨reported.plan.trans plan, ?_, ?_, ?_⟩
  · rw [← station.followSequence_counted sequence, followed]
    exact reported.counted
  · rw [decoded]
    exact reported.radio
  · rw [← same, ← ring]
    simp only [TransmitPath.write, apply_ite TransmitPath.ring]

/-! ## Runs -/

/-- What a run makes of the control frames that reach the session, from wherever. -/
structure Absorbs (before : Station σ) (intakes : List Intake) (after : Station σ) : Prop where
  plan : after.plan = before.plan
  counted : after.session.stats.framesReceived =
    before.session.stats.framesReceived + intakes.length
  decoded : intakes.foldlM (Intake.decode (.ofProfile before.plan.profile)) before.radio =
    .ok after.radio
  ring : ∃ calls, after.path.ring = before.path.ring.after calls ∧
    calls.flatMap RingCall.samples = intakes.flatMap Intake.samples

theorem Aside.absorbs (aside : Aside before after) : Absorbs before [] after :=
  ⟨aside.plan, aside.counted, congrArg Except.ok aside.radio.symm, [], aside.ring, rfl⟩

theorem Absorbs.trans {intakes later : List Intake} (first : Absorbs before intakes middle)
    (second : Absorbs middle later after) : Absorbs before (intakes ++ later) after where
  plan := second.plan.trans first.plan
  counted := by
    rw [second.counted, first.counted, List.length_append, Nat.add_assoc]
  decoded := by
    have next := second.decoded
    rw [first.plan] at next
    rw [List.foldlM_append, first.decoded]
    exact next
  ring := by
    rcases first.ring with ⟨calls, made, same⟩
    rcases second.ring with ⟨more, madeLater, sameLater⟩
    refine ⟨calls ++ more, ?_, ?_⟩
    · rw [madeLater, made]
      exact List.foldl_append.symm
    · rw [List.flatMap_append, List.flatMap_append, same, sameLater]

theorem Applies.absorbs {frame : List UInt8} (applies : Applies before frame after)
    (whole : frame.length = Packet.frameLength) :
    Absorbs before [⟨frame, before.isStreaming⟩] after := by
  refine ⟨applies.plan, applies.counted, ?_, ?_⟩
  · have decoded : Intake.decode (.ofProfile before.plan.profile) before.radio
        ⟨frame, before.isStreaming⟩ = .ok after.radio := by
      rw [applies.radio, Intake.decode, Decoder.decodeFrame_eq_ok _ _ whole]
      rfl
    rw [List.foldlM_cons, decoded]
    rfl
  · cases streaming : before.isStreaming with
    | false => exact ⟨[], by simp [applies.ring, streaming, Ring.after], by simp [Intake.samples]⟩
    | true =>
        refine ⟨[.write (ControlFrame.payload frame)], ?_, ?_⟩
        · simp [applies.ring, streaming, Ring.after, Ring.perform]
        · simp [RingCall.samples, Intake.samples]

/-- The intake that a packet is, if it is one. -/
def asIntake? (station : Station σ) (bytes : List UInt8) : Option Intake :=
  match Packet.classify bytes with
  | .ok (.controlIq _) => some ⟨bytes, station.isStreaming⟩
  | _ => none

theorem handlePacket_absorbs (station : Station σ) (bytes : List UInt8) (origin : Origin) :
    Absorbs station (station.asIntake? bytes).toList (station.handlePacket bytes origin) := by
  unfold handlePacket asIntake?
  cases classified : Packet.classify bytes with
  | error fault =>
      have dropped := (Aside.refl station).updateSession (fun session => { session with
        stats := { session.stats with packetsDropped := session.stats.packetsDropped + 1 } }) rfl
      exact (dropped.emit _).rest.absorbs
  | ok packet =>
      cases packet with
      | controlIq sequence =>
          rcases Packet.classify_eq_ok classified with ⟨_, _, whole, _⟩
          have applied := station.handleControl_applies whole sequence
          exact (applied.absorbs whole).trans (Aside.refl _).rest.absorbs
      | discovery => exact (station.handleDiscovery_aside origin).absorbs
      | start mode => exact (station.stopGenerator_aside _).absorbs
      | stop =>
          have counted := (Aside.refl station).updateSession (fun session => { session with
            stats := { session.stats with stops := session.stats.stops + 1 } }) rfl
          exact (counted.trans (stopGenerator_aside _ .stop)).absorbs
      | maintenance kind => exact (station.handleMaintenance_aside _ bytes origin).absorbs

theorem Hands.absorbs {packet? : Option (List UInt8 × Origin)}
    (hands : Hands before packet? after) :
    Absorbs before (packet?.bind (fun packet => before.asIntake? packet.1)).toList after := by
  cases hands with
  | none nothing between =>
      rw [nothing]
      exact between.aside.absorbs
  | packet middle bytes origin comes between streaming handed =>
      have same : middle.asIntake? bytes = before.asIntake? bytes := by
        rw [asIntake?, streaming, asIntake?]
      have absorbed := between.aside.absorbs.trans (middle.handlePacket_absorbs bytes origin)
      rw [comes, handed, Option.bind_some, ← same]
      exact absorbed

variable [SinkDevice σ]

/-- The control frame that reaches the session in a happening, if one does. -/
def intake? (station : Station σ) (happening : Happening σ) : Option Intake :=
  (station.packet? happening).bind (fun packet => station.asIntake? packet.1)

/-- The control frames that reach the session, in order of arrival. -/
def intakes (station : Station σ) : List (Happening σ) → List Intake
  | [] => []
  | happening :: happenings =>
    (station.intake? happening).toList ++ (station.happen happening).intakes happenings

/-- The consumer may take a burst. -/
theorem consumer_absorbs (station : Station σ) :
    Absorbs station [] ((step? .consumer station).getD station) := by
  cases stepped : station.path.step? station.now with
  | none =>
      simp only [step?, stepped]
      exact (Aside.refl station).absorbs
  | some made =>
      rcases made with ⟨path, tuned⟩
      rcases Option.map_eq_some_iff.mp stepped with ⟨⟨consumer, ring, heard⟩, taken, moved⟩
      have read : Absorbs station [] { station with path := path } := by
        cases moved
        rcases Consumer.step?_ring taken with same | burst
        · exact Aside.absorbs ⟨rfl, rfl, same, rfl⟩
        · exact ⟨rfl, rfl, rfl, [.read], burst, rfl⟩
      simp only [step?, stepped]
      cases tuned with
      | none => exact read
      | some hertz => exact read.trans ((Aside.refl _).emit _).absorbs

theorem happen_absorbs (station : Station σ) (happening : Happening σ) :
    Absorbs station (station.intake? happening).toList (station.happen happening) := by
  cases happening with
  | request request => exact (station.apply_hands request).absorbs
  | packet bytes origin =>
      unfold intake?
      rw [happen, packet?]
      split
      · exact station.handlePacket_absorbs bytes origin
      · exact (Aside.refl station).absorbs
  | step task =>
      cases task with
      | session => exact station.sessionStep?_hands.absorbs
      | consumer => exact station.consumer_absorbs
      | generator id =>
          refine Aside.absorbs ?_
          rw [happen]
          simp only [step?]
          cases station.pool.step? id station.radio.bank station.now station.transport with
          | none => exact .refl station
          | some moved => exact ⟨rfl, rfl, rfl, rfl⟩
  | requeue task => exact Aside.absorbs ⟨rfl, rfl, rfl, rfl⟩
  | wait millis => exact Aside.absorbs ⟨rfl, rfl, rfl, rfl⟩
  | transport change => exact Aside.absorbs ⟨rfl, rfl, rfl, rfl⟩

theorem afterAll_absorbs (station : Station σ) (happenings : List (Happening σ)) :
    Absorbs station (station.intakes happenings) (station.afterAll happenings) := by
  induction happenings generalizing station with
  | nil => exact (Aside.refl station).absorbs
  | cons happening happenings ih => exact (station.happen_absorbs happening).trans (ih _)

/-- Wherever a station is, and whatever happens to it then, a control frame that
comes next is applied wholly: it is counted, its blocks are decoded one after the
other, and its samples are appended to the ring if the station streams.  Over the
whole run the frames that came are all counted and decoded in order, and the
samples that were appended to the ring are those of the frames that came while the
station streamed. -/
theorem control_frames_applied (station : Station σ) (happenings : List (Happening σ)) :
    let decoder := Decoder.ofProfile station.plan.profile
    let run := station.afterAll happenings
    let intakes := station.intakes happenings
    (∀ frame sequence origin, Packet.classify frame = .ok (.controlIq sequence) →
      ∃ first second samples,
        ControlFrame.blocks frame = .ok (first, second) ∧
        ControlFrame.samples frame = .ok samples ∧ samples.length = 126 ∧
        decoder.decodeFrame run.radio frame = .ok (decoder.decodePair run.radio first second) ∧
        let after := run.handlePacket frame origin
        after.session.stats.framesReceived = run.session.stats.framesReceived + 1 ∧
        after.radio = (decoder.decodePair run.radio first second).1 ∧
        after.path.ring =
          if run.isStreaming then run.path.ring.write samples else run.path.ring) ∧
    run.session.stats.framesReceived =
      station.session.stats.framesReceived + intakes.length ∧
    intakes.foldlM (Intake.decode decoder) station.radio = .ok run.radio ∧
    ∃ calls, run.path.ring = station.path.ring.after calls ∧
      calls.flatMap RingCall.samples =
        (intakes.filter Intake.streaming).flatMap (fun intake => ControlFrame.payload intake.frame) := by
  have absorbed := station.afterAll_absorbs happenings
  refine ⟨?_, absorbed.counted, absorbed.decoded, ?_⟩
  · intro frame sequence origin accepted
    rcases Packet.classify_eq_ok accepted with ⟨_, _, whole, _⟩
    have applied := (station.afterAll happenings).handleControl_applies whole sequence
    have handled : (station.afterAll happenings).handlePacket frame origin =
        ((station.afterAll happenings).handleControl frame sequence).rest := by
      rw [handlePacket, accepted]
    rw [handled, ← absorbed.plan]
    exact ⟨_, _, _, ControlFrame.blocks_eq_ok whole, ControlFrame.samples_eq_ok whole,
      ControlFrame.length_payload frame, Decoder.decodeFrame_eq_ok _ _ whole,
      applied.counted, applied.radio, applied.ring⟩
  · rcases absorbed.ring with ⟨calls, made, same⟩
    exact ⟨calls, made, same.trans (Intake.flatMap_samples _)⟩

/-- A frame that comes before the station is started leaves nothing in the ring. -/
example :
    let frame := ControlFrame.write 0 default default []
    let begins := initial default .ignore (Ring.empty 2 1) (DiscardSink.idle 0)
    (begins.intakes [.packet frame .stream, .packet (Command.start 1) .stream,
      .packet [0xEF, 0xFE] .stream, .packet frame .stream]).map Intake.streaming =
      [false, true] := by
  decide +kernel

end Station
end VirtualRadio
