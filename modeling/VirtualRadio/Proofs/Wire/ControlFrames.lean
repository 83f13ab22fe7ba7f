import VirtualRadio.Proofs.Control.Writes
import VirtualRadio.Proofs.Generator.Frames
import VirtualRadio.Proofs.Sample

namespace VirtualRadio

/-!
# Reading control frames back

The writer of a control frame goes through its two halves from front to back;
the readers find sequence number, control blocks and samples by their offsets.
Both are about the same layout: what was written is what is read, whatever the
sequence number, the blocks and the samples are.

A frame has room for 126 samples.  Further ones are not sent, and missing ones
are silent, since the value zero is scaled to positive zero.
-/

theorem Word.ofBytes16_bytes (word : UInt16) :
    Word.ofBytes16 (word >>> 8).toUInt8 word.toUInt8 = word := by
  have bound := word.toNat_lt
  have whole : word.toNat / 256 % 256 * 256 + word.toNat % 256 = word.toNat := by omega
  have split := Nat.shiftLeft_add_eq_or_of_lt (show word.toNat % 256 < 2 ^ 8 by omega)
    (word.toNat / 256 % 256)
  simp only [Nat.shiftLeft_eq, Nat.reducePow] at split
  apply UInt16.toNat_inj.mp
  simp only [Word.ofBytes16, UInt16.toNat_or, UInt16.toNat_shiftLeft, UInt8.toNat_toUInt16,
    UInt16.toNat_toUInt8, UInt16.toNat_shiftRight, Nat.shiftLeft_eq,
    Nat.shiftRight_eq_div_pow, UInt16.reduceToNat, Nat.reduceMod, Nat.reducePow]
  rw [Nat.mod_eq_of_lt (show word.toNat / 256 % 256 * 256 < 65536 by omega), ← split, whole]

theorem Sample.scale_zero : Sample.scale 0 = .zero := by
  decide +kernel

/-- The sample that a pair of received values stands for. -/
def Sample.ofPair (pair : Int16 × Int16) : Sample :=
  ⟨Sample.scale pair.1, Sample.scale pair.2⟩

theorem Sample.ofPair_zero : Sample.ofPair (0, 0) = .silence := by
  rw [ofPair, scale_zero]
  rfl

namespace Decoder

/-- What two blocks make of a radio, one after the other, and all that changes. -/
def decodePair (decoder : Decoder) (radio : Radio) (first second : ControlBlock) :
    Radio × List RegisterChange :=
  let early := decoder.decodeBlock radio first
  let late := decoder.decodeBlock early.1 second
  (late.1, early.2 ++ late.2)

/-- What the two blocks of a frame make of a radio. -/
def decodeBoth (decoder : Decoder) (radio : Radio) (frame : List UInt8) :
    Radio × List RegisterChange :=
  decoder.decodePair radio (ControlFrame.blockAt frame 11) (ControlFrame.blockAt frame 523)

end Decoder

namespace ControlFrame

/-- The samples of both halves of a frame. -/
def payload (frame : List UInt8) : List Sample :=
  groupSamples groupsPerHalf (frame.drop 16) ++ groupSamples groupsPerHalf (frame.drop 528)

theorem length_payload (frame : List UInt8) : (payload frame).length = 126 := by
  simp [payload, length_groupSamples, groupsPerHalf]

section Whole

variable {frame : List UInt8}

theorem samples_eq_ok (whole : frame.length = Packet.frameLength) :
    samples frame = .ok (payload frame) := by
  rw [samples, requireLength, if_pos whole]
  rfl

theorem blocks_eq_ok (whole : frame.length = Packet.frameLength) :
    blocks frame = .ok (blockAt frame 11, blockAt frame 523) := by
  rw [blocks, requireLength, if_pos whole]
  rfl

end Whole

/-! ## Groups -/

theorem length_groupBytes (pair : Int16 × Int16) : (groupBytes pair).length = groupLength := rfl

theorem groupSample_groupBytes (pair : Int16 × Int16) (rest : List UInt8) :
    groupSample (groupBytes pair ++ rest) = Sample.ofPair pair := by
  have read : ∀ value : Int16,
      (Word.ofBytes16 (value.toUInt16 >>> 8).toUInt8 value.toUInt16.toUInt8).toInt16 = value := by
    intro value
    rw [Word.ofBytes16_bytes, Int16.toInt16_toUInt16]
  change Sample.mk _ _ = Sample.mk _ _
  rw [read, read]

/-- As many groups as were written are read back, whatever follows them. -/
theorem groupSamples_flatMap (pairs : List (Int16 × Int16)) (rest : List UInt8) :
    groupSamples pairs.length (pairs.flatMap groupBytes ++ rest) = pairs.map Sample.ofPair := by
  induction pairs with
  | nil => rfl
  | cons pair pairs ih =>
      rw [List.flatMap_cons, List.append_assoc, List.length_cons, groupSamples,
        groupSample_groupBytes, List.drop_left' (length_groupBytes pair), ih, List.map_cons]

/-- The pairs that one half carries. -/
def halfPairs (pairs : List (Int16 × Int16)) : List (Int16 × Int16) :=
  (List.range groupsPerHalf).map (fun index => pairs[index]?.getD (0, 0))

theorem length_halfPairs (pairs : List (Int16 × Int16)) :
    (halfPairs pairs).length = groupsPerHalf := by
  rw [halfPairs, List.length_map, List.length_range]

theorem halfGroups_eq (pairs : List (Int16 × Int16)) :
    halfGroups pairs = (halfPairs pairs).flatMap groupBytes := by
  rw [halfGroups, halfPairs, List.flatMap_map]

/-- A half carries the pairs for which it has room, and zeros in the place of
those that are missing. -/
theorem halfPairs_eq (pairs : List (Int16 × Int16)) :
    halfPairs pairs = pairs.take groupsPerHalf
      ++ List.replicate (groupsPerHalf - pairs.length) (0, 0) := by
  apply List.ext_getElem?
  intro index
  rw [halfPairs, List.getElem?_map, List.getElem?_append, List.length_take,
    List.getElem?_replicate]
  by_cases inside : index < groupsPerHalf
  · rw [List.getElem?_range inside, Option.map_some]
    by_cases given : index < pairs.length
    · rw [if_pos (by omega), List.getElem?_take_of_lt inside, List.getElem?_eq_getElem given,
        Option.getD_some]
    · rw [if_neg (by omega), if_pos (by omega), List.getElem?_eq_none (by omega),
        Option.getD_none]
  · have outside : (List.range groupsPerHalf)[index]? = none :=
      List.getElem?_eq_none (by rw [List.length_range]; omega)
    rw [outside, Option.map_none, if_neg (by omega), if_neg (by omega)]

theorem length_halfGroups (pairs : List (Int16 × Int16)) :
    (halfGroups pairs).length = groupsPerHalf * groupLength := by
  rw [halfGroups_eq, ← length_halfPairs pairs]
  induction halfPairs pairs with
  | nil => rfl
  | cons pair pairs ih =>
      rw [List.flatMap_cons, List.length_append, ih, length_groupBytes, List.length_cons,
        Nat.succ_mul, Nat.add_comm]

/-- What a half carries is read back from its groups. -/
theorem groupSamples_halfGroups (pairs : List (Int16 × Int16)) (rest : List UInt8) :
    groupSamples groupsPerHalf (halfGroups pairs ++ rest) =
      (pairs.take groupsPerHalf).map Sample.ofPair
        ++ List.replicate (groupsPerHalf - pairs.length) .silence := by
  have read := groupSamples_flatMap (halfPairs pairs) rest
  rw [length_halfPairs, ← halfGroups_eq, halfPairs_eq, List.map_append, List.map_replicate,
    Sample.ofPair_zero] at read
  exact read

/-! ## Halves -/

/-- The sample groups come after the mark and the control block of a half. -/
theorem drop_halfBytes (block : ControlBlock) (pairs : List (Int16 × Int16)) :
    (halfBytes block pairs).drop 8 = halfGroups pairs := rfl

theorem length_halfBytes (block : ControlBlock) (pairs : List (Int16 × Int16)) :
    (halfBytes block pairs).length = 512 := by
  change (halfGroups pairs).length + 8 = 512
  rw [length_halfGroups]
  rfl

variable (sequence : UInt32) (first second : ControlBlock) (pairs : List (Int16 × Int16))

/-- The header of a frame. -/
def header (sequence : UInt32) : List UInt8 :=
  [0xEF, 0xFE, 0x01, 0x02] ++ Word.bytes32 sequence

theorem write_eq : write sequence first second pairs =
    header sequence ++ (halfBytes first pairs
      ++ halfBytes second (pairs.drop groupsPerHalf)) := by
  rw [write, header, List.append_assoc]

theorem length_write : (write sequence first second pairs).length = Packet.frameLength := by
  rw [write_eq, List.length_append, List.length_append, length_halfBytes, length_halfBytes]
  rfl

/-- Past the header and the first half stands the second half. -/
theorem drop_write (offset : Nat) : (write sequence first second pairs).drop (520 + offset) =
    (halfBytes second (pairs.drop groupsPerHalf)).drop offset := by
  have front : (header sequence ++ halfBytes first pairs).length = 520 := by
    rw [List.length_append, length_halfBytes]
    rfl
  rw [write_eq, ← List.append_assoc, ← front, List.drop_length_add_append]

private theorem classify_of_code {bytes : List UInt8}
    (code : PacketCode.ofBytes? bytes = some ⟨0xEF, 0xFE, 0x01, 0x02⟩) :
    Packet.classify bytes = Packet.ofLength .controlIq Packet.frameLength bytes.length
      (.controlIq (Packet.sequenceOf bytes)) := by
  rw [Packet.classify, code]
  rfl

theorem classify_write : Packet.classify (write sequence first second pairs) =
    .ok (.controlIq sequence) := by
  have code : PacketCode.ofBytes? (write sequence first second pairs) =
      some ⟨0xEF, 0xFE, 0x01, 0x02⟩ := by
    rw [write_eq]
    rfl
  have numbered : Packet.sequenceOf (write sequence first second pairs) = sequence := by
    rw [write_eq]
    exact Word.ofBytes32_bytes sequence
  rw [classify_of_code code, numbered, length_write, Packet.ofLength, if_pos rfl]

theorem blockAt_write_first : blockAt (write sequence first second pairs) 11 = first := by
  rw [write_eq]
  rfl

theorem blockAt_write_second : blockAt (write sequence first second pairs) 523 = second := by
  rw [blockAt, drop_write sequence first second pairs 3]
  rfl

/-- Both halves together carry the first 126 pairs. -/
theorem payload_write : payload (write sequence first second pairs) =
    (pairs.take 126).map Sample.ofPair ++ List.replicate (126 - pairs.length) .silence := by
  have early : (write sequence first second pairs).drop 16 =
      halfGroups pairs ++ halfBytes second (pairs.drop groupsPerHalf) := by
    rw [write_eq]
    rfl
  have late : (write sequence first second pairs).drop 528 =
      halfGroups (pairs.drop groupsPerHalf) ++ [] := by
    rw [drop_write sequence first second pairs 8, drop_halfBytes, List.append_nil]
  rw [payload, early, late, groupSamples_halfGroups, groupSamples_halfGroups]
  have size : groupsPerHalf = 63 := rfl
  rcases Nat.le_total pairs.length groupsPerHalf with short | long
  · have missing : groupsPerHalf - pairs.length + groupsPerHalf = 126 - pairs.length := by
      omega
    rw [List.drop_of_length_le short, List.take_nil, List.map_nil, List.nil_append,
      List.take_of_length_le short, List.take_of_length_le (Nat.le_trans short (by decide)),
      List.append_assoc, List.replicate_append_replicate, List.length_nil, Nat.sub_zero, missing]
  · have full : groupsPerHalf - pairs.length = 0 := Nat.sub_eq_zero_of_le long
    have missing : groupsPerHalf - (pairs.length - groupsPerHalf) = 126 - pairs.length := by
      omega
    have joined : pairs.take 126 =
        pairs.take groupsPerHalf ++ (pairs.drop groupsPerHalf).take groupsPerHalf :=
      List.take_add (i := groupsPerHalf) (j := groupsPerHalf)
    rw [full, List.replicate_zero, List.append_nil, joined, List.map_append, List.append_assoc,
      List.length_drop, missing]

/-- A written control frame reads back as what it was written from: it is a
control frame with its sequence number, it decodes as its two blocks one after
the other, and it carries the first 126 samples, padded with silence.  A sample is
scaled to the single-precision number nearest to its product with 0.000030518509476. -/
theorem written_frame_reads_back :
    let frame := write sequence first second pairs
    frame.length = 1032 ∧
      Packet.classify frame = .ok (.controlIq sequence) ∧
      (∀ (decoder : Decoder) (radio : Radio),
        let early := decoder.decodeBlock radio first
        let late := decoder.decodeBlock early.1 second
        decoder.decodeFrame radio frame = .ok (late.1, early.2 ++ late.2)) ∧
      (∃ carried, samples frame = .ok carried ∧ carried.length = 126 ∧
        carried = (pairs.take 126).map (fun pair => ⟨Sample.scale pair.1, Sample.scale pair.2⟩)
          ++ List.replicate (126 - pairs.length) .silence) ∧
      ∀ value : Int16,
        (Sample.scale value).IsNearest (value.toInt * 30518509476) 1000000000000000 := by
  intro frame
  have whole : frame.length = Packet.frameLength := length_write sequence first second pairs
  refine ⟨whole, classify_write sequence first second pairs, ?_, ?_, Sample.scale_isNearest⟩
  · intro decoder radio
    have decoded := decoder.decodeFrame_eq_ok radio whole
    rwa [blockAt_write_first, blockAt_write_second] at decoded
  · exact ⟨payload frame, samples_eq_ok whole, length_payload frame,
      payload_write sequence first second pairs⟩

end ControlFrame
end VirtualRadio
