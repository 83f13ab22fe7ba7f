import Mathlib.Logic.Function.Iterate
import VirtualRadio.Wire.StatusFrame

namespace VirtualRadio

/-!
# A stream of status frames

The frames of a stream are numbered, and the rotation of the status table goes
on by two entries with each of them.  So what a frame looks like follows from
its place in the stream and from its own inputs; the inputs of the frames
before it do not matter.

Of all bytes only three may depend on the inputs at all: the drive and the two
bytes of the forward-power reading, in the half that carries this reading.
-/

/-- The four bytes of a number of 32 bits, most significant first, with larger
numbers wrapped. -/
def Word.wrapped32 (number : Nat) : List UInt8 :=
  let wrapped := number % UInt32.size
  [wrapped / 16777216, wrapped / 65536 % 256, wrapped / 256 % 256, wrapped % 256].map UInt8.ofNat

theorem Word.bytes32_ofNat (number : Nat) :
    Word.bytes32 (UInt32.ofNat number) = Word.wrapped32 number := by
  have bound : number % 4294967296 < 4294967296 := Nat.mod_lt _ (by decide)
  have byte : ∀ (word : UInt32) (digit : Nat), word.toNat % 256 = digit % 256 →
      word.toUInt8 = UInt8.ofNat digit := by
    intro word digit same
    apply UInt8.toNat_inj.mp
    rw [UInt32.toNat_toUInt8, UInt8.toNat_ofNat']
    exact same
  simp only [bytes32, wrapped32, List.map_cons, List.map_nil, List.cons.injEq, and_true]
  refine ⟨byte _ _ ?_, byte _ _ ?_, byte _ _ ?_, byte _ _ ?_⟩ <;>
    simp only [UInt32.toNat_shiftRight, UInt32.toNat_ofNat', Nat.shiftRight_eq_div_pow,
      UInt32.reduceToNat, Nat.reduceMod, Nat.reducePow, UInt32.size] <;> omega

namespace StatusEntry

/-- The place of an entry in the table. -/
def position : StatusEntry → Nat
  | versions => 0
  | forwardPower => 1
  | reversePower => 2
  | supply => 3
  | spare => 4

theorem position_next (entry : StatusEntry) : entry.next.position = (entry.position + 1) % 5 := by
  cases entry <;> rfl

theorem eq_forwardPower_of_position {entry : StatusEntry} (second : entry.position = 1) :
    entry = forwardPower := by
  cases entry <;> first | rfl | contradiction

theorem length_bytes (entry : StatusEntry) (profile : Profile)
    (inputs : StatusInputs) : (entry.bytes profile inputs).length = 5 := by
  cases entry with
  | versions =>
      simp only [bytes]
      split <;> rfl
  | _ => rfl

/-- An entry begins with its place, in the upper five bits. -/
theorem head?_bytes (entry : StatusEntry) (profile : Profile) (inputs : StatusInputs) :
    (entry.bytes profile inputs).head? = some (UInt8.ofNat (8 * entry.position)) := by
  cases entry with
  | versions =>
      simp only [bytes]
      split <;> rfl
  | _ => rfl

/-- Nothing is sent forward, and nothing is read of it, while the radio is not keyed. -/
theorem forwardPower_zero (profile : Profile) : VirtualRadio.forwardPower profile 0.0 = 0 := by
  cases profile <;> decide +kernel

/-- The drive and the reading of the forward power. -/
theorem bytes_forwardPower (profile : Profile) (inputs : StatusInputs) :
    ∃ high low, forwardPower.bytes profile inputs =
        [0x08, 0x00, if profile = .hermesLite2 then 0 else inputs.drive, high, low] ∧
      (inputs.keyed = false → high = 0 ∧ low = 0) := by
  let reading := VirtualRadio.forwardPower profile (level inputs)
  refine ⟨(reading >>> 8).toUInt8, reading.toUInt8, rfl, fun unkeyed => ?_⟩
  have silent : level inputs = 0.0 := by
    rw [level, unkeyed]
    exact if_neg Bool.false_ne_true
  have nothing : reading = 0 := by
    change VirtualRadio.forwardPower profile (level inputs) = 0
    rw [silent, forwardPower_zero]
  rw [nothing]
  decide

/-- Inputs decide only the last three bytes of one entry. -/
theorem of_bytes_ne {entry : StatusEntry} {profile : Profile} {inputs others : StatusInputs}
    {index : Nat} (differ : (entry.bytes profile inputs)[index]? ≠
      (entry.bytes profile others)[index]?) :
    entry.position = 1 ∧ 2 ≤ index ∧ index < 5 := by
  cases entry with
  | forwardPower =>
      obtain ⟨_, _, bytes, -⟩ := bytes_forwardPower profile inputs
      obtain ⟨_, _, otherBytes, -⟩ := bytes_forwardPower profile others
      refine ⟨rfl, ?_, ?_⟩
      · by_contra early
        have first : index = 0 ∨ index = 1 := by omega
        rw [bytes, otherBytes] at differ
        rcases first with rfl | rfl
        · exact differ rfl
        · exact differ rfl
      · by_contra late
        rw [List.getElem?_eq_none (by rw [length_bytes]; omega),
          List.getElem?_eq_none (by rw [length_bytes]; omega)] at differ
        exact differ rfl
  | _ => exact absurd rfl differ

end StatusEntry

namespace StatusCursor

/-- The frames of a stream, one for each of the inputs. -/
def frames (cursor : StatusCursor) : List StatusInputs → List (List UInt8)
  | [] => []
  | inputs :: later => cursor.frame inputs :: cursor.advance.frames later

/-- Where a stream stands after some frames. -/
def reached (profile : Profile) (number : Nat) : StatusCursor :=
  advance^[number] (start profile)

theorem length_frame (cursor : StatusCursor) (inputs : StatusInputs) :
    (cursor.frame inputs).length = Packet.frameLength := by
  simp only [frame, half, List.length_append, StatusEntry.length_bytes, List.length_replicate]
  rfl

theorem getElem?_frames (cursor : StatusCursor) (inputs : List StatusInputs) (number : Nat) :
    (cursor.frames inputs)[number]? = inputs[number]?.map (advance^[number] cursor).frame := by
  induction inputs generalizing cursor number with
  | nil => rfl
  | cons first later ih =>
      cases number with
      | zero => rfl
      | succ number =>
          rw [frames, List.getElem?_cons_succ, List.getElem?_cons_succ, ih,
            Function.iterate_succ_apply]

theorem reached_succ (profile : Profile) (number : Nat) :
    reached profile (number + 1) = (reached profile number).advance :=
  Function.iterate_succ_apply' _ _ _

theorem reached_profile (profile : Profile) (number : Nat) :
    (reached profile number).profile = profile := by
  induction number with
  | zero => rfl
  | succ number ih =>
      rw [reached_succ]
      exact ih

theorem reached_sequence (profile : Profile) (number : Nat) :
    (reached profile number).sequence = UInt32.ofNat number := by
  induction number with
  | zero => rfl
  | succ number ih =>
      rw [reached_succ, advance, ih, UInt32.ofNat_add]
      rfl

/-- The rotation is not cut short by the numbers: it has gone on by two entries
with every frame. -/
theorem reached_position (profile : Profile) (number : Nat) :
    (reached profile number).entry.position = 2 * number % 5 := by
  induction number with
  | zero => rfl
  | succ number ih =>
      rw [reached_succ, advance, StatusEntry.position_next, StatusEntry.position_next, ih]
      omega

/-! ## Halves -/

theorem length_half (profile : Profile) (entry : StatusEntry) (inputs : StatusInputs) :
    (half profile entry inputs).length = 512 := by
  rw [half, List.length_append, List.length_append, StatusEntry.length_bytes,
    List.length_replicate]
  rfl

/-- Inputs decide at most three bytes of a half. -/
theorem of_half_ne {profile : Profile} {entry : StatusEntry} {inputs others : StatusInputs}
    {index : Nat} (differ : (half profile entry inputs)[index]? ≠
      (half profile entry others)[index]?) :
    entry.position = 1 ∧ 5 ≤ index ∧ index < 8 := by
  rw [half, half, List.append_assoc, List.append_assoc] at differ
  by_cases marked : index < 3
  · rw [List.getElem?_append_left marked, List.getElem?_append_left marked] at differ
    exact absurd rfl differ
  · have behind : ([0x7F, 0x7F, 0x7F] : List UInt8).length ≤ index := Nat.le_of_not_lt marked
    rw [List.getElem?_append_right behind, List.getElem?_append_right behind] at differ
    by_cases shown : index - 3 < 5
    · rw [List.getElem?_append_left (by rwa [StatusEntry.length_bytes]),
        List.getElem?_append_left (by rwa [StatusEntry.length_bytes])] at differ
      have inside := StatusEntry.of_bytes_ne differ
      rw [List.length_cons, List.length_cons, List.length_cons, List.length_nil] at inside
      omega
    · have silent : ∀ values : StatusInputs,
          (entry.bytes profile values).length ≤ index - ([0x7F, 0x7F, 0x7F] : List UInt8).length := by
        intro values
        rw [StatusEntry.length_bytes]
        exact Nat.le_of_not_lt shown
      rw [List.getElem?_append_right (silent inputs), List.getElem?_append_right (silent others),
        StatusEntry.length_bytes, StatusEntry.length_bytes] at differ
      exact absurd rfl differ

/-- A half is what its entry makes of it: the mark and the place in the table,
four bytes that depend on inputs at the second place only, and silence. -/
structure IsStatusHalf (profile : Profile) (position : Nat) (inputs : StatusInputs)
    (block : List UInt8) : Prop where
  opening : block.take 4 = [0x7F, 0x7F, 0x7F, UInt8.ofNat (8 * position)]
  silence : block.drop 8 = List.replicate 504 0
  drive : position = 1 →
    block[5]? = some (if profile = .hermesLite2 then 0 else inputs.drive)
  unkeyed : position = 1 → inputs.keyed = false → block[6]? = some 0 ∧ block[7]? = some 0

theorem half_isStatusHalf (profile : Profile) (entry : StatusEntry) (inputs : StatusInputs) :
    IsStatusHalf profile entry.position inputs (half profile entry inputs) := by
  have size := entry.length_bytes profile inputs
  have place := entry.head?_bytes profile inputs
  have bytes : ∀ {shown}, entry.bytes profile inputs = shown →
      half profile entry inputs = [0x7F, 0x7F, 0x7F] ++ shown ++ List.replicate 504 0 := by
    intro shown same
    rw [half, same]
  refine ⟨?_, ?_, fun second => ?_, fun second unkeyed => ?_⟩
  · cases shown : entry.bytes profile inputs with
    | nil =>
        rw [shown] at size
        contradiction
    | cons first rest =>
        rw [shown, List.head?_cons, Option.some.injEq] at place
        rw [bytes shown, place]
        rfl
  · have front : ([0x7F, 0x7F, 0x7F] ++ entry.bytes profile inputs).length = 8 := by
      rw [List.length_append, size]
      rfl
    rw [bytes rfl]
    exact List.drop_left' front
  · obtain ⟨high, low, shown, -⟩ := StatusEntry.bytes_forwardPower profile inputs
    rw [StatusEntry.eq_forwardPower_of_position second] at bytes ⊢
    rw [bytes shown]
    rfl
  · obtain ⟨high, low, shown, silent⟩ := StatusEntry.bytes_forwardPower profile inputs
    rw [StatusEntry.eq_forwardPower_of_position second] at bytes ⊢
    rw [bytes shown, (silent unkeyed).1, (silent unkeyed).2]
    exact ⟨rfl, rfl⟩

/-! ## Frames -/

/-- What the frame with a number in its stream looks like. -/
structure IsStatusFrame (profile : Profile) (number : Nat) (inputs : StatusInputs)
    (frame : List UInt8) : Prop where
  length : frame.length = 1032
  opening : frame.take 8 = [0xEF, 0xFE, 0x01, 0x06] ++ Word.wrapped32 number
  halves : ∀ half < 2, IsStatusHalf profile ((2 * number + half) % 5) inputs
    ((frame.drop (8 + 512 * half)).take 512)

/-- Whether a byte of the frame with a number may depend on the inputs of the
frame: the last three status bytes of a half at the second place of the table. -/
def MayVary (number offset : Nat) : Prop :=
  ∃ half < 2, (2 * number + half) % 5 = 1 ∧
    8 + 512 * half + 5 ≤ offset ∧ offset < 8 + 512 * half + 8

/-- A frame is its opening and two halves. -/
theorem frame_eq (cursor : StatusCursor) (inputs : StatusInputs) :
    cursor.frame inputs =
      ([0xEF, 0xFE, 0x01, 0x06] ++ Word.bytes32 cursor.sequence) ++
        (half cursor.profile cursor.entry inputs ++
          half cursor.profile cursor.entry.next inputs) := by
  rw [frame, List.append_assoc]

theorem drop_frame (cursor : StatusCursor) (inputs : StatusInputs) :
    (cursor.frame inputs).drop 8 =
      half cursor.profile cursor.entry inputs ++
        half cursor.profile cursor.entry.next inputs := by
  rw [frame_eq]
  rfl

/-- Each half begins with its own entry. -/
theorem take_drop_frame (cursor : StatusCursor) (inputs : StatusInputs) {second : Nat}
    (either : second < 2) :
    ((cursor.frame inputs).drop (8 + 512 * second)).take 512 =
      half cursor.profile (StatusEntry.next^[second] cursor.entry) inputs := by
  have size := length_half cursor.profile cursor.entry inputs
  have sizeNext := length_half cursor.profile cursor.entry.next inputs
  rw [← List.drop_drop, drop_frame]
  rcases Nat.lt_succ_iff_lt_or_eq.mp either with first | rfl
  · rw [Nat.lt_one_iff.mp first]
    exact List.take_left' size
  · rw [Nat.mul_one, List.drop_left' size, List.take_of_length_le (Nat.le_of_eq sizeNext)]
    rfl

/-- The place in the table that a half begins with. -/
theorem reached_position_half (profile : Profile) (number : Nat) {second : Nat}
    (either : second < 2) :
    (StatusEntry.next^[second] (reached profile number).entry).position =
      (2 * number + second) % 5 := by
  have place := reached_position profile number
  rcases Nat.lt_succ_iff_lt_or_eq.mp either with first | rfl
  · rw [Nat.lt_one_iff.mp first]
    exact place
  · rw [Function.iterate_one, StatusEntry.position_next, place, Nat.mod_add_mod]

theorem reached_isStatusFrame (profile : Profile) (number : Nat) (inputs : StatusInputs) :
    IsStatusFrame profile number inputs ((reached profile number).frame inputs) where
  length := length_frame _ inputs
  opening := by
    rw [frame_eq, reached_sequence, Word.bytes32_ofNat]
    rfl
  halves := by
    intro second either
    rw [take_drop_frame _ inputs either, ← reached_position_half profile number either,
      reached_profile]
    exact half_isStatusHalf _ _ inputs

/-- Inputs decide at most three bytes of a frame. -/
theorem mayVary_of_frame_ne {profile : Profile} {number offset : Nat}
    {inputs others : StatusInputs}
    (differ : ((reached profile number).frame inputs)[offset]? ≠
      ((reached profile number).frame others)[offset]?) :
    MayVary number offset := by
  have first := reached_position_half profile number (show 0 < 2 by decide)
  have second := reached_position_half profile number (show 1 < 2 by decide)
  rw [Function.iterate_zero_apply] at first
  rw [Function.iterate_one] at second
  by_cases opening : offset < 8
  · have same := (reached_isStatusFrame profile number inputs).opening.trans
      (reached_isStatusFrame profile number others).opening.symm
    rw [← List.getElem?_take_of_lt opening, same, List.getElem?_take_of_lt opening] at differ
    exact absurd rfl differ
  · have behind : offset = 8 + (offset - 8) := by omega
    rw [behind, ← List.getElem?_drop, ← List.getElem?_drop, drop_frame, drop_frame] at differ
    by_cases early : offset - 8 < 512
    · rw [List.getElem?_append_left (by rwa [length_half]),
        List.getElem?_append_left (by rwa [length_half])] at differ
      have inside := of_half_ne differ
      exact ⟨0, by decide, first ▸ inside.1, by omega, by omega⟩
    · rw [List.getElem?_append_right (by rw [length_half]; omega),
        List.getElem?_append_right (by rw [length_half]; omega), length_half, length_half] at differ
      have inside := of_half_ne differ
      exact ⟨1, by decide, second ▸ inside.1, by omega, by omega⟩

/-- The frame of a stream with a given number looks as this number and its own
inputs say.  Against the frame with this number of any other stream it differs
at most in the drive and the reading of the forward power. -/
theorem frame_of_inputs (profile : Profile) (inputs : List StatusInputs) (number : Nat)
    (own : StatusInputs) (listed : inputs[number]? = some own) :
    ∃ frame, ((start profile).frames inputs)[number]? = some frame ∧
      IsStatusFrame profile number own frame ∧
      ∀ others other, ((start profile).frames others)[number]? = some other →
        ∀ offset, frame[offset]? ≠ other[offset]? → MayVary number offset := by
  refine ⟨(reached profile number).frame own, ?_, reached_isStatusFrame profile number own, ?_⟩
  · rw [getElem?_frames, listed]
    rfl
  · intro others other found offset differ
    rw [getElem?_frames, Option.map_eq_some_iff] at found
    obtain ⟨values, -, rfl⟩ := found
    exact mayVary_of_frame_ne differ

/-- After 2 ^ 32 frames the numbers begin again at zero, but the rotation goes
on: the first half carries the third entry of the table then. -/
theorem frame_of_inputs_wrapped :
    let own : StatusInputs := ⟨1, 0, 0, false⟩
    let inputs := List.replicate (UInt32.size + 1) own
    inputs[UInt32.size]? = some own ∧
      ∃ frame, ((start .hermes).frames inputs)[UInt32.size]? = some frame ∧
        frame.take 8 = [0xEF, 0xFE, 0x01, 0x06, 0x00, 0x00, 0x00, 0x00] ∧
        ((frame.drop 8).take 512).take 4 = [0x7F, 0x7F, 0x7F, 0x10] := by
  intro own inputs
  have listed : inputs[UInt32.size]? = some own := by
    rw [List.getElem?_replicate, if_pos (Nat.lt_succ_self _)]
  obtain ⟨frame, found, looks, -⟩ :=
    frame_of_inputs .hermes inputs UInt32.size own listed
  exact ⟨listed, frame, found, looks.opening, (looks.halves 0 (by decide)).opening⟩

end StatusCursor
end VirtualRadio
