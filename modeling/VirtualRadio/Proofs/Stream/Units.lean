import VirtualRadio.Wire.Packet

namespace VirtualRadio

/-!
# The units of a stream

The first four bytes of a unit decide how long it is, so a unit that is once
complete is not changed by what follows it.  Cutting units off a stream for as
long as there are any gives the units of the stream, and what is left is too
short for the unit that it begins.
-/

namespace PacketCode

theorem ofBytes?_eq_none_iff {bytes : List UInt8} :
    ofBytes? bytes = none ↔ bytes.length < 4 := by
  rcases bytes with _ | ⟨first, _ | ⟨second, _ | ⟨command, _ | ⟨subcommand, rest⟩⟩⟩⟩ <;>
    simp [ofBytes?]

theorem ofBytes?_append {bytes : List UInt8} {code : PacketCode}
    (found : ofBytes? bytes = some code) (more : List UInt8) :
    ofBytes? (bytes ++ more) = some code := by
  rcases bytes with _ | ⟨first, _ | ⟨second, _ | ⟨command, _ | ⟨subcommand, rest⟩⟩⟩⟩ <;>
    simp_all [ofBytes?]

theorem ofBytes?_take {bytes : List UInt8} {code : PacketCode}
    (found : ofBytes? bytes = some code) {length : Nat} (enough : 4 ≤ length) :
    ofBytes? (bytes.take length) = some code := by
  rcases Nat.exists_eq_add_of_le' enough with ⟨more, rfl⟩
  rcases bytes with _ | ⟨first, _ | ⟨second, _ | ⟨command, _ | ⟨subcommand, rest⟩⟩⟩⟩ <;>
    simp_all [ofBytes?]

/-- Every unit holds the code that it begins with. -/
theorem four_le_unitLength (code : PacketCode) : 4 ≤ code.unitLength := by
  unfold unitLength
  repeat' split
  all_goals decide

end PacketCode

/-- Whether bytes are too few for the unit that they begin. -/
def Incomplete (bytes : List UInt8) : Prop :=
  bytes.length < 4 ∨
    ∃ code, PacketCode.ofBytes? bytes = some code ∧ bytes.length < code.unitLength

/-- Whether bytes are exactly the unit that they begin. -/
def IsWhole (bytes : List UInt8) : Prop :=
  ∃ code, PacketCode.ofBytes? bytes = some code ∧ bytes.length = code.unitLength

theorem splitUnit?_of_ofBytes? {buffer : List UInt8} {code : PacketCode}
    (found : PacketCode.ofBytes? buffer = some code) :
    splitUnit? buffer = if buffer.length < code.unitLength then none
      else some (buffer.take code.unitLength, buffer.drop code.unitLength) := by
  rw [splitUnit?, found]
  rfl

theorem splitUnit?_eq_none_iff {buffer : List UInt8} :
    splitUnit? buffer = none ↔ Incomplete buffer := by
  rcases found : PacketCode.ofBytes? buffer with _ | code
  · have short := PacketCode.ofBytes?_eq_none_iff.mp found
    simp [splitUnit?, Incomplete, found, short]
  · have long : ¬ buffer.length < 4 := by
      intro short
      rw [PacketCode.ofBytes?_eq_none_iff.mpr short] at found
      contradiction
    rw [splitUnit?_of_ofBytes? found]
    simp [Incomplete, found, long]

theorem splitUnit?_eq_some {buffer unit rest : List UInt8}
    (cut : splitUnit? buffer = some (unit, rest)) :
    ∃ code, PacketCode.ofBytes? buffer = some code ∧ code.unitLength ≤ buffer.length ∧
      unit = buffer.take code.unitLength ∧ rest = buffer.drop code.unitLength := by
  rcases found : PacketCode.ofBytes? buffer with _ | code
  · simp [splitUnit?, found] at cut
  · rw [splitUnit?_of_ofBytes? found] at cut
    split at cut
    · contradiction
    · next long =>
        simp only [Option.some.injEq, Prod.mk.injEq] at cut
        exact ⟨code, rfl, Nat.le_of_not_lt long, cut.1.symm, cut.2.symm⟩

theorem append_of_splitUnit? {buffer unit rest : List UInt8}
    (cut : splitUnit? buffer = some (unit, rest)) : unit ++ rest = buffer := by
  rcases splitUnit?_eq_some cut with ⟨code, _, _, rfl, rfl⟩
  exact List.take_append_drop _ _

theorem length_lt_of_splitUnit? {buffer unit rest : List UInt8}
    (cut : splitUnit? buffer = some (unit, rest)) : rest.length < buffer.length := by
  rcases splitUnit?_eq_some cut with ⟨code, _, long, _, rfl⟩
  have enough := code.four_le_unitLength
  rw [List.length_drop]
  omega

theorem isWhole_of_splitUnit? {buffer unit rest : List UInt8}
    (cut : splitUnit? buffer = some (unit, rest)) : IsWhole unit := by
  rcases splitUnit?_eq_some cut with ⟨code, found, long, rfl, _⟩
  exact ⟨code, PacketCode.ofBytes?_take found code.four_le_unitLength,
    List.length_take_of_le long⟩

/-- A complete unit stays what it is when more bytes follow. -/
theorem splitUnit?_append {buffer unit rest : List UInt8}
    (cut : splitUnit? buffer = some (unit, rest)) (more : List UInt8) :
    splitUnit? (buffer ++ more) = some (unit, rest ++ more) := by
  rcases splitUnit?_eq_some cut with ⟨code, found, long, rfl, rfl⟩
  have longer : ¬ (buffer ++ more).length < code.unitLength := by
    rw [List.length_append]
    omega
  rw [splitUnit?_of_ofBytes? (PacketCode.ofBytes?_append found more), if_neg longer,
    List.take_append_of_le_length long, List.drop_append_of_le_length long]

/-- The units of a stream, and the bytes after the last of them. -/
def splitUnits (stream : List UInt8) : List (List UInt8) × List UInt8 :=
  match _ : splitUnit? stream with
  | none => ([], stream)
  | some (unit, rest) => (unit :: (splitUnits rest).1, (splitUnits rest).2)
termination_by stream.length
decreasing_by all_goals exact length_lt_of_splitUnit? ‹_›

theorem splitUnits_of_none {stream : List UInt8} (whole : splitUnit? stream = none) :
    splitUnits stream = ([], stream) := by
  rw [splitUnits]
  split
  · rfl
  · next cut =>
      rw [whole] at cut
      contradiction

theorem splitUnits_of_some {stream unit rest : List UInt8}
    (first : splitUnit? stream = some (unit, rest)) :
    splitUnits stream = (unit :: (splitUnits rest).1, (splitUnits rest).2) := by
  rw [splitUnits]
  split
  · next cut =>
      rw [first] at cut
      contradiction
  · next cut =>
      rw [first] at cut
      cases cut
      rfl

/-- Nothing but whole units is cut off a stream. -/
theorem isWhole_of_mem_splitUnits {stream unit : List UInt8}
    (member : unit ∈ (splitUnits stream).1) : IsWhole unit := by
  induction stream using splitUnits.induct with
  | case1 stream whole =>
      rw [splitUnits_of_none whole] at member
      contradiction
  | case2 stream first rest cut ih =>
      rw [splitUnits_of_some cut] at member
      rcases List.mem_cons.mp member with rfl | later
      · exact isWhole_of_splitUnit? cut
      · exact ih later

end VirtualRadio
