import Mathlib.Data.List.Nodup
import VirtualRadio.Proofs.Control.Gains

namespace VirtualRadio

/-!
# Reports of changes

A block reports each write that changes what a register holds.  Where it writes
every register once, that is a report of the block as a whole: it names the
registers whose value became another one, once, with the value before and the
value after.

On page 14 of a C25 board the first three converters are written twice, as the
block says and then as they are wired.  If the block says otherwise and the
register did not hold that value already, both writes are reported.
-/

/-- What changes tell of a bank that became another one: they name exactly the
registers whose value is another one, once, with the old and the new value. -/
structure RegisterBank.Reports (before after : RegisterBank) (changes : List RegisterChange) :
    Prop where
  once : (changes.map RegisterChange.register).Nodup
  values : ∀ change ∈ changes, before.get? change.register = change.old ∧
    after.get? change.register = some change.new
  named_iff : ∀ register, register ∈ changes.map RegisterChange.register ↔
    before.get? register ≠ after.get? register

/-- The changes that are reported when values are written to one register, one
after the other. -/
def Register.changes (register : Register) (held : Option Int) : List Int → List RegisterChange
  | [] => []
  | value :: values =>
    (if held = some value then [] else [⟨register, held, value⟩])
      ++ register.changes (some value) values

/-- The values that are written to a register, in order. -/
def writtenValues (register : Register) (writes : List (Register × Int)) : List Int :=
  writes.filterMap (fun write => if write.1 = register then some write.2 else none)

/-- The changes of one register. -/
def changesOf (register : Register) (changes : List RegisterChange) : List RegisterChange :=
  changes.filter (fun change => change.register = register)

variable {register : Register} {changes : List RegisterChange} {before after : RegisterBank}

theorem count_registers (register : Register) (changes : List RegisterChange) :
    (changes.map RegisterChange.register).count register = (changesOf register changes).length := by
  induction changes with
  | nil => rfl
  | cons change changes ih =>
      rw [List.map_cons, List.count_cons, ih, changesOf, changesOf, List.filter_cons]
      by_cases same : change.register = register <;> simp [same]

theorem mem_changesOf {change : RegisterChange} :
    change ∈ changesOf register changes ↔ change ∈ changes ∧ change.register = register := by
  rw [changesOf, List.mem_filter, decide_eq_true_eq]

/-- A report seen register by register: nothing of one that kept its value, and
the one change of any other. -/
theorem RegisterBank.reports_iff
    (kept : ∀ register, (before.get? register).isSome → (after.get? register).isSome) :
    Reports before after changes ↔ ∀ register, changesOf register changes =
      register.changes (before.get? register) (after.get? register).toList := by
  constructor
  · intro reports register
    have single : (changesOf register changes).length ≤ 1 := by
      rw [← count_registers]
      exact List.nodup_iff_count_le_one.mp reports.once register
    rcases own : changesOf register changes with _ | ⟨change, others⟩
    · have unnamed : register ∉ changes.map RegisterChange.register := by
        rw [← List.count_eq_zero, count_registers, own, List.length_nil]
      have same := not_not.mp (fun other => unnamed ((reports.named_iff register).mpr other))
      rcases held : after.get? register with _ | value
      · rfl
      · simp [Register.changes, same, held]
    · rw [own, List.length_cons] at single
      have alone : others = [] := List.eq_nil_of_length_eq_zero (by omega)
      have member := mem_changesOf.mp (own.symm ▸ List.mem_cons_self)
      have values := reports.values change member.1
      have named := (reports.named_iff register).mp (List.mem_map.mpr ⟨change, member⟩)
      rw [member.2] at values
      rw [alone, values.1, values.2]
      rw [values.1, values.2] at named
      simp [Register.changes, named, ← member.2]
  · intro each
    have differs : ∀ register, changesOf register changes ≠ [] ↔
        before.get? register ≠ after.get? register := by
      intro register
      rw [each register]
      rcases held : after.get? register with _ | value
      · rcases had : before.get? register with _ | old
        · simp [Register.changes]
        · have lost := kept register (by rw [had]; rfl)
          rw [held] at lost
          contradiction
      · by_cases same : before.get? register = some value <;> simp [Register.changes, same]
    refine ⟨?_, ?_, ?_⟩
    · rw [List.nodup_iff_count_le_one]
      intro register
      rw [count_registers, each register]
      rcases after.get? register with _ | value
      · exact Nat.zero_le _
      · by_cases same : before.get? register = some value <;> simp [Register.changes, same]
    · intro change member
      have own := mem_changesOf.mpr ⟨member, rfl⟩
      rw [each change.register] at own
      rcases held : after.get? change.register with _ | value
      · rw [held] at own
        contradiction
      · rw [held, Option.toList_some, Register.changes, Register.changes, List.append_nil] at own
        split at own
        · contradiction
        · rw [List.mem_singleton.mp own]
          exact ⟨rfl, rfl⟩
    · intro register
      rw [← differs register, ← List.count_pos_iff, count_registers, List.length_pos_iff]

/-- A bank is what it holds. -/
theorem RegisterBank.eq_of_get? (same : ∀ register, before.get? register = after.get? register) :
    before = after := by
  have slots : before.slots = after.slots := by
    apply Vector.ext
    intro place inside
    have listed : some (⟨place, inside⟩ : Fin Register.slotCount) ∈
        Register.inSlotOrder.map Register.slot? := by
      rw [Register.slots_inSlotOrder]
      exact List.mem_map.mpr ⟨_, List.mem_finRange _, rfl⟩
    rcases List.mem_map.mp listed with ⟨register, _, owns⟩
    have held := same register
    rwa [get?_of_slot? _ owns, get?_of_slot? _ owns] at held
  cases before
  cases after
  exact congrArg RegisterBank.mk slots

namespace Decoder

variable {decoder : Decoder} {radio : Radio} {block : ControlBlock}

/-- What several writes report of one register depends on the values written to
that register only. -/
theorem changesOf_writeAll (stored : register.slot?.isSome = true) (bank : RegisterBank)
    (writes : List (Register × Int)) : changesOf register (writeAll bank writes).2 =
      register.changes (bank.get? register) (writtenValues register writes) := by
  induction writes generalizing bank with
  | nil => rfl
  | cons write writes ih =>
      rcases write with ⟨written, value⟩
      rw [writeAll, changesOf, List.filter_append, ← changesOf, ← changesOf, ih,
        RegisterBank.set_change?]
      by_cases same : written = register
      · rw [same, RegisterBank.get?_set_self bank stored]
        by_cases held : bank.get? register = some value <;>
          simp [writtenValues, Register.changes, changesOf, stored, held]
      · rw [RegisterBank.get?_set_of_ne bank (Ne.symm same)]
        have silent : changesOf register (if written.slot?.isSome ∧
            bank.get? written ≠ some value then
              some (RegisterChange.mk written (bank.get? written) value) else none).toList = [] := by
          split <;> simp [changesOf, same]
        rw [silent, writtenValues, writtenValues, List.filterMap_cons, if_neg same]
        rfl

/-- The value that a field of a block gives to a register. -/
def fieldValue? (register : Register) (block : ControlBlock) : Option Int :=
  ((Layout.blockFields block).find? (fun field => field.register = register)).map
    (fun field => field.value block)

/-- The value that a block gives to a converter before the wiring of a C25 board
takes its place. -/
def overridden? (decoder : Decoder) (register : Register) (block : ControlBlock) : Option Int :=
  (decoder.wired? register block).bind (fun wired =>
    (fieldValue? register block).filter (· ≠ wired))

theorem writtenValues_append (register : Register) (writes later : List (Register × Int)) :
    writtenValues register (writes ++ later) =
      writtenValues register writes ++ writtenValues register later :=
  List.filterMap_append

theorem writtenValues_fields (fields : List Field) (once : (fields.map Field.register).Nodup)
    (register : Register) (block : ControlBlock) :
    writtenValues register (fields.map (fun field => (field.register, field.value block))) =
      ((fields.find? (fun field => field.register = register)).map
        (fun field => field.value block)).toList := by
  induction fields with
  | nil => rfl
  | cons field fields ih =>
      rw [List.map_cons, List.nodup_cons] at once
      rw [List.map_cons, writtenValues, List.filterMap_cons, ← writtenValues, ih once.2,
        List.find?_cons]
      by_cases same : field.register = register
      · have rest : fields.find? (fun other => other.register = register) = none := by
          rw [List.find?_eq_none]
          intro other member named
          exact once.1 (List.mem_map.mpr ⟨other, member, by simpa [same] using named⟩)
        simp [same, rest]
      · simp [same]

/-- A block writes a register once, or a wired converter once more. -/
theorem writtenValues_writes (decoder : Decoder) (register : Register) (block : ControlBlock) :
    writtenValues register (decoder.writes block) =
      (fieldValue? register block).toList ++ (decoder.wired? register block).toList := by
  rw [writes, writtenValues_append, writtenValues_fields _ (Layout.nodup_blockRegisters block),
    fieldValue?]
  congr 1
  unfold wired?
  split
  · split
    · rfl
    · rfl
    · rfl
    · next zero one two =>
        simp [writtenValues, Ne.symm zero, Ne.symm one, Ne.symm two]
  · rfl

theorem changesOf_decodeBlock (decoder : Decoder) (radio : Radio) (block : ControlBlock)
    (register : Register) : changesOf register (decoder.decodeBlock radio block).2 =
      register.changes (radio.bank.get? register)
        ((fieldValue? register block).toList ++ (decoder.wired? register block).toList) := by
  rw [← writtenValues_writes]
  by_cases stored : register.slot?.isSome = true
  · exact changesOf_writeAll stored radio.bank (decoder.writes block)
  · have unwritten : register ∉ (decoder.writes block).map Prod.fst := by
      rw [← lastWritten?_eq_none_iff, lastWritten?_writes, ← Option.not_isSome_iff_eq_none,
        isSome_carried?_iff]
      exact fun carried => stored (Layout.isSome_slot?_of_mem carried)
    have nothing : writtenValues register (decoder.writes block) = [] := by
      rw [writtenValues, List.filterMap_eq_nil_iff]
      intro write member
      exact if_neg (fun same => unwritten (List.mem_map.mpr ⟨write, member, same⟩))
    rw [nothing]
    refine List.filter_eq_nil_iff.mpr ?_
    intro change reported
    rw [decide_eq_true_eq]
    rintro rfl
    exact unwritten (mem_of_writeAll reported)

/-- The wiring comes after a field, so it always has a value to take the place of. -/
theorem isSome_fieldValue?_of_wired? {value : Int}
    (wired : decoder.wired? register block = some value) :
    (fieldValue? register block).isSome = true := by
  have carried := mem_of_wired?_eq_some wired
  rcases List.mem_map.mp carried with ⟨field, member, same⟩
  rw [fieldValue?, Option.isSome_map, List.find?_isSome]
  exact ⟨field, member, decide_eq_true same⟩

/-- Decoding never takes a value away. -/
theorem isSome_get?_decodeBlock (held : (radio.bank.get? register).isSome = true) :
    ((decoder.decodeBlock radio block).1.bank.get? register).isSome = true := by
  rw [get?_decodeBlock, Option.isSome_or, held, Bool.or_true]

/-- The report of a block is one of the block as a whole, unless it gives a wired
converter a value that is overridden and was not there before. -/
theorem decodeBlock_reports_iff (decoder : Decoder) (radio : Radio) (block : ControlBlock) :
    radio.bank.Reports (decoder.decodeBlock radio block).1.bank (decoder.decodeBlock radio block).2 ↔
      ∀ register value, decoder.overridden? register block = some value →
        radio.bank.get? register = some value := by
  rw [RegisterBank.reports_iff (fun _ => isSome_get?_decodeBlock)]
  apply forall_congr'
  intro register
  rw [changesOf_decodeBlock, get?_decodeBlock, carried?, ← fieldValue?, overridden?]
  rcases wired : decoder.wired? register block with _ | last
  · rcases fieldValue? register block with _ | first
    · rcases radio.bank.get? register with _ | held <;> simp [Register.changes]
    · simp
  · rcases Option.isSome_iff_exists.mp (isSome_fieldValue?_of_wired? wired) with ⟨first, field⟩
    rw [field]
    by_cases same : first = last
    · simp [Register.changes, same]
    · by_cases held : radio.bank.get? register = some first
      · simp [Register.changes, held, same]
      · by_cases final : radio.bank.get? register = some last <;>
          simp [Register.changes, held, final, same, Ne.symm same]

/-! ## The same block once more -/

/-- A block that has just been decoded changes nothing but overridden converters. -/
theorem changesOf_decodeBlock_again (decoder : Decoder) (radio : Radio) (block : ControlBlock)
    (register : Register) :
    changesOf register (decoder.decodeBlock (decoder.decodeBlock radio block).1 block).2 = [] ↔
      decoder.overridden? register block = none := by
  rw [changesOf_decodeBlock, get?_decodeBlock, carried?, ← fieldValue?, overridden?]
  rcases wired : decoder.wired? register block with _ | last
  · rcases fieldValue? register block with _ | first <;> simp [Register.changes]
  · rcases Option.isSome_iff_exists.mp (isSome_fieldValue?_of_wired? wired) with ⟨first, field⟩
    rw [field]
    by_cases same : first = last
    · simp [Register.changes, same]
    · simp [Register.changes, same, Ne.symm same]

theorem eq_nil_iff_changesOf : changes = [] ↔ ∀ register, changesOf register changes = [] := by
  constructor
  · rintro rfl _
    rfl
  · intro nothing
    rw [List.eq_nil_iff_forall_not_mem]
    intro change member
    have own := mem_changesOf.mpr ⟨member, rfl⟩
    rw [nothing change.register] at own
    contradiction

/-- Only wired converters are overridden. -/
theorem converter_of_overridden? {value : Int}
    (overridden : decoder.overridden? register block = some value) :
    ∃ receiver, register = .rxAdc receiver := by
  rcases Option.bind_eq_some_iff.mp overridden with ⟨last, wired, -⟩
  unfold wired? at wired
  split at wired
  · split at wired
    · exact ⟨0, rfl⟩
    · exact ⟨1, rfl⟩
    · exact ⟨2, rfl⟩
    · contradiction
  · contradiction

/-- No factor depends on which converter feeds which receiver. -/
theorem recompute?_of_converters {changed : List Register}
    (converters : ∀ register ∈ changed, ∃ receiver, register = .rxAdc receiver)
    (linear : Float → Float) (profile : Profile) (page : Nat) (bank : RegisterBank)
    (gains : Gains) : Gains.recompute? linear profile page changed bank gains = none := by
  have untouched : ∀ registers : List Register, (∀ receiver, .rxAdc receiver ∉ registers) →
      Gains.touches changed registers = false := by
    intro registers apart
    rw [Gains.touches_eq_false_iff]
    intro register listed named
    rcases converters register named with ⟨receiver, rfl⟩
    exact apart receiver listed
  unfold Gains.recompute?
  split
  case h_6 => rfl
  all_goals rw [untouched _ (by simp)]
  all_goals simp

theorem decodeBlock_again (decoder : Decoder) (radio : Radio) (block : ControlBlock) :
    (decoder.decodeBlock (decoder.decodeBlock radio block).1 block).1 =
      (decoder.decodeBlock radio block).1 := by
  have bank : (decoder.decodeBlock (decoder.decodeBlock radio block).1 block).1.bank =
      (decoder.decodeBlock radio block).1.bank := by
    apply RegisterBank.eq_of_get?
    intro register
    rw [get?_decodeBlock, get?_decodeBlock]
    rcases decoder.carried? register block with _ | value <;> rfl
  have converters : ∀ register ∈ (decoder.decodeBlock (decoder.decodeBlock radio block).1
      block).2.map RegisterChange.register, ∃ receiver, register = .rxAdc receiver := by
    intro register named
    rw [← List.count_pos_iff, count_registers, List.length_pos_iff, Ne,
      changesOf_decodeBlock_again] at named
    rcases Option.ne_none_iff_exists'.mp named with ⟨value, overridden⟩
    exact converter_of_overridden? overridden
  have gains : (decoder.decodeBlock (decoder.decodeBlock radio block).1 block).1.gains =
      (decoder.decodeBlock radio block).1.gains := by
    rw [decodeBlock_gains, recompute?_of_converters converters]
    rfl
  exact congrArg₂ Radio.mk bank gains

/-- What a block reports tells exactly how it changed the registers, unless a
wired converter passes through another value on the way.  The same block once
more leaves everything as it is, and reports nothing unless it says of a wired
converter what the wiring overrides.  Both happen on page 14 of a C25 board
only. -/
theorem reports_of_block (decoder : Decoder) (radio : Radio) (block : ControlBlock) :
    let first := decoder.decodeBlock radio block
    let second := decoder.decodeBlock first.1 block
    (radio.bank.Reports first.1.bank first.2 ↔
      ∀ register value, decoder.overridden? register block = some value →
        radio.bank.get? register = some value) ∧
    second.1 = first.1 ∧
    (second.2 = [] ↔ ∀ register, decoder.overridden? register block = none) ∧
    (decoder.profile ≠ .c25 ∨ block.page ≠ 14 →
      ∀ register, decoder.overridden? register block = none) := by
  refine ⟨decodeBlock_reports_iff decoder radio block, decodeBlock_again decoder radio block, ?_, ?_⟩
  · rw [eq_nil_iff_changesOf]
    exact forall_congr' (changesOf_decodeBlock_again decoder radio block)
  · intro elsewhere register
    have free : ¬ (block.page = 14 ∧ decoder.profile = .c25) :=
      fun board => elsewhere.elim (· board.2) (· board.1)
    have unwired : decoder.wired? register block = none := if_neg free
    rw [overridden?, unwired]
    rfl

/-- A second receiver that is said to be fed by another converter than the wired
one: its register ends as it was, and two changes are reported, every time. -/
theorem overridden_converter_reported_twice :
    let decoder := Decoder.ofProfile .c25
    let wired := (decoder.decodeBlock .initial ⟨0x1C, 0x14, 0, 0, 0⟩).1
    let first := decoder.decodeBlock wired ⟨0x1C, 0x1C, 0, 0, 0⟩
    let second := decoder.decodeBlock first.1 ⟨0x1C, 0x1C, 0, 0, 0⟩
    ¬ wired.bank.Reports first.1.bank first.2 ∧
      first.2 = [⟨.rxAdc 1, some 1, 3⟩, ⟨.rxAdc 1, some 3, 1⟩] ∧ second.2 = first.2 := by
  intro decoder wired first second
  have reported : first.2 = [⟨.rxAdc 1, some 1, 3⟩, ⟨.rxAdc 1, some 3, 1⟩] := by decide
  refine ⟨?_, reported, by decide⟩
  intro reports
  have once := reports.once
  rw [reported] at once
  contradiction

end Decoder
end VirtualRadio
