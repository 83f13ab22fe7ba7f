import VirtualRadio.Proofs.Control.Pages
import VirtualRadio.Proofs.Control.Writes

namespace VirtualRadio

/-!
# The last block decides

What a register holds after any number of control blocks depends on one of them
alone: the last one that carries it.  The order of all others, and what they
carry, does not matter.  On a C25 board a block on page 14 counts as carrying
the wired converters instead of its own.
-/

/-- The two control blocks of a frame. -/
def ControlFrame.blockList (frame : List UInt8) : List ControlBlock :=
  [blockAt frame 11, blockAt frame 523]

namespace Decoder

/-- Decode blocks one after the other. -/
def decodeBlocks (decoder : Decoder) (radio : Radio) (blocks : List ControlBlock) : Radio :=
  blocks.foldl (fun radio block => (decoder.decodeBlock radio block).1) radio

/-- Decode frames one after the other. -/
def decodeFrames (decoder : Decoder) (radio : Radio) (frames : List (List UInt8)) :
    Except PacketFault Radio :=
  frames.foldlM (fun radio frame => (decoder.decodeFrame radio frame).map Prod.fst) radio

/-- The converter that a C25 board wires to a receiver. -/
def wired? (decoder : Decoder) (register : Register) (block : ControlBlock) : Option Int :=
  if block.page = 14 ∧ decoder.profile = .c25 then
    match register with
    | .rxAdc 0 => some 0
    | .rxAdc 1 => some 1
    | .rxAdc 2 => some 1
    | _ => none
  else
    none

/-- The value that a block gives to a register, if it carries the register. -/
def carried? (decoder : Decoder) (register : Register) (block : ControlBlock) : Option Int :=
  (decoder.wired? register block).or
    (((Layout.blockFields block).find? (fun field => field.register = register)).map
      (fun field => field.value block))

/-- The value that the last block which carries a register gives to it. -/
def lastCarried? (decoder : Decoder) (register : Register) (blocks : List ControlBlock) :
    Option Int :=
  blocks.reverse.findSome? (decoder.carried? register)

variable {decoder : Decoder} {register : Register} {block : ControlBlock}

theorem lastWritten?_fields (fields : List Field)
    (once : (fields.map Field.register).Nodup) (register : Register) (block : ControlBlock) :
    lastWritten? register (fields.map (fun field => (field.register, field.value block))) =
      (fields.find? (fun field => field.register = register)).map
        (fun field => field.value block) := by
  induction fields with
  | nil => rfl
  | cons field fields ih =>
      rw [List.map_cons, List.nodup_cons] at once
      rw [List.map_cons, lastWritten?, List.find?_cons]
      by_cases same : field.register = register
      · have later : register ∉ (fields.map (fun other =>
            (other.register, other.value block))).map Prod.fst := by
          rw [List.map_map, ← same]
          exact once.1
        rw [lastWritten?_eq_none_iff.mpr later]
        simp [same]
      · rw [ih once.2]
        simp [same]

/-- A block writes each register that it carries, and ends with the value it
gives to it. -/
theorem lastWritten?_writes (decoder : Decoder) (register : Register) (block : ControlBlock) :
    lastWritten? register (decoder.writes block) = decoder.carried? register block := by
  rw [writes, lastWritten?_append, carried?,
    lastWritten?_fields _ (Layout.nodup_blockRegisters block)]
  congr 1
  unfold wired?
  split
  · split
    · rfl
    · rfl
    · rfl
    · next zero one two =>
        have apart : register ∉ [Register.rxAdc 0, .rxAdc 1, .rxAdc 2] := by
          simpa using ⟨zero, one, two⟩
        exact lastWritten?_eq_none_iff.mpr apart
  · rfl

/-- The wiring concerns converters, and only on the page that carries them. -/
theorem mem_of_wired?_eq_some {value : Int}
    (wired : decoder.wired? register block = some value) :
    register ∈ Layout.blockRegisters block := by
  unfold wired? at wired
  split at wired
  · next board =>
      rw [Layout.mem_blockRegisters_iff, board.1]
      split at wired
      · exact .inr ⟨rfl, nofun⟩
      · exact .inr ⟨rfl, nofun⟩
      · exact .inr ⟨rfl, nofun⟩
      · contradiction
  · contradiction

theorem isSome_carried?_iff :
    (decoder.carried? register block).isSome ↔ register ∈ Layout.blockRegisters block := by
  rw [carried?, Option.isSome_or, Bool.or_eq_true, Option.isSome_map, List.find?_isSome]
  constructor
  · rintro (wired | ⟨field, member, same⟩)
    · rcases Option.isSome_iff_exists.mp wired with ⟨value, wired⟩
      exact mem_of_wired?_eq_some wired
    · exact List.mem_map.mpr ⟨field, member, of_decide_eq_true same⟩
  · intro carried
    rcases List.mem_map.mp carried with ⟨field, member, same⟩
    exact .inr ⟨field, member, decide_eq_true same⟩

theorem get?_decodeBlock (decoder : Decoder) (radio : Radio) (block : ControlBlock)
    (register : Register) : (decoder.decodeBlock radio block).1.bank.get? register =
      (decoder.carried? register block).or (radio.bank.get? register) := by
  rcases owns : register.slot? with _ | slot
  · have uncarried : decoder.carried? register block = none := by
      rw [← Option.not_isSome_iff_eq_none, isSome_carried?_iff]
      intro carried
      have stored := Layout.isSome_slot?_of_mem carried
      rw [owns] at stored
      contradiction
    rw [uncarried, RegisterBank.get?_of_slotless _ owns, RegisterBank.get?_of_slotless _ owns]
    rfl
  · have stored : register.slot?.isSome = true := by rw [owns]; rfl
    rw [← lastWritten?_writes]
    exact get?_writeAll stored radio.bank (decoder.writes block)

/-- What is known of the registers that a block on a page has changed. -/
structure ChangedBy (page : Nat) (changed : List Register) (before after : RegisterBank) :
    Prop where
  kept : ∀ register, register ∉ changed → after.get? register = before.get? register
  paged : ∀ register ∈ changed, register = .ptt ∨ register.page? = some page
  written : ∀ register ∈ changed, (after.get? register).isSome = true

theorem changedBy (decoder : Decoder) (radio : Radio) (block : ControlBlock) :
    ChangedBy block.page ((decoder.decodeBlock radio block).2.map RegisterChange.register)
      radio.bank (decoder.decodeBlock radio block).1.bank := by
  have carries : ∀ register ∈ (decoder.decodeBlock radio block).2.map RegisterChange.register,
      (decoder.carried? register block).isSome = true := by
    intro register changed
    rcases List.mem_map.mp changed with ⟨change, reported, rfl⟩
    have written : change.register ∈ (decoder.writes block).map Prod.fst :=
      mem_of_writeAll reported
    rw [← lastWritten?_writes, Option.isSome_iff_ne_none, Ne, lastWritten?_eq_none_iff, not_not]
    exact written
  constructor
  · intro register unnamed
    have recorded := writeAll_recorded radio.bank (decoder.writes block)
    exact Notebook.eq_of_replay? recorded.replayed unnamed
  · intro register changed
    rcases Layout.mem_blockRegisters_iff.mp (isSome_carried?_iff.mp (carries register changed)) with
      keying | paged
    · exact .inl keying
    · exact .inr paged.1
  · intro register changed
    rw [get?_decodeBlock, Option.isSome_or, carries register changed, Bool.true_or]

theorem get?_decodeBlocks (decoder : Decoder) (radio : Radio) (blocks : List ControlBlock)
    (register : Register) : (decoder.decodeBlocks radio blocks).bank.get? register =
      (decoder.lastCarried? register blocks).or (radio.bank.get? register) := by
  induction blocks generalizing radio with
  | nil => rfl
  | cons block blocks ih =>
      have first : [block].findSome? (decoder.carried? register) =
          decoder.carried? register block := by
        cases carried : decoder.carried? register block <;> simp [carried]
      rw [decodeBlocks, List.foldl_cons, ← decodeBlocks, ih, get?_decodeBlock, ← Option.or_assoc,
        lastCarried?, lastCarried?, List.reverse_cons, List.findSome?_append, first]

theorem lastCarried?_ptt (decoder : Decoder) (blocks : List ControlBlock) :
    decoder.lastCarried? .ptt blocks =
      blocks.getLast?.map (fun block => ((block.c0 &&& 0x01).toNat : Int)) := by
  have keyed : ∀ block, decoder.carried? .ptt block = some ((block.c0 &&& 0x01).toNat : Int) := by
    intro block
    have free : decoder.wired? .ptt block = none := by
      unfold wired?
      split <;> rfl
    have first : (Layout.blockFields block).find? (fun field => field.register = .ptt) =
        some Layout.keying := rfl
    have value : Layout.keying.value block = ((block.c0 &&& 0x01).toNat : Int) := Int.add_zero _
    rw [carried?, free, first, Option.none_or, Option.map_some, value]
  rw [lastCarried?, ← List.head?_reverse]
  rcases blocks.reverse with _ | ⟨block, earlier⟩
  · rfl
  · rw [List.findSome?_cons, keyed]
    rfl

/-! ## Frames -/

theorem decodeBlocks_append (decoder : Decoder) (radio : Radio)
    (blocks later : List ControlBlock) : decoder.decodeBlocks radio (blocks ++ later) =
      decoder.decodeBlocks (decoder.decodeBlocks radio blocks) later :=
  List.foldl_append

theorem decodeFrame_of_length (decoder : Decoder) (radio : Radio) {frame : List UInt8}
    (whole : frame.length = Packet.frameLength) :
    (decoder.decodeFrame radio frame).map Prod.fst =
      .ok (decoder.decodeBlocks radio (ControlFrame.blockList frame)) := by
  rw [decodeFrame_eq_ok decoder radio whole]
  rfl

theorem decodeFrames_of_length (decoder : Decoder) (radio : Radio) {frames : List (List UInt8)}
    (whole : ∀ frame ∈ frames, frame.length = Packet.frameLength) :
    decoder.decodeFrames radio frames =
      .ok (decoder.decodeBlocks radio (frames.flatMap ControlFrame.blockList)) := by
  induction frames generalizing radio with
  | nil => rfl
  | cons frame frames ih =>
      rw [List.forall_mem_cons] at whole
      rw [List.flatMap_cons, decodeFrames, List.foldlM_cons,
        decodeFrame_of_length decoder radio whole.1]
      rw [decodeBlocks_append]
      exact ih _ whole.2

/-- What a register holds is the value of the last block that carries it, or
nothing if none does; so it is for blocks, and for the blocks of frames.  The
keying bit is on every block, any other register on the blocks of its page, and
on a C25 board the first three converters are wired. -/
theorem register_of_last_block (decoder : Decoder) (register : Register) :
    (∀ blocks, (decoder.decodeBlocks .initial blocks).bank.get? register =
      decoder.lastCarried? register blocks) ∧
    (∀ frames, (∀ frame ∈ frames, frame.length = Packet.frameLength) →
      ∃ radio, decoder.decodeFrames .initial frames = .ok radio ∧
        radio.bank.get? register =
          decoder.lastCarried? register (frames.flatMap ControlFrame.blockList)) ∧
    (∀ block, (decoder.carried? register block).isSome ↔
      register = .ptt ∨ (register.page? = some block.page ∧
        (register = .rx1AttEnable → Layout.hasCombinedGain block = false))) ∧
    (∀ blocks, decoder.lastCarried? .ptt blocks =
      blocks.getLast?.map (fun block => ((block.c0 &&& 0x01).toNat : Int))) ∧
    (∀ block, decoder.profile = .c25 → block.page = 14 →
      decoder.carried? (.rxAdc 0) block = some 0 ∧
      decoder.carried? (.rxAdc 1) block = some 1 ∧
      decoder.carried? (.rxAdc 2) block = some 1) := by
  have last : ∀ blocks, (decoder.decodeBlocks .initial blocks).bank.get? register =
      decoder.lastCarried? register blocks := by
    intro blocks
    rw [get?_decodeBlocks]
    change (decoder.lastCarried? register blocks).or (RegisterBank.empty.get? register) = _
    rw [RegisterBank.get?_empty, Option.or_none]
  refine ⟨last, ?_, ?_, decoder.lastCarried?_ptt, ?_⟩
  · intro frames whole
    exact ⟨_, decodeFrames_of_length decoder .initial whole, last _⟩
  · intro block
    rw [isSome_carried?_iff, Layout.mem_blockRegisters_iff]
  · intro block board converters
    simp [carried?, wired?, board, converters]

/-- A combined gain, then a block of another page: the gain stays, and the
enabling of the attenuator was not carried. -/
example :
    let radio := (Decoder.ofProfile .c25).decodeBlocks .initial
      [⟨0x14, 0, 0, 0, 0x45⟩, ⟨0x1D, 0xFF, 0, 0x1F, 0⟩]
    [Register.rxAttenuator 0, .rx1AttEnable, .rxAdc 0, .rxAdc 1, .rxAdc 3, .ptt].map
      radio.bank.get? = [some 32, none, some 0, some 1, some 3, some 1] := by
  decide

end Decoder
end VirtualRadio
