import VirtualRadio.Proofs.Control.Ranges

namespace VirtualRadio

/-!
# Gains follow the registers

Factors are recomputed only now and then: when a block changes a register of
its own page.  The formulas read registers of other pages too, and page 10
leaves the factors of a C25 board alone.  Still no factor is ever stale.  After
any number of blocks each is what its formula gives for the registers as they
stand; only for the second receiver it matters which page was the last to set
its factor.

The conversion from decibels is any function that takes zero decibels to the
factor one.  Attenuations are whole decibels, and the sums of them are exact.
-/

namespace Gains

/-- The attenuation of the first receiver in whole decibels. -/
def wholeDecibels (profile : Profile) (bank : RegisterBank) : Int :=
  if profile = .c25 then
    12 * bank.getD .alexAttenuator 0 - 18 * bank.getD .dither 0 - 18 * bank.getD .preamp 0
  else
    10 * bank.getD .alexAttenuator 0 + bank.getD (.rxAttenuator 0) 0

/-- The second receiver's factor, when a block on the given page was the last
to set it. -/
def secondFactor (linear : Float → Float) (bank : RegisterBank) : Option Nat → Float
  | some 10 | some 11 => linear (Float.ofInt (bank.getD (.rxAttenuator 1) 0))
  | _ => 1.0

/-- The part of full scale at which the transmitter is driven. -/
def driveFactor (bank : RegisterBank) : Float :=
  match bank.get? .txDrive with
  | some level => Float.ofInt level / 256.0
  | none => 0.99

/-- The factors computed afresh from the registers. -/
def ofBank (linear : Float → Float) (profile : Profile) (bank : RegisterBank)
    (setBy : Option Nat) : Gains where
  txAttenuation := linear (Float.ofInt (bank.getD .txAttenuator 0))
  rxAttenuation := #v[linear (Float.ofInt (wholeDecibels profile bank)),
    secondFactor linear bank setBy, 1.0, 1.0]
  txDrive := driveFactor bank

/-- Whether a block on a page sets the second receiver's factor, if it makes
factors be recomputed. -/
def setsSecond (page : Nat) : Bool :=
  page = 0 || page = 10 || page = 11

/-! ## Exact sums -/

theorem ofInt_sum_c25 : ∀ alex : Fin 4, ∀ dither preamp : Fin 2,
    12.0 * Float.ofInt alex - 18.0 * Float.ofInt dither - 18.0 * Float.ofInt preamp =
      Float.ofInt (12 * alex - 18 * dither - 18 * preamp) := by
  decide +kernel

theorem ofInt_sum : ∀ alex : Fin 4, ∀ place : Fin 64,
    10.0 * Float.ofInt alex + Float.ofInt (place - 26) =
      Float.ofInt (10 * alex + (place - 26)) := by
  decide +kernel

/-- The sum of decibels is the same in floating point. -/
theorem firstReceiverDecibels_eq {bank : RegisterBank} (inRange : bank.InRange)
    (profile : Profile) :
    firstReceiverDecibels profile bank = Float.ofInt (wholeDecibels profile bank) := by
  have alex := inRange.getD .alexAttenuator 0 (by decide)
  have dither := inRange.getD .dither 0 (by decide)
  have preamp := inRange.getD .preamp 0 (by decide)
  have plain := inRange.getD (.rxAttenuator 0) 0 (by decide)
  change 0 ≤ _ ∧ _ ≤ 3 at alex
  change 0 ≤ _ ∧ _ ≤ 1 at dither preamp
  change -26 ≤ _ ∧ _ ≤ 37 at plain
  unfold firstReceiverDecibels wholeDecibels reading
  rcases Int.eq_ofNat_of_zero_le alex.1 with ⟨steps, same⟩
  rw [same] at alex ⊢
  split
  · rcases Int.eq_ofNat_of_zero_le dither.1 with ⟨dithers, sameDither⟩
    rcases Int.eq_ofNat_of_zero_le preamp.1 with ⟨amplifies, samePreamp⟩
    rw [sameDither] at dither ⊢
    rw [samePreamp] at preamp ⊢
    exact ofInt_sum_c25 ⟨steps, by omega⟩ ⟨dithers, by omega⟩ ⟨amplifies, by omega⟩
  · have shifted : 0 ≤ bank.getD (.rxAttenuator 0) 0 + 26 := by omega
    rcases Int.eq_ofNat_of_zero_le shifted with ⟨place, samePlace⟩
    have value : bank.getD (.rxAttenuator 0) 0 = place - 26 := by omega
    rw [value] at plain ⊢
    exact ofInt_sum ⟨steps, by omega⟩ ⟨place, by omega⟩

/-! ## One block -/

section Step

variable {linear : Float → Float} {profile : Profile} {page : Nat} {changed : List Register}
  {bank after : RegisterBank} {setBy : Option Nat}

theorem touches_eq_false_iff {registers : List Register} :
    touches changed registers = false ↔ ∀ register ∈ registers, register ∉ changed := by
  simp only [touches, List.any_eq_false, List.contains_eq_mem, decide_eq_true_eq]
  constructor
  · intro apart register listed named
    exact apart register named listed
  · intro apart register named listed
    exact apart register listed named

/-- Registers of other pages are left as they were. -/
theorem kept_of_page (known : Decoder.ChangedBy page changed bank after) (register : Register)
    {home : Nat} (paged : register.page? = some home) (elsewhere : home ≠ page) :
    after.get? register = bank.get? register := by
  apply known.kept
  intro named
  rcases known.paged register named with rfl | here
  · contradiction
  · rw [paged] at here
    exact elsewhere (Option.some.inj here)

theorem getD_congr (same : after.get? register = bank.get? register) (fallback : Int) :
    after.getD register fallback = bank.getD register fallback := by
  rw [RegisterBank.getD, RegisterBank.getD, same]

theorem wholeDecibels_congr
    (general : ∀ register ∈ [Register.alexAttenuator, .dither, .preamp],
      after.get? register = bank.get? register)
    (plain : profile ≠ .c25 → after.get? (.rxAttenuator 0) = bank.get? (.rxAttenuator 0)) :
    wholeDecibels profile after = wholeDecibels profile bank := by
  simp only [List.forall_mem_cons, List.not_mem_nil, false_imp_iff, implies_true, and_true]
    at general
  unfold wholeDecibels
  split
  · rw [getD_congr general.1, getD_congr general.2.1, getD_congr general.2.2]
  · next other => rw [getD_congr general.1, getD_congr (plain other)]

theorem secondFactor_congr
    (same : after.get? (.rxAttenuator 1) = bank.get? (.rxAttenuator 1)) :
    secondFactor linear after setBy = secondFactor linear bank setBy := by
  unfold secondFactor
  rw [getD_congr same]

/-- Where the drive was just written, it is a part of full scale. -/
theorem driveFactor_eq (known : Decoder.ChangedBy page changed bank after)
    (touched : touches changed [.txDrive] = true) :
    driveFactor after = reading after .txDrive / 256.0 := by
  have named : Register.txDrive ∈ changed := by
    by_contra unnamed
    rw [touches_eq_false_iff.mpr (by simpa using unnamed)] at touched
    contradiction
  rcases Option.isSome_iff_exists.mp (known.written .txDrive named) with ⟨level, written⟩
  rw [driveFactor, reading, RegisterBank.getD, written]
  rfl

theorem driveFactor_congr (same : after.get? .txDrive = bank.get? .txDrive) :
    driveFactor after = driveFactor bank := by
  rw [driveFactor, driveFactor, same]

theorem ofBank_congr (attenuator : after.get? .txAttenuator = bank.get? .txAttenuator)
    (drive : after.get? .txDrive = bank.get? .txDrive)
    (first : wholeDecibels profile after = wholeDecibels profile bank)
    (second : after.get? (.rxAttenuator 1) = bank.get? (.rxAttenuator 1)) :
    ofBank linear profile bank setBy = ofBank linear profile after setBy := by
  rw [ofBank, ofBank, getD_congr attenuator, first, secondFactor_congr second,
    driveFactor_congr drive]

/-- What a block leaves as it was, by the page that it does not address. -/
structure KeptByPage (profile : Profile) (page : Nat) (bank after : RegisterBank) : Prop where
  attenuator : 14 ≠ page → after.get? .txAttenuator = bank.get? .txAttenuator
  drive : 9 ≠ page → after.get? .txDrive = bank.get? .txDrive
  second : 11 ≠ page → after.get? (.rxAttenuator 1) = bank.get? (.rxAttenuator 1)
  plain : 10 ≠ page → after.get? (.rxAttenuator 0) = bank.get? (.rxAttenuator 0)
  general : 0 ≠ page → ∀ register ∈ [Register.alexAttenuator, .dither, .preamp],
    after.get? register = bank.get? register
  first : 0 ≠ page → 10 ≠ page → wholeDecibels profile after = wholeDecibels profile bank

theorem keptByPage (known : Decoder.ChangedBy page changed bank after) (profile : Profile) :
    KeptByPage profile page bank after := by
  have plain : 10 ≠ page → _ := kept_of_page known (.rxAttenuator 0) rfl
  have general : 0 ≠ page → ∀ register ∈ [Register.alexAttenuator, .dither, .preamp],
      after.get? register = bank.get? register := by
    intro elsewhere register listed
    exact kept_of_page known register (by revert register; decide) elsewhere
  refine ⟨kept_of_page known .txAttenuator rfl, kept_of_page known .txDrive rfl,
    kept_of_page known (.rxAttenuator 1) rfl, plain, general, ?_⟩
  intro zero ten
  exact wholeDecibels_congr (general zero) (fun _ => plain ten)

/-- Where nothing is recomputed, no formula reads anything new. -/
theorem ofBank_eq_of_none (known : Decoder.ChangedBy page changed bank after)
    (untouched : recompute? linear profile page changed after
      (ofBank linear profile bank setBy) = none) :
    ofBank linear profile bank setBy = ofBank linear profile after setBy := by
  have kept := keptByPage known profile
  have unread : ∀ {registers : List Register}, ¬ touches changed registers = true →
      ∀ register ∈ registers, after.get? register = bank.get? register := by
    intro registers apart register listed
    rw [Bool.not_eq_true, touches_eq_false_iff] at apart
    exact known.kept register (apart register listed)
  unfold recompute? at untouched
  split at untouched
  · split at untouched
    · contradiction
    · next apart =>
        apply ofBank_congr (kept.attenuator (by decide)) (kept.drive (by decide)) ?_
          (kept.second (by decide))
        apply wholeDecibels_congr
        · intro register listed
          exact unread apart register (by revert register; decide)
        · exact fun _ => kept.plain (by decide)
  · split at untouched
    · contradiction
    · next apart =>
        exact ofBank_congr (kept.attenuator (by decide)) (unread apart .txDrive (by decide))
          (kept.first (by decide) (by decide)) (kept.second (by decide))
  · split at untouched
    · contradiction
    · next apart =>
        apply ofBank_congr (kept.attenuator (by decide)) (kept.drive (by decide)) ?_
          (kept.second (by decide))
        -- A C25 board does not read the attenuator of page 10.
        apply wholeDecibels_congr (kept.general (by decide))
        intro other
        exact unread (not_and.mp apart other) (.rxAttenuator 0) (by decide)
  · split at untouched
    · contradiction
    · next apart =>
        exact ofBank_congr (kept.attenuator (by decide)) (kept.drive (by decide))
          (kept.first (by decide) (by decide)) (unread apart (.rxAttenuator 1) (by decide))
  · split at untouched
    · contradiction
    · next apart =>
        exact ofBank_congr (unread apart .txAttenuator (by decide)) (kept.drive (by decide))
          (kept.first (by decide) (by decide)) (kept.second (by decide))
  · next zero nine ten eleven fourteen =>
      exact ofBank_congr (kept.attenuator (Ne.symm fourteen)) (kept.drive (Ne.symm nine))
        (kept.first (Ne.symm zero) (Ne.symm ten)) (kept.second (Ne.symm eleven))

/-- What is recomputed comes from the registers as they are now, and the rest of
the factors reads nothing new. -/
theorem eq_ofBank_of_some {gains : Gains} (known : Decoder.ChangedBy page changed bank after)
    (inRange : after.InRange)
    (recomputed : recompute? linear profile page changed after
      (ofBank linear profile bank setBy) = some gains) :
    gains = ofBank linear profile after (if setsSecond page then some page else setBy) := by
  have kept := keptByPage known profile
  unfold recompute? at recomputed
  rw [firstReceiverDecibels_eq inRange profile] at recomputed
  split at recomputed
  · split at recomputed
    · cases recomputed
      change _ = ofBank linear profile after (some 0)
      rw [ofBank, ofBank, getD_congr (kept.attenuator (by decide)),
        driveFactor_congr (kept.drive (by decide))]
      rfl
    · contradiction
  · split at recomputed
    · next touched =>
        cases recomputed
        change _ = ofBank linear profile after setBy
        rw [← driveFactor_eq known touched, ofBank, ofBank,
          getD_congr (kept.attenuator (by decide)), kept.first (by decide) (by decide),
          secondFactor_congr (kept.second (by decide))]
    · contradiction
  · split at recomputed
    · cases recomputed
      change _ = ofBank linear profile after (some 10)
      rw [ofBank, ofBank, getD_congr (kept.attenuator (by decide)),
        driveFactor_congr (kept.drive (by decide))]
      rfl
    · contradiction
  · split at recomputed
    · cases recomputed
      change _ = ofBank linear profile after (some 11)
      rw [ofBank, ofBank, getD_congr (kept.attenuator (by decide)),
        kept.first (by decide) (by decide), driveFactor_congr (kept.drive (by decide))]
      rfl
    · contradiction
  · split at recomputed
    · cases recomputed
      change _ = ofBank linear profile after setBy
      rw [ofBank, ofBank, kept.first (by decide) (by decide),
        driveFactor_congr (kept.drive (by decide)), secondFactor_congr (kept.second (by decide))]
      rfl
    · contradiction
  · contradiction

end Step

end Gains

namespace Decoder

theorem decodeBlock_gains (decoder : Decoder) (radio : Radio) (block : ControlBlock) :
    (decoder.decodeBlock radio block).1.gains =
      (Gains.recompute? decoder.linear decoder.profile block.page
        ((decoder.decodeBlock radio block).2.map RegisterChange.register)
        (decoder.decodeBlock radio block).1.bank radio.gains).getD radio.gains :=
  rfl

/-- Whether a block makes factors be recomputed. -/
def recomputes (decoder : Decoder) (radio : Radio) (block : ControlBlock) : Bool :=
  (Gains.recompute? decoder.linear decoder.profile block.page
    ((decoder.decodeBlock radio block).2.map RegisterChange.register)
    (decoder.decodeBlock radio block).1.bank radio.gains).isSome

/-- The pages of the blocks that made factors be recomputed, in order. -/
def recomputedPages (decoder : Decoder) (radio : Radio) : List ControlBlock → List Nat
  | [] => []
  | block :: blocks =>
    (if decoder.recomputes radio block then [block.page] else [])
      ++ decoder.recomputedPages (decoder.decodeBlock radio block).1 blocks

/-- The page of the last recomputation that set the second receiver's factor. -/
def secondSetBy? (decoder : Decoder) (radio : Radio) (blocks : List ControlBlock) : Option Nat :=
  ((decoder.recomputedPages radio blocks).filter Gains.setsSecond).getLast?

theorem secondSetBy?_cons (decoder : Decoder) (radio : Radio) (block : ControlBlock)
    (blocks : List ControlBlock) : decoder.secondSetBy? radio (block :: blocks) =
      (decoder.secondSetBy? (decoder.decodeBlock radio block).1 blocks).or
        (if decoder.recomputes radio block && Gains.setsSecond block.page then some block.page
          else none) := by
  unfold secondSetBy?
  rw [recomputedPages, List.filter_append, List.getLast?_append]
  congr 1
  cases decoder.recomputes radio block with
  | false => rfl
  | true => cases sets : Gains.setsSecond block.page <;> simp [sets]

/-- The invariant of decoding: values are in range and no factor is stale. -/
structure UpToDate (decoder : Decoder) (radio : Radio) (setBy : Option Nat) : Prop where
  inRange : radio.bank.InRange
  gains : radio.gains = Gains.ofBank decoder.linear decoder.profile radio.bank setBy

theorem upToDate_initial {decoder : Decoder} (zero : decoder.linear 0.0 = 1.0) :
    decoder.UpToDate .initial none := by
  refine ⟨RegisterBank.inRange_empty, ?_⟩
  have unwritten : ∀ register, RegisterBank.empty.getD register 0 = 0 := by
    intro register
    rw [RegisterBank.getD, RegisterBank.get?_empty]
    rfl
  have silent : Gains.wholeDecibels decoder.profile .empty = 0 := by
    unfold Gains.wholeDecibels
    simp only [unwritten]
    split <;> rfl
  have unset : Gains.driveFactor .empty = 0.99 := by
    rw [Gains.driveFactor, RegisterBank.get?_empty]
  change Gains.initial = Gains.ofBank decoder.linear decoder.profile .empty none
  rw [Gains.ofBank, unwritten, silent, unset]
  change Gains.initial = ⟨decoder.linear 0.0, #v[decoder.linear 0.0, 1.0, 1.0, 1.0], 0.99⟩
  rw [zero]
  rfl

theorem UpToDate.decodeBlock {decoder : Decoder} {radio : Radio} {setBy : Option Nat}
    (upToDate : decoder.UpToDate radio setBy) (block : ControlBlock) :
    decoder.UpToDate (decoder.decodeBlock radio block).1
      (if decoder.recomputes radio block && Gains.setsSecond block.page then some block.page
        else setBy) := by
  have inRange := decoder.inRange_decodeBlock block upToDate.inRange
  have known := decoder.changedBy radio block
  refine ⟨inRange, ?_⟩
  rw [decodeBlock_gains, recomputes, upToDate.gains]
  cases recomputed : Gains.recompute? decoder.linear decoder.profile block.page
      ((decoder.decodeBlock radio block).2.map RegisterChange.register)
      (decoder.decodeBlock radio block).1.bank
      (Gains.ofBank decoder.linear decoder.profile radio.bank setBy) with
  | none => exact Gains.ofBank_eq_of_none known recomputed
  | some gains => exact Gains.eq_ofBank_of_some known inRange recomputed

theorem UpToDate.decodeBlocks {decoder : Decoder} {radio : Radio} {setBy : Option Nat}
    (upToDate : decoder.UpToDate radio setBy) (blocks : List ControlBlock) :
    decoder.UpToDate (decoder.decodeBlocks radio blocks)
      ((decoder.secondSetBy? radio blocks).or setBy) := by
  induction blocks generalizing radio setBy with
  | nil => exact upToDate
  | cons block blocks ih =>
      have later := ih (upToDate.decodeBlock block)
      rw [secondSetBy?_cons, Option.or_assoc]
      have now : (if decoder.recomputes radio block && Gains.setsSecond block.page then
            some block.page else none).or setBy =
          if decoder.recomputes radio block && Gains.setsSecond block.page then some block.page
            else setBy := by
        split <;> rfl
      rw [now]
      exact later

/-- After any number of blocks, every factor is what its formula gives for the
registers as they stand: none is stale. -/
theorem gains_of_registers (decoder : Decoder) (zero : decoder.linear 0.0 = 1.0)
    (blocks : List ControlBlock) :
    (decoder.decodeBlocks .initial blocks).gains =
      Gains.ofBank decoder.linear decoder.profile
        (decoder.decodeBlocks .initial blocks).bank (decoder.secondSetBy? .initial blocks) := by
  have upToDate := (upToDate_initial zero).decodeBlocks blocks
  rw [Option.or_none] at upToDate
  exact upToDate.gains

/-- Attenuators on three pages, and a block on page 0 that changes none of them:
the second receiver's factor is still the one that page 10 set. -/
theorem gains_of_four_pages :
    let decoder : Decoder := ⟨.hermes, fun decibels =>
      if decibels.toBits = 0 then 1.0 else Decibel.linear decibels⟩
    let blocks : List ControlBlock := [⟨0x00, 0, 0, 0x02, 0⟩, ⟨0x16, 7, 0, 0, 0⟩,
      ⟨0x14, 0, 0, 0, 0x05⟩, ⟨0x00, 0x01, 0, 0x02, 0⟩]
    decoder.linear 0.0 = 1.0 ∧
    decoder.secondSetBy? .initial blocks = some 10 ∧
    (decoder.decodeBlocks .initial blocks).gains =
      ⟨1.0, #v[decoder.linear (Float.ofInt 25), decoder.linear (Float.ofInt 7), 1.0, 1.0],
        0.99⟩ := by
  intro decoder blocks
  have zero : decoder.linear 0.0 = 1.0 := by decide
  have setBy : decoder.secondSetBy? .initial blocks = some 10 := by decide
  refine ⟨zero, setBy, ?_⟩
  rw [gains_of_registers decoder zero blocks, setBy]
  have attenuator : (decoder.decodeBlocks .initial blocks).bank.getD .txAttenuator 0 = 0 := by
    decide
  have first : Gains.wholeDecibels decoder.profile
      (decoder.decodeBlocks .initial blocks).bank = 25 := by decide
  have second : (decoder.decodeBlocks .initial blocks).bank.getD (.rxAttenuator 1) 0 = 7 := by
    decide
  have drive : (decoder.decodeBlocks .initial blocks).bank.get? .txDrive = none := by decide
  generalize (decoder.decodeBlocks .initial blocks).bank = bank at attenuator first second drive ⊢
  have unit : decoder.linear (Float.ofInt 0) = 1.0 := zero
  rw [Gains.ofBank, Gains.secondFactor, Gains.driveFactor, attenuator, first, second, drive, unit]

end Decoder
end VirtualRadio
