import Mathlib.Logic.Basic
import VirtualRadio.Proofs.Ring.Representation
import VirtualRadio.Station.Build

namespace VirtualRadio

/-!
# Stations that settings describe

The plan and the ring of a station are checked for nothing that valid settings were
not checked for, so no parameter of theirs is refused.

Nothing checks the product of the two sizes of the ring.  As long as it is below the
limit, the ring has a cell for every sample of its places, and no call ever uses
another cell.  From the limit on no station is built: who asks for one crashes.
-/

namespace Settings

/-- What valid settings were checked for. -/
theorem fault?_eq_none_iff {settings : Settings} :
    settings.fault? = none ↔
      settings.global.burstLength ≠ 0 ∧ ¬ settings.global.ringBursts < 2 ∧
        settings.network.pollTimeout ≠ 0 ∧ settings.sink.sampleRate ≠ 0 ∧
          emptyBand? settings.filters.bands = none := by
  simp [fault?, ite_eq_iff]

end Settings

namespace Ring

variable {bursts burstLength : UInt64}

/-- Sizes that are not refused make a ring of their product, or none at all. -/
theorem create_eq (enough : ¬ bursts < 2) (nonempty : burstLength ≠ 0) :
    create bursts burstLength =
      if cellLimit ≤ bursts.toNat * burstLength.toNat then .error .tooLarge
      else .ok (empty bursts.toNat burstLength.toNat) := by
  rw [create, if_neg enough, if_neg nonempty]

end Ring

/-- Valid settings describe a ring of the product of their sizes, or one that is too
large. -/
theorem StationPlan.ring_ofSettings {settings : Settings} (valid : settings.validate = .ok ()) :
    (StationPlan.ofSettings settings).ring =
      if Ring.cellLimit ≤ settings.global.ringBursts.toNat * settings.global.burstLength.toNat then
        .error .crashed
      else
        .ok (Ring.empty settings.global.ringBursts.toNat settings.global.burstLength.toNat) := by
  obtain ⟨nonempty, enough, waits, -, -⟩ :=
    Settings.fault?_eq_none_iff.mp (Settings.validate_eq_ok_iff.mp valid)
  have waiting : (ofSettings settings).pollTimeout ≠ 0 := by
    intro zero
    exact waits (UInt64.toNat_inj.mp zero)
  have told : (ofSettings settings).eventCapacity ≠ 0 := Nat.succ_ne_zero 255
  have made : Ring.create (ofSettings settings).ringBursts (ofSettings settings).burstLength = _ :=
    Ring.create_eq enough nonempty
  rw [ring, if_neg waiting, if_neg told, made]
  change Except.mapError _ (if Ring.cellLimit ≤
    settings.global.ringBursts.toNat * settings.global.burstLength.toNat then _ else _) = _
  split <;> rfl

namespace Station

/-- Valid settings are refused for no parameter.  If the product of the sizes of the
ring is below the limit, a station is built unless its sockets cannot be bound; its
ring has as many cells as the product says, and no call ever uses a cell beyond them.
Otherwise building the station crashes. -/
theorem valid_settings_build {settings : Settings} (valid : settings.validate = .ok ()) :
    let plan := StationPlan.ofSettings settings
    let cells := settings.global.ringBursts.toNat * settings.global.burstLength.toNat
    (cells < Ring.cellLimit →
      ∃ ring, plan.ring = .ok ring ∧
        (∀ {σ : Type} (maintenance : MaintenanceHandler) (sink : σ) (binding : Binding),
          build plan maintenance (some sink) binding =
            ((binding.bind plan.bind plan.port).mapError Failure.refused).map (fun port =>
              (initial plan maintenance ring sink, ⟨plan.bind, port⟩))) ∧
        ring.bursts = settings.global.ringBursts.toNat ∧
        ring.burstLength = settings.global.burstLength.toNat ∧
        ring.capacity = cells ∧
        ∀ calls call, ∀ cell ∈ (ring.after calls).usedCells call,
          cell < (ring.after calls).capacity) ∧
    (Ring.cellLimit ≤ cells →
      ∀ {σ : Type} (maintenance : MaintenanceHandler) (sink : σ) (binding : Binding),
        build plan maintenance (some sink) binding = .error .crashed) := by
  intro plan cells
  have made : plan.ring = _ := StationPlan.ring_ofSettings valid
  constructor
  · intro below
    rw [if_neg (Nat.not_le_of_lt below)] at made
    obtain ⟨nonempty, enough, -⟩ :=
      Settings.fault?_eq_none_iff.mp (Settings.validate_eq_ok_iff.mp valid)
    have two_le : 2 ≤ settings.global.ringBursts.toNat :=
      Nat.le_of_not_lt (fun fewer => enough (UInt64.lt_iff_toNat_lt.mpr fewer))
    have length_pos : 0 < settings.global.burstLength.toNat :=
      Nat.pos_of_ne_zero (fun zero => nonempty (UInt64.toNat_inj.mp zero))
    refine ⟨_, made, ?_, rfl, rfl, Array.size_replicate, ?_⟩
    · intro σ maintenance sink binding
      rw [build, made]
      cases binding.bind plan.bind plan.port <;> rfl
    · intro calls call
      exact ((Ring.fits_empty two_le length_pos).after calls).usedCells_lt call
  · intro above σ maintenance sink binding
    rw [if_pos above] at made
    rw [build, made]
    rfl

theorem valid_settings_build_standard :
    let cells := Settings.standard.global.ringBursts.toNat *
      Settings.standard.global.burstLength.toNat
    Settings.standard.validate = .ok () ∧ cells < Ring.cellLimit ∧
      ∃ ring, (StationPlan.ofSettings Settings.standard).ring = .ok ring ∧
        ring.capacity = 40000 ∧
        ∀ calls call, ∀ cell ∈ (ring.after calls).usedCells call,
          cell < (ring.after calls).capacity := by
  intro cells
  have valid : Settings.standard.validate = .ok () := rfl
  have below : cells < Ring.cellLimit := by decide
  obtain ⟨ring, made, -, -, -, capacity, inside⟩ := (valid_settings_build valid).1 below
  exact ⟨valid, below, ring, made, capacity, inside⟩

/-- Settings of a ring with a few samples more than a word of 64 bits counts. -/
def tooLarge : Settings :=
  { Settings.standard with
    global := { Settings.standard.global with
      burstLength := 6148914691236517206
      ringBursts := 3 } }

/-- They are valid, and still no station is built from them. -/
theorem overflowing_product_crashes :
    tooLarge.validate = .ok () ∧
      UInt64.size ≤ tooLarge.global.ringBursts.toNat * tooLarge.global.burstLength.toNat ∧
      ∀ binding, build (.ofSettings tooLarge) .ignore (some ()) binding = .error .crashed := by
  have valid : tooLarge.validate = .ok () := rfl
  have above : Ring.cellLimit ≤
      tooLarge.global.ringBursts.toNat * tooLarge.global.burstLength.toNat := by decide
  have made := StationPlan.ring_ofSettings valid
  rw [if_pos above] at made
  refine ⟨valid, by decide, fun binding => ?_⟩
  rw [build, made]
  rfl

end Station
end VirtualRadio
