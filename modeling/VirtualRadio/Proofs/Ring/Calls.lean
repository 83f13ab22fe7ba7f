import Mathlib.Data.List.Basic
import VirtualRadio.Ring

namespace VirtualRadio

/-!
# Calls of a ring

A ring is used through two calls: samples are appended, and a burst is taken.
This module runs lists of calls and says, field by field, what one pushed
sample and one read do.  Later modules argue from these equations and open no
definition of the ring again.
-/

/-- A call of a ring. -/
inductive RingCall where
  | write (samples : List Sample)
  | read
  deriving DecidableEq, Repr

/-- The samples that a call appends. -/
def RingCall.samples : RingCall → List Sample
  | write samples => samples
  | read => []

namespace Ring

/-- Make one call, and let go of the burst that it may take. -/
def perform (ring : Ring) : RingCall → Ring
  | .write samples => ring.write samples
  | .read => ring.read.2

/-- Make calls one after the other. -/
def after (ring : Ring) (calls : List RingCall) : Ring :=
  calls.foldl perform ring

/-- The bursts that the reads among some calls take, in order. -/
def taken (ring : Ring) : List RingCall → List (List Sample)
  | [] => []
  | .write samples :: calls => (ring.write samples).taken calls
  | .read :: calls => ring.read.1 :: ring.read.2.taken calls

theorem write_append (ring : Ring) (first second : List Sample) :
    ring.write (first ++ second) = (ring.write first).write second :=
  List.foldl_append

/-! ## One pushed sample -/

/-- Where the sample after the next one goes. -/
def nextPosition (ring : Ring) : Nat :=
  if ring.writePosition + 1 ≥ ring.cells.size then 0 else ring.writePosition + 1

/-- Whether the next sample completes a burst. -/
def Completes (ring : Ring) : Prop :=
  ring.nextPosition % ring.burstLength = 0

/-- Whether the next sample completes a burst for which there is no place. -/
def Laps (ring : Ring) : Prop :=
  ring.Completes ∧ ring.bursts < ring.completed + 1 - ring.consumed

instance (ring : Ring) : Decidable ring.Completes :=
  inferInstanceAs (Decidable (ring.nextPosition % ring.burstLength = 0))

instance (ring : Ring) : Decidable ring.Laps :=
  inferInstanceAs (Decidable (_ ∧ _))

variable (ring : Ring) (sample : Sample)

private theorem push_eq : ring.push sample =
    { ring with
      cells := ring.cells.setIfInBounds ring.writePosition sample
      writePosition := ring.nextPosition
      completed := if ring.Completes then ring.completed + 1 else ring.completed
      consumed := if ring.Laps then ring.completed + 1 - ring.bursts else ring.consumed
      overruns := if ring.Laps then ring.overruns + 1 else ring.overruns
      readBurst := if ring.Laps then ring.nextPosition / ring.burstLength else ring.readBurst } := by
  simp only [push, completeBurst, Laps, Completes, nextPosition]
  by_cases completes : (if ring.writePosition + 1 ≥ ring.cells.size then 0
      else ring.writePosition + 1) % ring.burstLength = 0
  · by_cases lapped : ring.bursts < ring.completed + 1 - ring.consumed
    · simp [completes, lapped]
    · simp [completes, lapped]
  · simp [completes]

@[simp] theorem push_bursts : (ring.push sample).bursts = ring.bursts := by
  rw [push_eq]

@[simp] theorem push_burstLength : (ring.push sample).burstLength = ring.burstLength := by
  rw [push_eq]

@[simp] theorem push_underruns : (ring.push sample).underruns = ring.underruns := by
  rw [push_eq]

@[simp] theorem push_cells :
    (ring.push sample).cells = ring.cells.setIfInBounds ring.writePosition sample := by
  rw [push_eq]

@[simp] theorem push_writePosition : (ring.push sample).writePosition = ring.nextPosition := by
  rw [push_eq]

@[simp] theorem push_completed : (ring.push sample).completed =
    if ring.Completes then ring.completed + 1 else ring.completed := by
  rw [push_eq]

@[simp] theorem push_consumed : (ring.push sample).consumed =
    if ring.Laps then ring.completed + 1 - ring.bursts else ring.consumed := by
  rw [push_eq]

@[simp] theorem push_overruns : (ring.push sample).overruns =
    if ring.Laps then ring.overruns + 1 else ring.overruns := by
  rw [push_eq]

@[simp] theorem push_readBurst : (ring.push sample).readBurst =
    if ring.Laps then ring.nextPosition / ring.burstLength else ring.readBurst := by
  rw [push_eq]

/-! ## One read -/

@[simp] theorem size_silenceCells (cells : Array Sample) (start count : Nat) :
    (silenceCells cells start count).size = cells.size := by
  induction count generalizing cells start with
  | zero => rfl
  | succ count ih => rw [silenceCells, ih, Array.size_setIfInBounds]

/-- Silencing a run of cells changes the cells of that run and no others. -/
theorem getElem?_silenceCells (cells : Array Sample) (start count cell : Nat)
    (inside : cell < cells.size) :
    (silenceCells cells start count)[cell]? =
      if start ≤ cell ∧ cell < start + count then some .silence else cells[cell]? := by
  induction count generalizing cells start with
  | zero =>
      have outside : ¬ (start ≤ cell ∧ cell < start + 0) := by omega
      rw [silenceCells, if_neg outside]
  | succ count ih =>
      rw [silenceCells, ih _ _ (by rwa [Array.size_setIfInBounds]),
        Array.getElem?_setIfInBounds]
      by_cases first : start = cell
      · subst first
        simp [inside]
      · have shifted : (start + 1 ≤ cell ∧ cell < start + 1 + count) ↔
            (start ≤ cell ∧ cell < start + (count + 1)) := by omega
        simp only [if_neg first, shifted]

/-- The cell at which the next read begins. -/
def readStart : Nat :=
  ring.readBurst * ring.burstLength

@[simp] theorem read_burstLength : ring.read.2.burstLength = ring.burstLength := rfl

@[simp] theorem read_completed : ring.read.2.completed = ring.completed := rfl

@[simp] theorem read_overruns : ring.read.2.overruns = ring.overruns := rfl

@[simp] theorem read_consumed : ring.read.2.consumed =
    if 0 < ring.pending then ring.consumed + 1 else ring.consumed := rfl

@[simp] theorem read_underruns : ring.read.2.underruns =
    if 0 < ring.pending then ring.underruns else ring.underruns + 1 := rfl

@[simp] theorem read_readBurst :
    ring.read.2.readBurst = (ring.readBurst + 1) % ring.bursts := rfl

@[simp] theorem read_cells :
    ring.read.2.cells = silenceCells ring.cells ring.readStart ring.burstLength := rfl

/-- The burst that a place holds. -/
def place (number : Nat) : List Sample :=
  let start := number * ring.burstLength
  (ring.cells.extract start (start + ring.burstLength)).toList

theorem getElem?_place (number index : Nat) :
    (ring.place number)[index]? =
      if index < ring.burstLength then ring.cells[number * ring.burstLength + index]?
      else none := by
  rw [place, Array.getElem?_toList, Array.getElem?_extract]
  by_cases within : index < ring.burstLength
  · rw [if_pos within]
    by_cases inside : number * ring.burstLength + index < ring.cells.size
    · rw [if_pos (by omega)]
    · rw [if_neg (by omega), Array.getElem?_eq_none (by omega)]
  · rw [if_neg within, if_neg (by omega)]

/-- A burst is what the cells from the reader's place on hold. -/
theorem getElem?_read (index : Nat) :
    ring.read.1[index]? =
      if index < ring.burstLength then ring.cells[ring.readStart + index]? else none :=
  ring.getElem?_place ring.readBurst index

end Ring
end VirtualRadio
