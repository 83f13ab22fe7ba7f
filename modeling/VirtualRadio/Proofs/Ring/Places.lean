import VirtualRadio.Proofs.Ring.Representation

namespace VirtualRadio
namespace Ring

/-!
# The places of a ring

Calls that write whole bursts and nothing else change a ring place by place.  A
written burst fills the place that the writer stands on, and a read empties the
place that the reader stands on.  No other place is touched.
-/

/-- Samples that do not wrap fill the cells from the write position on. -/
theorem getElem?_write_cells (ring : Ring) (samples : List Sample) {cell : Nat}
    (room : ring.writePosition + samples.length ≤ ring.cells.size)
    (inside : cell < ring.cells.size) :
    (ring.write samples).cells[cell]? =
      if ring.writePosition ≤ cell ∧ cell < ring.writePosition + samples.length then
        samples[cell - ring.writePosition]?
      else ring.cells[cell]? := by
  induction samples generalizing ring with
  | nil =>
      have outside : ¬ (ring.writePosition ≤ cell ∧ cell < ring.writePosition + 0) := by omega
      rw [List.length_nil, if_neg outside]
      rfl
  | cons sample samples ih =>
      rw [List.length_cons] at room
      have size : (ring.push sample).cells.size = ring.cells.size := by
        rw [push_cells, Array.size_setIfInBounds]
      have next : (ring.push sample).writePosition =
          if ring.writePosition + 1 ≥ ring.cells.size then 0 else ring.writePosition + 1 :=
        push_writePosition ring sample
      have rest := ih (ring.push sample) (by rw [size, next]; split <;> omega) (size ▸ inside)
      change ((ring.push sample).write samples).cells[cell]? = _
      rw [rest, push_cells, Array.getElem?_setIfInBounds, next, List.length_cons]
      by_cases first : ring.writePosition = cell
      · rw [if_neg (by split <;> omega), if_pos first, if_pos (first ▸ inside),
          if_pos (by omega), first, Nat.sub_self, List.getElem?_cons_zero]
      · by_cases later : ring.writePosition < cell ∧
            cell < ring.writePosition + (samples.length + 1)
        · have offset : cell - ring.writePosition = cell - (ring.writePosition + 1) + 1 := by omega
          rw [if_neg (by omega : ¬ ring.writePosition + 1 ≥ ring.cells.size), if_pos (by omega),
            if_pos (by omega), offset, List.getElem?_cons_succ]
        · rw [if_neg (by split <;> omega), if_neg first, if_neg (by omega)]

namespace Fits

variable {places length count bursts lead : Nat} {ring : Ring}

/-- The cells of a place are those with its number as quotient. -/
private theorem mem_place_iff {length : Nat} (positive : 0 < length) {number other index : Nat}
    (within : index < length) :
    other * length ≤ number * length + index ∧ number * length + index < other * length + length ↔
      number = other := by
  have quotient : (number * length + index) / length = number := by
    rw [Nat.add_comm, Nat.add_mul_div_right _ _ positive, Nat.div_eq_of_lt within, Nat.zero_add]
  rw [← quotient, Nat.div_eq_iff positive, quotient]
  omega

/-- Nothing lies in the places of a new ring. -/
theorem place_empty {number : Nat} (two_le : 2 ≤ places) (positive : 0 < length)
    (inside : number < places) :
    (empty places length).place number = List.replicate length .silence := by
  have fits := fits_empty two_le positive
  apply List.ext_getElem?
  intro index
  rw [getElem?_place, fits.burstLength, List.getElem?_replicate]
  split
  · next within =>
    have cell := fits.cell_lt inside within
    rw [fits.size] at cell
    change (Array.replicate (places * length) Sample.silence)[_]? = _
    rw [Array.getElem?_replicate, if_pos cell]
  · rfl

/-- A read empties the reader's place. -/
theorem place_read (fits : Fits places length ring count lead) {number : Nat}
    (inside : number < places) :
    ring.read.2.place number =
      if number = ring.readBurst then List.replicate length .silence else ring.place number := by
  apply List.ext_getElem?
  intro index
  rw [getElem?_place, read_burstLength, read_cells, readStart, fits.burstLength]
  by_cases within : index < length
  · rw [if_pos within, getElem?_silenceCells _ _ _ _ (fits.cell_lt inside within)]
    simp only [mem_place_iff fits.length_pos within]
    split
    · rw [List.getElem?_replicate, if_pos within]
    · rw [getElem?_place, fits.burstLength, if_pos within]
  · rw [if_neg within]
    split
    · rw [List.getElem?_replicate, if_neg within]
    · rw [getElem?_place, fits.burstLength, if_neg within]

/-- A burst that is written at the end of others fills the next place. -/
theorem place_write_burst (fits : Fits places length ring (bursts * length) lead)
    {burst : List Sample} (whole : burst.length = length) {number : Nat}
    (inside : number < places) :
    (ring.write burst).place number =
      if number = bursts % places then burst else ring.place number := by
  have positive := fits.length_pos
  have position : ring.writePosition = bursts % places * length := by
    rw [fits.writePosition, Nat.mul_mod_mul_right]
  have room : ring.writePosition + burst.length ≤ ring.cells.size := by
    have last : bursts % places + 1 ≤ places := Nat.mod_lt _ (by omega)
    have next := Nat.mul_le_mul_right length last
    rw [Nat.succ_mul] at next
    rw [position, whole, fits.size]
    exact next
  have burstLength : (ring.write burst).burstLength = length := (fits.write burst).burstLength
  apply List.ext_getElem?
  intro index
  rw [getElem?_place, burstLength]
  by_cases within : index < length
  · rw [if_pos within, getElem?_write_cells ring burst room (fits.cell_lt inside within), whole,
      position]
    simp only [mem_place_iff positive within]
    split
    · next same => rw [same, Nat.add_sub_cancel_left]
    · rw [getElem?_place, fits.burstLength, if_pos within]
  · rw [if_neg within]
    split
    · rw [List.getElem?_eq_none (by omega)]
    · rw [getElem?_place, fits.burstLength, if_neg within]

end Fits
end Ring
end VirtualRadio
