import VirtualRadio.Proofs.Ring.Provenance
import VirtualRadio.Proofs.Ring.Representation

namespace VirtualRadio

/-!
# What the cells of a ring have been through

The history of a ring is the list of what has happened to its cells: samples
were stored in them, under the numbers of their writing, and places were
drained.  It is kept with the ring's own cursors, whatever these have come to,
so nothing is said here of where the reader ought to stand.

The last event that concerns a cell decides what a read finds there: the sample
that was stored, or silence if the place was drained and nothing was stored
since.  This holds of whole bursts and of places in which two bursts are mixed
alike.
-/

/-- What may happen to the cells of a ring. -/
inductive CellEvent where
  /-- The sample with a number was stored in a cell. -/
  | stored (cell number : Nat)
  /-- The cells of a place were taken and silenced. -/
  | drained (place : Nat)
  deriving DecidableEq, Repr

namespace CellEvent

/-- The number that an event leaves a cell with, if it concerns the cell. -/
def leaves? (length cell : Nat) : CellEvent → Option (Option Nat)
  | stored other number => if other = cell then some (some number) else none
  | drained place => if cell / length = place then some none else none

/-- The number of the sample most recently stored in a cell since its place was
last drained, if any was. -/
def lastStored? (length : Nat) (events : List CellEvent) (cell : Nat) : Option Nat :=
  (events.reverse.findSome? (leaves? length cell)).getD none

theorem lastStored?_concat (length : Nat) (events : List CellEvent) (event : CellEvent)
    (cell : Nat) :
    lastStored? length (events ++ [event]) cell =
      (event.leaves? length cell).getD (lastStored? length events cell) := by
  rw [lastStored?, List.reverse_append, List.reverse_singleton, List.singleton_append,
    List.findSome?_cons]
  cases event.leaves? length cell <;> rfl

end CellEvent

namespace Ring

/-- What samples do to the cells.  The first of them has the number `count`. -/
def stores (ring : Ring) (count : Nat) (samples : List Sample) : List CellEvent :=
  ((ring.writtenCells samples).zipIdx count).map (fun (cell, number) => .stored cell number)

/-- What calls do to the cells.  The next sample has the number `count`. -/
def history (ring : Ring) (count : Nat) : List RingCall → List CellEvent
  | [] => []
  | .write samples :: calls =>
    ring.stores count samples ++ (ring.write samples).history (count + samples.length) calls
  | .read :: calls => .drained ring.readBurst :: ring.read.2.history count calls

/-- The number of the sample that a read after some calls finds at an index of
its burst, if it finds any: the one most recently written there since the place
was last drained. -/
def source? (places length : Nat) (calls : List RingCall) (index : Nat) : Option Nat :=
  CellEvent.lastStored? length ((empty places length).history 0 calls)
    (((empty places length).after calls).readBurst * length + index)

theorem stores_cons (ring : Ring) (count : Nat) (sample : Sample) (samples : List Sample) :
    ring.stores count (sample :: samples) =
      .stored ring.writePosition count :: (ring.push sample).stores (count + 1) samples := by
  rw [stores, writtenCells, List.zipIdx_cons, List.map_cons, stores]

end Ring

namespace TracedRing

variable {places length : Nat} {traced : TracedRing} {events : List CellEvent}

/-- The trace knows of every cell what the history says of it. -/
def Recalls (length : Nat) (traced : TracedRing) (events : List CellEvent) : Prop :=
  ∀ cell, traced.owner cell = CellEvent.lastStored? length events cell

theorem recalls_empty (places length : Nat) : (empty places length).Recalls length [] :=
  fun _ => rfl

namespace Recalls

theorem push (recalls : traced.Recalls length events) (sample : Sample) :
    (traced.push sample).Recalls length
      (events ++ [.stored traced.ring.writePosition traced.written.length]) := by
  intro cell
  rw [CellEvent.lastStored?_concat, CellEvent.leaves?, push_owner]
  by_cases same : traced.ring.writePosition = cell
  · rw [if_pos same, ← same, Function.update_self]
    rfl
  · rw [if_neg same, Function.update_of_ne (Ne.symm same), recalls cell]
    rfl

theorem write (recalls : traced.Recalls length events) (samples : List Sample) :
    (traced.write samples).Recalls length
      (events ++ traced.ring.stores traced.written.length samples) := by
  induction samples generalizing traced events with
  | nil =>
      rw [Ring.stores, Ring.writtenCells, List.zipIdx_nil, List.map_nil, List.append_nil]
      exact recalls
  | cons sample samples ih =>
      have rest := ih (recalls.push sample)
      have count : (traced.push sample).written.length = traced.written.length + 1 :=
        List.length_append
      rw [count, List.append_assoc, List.singleton_append] at rest
      rw [Ring.stores_cons]
      exact rest

/-- The cells of the reader's place are those that a read drains. -/
theorem read (recalls : traced.Recalls length events) (positive : 0 < length)
    (burstLength : traced.ring.burstLength = length) :
    traced.read.Recalls length (events ++ [.drained traced.ring.readBurst]) := by
  intro cell
  have drained : IsRead traced.ring cell ↔ cell / length = traced.ring.readBurst := by
    rw [IsRead, Ring.readStart, burstLength, Nat.div_eq_iff positive]
    omega
  rw [CellEvent.lastStored?_concat, CellEvent.leaves?, read_owner]
  by_cases taken : IsRead traced.ring cell
  · rw [if_pos taken, if_pos (drained.mp taken)]
    rfl
  · rw [if_neg taken, if_neg (fun same => taken (drained.mpr same)), recalls cell]
    rfl

/-- What a run does to the cells is what the trace remembers of it. -/
theorem after (recalls : traced.Recalls length events) (valid : traced.Valid places length)
    (calls : List RingCall) :
    (traced.after calls).Recalls length
      (events ++ traced.ring.history traced.written.length calls) := by
  induction calls generalizing traced events with
  | nil =>
      rw [Ring.history, List.append_nil]
      exact recalls
  | cons call calls ih =>
      cases call with
      | write samples =>
          have rest := ih (recalls.write samples) (valid.write samples)
          rw [write_ring, write_written, List.length_append, List.append_assoc] at rest
          exact rest
      | read =>
          obtain ⟨lead, fits⟩ := valid.fits
          have rest := ih (recalls.read fits.length_pos fits.burstLength) valid.read
          rw [List.append_assoc, List.singleton_append] at rest
          exact rest

end Recalls

/-! ## Samples that were taken -/

theorem write_sources (traced : TracedRing) (samples : List Sample) :
    (traced.write samples).sources = traced.sources := by
  induction samples generalizing traced with
  | nil => rfl
  | cons sample samples ih => exact ih (traced.push sample)

/-- A number that was taken is never taken back. -/
theorem takenNumbers_subset (traced : TracedRing) (calls : List RingCall) :
    traced.takenNumbers ⊆ (traced.after calls).takenNumbers := by
  induction calls generalizing traced with
  | nil => exact List.Subset.refl _
  | cons call calls ih =>
      refine List.Subset.trans ?_ (ih (traced.perform call))
      cases call with
      | write samples =>
          rw [takenNumbers, takenNumbers, perform, write_sources]
          exact List.Subset.refl _
      | read =>
          rw [takenNumbers, takenNumbers, perform, read, List.flatten_append,
            List.reduceOption_append]
          exact List.subset_append_left _ _

/-- What a read finds in a cell of its place is taken by it. -/
theorem mem_takenNumbers_read {index number : Nat} (within : index < traced.ring.burstLength)
    (found : traced.owner (traced.ring.readStart + index) = some number) :
    number ∈ traced.read.takenNumbers := by
  rw [takenNumbers, read, List.reduceOption_mem_iff, List.flatten_append, List.flatten_singleton]
  exact List.mem_append_right _ (List.mem_map.mpr ⟨index, List.mem_range.mpr within, found⟩)

/-- The trace finds in the reader's place what the history says. -/
theorem owner_after (two_le : 2 ≤ places) (length_pos : 0 < length) (calls : List RingCall)
    (index : Nat) :
    ((empty places length).after calls).owner
        (((empty places length).after calls).ring.readStart + index) =
      Ring.source? places length calls index := by
  have start := valid_empty two_le length_pos
  obtain ⟨lead, fits⟩ := (start.after calls).fits
  have recalled := (recalls_empty places length).after start calls
    (((empty places length).after calls).ring.readStart + index)
  rw [recalled, Ring.readStart, fits.burstLength, after_ring]
  rfl

end TracedRing

namespace Ring

variable {places length : Nat}

/-- A read returns what the history says of the cells of its place. -/
theorem read_eq_sources (two_le : 2 ≤ places) (length_pos : 0 < length)
    (calls : List RingCall) :
    ((empty places length).after calls).read.1 =
      (List.range length).map (fun index =>
        sampleOf (calls.flatMap RingCall.samples) (source? places length calls index)) := by
  have valid := (TracedRing.valid_empty two_le length_pos).after calls
  obtain ⟨lead, fits⟩ := valid.fits
  have burst := valid.sound.read_burst fits
  simp only [TracedRing.owner_after two_le length_pos, TracedRing.after_written] at burst
  rw [TracedRing.after_ring] at burst
  exact burst

/-- Whatever was written and read before, a read returns one burst, which holds
at each index the sample most recently written there since the place was last
drained, or silence; and no other read ever returns that sample again. -/
theorem read_of_history (two_le : 2 ≤ places) (length_pos : 0 < length)
    (before : List RingCall) :
    let ring := (empty places length).after before
    let written := before.flatMap RingCall.samples
    let source? := source? places length
    ring.read.1.length = length ∧
      (∀ index < length, ring.read.1[index]? = some (sampleOf written (source? before index))) ∧
      ∀ index < length, ∀ number, source? before index = some number →
        number < written.length ∧
          (∀ other < length, source? before other = some number → other = index) ∧
          ∀ later, ∀ other < length, source? (before ++ .read :: later) other ≠ some number := by
  intro ring written source?
  have start := TracedRing.valid_empty two_le length_pos
  have valid := start.after before
  obtain ⟨lead, fits⟩ := valid.fits
  have burst : ring.read.1 =
      (List.range length).map (fun index => sampleOf written (source? before index)) :=
    read_eq_sources two_le length_pos before
  have finds := TracedRing.owner_after two_le length_pos
  refine ⟨?_, fun index within => ?_, fun index within number found => ?_⟩
  · rw [burst, List.length_map, List.length_range]
  · rw [burst, List.getElem?_map, List.getElem?_range within, Option.map_some]
  · have owned := (finds before index).trans found
    refine ⟨?_, fun other inside again => ?_, fun later other inside again => ?_⟩
    · have known := valid.sound.known _ number owned
      rwa [TracedRing.after_written] at known
    · have first := valid.sound.home _ number owned
      have second := valid.sound.home _ number ((finds before other).trans again)
      omega
    · have taken := TracedRing.mem_takenNumbers_read (fits.burstLength.symm ▸ within) owned
      have kept := TracedRing.takenNumbers_subset _ later taken
      have reached := start.after (before ++ .read :: later)
      have absent := reached.sound.gone _ number ((finds _ other).trans again)
      have shape : (TracedRing.empty places length).after (before ++ .read :: later) =
          ((TracedRing.empty places length).after before).read.after later :=
        List.foldl_append
      rw [shape] at absent
      exact absent kept

/-- Two places of two samples: a place is read when it is half written, and the
writer goes on in it, so that the last read finds the third sample after the
sixth there. -/
theorem read_of_history_torn :
    let sample : UInt32 → Sample := fun bits => ⟨⟨bits⟩, .zero⟩
    let before : List RingCall :=
      [.write ([10, 11, 12].map sample), .read, .read, .write ([13, 14, 15, 16].map sample),
        .read]
    2 ≤ 2 ∧ 0 < 2 ∧ source? 2 2 before 0 = some 6 ∧ source? 2 2 before 1 = some 3 ∧
      ((empty 2 2).after before).read.1[0]? = some (sample 16) ∧
      ((empty 2 2).after before).read.1[1]? = some (sample 13) ∧
      ∀ later, ∀ other < 2, source? 2 2 (before ++ .read :: later) other ≠ some 6 := by
  intro sample before
  have newest : source? 2 2 before 0 = some 6 := by decide
  have older : source? 2 2 before 1 = some 3 := by decide
  have history := read_of_history (by decide : 2 ≤ 2) (by decide : 0 < 2) before
  have first := history.2.1 0 (by decide)
  have second := history.2.1 1 (by decide)
  rw [newest] at first
  rw [older] at second
  exact ⟨by decide, by decide, newest, older, first, second,
    (history.2.2 0 (by decide) 6 newest).2.2⟩

end Ring
end VirtualRadio
