import Mathlib.Data.List.GetD
import Mathlib.Data.List.Nodup
import Mathlib.Data.List.ReduceOption
import Mathlib.Logic.Function.Basic
import VirtualRadio.Proofs.Ring.Counters

namespace VirtualRadio

/-!
# Where the samples of a ring come from

Equal samples may be written many times, so the cells alone do not tell which
of them a read returns.  A traced ring numbers the samples in the order of
writing and remembers of every cell whose sample it holds.

The trace only watches: forgetting it gives the ring's own run.  What it shows
is that a cell is silent or holds a sample that was written, and that no sample
is ever taken by two reads, in whatever order samples are written and read.
-/

/-- The sample with a number, and silence without one. -/
def sampleOf (written : List Sample) : Option Nat → Sample
  | none => .silence
  | some number => written.getD number .silence

theorem sampleOf_append {written : List Sample} {source : Option Nat}
    (known : ∀ number, source = some number → number < written.length) (more : List Sample) :
    sampleOf (written ++ more) source = sampleOf written source := by
  cases source with
  | none => rfl
  | some number => exact List.getD_append _ _ _ _ (known number rfl)

/-- A ring together with what has happened to it. -/
structure TracedRing where
  ring : Ring
  /-- All samples, in order of writing.  The index of a sample is its number. -/
  written : List Sample
  /-- Whose sample a cell holds. -/
  owner : Nat → Option Nat
  /-- The bursts that were taken. -/
  taken : List (List Sample)
  /-- Whose samples those bursts were made of. -/
  sources : List (List (Option Nat))

namespace TracedRing

/-- A ring that was never used. -/
def empty (places length : Nat) : TracedRing :=
  ⟨.empty places length, [], fun _ => none, [], []⟩

/-- Append one sample under the next number. -/
def push (traced : TracedRing) (sample : Sample) : TracedRing :=
  { traced with
    ring := traced.ring.push sample
    written := traced.written ++ [sample]
    owner := Function.update traced.owner traced.ring.writePosition (some traced.written.length) }

/-- Append samples. -/
def write (traced : TracedRing) (samples : List Sample) : TracedRing :=
  samples.foldl push traced

/-- Whether a cell belongs to the burst that the next read takes. -/
def IsRead (ring : Ring) (cell : Nat) : Prop :=
  ring.readStart ≤ cell ∧ cell < ring.readStart + ring.burstLength

instance (ring : Ring) (cell : Nat) : Decidable (IsRead ring cell) :=
  inferInstanceAs (Decidable (_ ∧ _))

/-- Take a burst. -/
def read (traced : TracedRing) : TracedRing :=
  { traced with
    ring := traced.ring.read.2
    owner := fun cell => if IsRead traced.ring cell then none else traced.owner cell
    taken := traced.taken ++ [traced.ring.read.1]
    sources := traced.sources ++ [(List.range traced.ring.burstLength).map
      (fun index => traced.owner (traced.ring.readStart + index))] }

/-- Make one call. -/
def perform (traced : TracedRing) : RingCall → TracedRing
  | .write samples => traced.write samples
  | .read => traced.read

/-- Make calls one after the other. -/
def after (traced : TracedRing) (calls : List RingCall) : TracedRing :=
  calls.foldl perform traced

theorem push_owner (traced : TracedRing) (sample : Sample) :
    (traced.push sample).owner = Function.update traced.owner traced.ring.writePosition
      (some traced.written.length) := rfl

theorem read_owner (traced : TracedRing) (cell : Nat) :
    traced.read.owner cell = if IsRead traced.ring cell then none else traced.owner cell := rfl

/-! ## The trace only watches -/

theorem write_ring (traced : TracedRing) (samples : List Sample) :
    (traced.write samples).ring = traced.ring.write samples := by
  induction samples generalizing traced with
  | nil => rfl
  | cons sample samples ih => exact ih (traced.push sample)

theorem write_written (traced : TracedRing) (samples : List Sample) :
    (traced.write samples).written = traced.written ++ samples := by
  induction samples generalizing traced with
  | nil => exact (List.append_nil _).symm
  | cons sample samples ih =>
      refine (ih (traced.push sample)).trans ?_
      rw [push, List.append_assoc, List.singleton_append]

theorem write_taken (traced : TracedRing) (samples : List Sample) :
    (traced.write samples).taken = traced.taken := by
  induction samples generalizing traced with
  | nil => rfl
  | cons sample samples ih => exact ih (traced.push sample)

theorem after_ring (traced : TracedRing) (calls : List RingCall) :
    (traced.after calls).ring = traced.ring.after calls := by
  induction calls generalizing traced with
  | nil => rfl
  | cons call calls ih =>
      refine (ih (traced.perform call)).trans ?_
      cases call with
      | write samples => exact congrArg (Ring.after · calls) (traced.write_ring samples)
      | read => rfl

theorem after_written (traced : TracedRing) (calls : List RingCall) :
    (traced.after calls).written = traced.written ++ calls.flatMap RingCall.samples := by
  induction calls generalizing traced with
  | nil => exact (List.append_nil _).symm
  | cons call calls ih =>
      refine (ih (traced.perform call)).trans ?_
      rw [List.flatMap_cons, ← List.append_assoc]
      cases call with
      | write samples => exact congrArg (· ++ _) (traced.write_written samples)
      | read => exact congrArg (· ++ _) (List.append_nil _).symm

theorem after_taken (traced : TracedRing) (calls : List RingCall) :
    (traced.after calls).taken = traced.taken ++ traced.ring.taken calls := by
  induction calls generalizing traced with
  | nil => exact (List.append_nil _).symm
  | cons call calls ih =>
      refine (ih (traced.perform call)).trans ?_
      cases call with
      | write samples =>
          simp only [perform, write_taken, write_ring, Ring.taken]
      | read => exact List.append_assoc _ _ _

/-! ## What the trace says of the cells -/

/-- The numbers of the samples that were taken, in order. -/
def takenNumbers (traced : TracedRing) : List Nat :=
  traced.sources.flatten.reduceOption

/-- The trace and the cells agree.  The last two fields carry the induction: a
number that was taken has left the ring, so it cannot be taken again. -/
structure Sound (traced : TracedRing) : Prop where
  cell : ∀ cell, cell < traced.ring.cells.size →
    traced.ring.cells[cell]? = some (sampleOf traced.written (traced.owner cell))
  known : ∀ cell number, traced.owner cell = some number → number < traced.written.length
  home : ∀ cell number, traced.owner cell = some number →
    number % traced.ring.cells.size = cell
  taken : traced.taken = traced.sources.map (List.map (sampleOf traced.written))
  takenKnown : ∀ source ∈ traced.sources.flatten, ∀ number, source = some number →
    number < traced.written.length
  once : traced.takenNumbers.Nodup
  gone : ∀ cell number, traced.owner cell = some number → number ∉ traced.takenNumbers

theorem sound_empty (places length : Nat) : (empty places length).Sound where
  cell := by
    intro cell inside
    have size : (Array.replicate (places * length) Sample.silence).size = places * length :=
      Array.size_replicate
    change (Array.replicate (places * length) Sample.silence)[cell]? = some .silence
    rw [Array.getElem?_replicate, if_pos (size ▸ inside)]
  known := by
    intro cell number impossible
    cases impossible
  home := by
    intro cell number impossible
    cases impossible
  taken := rfl
  takenKnown := by
    intro source member
    cases member
  once := List.nodup_nil
  gone := by
    intro cell number impossible
    cases impossible

namespace Sound

variable {places length lead : Nat} {traced : TracedRing}

theorem push (sound : traced.Sound)
    (fits : Ring.Fits places length traced.ring traced.written.length lead) (sample : Sample) :
    (traced.push sample).Sound where
  cell := by
    intro cell inside
    simp only [TracedRing.push, Ring.push_cells, Array.size_setIfInBounds] at inside ⊢
    rw [Array.getElem?_setIfInBounds]
    by_cases same : traced.ring.writePosition = cell
    · subst same
      rw [if_pos rfl, if_pos inside, Function.update_self]
      have last : sampleOf (traced.written ++ [sample]) (some traced.written.length) = sample := by
        rw [sampleOf, List.getD_append_right _ _ _ _ (Nat.le_refl _), Nat.sub_self]
        rfl
      rw [last]
    · rw [if_neg same, Function.update_of_ne (Ne.symm same), sound.cell cell inside,
        sampleOf_append (sound.known cell)]
  known := by
    intro cell number owned
    simp only [TracedRing.push, List.length_append, List.length_singleton] at owned ⊢
    by_cases same : cell = traced.ring.writePosition
    · rw [same, Function.update_self] at owned
      cases owned
      exact Nat.lt_succ_self _
    · rw [Function.update_of_ne same] at owned
      exact Nat.lt_succ_of_lt (sound.known cell number owned)
  home := by
    intro cell number owned
    simp only [TracedRing.push, Ring.push_cells, Array.size_setIfInBounds] at owned ⊢
    by_cases same : cell = traced.ring.writePosition
    · rw [same, Function.update_self] at owned
      cases owned
      rw [same, fits.size, fits.writePosition]
    · rw [Function.update_of_ne same] at owned
      exact sound.home cell number owned
  taken := by
    change traced.taken = traced.sources.map (List.map (sampleOf (traced.written ++ [sample])))
    rw [sound.taken]
    apply List.map_congr_left
    intro burst listed
    apply List.map_congr_left
    intro source member
    have flat := List.mem_flatten.mpr ⟨burst, listed, member⟩
    exact (sampleOf_append (sound.takenKnown source flat) [sample]).symm
  takenKnown := by
    intro source member number named
    have old := sound.takenKnown source member number named
    simp only [TracedRing.push, List.length_append, List.length_singleton]
    exact Nat.lt_succ_of_lt old
  once := sound.once
  gone := by
    intro cell number owned member
    simp only [TracedRing.push] at owned
    by_cases same : cell = traced.ring.writePosition
    · rw [same, Function.update_self] at owned
      cases owned
      have listed := List.reduceOption_mem_iff.mp member
      exact Nat.lt_irrefl _ (sound.takenKnown _ listed _ rfl)
    · rw [Function.update_of_ne same] at owned
      exact sound.gone cell number owned member

/-- The burst that a read takes, by the numbers of its samples. -/
theorem read_burst (sound : traced.Sound)
    (fits : Ring.Fits places length traced.ring traced.written.length lead) :
    traced.ring.read.1 = (List.range length).map
      (fun index => sampleOf traced.written (traced.owner (traced.ring.readStart + index))) := by
  apply List.ext_getElem?
  intro index
  rw [Ring.getElem?_read, fits.burstLength, List.getElem?_map]
  by_cases within : index < length
  · rw [if_pos within, List.getElem?_range within, sound.cell _ (fits.readStart_add_lt within)]
    rfl
  · rw [if_neg within, List.getElem?_eq_none (by rw [List.length_range]; omega)]
    rfl

theorem read (sound : traced.Sound)
    (fits : Ring.Fits places length traced.ring traced.written.length lead) :
    traced.read.Sound where
  cell := by
    intro cell inside
    simp only [TracedRing.read, Ring.read_cells, Ring.size_silenceCells] at inside ⊢
    have silenced : (Ring.silenceCells traced.ring.cells traced.ring.readStart
          traced.ring.burstLength)[cell]? =
        if IsRead traced.ring cell then some .silence else traced.ring.cells[cell]? :=
      Ring.getElem?_silenceCells _ _ _ _ inside
    rw [silenced]
    by_cases read : IsRead traced.ring cell
    · rw [if_pos read, if_pos read]
      rfl
    · rw [if_neg read, if_neg read, sound.cell cell inside]
  known := by
    intro cell number owned
    simp only [TracedRing.read] at owned
    by_cases read : IsRead traced.ring cell
    · rw [if_pos read] at owned
      cases owned
    · rw [if_neg read] at owned
      exact sound.known cell number owned
  home := by
    intro cell number owned
    simp only [TracedRing.read, Ring.read_cells, Ring.size_silenceCells] at owned ⊢
    by_cases read : IsRead traced.ring cell
    · rw [if_pos read] at owned
      cases owned
    · rw [if_neg read] at owned
      exact sound.home cell number owned
  taken := by
    simp only [TracedRing.read, List.map_append, List.map_cons, List.map_nil, List.map_map]
    rw [sound.taken, sound.read_burst fits, fits.burstLength]
    rfl
  takenKnown := by
    intro source member number named
    simp only [TracedRing.read, List.flatten_append, List.flatten_singleton, List.mem_append,
      List.mem_map] at member
    rcases member with old | ⟨index, _, owned⟩
    · exact sound.takenKnown source old number named
    · exact sound.known _ number (owned.trans named)
  once := by
    simp only [takenNumbers, TracedRing.read, List.flatten_append, List.flatten_singleton,
      List.reduceOption_append]
    refine List.nodup_append'.mpr ⟨sound.once, ?_, ?_⟩
    · rw [List.reduceOption, List.filterMap_map]
      refine List.nodup_range.filterMap ?_
      intro first second number atFirst atSecond
      have left := sound.home _ number atFirst
      have right := sound.home _ number atSecond
      omega
    · intro number old fresh
      rw [List.reduceOption_mem_iff, List.mem_map] at fresh
      rcases fresh with ⟨index, _, owned⟩
      exact sound.gone _ number owned old
  gone := by
    intro cell number owned member
    simp only [TracedRing.read] at owned
    by_cases read : IsRead traced.ring cell
    · rw [if_pos read] at owned
      cases owned
    · rw [if_neg read] at owned
      simp only [takenNumbers, TracedRing.read, List.flatten_append, List.flatten_singleton,
        List.reduceOption_append, List.mem_append] at member
      rcases member with old | fresh
      · exact sound.gone cell number owned old
      · rw [List.reduceOption_mem_iff, List.mem_map] at fresh
        rcases fresh with ⟨index, listed, named⟩
        -- The number has one home, and that cell was read.
        have elsewhere := (sound.home _ number named).symm.trans (sound.home cell number owned)
        have within := List.mem_range.mp listed
        exact read ⟨by omega, by omega⟩

end Sound

/-! ## Runs -/

/-- A trace that agrees with a ring of some shape. -/
structure Valid (places length : Nat) (traced : TracedRing) : Prop where
  sound : traced.Sound
  fits : ∃ lead, Ring.Fits places length traced.ring traced.written.length lead

theorem valid_empty {places length : Nat} (two_le : 2 ≤ places) (length_pos : 0 < length) :
    (empty places length).Valid places length :=
  ⟨sound_empty places length, 0, Ring.fits_empty two_le length_pos⟩

namespace Valid

variable {places length : Nat} {traced : TracedRing}

theorem push (valid : traced.Valid places length) (sample : Sample) :
    (traced.push sample).Valid places length := by
  rcases valid.fits with ⟨lead, fits⟩
  refine ⟨valid.sound.push fits sample, ?_⟩
  rw [TracedRing.push, List.length_append, List.length_singleton]
  by_cases laps : traced.ring.Laps
  · exact ⟨0, fits.push_of_laps laps sample⟩
  · exact ⟨lead, fits.push laps sample⟩

theorem write (valid : traced.Valid places length) (samples : List Sample) :
    (traced.write samples).Valid places length := by
  induction samples generalizing traced with
  | nil => exact valid
  | cons sample samples ih => exact ih (valid.push sample)

theorem read (valid : traced.Valid places length) : traced.read.Valid places length := by
  rcases valid.fits with ⟨lead, fits⟩
  refine ⟨valid.sound.read fits, ?_⟩
  by_cases found : 0 < traced.ring.pending
  · exact ⟨lead, fits.read_of_pending found⟩
  · exact ⟨lead + 1, fits.read_of_empty (by omega)⟩

theorem after (valid : traced.Valid places length) (calls : List RingCall) :
    (traced.after calls).Valid places length := by
  induction calls generalizing traced with
  | nil => exact valid
  | cons call calls ih =>
      cases call with
      | write samples => exact ih (valid.write samples)
      | read => exact ih valid.read

end Valid

/-- In every run the reads return samples that were written, or silence, and
no sample twice. -/
theorem taken_once {places length : Nat} (two_le : 2 ≤ places) (length_pos : 0 < length)
    (calls : List RingCall) :
    ∃ sources : List (List (Option Nat)),
      (Ring.empty places length).taken calls =
          sources.map (List.map (sampleOf (calls.flatMap RingCall.samples))) ∧
        sources.flatten.reduceOption.Nodup := by
  have sound := ((valid_empty two_le length_pos).after calls).sound
  refine ⟨((empty places length).after calls).sources, ?_, sound.once⟩
  have taken := sound.taken
  rw [after_taken, after_written] at taken
  exact taken

end TracedRing
end VirtualRadio
