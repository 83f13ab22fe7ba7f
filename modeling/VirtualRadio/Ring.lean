import VirtualRadio.Fault
import VirtualRadio.Sample

namespace VirtualRadio

/-!
# The transmit ring

The ring lies between the network, which appends samples and never waits, and
the output sink, which takes one burst at a time.  A burst that was taken is
silenced in its place, so a reader that runs ahead of the writer reads silence
and never an old burst again.

The reader's cursor and the counters are kept apart on purpose.  A read always
moves the cursor, also when nothing was pending; a writer that laps the reader
puts the cursor on the oldest burst that is still whole.
-/

/-- A ring of `bursts` places, each for one burst of `burstLength` samples. -/
structure Ring where
  bursts : Nat
  burstLength : Nat
  /-- The places, one after the other. -/
  cells : Array Sample
  /-- The cell that the next sample is written to. -/
  writePosition : Nat
  /-- The place that the next read takes. -/
  readBurst : Nat
  /-- Bursts that the writer has completed. -/
  completed : Nat
  /-- Bursts that were handed to the reader or lost to the writer. -/
  consumed : Nat
  /-- Reads that found no completed burst. -/
  underruns : Nat
  /-- Times that the writer lapped the reader. -/
  overruns : Nat
  deriving DecidableEq, Repr, Inhabited

/-- Why a ring cannot be made. -/
inductive RingFault where
  | tooFewBursts (bursts : Nat)
  | emptyBurst
  /-- There is no memory with so many cells. -/
  | tooLarge
  deriving DecidableEq, Repr

/-- How it ends when a ring cannot be made.  Nothing checks that a ring is not too
large, so asking for one crashes. -/
def RingFault.toFailure : RingFault → Failure
  | tooFewBursts bursts =>
    .refused (.invalidParameter s!"ring needs at least 2 bursts, got {bursts}")
  | emptyBurst => .refused (.invalidParameter "burst length must be > 0")
  | tooLarge => .crashed

namespace Ring

/-- The ring in which nothing has been written. -/
def empty (bursts burstLength : Nat) : Ring :=
  ⟨bursts, burstLength, Array.replicate (bursts * burstLength) .silence, 0, 0, 0, 0, 0, 0⟩

/-- The first number of cells that is too large.  A cell takes eight bytes, and the
size of a memory block is a signed word of 64 bits. -/
def cellLimit : Nat := 1 <<< 60

/-- Make a ring. -/
def create (bursts burstLength : UInt64) : Except RingFault Ring :=
  if bursts < 2 then
    .error (.tooFewBursts bursts.toNat)
  else if burstLength = 0 then
    .error .emptyBurst
  else if cellLimit ≤ bursts.toNat * burstLength.toNat then
    .error .tooLarge
  else
    .ok (empty bursts.toNat burstLength.toNat)

/-- The number of cells. -/
def capacity (ring : Ring) : Nat :=
  ring.cells.size

/-- Bursts that are completed and were not handed to the reader. -/
def pending (ring : Ring) : Nat :=
  ring.completed - ring.consumed

/-- Take note that the writer has reached the end of a place.  If more bursts
would be pending than the ring has places, the oldest one is lost, and the
reader moves to the place that the writer fills next. -/
def completeBurst (ring : Ring) : Ring :=
  if ring.completed + 1 - ring.consumed > ring.bursts then
    { ring with
      completed := ring.completed + 1
      consumed := ring.completed + 1 - ring.bursts
      overruns := ring.overruns + 1
      readBurst := ring.writePosition / ring.burstLength }
  else
    { ring with completed := ring.completed + 1 }

/-- Append one sample. -/
def push (ring : Ring) (sample : Sample) : Ring :=
  let position := ring.writePosition
  let next := if position + 1 ≥ ring.cells.size then 0 else position + 1
  let ring := { ring with
    cells := ring.cells.setIfInBounds position sample
    writePosition := next }
  if next % ring.burstLength = 0 then ring.completeBurst else ring

/-- Append samples, wrapping at the end of the ring. -/
def write (ring : Ring) (samples : List Sample) : Ring :=
  samples.foldl push ring

/-- Silence a run of cells. -/
def silenceCells (cells : Array Sample) (start : Nat) : Nat → Array Sample
  | 0 => cells
  | count + 1 => silenceCells (cells.setIfInBounds start .silence) (start + 1) count

/-- Take the burst at the reader's cursor and silence its place. -/
def read (ring : Ring) : List Sample × Ring :=
  let start := ring.readBurst * ring.burstLength
  let burst := (ring.cells.extract start (start + ring.burstLength)).toList
  let found := 0 < ring.pending
  (burst,
    { ring with
      cells := silenceCells ring.cells start ring.burstLength
      consumed := if found then ring.consumed + 1 else ring.consumed
      underruns := if found then ring.underruns else ring.underruns + 1
      readBurst := (ring.readBurst + 1) % ring.bursts })

end Ring
end VirtualRadio
