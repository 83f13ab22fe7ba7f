import VirtualRadio.Proofs.Stream.Units
import VirtualRadio.Station.Poll

namespace VirtualRadio

/-!
# Reassembly

The bytes of a stream client come in reads that may end anywhere: inside the
code of a unit, inside a unit, or after several units.  A poll tries to take a
unit off the buffer, reads only if there is none, and then tries once more.

What the buffer and the outstanding reads still hold is cut into the same units
before and after every poll.  So the units do not depend on where the reads end
or on how many polls they take to come.
-/

/-- One try at some bytes: the unit that is taken off them, if it is complete,
and the bytes that are kept. -/
def takeUnit (bytes : List UInt8) : Option (List UInt8) × List UInt8 :=
  match splitUnit? bytes with
  | none => (none, bytes)
  | some (unit, rest) => (some unit, rest)

theorem takeUnit_of_none {bytes : List UInt8} (found : (takeUnit bytes).1 = none) :
    splitUnit? bytes = none ∧ (takeUnit bytes).2 = bytes := by
  unfold takeUnit at found ⊢
  split
  · next whole => exact ⟨whole, rfl⟩
  · next cut =>
      rw [cut] at found
      contradiction

theorem takeUnit_length {bytes unit : List UInt8} (found : (takeUnit bytes).1 = some unit) :
    (takeUnit bytes).2.length < bytes.length := by
  unfold takeUnit at found ⊢
  split
  · next whole =>
      rw [whole] at found
      contradiction
  · next cut => exact length_lt_of_splitUnit? cut

theorem takeUnit_flatten (bytes : List UInt8) :
    (takeUnit bytes).1.toList.flatten ++ (takeUnit bytes).2 = bytes := by
  unfold takeUnit
  split
  · rfl
  · next cut =>
      rw [Option.toList_some, List.flatten_singleton]
      exact append_of_splitUnit? cut

/-- The first try at a stream takes the same unit off whatever has come of it. -/
theorem splitUnits_takeUnit (bytes more : List UInt8) :
    splitUnits (bytes ++ more) =
      ((takeUnit bytes).1.toList ++ (splitUnits ((takeUnit bytes).2 ++ more)).1,
        (splitUnits ((takeUnit bytes).2 ++ more)).2) := by
  unfold takeUnit
  split
  · rfl
  · next cut => exact splitUnits_of_some (splitUnit?_append cut more)

/-- The bytes of a client on their way: those in the buffer, the reads that are
outstanding, and the units that have been taken. -/
structure Reassembly where
  buffer : List UInt8
  outstanding : List (List UInt8)
  units : List (List UInt8)
  deriving DecidableEq, Repr

namespace Reassembly

/-- A client that has sent nothing yet, and what its reads will bring. -/
def ofReads (reads : List (List UInt8)) : Reassembly :=
  ⟨[], reads, []⟩

/-- Try to take a unit off some bytes, and keep the rest of them. -/
def take (reassembly : Reassembly) (bytes : List UInt8) : Reassembly :=
  { reassembly with
    buffer := (takeUnit bytes).2
    units := reassembly.units ++ (takeUnit bytes).1.toList }

/-- One poll.  The next read may come while it waits, or it may not. -/
def poll (reassembly : Reassembly) (arrives : Bool) : Reassembly :=
  match (takeUnit reassembly.buffer).1, arrives, reassembly.outstanding with
  | none, true, read :: later =>
    { reassembly with outstanding := later }.take (reassembly.buffer ++ read)
  | _, _, _ => reassembly.take reassembly.buffer

/-- Polls one after the other, with or without a read in each. -/
def after (reassembly : Reassembly) (arrivals : List Bool) : Reassembly :=
  arrivals.foldl poll reassembly

/-- Whether no read is outstanding and no unit is left. -/
def IsDone (reassembly : Reassembly) : Prop :=
  reassembly.outstanding = [] ∧ splitUnit? reassembly.buffer = none

/-- The bytes that have not been taken. -/
def ahead (reassembly : Reassembly) : List UInt8 :=
  reassembly.buffer ++ reassembly.outstanding.flatten

/-- How many tries and reads there may still be. -/
def work (reassembly : Reassembly) : Nat :=
  reassembly.ahead.length + reassembly.outstanding.length

variable {reassembly : Reassembly}

/-- The invariant of all polls: the units taken so far are the first ones of
the stream, and the bytes ahead hold the rest of it. -/
structure Follows (stream : List UInt8) (reassembly : Reassembly) : Prop where
  bytes : reassembly.units.flatten ++ reassembly.ahead = stream
  units : splitUnits stream =
    (reassembly.units ++ (splitUnits reassembly.ahead).1, (splitUnits reassembly.ahead).2)

namespace Follows

variable {stream : List UInt8}

theorem ofReads (reads : List (List UInt8)) : (ofReads reads).Follows reads.flatten :=
  ⟨rfl, rfl⟩

/-- A try at the first bytes ahead keeps the invariant, in the buffer or with
the next read. -/
theorem take (follows : reassembly.Follows stream) {bytes : List UInt8}
    {later : List (List UInt8)} (same : bytes ++ later.flatten = reassembly.ahead) :
    ({ reassembly with outstanding := later }.take bytes).Follows stream := by
  constructor
  · calc
      (reassembly.units ++ (takeUnit bytes).1.toList).flatten ++
            ((takeUnit bytes).2 ++ later.flatten)
          = reassembly.units.flatten ++
              (((takeUnit bytes).1.toList.flatten ++ (takeUnit bytes).2) ++ later.flatten) := by
            simp only [List.flatten_append, List.append_assoc]
      _ = reassembly.units.flatten ++ reassembly.ahead := by rw [takeUnit_flatten, same]
      _ = stream := follows.bytes
  · have units := follows.units
    rw [← same, splitUnits_takeUnit, ← List.append_assoc] at units
    exact units

theorem poll (follows : reassembly.Follows stream) (arrives : Bool) :
    (reassembly.poll arrives).Follows stream := by
  unfold Reassembly.poll
  split
  · next read later _ outstanding =>
      have same : (reassembly.buffer ++ read) ++ later.flatten = reassembly.ahead := by
        rw [ahead, outstanding, List.flatten_cons, List.append_assoc]
      exact follows.take same
  · exact follows.take rfl

theorem after (follows : reassembly.Follows stream) (arrivals : List Bool) :
    (reassembly.after arrivals).Follows stream := by
  induction arrivals generalizing reassembly with
  | nil => exact follows
  | cons arrives arrivals ih => exact ih (follows.poll arrives)

/-- When it is done, the units are all those of the stream. -/
theorem of_isDone (follows : reassembly.Follows stream) (done : reassembly.IsDone) :
    splitUnits stream = (reassembly.units, reassembly.buffer) := by
  have units := follows.units
  rw [ahead, done.1, List.flatten_nil, List.append_nil, splitUnits_of_none done.2,
    List.append_nil] at units
  exact units

end Follows

/-! ## Coming to an end -/

theorem take_length_le (reassembly : Reassembly) (bytes : List UInt8) :
    (reassembly.take bytes).buffer.length ≤ bytes.length := by
  change (takeUnit bytes).2.length ≤ bytes.length
  rcases found : (takeUnit bytes).1 with _ | unit
  · exact Nat.le_of_eq (congrArg List.length (takeUnit_of_none found).2)
  · exact Nat.le_of_lt (takeUnit_length found)

theorem poll_of_isDone (done : reassembly.IsDone) (arrives : Bool) :
    reassembly.poll arrives = reassembly := by
  rcases reassembly with ⟨buffer, outstanding, units⟩
  rcases done with ⟨rfl, whole⟩
  simp only at whole
  simp [poll, take, takeUnit, whole]

theorem after_of_isDone (done : reassembly.IsDone) (arrivals : List Bool) :
    reassembly.after arrivals = reassembly := by
  induction arrivals with
  | nil => rfl
  | cons arrives arrivals ih =>
      change (reassembly.poll arrives).after arrivals = reassembly
      rw [poll_of_isDone done, ih]

theorem work_poll_le (reassembly : Reassembly) (arrives : Bool) :
    (reassembly.poll arrives).work ≤ reassembly.work := by
  unfold poll
  split
  · next read later _ outstanding =>
      have kept := take_length_le { reassembly with outstanding := later }
        (reassembly.buffer ++ read)
      simp only [work, ahead, outstanding, List.length_append, List.flatten_cons,
        List.length_cons] at kept ⊢
      change _ + later.flatten.length + later.length ≤ _
      omega
  · have kept := take_length_le reassembly reassembly.buffer
    simp only [work, ahead, List.length_append]
    change _ + reassembly.outstanding.flatten.length + reassembly.outstanding.length ≤ _
    omega

/-- A poll whose read comes gets on, while there is anything to do. -/
theorem work_poll_lt (going : ¬ reassembly.IsDone) :
    (reassembly.poll true).work < reassembly.work := by
  unfold poll
  split
  · next read later _ _ outstanding =>
      have kept := take_length_le { reassembly with outstanding := later }
        (reassembly.buffer ++ read)
      simp only [work, ahead, outstanding, List.length_append, List.flatten_cons,
        List.length_cons] at kept ⊢
      change _ + later.flatten.length + later.length < _
      omega
  · next nothing =>
      rcases found : (takeUnit reassembly.buffer).1 with _ | unit
      · rcases outstanding : reassembly.outstanding with _ | ⟨read, later⟩
        · exact absurd ⟨outstanding, (takeUnit_of_none found).1⟩ going
        · exact absurd outstanding (nothing read later found rfl)
      · have shorter := takeUnit_length found
        simp only [work, ahead, List.length_append]
        change (takeUnit reassembly.buffer).2.length + reassembly.outstanding.flatten.length
          + reassembly.outstanding.length < _
        omega

theorem isDone_of_work_eq_zero (idle : reassembly.work = 0) : reassembly.IsDone := by
  simp only [work, ahead, List.length_append] at idle
  constructor
  · exact List.eq_nil_of_length_eq_zero (by omega)
  · rw [List.eq_nil_of_length_eq_zero (show reassembly.buffer.length = 0 by omega)]
    rfl

/-- Enough polls whose reads come take every unit. -/
theorem isDone_after (arrivals : List Bool) (enough : reassembly.work ≤ arrivals.count true) :
    (reassembly.after arrivals).IsDone := by
  induction arrivals generalizing reassembly with
  | nil => exact isDone_of_work_eq_zero (Nat.le_zero.mp enough)
  | cons arrives arrivals ih =>
      -- A poll without a read may get on too, but only those with one are counted.
      by_cases done : reassembly.IsDone
      · rw [after_of_isDone done]
        exact done
      · cases arrives with
        | false =>
            have less := work_poll_le reassembly false
            rw [List.count_cons_of_ne Bool.false_ne_true] at enough
            exact ih (Nat.le_trans less enough)
        | true =>
            have less := work_poll_lt done
            rw [List.count_cons_self] at enough
            exact ih (by omega)

end Reassembly

/-! ## The polls of a session -/

namespace Station

variable {σ : Type}

/-- Try once at the bytes of the client, keep the rest of them, and act on the
unit or go on without one. -/
def serve (station : Station σ) (client : StreamClient) (bytes : List UInt8)
    (otherwise : Station σ → Station σ) : Station σ :=
  let kept := station.updateSession (fun session =>
    { session with client := some { client with buffer := (takeUnit bytes).2 } })
  match (takeUnit bytes).1 with
  | some unit => kept.handlePacket unit .stream
  | none => otherwise kept

/-- Whether the polls of a session with a client are those of `Reassembly.poll`:
a poll tries at the buffer, waits for a read only if that gives nothing, and
tries once more at the buffer with the read. -/
structure Reassembles (station : Station σ) (client : StreamClient) : Prop where
  tries : station.transport.link.attached = true →
    station.beginPoll = station.rejectExtraClient.serve client client.buffer
      (fun waiting => waiting.setPhase (.reading (waiting.deadlineIn waiting.plan.pollTimeout)))
  reads : ∀ deadline bytes network,
    station.transport.network.read? client.connection = some (.bytes bytes, network) →
      station.resumeRead? deadline =
        some (({ station with
          transport := { station.transport with network := network } } : Station σ).serve client
            (client.buffer ++ bytes) Station.rest)
  waits : ∀ deadline, station.transport.network.read? client.connection = none →
    station.resumeRead? deadline =
      if Clock.isDue deadline station.now then some station.rest else none

theorem rejectExtraClient_client (station : Station σ) :
    station.rejectExtraClient.session.client = station.session.client := by
  unfold rejectExtraClient
  split <;> rfl

theorem takeUnit?_getD (station : Station σ) (client : StreamClient)
    (otherwise : Station σ → Station σ) :
    (station.takeUnit? client).getD (otherwise (station.updateSession (fun session =>
        { session with client := some client }))) =
      station.serve client client.buffer otherwise := by
  unfold takeUnit? serve takeUnit
  rcases splitUnit? client.buffer with _ | ⟨unit, rest⟩ <;> rfl

theorem reassembles {station : Station σ} {client : StreamClient}
    (attached : station.session.client = some client) : station.Reassembles client := by
  constructor
  · intro linked
    have same : station.rejectExtraClient.updateSession
        (fun session => { session with client := some client }) = station.rejectExtraClient := by
      rw [← attached, ← rejectExtraClient_client station]
      rfl
    rw [← takeUnit?_getD, same]
    simp only [beginPoll, attached, linked, if_true]
  · intro deadline bytes network found
    simp only [resumeRead?, attached, found]
    exact congrArg some (takeUnit?_getD _ { client with buffer := client.buffer ++ bytes }
      Station.rest)
  · intro deadline nothing
    simp only [resumeRead?, attached, nothing]

end Station

namespace Reassembly

/-- The units of a stream client do not depend on where its reads end or when
they come: they are whole, no byte is lost or taken twice, and what stays in the
buffer at the end is too short for the unit that it begins. -/
theorem units_of_reads {σ : Type} (reads others : List (List UInt8))
    (arrivals otherArrivals : List Bool) :
    let run := (ofReads reads).after arrivals
    let other := (ofReads others).after otherArrivals
    (∀ (station : Station σ) (client : StreamClient),
      station.session.client = some client → station.Reassembles client) ∧
    (others.flatten = reads.flatten → run.IsDone → other.IsDone →
      run.units = other.units ∧ run.buffer = other.buffer) ∧
    run.units.flatten ++ run.buffer ++ run.outstanding.flatten = reads.flatten ∧
    (∀ unit ∈ run.units, IsWhole unit) ∧
    run.units <+: (splitUnits reads.flatten).1 ∧
    (run.IsDone →
      splitUnits reads.flatten = (run.units, run.buffer) ∧
      run.units.flatten ++ run.buffer = reads.flatten ∧
      Incomplete run.buffer) ∧
    (reads.flatten.length + reads.length ≤ arrivals.count true → run.IsDone) := by
  intro run other
  have follows : run.Follows reads.flatten := (Follows.ofReads reads).after arrivals
  have otherFollows : other.Follows others.flatten :=
    (Follows.ofReads others).after otherArrivals
  have bytes : run.units.flatten ++ run.buffer ++ run.outstanding.flatten = reads.flatten := by
    rw [List.append_assoc]
    exact follows.bytes
  have cutSoFar : run.units <+: (splitUnits reads.flatten).1 := by
    rw [follows.units]
    exact List.prefix_append _ _
  refine ⟨fun _ _ attached => Station.reassembles attached, ?_, bytes, ?_, cutSoFar, ?_, ?_⟩
  · intro same done otherDone
    have units := follows.of_isDone done
    rw [← same, otherFollows.of_isDone otherDone, Prod.mk.injEq] at units
    exact ⟨units.1.symm, units.2.symm⟩
  · intro unit member
    exact isWhole_of_mem_splitUnits (cutSoFar.subset member)
  · intro done
    rw [done.1, List.flatten_nil, List.append_nil] at bytes
    exact ⟨follows.of_isDone done, bytes, splitUnit?_eq_none_iff.mp done.2⟩
  · intro enough
    exact isDone_after arrivals enough

/-- A probe and a stop packet in reads that end inside a code, inside a unit and
inside the next code. -/
example :
    let probe := [0xEF, 0xFE, 0x02, 0x00] ++ List.replicate 59 0
    let stop := [0xEF, 0xFE, 0x04, 0x00] ++ List.replicate 60 0
    (ofReads [probe.take 2, probe.drop 2 ++ stop.take 10, stop.drop 10 ++ [0xEF]]).after
      [true, false, true, true, true] = ⟨[0xEF], [], [probe, stop]⟩ := by
  decide

end Reassembly
end VirtualRadio
