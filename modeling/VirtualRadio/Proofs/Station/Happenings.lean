import VirtualRadio.Proofs.Schedule
import VirtualRadio.Station.Build
import VirtualRadio.Station.Run

namespace VirtualRadio

/-!
# What may happen to a station

A station is asked for something, one of its tasks makes a step, time goes by,
or its sockets change by themselves.  Nothing is said of when: a request may
come in the middle of a poll, a step that is not possible does nothing, and a
wait may be given up, so every list of happenings is a run.  A packet may also
be handed to the session directly, while it is at rest.

Schedules add nothing to this.  Whatever the owner of a station does with it,
the station goes where some list of happenings leads.
-/

/-- What may happen next to a station. -/
inductive Happening (σ : Type) where
  | request (request : Request σ)
  | packet (bytes : List UInt8) (origin : Origin)
  | step (task : StationTask)
  /-- A task goes to the end of the queue. -/
  | requeue (task : StationTask)
  | wait (millis : Nat)
  /-- The sockets or the link change by themselves. -/
  | transport (change : Transport → Transport)

namespace Station

variable {σ : Type} [SinkDevice σ]

/-- Let something happen. -/
def happen (station : Station σ) : Happening σ → Station σ
  | .request request => station.apply request
  | .packet bytes origin => if station.isResting then station.handlePacket bytes origin else station
  | .step task => (step? task station).getD station
  | .requeue task => TaskSystem.requeue task station
  | .wait millis => { station with now := station.now + millis }
  | .transport change => { station with transport := change station.transport }

/-- Let one thing happen after the other. -/
def afterAll (station : Station σ) (happenings : List (Happening σ)) : Station σ :=
  happenings.foldl happen station

/-- Whether a station may become another one. -/
def Reaches (before after : Station σ) : Prop :=
  ∃ happenings, before.afterAll happenings = after

namespace Reaches

variable {before middle after : Station σ}

theorem refl (station : Station σ) : Reaches station station :=
  ⟨[], rfl⟩

theorem trans (first : Reaches before middle) (second : Reaches middle after) :
    Reaches before after := by
  rcases first with ⟨happenings, rfl⟩
  rcases second with ⟨later, rfl⟩
  exact ⟨happenings ++ later, List.foldl_append⟩

theorem happen (reached : Reaches before middle) (happening : Happening σ) :
    Reaches before (middle.happen happening) :=
  reached.trans ⟨[happening], rfl⟩

end Reaches

/-- Schedules lead nowhere else. -/
theorem keeps_reaches (start : Station σ) : TaskSystem.Keeps start.Reaches where
  step := by
    intro task before after reached stepped
    have made : before.happen (.step task) = after := by
      rw [happen]
      exact congrArg (Option.getD · before) stepped
    exact made ▸ reached.happen (.step task)
  requeue := fun task _ reached => reached.happen (.requeue task)
  later := by
    intro time state later reached
    have sum : state.now + (time - state.now) = time := Nat.add_sub_cancel' later
    have waited : state.happen (.wait (time - state.now)) = TaskSystem.atTime time state := by
      rw [happen, sum]
      rfl
    exact waited ▸ reached.happen (.wait _)

variable {start station : Station σ}

theorem Reaches.settle (reached : start.Reaches station) :
    start.Reaches (TaskSystem.settle station) :=
  start.keeps_reaches.settle reached

theorem Reaches.poll (reached : start.Reaches station) : start.Reaches station.poll.1 :=
  start.keeps_reaches.advanceUntil isResting (reached.happen (.request .poll))

theorem Reaches.pollTimes (reached : start.Reaches station) (times : Nat) :
    start.Reaches (station.pollTimes times).1 := by
  induction times generalizing station with
  | zero => exact reached
  | succ times ih =>
      have polled := reached.poll
      rw [Station.pollTimes]
      split
      · next well =>
          rw [well] at polled
          exact ih polled
      · exact polled

theorem Reaches.awaitReturn (reached : start.Reaches station) :
    start.Reaches station.awaitReturn.1 :=
  (start.keeps_reaches.advanceUntil hasReturned reached).happen (.request .reclaim)

/-- Whatever is done with a station, it goes where happenings lead. -/
theorem Reaches.perform (reached : start.Reaches station) (call : StationCall σ) :
    start.Reaches (station.perform call).1 := by
  cases call with
  | request request => exact (reached.happen (.request request)).settle
  | advance millis => exact start.keeps_reaches.advance millis reached
  | poll times => exact (reached.pollTimes times).settle
  | shutdown =>
      have asked := reached.happen (.request .shutdown)
      exact Reaches.settle (start.keeps_reaches.advanceUntil isResting asked)
  | stop => exact (reached.happen (.request .cancel)).awaitReturn.settle

end Station
end VirtualRadio
