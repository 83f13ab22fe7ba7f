import VirtualRadio.Proofs.Station.Happenings

namespace VirtualRadio
namespace Station

/-!
# Histories

A history is what may become of a station that is used as it is meant to be.  Its
owner makes a request only when the session is his and at rest, and takes the
session back only when its loop is over.  He may ask the loop to stop at any
moment and let go of the session at any moment, and everything that comes from
outside or from the tasks comes in any order.  Packets reach the session only
through its polls.

What is not permitted does not happen, so every list of happenings is a history.
-/

variable {σ : Type} [SinkDevice σ]

/-- Whether something may happen. -/
def permits (station : Station σ) : Happening σ → Bool
  | .request .poll | .request .shutdown | .request .run =>
    station.isOwnersTurn && station.isResting
  | .request .reclaim => station.hasReturned
  | .packet _ _ | .transport _ => false
  | _ => true

/-- Let something happen, if it may. -/
def proceed (station : Station σ) (happening : Happening σ) : Station σ :=
  if station.permits happening then station.happen happening else station

/-- Let one thing happen after the other, as far as each may. -/
def history (station : Station σ) (happenings : List (Happening σ)) : Station σ :=
  happenings.foldl proceed station

/-- Whether nothing of a kind happens. -/
def avoids (kind : Station σ → Happening σ → Bool) (station : Station σ) :
    List (Happening σ) → Bool
  | [] => true
  | happening :: happenings =>
    !(station.permits happening && kind station happening) &&
      (station.proceed happening).avoids kind happenings

/-- A connection comes, and a loop polls in vain until it accepts it. -/
def untilAccepted : List (Happening σ) :=
  .request (.network (.connect ⟨.unspecified, 1024⟩)) ::
    (List.replicate 11 [.step .session, .wait 1, .step .session]).flatten

/-- The client asks for streaming as soon as it is attached. -/
def untilStreaming : List (Happening σ) :=
  .request .run :: untilAccepted ++
    [.step .session, .request (.network (.bytes 0 (Command.start 1))), .step .session,
      .step .session]

variable {holds : Station σ → Prop} {start : Station σ} {happenings : List (Happening σ)}

/-- What each thing that may happen keeps, a history keeps. -/
theorem history_invariant (keeps : ∀ {station} happening, holds station →
      station.permits happening = true → holds (station.happen happening))
    (begins : holds start) (happenings : List (Happening σ)) :
    holds (start.history happenings) := by
  induction happenings generalizing start with
  | nil => exact begins
  | cons happening happenings ih =>
      apply ih
      unfold proceed
      split
      · next permitted => exact keeps happening begins permitted
      · exact begins

/-- What is kept by each thing that may happen but those of one kind, a history without
them keeps. -/
theorem history_keeps {kind : Station σ → Happening σ → Bool}
    (keeps : ∀ {station} happening, holds station → station.permits happening = true →
      kind station happening = false → holds (station.happen happening))
    (begins : holds start) (avoided : start.avoids kind happenings = true) :
    holds (start.history happenings) := by
  induction happenings generalizing start with
  | nil => exact begins
  | cons happening happenings ih =>
      rw [avoids, Bool.and_eq_true, Bool.not_eq_true'] at avoided
      refine ih ?_ avoided.2
      unfold proceed
      split
      · next permitted =>
          rw [permitted, Bool.true_and] at avoided
          exact keeps happening begins permitted avoided.1
      · exact begins

theorem avoids_or {kind other : Station σ → Happening σ → Bool}
    (avoided : start.avoids kind happenings = true)
    (otherAvoided : start.avoids other happenings = true) :
    start.avoids (fun station happening => kind station happening || other station happening)
      happenings = true := by
  induction happenings generalizing start with
  | nil => rfl
  | cons happening happenings ih =>
      simp only [avoids, Bool.and_eq_true, Bool.not_eq_true'] at avoided otherAvoided ⊢
      refine ⟨?_, ih avoided.2 otherAvoided.2⟩
      rw [Bool.and_or_distrib_left, avoided.1, otherAvoided.1, Bool.or_false]

end Station
end VirtualRadio
