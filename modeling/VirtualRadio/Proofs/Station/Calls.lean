import VirtualRadio.Proofs.Station.Turns

namespace VirtualRadio

/-!
# Packets that are handed over

The owner of a session may hand it packets himself, one after the other, instead
of letting it poll.  He waits for the end of each call before he makes the next;
while he waits, the tasks go on, time goes by and the world outside does as it
likes.

In such a run the session waits only for what a packet makes it tear down, and
never for packets.
-/

/-- Whether something may happen while packets are handed to a session. -/
def Happening.suitsCalls {σ : Type} : Happening σ → Bool
  | packet _ _ | step _ | requeue _ | wait _ => true
  | request (.network _) | request (.sink _) => true
  | _ => false

/-- Whether a session that waits so rests or acts on a packet that was handed to it. -/
def SessionPhase.isOfCall : SessionPhase → Bool
  | resting _ | replying _ => true
  | stopping _ _ (.start _) | stopping _ _ .stop => true
  | detaching .rest | detaching .answered => true
  | _ => false

namespace Station

variable {σ : Type} {before after station : Station σ}

/-- A session that is its owner's, and rests or acts on a packet that he has handed
to it. -/
structure TakesCalls (station : Station σ) : Prop where
  drive : station.session.drive = .byHand
  phase : station.session.phase.isOfCall = true

theorem takesCalls_of_isResting (own : station.isOwnersTurn = true)
    (resting : station.isResting = true) : station.TakesCalls := by
  refine ⟨byHand_of_isOwnersTurn own, ?_⟩
  unfold isResting at resting
  split at resting
  · next phase =>
      rw [phase]
      rfl
  · contradiction

theorem rest_takesCalls (byHand : station.session.drive = .byHand) : station.rest.TakesCalls :=
  ⟨byHand, rfl⟩

theorem dropClient_takesCalls (byHand : station.session.drive = .byHand) (next : AfterDetach)
    (ofCall : (SessionPhase.detaching next).isOfCall = true) :
    (station.dropClient next).TakesCalls := by
  unfold dropClient
  split
  · cases next with
    | rest => exact rest_takesCalls byHand
    | answered => exact rest_takesCalls byHand
    | receive => contradiction
    | shutdown => contradiction
  · exact ⟨byHand, ofCall⟩

theorem finishDetach_takesCalls (byHand : station.session.drive = .byHand) {next : AfterDetach}
    (ofCall : (SessionPhase.detaching next).isOfCall = true) :
    (station.finishDetach next).TakesCalls := by
  cases next with
  | rest => exact rest_takesCalls byHand
  | answered => exact rest_takesCalls byHand
  | receive => contradiction
  | shutdown => contradiction

theorem afterStop_takesCalls (byHand : station.session.drive = .byHand) {next : AfterStop}
    (ofCall : next.isShutdown = false) : (station.afterStop next).TakesCalls := by
  cases next with
  | start origin => exact ⟨byHand, rfl⟩
  | stop =>
      refine dropClient_takesCalls ?_ .rest rfl
      exact byHand
  | shutdown => contradiction

theorem finishStop_takesCalls (byHand : station.session.drive = .byHand) (outcome : StopOutcome)
    {next : AfterStop} (ofCall : next.isShutdown = false) :
    (station.finishStop outcome next).TakesCalls := by
  refine afterStop_takesCalls ?_ ofCall
  exact byHand

theorem stopGenerator_takesCalls (byHand : station.session.drive = .byHand) (next : AfterStop)
    (ofCall : next.isShutdown = false) : (station.stopGenerator next).TakesCalls := by
  unfold stopGenerator
  split
  · exact afterStop_takesCalls byHand ofCall
  · cases next with
    | start origin => exact ⟨byHand, rfl⟩
    | stop => exact ⟨byHand, rfl⟩
    | shutdown => contradiction

theorem handlePacket_takesCalls (byHand : station.session.drive = .byHand)
    (packet : List UInt8) (origin : Origin) : (station.handlePacket packet origin).TakesCalls := by
  unfold handlePacket
  split
  · exact rest_takesCalls byHand
  · exact rest_takesCalls ((station.handleControl_alike packet _).drive.trans byHand)
  · unfold handleDiscovery
    cases origin with
    | datagram source =>
        simp only
        split <;> exact rest_takesCalls byHand
    | stream =>
        simp only
        split
        · exact rest_takesCalls byHand
        · exact ⟨byHand, rfl⟩
  · exact stopGenerator_takesCalls byHand (.start origin) rfl
  · refine stopGenerator_takesCalls ?_ .stop rfl
    exact byHand
  · unfold handleMaintenance
    simp only
    split <;> exact rest_takesCalls byHand

namespace TakesCalls

theorem resume? (takes : before.TakesCalls) (resumed : before.resume? = some after) :
    after.TakesCalls := by
  rcases takes with ⟨byHand, ofCall⟩
  unfold Station.resume? at resumed
  cases phase : before.session.phase with
  | resting failure =>
      rw [phase] at resumed
      contradiction
  | stopping id deadline next =>
      rw [phase] at ofCall resumed
      rcases Option.map_eq_some_iff.mp resumed with ⟨⟨outcome, pool, transport⟩, _, rfl⟩
      refine finishStop_takesCalls ?_ outcome ?_
      · exact byHand
      cases next <;> first | rfl | contradiction
  | detaching next =>
      rw [phase] at ofCall
      simp only [phase, Option.ite_none_right_eq_some, Option.some.injEq] at resumed
      rw [← resumed.2]
      exact finishDetach_takesCalls byHand ofCall
  | replying call =>
      rw [phase] at resumed
      rcases Option.map_eq_some_iff.mp resumed with ⟨⟨transport, progress⟩, _, rfl⟩
      cases progress with
      | waiting rest => exact ⟨byHand, rfl⟩
      | _ =>
          refine dropClient_takesCalls ?_ .answered rfl
          exact byHand
  | _ =>
      rw [phase] at ofCall
      contradiction

/-- A session whose owner hands it packets goes on with them in its steps. -/
theorem sessionStep? (takes : station.TakesCalls) : station.sessionStep? = station.resume? := by
  rw [Station.sessionStep?, takes.drive]

theorem happen [SinkDevice σ] (takes : station.TakesCalls) {happening : Happening σ}
    (suits : happening.suitsCalls = true) : (station.happen happening).TakesCalls := by
  cases happening with
  | packet bytes origin =>
      rw [Station.happen]
      split
      · exact handlePacket_takesCalls takes.drive bytes origin
      · exact takes
  | step task =>
      rw [Station.happen]
      cases task with
      | session =>
          cases stepped : station.sessionStep? with
          | none =>
              rw [step?, stepped]
              exact takes
          | some after =>
              rw [step?, stepped]
              exact takes.resume? (takes.sessionStep? ▸ stepped)
      | consumer =>
          have beside := station.consumer_beside
          exact ⟨beside.session ▸ takes.drive, beside.session ▸ takes.phase⟩
      | generator id =>
          cases stepped :
            station.pool.step? id station.radio.bank station.now station.transport with
          | none =>
              simp only [step?, stepped]
              exact takes
          | some moved =>
              simp only [step?, stepped]
              exact ⟨takes.drive, takes.phase⟩
  | requeue task => exact ⟨takes.drive, takes.phase⟩
  | wait millis => exact ⟨takes.drive, takes.phase⟩
  | transport change => contradiction
  | request request =>
      cases request with
      | network event => exact ⟨takes.drive, takes.phase⟩
      | sink change => exact ⟨takes.drive, takes.phase⟩
      | _ => contradiction

end TakesCalls

end Station
end VirtualRadio
