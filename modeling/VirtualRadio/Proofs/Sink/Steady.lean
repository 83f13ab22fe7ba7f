import Mathlib.Data.List.Destutter
import VirtualRadio.Band
import VirtualRadio.Proofs.Sink.Observed

namespace VirtualRadio

/-!
# Steady sinks

A sink is *steady* if it never fails and is ready exactly from each
initialization to the next release.  What becomes of it is then seen from the
calls that begin and end its use.
-/

/-! ## Tunings -/

/-- The frequencies that requests tune a sink to, one after the other: those
that it can transmit on, without repeating one that it runs on already. -/
def tunings (requests : List (Option UInt32)) : List UInt32 :=
  ((requests.filterMap id).filter isTransmitFrequency).destutter (· ≠ ·)

/-- The calls that tune a sink to frequencies one after the other, and release
it in the end. -/
def callsFor (frequencies : List UInt32) : List SinkCall :=
  frequencies.flatMap (fun hertz => [.init hertz, .deinit])

theorem callsFor_concat (frequencies : List UInt32) (hertz : UInt32) :
    callsFor (frequencies ++ [hertz]) = callsFor frequencies ++ [.init hertz, .deinit] :=
  List.flatMap_append

/-- Before the last release, the last initialization is the one for the last
frequency. -/
theorem dropLast_callsFor_concat (frequencies : List UInt32) (hertz : UInt32) :
    (callsFor (frequencies ++ [hertz])).dropLast = callsFor frequencies ++ [.init hertz] := by
  rw [callsFor_concat, List.append_cons]
  exact List.dropLast_concat

theorem destutter'_concat (first last : UInt32) (middle : List UInt32) :
    (middle ++ [last]).destutter' (· ≠ ·) first =
      if (middle.destutter' (· ≠ ·) first).getLast? = some last then
        middle.destutter' (· ≠ ·) first
      else
        middle.destutter' (· ≠ ·) first ++ [last] := by
  induction middle generalizing first with
  | nil => by_cases same : first = last <;> simp [same]
  | cons next middle ih =>
      rw [List.cons_append]
      by_cases same : first = next
      · rw [List.destutter'_cons_neg _ (not_not.mpr same),
          List.destutter'_cons_neg _ (not_not.mpr same), ih]
      · have kept : middle.destutter' (· ≠ ·) next ≠ [] := List.destutter'_ne_nil _ _
        rw [List.destutter'_cons_pos _ same, List.destutter'_cons_pos _ same, ih,
          List.getLast?_cons_of_ne_nil kept]
        split <;> rfl

/-- A frequency that comes last is left out when it repeats the one before. -/
theorem destutter_concat (frequencies : List UInt32) (last : UInt32) :
    (frequencies ++ [last]).destutter (· ≠ ·) =
      if (frequencies.destutter (· ≠ ·)).getLast? = some last then
        frequencies.destutter (· ≠ ·)
      else
        frequencies.destutter (· ≠ ·) ++ [last] := by
  cases frequencies with
  | nil => rfl
  | cons first frequencies => exact destutter'_concat first last frequencies

section Tunings

variable {requests : List (Option UInt32)} {hertz : UInt32}

theorem tunings_concat (within : isTransmitFrequency hertz = true) :
    tunings (requests ++ [some hertz]) =
      if (tunings requests).getLast? = some hertz then tunings requests
      else tunings requests ++ [hertz] := by
  have wanted : ((requests ++ [some hertz]).filterMap id).filter isTransmitFrequency =
      (requests.filterMap id).filter isTransmitFrequency ++ [hertz] := by
    rw [List.filterMap_append, List.filter_append]
    exact congrArg _ (List.filter_cons_of_pos within)
  rw [tunings, wanted]
  exact destutter_concat _ hertz

/-- A request that names no frequency, or none that a sink can transmit on,
makes no difference. -/
theorem tunings_concat_of_unfit {frequency : Option UInt32}
    (unfit : ∀ hertz, frequency = some hertz → isTransmitFrequency hertz = false) :
    tunings (requests ++ [frequency]) = tunings requests := by
  have nothing : ([frequency].filterMap id).filter isTransmitFrequency = [] := by
    rcases frequency with _ | hertz
    · rfl
    · exact List.filter_cons_of_neg (Bool.eq_false_iff.mp (unfit hertz rfl))
  rw [tunings, List.filterMap_append, List.filter_append, nothing, List.append_nil]
  rfl

end Tunings

/-! ## Steady sinks -/

/-- Whether a call begins or ends the use of a sink. -/
def SinkCall.isTuning : SinkCall → Bool
  | init _ | deinit => true
  | push _ => false

/-- Whether a sink is steady at a moment.  No call fails; an initialization
leaves it ready and a release does not; and while neither is at work, nothing
changes that. -/
def SinkMoment.isSteady : SinkMoment → Bool
  | began call outcome wasReady isReady =>
    outcome.isOk && (call.isTuning || isReady == wasReady)
  | ended (.init _) outcome _ isReady => outcome.isOk && isReady
  | ended .deinit outcome _ isReady => outcome.isOk && !isReady
  | ended (.push _) outcome wasReady isReady => outcome.isOk && isReady == wasReady
  | changed atWork wasReady isReady =>
    atWork.any (fun (call, _) => call.isTuning) || isReady == wasReady

namespace SinkMoment

section Steady

variable {call : SinkCall} {hertz : UInt32} {burst : List Sample} {outcome : Except Fault Unit}
  {atWork : Option (SinkCall × Except Fault Unit)} {wasReady isReady : Bool}

theorem outcome_of_isSteady
    (steady : (ended call outcome wasReady isReady).isSteady = true) : outcome = .ok () := by
  rcases outcome with fault | ⟨⟩
  · cases call <;> exact absurd steady Bool.false_ne_true
  · rfl

theorem isReady_of_init_isSteady
    (steady : (ended (.init hertz) outcome wasReady isReady).isSteady = true) : isReady = true :=
  (Bool.and_eq_true_iff.mp steady).2

theorem isReady_of_push_isSteady
    (steady : (began (.push burst) outcome wasReady isReady).isSteady = true) :
    isReady = wasReady :=
  eq_of_beq (Bool.and_eq_true_iff.mp steady).2

theorem isReady_of_pushed_isSteady
    (steady : (ended (.push burst) outcome wasReady isReady).isSteady = true) :
    isReady = wasReady :=
  eq_of_beq (Bool.and_eq_true_iff.mp steady).2

theorem isReady_of_changed_isSteady
    (steady : (changed atWork wasReady isReady).isSteady = true)
    (other : ∀ call outcome, atWork = some (call, outcome) → call.isTuning = false) :
    isReady = wasReady := by
  rw [isSteady] at steady
  rcases atWork with _ | ⟨call, outcome⟩
  · exact eq_of_beq steady
  · change (call.isTuning || isReady == wasReady) = true at steady
    rw [other call outcome rfl] at steady
    exact eq_of_beq steady

end Steady

/-- The calls that began or ended the use of a sink. -/
def tuningCalls (moments : List SinkMoment) : List SinkCall :=
  (calls moments).filter SinkCall.isTuning

/-- The last of them before each burst is an initialization. -/
def IsBacked (moments : List SinkMoment) : Prop :=
  ∀ before burst later, calls moments = before ++ .push burst :: later →
    ∃ hertz, (before.filter SinkCall.isTuning).getLast? = some (.init hertz)

variable {moments : List SinkMoment} {moment : SinkMoment}

theorem calls_concat_of_none (silent : moment.begun? = none) :
    calls (moments ++ [moment]) = calls moments := by
  rw [calls_append]
  exact List.append_right_eq_self.mpr (List.filterMap_cons_none silent)

theorem calls_concat_began (moments : List SinkMoment) (call : SinkCall)
    (outcome : Except Fault Unit) (wasReady isReady : Bool) :
    calls (moments ++ [.began call outcome wasReady isReady]) = calls moments ++ [call] :=
  calls_append moments _

theorem IsBacked.silent (backed : IsBacked moments) (silent : moment.begun? = none) :
    IsBacked (moments ++ [moment]) := by
  rw [IsBacked, calls_concat_of_none silent]
  exact backed

/-- The next call may be a burst only after an initialization. -/
theorem IsBacked.began (backed : IsBacked moments) {call : SinkCall}
    {outcome : Except Fault Unit} {wasReady isReady : Bool}
    (behind : call.isTuning = true ∨
      ∃ hertz, (tuningCalls moments).getLast? = some (.init hertz)) :
    IsBacked (moments ++ [.began call outcome wasReady isReady]) := by
  intro before burst later split
  rw [calls_concat_began] at split
  rcases List.eq_nil_or_concat later with rfl | ⟨sooner, last, rfl⟩
  · have ends := List.append_inj' split rfl
    cases ends.2
    rcases behind with tunes | tuned
    · cases tunes
    · exact ends.1 ▸ tuned
  · rw [List.concat_eq_append, ← List.cons_append, ← List.append_assoc] at split
    exact backed before burst sooner (List.append_inj' split rfl).1

theorem tuningCalls_concat_of_none (silent : moment.begun? = none) :
    tuningCalls (moments ++ [moment]) = tuningCalls moments := by
  rw [tuningCalls, calls_concat_of_none silent]
  rfl

end SinkMoment

/-- Whether the sink was steady at all moments. -/
def ObservedSink.IsSteady {σ : Type} (observed : ObservedSink σ) : Prop :=
  ∀ moment ∈ observed.moments, moment.isSteady = true

theorem ObservedSink.IsSteady.last {σ : Type} {observed : ObservedSink σ}
    (steady : observed.IsSteady) {moments : List SinkMoment} {moment : SinkMoment}
    (noted : observed.moments = moments ++ [moment]) : moment.isSteady = true :=
  steady moment (noted ▸ List.mem_concat_self)

theorem ObservedSink.IsSteady.sooner {σ : Type} {observed sooner : ObservedSink σ}
    (steady : observed.IsSteady) (grown : sooner.moments <+: observed.moments) :
    sooner.IsSteady :=
  fun moment seen => steady moment (grown.subset seen)

end VirtualRadio
