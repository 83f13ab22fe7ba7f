import VirtualRadio.Sink.Device

namespace VirtualRadio

/-!
# A scripted sink

A sink for rehearsals.  Whether its calls fail and how long they take is
prescribed from outside and may be changed at any time, also while a call is at
work: a call keeps what was prescribed when it began.  It notes every call.
-/

/-- What is prescribed to a scripted sink.  Durations are in milliseconds. -/
structure SinkScript where
  refusesInit : Bool
  refusesDeinit : Bool
  refusesBursts : Bool
  initMillis : Nat
  deinitMillis : Nat
  burstMillis : Nat
  deriving DecidableEq, Repr

/-- Nothing fails, and only bursts take time. -/
def SinkScript.plain : SinkScript :=
  ⟨false, false, false, 0, 0, 1⟩

instance : Inhabited SinkScript := ⟨.plain⟩

/-- A sink that follows a script. -/
structure ScriptedSink where
  script : SinkScript
  ready : Bool
  /-- The calls, each with the time at which it began. -/
  calls : Array (Nat × SinkCall)

namespace ScriptedSink

/-- A sink that has not been used. -/
def unused (script : SinkScript) (ready : Bool) : ScriptedSink :=
  ⟨script, ready, #[]⟩

/-- How a call will end. -/
def outcome (script : SinkScript) : SinkCall → Except Fault Unit
  | .init _ => if script.refusesInit then .error (.transport "init refused") else .ok ()
  | .deinit => if script.refusesDeinit then .error (.transport "deinit refused") else .ok ()
  | .push _ => if script.refusesBursts then .error (.transport "push refused") else .ok ()

/-- How long a call takes.  A refused burst takes no time. -/
def millis (script : SinkScript) : SinkCall → Nat
  | .init _ => script.initMillis
  | .deinit => script.deinitMillis
  | .push _ => if script.refusesBursts then 0 else script.burstMillis

/-- Note a call and begin it. -/
def start (call : SinkCall) (now : Nat) (sink : ScriptedSink) : ScriptedSink × SinkWork :=
  ({ sink with calls := sink.calls.push (now, call) },
    ⟨call, Clock.nanos (now + millis sink.script call), outcome sink.script call⟩)

/-- A call that succeeded has its effect at its end. -/
def finish (work : SinkWork) (sink : ScriptedSink) : ScriptedSink :=
  match work.call, work.outcome with
  | .init _, .ok () => { sink with ready := true }
  | .deinit, .ok () => { sink with ready := false }
  | _, _ => sink

instance : SinkDevice ScriptedSink where
  isReady := ready
  start := start
  finish := finish

end ScriptedSink
end VirtualRadio
