import VirtualRadio.Sink.Bundled
import VirtualRadio.Station.Build

namespace VirtualRadio

/-!
# The program at work

The program builds a station from its settings, with one of its own sinks, and
lets it loop.  It ends when the loop ends, or at once if no station can be
built.
-/

/-- Why the program ends. -/
inductive ProgramFault where
  | cannotStart (failure : Failure)
  | ended (fault : Fault)

namespace ProgramFault

/-- A fault, and what is behind it, in words. -/
def causes (fault : Fault) : List String :=
  match fault with
  | .io detail => [fault.message, detail]
  | _ => [fault.message]

/-- What is reported at the end, unless the program crashes. -/
def message? : ProgramFault → Option String
  | cannotStart .crashed => none
  | cannotStart (.refused fault) =>
    ": ".intercalate ("failed to start HPSDR session" :: causes fault)
  | ended fault => ": ".intercalate (causes fault)

end ProgramFault

/-- A program that was started. -/
inductive Program where
  /-- It could not begin. -/
  | failed (now : Nat) (failure : Failure)
  | running (station : Station BundledSink)

namespace Program

/-- Start the program. -/
def start (settings : Settings) (disk : Disk) (binding : Binding) : Program :=
  match Station.build (.ofSettings settings) .ignore (some (.ofSettings settings disk)) binding with
  | .error failure => failed 0 failure
  | .ok (station, _) => running (station.apply .run)

/-- The time in milliseconds. -/
def now : Program → Nat
  | failed now _ => now
  | running station => station.now

/-- The sockets. -/
def transport : Program → Transport
  | failed _ _ => .initial
  | running station => station.transport

/-- What the program has written to its files. -/
def disk? : Program → Option Disk
  | failed _ _ => none
  | running station => station.path.sink.disk?

/-- Something happens on the network. -/
def receive (program : Program) (event : NetworkEvent) : Program :=
  match program with
  | failed _ _ => program
  | running station => running (TaskSystem.settle (station.apply (.network event)))

/-- Milliseconds go by. -/
def advance (program : Program) (millis : Nat) : Program :=
  match program with
  | failed now failure => failed (now + millis) failure
  | running station => running (TaskSystem.advance millis station)

/-- Whether the loop of the program is over. -/
def isOver : Program → Bool
  | failed _ _ => true
  | running station => station.hasReturned

/-- Ask the program to end. -/
def stop : Program → Program
  | failed now failure => failed now failure
  | running station => running (station.apply .cancel)

/-- Wait for the end of the program. -/
def finish : Program → Program × Except ProgramFault Unit
  | failed now failure => (failed now failure, .error (.cannotStart failure))
  | running station =>
    let (station, result) := station.awaitReturn
    (running (TaskSystem.settle (station.apply .drop)), result.mapError .ended)

end Program
end VirtualRadio
