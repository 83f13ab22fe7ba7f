import VirtualRadio.Settings.Basic
import VirtualRadio.Sink.Discard
import VirtualRadio.Sink.File

namespace VirtualRadio

/-!
# The sinks of the program

The settings choose between the discarding sink and the file sink.
-/

/-- One of the two sinks. -/
inductive BundledSink where
  | discard (sink : DiscardSink)
  | file (sink : FileSink)

namespace BundledSink

/-- The sink that the settings ask for, on a disk. -/
def ofSettings (settings : Settings) (disk : Disk) : BundledSink :=
  match settings.sink.kind with
  | .discard => .discard (.idle settings.sink.sampleRate)
  | .file => .file (.closed settings.sink.path settings.sink.sampleRate disk)

/-- Begin a call. -/
def start (call : SinkCall) (now : Nat) : BundledSink → BundledSink × SinkWork
  | discard sink =>
    let (sink, work) := sink.start call now
    (discard sink, work)
  | file sink =>
    let (sink, work) := sink.start call now
    (file sink, work)

/-- End a call. -/
def finish (work : SinkWork) : BundledSink → BundledSink
  | discard sink => discard (sink.finish work)
  | file sink => file (sink.finish work)

/-- Whether the sink takes bursts. -/
def isReady : BundledSink → Bool
  | discard sink => SinkDevice.isReady sink
  | file sink => SinkDevice.isReady sink

instance : SinkDevice BundledSink where
  isReady := isReady
  start := start
  finish := finish

/-- The disk of a file sink. -/
def disk? : BundledSink → Option Disk
  | discard _ => none
  | file sink => some sink.disk

end BundledSink
end VirtualRadio
