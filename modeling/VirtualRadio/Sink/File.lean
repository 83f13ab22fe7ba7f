import VirtualRadio.Disk
import VirtualRadio.Sink.Device
import VirtualRadio.Sink.Pace

namespace VirtualRadio

/-!
# The file sink

It appends every burst to a file: the two numbers of each sample, least
significant byte first.  Bytes gather in a buffer on their way to the file, and
a release hands over what is left there.  Each initialization opens the file
anew, at its end; a buffer that was never released is lost by it.
-/

/-- A file that is open for appending, with what has not reached it yet. -/
structure Appender where
  /-- The resolved name of the file. -/
  name : List String
  pending : List UInt8
  deriving DecidableEq, Repr

namespace Appender

/-- The most bytes that wait in the buffer. -/
def bufferSize : Nat := 8192

/-- Write bytes.  What does not fit next to the bytes that wait sends those off
first, and what would fill the whole buffer does not go through it. -/
def write (appender : Appender) (bytes : List UInt8) (disk : Disk) : Appender × Disk :=
  let overflows := decide (appender.pending.length + bytes.length > bufferSize)
  let disk := if overflows then disk.append appender.name appender.pending else disk
  let pending := if overflows then [] else appender.pending
  if bytes.length ≥ bufferSize then
    ({ appender with pending := pending }, disk.append appender.name bytes)
  else
    ({ appender with pending := pending ++ bytes }, disk)

/-- Hand all bytes that wait to the file. -/
def flush (appender : Appender) (disk : Disk) : Disk :=
  disk.append appender.name appender.pending

end Appender

/-- A sink that writes to a file. -/
structure FileSink where
  path : String
  pace : Pace
  disk : Disk
  writer : Option Appender

namespace FileSink

/-- A sink that has not opened its file. -/
def closed (path : String) (sampleRate : UInt32) (disk : Disk) : FileSink :=
  ⟨path, .idle sampleRate, disk, none⟩

/-- The bytes of a burst in the file. -/
def burstBytes (burst : List Sample) : List UInt8 :=
  burst.flatMap Sample.fileBytes

/-- Begin a call.  Work on the file takes no time; a burst takes its span. -/
def start (call : SinkCall) (now : Nat) (sink : FileSink) : FileSink × SinkWork :=
  match call with
  | .init _ =>
    match sink.disk.openAppend sink.path with
    | .error fault =>
      (sink, .atOnce call now (.error (.transport s!"{sink.path}: {fault.message}")))
    | .ok (name, disk) =>
      ({ sink with disk := disk, writer := some ⟨name, []⟩, pace := sink.pace.reset },
        .atOnce call now (.ok ()))
  | .deinit =>
    match sink.writer with
    | none => (sink, .atOnce call now (.ok ()))
    | some writer =>
      ({ sink with disk := writer.flush sink.disk, writer := none }, .atOnce call now (.ok ()))
  | .push burst =>
    match sink.writer with
    | none => (sink, .atOnce call now (.error .sinkNotReady))
    | some writer =>
      let (writer, disk) := writer.write (burstBytes burst) sink.disk
      ({ sink with disk := disk, writer := some writer },
        ⟨call, sink.pace.burstEnd burst.length now, .ok ()⟩)

/-- A burst that was waited for is part of the schedule from then on. -/
def finish (work : SinkWork) (sink : FileSink) : FileSink :=
  match work.call, work.outcome with
  | .push _, .ok () => { sink with pace := { sink.pace with next := some work.due } }
  | _, _ => sink

instance : SinkDevice FileSink where
  isReady := fun sink => sink.writer.isSome
  start := start
  finish := finish

end FileSink
end VirtualRadio
