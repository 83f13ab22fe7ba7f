import VirtualRadio.Band
import VirtualRadio.Control.Radio
import VirtualRadio.Generator.Pool
import VirtualRadio.MacAddress
import VirtualRadio.Network.Link
import VirtualRadio.Settings.Basic
import VirtualRadio.Transmit.Path

namespace VirtualRadio

/-!
# The station

A station is a radio on the network: its sockets, its registers, the transmit
path, the generators of status frames, and the session, which reads packets and
acts on them.

The session handles one packet after the other.  While it handles one it may
have to wait, for a generator to end or for the lock of the stream; its phase
says what it waits for and what comes after.  Before a wait it has taken out of
its own state what it is about to tear down, so a wait that is given up leaves
those things torn out but not torn down.

Everything that an observer is told is kept in `events`, and every call of a
handler from outside in `hooks`.
-/

/-- What a station is built from.  Times are in milliseconds. -/
structure StationPlan where
  profile : Profile
  mac : MacAddress
  bind : IpAddress
  port : UInt16
  /-- How long a poll waits for something to come. -/
  pollTimeout : Nat
  /-- How long a generator or the consumer has to end. -/
  stopTimeout : Nat
  /-- Samples in a burst. -/
  burstLength : UInt64
  /-- Bursts in the ring. -/
  ringBursts : UInt64
  bands : List Band
  /-- How long the consumer waits for a sink that is not ready. -/
  backoff : Nat
  /-- How many events an observer may be behind. -/
  eventCapacity : Nat
  deriving DecidableEq, Repr

/-- What an observer is told. -/
inductive Event where
  | registerChanged (change : RegisterChange)
  | sequenceGap (expected received : UInt32)
  | frameDropped (fault : PacketFault)
  | discoveryAnswered (active : Bool)
  | started (peer : Option SocketAddress)
  | stopped (forced : Bool)
  | clientAttached (peer : SocketAddress)
  | clientDetached
  | sinkTuned (hertz : UInt32)
  | filterSelected (band : Band)

/-- A call of a handler from outside. -/
inductive HookCall where
  | maintenance (kind : MaintenanceKind) (packet : List UInt8)
  | filter (band : Band)

/-- What becomes of maintenance packets: the reply to one, if it has any. -/
abbrev MaintenanceHandler := MaintenanceKind → List UInt8 → Option (List UInt8)

/-- The handler that leaves every maintenance packet without a reply. -/
def MaintenanceHandler.ignore : MaintenanceHandler :=
  fun _ _ => none

/-- Counts of a session. -/
structure SessionStats where
  framesReceived : Nat
  sequenceGaps : Nat
  packetsDropped : Nat
  discoveryReplies : Nat
  starts : Nat
  stops : Nat
  forcedStops : Nat
  rejectedClients : Nat
  deriving DecidableEq, Repr, Inhabited

/-- Nothing has been counted. -/
def SessionStats.zero : SessionStats := ⟨0, 0, 0, 0, 0, 0, 0, 0⟩

/-- Where a packet came from. -/
inductive Origin where
  | datagram (source : SocketAddress)
  | stream
  deriving DecidableEq, Repr

/-- The stream client, with the bytes from it that make no packet yet. -/
structure StreamClient where
  connection : Nat
  peer : SocketAddress
  buffer : List UInt8
  deriving DecidableEq, Repr

/-- What comes after a generator was stopped. -/
inductive AfterStop where
  /-- Another one starts, for the sender of a start packet. -/
  | start (origin : Origin)
  /-- A stop packet has been handled except for the client. -/
  | stop
  /-- The session shuts down. -/
  | shutdown
  deriving DecidableEq, Repr

/-- What comes after the client was dropped. -/
inductive AfterDetach where
  /-- The poll goes on to datagrams. -/
  | receive
  /-- The poll is over. -/
  | rest
  /-- A discovery probe over the stream has been answered. -/
  | answered
  /-- The session shuts down. -/
  | shutdown
  deriving DecidableEq, Repr

/-- What the session waits for. -/
inductive SessionPhase where
  /-- Nothing: no poll is going on.  The last one may have failed. -/
  | resting (failure : Option Fault)
  /-- A datagram. -/
  | receiving (deadline : Nat)
  /-- Bytes from the stream client. -/
  | reading (deadline : Nat)
  /-- The end of a generator. -/
  | stopping (generator : Nat) (deadline : Nat) (next : AfterStop)
  /-- The lock of the stream, to close it. -/
  | detaching (next : AfterDetach)
  /-- The end of a reply to the stream client. -/
  | replying (call : StreamSend)
  /-- The lock of the stream, to attach a connection. -/
  | attaching (connection : Nat)
  /-- The end of the consumer. -/
  | joining (deadline : Nat)

/-- Who makes the session poll. -/
inductive Drive where
  /-- Its owner, poll by poll. -/
  | byHand
  /-- It polls by itself until it is asked to stop or a poll fails. -/
  | looping (cancelled : Bool)
  /-- It shuts down, and this will be the result of its loop. -/
  | closing (result : Except Fault Unit)
  /-- Its loop is over. -/
  | returned (result : Except Fault Unit)
  /-- Its owner has let go of it. -/
  | dropped

/-- The session. -/
structure Session where
  client : Option StreamClient
  /-- The generator that the session may stop. -/
  generator : Option Nat
  /-- Whether the session still may stop the consumer. -/
  hasConsumer : Bool
  /-- The number of the last control frame, if numbers are being followed. -/
  lastSequence : Option UInt32
  /-- Polls in a row that found no datagram. -/
  emptyReads : Nat
  /-- The most bytes that are kept of a datagram.  The buffer for them is lost
  with a poll that is given up while it uses it. -/
  receiveRoom : Nat
  stats : SessionStats
  phase : SessionPhase
  drive : Drive

namespace Session

/-- The most bytes that are kept of a datagram. -/
def receiveSize : Nat := 2048

/-- Polls without a datagram before the listener is looked at. -/
def emptyReadsBeforeAccept : Nat := 10

/-- A session that has not polled yet. -/
def initial : Session :=
  ⟨none, none, true, none, 0, receiveSize, .zero, .resting none, .byHand⟩

end Session

/-- The tasks of a station. -/
inductive StationTask where
  | session
  | consumer
  | generator (id : Nat)
  deriving DecidableEq, Repr

/-- A station with an output sink of type `σ`. -/
structure Station (σ : Type) where
  /-- The time in milliseconds. -/
  now : Nat
  plan : StationPlan
  maintenance : MaintenanceHandler
  transport : Transport
  radio : Radio
  pool : GeneratorPool StreamSend
  path : TransmitPath σ
  session : Session
  events : Array Event
  hooks : Array HookCall
  /-- The tasks, the one that has waited longest first. -/
  order : List StationTask

namespace Station

variable {σ : Type}

/-- Whether a generator is held that counts as streaming. -/
def isStreaming (station : Station σ) : Bool :=
  station.session.generator.any station.pool.isActive

/-- Whether a stream client is attached. -/
def hasClient (station : Station σ) : Bool :=
  station.session.client.isSome

/-- Tell observers. -/
def emit (station : Station σ) (event : Event) : Station σ :=
  { station with events := station.events.push event }

/-- Note a call of a handler from outside. -/
def note (station : Station σ) (call : HookCall) : Station σ :=
  { station with hooks := station.hooks.push call }

/-- Change the session. -/
def updateSession (station : Station σ) (change : Session → Session) : Station σ :=
  { station with session := change station.session }

/-- Change the counts. -/
def count (station : Station σ) (change : SessionStats → SessionStats) : Station σ :=
  station.updateSession (fun session => { session with stats := change session.stats })

/-- Wait for something else. -/
def setPhase (station : Station σ) (phase : SessionPhase) : Station σ :=
  station.updateSession (fun session => { session with phase := phase })

/-- End a poll well. -/
def rest (station : Station σ) : Station σ :=
  station.setPhase (.resting none)

/-- The deadline of a wait of some milliseconds that begins now. -/
def deadlineIn (station : Station σ) (millis : Nat) : Nat :=
  Clock.nanos (station.now + millis)

end Station
end VirtualRadio
