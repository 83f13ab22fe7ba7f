import VirtualRadio.Fault
import VirtualRadio.Generator.Output
import VirtualRadio.Lock
import VirtualRadio.Network.Basic

namespace VirtualRadio

/-!
# The outbound link

The link says where frames go.  An attached stream client always wins; without
one they go to the peer of the last start, and without a peer nowhere.

The write half of the stream is kept under a lock, and a write holds the lock
until the client has taken all of it.  A failed write detaches the client.  A
write that is given up in the middle leaves what was written.
-/

/-- Who may hold the lock of the stream. -/
inductive LinkUser where
  /-- The poll loop. -/
  | session
  | generator (id : Nat)
  deriving DecidableEq, Repr

/-- Where outbound frames go. -/
structure Link where
  lock : Lock LinkUser
  /-- The connection whose write half the link has. -/
  writer : Option Nat
  /-- Whether frames go to a stream client. -/
  attached : Bool
  /-- The receiver of frames while no stream client is attached. -/
  peer : Option SocketAddress

/-- What is left of a write to the stream client. -/
inductive StreamSend where
  /-- It waits for the lock. -/
  | locking (bytes : List UInt8)
  /-- It holds the lock, and these bytes are left. -/
  | writing (bytes : List UInt8)
  deriving DecidableEq, Repr

/-- The sockets and the link over them. -/
structure Transport where
  network : Network
  link : Link

namespace Transport

/-- A transport without clients. -/
def initial : Transport :=
  ⟨.quiet, ⟨.free, none, false, none⟩⟩

instance : Inhabited Transport := ⟨initial⟩

/-- What the world outside does. -/
def apply (transport : Transport) (event : NetworkEvent) : Transport :=
  { transport with network := transport.network.apply event }

/-- Whether frames have somewhere to go. -/
def isConnected (transport : Transport) : Bool :=
  transport.link.attached || transport.link.peer.isSome

/-- Set the receiver of frames while no stream client is attached. -/
def setPeer (transport : Transport) (peer : Option SocketAddress) : Transport :=
  { transport with link := { transport.link with peer := peer } }

/-- Ask for the lock of the stream. -/
def acquire (transport : Transport) (user : LinkUser) : Transport :=
  { transport with link := { transport.link with lock := transport.link.lock.acquire user } }

/-- Whether somebody holds the lock of the stream. -/
def isHeldBy (transport : Transport) (user : LinkUser) : Bool :=
  transport.link.lock.isHeldBy user

/-- Release the lock of the stream. -/
def release (transport : Transport) : Transport :=
  { transport with link := { transport.link with lock := transport.link.lock.release } }

/-- Give up the lock of the stream, held or not. -/
def abandon (transport : Transport) (user : LinkUser) : Transport :=
  { transport with link := { transport.link with lock := transport.link.lock.abandon user } }

/-- Let go of the write half, which closes the connection. -/
def dropWriter (transport : Transport) : Transport :=
  { network := match transport.link.writer with
      | some id => transport.network.close id
      | none => transport.network
    link := { transport.link with writer := none, attached := false } }

/-- Make a connection the stream client, in place of any other, with the lock
held. -/
def attach (transport : Transport) (id : Nat) : Transport :=
  let transport := transport.dropWriter
  { transport with link := { transport.link with writer := some id, attached := true } }.release

/-- Accept the connection that waits first and attach it. -/
def attachNext (transport : Transport) : Transport :=
  match transport.network.accept? with
  | some (.ok id, network) =>
    ({ transport with network := network }.acquire .session).attach id
  | some (.error _, network) => { transport with network := network }
  | none => transport

/-- Close the stream client, with the lock held.  Says whether there was one. -/
def detach (transport : Transport) : Transport × Bool :=
  (transport.release.dropWriter, transport.link.writer.isSome)

/-- Send a datagram, whoever the peer is. -/
def sendDatagram (transport : Transport) (bytes : List UInt8) (target : SocketAddress) :
    Transport × Except Fault Unit :=
  match transport.network.send bytes target with
  | .ok network => ({ transport with network := network }, .ok ())
  | .error fault => (transport, .error (.io fault.detail))

/-- Write to the stream client, with the lock held, as far as it takes the
bytes. -/
def writeStream (transport : Transport) (bytes : List UInt8) :
    Transport × SendProgress StreamSend :=
  match transport.link.writer with
  | none => (transport.release, .finished (.error .notConnected))
  | some id =>
    match transport.network.write id bytes with
    | (.failed, _) => (transport.dropWriter.release, .finished (.error .connectionLost))
    | (.rest [], network) => ({ transport with network := network }.release, .finished (.ok ()))
    | (.rest rest, network) =>
      ({ transport with network := network }, .waiting (.writing rest))

/-- Go on with a write, if it has the lock, and the client takes a byte or
fails. -/
def resumeStream? (transport : Transport) (user : LinkUser) :
    StreamSend → Option (Transport × SendProgress StreamSend)
  | .locking bytes => if transport.isHeldBy user then some (transport.writeStream bytes) else none
  | .writing bytes =>
    match transport.writeStream bytes with
    | (_, .waiting (.writing rest)) =>
      if rest.length < bytes.length then some (transport.writeStream bytes) else none
    | progress => some progress

/-- Begin a write to the stream client. -/
def startStream (transport : Transport) (user : LinkUser) (bytes : List UInt8) :
    Transport × SendProgress StreamSend :=
  (transport.acquire user, .waiting (.locking bytes))

/-- Begin to send a frame to wherever frames go at this moment. -/
def startFrame (transport : Transport) (user : LinkUser) (frame : List UInt8) :
    Transport × SendProgress StreamSend :=
  if transport.link.attached then
    transport.startStream user frame
  else
    match transport.link.peer with
    | none => (transport, .finished (.error .notConnected))
    | some peer =>
      let (transport, outcome) := transport.sendDatagram frame peer
      (transport, .finished outcome)

instance : FrameOutput Transport StreamSend where
  start := fun id frame _ transport => transport.startFrame (.generator id) frame
  resume? := fun id call _ transport => transport.resumeStream? (.generator id) call
  abandon := fun id _ transport => transport.abandon (.generator id)

/-- Go on with a write until it is over or waits. -/
def driveStream (transport : Transport) (user : LinkUser) :
    Nat → SendProgress StreamSend → Transport × SendProgress StreamSend
  | 0, progress => (transport, progress)
  | steps + 1, progress =>
    match progress with
    | .waiting call =>
      match transport.resumeStream? user call with
      | some (transport, progress) => transport.driveStream user steps progress
      | none => (transport, progress)
    | _ => (transport, progress)

/-- Make a send in one go: its outcome, or none if it would have to wait, in
which case it is given up. -/
def complete (user : LinkUser) (state : Transport × SendProgress StreamSend) :
    Transport × Option (Except Fault Unit) :=
  match state.1.driveStream user 2 state.2 with
  | (transport, .finished outcome) => (transport, some outcome)
  | (transport, _) => (transport.abandon user, none)

end Transport
end VirtualRadio
