import VirtualRadio.Address

namespace VirtualRadio

/-!
# The network

What the radio shares with the world outside: a datagram socket, a listener and
the stream connections that it has accepted or may accept.  Everything that
comes from outside waits in a queue until it is asked for, and everything that
goes out is kept.  `NetworkEvent` lists what the world outside may do.

A client may take any number of the bytes that are written to it and let the
rest wait; so a write may stop anywhere.
-/

/-- Kinds of failures of sockets. -/
inductive IoKind where
  | wouldBlock
  | interrupted
  | connectionReset
  | connectionRefused
  | timedOut
  | other
  deriving DecidableEq, Repr

/-- Whether a receive that failed this way may simply be tried again. -/
def IoKind.isTransient : IoKind → Bool
  | wouldBlock | interrupted | connectionReset | connectionRefused => true
  | timedOut | other => false

/-- A failure of a socket. -/
structure IoFault where
  kind : IoKind
  detail : String
  deriving DecidableEq, Repr

/-- How many bytes a client is going to take. -/
inductive WriteWindow where
  /-- Everything that is written to it. -/
  | unlimited
  | limited (room : Nat)
  /-- None, and writing to it fails. -/
  | broken
  deriving DecidableEq, Repr

/-- A stream connection with a client. -/
structure Connection where
  peer : SocketAddress
  /-- Bytes from the client that were not read yet. -/
  inbox : List UInt8
  /-- Whether the client has ended its stream after them. -/
  ended : Bool
  /-- The failure of the next read that finds no bytes. -/
  readFault : Option IoFault
  window : WriteWindow
  /-- Bytes that were written to the client. -/
  written : Array UInt8
  /-- Whether the radio has closed its side. -/
  closed : Bool

namespace Connection

/-- A connection on which nothing has happened. -/
def fresh (peer : SocketAddress) : Connection :=
  ⟨peer, [], false, none, .unlimited, #[], false⟩

instance : Inhabited Connection := ⟨fresh ⟨.unspecified, 0⟩⟩

end Connection

/-- What a read of a connection finds. -/
inductive StreamRead where
  | bytes (bytes : List UInt8)
  | ended
  | failed

/-- What becomes of a write to a connection. -/
inductive StreamWrite where
  /-- The client took some bytes; these are left. -/
  | rest (bytes : List UInt8)
  | failed

/-- The sockets of the radio. -/
structure Network where
  /-- Datagrams and failures that wait to be received. -/
  datagrams : List (Except IoFault (SocketAddress × List UInt8))
  /-- The failure of every send, if sends fail. -/
  sendFault : Option IoFault
  /-- Datagrams that were sent. -/
  sent : Array (SocketAddress × List UInt8)
  /-- Connections and failures that wait to be accepted. -/
  arrivals : List (Except IoFault Nat)
  /-- All connections that were ever made, by their numbers. -/
  connections : Array Connection

/-- What may happen from outside. -/
inductive NetworkEvent where
  | datagram (source : SocketAddress) (bytes : List UInt8)
  | receiveFault (fault : IoFault)
  /-- From now on sends fail, or no longer. -/
  | sendFault (fault : Option IoFault)
  | connect (peer : SocketAddress)
  | acceptFault (fault : IoFault)
  | bytes (connection : Nat) (bytes : List UInt8)
  | endOfStream (connection : Nat)
  | readFault (connection : Nat) (fault : IoFault)
  | window (connection : Nat) (window : WriteWindow)

namespace Network

/-- The network before anything happens. -/
def quiet : Network := ⟨[], none, #[], [], #[]⟩

instance : Inhabited Network := ⟨quiet⟩

/-- Change a connection. -/
def update (network : Network) (id : Nat) (change : Connection → Connection) : Network :=
  { network with connections := network.connections.modify id change }

/-- What the world outside does. -/
def apply (network : Network) : NetworkEvent → Network
  | .datagram source bytes =>
    { network with datagrams := network.datagrams ++ [.ok (source, bytes)] }
  | .receiveFault fault => { network with datagrams := network.datagrams ++ [.error fault] }
  | .sendFault fault => { network with sendFault := fault }
  | .connect peer =>
    { network with
      arrivals := network.arrivals ++ [.ok network.connections.size]
      connections := network.connections.push (.fresh peer) }
  | .acceptFault fault => { network with arrivals := network.arrivals ++ [.error fault] }
  | .bytes id bytes =>
    network.update id (fun connection => { connection with inbox := connection.inbox ++ bytes })
  | .endOfStream id => network.update id (fun connection => { connection with ended := true })
  | .readFault id fault =>
    network.update id (fun connection => { connection with readFault := some fault })
  | .window id window => network.update id (fun connection => { connection with window := window })

/-- Receive what waits first. -/
def receive? (network : Network) :
    Option (Except IoFault (SocketAddress × List UInt8) × Network) :=
  match network.datagrams with
  | [] => none
  | first :: rest => some (first, { network with datagrams := rest })

/-- Send a datagram. -/
def send (network : Network) (bytes : List UInt8) (target : SocketAddress) :
    Except IoFault Network :=
  match network.sendFault with
  | some fault => .error fault
  | none => .ok { network with sent := network.sent.push (target, bytes) }

/-- Accept what waits first. -/
def accept? (network : Network) : Option (Except IoFault Nat × Network) :=
  match network.arrivals with
  | [] => none
  | first :: rest => some (first, { network with arrivals := rest })

/-- The address of the client of a connection. -/
def peerOf (network : Network) (id : Nat) : SocketAddress :=
  (network.connections.getD id default).peer

/-- Read what has come on a connection, if anything has. -/
def read? (network : Network) (id : Nat) : Option (StreamRead × Network) :=
  let connection := network.connections.getD id default
  if !connection.inbox.isEmpty then
    some (.bytes connection.inbox,
      network.update id (fun connection => { connection with inbox := [] }))
  else if connection.readFault.isSome then
    some (.failed, network.update id (fun connection => { connection with readFault := none }))
  else if connection.ended then
    some (.ended, network)
  else
    none

/-- Write bytes to a connection, as many as the client takes. -/
def write (network : Network) (id : Nat) (bytes : List UInt8) : StreamWrite × Network :=
  match bytes with
  | [] => (.rest [], network)
  | bytes =>
    match (network.connections.getD id default).window with
    | .broken => (.failed, network)
    | .unlimited =>
      (.rest [], network.update id (fun connection =>
        { connection with written := connection.written ++ bytes.toArray }))
    | .limited room =>
      (.rest (bytes.drop room), network.update id (fun connection =>
        { connection with
          written := connection.written ++ (bytes.take room).toArray
          window := .limited (room - bytes.length) }))

/-- Close the radio's side of a connection. -/
def close (network : Network) (id : Nat) : Network :=
  network.update id (fun connection => { connection with closed := true })

end Network
end VirtualRadio
