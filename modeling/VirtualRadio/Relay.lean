import VirtualRadio.Network.Link
import VirtualRadio.Text.Hex

namespace VirtualRadio

/-!
# The relay

The program reaches the world through a relay that has the sockets.  The relay
says line by line what has come and how much time has gone by, and is told line
by line what goes out.

A line is a word and its arguments, with blanks between them: `wait` and
milliseconds, `datagram` and an address and bytes, `connect` and an address,
`bytes` and the number of a connection and bytes, `end` and the number of a
connection.  Bytes are written as pairs of hexadecimal digits.  Going out there
are `datagram`, `bytes` and `close`.
-/

/-- What a line of the relay says. -/
inductive RelayLine where
  | wait (millis : Nat)
  | event (event : NetworkEvent)

namespace RelayLine

/-- Read pairs of digits as bytes. -/
def bytes? : List Char → Option (List UInt8)
  | [] => some []
  | high :: low :: rest => do
    let high ← Text.hexDigit? high
    let low ← Text.hexDigit? low
    let rest ← bytes? rest
    return UInt8.ofNat (high * 16 + low) :: rest
  | [_] => none

/-- Read a line. -/
def parse? (line : String) : Option RelayLine :=
  match (line.splitOn " ").filter (· ≠ "") with
  | ["wait", millis] => millis.toNat?.map wait
  | ["datagram", source, bytes] => do
    let source ← SocketAddress.parse? source
    let bytes ← bytes? bytes.toList
    return event (.datagram source bytes)
  | ["datagram", source] =>
    (SocketAddress.parse? source).map (fun source => event (.datagram source []))
  | ["connect", peer] => (SocketAddress.parse? peer).map (fun peer => event (.connect peer))
  | ["bytes", connection, bytes] => do
    let connection ← connection.toNat?
    let bytes ← bytes? bytes.toList
    return event (.bytes connection bytes)
  | ["end", connection] =>
    connection.toNat?.map (fun connection => event (.endOfStream connection))
  | _ => none

/-- Bytes as pairs of digits. -/
def digits (bytes : List UInt8) : String :=
  String.ofList (bytes.flatMap Text.hexByte)

/-- What goes out on a connection between two states of it. -/
def streamLines (before : Network) (id : Nat) (after : Connection) : List String :=
  let earlier := before.connections.getD id (.fresh after.peer)
  let bytes := after.written.toList.drop earlier.written.size
  (if bytes.isEmpty then [] else [s!"bytes {id} {digits bytes}"])
    ++ if after.closed && !earlier.closed then [s!"close {id}"] else []

/-- What goes out between two states of the network. -/
def outgoing (before after : Network) : List String :=
  (after.sent.toList.drop before.sent.size).map (fun (target, bytes) =>
      s!"datagram {target.render} {digits bytes}")
    ++ after.connections.toList.zipIdx.flatMap (fun (connection, id) =>
      streamLines before id connection)

end RelayLine
end VirtualRadio
