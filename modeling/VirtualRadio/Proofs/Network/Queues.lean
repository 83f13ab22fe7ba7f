import VirtualRadio.Generator.Pool
import VirtualRadio.Proofs.Network.Written

namespace VirtualRadio

/-!
# What waits at the sockets

Datagrams and connections wait at the sockets until they are taken off, and come after
those that wait already.  Nothing that is sent, read or written has a part in them.
A connection that the radio has closed stays closed.
-/

namespace Network

variable {before middle after network : Network}

/-- Whether the radio has closed its side of a connection. -/
def isClosed (network : Network) (id : Nat) : Bool :=
  (network.connections.getD id default).closed

theorem isClosed_update (network : Network) (other : Nat) {change : Connection → Connection}
    (keeps : ∀ connection : Connection,
      connection.closed = true → (change connection).closed = true)
    {id : Nat} (closed : network.isClosed id = true) :
    (network.update other change).isClosed id = true := by
  unfold isClosed
  rw [getD_update]
  split
  · exact keeps _ closed
  · exact closed

theorem isClosed_close {id : Nat} (known : id < network.connections.size) :
    (network.close id).isClosed id = true := by
  unfold isClosed close
  rw [getD_update, if_pos ⟨rfl, known⟩]

theorem size_of_isClosed {id : Nat} (closed : network.isClosed id = true) :
    id < network.connections.size := by
  refine Nat.lt_of_not_le fun outside => ?_
  have unknown : network.connections.getD id default = default := by
    rw [Array.getD_eq_getD_getElem?, Array.getElem?_eq_none outside, Option.getD_none]
  rw [isClosed, unknown] at closed
  contradiction

/-- The world outside opens nothing again. -/
theorem isClosed_apply (network : Network) (event : NetworkEvent) (id : Nat)
    (closed : network.isClosed id = true) : (network.apply event).isClosed id = true := by
  have updated : ∀ other (change : Connection → Connection),
      (∀ connection : Connection, connection.closed = true →
        (change connection).closed = true) →
      (network.update other change).isClosed id = true := fun other _ keeps =>
    isClosed_update network other keeps closed
  cases event with
  | connect peer =>
      have known := size_of_isClosed closed
      have later : id < network.connections.size + 1 := Nat.lt_succ_of_lt known
      simpa [isClosed, apply, known, later, Array.getElem_push] using closed
  | bytes other bytes => exact updated other _ fun _ closed => closed
  | endOfStream other => exact updated other _ fun _ closed => closed
  | readFault other fault => exact updated other _ fun _ closed => closed
  | window other window => exact updated other _ fun _ closed => closed
  | _ => exact closed

/-- A change that takes nothing of what waits, adds nothing to it, and opens nothing
again. -/
structure SameQueues (before after : Network) : Prop where
  datagrams : after.datagrams = before.datagrams
  arrivals : after.arrivals = before.arrivals
  closed : ∀ id, before.isClosed id = true → after.isClosed id = true

namespace SameQueues

theorem refl (network : Network) : SameQueues network network :=
  ⟨rfl, rfl, fun _ closed => closed⟩

theorem trans (first : SameQueues before middle) (second : SameQueues middle after) :
    SameQueues before after :=
  ⟨second.datagrams.trans first.datagrams, second.arrivals.trans first.arrivals,
    fun id closed => second.closed id (first.closed id closed)⟩

theorem update (network : Network) (id : Nat) {change : Connection → Connection}
    (keeps : ∀ connection : Connection,
      connection.closed = true → (change connection).closed = true) :
    SameQueues network (network.update id change) :=
  ⟨rfl, rfl, fun _ => isClosed_update network id keeps⟩

theorem close (network : Network) (id : Nat) : SameQueues network (network.close id) :=
  update network id fun _ _ => rfl

theorem send {bytes : List UInt8} {target : SocketAddress}
    (sends : before.send bytes target = .ok after) : SameQueues before after := by
  unfold Network.send at sends
  split at sends
  · contradiction
  · cases sends
    exact ⟨rfl, rfl, fun _ closed => closed⟩

theorem read? {id : Nat} {found : StreamRead} (reads : before.read? id = some (found, after)) :
    SameQueues before after := by
  unfold Network.read? at reads
  simp only at reads
  split at reads
  · cases reads
    exact update before id fun _ closed => closed
  · split at reads
    · cases reads
      exact update before id fun _ closed => closed
    · split at reads
      · cases reads
        exact refl before
      · contradiction

theorem write {id : Nat} {bytes : List UInt8} {written : StreamWrite}
    (writes : before.write id bytes = (written, after)) : SameQueues before after := by
  cases bytes with
  | nil =>
      cases writes
      exact refl before
  | cons byte bytes =>
      simp only [Network.write] at writes
      split at writes <;> cases writes
      · exact refl before
      · exact update before id fun _ closed => closed
      · exact update before id fun _ closed => closed

end SameQueues
end Network

namespace Transport

theorem dropWriter_sameQueues (transport : Transport) :
    transport.network.SameQueues transport.dropWriter.network := by
  unfold dropWriter
  split
  · exact .close _ _
  · exact .refl _

theorem Writes.sameQueues {before after : Transport} {bytes : List UInt8}
    {progress : SendProgress StreamSend} (writes : before.Writes bytes after progress) :
    before.network.SameQueues after.network := by
  cases writes with
  | nowhere => exact .refl _
  | failed => exact before.dropWriter_sameQueues
  | whole id network writer written => exact .write written
  | part id network rest writer written => exact .write written

theorem sendDatagram_sameQueues (transport : Transport) (bytes : List UInt8)
    (target : SocketAddress) :
    transport.network.SameQueues (transport.sendDatagram bytes target).1.network := by
  unfold sendDatagram
  cases sent : transport.network.send bytes target with
  | error fault => exact .refl _
  | ok network => exact .send sent

theorem startFrame_sameQueues (transport : Transport) (user : LinkUser) (frame : List UInt8) :
    transport.network.SameQueues (transport.startFrame user frame).1.network := by
  unfold startFrame
  split
  · exact .refl _
  · split
    · exact .refl _
    · exact transport.sendDatagram_sameQueues frame _

end Transport

theorem GeneratorPool.step?_sameQueues {pool after : GeneratorPool StreamSend} {id now : Nat}
    {bank : RegisterBank} {transport moved : Transport}
    (stepped : pool.step? id bank now transport = some (after, moved)) :
    transport.network.SameQueues moved.network := by
  simp only [step?, Option.bind_eq_bind, Option.bind_eq_some_iff, Option.pure_def,
    Option.some.injEq, Prod.mk.injEq] at stepped
  rcases stepped with ⟨generator, _, ⟨later, output⟩, stepped, _, rfl⟩
  unfold Generator.step? at stepped
  split at stepped
  · cases stepped
    exact .refl _
  · cases stepped
    exact .refl _
  · split at stepped
    · cases stepped
      exact .refl _
    · split at stepped
      · cases stepped
        exact transport.startFrame_sameQueues _ _
      · contradiction
  · rcases Option.map_eq_some_iff.mp stepped with ⟨⟨transport, progress⟩, goesOn, same⟩
    cases same
    rcases Transport.resumeStream?_eq_some goesOn with ⟨bytes, _, writes⟩
    exact writes.sameQueues
  all_goals contradiction

end VirtualRadio
