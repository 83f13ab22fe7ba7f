import VirtualRadio.Proofs.Generator.Sends

namespace VirtualRadio

/-!
# Where a frame goes in one step

Whatever leaves the sockets between two moments is read off the sockets: bytes that were
written to a connection, and datagrams that were sent to an address.  In one step a
generator begins a frame, goes on with one, or does neither.  A frame that begins while
no client is attached is over in the same step; one for the client begins to leave when
it has the lock.
-/

/-- Where something goes that leaves the sockets. -/
inductive Destination where
  | client (connection : Nat)
  | peer (address : SocketAddress)
  deriving DecidableEq, Repr

namespace Network

variable {before after : Network}

/-- What has left for a destination between two moments, piece by piece. -/
def departed (before after : Network) : Destination → List (List UInt8)
  | .client id =>
    match (after.writtenTo id).drop (before.writtenTo id).length with
    | [] => []
    | bytes => [bytes]
  | .peer address =>
    ((after.sent.toList.drop before.sent.size).filter (fun datagram =>
      datagram.1 = address)).map Prod.snd

theorem departed_client_of_append {id : Nat} {bytes : List UInt8}
    (written : after.writtenTo id = before.writtenTo id ++ bytes) :
    (before.departed after (.client id)).flatten = bytes := by
  rw [departed, written, List.drop_left]
  split
  · rfl
  · exact List.append_nil _

theorem departed_client_of_same {id : Nat} (written : after.writtenTo id = before.writtenTo id) :
    before.departed after (.client id) = [] := by
  rw [departed, written, List.drop_length]

theorem departed_peer_of_same (sent : after.sent = before.sent) (address : SocketAddress) :
    before.departed after (.peer address) = [] := by
  rw [departed, sent, ← Array.length_toList, List.drop_length]
  rfl

/-- Nothing has left. -/
theorem departed_of_same (written : ∀ id, after.writtenTo id = before.writtenTo id)
    (sent : after.sent = before.sent) (destination : Destination) :
    before.departed after destination = [] := by
  cases destination with
  | client id => exact departed_client_of_same (written id)
  | peer address => exact departed_peer_of_same sent address

theorem departed_self (network : Network) (destination : Destination) :
    network.departed network destination = [] :=
  departed_of_same (fun _ => rfl) rfl destination

/-- A datagram has left, and nothing else. -/
theorem departed_send {bytes : List UInt8} {target : SocketAddress}
    (sends : before.send bytes target = .ok after) :
    before.departed after (.peer target) = [bytes] ∧
      ∀ other, other ≠ .peer target → before.departed after other = [] := by
  unfold Network.send at sends
  split at sends
  · contradiction
  · cases sends
    refine ⟨by simp [departed], fun other apart => ?_⟩
    cases other with
    | client id => exact departed_client_of_same rfl
    | peer address =>
        have different : target ≠ address := fun same => apart (same ▸ rfl)
        simp [departed, different]

theorem sendFault_of_send {bytes : List UInt8} {target : SocketAddress}
    (sends : before.send bytes target = .ok after) : before.sendFault = none := by
  unfold Network.send at sends
  split at sends
  · contradiction
  · assumption

theorem sent_write (network : Network) (id : Nat) (bytes : List UInt8) :
    (network.write id bytes).2.sent = network.sent := by
  unfold write
  split
  · rfl
  · split <;> rfl

end Network

namespace Transport

variable {before after : Transport} {bytes : List UInt8} {progress : SendProgress StreamSend}

/-- What leaves in a write that succeeds: bytes for the client, which are all that was
written or all but those that are left. -/
theorem departed_of_write {id : Nat} {network : Network} {rest : List UInt8}
    (known : id < before.network.connections.size)
    (written : before.network.write id bytes = (.rest rest, network)) :
    bytes = (before.network.departed network (.client id)).flatten ++ rest ∧
      ∀ other, other ≠ .client id → before.network.departed network other = [] := by
  rcases Network.write_rest known written with ⟨taken, split, adds⟩
  have sent := before.network.sent_write id bytes
  rw [written] at sent
  refine ⟨by rw [Network.departed_client_of_append adds.written, split], fun other apart => ?_⟩
  cases other with
  | client other =>
      exact Network.departed_client_of_same (adds.others other fun same => apart (same ▸ rfl))
  | peer address => exact Network.departed_peer_of_same sent address

/-- A write fails and nothing leaves, or what leaves goes to the client that the link has
before and after. -/
theorem Writes.departed (writes : before.Writes bytes after progress)
    (known : ∀ id, before.link.writer = some id → id < before.network.connections.size) :
    ((∃ fault, progress = .finished (.error fault)) ∧
      ∀ destination, before.network.departed after.network destination = []) ∨
    ∃ id rest, before.link.writer = some id ∧ after.link.writer = some id ∧
      (progress = .finished (.ok ()) ∧ rest = [] ∨ progress = .waiting (.writing rest)) ∧
      bytes = (before.network.departed after.network (.client id)).flatten ++ rest ∧
      ∀ other, other ≠ .client id → before.network.departed after.network other = [] := by
  cases writes with
  | nowhere none => exact .inl ⟨⟨_, rfl⟩, before.network.departed_self⟩
  | failed id writer =>
      have dropped := before.dropWriter_keeps
      have sent : before.dropWriter.network.sent = before.network.sent := by
        unfold dropWriter
        split <;> rfl
      exact .inl ⟨⟨_, rfl⟩, Network.departed_of_same dropped.written sent⟩
  | whole id network writer written =>
      have left := departed_of_write (known id writer) written
      exact .inr ⟨id, [], writer, writer, .inl ⟨rfl, rfl⟩, left⟩
  | part id network rest writer written =>
      have left := departed_of_write (known id writer) written
      exact .inr ⟨id, rest, writer, writer, .inr rfl, left⟩

end Transport

namespace Generator

variable {before after : Generator StreamSend} {transport moved : Transport}

/-- The frame that a generator begins in its next step, if it begins one. -/
def begins? (generator : Generator StreamSend) (now : Nat) : Option (List UInt8) :=
  match generator.phase with
  | .pacing inputs =>
    if !generator.cancelled && Clock.isDue generator.deadline now then
      some (generator.cursor.frame inputs)
    else none
  | _ => none

theorem cancelled_of_begins? {generator : Generator StreamSend} {frame : List UInt8} {now : Nat}
    (begins : generator.begins? now = some frame) : generator.cancelled = false := by
  unfold begins? at begins
  split at begins
  · rw [Option.ite_none_right_eq_some, Bool.and_eq_true, Bool.not_eq_true'] at begins
    exact begins.1.1
  · contradiction

theorem begins?_of_send? {generator : Generator StreamSend} {call : StreamSend} {now : Nat}
    (sends : generator.send? = some call) : generator.begins? now = none := by
  rw [begins?, phase_of_send? sends]

/-- The number of frames that a generator has dealt with. -/
def handled (generator : Generator StreamSend) : Nat :=
  generator.sent + generator.failed

/-- What one step of a generator does with a frame. -/
inductive Sends (id now : Nat) (before : Generator StreamSend) (transport : Transport) :
    Generator StreamSend → Transport → Prop
  /-- It neither begins a frame nor goes on with one. -/
  | pause (after : Generator StreamSend) (quiet : before.send? = none)
      (none : before.begins? now = none) (quietAfter : after.send? = .none)
      (sent : after.sent = before.sent) (failed : after.failed = before.failed) :
      Sends id now before transport after transport
  /-- A frame for the client waits for its turn. -/
  | queue (frame : List UInt8) (after : Generator StreamSend) (quiet : before.send? = none)
      (begins : before.begins? now = some frame) (attached : transport.link.attached = true)
      (asks : after.send? = some (.locking frame))
      (sent : after.sent = before.sent) (failed : after.failed = before.failed) :
      Sends id now before transport after (transport.acquire (.generator id))
  /-- A frame has nowhere to go, or its datagram cannot be sent. -/
  | refuse (frame : List UInt8) (after : Generator StreamSend) (quiet : before.send? = none)
      (begins : before.begins? now = some frame) (attached : transport.link.attached = false)
      (cause : transport.link.peer = none ∨ transport.network.sendFault.isSome = true)
      (quietAfter : after.send? = none) (sent : after.sent = before.sent)
      (failed : after.failed = before.failed + 1) : Sends id now before transport after transport
  /-- A frame goes to the peer in a datagram. -/
  | cast (frame : List UInt8) (after : Generator StreamSend) (target : SocketAddress)
      (network : Network) (quiet : before.send? = none)
      (begins : before.begins? now = some frame) (attached : transport.link.attached = false)
      (peer : transport.link.peer = some target)
      (sends : transport.network.send frame target = .ok network)
      (quietAfter : after.send? = none) (sent : after.sent = before.sent + 1)
      (failed : after.failed = before.failed) :
      Sends id now before transport after { transport with network := network }
  /-- It goes on with a frame for the client. -/
  | resume (call : StreamSend) (moved : Transport) (progress : SendProgress StreamSend)
      (sending : before.send? = some call)
      (resumed : transport.resumeStream? (.generator id) call = some (moved, progress)) :
      Sends id now before transport (before.follow progress) moved

theorem step?_sends {id now : Nat} {bank : RegisterBank}
    (stepped : before.step? id bank now transport = some (after, moved)) :
    Sends id now before transport after moved := by
  cases phase : before.phase with
  | fresh =>
      simp only [step?, phase, Option.some.injEq, Prod.mk.injEq] at stepped
      rcases stepped with ⟨rfl, rfl⟩
      exact .pause _ (by rw [send?, phase]) (by rw [begins?, phase]) rfl rfl rfl
  | turning =>
      simp only [step?, phase, Option.some.injEq, Prod.mk.injEq] at stepped
      rcases stepped with ⟨rfl, rfl⟩
      exact .pause _ (by rw [send?, phase]) (by rw [begins?, phase]) rfl rfl rfl
  | pacing inputs =>
      have quiet : before.send? = none := by rw [send?, phase]
      simp only [step?, phase] at stepped
      split at stepped
      · next cancelled =>
          cases stepped
          exact .pause _ quiet (by simp [begins?, phase, cancelled]) rfl rfl rfl
      · next wanted =>
          split at stepped
          · next due =>
              have begins : before.begins? now = some (before.cursor.frame inputs) := by
                simp [begins?, phase, wanted, due]
              simp only [FrameOutput.start, Transport.startFrame] at stepped
              split at stepped
              · next attached =>
                  cases stepped
                  exact .queue _ _ quiet begins attached rfl rfl rfl
              · next lost =>
                  have unattached := Bool.eq_false_iff.mpr lost
                  cases target : transport.link.peer with
                  | none =>
                      rw [target] at stepped
                      cases stepped
                      exact .refuse _ _ quiet begins unattached (.inl target) rfl rfl rfl
                  | some peer =>
                      simp only [target, Transport.sendDatagram] at stepped
                      cases sent : transport.network.send (before.cursor.frame inputs) peer with
                      | error fault =>
                          rw [sent] at stepped
                          cases stepped
                          refine .refuse _ _ quiet begins unattached (.inr ?_) rfl rfl rfl
                          unfold Network.send at sent
                          split at sent
                          · next faulty => rw [faulty]; rfl
                          · contradiction
                      | ok network =>
                          rw [sent] at stepped
                          cases stepped
                          exact .cast _ _ peer network quiet begins unattached target sent rfl rfl
                            rfl
          · contradiction
  | sending call =>
      simp only [step?, phase, Option.map_eq_some_iff] at stepped
      rcases stepped with ⟨⟨moved, progress⟩, resumed, same⟩
      cases same
      exact .resume call _ progress (by rw [send?, phase]) resumed
  | ended =>
      rw [step?, phase] at stepped
      contradiction
  | crashed =>
      rw [step?, phase] at stepped
      contradiction
  | aborted =>
      rw [step?, phase] at stepped
      contradiction

end Generator
end VirtualRadio
