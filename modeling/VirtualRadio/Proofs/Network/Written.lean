import VirtualRadio.Network.Link

namespace VirtualRadio

/-!
# What is written to connections

Bytes reach a connection by a write and in no other way, and a write adds to
what was written before what the client takes.  Everything else that the radio
or the world outside does to the sockets leaves what was written as it is.

Connections are numbered in the order in which they come, so the number of a
new one is the number of those that there were.
-/

namespace Network

variable {before middle after network : Network} {id other : Nat}

/-- What was written to a connection. -/
def writtenTo (network : Network) (id : Nat) : List UInt8 :=
  (network.connections.getD id default).written.toList

/-- The connections that wait to be accepted. -/
def waitingIds (network : Network) : List Nat :=
  network.arrivals.filterMap Except.toOption

theorem getD_update (network : Network) (id other : Nat) (change : Connection → Connection) :
    (network.update id change).connections.getD other default =
      if id = other ∧ id < network.connections.size then
        change (network.connections.getD other default)
      else network.connections.getD other default := by
  unfold update
  by_cases inside : other < network.connections.size
  · by_cases same : id = other
    · simp [same, inside, Array.getElem_modify]
    · simp [same, inside, Array.getElem_modify]
  · have outside : ¬ (id = other ∧ id < network.connections.size) := by omega
    simp [outside, inside]

/-- A change of the sockets that writes nothing, and after which only some
connections fewer may wait to be accepted. -/
structure Keeps (before after : Network) : Prop where
  written : ∀ id, after.writtenTo id = before.writtenTo id
  size : after.connections.size = before.connections.size
  arrivals : after.arrivals <:+ before.arrivals

namespace Keeps

theorem refl (network : Network) : Keeps network network :=
  ⟨fun _ => rfl, rfl, List.suffix_rfl⟩

theorem trans (first : Keeps before middle) (second : Keeps middle after) : Keeps before after where
  written := fun id => (second.written id).trans (first.written id)
  size := second.size.trans first.size
  arrivals := second.arrivals.trans first.arrivals

theorem update (network : Network) (id : Nat) {change : Connection → Connection}
    (same : ∀ connection, (change connection).written = connection.written) :
    Keeps network (network.update id change) where
  written := by
    intro other
    unfold writtenTo
    rw [getD_update]
    split
    · rw [same]
    · rfl
  size := by
    unfold Network.update
    exact Array.size_modify
  arrivals := List.suffix_rfl

theorem close (network : Network) (id : Nat) : Keeps network (network.close id) :=
  update network id fun _ => rfl

theorem read? {found : StreamRead} (reads : before.read? id = some (found, after)) :
    Keeps before after := by
  unfold Network.read? at reads
  simp only at reads
  split at reads
  · cases reads
    exact update before id fun _ => rfl
  · split at reads
    · cases reads
      exact update before id fun _ => rfl
    · split at reads
      · cases reads
        exact refl before
      · contradiction

theorem receive? {received : Except IoFault (SocketAddress × List UInt8)}
    (receives : before.receive? = some (received, after)) : Keeps before after := by
  unfold Network.receive? at receives
  split at receives
  · contradiction
  · cases receives
    exact ⟨fun _ => rfl, rfl, List.suffix_rfl⟩

theorem send {bytes : List UInt8} {target : SocketAddress}
    (sends : before.send bytes target = .ok after) : Keeps before after := by
  unfold Network.send at sends
  split at sends
  · contradiction
  · cases sends
    exact ⟨fun _ => rfl, rfl, List.suffix_rfl⟩

theorem waitingIds_suffix (keeps : Keeps before after) :
    after.waitingIds <:+ before.waitingIds := by
  rcases keeps.arrivals with ⟨front, same⟩
  refine ⟨front.filterMap Except.toOption, ?_⟩
  rw [waitingIds, waitingIds, ← same, List.filterMap_append]

end Keeps

/-- A read leaves alone how many bytes the clients are going to take. -/
theorem window_read? {found : StreamRead} (reads : before.read? id = some (found, after))
    (other : Nat) : (after.connections.getD other default).window =
      (before.connections.getD other default).window := by
  unfold read? at reads
  simp only at reads
  split at reads
  · cases reads
    rw [getD_update]
    split <;> rfl
  · split at reads
    · cases reads
      rw [getD_update]
      split <;> rfl
    · split at reads
      · cases reads
        rfl
      · contradiction

theorem accept?_eq_some {accepted : Except IoFault Nat}
    (accepts : before.accept? = some (accepted, after)) :
    before.arrivals = accepted :: after.arrivals ∧ after.connections = before.connections := by
  unfold accept? at accepts
  split at accepts
  · contradiction
  · next first rest arrivals =>
      cases accepts
      exact ⟨arrivals, rfl⟩

/-- What comes first is taken off those that wait. -/
theorem accept?_keeps {accepted : Except IoFault Nat}
    (accepts : before.accept? = some (accepted, after)) : Keeps before after := by
  rcases accept?_eq_some accepts with ⟨arrivals, connections⟩
  refine ⟨fun id => by rw [writtenTo, connections, writtenTo], by rw [connections], ?_⟩
  rw [arrivals]
  exact List.suffix_cons _ _

theorem waitingIds_accept? (accepts : before.accept? = some (.ok id, after)) :
    before.waitingIds = id :: after.waitingIds := by
  rw [waitingIds, (accept?_eq_some accepts).1]
  rfl

/-! ## The world outside -/

theorem writtenTo_of_size_le (outside : network.connections.size ≤ id) :
    network.writtenTo id = [] := by
  have unknown : network.connections.getD id default = default := by
    rw [Array.getD_eq_getD_getElem?, Array.getElem?_eq_none outside, Option.getD_none]
  rw [writtenTo, unknown]
  rfl

/-- What the world outside does: it writes nothing, and a new connection is the only
thing that it adds. -/
structure Grows (before after : Network) (news : List Nat) : Prop where
  written : ∀ id, after.writtenTo id = before.writtenTo id
  waiting : after.waitingIds = before.waitingIds ++ news
  size : after.connections.size = before.connections.size + news.length
  news : news = [] ∨ news = [before.connections.size]

theorem Keeps.grows (keeps : Keeps before after) (same : after.waitingIds = before.waitingIds) :
    Grows before after [] :=
  ⟨keeps.written, same.trans (List.append_nil _).symm, keeps.size, .inl rfl⟩

theorem apply_grows (network : Network) (event : NetworkEvent) :
    ∃ news, Grows network (network.apply event) news := by
  have updated : ∀ id (change : Connection → Connection),
      (∀ connection, (change connection).written = connection.written) →
      ∃ news, Grows network (network.update id change) news := fun id change same =>
    ⟨[], (Keeps.update network id same).grows rfl⟩
  cases event with
  | connect peer =>
      refine ⟨[network.connections.size], ?_, ?_, ?_, .inr rfl⟩
      · intro id
        by_cases inside : id < network.connections.size
        · have before : id < network.connections.size + 1 := by omega
          simp [writtenTo, apply, inside, before, Array.getElem_push]
        · rw [writtenTo_of_size_le (Nat.le_of_not_lt inside)]
          by_cases last : id = network.connections.size
          · simp [writtenTo, apply, last, Connection.fresh]
          · refine writtenTo_of_size_le ?_
            rw [apply, Array.size_push]
            omega
      · simp [waitingIds, apply, Except.toOption]
      · simp [apply]
  | bytes id bytes => exact updated id _ fun _ => rfl
  | endOfStream id => exact updated id _ fun _ => rfl
  | readFault id fault => exact updated id _ fun _ => rfl
  | window id window => exact updated id _ fun _ => rfl
  | acceptFault fault =>
      refine ⟨[], fun _ => rfl, ?_, rfl, .inl rfl⟩
      simp [waitingIds, apply, Except.toOption]
  | _ => exact ⟨[], fun _ => rfl, (List.append_nil _).symm, rfl, .inl rfl⟩

/-! ## Writes -/

/-- A change of the sockets that writes some bytes to one connection. -/
structure Adds (before : Network) (id : Nat) (bytes : List UInt8) (after : Network) : Prop where
  written : after.writtenTo id = before.writtenTo id ++ bytes
  others : ∀ other, other ≠ id → after.writtenTo other = before.writtenTo other
  size : after.connections.size = before.connections.size
  arrivals : after.arrivals = before.arrivals

theorem update_adds (known : id < network.connections.size) (bytes : List UInt8)
    (change : Connection → Connection)
    (adds : ∀ connection, (change connection).written = connection.written ++ bytes.toArray) :
    Adds network id bytes (network.update id change) where
  written := by
    simp only [writtenTo, getD_update, known, and_self, if_true, adds]
    simp
  others := by
    intro other apart
    rw [writtenTo, getD_update, if_neg fun both => apart both.1.symm, writtenTo]
  size := Array.size_modify
  arrivals := rfl

/-- The client takes the first bytes and leaves the others. -/
theorem write_rest (known : id < before.connections.size) {bytes rest : List UInt8}
    (writes : before.write id bytes = (.rest rest, after)) :
    ∃ taken, bytes = taken ++ rest ∧ Adds before id taken after := by
  cases bytes with
  | nil =>
      cases writes
      exact ⟨[], rfl, (List.append_nil _).symm, fun _ _ => rfl, rfl, rfl⟩
  | cons byte bytes =>
      simp only [write] at writes
      split at writes
      · cases writes
      · cases writes
        exact ⟨byte :: bytes, (List.append_nil _).symm, update_adds known _ _ fun _ => rfl⟩
      · next room _ =>
          cases writes
          exact ⟨(byte :: bytes).take room, (List.take_append_drop room _).symm,
            update_adds known _ _ fun _ => rfl⟩

/-- Whether writes to a connection fail. -/
def isBroken (network : Network) (id : Nat) : Bool :=
  match (network.connections.getD id default).window with
  | .broken => true
  | _ => false

theorem isBroken_of_write {bytes : List UInt8}
    (failed : before.write id bytes = (.failed, after)) : before.isBroken id = true := by
  unfold write at failed
  unfold isBroken
  split at failed
  · cases failed
  · split at failed
    · next window => rw [window]
    · cases failed
    · cases failed

end Network

/-! ## The stream client -/

namespace Transport

variable {before after : Transport} {bytes : List UInt8} {progress : SendProgress StreamSend}

theorem dropWriter_keeps (transport : Transport) :
    transport.network.Keeps transport.dropWriter.network := by
  unfold dropWriter
  split
  · exact .close _ _
  · exact .refl _

/-- Once more, what a write to the stream client may come to. -/
inductive Writes (before : Transport) (bytes : List UInt8) :
    Transport → SendProgress StreamSend → Prop
  | nowhere (none : before.link.writer = none) :
      Writes before bytes before.release (.finished (.error .notConnected))
  | failed (id : Nat) (writer : before.link.writer = some id) :
      Writes before bytes before.dropWriter.release (.finished (.error .connectionLost))
  | whole (id : Nat) (network : Network) (writer : before.link.writer = some id)
      (written : before.network.write id bytes = (.rest [], network)) :
      Writes before bytes ({ before with network := network }.release) (.finished (.ok ()))
  | part (id : Nat) (network : Network) (rest : List UInt8) (writer : before.link.writer = some id)
      (written : before.network.write id bytes = (.rest rest, network)) :
      Writes before bytes { before with network := network } (.waiting (.writing rest))

/-- The lock is kept as long as bytes are left, and released when the write is over. -/
theorem Writes.lock (writes : Writes before bytes after progress) :
    (∃ rest, progress = .waiting (.writing rest) ∧ after.link.lock = before.link.lock) ∨
      (∃ outcome, progress = .finished outcome) ∧
        after.link.lock = before.link.lock.release := by
  cases writes with
  | nowhere => exact .inr ⟨⟨_, rfl⟩, rfl⟩
  | failed => exact .inr ⟨⟨_, rfl⟩, rfl⟩
  | whole => exact .inr ⟨⟨_, rfl⟩, rfl⟩
  | part id network rest => exact .inl ⟨rest, rfl, rfl⟩

/-- A write leaves the peer as it is. -/
theorem Writes.peer (writes : Writes before bytes after progress) :
    after.link.peer = before.link.peer := by
  cases writes <;> rfl

theorem writeStream_writes (before : Transport) (bytes : List UInt8) :
    Writes before bytes (before.writeStream bytes).1 (before.writeStream bytes).2 := by
  cases writer : before.link.writer with
  | none =>
      simp only [writeStream, writer]
      exact .nowhere writer
  | some id =>
      rcases written : before.network.write id bytes with ⟨rest | _, network⟩
      · cases rest with
        | nil =>
            simp only [writeStream, writer, written]
            exact .whole id network writer written
        | cons byte rest =>
            simp only [writeStream, writer, written]
            exact .part id network _ writer written
      · simp only [writeStream, writer, written]
        exact .failed id writer

/-- A send that goes on writes, and does so with the lock held or begun to write. -/
theorem writeStream_of_resumeStream? {user : LinkUser} {call : StreamSend}
    (resumed : before.resumeStream? user call = some (after, progress)) :
    ∃ bytes, (call = .locking bytes ∧ before.isHeldBy user = true ∨ call = .writing bytes) ∧
      before.writeStream bytes = (after, progress) := by
  cases call with
  | locking bytes =>
      simp only [resumeStream?, Option.ite_none_right_eq_some, Option.some.injEq] at resumed
      exact ⟨bytes, .inl ⟨rfl, resumed.1⟩, resumed.2⟩
  | writing bytes =>
      rcases result : before.writeStream bytes with ⟨transport, reached⟩
      simp only [resumeStream?, result] at resumed
      refine ⟨bytes, .inr rfl, ?_⟩
      split at resumed
      · split at resumed
        · cases resumed
          exact result
        · contradiction
      · cases resumed
        exact result

theorem resumeStream?_eq_some {user : LinkUser} {call : StreamSend}
    (resumed : before.resumeStream? user call = some (after, progress)) :
    ∃ bytes, (call = .locking bytes ∧ before.isHeldBy user = true ∨ call = .writing bytes) ∧
      Writes before bytes after progress := by
  rcases writeStream_of_resumeStream? resumed with ⟨bytes, goesOn, written⟩
  have writes := before.writeStream_writes bytes
  rw [written] at writes
  exact ⟨bytes, goesOn, writes⟩

/-- A write fails only if there is no client, or he is not to be reached. -/
theorem isBroken_of_resumeStream? {user : LinkUser} {call : StreamSend} {fault : Fault} {id : Nat}
    (resumed : before.resumeStream? user call = some (after, .finished (.error fault)))
    (writer : before.link.writer = some id) : before.network.isBroken id = true := by
  rcases writeStream_of_resumeStream? resumed with ⟨bytes, _, written⟩
  unfold writeStream at written
  rw [writer] at written
  simp only at written
  split at written
  · next failed => exact Network.isBroken_of_write failed
  · cases written
  · cases written

/-- A write that has begun is held up only by a client that takes nothing. -/
theorem resumeStream?_eq_none_iff {user : LinkUser} :
    before.resumeStream? user (.writing bytes) = none ↔
      bytes ≠ [] ∧ ∃ id, before.link.writer = some id ∧
        (before.network.connections.getD id default).window = .limited 0 := by
  cases writer : before.link.writer with
  | none => simp [resumeStream?, writeStream, writer]
  | some id =>
      have only : (∃ other, some id = some other ∧
          (before.network.connections.getD other default).window = .limited 0) ↔
          (before.network.connections.getD id default).window = .limited 0 := by simp
      rw [only]
      cases bytes with
      | nil => simp [resumeStream?, writeStream, writer, Network.write]
      | cons byte bytes =>
          cases window : (before.network.connections.getD id default).window with
          | unlimited =>
              simp only [resumeStream?, writeStream, writer, Network.write, window]
              simp
          | broken =>
              simp only [resumeStream?, writeStream, writer, Network.write, window]
              simp
          | limited room =>
              simp only [resumeStream?, writeStream, writer, Network.write, window]
              cases room with
              | zero => simp
              | succ room =>
                  have fewer : (bytes.drop room).length < bytes.length + 1 := by
                    rw [List.length_drop]
                    omega
                  rw [List.drop_succ_cons]
                  cases left : bytes.drop room with
                  | nil => simp
                  | cons next rest =>
                      rw [left] at fewer
                      simpa using fewer

end Transport
end VirtualRadio
