import VirtualRadio.Proofs.Stream.Reassembly

namespace VirtualRadio

/-!
# Datagrams in a stream

A datagram has its length from the network; in a stream the length of a packet
is read off its first four bytes.  The two agree on every datagram that is a
packet, except for a request to set an address whose first address byte is the
subcommand of another maintenance packet: a stream takes as many bytes for it
as for that one.

So packets that are sent one after the other over a stream are taken off it as
they were sent, if no such request is among them.
-/

namespace Packet

/-- The length of a packet. -/
def length : Packet → Nat
  | controlIq _ => frameLength
  | discovery => discoveryLength
  | stop => commandLength
  | start _ => commandLength
  | maintenance .program => programLength
  | maintenance .erase => eraseLength
  | maintenance .setIp => setIpLength

/-- Whether a datagram is a request to set an address that begins like another
maintenance packet. -/
def IsDisguised (datagram : List UInt8) : Prop :=
  (classify datagram).toOption = some (.maintenance .setIp) ∧
    (datagram[3]? = some 0x01 ∨ datagram[3]? = some 0x02)

instance (datagram : List UInt8) : Decidable (IsDisguised datagram) :=
  inferInstanceAs (Decidable (_ ∧ _))

theorem ofLength_eq_ok {kind : FixedPacket} {expected length : Nat} {packet found : Packet}
    (accepted : ofLength kind expected length packet = .ok found) :
    length = expected ∧ packet = found := by
  unfold ofLength at accepted
  split at accepted
  · next same => exact ⟨same, Except.ok.inj accepted⟩
  · contradiction

theorem classifyMaintenance_eq_ok {subcommand : UInt8} {length : Nat} {packet : Packet}
    (accepted : classifyMaintenance subcommand length = .ok packet) :
    length = packet.length ∧
      ((subcommand = 0x01 ∧ packet = .maintenance .program) ∨
        (subcommand = 0x02 ∧ packet = .maintenance .erase) ∨
        packet = .maintenance .setIp) := by
  unfold classifyMaintenance at accepted
  split at accepted
  · next program =>
      cases accepted
      exact ⟨program.2, .inl ⟨program.1, rfl⟩⟩
  · split at accepted
    · next erase =>
        cases accepted
        exact ⟨erase.2, .inr (.inl ⟨erase.1, rfl⟩)⟩
    · split at accepted
      · next same =>
          cases accepted
          exact ⟨same, .inr (.inr rfl)⟩
      · contradiction

/-- A packet has the length of its kind, and a stream takes as many bytes for
it, unless it is a request to set an address in disguise. -/
theorem classify_eq_ok {bytes : List UInt8} {packet : Packet}
    (accepted : classify bytes = .ok packet) :
    ∃ code, PacketCode.ofBytes? bytes = some code ∧ bytes.length = packet.length ∧
      (code.unitLength = packet.length ↔
        ¬ (packet = .maintenance .setIp ∧ (code.subcommand = 0x01 ∨ code.subcommand = 0x02))) := by
  unfold classify at accepted
  rcases found : PacketCode.ofBytes? bytes with _ | code
  · rw [found] at accepted
    contradiction
  · rw [found] at accepted
    refine ⟨code, rfl, ?_⟩
    simp only at accepted
    split at accepted
    · next magic =>
        unfold PacketCode.unitLength
        rw [if_pos magic]
        -- Both tables are read at the same command and subcommand.
        generalize code.command = command, code.subcommand = subcommand at accepted ⊢
        split at accepted
        · rcases ofLength_eq_ok accepted with ⟨same, rfl⟩
          exact ⟨same, by simp [length]⟩
        · rcases ofLength_eq_ok accepted with ⟨same, rfl⟩
          exact ⟨same, by simp [length]⟩
        · rcases ofLength_eq_ok accepted with ⟨same, rfl⟩
          exact ⟨same, by simp [length]⟩
        · split at accepted
          · next mode named =>
              rcases ofLength_eq_ok accepted with ⟨same, rfl⟩
              exact ⟨same, by simp [named, length]⟩
          · contradiction
        · rcases classifyMaintenance_eq_ok accepted with ⟨same, ⟨rfl, rfl⟩ | ⟨rfl, rfl⟩ | rfl⟩
          · exact ⟨same, by simp [length]⟩
          · exact ⟨same, by simp [length]⟩
          · refine ⟨same, ?_⟩
            split <;> simp_all [length, programLength, eraseLength, setIpLength]
        · contradiction
    · contradiction

theorem length_le_frameLength (packet : Packet) : packet.length ≤ frameLength := by
  unfold length
  split <;> exact Nat.le_of_ble_eq_true rfl

end Packet

theorem PacketCode.getElem?_three {bytes : List UInt8} {code : PacketCode}
    (found : ofBytes? bytes = some code) : bytes[3]? = some code.subcommand := by
  rcases bytes with _ | ⟨first, _ | ⟨second, _ | ⟨command, _ | ⟨subcommand, rest⟩⟩⟩⟩
  all_goals cases found
  rfl

/-- The two ways to tell how long a packet is differ just on those in
disguise. -/
theorem isWhole_iff_of_classify {datagram : List UInt8} {packet : Packet}
    (accepted : Packet.classify datagram = .ok packet) :
    IsWhole datagram ↔ ¬ Packet.IsDisguised datagram := by
  rcases Packet.classify_eq_ok accepted with ⟨code, begins, same, unit⟩
  have whole : IsWhole datagram ↔ code.unitLength = packet.length := by
    unfold IsWhole
    rw [begins, same]
    simp [eq_comm]
  have disguised : Packet.IsDisguised datagram ↔ packet = .maintenance .setIp ∧
      (code.subcommand = 0x01 ∨ code.subcommand = 0x02) := by
    unfold Packet.IsDisguised
    rw [accepted, PacketCode.getElem?_three begins]
    simp [Except.toOption]
  rw [whole, disguised]
  exact unit

theorem splitUnit?_of_isWhole {unit : List UInt8} (whole : IsWhole unit) (rest : List UInt8) :
    splitUnit? (unit ++ rest) = some (unit, rest) := by
  rcases whole with ⟨code, begins, same⟩
  have alone : splitUnit? unit = some (unit, []) := by
    have enough : ¬ unit.length < code.unitLength := Nat.not_lt.mpr (Nat.le_of_eq same.symm)
    rw [splitUnit?_of_ofBytes? begins, if_neg enough, ← same, List.take_length, List.drop_length]
  exact splitUnit?_append alone rest

/-- Whole units are cut apart where they were joined. -/
theorem splitUnits_flatten {units : List (List UInt8)} (whole : ∀ unit ∈ units, IsWhole unit) :
    splitUnits units.flatten = (units, []) := by
  induction units with
  | nil => exact splitUnits_of_none rfl
  | cons unit units ih =>
      rw [List.forall_mem_cons] at whole
      rw [List.flatten_cons, splitUnits_of_some (splitUnit?_of_isWhole whole.1 _), ih whole.2]

namespace Reassembly

/-- Datagrams that are packets, none in disguise, are taken off a stream as they
were sent, wherever its reads end.  So the packets of the stream are those of
the datagrams; no datagram is longer than what is kept of one. -/
theorem datagrams_of_reads (datagrams : List (List UInt8))
    (accepted : ∀ datagram ∈ datagrams, (Packet.classify datagram).isOk = true)
    (plain : ∀ datagram ∈ datagrams, ¬ Packet.IsDisguised datagram) :
    splitUnits datagrams.flatten = (datagrams, []) ∧
    ∀ reads arrivals, reads.flatten = datagrams.flatten →
      reads.flatten.length + reads.length ≤ arrivals.count true →
      (ofReads reads).after arrivals = ⟨[], [], datagrams⟩ ∧
      ((ofReads reads).after arrivals).units.map Packet.classify =
        datagrams.map (fun datagram => Packet.classify (datagram.take Session.receiveSize)) := by
  have packets : ∀ datagram ∈ datagrams, ∃ packet, Packet.classify datagram = .ok packet := by
    intro datagram member
    rcases found : Packet.classify datagram with fault | packet
    · have fine := accepted datagram member
      rw [found] at fine
      contradiction
    · exact ⟨packet, rfl⟩
  have cut : splitUnits datagrams.flatten = (datagrams, []) := by
    apply splitUnits_flatten
    intro datagram member
    rcases packets datagram member with ⟨packet, found⟩
    exact (isWhole_iff_of_classify found).mpr (plain datagram member)
  refine ⟨cut, ?_⟩
  intro reads arrivals same enough
  have done : ((ofReads reads).after arrivals).IsDone := isDone_after arrivals enough
  have units := ((Follows.ofReads reads).after arrivals).of_isDone done
  rw [same, cut, Prod.mk.injEq] at units
  have all : (ofReads reads).after arrivals = ⟨[], [], datagrams⟩ := by
    rcases ended : (ofReads reads).after arrivals with ⟨buffer, outstanding, taken⟩
    rw [ended] at units done
    rcases units with ⟨rfl, rfl⟩
    rcases done with ⟨rfl, _⟩
    rfl
  refine ⟨all, ?_⟩
  rw [all]
  apply List.map_congr_left
  intro datagram member
  rcases packets datagram member with ⟨packet, found⟩
  rcases Packet.classify_eq_ok found with ⟨code, _, length, _⟩
  have short := packet.length_le_frameLength
  rw [List.take_of_length_le (by rw [length]; exact Nat.le_trans short (by decide))]

/-- A block of firmware, a request to set an address and a stop packet, in reads
that end inside a code and inside a packet. -/
theorem datagrams_of_three_reads :
    let datagrams := [[0xEF, 0xFE, 0x03, 0x01] ++ List.replicate 260 7,
      [0xEF, 0xFE, 0x03, 0x00] ++ List.replicate 59 1, Command.stop]
    let stream := datagrams.flatten
    (∀ datagram ∈ datagrams, (Packet.classify datagram).isOk = true) ∧
    (∀ datagram ∈ datagrams, ¬ Packet.IsDisguised datagram) ∧
    splitUnits stream = (datagrams, []) ∧
    (ofReads [stream.take 2, (stream.drop 2).take 300, stream.drop 302]).after
      (List.replicate 394 true) = ⟨[], [], datagrams⟩ := by
  intro datagrams stream
  have accepted : ∀ datagram ∈ datagrams, (Packet.classify datagram).isOk = true := by
    decide +kernel
  have plain : ∀ datagram ∈ datagrams, ¬ Packet.IsDisguised datagram := by
    decide +kernel
  have cut := datagrams_of_reads datagrams accepted plain
  refine ⟨accepted, plain, cut.1, ?_⟩
  exact (cut.2 [stream.take 2, (stream.drop 2).take 300, stream.drop 302]
    (List.replicate 394 true) (by decide +kernel) (by decide +kernel)).1

/-- A request in disguise: the stream waits for the rest of a block of firmware. -/
example : splitUnit? ([0xEF, 0xFE, 0x03, 0x01] ++ List.replicate 59 0) = none := by decide

end Reassembly
end VirtualRadio
