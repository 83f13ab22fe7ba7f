import VirtualRadio.Proofs.Station.Arrivals
import VirtualRadio.Proofs.Stream.Datagrams
import VirtualRadio.Sink.Discard

namespace VirtualRadio

/-!
# The code of a unit decides

Two tables are read at the first four bytes of a packet: one says how long a
unit of a stream is, the other how long a packet of each kind has to be.  They
fit together.  A unit has the length of a packet with its code, so it is
accepted if anything with that code is, and otherwise it is refused for its
code and never for its length.

So no packet is lost on a stream because of where a unit was cut.
-/

/-- Whether some datagram that begins with a code is a packet. -/
def PacketCode.IsOfPacket (code : PacketCode) : Prop :=
  ∃ datagram packet, ofBytes? datagram = some code ∧ Packet.classify datagram = .ok packet

/-- What it means that the code of a unit alone decides what becomes of it. -/
structure DecidedByCode (unit : List UInt8) (code : PacketCode) : Prop where
  begins : PacketCode.ofBytes? unit = some code
  isOk_iff : (Packet.classify unit).isOk = true ↔ code.IsOfPacket
  /-- There are two ways to be refused, both for the code. -/
  fault : ∀ fault, Packet.classify unit = .error fault →
    (code.hasMagic = false ∧ fault = .badMagic code.first code.second) ∨
      (code.hasMagic = true ∧ fault = .unknownCode code.command code.subcommand)

namespace Packet

section Tables

variable {kind : FixedPacket} {expected length : Nat} {packet : Packet}
  {command subcommand found : UInt8} {bytes datagram unit : List UInt8} {code : PacketCode}

theorem ofLength_of_eq (same : length = expected) :
    ofLength kind expected length packet = .ok packet :=
  if_pos same

theorem ofLength_ne_unknownCode :
    ofLength kind expected length packet ≠ .error (.unknownCode command subcommand) := by
  unfold ofLength
  split
  · simp
  · simp

theorem classifyMaintenance_ne_unknownCode :
    classifyMaintenance found length ≠ .error (.unknownCode command subcommand) := by
  unfold classifyMaintenance
  repeat' split
  all_goals simp

theorem classify_of_noMagic (begins : PacketCode.ofBytes? bytes = some code)
    (other : code.hasMagic = false) : classify bytes = .error (.badMagic code.first code.second) := by
  simp [classify, begins, other]

theorem classifyMaintenance_of_unitLength
    (whole : length = PacketCode.unitLength ⟨0xEF, 0xFE, 0x03, subcommand⟩) :
    ∃ packet, classifyMaintenance subcommand length = .ok packet := by
  by_cases program : subcommand = 0x01
  · subst program
    exact ⟨.maintenance .program, if_pos ⟨rfl, whole⟩⟩
  · by_cases erase : subcommand = 0x02
    · subst erase
      have sameLength : length = eraseLength := whole
      exact ⟨.maintenance .erase, by simp [classifyMaintenance, sameLength]⟩
    · refine ⟨.maintenance .setIp, ?_⟩
      have setIp : length = setIpLength := by
        rw [whole]
        simp [PacketCode.unitLength, PacketCode.hasMagic]
      simp [classifyMaintenance, program, erase, setIp]

/-- A unit with a known code is accepted: it has the length that its code asks
for. -/
theorem classify_of_isWhole (begins : PacketCode.ofBytes? unit = some code)
    (whole : unit.length = code.unitLength) (magic : code.hasMagic = true) :
    (∃ packet, classify unit = .ok packet) ∨
      classify unit = .error (.unknownCode code.command code.subcommand) := by
  unfold PacketCode.unitLength at whole
  unfold classify
  simp only [begins, magic, if_true] at whole ⊢
  -- Both tables are read at the same command and subcommand.
  generalize code.command = command, code.subcommand = subcommand at whole ⊢
  split
  · exact .inl ⟨_, ofLength_of_eq whole⟩
  · exact .inl ⟨_, ofLength_of_eq whole⟩
  · exact .inl ⟨_, ofLength_of_eq whole⟩
  · cases named : startMode? subcommand with
    | none => exact .inr rfl
    | some mode =>
        simp only [named, Option.isSome_some, if_true] at whole
        exact .inl ⟨_, ofLength_of_eq whole⟩
  · exact .inl (classifyMaintenance_of_unitLength whole)
  · exact .inr rfl

/-- An unknown code is unknown whatever follows it. -/
theorem classify_of_unknownCode (same : PacketCode.ofBytes? datagram = PacketCode.ofBytes? bytes)
    (unknown : classify bytes = .error (.unknownCode command subcommand)) :
    classify datagram = .error (.unknownCode command subcommand) := by
  unfold classify at unknown ⊢
  rw [same]
  split at unknown
  · cases unknown
  · split at unknown
    · next magic =>
        rw [if_pos magic]
        split at unknown
        · exact absurd unknown ofLength_ne_unknownCode
        · exact absurd unknown ofLength_ne_unknownCode
        · exact absurd unknown ofLength_ne_unknownCode
        · split at unknown
          · exact absurd unknown ofLength_ne_unknownCode
          · exact unknown
        · exact absurd unknown classifyMaintenance_ne_unknownCode
        · exact unknown
    · cases unknown

end Tables
end Packet

/-- The code of a whole unit decides what becomes of it. -/
theorem IsWhole.decidedByCode {unit : List UInt8} (whole : IsWhole unit) :
    ∃ code, DecidedByCode unit code := by
  rcases whole with ⟨code, begins, length⟩
  refine ⟨code, begins, ⟨?_, ?_⟩, ?_⟩
  · intro accepted
    rcases found : Packet.classify unit with fault | packet
    · rw [found] at accepted
      contradiction
    · exact ⟨unit, packet, begins, found⟩
  · rintro ⟨datagram, packet, same, accepted⟩
    cases magic : code.hasMagic with
    | false =>
        rw [Packet.classify_of_noMagic same magic] at accepted
        contradiction
    | true =>
        rcases Packet.classify_of_isWhole begins length magic with ⟨unitPacket, found⟩ | unknown
        · rw [found]
          rfl
        · rw [Packet.classify_of_unknownCode (same.trans begins.symm) unknown] at accepted
          contradiction
  · intro fault refused
    cases magic : code.hasMagic with
    | false =>
        rw [Packet.classify_of_noMagic begins magic] at refused
        exact .inl ⟨rfl, (Except.error.inj refused).symm⟩
    | true =>
        rcases Packet.classify_of_isWhole begins length magic with ⟨packet, found⟩ | unknown
        · rw [found] at refused
          contradiction
        · rw [unknown] at refused
          exact .inr ⟨rfl, (Except.error.inj refused).symm⟩

/-! ## The packets that a session takes off its stream -/

namespace Station

variable {σ : Type} {station : Station σ} {unit : List UInt8} {origin : Origin}

theorem isWhole_of_unitPacket? {client : StreamClient}
    (cut : unitPacket? client = some (unit, origin)) : IsWhole unit := by
  rcases Option.map_eq_some_iff.mp cut with ⟨⟨first, rest⟩, split, same⟩
  cases same
  exact isWhole_of_splitUnit? split

theorem isWhole_of_polledPacket? (polled : station.polledPacket? = some (unit, origin)) :
    IsWhole unit := by
  unfold polledPacket? at polled
  split at polled
  · rcases Option.bind_eq_some_iff.mp polled with ⟨client, _, cut⟩
    exact isWhole_of_unitPacket? cut
  · contradiction

theorem isWhole_of_readPacket? (read : station.readPacket? = some (unit, origin)) :
    IsWhole unit := by
  rcases Option.bind_eq_some_iff.mp read with ⟨client, _, found⟩
  split at found
  · exact isWhole_of_unitPacket? found
  · contradiction

theorem origin_of_receivedPacket? (received : station.receivedPacket? = some (unit, origin)) :
    ∃ source, origin = .datagram source := by
  unfold receivedPacket? at received
  split at received
  · cases received
    exact ⟨_, rfl⟩
  · contradiction

theorem isWhole_of_resumedPacket? (resumed : station.resumedPacket? = some (unit, .stream)) :
    IsWhole unit := by
  unfold resumedPacket? at resumed
  split at resumed
  · rcases origin_of_receivedPacket? resumed with ⟨source, other⟩
    contradiction
  · exact isWhole_of_readPacket? resumed
  · contradiction

/-- Whatever comes off the stream is a whole unit. -/
theorem isWhole_of_packet? [SinkDevice σ] {happening : Happening σ}
    (undirected : ∀ bytes source, happening ≠ .packet bytes source)
    (comes : station.packet? happening = some (unit, .stream)) : IsWhole unit := by
  unfold packet? at comes
  split at comes
  · exact absurd rfl (undirected _ _)
  · exact isWhole_of_polledPacket? comes
  · unfold steppedPacket? at comes
    split at comes
    · contradiction
    · contradiction
    · contradiction
    · exact isWhole_of_polledPacket? comes
    · exact isWhole_of_resumedPacket? comes
  · contradiction

end Station

/-- **No packet is lost where a stream is cut.**  The code of a unit that is cut
off a buffer, whatever the buffer holds, decides alone what becomes of the unit:
it is a packet if anything that begins with its code is one, and otherwise it is
refused because its first two bytes are not those of a packet or because its code
is unknown.  So it is for every unit that a session takes off the stream, in
whatever state it is. -/
theorem units_decided_by_code {σ : Type} [SinkDevice σ] :
    (∀ buffer unit rest, splitUnit? buffer = some (unit, rest) →
      ∃ code, DecidedByCode unit code) ∧
    (∀ (station : Station σ) (happening : Happening σ) (unit : List UInt8),
      (∀ bytes source, happening ≠ .packet bytes source) →
      station.packet? happening = some (unit, .stream) →
      ∃ code, DecidedByCode unit code) :=
  ⟨fun _ _ _ cut => (isWhole_of_splitUnit? cut).decidedByCode,
    fun _ _ _ undirected comes => (Station.isWhole_of_packet? undirected comes).decidedByCode⟩

/-- A request to set an address that looks like one to erase takes a byte of the
next packet along, and is still a packet. -/
theorem units_decided_by_code_disguised :
    let request : List UInt8 := [0xEF, 0xFE, 0x03, 0x02] ++ List.replicate 59 7
    let unit := request ++ [0xEF]
    let buffer := request ++ Command.stop
    let quiet : Station DiscardSink := .initial default .ignore (Ring.empty 2 1) (.idle 0)
    let station : Station DiscardSink := { quiet with
      session := { quiet.session with client := some ⟨0, ⟨.unspecified, 1024⟩, buffer⟩ }
      transport := { quiet.transport with link := ⟨.free, some 0, true, none⟩ } }
    splitUnit? buffer = some (unit, Command.stop.drop 1) ∧
    station.packet? (.request .poll) = some (unit, .stream) ∧
    (∃ code, DecidedByCode unit code) ∧
    Packet.classify unit = .ok (.maintenance .erase) := by
  intro request unit buffer quiet station
  have cut : splitUnit? buffer = some (unit, Command.stop.drop 1) := by decide +kernel
  have comes : station.packet? (.request .poll) = some (unit, .stream) := by decide +kernel
  have decided := (@units_decided_by_code DiscardSink _).2 station (.request .poll) unit
    (fun _ _ other => by cases other) comes
  exact ⟨cut, comes, decided, rfl⟩

end VirtualRadio
