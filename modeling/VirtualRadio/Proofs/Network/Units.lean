import VirtualRadio.Proofs.Lock
import VirtualRadio.Proofs.Generator.Sends
import VirtualRadio.Proofs.Wire.StatusFrames
import VirtualRadio.Wire.Discovery
import VirtualRadio.Wire.Packet

namespace VirtualRadio

/-!
# Units on the stream

What is sent to a stream client comes in units: status frames and replies to discovery
probes.  The client takes as many bytes of a unit as it likes, and the others wait.

Whoever writes to the client writes on at the unit that the bytes written so far end
in, and a unit begins only where the last one is whole.  Then the bytes on a connection
are whole units one after the other, of which the last may be cut short.
-/

/-- What is sent to a stream client at once. -/
inductive IsUnit : List UInt8 → Prop
  | frame (cursor : StatusCursor) (inputs : StatusInputs) : IsUnit (cursor.frame inputs)
  | reply (profile : Profile) (mac : MacAddress) : IsUnit (discoveryReply profile mac false)

variable {bytes taken rest unit : List UInt8}

/-- A unit is a frame, or a reply of sixty bytes. -/
theorem IsUnit.length (is_unit : IsUnit unit) :
    unit.length = Packet.frameLength ∨ unit.length = 60 := by
  cases is_unit with
  | frame cursor inputs => exact .inl (cursor.length_frame inputs)
  | reply profile mac => exact .inr (length_discoveryReply profile mac false)

/-- Every unit begins with the same two bytes. -/
theorem IsUnit.eq_cons (is_unit : IsUnit unit) : ∃ more, unit = 0xEF :: 0xFE :: more := by
  cases is_unit with
  | frame cursor inputs => exact ⟨_, rfl⟩
  | reply profile mac => exact ⟨_, rfl⟩

/-- Whole units one after the other. -/
def IsComplete (bytes : List UInt8) : Prop :=
  ∃ units : List (List UInt8), (∀ unit ∈ units, IsUnit unit) ∧ bytes = units.flatten

/-- Whole units, and then a unit of which `rest` is missing. -/
def Lacks (bytes rest : List UInt8) : Prop :=
  ∃ whole taken, IsComplete whole ∧ IsUnit (taken ++ rest) ∧ bytes = whole ++ taken

/-- Whole units, of which the last may be cut short. -/
def IsFramed (bytes : List UInt8) : Prop :=
  IsComplete bytes ∨ ∃ rest, Lacks bytes rest

theorem IsComplete.nil : IsComplete [] :=
  ⟨[], nofun, rfl⟩

theorem IsComplete.append (whole : IsComplete bytes) (next : IsUnit unit) :
    IsComplete (bytes ++ unit) := by
  rcases whole with ⟨units, all, rfl⟩
  refine ⟨units ++ [unit], fun other among => ?_, by simp⟩
  rcases List.mem_append.mp among with among | last
  · exact all other among
  · rw [List.mem_singleton.mp last]
    exact next

theorem IsComplete.lacks (whole : IsComplete bytes) (next : IsUnit unit) : Lacks bytes unit :=
  ⟨bytes, [], whole, next, (List.append_nil bytes).symm⟩

namespace Lacks

/-- The client takes some bytes. -/
theorem take (lacks : Lacks bytes (taken ++ rest)) : Lacks (bytes ++ taken) rest := by
  rcases lacks with ⟨whole, before, units, is_unit, rfl⟩
  exact ⟨whole, before ++ taken, units, by rwa [List.append_assoc], List.append_assoc ..⟩

/-- The client takes the last bytes. -/
theorem isComplete (lacks : Lacks bytes []) : IsComplete bytes := by
  rcases lacks with ⟨whole, taken, units, is_unit, rfl⟩
  rw [List.append_nil] at is_unit
  exact units.append is_unit

/-- A unit of which a whole frame is missing has not begun. -/
theorem isComplete_of_length (lacks : Lacks bytes rest) (long : Packet.frameLength ≤ rest.length) :
    IsComplete bytes := by
  rcases lacks with ⟨whole, taken, units, is_unit, rfl⟩
  have length := is_unit.length
  rw [List.length_append] at length
  have untouched : taken = [] := by
    apply List.eq_nil_of_length_eq_zero
    unfold Packet.frameLength at *
    omega
  rw [untouched, List.append_nil]
  exact units

end Lacks

/-- Whatever is framed begins as its first unit does. -/
theorem IsFramed.second {first second : UInt8} (framed : IsFramed bytes)
    (begins : bytes.take 2 = [first, second]) : second = 0xFE := by
  have unit_begins : ∀ {unit} (more : List UInt8), IsUnit unit →
      (unit ++ more).take 2 = [first, second] → second = 0xFE := by
    intro unit more is_unit same
    rcases is_unit.eq_cons with ⟨left, rfl⟩
    cases same
    rfl
  rcases framed with ⟨units, all, rfl⟩ | ⟨rest, _, taken, ⟨units, all, rfl⟩, last, rfl⟩
  · cases units with
    | nil => contradiction
    | cons unit units => exact unit_begins _ (all unit List.mem_cons_self) begins
  · cases units with
    | cons unit units =>
        refine unit_begins (units.flatten ++ taken) (all unit List.mem_cons_self) ?_
        rw [← begins, List.flatten_cons, List.append_assoc]
    | nil =>
        refine unit_begins [] last ?_
        rw [List.flatten_nil, List.nil_append] at begins
        have long : 2 ≤ taken.length := by
          have length := congrArg List.length begins
          rw [List.length_take] at length
          simp only [List.length_cons, List.length_nil] at length
          omega
        rw [List.append_nil, List.take_append_of_le_length long, begins]

theorem not_isFramed_of_second {first second : UInt8} (begins : bytes.take 2 = [first, second])
    (other : second ≠ 0xFE) : ¬ IsFramed bytes :=
  fun framed => other (framed.second begins)

/-! ## What is written where -/

/-- How what was written agrees with what is being sent: `accepted` is a connection that
is about to be attached, and `doomed` says that nothing will be sent any more before the
write half is dropped. -/
structure Framed (transport : Transport) (accepted : Option Nat)
    (send? : LinkUser → Option StreamSend) (doomed : Prop) : Prop where
  known : ∀ id, transport.link.writer = some id → id < transport.network.connections.size
  once : (accepted.toList ++ transport.network.waitingIds).Nodup
  blank : ∀ id ∈ accepted.toList ++ transport.network.waitingIds,
    id < transport.network.connections.size ∧ transport.network.writtenTo id = [] ∧
      transport.link.writer ≠ some id
  framed : ∀ id, IsFramed (transport.network.writtenTo id)
  units : ∀ user bytes, send? user = some (.locking bytes) → IsUnit bytes
  lacks : ∀ id user rest, transport.link.writer = some id → send? user = some (.writing rest) →
    Lacks (transport.network.writtenTo id) rest
  whole : ∀ id, transport.link.writer = some id →
    (∀ user rest, send? user ≠ some (.writing rest)) →
    IsComplete (transport.network.writtenTo id) ∨ doomed

namespace Framed

variable {before after : Transport} {accepted acceptedAfter : Option Nat}
  {doomed doomedAfter : Prop}
  {send? sendAfter? : LinkUser → Option StreamSend}

/-- A change that writes nothing. -/
theorem change (framed : Framed before accepted send? doomed)
    (keeps : before.network.Keeps after.network)
    (writer : after.link.writer = before.link.writer ∨ after.link.writer = none)
    (settles : acceptedAfter = accepted ∨ acceptedAfter = none)
    (sends : ∀ user call, sendAfter? user = some call →
      send? user = some call ∨ ∃ bytes, call = .locking bytes ∧ IsUnit bytes)
    (ends : ∀ id user rest, before.link.writer = some id → after.link.writer = some id →
      send? user = some (.writing rest) → sendAfter? user ≠ some (.writing rest) →
      IsComplete (before.network.writtenTo id) ∨ doomedAfter)
    (lasts : doomed → after.link.writer ≠ none → doomedAfter) :
    Framed after acceptedAfter sendAfter? doomedAfter := by
  have same : ∀ id, after.link.writer = some id → before.link.writer = some id := by
    intro id attached
    rcases writer with writer | writer
    · rw [← writer, attached]
    · rw [writer] at attached
      contradiction
  have fewer : (acceptedAfter.toList ++ after.network.waitingIds).Sublist
      (accepted.toList ++ before.network.waitingIds) := by
    refine List.Sublist.append ?_ keeps.waitingIds_suffix.sublist
    rcases settles with rfl | rfl
    · exact List.Sublist.refl _
    · exact List.nil_sublist _
  refine ⟨?_, framed.once.sublist fewer, ?_, ?_, ?_, ?_, ?_⟩
  · intro id attached
    rw [keeps.size]
    exact framed.known id (same id attached)
  · intro id among
    rcases framed.blank id (fewer.subset among) with ⟨known, blank, apart⟩
    exact ⟨keeps.size ▸ known, (keeps.written id).trans blank, fun attached =>
      apart (same id attached)⟩
  · intro id
    rw [keeps.written]
    exact framed.framed id
  · intro user bytes asks
    rcases sends user _ asks with before | ⟨_, is, is_unit⟩
    · exact framed.units user bytes before
    · cases is
      exact is_unit
  · intro id user rest attached writes
    rcases sends user _ writes with before | ⟨_, is, _⟩
    · rw [keeps.written]
      exact framed.lacks id user rest (same id attached) before
    · contradiction
  · intro id attached silent
    rw [keeps.written]
    by_cases writing : ∃ user rest, send? user = some (.writing rest)
    · rcases writing with ⟨user, rest, writes⟩
      exact ends id user rest (same id attached) attached writes (silent user rest)
    · have quiet : ∀ user rest, send? user ≠ some (.writing rest) := fun user rest writes =>
        writing ⟨user, rest, writes⟩
      refine (framed.whole id (same id attached) quiet).imp_right fun so => lasts so ?_
      rw [attached]
      nofun

/-- A change with which no send begins, goes on or ends. -/
theorem congr (framed : Framed before accepted send? doomed)
    (keeps : before.network.Keeps after.network)
    (writer : after.link.writer = before.link.writer)
    (same : ∀ user, sendAfter? user = send? user)
    (settles : acceptedAfter = accepted ∨ acceptedAfter = none)
    (lasts : doomed → doomedAfter) : Framed after acceptedAfter sendAfter? doomedAfter := by
  refine framed.change keeps (.inl writer) settles (fun user call made => .inl ?_) ?_
    fun so _ => lasts so
  · rw [← same, made]
  · intro id user rest _ _ writes stops
    exact absurd ((same user).trans writes) stops

theorem relabel (framed : Framed before accepted send? doomed)
    (same : ∀ user, sendAfter? user = send? user) (lasts : doomed → doomedAfter) :
    Framed before accepted sendAfter? doomedAfter :=
  framed.congr (.refl _) rfl same (.inl rfl) lasts

/-- Where the link has lost its write half. -/
theorem lose (framed : Framed before accepted send? doomed)
    (keeps : before.network.Keeps after.network) (gone : after.link.writer = none)
    (settles : acceptedAfter = accepted ∨ acceptedAfter = none)
    (sends : ∀ user call, sendAfter? user = some call → send? user = some call) :
    Framed after acceptedAfter sendAfter? doomedAfter := by
  refine framed.change keeps (.inr gone) settles (fun user call made => .inl (sends user call made))
    ?_ fun _ stays => absurd gone stays
  intro id _ _ _ attached
  rw [gone] at attached
  contradiction

/-- What somebody writes goes on where the client left off, or begins a unit. -/
theorem lacks_of_call (framed : Framed before accepted send? doomed) {user : LinkUser}
    {call : StreamSend} {bytes : List UInt8} (sends : send? user = some call)
    (goesOn : call = .locking bytes ∨ call = .writing bytes)
    (alone : ∀ other rest, other ≠ user → send? other ≠ some (.writing rest))
    (open_ : ¬ doomed) {id : Nat} (attached : before.link.writer = some id) :
    Lacks (before.network.writtenTo id) bytes := by
  rcases goesOn with rfl | rfl
  · have silent : ∀ other rest, send? other ≠ some (.writing rest) := by
      intro other rest writes
      by_cases same : other = user
      · rw [same, sends] at writes
        cases writes
      · exact alone other rest same writes
    have whole := (framed.whole id attached silent).resolve_right open_
    exact whole.lacks (framed.units user bytes sends)
  · exact framed.lacks id user bytes attached sends

/-- The client takes some bytes of what is written to it. -/
theorem grow (framed : Framed before accepted send? doomed) {id : Nat} {taken : List UInt8}
    (attached : before.link.writer = some id)
    (adds : before.network.Adds id taken after.network)
    (writer : after.link.writer = before.link.writer)
    (framedAfter : IsFramed (before.network.writtenTo id ++ taken))
    (units : ∀ user bytes, sendAfter? user = some (.locking bytes) →
      send? user = some (.locking bytes))
    (lacks : ∀ user rest, sendAfter? user = some (.writing rest) →
      Lacks (before.network.writtenTo id ++ taken) rest)
    (whole : (∀ user rest, sendAfter? user ≠ some (.writing rest)) →
      IsComplete (before.network.writtenTo id ++ taken)) :
    Framed after accepted sendAfter? doomedAfter := by
  have waiting : after.network.waitingIds = before.network.waitingIds :=
    congrArg (List.filterMap Except.toOption) adds.arrivals
  have only : ∀ other, after.link.writer = some other → other = id := by
    intro other same
    rw [writer, attached] at same
    exact (Option.some.inj same).symm
  refine ⟨?_, waiting ▸ framed.once, ?_, ?_, fun user bytes asks => framed.units user bytes
    (units user bytes asks), ?_, ?_⟩
  · intro other same
    rw [adds.size]
    exact framed.known other (writer ▸ same)
  · intro other among
    rcases framed.blank other (waiting ▸ among) with ⟨known, blank, apart⟩
    have different : other ≠ id := by
      rintro rfl
      exact apart attached
    exact ⟨adds.size ▸ known, (adds.others other different).trans blank, writer ▸ apart⟩
  · intro other
    by_cases same : other = id
    · rw [same, adds.written]
      exact framedAfter
    · rw [adds.others other same]
      exact framed.framed other
  · intro other user rest same writes
    rw [only other same, adds.written]
    exact lacks user rest writes
  · intro other same silent
    rw [only other same, adds.written]
    exact .inl (whole silent)

/-- A write to the stream client. -/
theorem writes (framed : Framed before accepted send? doomed) {user : LinkUser}
    {call : StreamSend} {bytes : List UInt8} {progress : SendProgress StreamSend}
    (sends : send? user = some call)
    (goesOn : call = .locking bytes ∨ call = .writing bytes)
    (alone : ∀ other rest, other ≠ user → send? other ≠ some (.writing rest))
    (open_ : ¬ doomed) (writes : before.Writes bytes after progress)
    (others : ∀ other, other ≠ user → sendAfter? other = send? other)
    (left : ∀ rest, progress = .waiting rest → sendAfter? user = some rest)
    (ended : ∀ outcome, progress = .finished outcome → sendAfter? user = none) :
    Framed after accepted sendAfter? doomedAfter := by
  have lost : ∀ outcome, progress = .finished outcome → after.link.writer = none →
      before.network.Keeps after.network → Framed after accepted sendAfter? doomedAfter := by
    intro outcome finished gone keeps
    refine framed.lose keeps gone (.inl rfl) fun other call sends => ?_
    by_cases same : other = user
    · rw [same, ended outcome finished] at sends
      contradiction
    · rw [← others other same, sends]
  -- Everybody else is left alone, so it is enough to look at the one who writes.
  have asked : (∀ bytes, sendAfter? user ≠ some (.locking bytes)) → ∀ other bytes,
      sendAfter? other = some (.locking bytes) → send? other = some (.locking bytes) := by
    intro never other bytes asks
    by_cases is : other = user
    · exact absurd (is ▸ asks) (never bytes)
    · rw [← others other is, asks]
  have goes : ∀ {id taken}, (∀ rest, sendAfter? user = some (.writing rest) →
      Lacks (before.network.writtenTo id ++ taken) rest) → ∀ other rest,
      sendAfter? other = some (.writing rest) →
      Lacks (before.network.writtenTo id ++ taken) rest := by
    intro id taken own other rest writes
    by_cases is : other = user
    · exact own rest (is ▸ writes)
    · rw [others other is] at writes
      exact absurd writes (alone other rest is)
  cases writes with
  | nowhere writer => exact lost _ rfl writer (.refl _)
  | failed id writer =>
      refine lost _ rfl rfl ?_
      simp only [Transport.release, Transport.dropWriter, writer]
      exact .close _ id
  | whole id network writer written =>
      have lacks := framed.lacks_of_call sends goesOn alone open_ writer
      rcases Network.write_rest (framed.known id writer) written with ⟨taken, same, adds⟩
      rw [same] at lacks
      have whole := lacks.take.isComplete
      refine framed.grow writer adds rfl (.inl whole) (asked ?_) (goes ?_) fun _ => whole
      · simp [ended _ rfl]
      · simp [ended _ rfl]
  | part id network rest writer written =>
      have lacks := framed.lacks_of_call sends goesOn alone open_ writer
      rcases Network.write_rest (framed.known id writer) written with ⟨taken, same, adds⟩
      rw [same] at lacks
      refine framed.grow writer adds rfl (.inr ⟨rest, lacks.take⟩) (asked ?_) (goes ?_) ?_
      · simp [left _ rfl]
      · intro rest writes
        rw [left _ rfl] at writes
        cases writes
        exact lacks.take
      · intro silent
        exact absurd (left _ rfl) (silent user rest)

/-! ## Connections that come -/

theorem accept (framed : Framed before none send? doomed) {id : Nat}
    (accepts : before.network.accept? = some (.ok id, after.network))
    (writer : after.link.writer = before.link.writer) : Framed after (some id) send? doomed := by
  have keeps := Network.accept?_keeps accepts
  have same : (some id).toList ++ after.network.waitingIds = before.network.waitingIds :=
    (Network.waitingIds_accept? accepts).symm
  have once := framed.once
  have blank := framed.blank
  rw [Option.toList_none, List.nil_append, ← same] at once blank
  refine ⟨?_, once, ?_, ?_, framed.units, ?_, ?_⟩
  · rw [writer, keeps.size]
    exact framed.known
  · rw [writer, keeps.size]
    simp only [keeps.written]
    exact blank
  · simp only [keeps.written]
    exact framed.framed
  · rw [writer]
    simp only [keeps.written]
    exact framed.lacks
  · rw [writer]
    simp only [keeps.written]
    exact framed.whole

/-- Nothing was written yet to a connection that is attached. -/
theorem attach {id : Nat} (framed : Framed before (some id) send? doomed)
    (silent : ∀ user rest, send? user ≠ some (.writing rest)) :
    Framed (before.attach id) none send? doomedAfter := by
  have keeps : before.network.Keeps (before.attach id).network := by
    unfold Transport.attach Transport.dropWriter
    split
    · exact .close _ _
    · exact .refl _
  rcases framed.blank id (List.mem_cons_self ..) with ⟨known, blank, _⟩
  have once := framed.once
  rw [Option.toList_some, List.singleton_append, List.nodup_cons] at once
  have fewer := keeps.waitingIds_suffix.sublist
  have blankAfter : (before.attach id).network.writtenTo id = [] := (keeps.written id).trans blank
  refine ⟨?_, once.2.sublist fewer, ?_, ?_, framed.units, ?_, ?_⟩
  · intro other attached
    cases attached
    exact keeps.size ▸ known
  · intro other among
    have listed := fewer.subset among
    rcases framed.blank other (List.mem_cons_of_mem _ listed) with ⟨known, blank, _⟩
    refine ⟨keeps.size ▸ known, (keeps.written other).trans blank, fun attached => ?_⟩
    cases attached
    exact once.1 listed
  · intro other
    rw [keeps.written]
    exact framed.framed other
  · intro _ user rest _ writes
    exact absurd writes (silent user rest)
  · intro other attached _
    cases attached
    rw [blankAfter]
    exact .inl .nil

/-- The world outside writes nothing, and a new connection is blank. -/
theorem apply (framed : Framed before accepted send? doomed) (event : NetworkEvent) :
    Framed (before.apply event) accepted send? doomed := by
  rcases before.network.apply_grows event with ⟨news, grows⟩
  have later : ∀ {id}, id < before.network.connections.size →
      id < (before.network.apply event).connections.size := by
    intro id known
    rw [grows.size]
    omega
  have new : ∀ id ∈ news, id = before.network.connections.size ∧
      id < (before.network.apply event).connections.size := by
    intro id among
    rcases grows.news with rfl | rfl
    · contradiction
    · rw [grows.size, List.mem_singleton.mp among]
      exact ⟨rfl, Nat.lt_succ_self _⟩
  refine ⟨fun id attached => later (framed.known id attached), ?_, ?_, ?_, framed.units, ?_, ?_⟩
  · rw [Transport.apply, grows.waiting, ← List.append_assoc, List.nodup_append]
    refine ⟨framed.once, ?_, ?_⟩
    · rcases grows.news with rfl | rfl <;> simp
    · rintro id among _ fresh rfl
      exact absurd (new id fresh).1 (Nat.ne_of_lt (framed.blank id among).1)
  · intro id among
    rw [Transport.apply, grows.waiting, ← List.append_assoc] at among
    rcases List.mem_append.mp among with among | fresh
    · rcases framed.blank id among with ⟨known, blank, apart⟩
      exact ⟨later known, (grows.written id).trans blank, apart⟩
    · rcases new id fresh with ⟨is, known⟩
      refine ⟨known, (grows.written id).trans ?_, fun attached => ?_⟩
      · exact Network.writtenTo_of_size_le (Nat.le_of_eq is.symm)
      · exact absurd is (Nat.ne_of_lt (framed.known id attached))
  · intro id
    rw [Transport.apply, grows.written]
    exact framed.framed id
  · intro id user rest attached writes
    rw [Transport.apply, grows.written]
    exact framed.lacks id user rest attached writes
  · intro id attached silent
    rw [Transport.apply, grows.written]
    exact framed.whole id attached silent

end Framed
end VirtualRadio
