import VirtualRadio.Proofs.Station.Records
import VirtualRadio.Sink.Discard

namespace VirtualRadio

/-!
# Packets that change nothing

A packet that is no packet, a discovery probe in a datagram and a maintenance
packet are idle: the session counts and tells what it does about them and may send
one reply, and that is all.

The main result compares two runs of a station to which packets are handed.  One
has idle packets anywhere among everything else that happens, the other is the
same without them.  Both end alike but for their records, and the record of the
first is that of the second with the answers to the idle packets mixed in.
-/

/-- Whether a list is made of two others, each in its order. -/
inductive Interleave {α : Type} : List α → List α → List α → Prop
  | nil : Interleave [] [] []
  | left {first second mixed : List α} (element : α) (mixes : Interleave first second mixed) :
      Interleave (element :: first) second (element :: mixed)
  | right {first second mixed : List α} (element : α) (mixes : Interleave first second mixed) :
      Interleave first (element :: second) (element :: mixed)

namespace Interleave

variable {α : Type} {first second mixed firstLater secondLater mixedLater : List α}

theorem only_left (list : List α) : Interleave list [] list := by
  induction list with
  | nil => exact .nil
  | cons element list ih => exact .left element ih

theorem only_right (list : List α) : Interleave [] list list := by
  induction list with
  | nil => exact .nil
  | cons element list ih => exact .right element ih

theorem append (early : Interleave first second mixed)
    (late : Interleave firstLater secondLater mixedLater) :
    Interleave (first ++ firstLater) (second ++ secondLater) (mixed ++ mixedLater) := by
  induction early with
  | nil => exact late
  | left element _ ih => exact .left element ih
  | right element _ ih => exact .right element ih

/-- What the second list has nothing of, comes from the first one. -/
theorem filter_eq {kind : α → Bool} (mixes : Interleave first second mixed)
    (nothing : ∀ element ∈ second, kind element = false) :
    mixed.filter kind = first.filter kind := by
  induction mixes with
  | nil => rfl
  | left element _ ih => rw [List.filter_cons, List.filter_cons, ih nothing]
  | right element _ ih =>
      rw [List.forall_mem_cons] at nothing
      rw [List.filter_cons, nothing.1, ih nothing.2, if_neg Bool.false_ne_true]

end Interleave

namespace Record

/-- Nothing to tell of. -/
def empty : Record :=
  ⟨#[], #[], #[], 0, 0⟩

/-- One record after the other. -/
def append (record later : Record) : Record where
  events := record.events ++ later.events
  hooks := record.hooks ++ later.hooks
  sent := record.sent ++ later.sent
  dropped := record.dropped + later.dropped
  answered := record.answered + later.answered

theorem append_empty (record : Record) : record.append empty = record := by
  simp only [append, empty, Array.append_empty, Nat.add_zero]

theorem empty_append (record : Record) : empty.append record = record := by
  simp only [append, empty, Array.empty_append, Nat.zero_add]

theorem append_assoc (first second third : Record) :
    (first.append second).append third = first.append (second.append third) := by
  simp only [append, Array.append_assoc, Nat.add_assoc]

/-- Whether a record is made of two others, each in its order. -/
structure Mixes (first second mixed : Record) : Prop where
  events : Interleave first.events.toList second.events.toList mixed.events.toList
  hooks : Interleave first.hooks.toList second.hooks.toList mixed.hooks.toList
  sent : Interleave first.sent.toList second.sent.toList mixed.sent.toList
  dropped : mixed.dropped = first.dropped + second.dropped
  answered : mixed.answered = first.answered + second.answered

variable {first second mixed : Record}

theorem mixes_empty (record : Record) : record.Mixes empty record :=
  ⟨.only_left _, .only_left _, .only_left _, rfl, rfl⟩

theorem Mixes.append {firstLater secondLater mixedLater : Record}
    (early : first.Mixes second mixed) (late : firstLater.Mixes secondLater mixedLater) :
    (first.append firstLater).Mixes (second.append secondLater) (mixed.append mixedLater) where
  events := by
    simp only [Record.append, Array.toList_append]
    exact early.events.append late.events
  hooks := by
    simp only [Record.append, Array.toList_append]
    exact early.hooks.append late.hooks
  sent := by
    simp only [Record.append, Array.toList_append]
    exact early.sent.append late.sent
  dropped := by
    simp only [Record.append, early.dropped, late.dropped]
    omega
  answered := by
    simp only [Record.append, early.answered, late.answered]
    omega

/-- The same comes to both. -/
theorem Mixes.append_both (mixes : first.Mixes second mixed) (later : Record) :
    (first.append later).Mixes second (mixed.append later) := by
  have both := mixes.append later.mixes_empty
  rwa [append_empty] at both

/-- More comes between. -/
theorem Mixes.append_second (mixes : first.Mixes second mixed) (later : Record) :
    first.Mixes (second.append later) (mixed.append later) := by
  have alone : empty.Mixes later later :=
    ⟨.only_right _, .only_right _, .only_right _, (Nat.zero_add _).symm, (Nat.zero_add _).symm⟩
  have both := mixes.append alone
  rwa [append_empty] at both

end Record

/-- Whether a packet is refused, is a discovery probe in a datagram, or is a
maintenance packet. -/
def Packet.isIdle (bytes : List UInt8) (origin : Origin) : Bool :=
  match Packet.classify bytes, origin with
  | .error _, _ | .ok .discovery, .datagram _ | .ok (.maintenance _), _ => true
  | _, _ => false

/-- Whether an idle packet is handed to the session. -/
def Happening.isIdle {σ : Type} : Happening σ → Bool
  | packet bytes origin => Packet.isIdle bytes origin
  | _ => false

/-- What a session rests or waits in, whether or not its last poll has failed. -/
def SessionPhase.withoutFailure : SessionPhase → SessionPhase
  | resting _ => resting none
  | phase => phase

namespace Station

variable {σ : Type} {station full short : Station σ}

/-! ## What is compared -/

/-- A station, whether or not the last poll has failed. -/
def withoutFailure (station : Station σ) : Station σ :=
  station.setPhase station.session.phase.withoutFailure

/-- All of a station but its record and how the last poll has ended. -/
def bare (station : Station σ) : Station σ :=
  station.withoutFailure.unrecorded

theorem withoutFailure_eq (station : Station σ) :
    station.withoutFailure = station.bare.since station.record :=
  (station.withoutFailure.unrecorded_since).symm

/-! ## How a session has come to rest -/

theorem followSequence_setPhase (station : Station σ) (phase : SessionPhase) (sequence : UInt32) :
    (station.setPhase phase).followSequence sequence =
      (station.followSequence sequence).setPhase phase := by
  have same : (station.setPhase phase).session.lastSequence = station.session.lastSequence := rfl
  unfold followSequence
  rw [same]
  cases station.session.lastSequence with
  | none => rfl
  | some previous =>
      simp only
      split <;> rfl

theorem reportChanges_setPhase (station : Station σ) (phase : SessionPhase)
    (changes : List RegisterChange) :
    changes.foldl reportChange (station.setPhase phase) =
      (changes.foldl reportChange station).setPhase phase := by
  have one : ∀ (station : Station σ) change,
      (station.setPhase phase).reportChange change =
        (station.reportChange change).setPhase phase := by
    intro station change
    have same : (station.setPhase phase).plan = station.plan := rfl
    simp only [reportChange, selectFilter, same]
    split
    · split <;> rfl
    · rfl
  induction changes generalizing station with
  | nil => rfl
  | cons change changes ih => rw [List.foldl_cons, one, ih, List.foldl_cons]

theorem takeSamples_setPhase (station : Station σ) (phase : SessionPhase) (frame : List UInt8) :
    (station.setPhase phase).takeSamples frame = (station.takeSamples frame).setPhase phase := by
  have same : (station.setPhase phase).isStreaming = station.isStreaming := rfl
  cases streaming : station.isStreaming with
  | true =>
      simp only [takeSamples, same, streaming, if_true]
      cases ControlFrame.samples frame <;> rfl
  | false => simp only [takeSamples, same, streaming, Bool.false_eq_true, if_false]

theorem handleControl_setPhase (station : Station σ) (phase : SessionPhase)
    (frame : List UInt8) (sequence : UInt32) :
    (station.setPhase phase).handleControl frame sequence =
      (station.handleControl frame sequence).setPhase phase := by
  have plan : ((station.followSequence sequence).setPhase phase).plan =
    (station.followSequence sequence).plan := rfl
  have radio : ((station.followSequence sequence).setPhase phase).radio =
    (station.followSequence sequence).radio := rfl
  simp only [handleControl, followSequence_setPhase, plan, radio]
  split
  · rfl
  · rw [← takeSamples_setPhase, ← reportChanges_setPhase]
    rfl

theorem stopGenerator_setPhase (station : Station σ) (phase : SessionPhase) {next : AfterStop}
    (ofCall : next.isShutdown = false) :
    (station.setPhase phase).stopGenerator next = station.stopGenerator next := by
  have same : (station.setPhase phase).session.generator = station.session.generator := rfl
  unfold stopGenerator
  rw [same]
  cases station.session.generator with
  | some id => rfl
  | none =>
      cases next with
      | start origin => rfl
      | stop =>
          have client : (station.setPhase phase).session.client = station.session.client := rfl
          simp only [afterStop, dropClient, updateSession, client]
          cases station.session.client <;> rfl
      | shutdown => contradiction

/-- A session that rests is ready for a packet, however it has come to rest. -/
theorem handlePacket_setPhase (station : Station σ) (phase : SessionPhase)
    (packet : List UInt8) (origin : Origin) :
    (station.setPhase phase).handlePacket packet origin = station.handlePacket packet origin := by
  unfold handlePacket
  split
  · rfl
  · rw [handleControl_setPhase]
    rfl
  · cases origin with
    | datagram source => rfl
    | stream =>
        have same : (station.setPhase phase).isStreaming = station.isStreaming := rfl
        simp only [handleDiscovery, same]
        split <;> rfl
  · exact station.stopGenerator_setPhase phase rfl
  · rw [← stopGenerator_setPhase (station.count _) phase rfl]
    rfl
  · rfl

theorem withoutFailure_of_isResting (resting : station.isResting = true) :
    station.withoutFailure = station.rest := by
  unfold isResting at resting
  split at resting
  · next phase => rw [withoutFailure, phase, rest, SessionPhase.withoutFailure]
  · contradiction

theorem withoutFailure_of_not_isResting (busy : station.isResting = false) :
    station.withoutFailure = station := by
  unfold isResting at busy
  unfold withoutFailure
  cases phase : station.session.phase with
  | resting failure => simp [phase] at busy
  | _ =>
      simp only [SessionPhase.withoutFailure, setPhase, updateSession]
      rw [← phase]

theorem resume?_of_isResting (resting : station.isResting = true) : station.resume? = none := by
  unfold isResting at resting
  split at resting
  · next phase => rw [resume?, phase]
  · contradiction

/-! ## Idle packets -/

/-- The datagram that goes out when one is to be sent, if sends do not fail. -/
def datagramSent (station : Station σ) (bytes : List UInt8) (target : SocketAddress) :
    Array (SocketAddress × List UInt8) :=
  if station.transport.network.sendFault.isSome then #[] else #[(target, bytes)]

/-- What a session adds to its record for a discovery probe in a datagram. -/
def answerToProbe (station : Station σ) (source : SocketAddress) : Record :=
  if station.transport.network.sendFault.isSome then .empty
  else
    { Record.empty with
      events := #[.discoveryAnswered station.isStreaming]
      sent := #[(source,
        discoveryReply station.plan.profile station.plan.mac station.isStreaming)]
      answered := 1 }

/-- What a session adds to its record for a maintenance packet. -/
def answerToMaintenance (station : Station σ) (kind : MaintenanceKind) (packet : List UInt8)
    (origin : Origin) : Record :=
  { Record.empty with
    hooks := #[.maintenance kind packet]
    sent :=
      match station.maintenance kind packet, origin with
      | some reply, .datagram source => station.datagramSent reply source
      | _, _ => #[] }

/-- What a session adds to its record for an idle packet. -/
def answerTo (station : Station σ) (packet : List UInt8) (origin : Origin) : Record :=
  match Packet.classify packet, origin with
  | .error fault, _ => { Record.empty with events := #[.frameDropped fault], dropped := 1 }
  | .ok .discovery, .datagram source => station.answerToProbe source
  | .ok (.maintenance kind), origin => station.answerToMaintenance kind packet origin
  | _, _ => .empty

theorem handleDiscovery_idle (station : Station σ) (source : SocketAddress) :
    (station.handleDiscovery (.datagram source)).unrecorded = station.rest.unrecorded ∧
      (station.handleDiscovery (.datagram source)).record =
        station.record.append (station.answerToProbe source) := by
  simp only [handleDiscovery, answerToProbe, Transport.sendDatagram, Network.send]
  cases fails : station.transport.network.sendFault with
  | some fault => exact ⟨rfl, (station.record.append_empty).symm⟩
  | none =>
      simp [record, unrecorded, Record.append, Record.empty, emit, rest, setPhase, count,
        updateSession, fails]

theorem sendDatagram_idle (station : Station σ) (bytes : List UInt8) (target : SocketAddress) :
    ({ station with
      transport := (station.transport.sendDatagram bytes target).1 }.rest).unrecorded =
        station.rest.unrecorded ∧
      ({ station with
        transport := (station.transport.sendDatagram bytes target).1 }.rest).record =
          station.record.append
            { Record.empty with sent := station.datagramSent bytes target } := by
  simp only [datagramSent, Transport.sendDatagram, Network.send]
  cases fails : station.transport.network.sendFault with
  | some fault => exact ⟨rfl, (station.record.append_empty).symm⟩
  | none =>
      simp [record, unrecorded, Record.append, Record.empty, rest, setPhase, updateSession, fails]

theorem handleMaintenance_idle (station : Station σ) (kind : MaintenanceKind)
    (packet : List UInt8) (origin : Origin) :
    (station.handleMaintenance kind packet origin).unrecorded = station.rest.unrecorded ∧
      (station.handleMaintenance kind packet origin).record =
        station.record.append (station.answerToMaintenance kind packet origin) := by
  have noted : station.record.append { Record.empty with hooks := #[.maintenance kind packet] } =
      (station.note (.maintenance kind packet)).record := by
    simp [record, Record.append, Record.empty, note]
  have silent : (station.note (.maintenance kind packet)).rest.record =
      station.record.append { Record.empty with hooks := #[.maintenance kind packet] } :=
    noted.symm
  have handler : (station.note (.maintenance kind packet)).maintenance = station.maintenance := rfl
  simp only [handleMaintenance, answerToMaintenance, handler]
  rcases station.maintenance kind packet with _ | reply
  · exact ⟨rfl, silent⟩
  cases origin with
  | stream => exact ⟨rfl, silent⟩
  | datagram source =>
      have sent := (station.note (.maintenance kind packet)).sendDatagram_idle reply source
      refine ⟨sent.1, sent.2.trans ?_⟩
      rw [← noted, Record.append_assoc]
      simp only [Record.append, Record.empty, Array.empty_append, Array.append_empty, Nat.add_zero]
      rfl

theorem handlePacket_idle (station : Station σ) {packet : List UInt8} {origin : Origin}
    (idle : Packet.isIdle packet origin = true) :
    (station.handlePacket packet origin).unrecorded = station.rest.unrecorded ∧
      (station.handlePacket packet origin).record =
        station.record.append (station.answerTo packet origin) := by
  unfold Packet.isIdle at idle
  unfold handlePacket answerTo
  cases classified : Packet.classify packet with
  | error fault =>
      refine ⟨rfl, ?_⟩
      simp [record, Record.append, Record.empty, emit, rest, setPhase, count, updateSession]
  | ok kind =>
      rw [classified] at idle
      cases kind with
      | discovery =>
          cases origin with
          | datagram source => exact station.handleDiscovery_idle source
          | stream => contradiction
      | maintenance kind => exact station.handleMaintenance_idle kind packet origin
      | _ => contradiction

/-- What is added to the record by what happens, if it is an idle packet. -/
def answer (station : Station σ) : Happening σ → Record
  | .packet bytes origin =>
    if station.isResting && Packet.isIdle bytes origin then station.answerTo bytes origin
    else .empty
  | _ => .empty

theorem answer_of_not_isIdle {happening : Happening σ} (matters : happening.isIdle = false) :
    station.answer happening = .empty := by
  cases happening with
  | packet bytes origin =>
      have other : Packet.isIdle bytes origin = false := matters
      rw [answer, other, Bool.and_false, if_neg Bool.false_ne_true]
  | _ => rfl

/-! ## Two runs -/

variable [SinkDevice σ]

/-- However a session has come to rest, what happens next is the same. -/
theorem TakesCalls.happen_rest (takes : station.TakesCalls) (resting : station.isResting = true)
    {happening : Happening σ} (suits : happening.suitsCalls = true) :
    (station.rest.happen happening).withoutFailure =
      (station.happen happening).withoutFailure := by
  have still : ∀ after : Station σ, after.session.phase = station.session.phase →
      after.rest.withoutFailure = after.withoutFailure := by
    intro after phase
    have rests : after.isResting = true := by rwa [isResting, phase]
    rw [withoutFailure_of_isResting rests]
    rfl
  cases happening with
  | packet bytes origin =>
      have same : station.rest.isResting = true := rfl
      rw [Station.happen, Station.happen, if_pos same, if_pos resting, rest, handlePacket_setPhase]
  | step task =>
      cases task with
      | session =>
          have takesToo : station.rest.TakesCalls := ⟨takes.drive, rfl⟩
          rw [Station.happen, Station.happen, step?, step?, takes.sessionStep?,
            takesToo.sessionStep?, resume?_of_isResting resting, resume?_of_isResting rfl]
          exact still station rfl
      | consumer =>
          have path : station.rest.path.step? station.rest.now = station.path.step? station.now :=
            rfl
          simp only [Station.happen, step?, path]
          rcases station.path.step? station.now with _ | ⟨path, _ | hertz⟩
          · exact still station rfl
          · exact still { station with path := path } rfl
          · exact still ({ station with path := path }.emit (.sinkTuned hertz)) rfl
      | generator id =>
          have pool : station.rest.pool.step? id station.rest.radio.bank station.rest.now
              station.rest.transport =
            station.pool.step? id station.radio.bank station.now station.transport := rfl
          simp only [Station.happen, step?, pool]
          rcases station.pool.step? id station.radio.bank station.now station.transport with
            _ | ⟨pool, transport⟩
          · exact still station rfl
          · exact still { station with pool := pool, transport := transport } rfl
  | requeue task => exact still (station.happen (.requeue task)) rfl
  | wait millis => exact still (station.happen (.wait millis)) rfl
  | transport change => contradiction
  | request request =>
      cases request with
      | network event => exact still (station.happen (.request (.network event))) rfl
      | sink change => exact still (station.happen (.request (.sink change))) rfl
      | _ => contradiction

theorem TakesCalls.happen_withoutFailure (takes : station.TakesCalls) {happening : Happening σ}
    (suits : happening.suitsCalls = true) :
    (station.withoutFailure.happen happening).withoutFailure =
      (station.happen happening).withoutFailure := by
  cases resting : station.isResting with
  | true =>
      rw [withoutFailure_of_isResting resting]
      exact takes.happen_rest resting suits
  | false => rw [withoutFailure_of_not_isResting resting]

/-- What happens is up to all of a station but its record, and adds to the record. -/
theorem TakesCalls.happen_bare (takes : station.TakesCalls) {happening : Happening σ}
    (suits : happening.suitsCalls = true) :
    (station.happen happening).bare = (station.bare.happen happening).bare ∧
      (station.happen happening).record =
        station.record.append (station.bare.happen happening).record := by
  have takesBare : station.bare.TakesCalls := by
    refine ⟨takes.drive, ?_⟩
    have ofCall := takes.phase
    change station.session.phase.withoutFailure.isOfCall = true
    cases phase : station.session.phase with
    | resting failure => rfl
    | _ => rwa [phase] at ofCall
  have same : (station.happen happening).withoutFailure =
      (station.bare.happen happening).withoutFailure.since station.record := by
    rw [← takes.happen_withoutFailure suits, withoutFailure_eq station,
      takesBare.happen_since station.record suits]
    rfl
  constructor
  · rw [bare, same]
    rfl
  · exact congrArg record same

/-- What is added to the record by the idle packets of a run. -/
def answers (station : Station σ) : List (Happening σ) → Record
  | [] => .empty
  | happening :: happenings =>
    (station.answer happening).append ((station.happen happening).answers happenings)

/-- An idle packet adds an answer to the record, and changes nothing else. -/
theorem happen_idle {happening : Happening σ} (idle : happening.isIdle = true) :
    (station.happen happening).bare = station.bare ∧
      (station.happen happening).record = station.record.append (station.answer happening) := by
  cases happening with
  | packet bytes origin =>
      rw [happen, answer]
      cases resting : station.isResting with
      | false => exact ⟨rfl, (station.record.append_empty).symm⟩
      | true =>
          have isIdle : Packet.isIdle bytes origin = true := idle
          rw [isIdle, if_pos rfl, if_pos (by rfl)]
          rcases station.handlePacket_idle isIdle with ⟨same, added⟩
          refine ⟨?_, added⟩
          calc (station.handlePacket bytes origin).bare
              = (station.handlePacket bytes origin).unrecorded.withoutFailure := rfl
            _ = station.rest.unrecorded := by rw [same]; rfl
            _ = station.bare := by rw [bare, withoutFailure_of_isResting resting]
  | _ => contradiction

/-- Two stations that are alike but for their records stay so, whether or not idle
packets come to one of them. -/
theorem afterAll_idle {happenings : List (Happening σ)}
    (suits : ∀ happening ∈ happenings, happening.suitsCalls = true) {answered : Record}
    (takesFull : full.TakesCalls) (takesShort : short.TakesCalls) (same : full.bare = short.bare)
    (mixes : short.record.Mixes answered full.record) :
    (full.afterAll happenings).bare =
        (short.afterAll (happenings.filter fun happening => !happening.isIdle)).bare ∧
      (short.afterAll (happenings.filter fun happening => !happening.isIdle)).record.Mixes
        (answered.append (full.answers happenings)) (full.afterAll happenings).record := by
  induction happenings generalizing full short answered with
  | nil => exact ⟨same, by rwa [answers, Record.append_empty]⟩
  | cons happening happenings ih =>
      rw [List.forall_mem_cons] at suits
      have takes := takesFull.happen suits.1
      rw [answers, ← Record.append_assoc]
      cases idle : happening.isIdle with
      | true =>
          rcases full.happen_idle idle with ⟨kept, added⟩
          rw [List.filter_cons, idle, if_neg (by decide)]
          refine ih suits.2 takes takesShort (kept.trans same) ?_
          rw [added]
          exact mixes.append_second _
      | false =>
          rcases takesFull.happen_bare suits.1 with ⟨moved, added⟩
          rcases takesShort.happen_bare suits.1 with ⟨movedToo, addedToo⟩
          rw [List.filter_cons, idle, if_pos (by decide), answer_of_not_isIdle idle,
            Record.append_empty]
          refine ih suits.2 takes (takesShort.happen suits.1) ?_ ?_
          · rw [moved, movedToo, same]
          · rw [added, addedToo, same]
            exact mixes.append_both _

end Station

/-! ## The answers -/

/-- Whether an event tells of an answer to an idle packet. -/
def Event.isOfAnswer : Event → Bool
  | frameDropped _ | discoveryAnswered _ => true
  | _ => false

/-- Whether a call is that of the maintenance handler. -/
def HookCall.isOfAnswer : HookCall → Bool
  | maintenance _ _ => true
  | filter _ => false

/-- Whether a record tells only of answers to idle packets, and the datagrams in it go
to those who have sent such packets. -/
structure Record.IsOfAnswers {σ : Type} (happenings : List (Happening σ)) (record : Record) :
    Prop where
  events : ∀ event ∈ record.events.toList, event.isOfAnswer = true
  hooks : ∀ call ∈ record.hooks.toList, call.isOfAnswer = true
  sent : ∀ datagram ∈ record.sent.toList, ∃ packet,
    .packet packet (.datagram datagram.1) ∈ happenings ∧
      Packet.isIdle packet (.datagram datagram.1) = true

namespace Record.IsOfAnswers

variable {σ : Type} {happening : Happening σ} {happenings : List (Happening σ)}
variable {record later : Record}

theorem empty : Record.empty.IsOfAnswers happenings := by
  refine ⟨?_, ?_, ?_⟩ <;>
    exact fun _ among => absurd among List.not_mem_nil

theorem append (early : record.IsOfAnswers [happening]) (late : later.IsOfAnswers happenings) :
    (record.append later).IsOfAnswers (happening :: happenings) where
  events := by
    simp only [Record.append, Array.toList_append, List.forall_mem_append]
    exact ⟨early.events, late.events⟩
  hooks := by
    simp only [Record.append, Array.toList_append, List.forall_mem_append]
    exact ⟨early.hooks, late.hooks⟩
  sent := by
    simp only [Record.append, Array.toList_append, List.forall_mem_append]
    constructor
    · intro datagram among
      rcases early.sent datagram among with ⟨packet, is, idle⟩
      exact ⟨packet, List.mem_cons.mpr (.inl (List.mem_singleton.mp is)), idle⟩
    · intro datagram among
      rcases late.sent datagram among with ⟨packet, is, idle⟩
      exact ⟨packet, List.mem_cons_of_mem _ is, idle⟩

end Record.IsOfAnswers

namespace Station

variable {σ : Type}

theorem answerTo_isOfAnswers (station : Station σ) {packet : List UInt8} {origin : Origin}
    (idle : Packet.isIdle packet origin = true) :
    (station.answerTo packet origin).IsOfAnswers
      ([.packet packet origin] : List (Happening σ)) := by
  have goesBack : ∀ source, origin = .datagram source → ∀ bytes,
      ∀ datagram ∈ (#[(source, bytes)] : Array (SocketAddress × List UInt8)).toList, ∃ other,
        .packet other (.datagram datagram.1) ∈
          ([.packet packet origin] : List (Happening σ)) ∧
        Packet.isIdle other (.datagram datagram.1) = true := by
    rintro source rfl bytes datagram among
    rw [List.mem_singleton.mp among]
    exact ⟨packet, List.mem_singleton_self _, idle⟩
  have nothing : Record.empty.IsOfAnswers ([.packet packet origin] : List (Happening σ)) := .empty
  unfold answerTo
  split
  · exact { nothing with events := by simp [Event.isOfAnswer] }
  · next source _ =>
      unfold answerToProbe
      split
      · exact nothing
      · exact {
          events := by simp [Event.isOfAnswer]
          hooks := nothing.hooks
          sent := goesBack source rfl _ }
  · next kind _ =>
      refine { nothing with
        hooks := by simp [answerToMaintenance, HookCall.isOfAnswer]
        sent := ?_ }
      unfold answerToMaintenance datagramSent
      simp only
      split
      · next reply source _ =>
          split
          · exact nothing.sent
          · exact goesBack source rfl _
      · exact nothing.sent
  · exact nothing

variable [SinkDevice σ]

theorem answers_isOfAnswers (station : Station σ) (happenings : List (Happening σ)) :
    (station.answers happenings).IsOfAnswers happenings := by
  induction happenings generalizing station with
  | nil => exact .empty
  | cons happening happenings ih =>
      refine .append ?_ (ih _)
      unfold answer
      split
      · next bytes origin =>
          split
          · next both =>
              exact station.answerTo_isOfAnswers (Bool.and_eq_true_iff.mp both).2
          · exact .empty
      · exact .empty

/-- Packets are handed to a session, once with idle packets among them and once
without.  In the end all is the same but for the records: registers, gains, ring,
followed numbers, generators, client, peer and consumer.  What the first record has
besides the second are the answers to the idle packets, and so the filters that were
selected, and all else that observers were told, are the same. -/
theorem idle_packets_only_answered (start : Station σ) (own : start.isOwnersTurn = true)
    (resting : start.isResting = true) (happenings : List (Happening σ))
    (suits : ∀ happening ∈ happenings, happening.suitsCalls = true) :
    let full := start.afterAll happenings
    let short := start.afterAll (happenings.filter fun happening => !happening.isIdle)
    full.bare = short.bare ∧
      short.record.Mixes (start.answers happenings) full.record ∧
      (start.answers happenings).IsOfAnswers happenings ∧
      full.hooks.toList.filter (fun call => !call.isOfAnswer) =
        short.hooks.toList.filter (fun call => !call.isOfAnswer) ∧
      full.events.toList.filter (fun event => !event.isOfAnswer) =
        short.events.toList.filter (fun event => !event.isOfAnswer) := by
  intro full short
  have takes := takesCalls_of_isResting own resting
  rcases afterAll_idle suits takes takes rfl start.record.mixes_empty with ⟨same, mixes⟩
  rw [Record.empty_append] at mixes
  have answers := start.answers_isOfAnswers happenings
  refine ⟨same, mixes, answers, ?_, ?_⟩
  · exact mixes.hooks.filter_eq fun call among => by rw [answers.hooks call among]; rfl
  · exact mixes.events.filter_eq fun event among => by rw [answers.events event among]; rfl

/-- Bytes that are no packet, and a probe from somebody else, come while the radio
streams. -/
theorem garbage_and_probe_only_answered :
    let start : Station DiscardSink := initial default .ignore (Ring.empty 2 1) (.idle 0)
    let begin := .packet (Command.start 1) (.datagram ⟨.unspecified, 1024⟩)
    let probe := .packet Command.discovery (.datagram ⟨.unspecified, 1025⟩)
    let full := start.afterAll [begin, .packet [0] .stream, .step (.generator 0), probe]
    let short := start.afterAll [begin, .step (.generator 0)]
    full.bare = short.bare ∧ full.isStreaming = true ∧ full.record.dropped = 1 ∧
      full.record.answered = 1 ∧ short.record.dropped = 0 ∧ short.record.answered = 0 :=
  ⟨(idle_packets_only_answered _ rfl rfl
      [.packet (Command.start 1) (.datagram ⟨.unspecified, 1024⟩), .packet [0] .stream,
        .step (.generator 0), .packet Command.discovery (.datagram ⟨.unspecified, 1025⟩)]
      (by decide)).1, by decide +kernel⟩

end Station
end VirtualRadio
