import VirtualRadio.Proofs.Generator.Routes
import VirtualRadio.Station.Basic

namespace VirtualRadio

/-!
# The steps of a frame

A log has one line for each step of a generator: where frames are to go at that moment,
what the step does with a frame, and what leaves the sockets in it.  A line is routed if
its step does with a frame what it is meant to do.

All lines of one frame together bring it to one destination at most.  What one more step
of the generator makes of a frame depends on nothing but the lines so far and the send
that the generator is in.
-/

/-- The stream client that frames go to. -/
def Link.client? (link : Link) : Option Nat :=
  if link.attached then link.writer else none

/-- What a generator does with a frame in one step, and how things stand before it. -/
structure FrameStep where
  /-- The number of the generator. -/
  sender : Nat
  /-- The number of frames that the generator has dealt with before this one. -/
  number : Nat
  /-- The stream client that frames go to. -/
  client : Option Nat
  /-- Who sent the last start packet. -/
  starter : Option Origin
  /-- Whether datagrams cannot be sent. -/
  faulty : Bool
  /-- Whether writes to the stream client fail. -/
  broken : Bool
  /-- The frame that begins, if one does. -/
  begins : Option (List UInt8)
  /-- Whether a frame goes on that has begun before. -/
  resumes : Bool
  /-- What leaves in this step. -/
  departs : Destination → List (List UInt8)
  /-- How many frames count as sent in this step. -/
  sent : Nat
  /-- How many frames count as failed in this step. -/
  failed : Nat

namespace FrameStep

/-- Where frames go at this moment. -/
def target? (line : FrameStep) : Option Destination :=
  match line.client, line.starter with
  | some id, _ => some (.client id)
  | none, some (.datagram source) => some (.peer source)
  | none, _ => none

/-- What a step does with a frame, as it is meant to be. -/
inductive IsRouted (line : FrameStep) : Prop
  /-- No frame begins or goes on. -/
  | pause (begins : line.begins = none) (resumes : line.resumes = false)
      (nothing : ∀ destination, line.departs destination = [])
      (sent : line.sent = 0) (failed : line.failed = 0) : IsRouted line
  /-- A frame for the client begins to wait for its turn. -/
  | queue (frame : List UInt8) (id : Nat) (begins : line.begins = some frame)
      (resumes : line.resumes = false) (client : line.client = some id)
      (nothing : ∀ destination, line.departs destination = [])
      (sent : line.sent = 0) (failed : line.failed = 0) : IsRouted line
  /-- A frame that begins without a client goes to the sender of the last start packet. -/
  | cast (frame : List UInt8) (source : SocketAddress) (begins : line.begins = some frame)
      (resumes : line.resumes = false) (client : line.client = none)
      (starter : line.starter = some (.datagram source)) (works : line.faulty = false)
      (departs : line.departs (.peer source) = [frame])
      (others : ∀ other, other ≠ .peer source → line.departs other = [])
      (sent : line.sent = 1) (failed : line.failed = 0) : IsRouted line
  /-- A frame that begins without a client has nowhere to go after a start over the stream. -/
  | refuse (frame : List UInt8) (begins : line.begins = some frame)
      (resumes : line.resumes = false) (client : line.client = none)
      (cause : line.starter = some .stream ∨ line.faulty = true)
      (nothing : ∀ destination, line.departs destination = [])
      (sent : line.sent = 0) (failed : line.failed = 1) : IsRouted line
  /-- A frame whose turn has come goes to the client, as much of it as he takes. -/
  | stream (id : Nat) (begins : line.begins = none) (resumes : line.resumes = true)
      (client : line.client = some id)
      (others : ∀ other, other ≠ .client id → line.departs other = [])
      (sent : line.sent ≤ 1) (failed : line.failed = 0) : IsRouted line
  /-- A frame whose turn has come finds the client gone, or not to be reached. -/
  | lose (begins : line.begins = none) (resumes : line.resumes = true)
      (cause : line.client = none ∨ line.broken = true)
      (nothing : ∀ destination, line.departs destination = [])
      (sent : line.sent = 0) (failed : line.failed = 1) : IsRouted line

/-- Whatever leaves goes where frames are to go. -/
theorem IsRouted.target?_eq {line : FrameStep} (routed : line.IsRouted) {destination : Destination}
    (departs : line.departs destination ≠ []) : line.target? = some destination := by
  cases routed with
  | pause _ _ nothing => exact absurd (nothing destination) departs
  | queue _ _ _ _ _ nothing => exact absurd (nothing destination) departs
  | refuse _ _ _ _ _ nothing => exact absurd (nothing destination) departs
  | lose _ _ _ nothing => exact absurd (nothing destination) departs
  | cast frame source begins resumes client starter works casts others =>
      by_cases same : destination = .peer source
      · rw [target?, client, starter, same]
      · exact absurd (others destination same) departs
  | stream id begins resumes client others =>
      by_cases same : destination = .client id
      · rw [target?, client, same]
      · exact absurd (others destination same) departs

/-! ## The steps of one frame -/

variable {lines more : List FrameStep}

/-- The steps that a generator makes with one of its frames. -/
def stepsOf (log : List FrameStep) (sender number : Nat) : List FrameStep :=
  log.filter fun line => line.sender = sender ∧ line.number = number

theorem stepsOf_eq_nil {log : List FrameStep} {sender number : Nat}
    (none : ∀ line ∈ log, line.sender = sender → line.number ≠ number) :
    stepsOf log sender number = [] := by
  rw [stepsOf, List.filter_eq_nil_iff]
  intro line among
  simpa using none line among

theorem stepsOf_concat (log : List FrameStep) (line : FrameStep) (sender number : Nat) :
    stepsOf (log ++ [line]) sender number =
      if line.sender = sender ∧ line.number = number then stepsOf log sender number ++ [line]
      else stepsOf log sender number := by
  rw [stepsOf, List.filter_append, List.filter_cons, List.filter_nil]
  split <;> simp_all [stepsOf]

/-- The frames that begin in some steps. -/
def begun (lines : List FrameStep) : List (List UInt8) :=
  lines.filterMap begins

/-- What leaves for a destination in some steps. -/
def departed (lines : List FrameStep) (destination : Destination) : List (List UInt8) :=
  lines.flatMap fun line => line.departs destination

/-- What some steps add to a count. -/
def total (count : FrameStep → Nat) (lines : List FrameStep) : Nat :=
  lines.foldr (fun line rest => count line + rest) 0

/-- How many frames count as sent in some steps. -/
def countSent (lines : List FrameStep) : Nat :=
  total sent lines

/-- How many frames count as failed in some steps. -/
def countFailed (lines : List FrameStep) : Nat :=
  total failed lines

@[simp] theorem begun_append : begun (lines ++ more) = begun lines ++ begun more :=
  List.filterMap_append

@[simp] theorem departed_append (destination : Destination) :
    departed (lines ++ more) destination =
      departed lines destination ++ departed more destination :=
  List.flatMap_append

theorem total_append (count : FrameStep → Nat) :
    total count (lines ++ more) = total count lines + total count more := by
  induction lines with
  | nil => exact (Nat.zero_add _).symm
  | cons line lines ih =>
      change count line + total count (lines ++ more) = count line + total count lines + _
      rw [ih, Nat.add_assoc]

@[simp] theorem countSent_append :
    countSent (lines ++ more) = countSent lines + countSent more :=
  total_append sent

@[simp] theorem countFailed_append :
    countFailed (lines ++ more) = countFailed lines + countFailed more :=
  total_append failed

variable {line : FrameStep}

@[simp] theorem begun_singleton : begun [line] = line.begins.toList := by
  unfold begun
  cases begins : line.begins <;> simp [begins]

@[simp] theorem departed_singleton (destination : Destination) :
    departed [line] destination = line.departs destination := by
  simp [departed]

@[simp] theorem countSent_singleton : countSent [line] = line.sent := rfl

@[simp] theorem countFailed_singleton : countFailed [line] = line.failed := rfl

/-- The steps of one frame bring it to one destination at most, in order from its first
byte, and it counts once at most. -/
inductive GoesToOne (lines : List FrameStep) : Prop
  /-- The frame has not begun. -/
  | pending (begins : begun lines = []) (nothing : ∀ destination, departed lines destination = [])
      (sent : countSent lines = 0) (failed : countFailed lines = 0) : GoesToOne lines
  | frame (frame : List UInt8) (destination : Destination) (begins : begun lines = [frame])
      (others : ∀ other, other ≠ destination → departed lines other = [])
      (ordered : (departed lines destination).flatten <+: frame)
      (whole : countSent lines = 1 → (departed lines destination).flatten = frame)
      (once : countSent lines + countFailed lines ≤ 1) : GoesToOne lines

/-- How far a frame is whose steps so far are `lines`, by the send that the generator is
in. -/
inductive Stage (link : Link) (lines : List FrameStep) : Option StreamSend → Prop
  | pending (begins : begun lines = []) (nothing : ∀ destination, departed lines destination = [])
      (sent : countSent lines = 0) (failed : countFailed lines = 0) : Stage link lines none
  | locking (frame : List UInt8) (begins : begun lines = [frame])
      (nothing : ∀ destination, departed lines destination = [])
      (sent : countSent lines = 0) (failed : countFailed lines = 0) :
      Stage link lines (some (.locking frame))
  | writing (id : Nat) (rest : List UInt8) (writer : link.writer = some id)
      (begins : begun lines = [(departed lines (.client id)).flatten ++ rest])
      (others : ∀ other, other ≠ .client id → departed lines other = [])
      (sent : countSent lines = 0) (failed : countFailed lines = 0) :
      Stage link lines (some (.writing rest))

/-- A frame on its way is lost. -/
theorem GoesToOne.lose (goes : GoesToOne lines) (begun : begun lines ≠ [])
    (begins : line.begins = none) (nothing : ∀ destination, line.departs destination = [])
    (unsent : countSent lines = 0) (unfailed : countFailed lines = 0) (sent : line.sent = 0)
    (failed : line.failed = 1) : GoesToOne (lines ++ [line]) := by
  cases goes with
  | pending none => exact absurd none begun
  | frame frame destination begun others ordered =>
      refine .frame frame destination ?_ (fun other apart => ?_) ?_ ?_ ?_
      · simp [begun, begins]
      · simp [others other apart, nothing]
      · simpa [nothing] using ordered
      · simp [unsent, sent]
      · simp [unsent, unfailed, sent, failed]

namespace Stage

variable {link later : Link} {send : Option StreamSend}

theorem none (link : Link) : Stage link [] .none :=
  .pending rfl (fun _ => rfl) rfl rfl

theorem goesToOne (stage : Stage link lines send) : GoesToOne lines := by
  cases stage with
  | pending begins nothing sent failed => exact .pending begins nothing sent failed
  | locking frame begins nothing sent failed =>
      refine .frame frame (.client 0) begins (fun other _ => nothing other) ?_ ?_ ?_
      · rw [nothing]
        exact List.nil_prefix
      · rw [sent]
        exact fun counts => by contradiction
      · rw [sent, failed]
        exact Nat.zero_le 1
  | writing id rest writer begins others sent failed =>
      refine .frame _ (.client id) begins others (List.prefix_append _ _) ?_ ?_
      · rw [sent]
        exact fun counts => by contradiction
      · rw [sent, failed]
        exact Nat.zero_le 1

/-- Only the client to whom a frame is written matters. -/
theorem relink (stage : Stage link lines send)
    (writer : ∀ rest, send = some (.writing rest) → later.writer = link.writer) :
    Stage later lines send := by
  cases stage with
  | pending begins nothing sent failed => exact .pending begins nothing sent failed
  | locking frame begins nothing sent failed => exact .locking frame begins nothing sent failed
  | writing id rest writes begins others sent failed =>
      exact .writing id rest ((writer rest rfl).trans writes) begins others sent failed

/-- What is still to be written of a frame on its way follows on what has left for the
client. -/
theorem resume {call : StreamSend} {bytes : List UInt8}
    (stage : Stage link lines (some call))
    (goesOn : call = .locking bytes ∨ call = .writing bytes) :
    countSent lines = 0 ∧ countFailed lines = 0 ∧ begun lines ≠ [] ∧
      ∀ id, link.writer = some id →
        begun lines = [(departed lines (.client id)).flatten ++ bytes] ∧
          ∀ other, other ≠ .client id → departed lines other = [] := by
  cases stage with
  | locking frame begins nothing sent failed =>
      rcases goesOn with same | other
      · cases same
        refine ⟨sent, failed, by simp [begins], fun id _ => ⟨?_, fun other _ => nothing other⟩⟩
        rw [begins, nothing]
        rfl
      · contradiction
  | writing id rest writer begins others sent failed =>
      rcases goesOn with other | same
      · contradiction
      · cases same
        refine ⟨sent, failed, by simp [begins], fun other attached => ?_⟩
        rw [writer] at attached
        cases attached
        exact ⟨begins, others⟩

end Stage

/-- What a step makes of a frame that is on its way to the client. -/
theorem Stage.goesOn (line : FrameStep) {id : Nat} {before : Generator StreamSend}
    {transport moved : Transport} {call : StreamSend} {progress : SendProgress StreamSend}
    (resumed : transport.resumeStream? (.generator id) call = some (moved, progress))
    (known : ∀ id, transport.link.writer = some id → id < transport.network.connections.size)
    (begins : line.begins = .none)
    (departs : line.departs = transport.network.departed moved.network)
    (sent : line.sent = (before.follow progress).sent - before.sent)
    (failed : line.failed = (before.follow progress).failed - before.failed)
    (stage : Stage transport.link lines (some call)) :
    GoesToOne (lines ++ [line]) ∧
      ((before.follow progress).handled = before.handled ∧
          Stage moved.link (lines ++ [line]) (before.follow progress).send? ∨
        (before.follow progress).handled = before.handled + 1 ∧
          (before.follow progress).send? = .none) := by
  rcases Transport.resumeStream?_eq_some resumed with ⟨bytes, goesOn, writes⟩
  rcases stage.resume (goesOn.imp_left And.left) with ⟨unsent, unfailed, there, follows⟩
  rcases writes.departed known with
    ⟨⟨fault, rfl⟩, nothing⟩ | ⟨client, rest, writer, writerAfter, outcome, split, others⟩
  · have left : ∀ destination, line.departs destination = [] := by
      rw [departs]
      exact nothing
    refine ⟨stage.goesToOne.lose there begins left unsent unfailed ?_ ?_, .inr ⟨rfl, rfl⟩⟩
    · rw [sent]
      exact Nat.sub_self _
    · rw [failed]
      exact Nat.add_sub_cancel_left _ _
  · rcases follows client writer with ⟨frame, apart⟩
    have elsewhere : ∀ other, other ≠ .client client →
        departed (lines ++ [line]) other = [] := fun other different => by
      simp [apart other different, departs, others other different]
    have grown : begun (lines ++ [line]) =
        [(departed (lines ++ [line]) (.client client)).flatten ++ rest] := by
      rw [begun_append, begun_singleton, begins, frame, departed_append, departed_singleton,
        departs, List.flatten_append, List.append_assoc, ← split]
      rfl
    rcases outcome with ⟨rfl, rfl⟩ | rfl
    · have once : line.sent = 1 := by
        rw [sent]
        exact Nat.add_sub_cancel_left _ _
      have never : line.failed = 0 := by
        rw [failed]
        exact Nat.sub_self _
      rw [List.append_nil] at grown
      refine ⟨.frame _ (.client client) grown elsewhere (List.prefix_refl _) (fun _ => rfl) ?_,
        .inr ⟨Nat.add_right_comm _ _ _, rfl⟩⟩
      simp [unsent, unfailed, once, never]
    · have next : Stage moved.link (lines ++ [line]) (some (.writing rest)) := by
        refine .writing client rest writerAfter grown elsewhere ?_ ?_
        · rw [countSent_append, countSent_singleton, unsent, sent, Nat.zero_add]
          exact Nat.sub_self _
        · rw [countFailed_append, countFailed_singleton, unfailed, failed, Nat.zero_add]
          exact Nat.sub_self _
      exact ⟨next.goesToOne, .inl ⟨rfl, next⟩⟩

/-- What one more step of its generator makes of a frame. -/
theorem Stage.step (line : FrameStep) {id now : Nat} {before after : Generator StreamSend}
    {transport moved : Transport}
    (sends : Generator.Sends id now before transport after moved)
    (known : ∀ id, transport.link.writer = some id → id < transport.network.connections.size)
    (begins : line.begins = before.begins? now)
    (departs : line.departs = transport.network.departed moved.network)
    (sent : line.sent = after.sent - before.sent)
    (failed : line.failed = after.failed - before.failed)
    (stage : Stage transport.link lines before.send?) :
    GoesToOne (lines ++ [line]) ∧
      (after.handled = before.handled ∧ Stage moved.link (lines ++ [line]) after.send? ∨
        after.handled = before.handled + 1 ∧ after.send? = .none) := by
  have untouched : moved.network = transport.network → ∀ destination,
      line.departs destination = [] := by
    intro same destination
    rw [departs, same]
    exact Network.departed_self _ destination
  cases sends with
  | pause _ quiet none quietAfter same kept =>
      have nothing := untouched rfl
      rw [quiet] at stage
      cases stage with
      | pending begun left unsent unfailed =>
          have next : Stage transport.link (lines ++ [line]) .none := by
            refine .pending ?_ (fun destination => ?_) ?_ ?_
            · simp [begun, begins, none]
            · simp [left, nothing]
            · simp [unsent, sent, same]
            · simp [unfailed, failed, kept]
          refine ⟨next.goesToOne, .inl ⟨?_, ?_⟩⟩
          · rw [Generator.handled, Generator.handled, same, kept]
          · rw [quietAfter]
            exact next
  | queue frame _ quiet starts attached asks same kept =>
      have nothing := untouched rfl
      rw [quiet] at stage
      cases stage with
      | pending begun left unsent unfailed =>
          have next : Stage (transport.acquire (.generator id)).link (lines ++ [line])
              (some (.locking frame)) := by
            refine .locking frame ?_ (fun destination => ?_) ?_ ?_
            · simp [begun, begins, starts]
            · simp [left, nothing]
            · simp [unsent, sent, same]
            · simp [unfailed, failed, kept]
          refine ⟨next.goesToOne, .inl ⟨?_, ?_⟩⟩
          · rw [Generator.handled, Generator.handled, same, kept]
          · rw [asks]
            exact next
  | refuse frame _ quiet starts attached cause quietAfter same kept =>
      have nothing := untouched rfl
      rw [quiet] at stage
      cases stage with
      | pending begun left unsent unfailed =>
          refine ⟨.frame frame (.client 0) ?_ (fun other _ => ?_) ?_ ?_ ?_, .inr ⟨?_, quietAfter⟩⟩
          · simp [begun, begins, starts]
          · simp [left, nothing]
          · simp [left, nothing]
          · simp [unsent, sent, same]
          · simp [unsent, unfailed, sent, failed, same, kept]
          · rw [Generator.handled, Generator.handled, same, kept, Nat.add_assoc]
  | cast frame _ target network quiet starts attached peer casts quietAfter same kept =>
      rcases Network.departed_send casts with ⟨left, others⟩
      rw [quiet] at stage
      cases stage with
      | pending begun none unsent unfailed =>
          refine ⟨.frame frame (.peer target) ?_ (fun other apart => ?_) ?_ ?_ ?_,
            .inr ⟨?_, quietAfter⟩⟩
          · simp [begun, begins, starts]
          · simp [none, departs, others other apart]
          · simp [none, departs, left]
          · simp [none, departs, left]
          · simp [unsent, unfailed, sent, failed, same, kept]
          · rw [Generator.handled, Generator.handled, same, kept, Nat.add_right_comm]
  | resume call _ progress sending resumed =>
      rw [sending] at stage
      rw [Generator.begins?_of_send? sending] at begins
      exact stage.goesOn line resumed known begins departs sent failed

end FrameStep

end VirtualRadio
