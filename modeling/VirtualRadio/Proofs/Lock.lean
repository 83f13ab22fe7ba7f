import VirtualRadio.Lock

namespace VirtualRadio
namespace Lock

/-!
# A lock as a queue

Whoever holds a lock stands first in a queue, and those who wait for it stand
behind him.  In a lock that nobody holds while somebody waits there would be no
such queue, and no operation leads there.  So asking puts one at the end, a
release takes the first one off, and giving up takes one out.

A lock serves those who use it if everybody who asked for it and nobody else is in
the queue, and only the first of them uses what it guards.
-/

variable {α : Type} {lock : Lock α}

/-- Nobody waits for a lock that nobody holds. -/
def IsFair (lock : Lock α) : Prop :=
  lock.holder = none → lock.waiting = []

/-- Who holds the lock, and then who waits for it. -/
def queue (lock : Lock α) : List α :=
  lock.holder.toList ++ lock.waiting

theorem head?_queue (fair : lock.IsFair) : lock.queue.head? = lock.holder := by
  unfold queue
  cases holds : lock.holder with
  | none => simp [fair holds]
  | some who => rfl

theorem isHeldBy_iff [DecidableEq α] (fair : lock.IsFair) {who : α} :
    lock.isHeldBy who = true ↔ lock.queue.head? = some who := by
  rw [isHeldBy, decide_eq_true_iff, head?_queue fair]

theorem mem_queue_of_waiting {who : α} (waits : who ∈ lock.waiting) : who ∈ lock.queue :=
  List.mem_append_right _ waits

theorem mem_queue_of_head? {who : α} (first : lock.queue.head? = some who) : who ∈ lock.queue :=
  List.mem_of_head? first

/-! ## Operations -/

theorem acquire_isFair (lock : Lock α) (who : α) : (lock.acquire who).IsFair := by
  unfold acquire IsFair
  split <;> simp_all

theorem queue_acquire (fair : lock.IsFair) (who : α) :
    (lock.acquire who).queue = lock.queue ++ [who] := by
  unfold acquire queue
  cases holds : lock.holder with
  | none => simp [fair holds]
  | some other => simp

theorem holder_acquire_of_free (free : lock.holder = none) (who : α) :
    (lock.acquire who).holder = some who := by
  rw [acquire, free]

theorem waiting_release_subset (lock : Lock α) : lock.release.waiting ⊆ lock.waiting := by
  unfold release
  split
  · exact List.nil_subset _
  · next waits =>
      rw [waits]
      exact List.subset_cons_self _ _

theorem release_isFair (lock : Lock α) : lock.release.IsFair := by
  unfold release IsFair
  split <;> simp

theorem queue_release (fair : lock.IsFair) : lock.release.queue = lock.queue.tail := by
  unfold release queue
  cases holds : lock.holder with
  | none => simp [fair holds]
  | some other => cases lock.waiting <;> rfl

variable [DecidableEq α]

theorem abandon_isFair (fair : lock.IsFair) (who : α) : (lock.abandon who).IsFair := by
  unfold abandon
  split
  · exact lock.release_isFair
  · intro free
    change lock.waiting.filter _ = []
    rw [fair free, List.filter_nil]

/-- Whoever gives up is taken out, wherever he stands. -/
theorem queue_abandon (fair : lock.IsFair) (once : lock.queue.Nodup) (who : α) :
    (lock.abandon who).queue = lock.queue.erase who := by
  by_cases holds : lock.isHeldBy who = true
  · rw [abandon, if_pos holds, queue_release fair]
    rcases List.head?_eq_some_iff.mp ((isHeldBy_iff fair).mp holds) with ⟨rest, same⟩
    rw [same, List.tail_cons, List.erase_cons_head]
  · have other : lock.holder ≠ some who := by simpa [isHeldBy] using holds
    have apart : who ∉ lock.holder.toList := by simpa [eq_comm] using other
    have waitsOnce : lock.waiting.Nodup := (List.nodup_append.mp once).2.1
    have erased : lock.queue.erase who = lock.holder.toList ++ lock.waiting.erase who :=
      List.erase_append_right _ apart
    rw [erased, waitsOnce.erase_eq_filter, abandon, if_neg holds, queue]
    refine congrArg _ (List.filter_congr fun waits _ => ?_)
    by_cases same : waits = who <;> simp [same]

end Lock

/-- How one stands to a lock. -/
inductive Standing where
  | apart
  /-- He has asked for it, and may hold it by now. -/
  | asked
  /-- He holds it and is using what it guards. -/
  | working

namespace Lock

variable {α : Type} {lock : Lock α} {who : α} {standing later : α → Standing}

/-- Whether a lock has in its queue those who asked for it, and lets only the first of
them work. -/
structure Serves (lock : Lock α) (standing : α → Standing) : Prop where
  fair : lock.IsFair
  once : lock.queue.Nodup
  places : ∀ who, who ∈ lock.queue ↔ standing who ≠ .apart
  first : ∀ who, standing who = .working → lock.queue.head? = some who

namespace Serves

theorem free : (free : Lock α).Serves fun _ => .apart :=
  ⟨fun _ => rfl, .nil, fun _ => by simp [Lock.free, queue], nofun⟩

theorem congr (serves : lock.Serves standing) (same : ∀ who, later who = standing who) :
    lock.Serves later :=
  (funext same : later = standing) ▸ serves

theorem holder (serves : lock.Serves standing) (works : standing who = .working) :
    lock.holder = some who :=
  (head?_queue serves.fair).symm.trans (serves.first who works)

/-- Whoever holds the lock does not wait for it. -/
theorem not_mem_waiting (serves : lock.Serves standing) (holds : lock.holder = some who) :
    who ∉ lock.waiting := by
  have once := serves.once
  rw [queue, holds] at once
  exact (List.nodup_cons.mp once).1

theorem acquire (serves : lock.Serves standing) (apart : standing who = .apart)
    (asks : later who = .asked) (others : ∀ other, other ≠ who → later other = standing other) :
    (lock.acquire who).Serves later := by
  have absent : who ∉ lock.queue := fun present => (serves.places who).mp present apart
  refine ⟨lock.acquire_isFair who, ?_, fun other => ?_, fun other works => ?_⟩
  · rw [queue_acquire serves.fair, List.nodup_append]
    refine ⟨serves.once, by simp, fun other present last is same => absent ?_⟩
    rw [← List.mem_singleton.mp is, ← same]
    exact present
  · rw [queue_acquire serves.fair, List.mem_append, List.mem_singleton, serves.places]
    by_cases same : other = who
    · simp [same, asks]
    · simp [same, others other same]
  · have apart : other ≠ who := by
      rintro rfl
      rw [asks] at works
      contradiction
    rw [others other apart] at works
    rw [queue_acquire serves.fair, List.head?_append, serves.first other works]
    rfl

/-- The holder begins or goes on to work. -/
theorem work (serves : lock.Serves standing) (holds : lock.holder = some who)
    (stays : later who ≠ .apart) (others : ∀ other, other ≠ who → later other = standing other) :
    lock.Serves later := by
  have first : lock.queue.head? = some who := (head?_queue serves.fair).trans holds
  refine ⟨serves.fair, serves.once, fun other => ?_, fun other works => ?_⟩
  · by_cases same : other = who
    · subst same
      exact iff_of_true (mem_queue_of_head? first) stays
    · rw [serves.places, others other same]
  · by_cases same : other = who
    · rw [same, first]
    · rw [others other same] at works
      exact serves.first other works

/-- The holder is done. -/
theorem release (serves : lock.Serves standing) (holds : lock.holder = some who)
    (leaves : later who = .apart) (others : ∀ other, other ≠ who → later other = standing other) :
    lock.release.Serves later := by
  have first : lock.queue.head? = some who := (head?_queue serves.fair).trans holds
  rcases List.head?_eq_some_iff.mp first with ⟨rest, same⟩
  have once := serves.once
  rw [same, List.nodup_cons] at once
  refine ⟨lock.release_isFair, ?_, fun other => ?_, fun other works => ?_⟩
  · rw [queue_release serves.fair, same]
    exact once.2
  · rw [queue_release serves.fair, same, List.tail_cons]
    by_cases is : other = who
    · rw [is, leaves]
      exact iff_of_false once.1 fun stays => stays rfl
    · rw [others other is, ← serves.places, same, List.mem_cons]
      exact ⟨.inr, fun among => among.resolve_left is⟩
  · have apart : other ≠ who := by
      rintro rfl
      rw [leaves] at works
      contradiction
    rw [others other apart] at works
    have only := (serves.first other works).symm.trans first
    exact absurd (Option.some.inj only) apart

/-- Somebody gives up. -/
theorem abandon [DecidableEq α] (serves : lock.Serves standing) (leaves : later who = .apart)
    (others : ∀ other, other ≠ who → later other = standing other) :
    (lock.abandon who).Serves later := by
  have erased := queue_abandon serves.fair serves.once who
  refine ⟨abandon_isFair serves.fair who, ?_, fun other => ?_, fun other works => ?_⟩
  · rw [erased]
    exact serves.once.erase who
  · rw [erased, serves.once.mem_erase_iff]
    by_cases same : other = who
    · simp [same, leaves]
    · simp [same, others other same, serves.places]
  · have apart : other ≠ who := by
      rintro rfl
      rw [leaves] at works
      contradiction
    rw [others other apart] at works
    rcases List.head?_eq_some_iff.mp (serves.first other works) with ⟨rest, same⟩
    rw [erased, same, List.erase_cons_tail (by simpa using apart)]
    rfl

end Serves
end Lock
end VirtualRadio
