import VirtualRadio.Proofs.Generator.Frames

namespace VirtualRadio

/-!
# One generator at a time

A pool in which every generator is over has exactly one after the next is
spawned, and has none that is not over after somebody has waited for the end of
that one.  Numbers are never used twice, so the others keep theirs.
-/

/-! ## Steps, waits and ends -/

namespace Generator

variable {ω κ : Type} {generator : Generator κ} {deadline now : Nat}

theorem phase_of_isOver (gone : generator.isOver = true) :
    generator.phase = .ended ∨ generator.phase = .crashed ∨ generator.phase = .aborted := by
  rw [isOver] at gone
  cases phase : generator.phase <;> simp_all

theorem isOver_cancel (generator : Generator κ) : generator.cancel.isOver = generator.isOver :=
  rfl

theorem abort_isOver (generator : Generator κ) : generator.abort.isOver = true := by
  unfold abort
  split
  · next ended => exact ended
  · rfl

theorem deadline?_of_isOver (gone : generator.isOver = true) : generator.deadline? = none := by
  rw [deadline?]
  rcases phase_of_isOver gone with phase | phase | phase <;> rw [phase]

/-- One who waits for the end of a generator waits on as long as there is time
and the generator is not over. -/
theorem stopped?_eq_none_iff :
    generator.stopped? deadline now = none ↔
      generator.isOver = false ∧ Clock.isDue deadline now = false := by
  rw [stopped?, isOver]
  cases generator.phase <;> simp

theorem step?_of_isOver [FrameOutput ω κ] (gone : generator.isOver = true) (sender : Nat)
    (bank : RegisterBank) (output : ω) : generator.step? sender bank now output = none := by
  rw [step?]
  rcases phase_of_isOver gone with phase | phase | phase <;> rw [phase]

/-- A generator that has no step has not reached its deadline. -/
theorem nanos_lt_of_waits [FrameOutput ω κ] {sender : Nat} {bank : RegisterBank} {output : ω}
    (waits : generator.deadline? = some deadline)
    (stuck : generator.step? sender bank now output = none) : Clock.nanos now < deadline := by
  rw [deadline?] at waits
  cases phase : generator.phase with
  | pacing inputs =>
      rw [phase] at waits
      cases waits
      refine Nat.lt_of_not_le fun reached => ?_
      have due : Clock.isDue generator.deadline now = true := decide_eq_true reached
      simp only [step?, phase, due] at stuck
      split at stuck <;> contradiction
  | _ =>
      rw [phase] at waits
      contradiction

end Generator

/-! ## The only generator -/

namespace GeneratorPool

variable {ω κ : Type} {pool after : GeneratorPool κ} {id other : Nat}
variable {generator found : Generator κ}

/-- The generators that are not over. -/
def alive (pool : GeneratorPool κ) : List (Nat × Generator κ) :=
  pool.members.filter (fun member => !member.2.isOver)

theorem isOver_of_isIdle (idle : pool.isIdle = true) (finds : pool.get? id = some found) :
    found.isOver = true := by
  rcases List.lookup_eq_some_iff.mp finds with ⟨front, back, members, _⟩
  exact List.all_eq_true.mp idle (id, found) (by simp [members])

theorem alive_of_isIdle (idle : pool.isIdle = true) : pool.alive = [] := by
  rw [alive, List.filter_eq_nil_iff]
  intro member among
  simp [List.all_eq_true.mp idle member among]

theorem alive_of_members (members : pool.members = [(id, generator)]) :
    pool.alive.length ≤ 1 := by
  rw [alive, members]
  exact List.length_filter_le _ [(id, generator)]

theorem spawn_members (idle : pool.isIdle = true) (profile : Profile) :
    (pool.spawn profile).members = [(pool.nextId, .spawn profile)] := by
  have none := alive_of_isIdle idle
  rw [alive] at none
  rw [spawn, none, List.nil_append]

theorem update_members (members : pool.members = [(id, generator)])
    (change : Generator κ → Generator κ) :
    (pool.update id change).members = [(id, change generator)] := by
  simp [update, members]

theorem get?_of_members (members : pool.members = [(other, generator)])
    (finds : pool.get? id = some found) : id = other ∧ found = generator := by
  rcases List.lookup_eq_some_iff.mp finds with ⟨front, back, split, _⟩
  rw [members] at split
  cases front with
  | nil =>
      cases split
      exact ⟨rfl, rfl⟩
  | cons member front => simp at split

/-- Whoever waited for the end of the only generator finds it over. -/
theorem stopped?_isIdle [FrameOutput ω κ] {deadline now : Nat} {output outputAfter : ω}
    {outcome : StopOutcome} (members : pool.members = [(id, generator)])
    (stopped : pool.stopped? id deadline now output = some (outcome, after, outputAfter)) :
    after.isIdle = true := by
  have finds : pool.get? id = some generator := by
    rw [get?, members, List.lookup_cons_self]
  simp only [stopped?, finds, Option.map_eq_some_iff, Prod.mk.injEq] at stopped
  rcases stopped with ⟨_, _, _, aborted⟩
  have same : pool.update id Generator.abort = after := congrArg Prod.fst aborted
  rw [isIdle, ← same, update_members members]
  simp [Generator.abort_isOver]

theorem stopped?_eq_none_iff [FrameOutput ω κ] {deadline now : Nat} {output : ω} :
    pool.stopped? id deadline now output = none ↔
      ∃ generator, pool.get? id = some generator ∧ generator.isOver = false ∧
        Clock.isDue deadline now = false := by
  rw [stopped?]
  cases pool.get? id with
  | none => simp
  | some generator =>
      rw [Option.map_eq_none_iff, Generator.stopped?_eq_none_iff]
      simp only [Option.some.injEq, exists_eq_left']

/-! ## Numbers -/

theorem get?_update (pool : GeneratorPool κ) (id other : Nat)
    (change : Generator κ → Generator κ) :
    (pool.update id change).get? other =
      if other = id then (pool.get? id).map change else pool.get? other := by
  rcases pool with ⟨members, nextId⟩
  simp only [update, get?]
  induction members with
  | nil => simp
  | cons member members ih =>
      rcases member with ⟨number, generator⟩
      rw [List.map_cons, List.lookup_cons, List.lookup_cons, List.lookup_cons, ih]
      by_cases same : other = id
      · subst same
        by_cases is : other = number
        · simp [is]
        · simp [beq_false_of_ne is]
      · by_cases is : other = number
        · subst is
          simp [same]
        · simp [same, beq_false_of_ne is]

/-- No number is used twice, nor one that is yet to come. -/
structure IsNumbered (pool : GeneratorPool κ) : Prop where
  once : (pool.members.map Prod.fst).Nodup
  below : ∀ member ∈ pool.members, member.1 < pool.nextId

namespace IsNumbered

theorem empty : (empty : GeneratorPool κ).IsNumbered :=
  ⟨.nil, fun _ among => absurd among List.not_mem_nil⟩

theorem update (numbered : pool.IsNumbered) (id : Nat) (change : Generator κ → Generator κ) :
    (pool.update id change).IsNumbered := by
  have same : (pool.update id change).members.map Prod.fst = pool.members.map Prod.fst := by
    rw [GeneratorPool.update, List.map_map]
    rfl
  refine ⟨same ▸ numbered.once, fun member among => ?_⟩
  have listed : member.1 ∈ (pool.update id change).members.map Prod.fst := List.mem_map_of_mem among
  rw [same, List.mem_map] at listed
  rcases listed with ⟨original, present, number⟩
  rw [← number]
  exact numbered.below original present

theorem spawn (numbered : pool.IsNumbered) (profile : Profile) :
    (pool.spawn profile).IsNumbered := by
  have kept : ∀ member ∈ pool.alive, member.1 < pool.nextId := fun member among =>
    numbered.below member (List.mem_filter.mp among).1
  refine ⟨?_, fun member among => ?_⟩
  · rw [GeneratorPool.spawn, List.map_append, List.nodup_append]
    refine ⟨numbered.once.sublist (List.filter_sublist.map _), by simp, ?_⟩
    intro number listed last is same
    rcases List.mem_map.mp listed with ⟨member, among, rfl⟩
    have less := kept member among
    rw [List.mem_singleton.mp is] at same
    exact absurd same (Nat.ne_of_lt less)
  · rcases List.mem_append.mp among with among | last
    · exact Nat.lt_succ_of_lt (kept member among)
    · rw [List.mem_singleton.mp last]
      exact Nat.lt_succ_self _

theorem lt_nextId (numbered : pool.IsNumbered) (finds : pool.get? id = some found) :
    id < pool.nextId := by
  rcases List.lookup_eq_some_iff.mp finds with ⟨front, back, members, _⟩
  exact numbered.below (id, found) (by simp [members])

theorem get?_nextId (numbered : pool.IsNumbered) : pool.get? pool.nextId = none := by
  cases finds : pool.get? pool.nextId with
  | none => rfl
  | some generator => exact absurd (numbered.lt_nextId finds) (Nat.lt_irrefl _)

end IsNumbered

/-- Whoever is not over is found among those who are not over. -/
theorem lookup_filter_alive {members : List (Nat × Generator κ)}
    (once : (members.map Prod.fst).Nodup) (other : Nat) :
    (members.filter (fun member => !member.2.isOver)).lookup other =
      (members.lookup other).filter (fun generator => !generator.isOver) := by
  induction members with
  | nil => rfl
  | cons member members ih =>
      rcases member with ⟨number, generator⟩
      rw [List.map_cons, List.nodup_cons] at once
      rw [List.filter_cons, List.lookup_cons]
      by_cases is : other = number
      · subst is
        have absent : members.lookup other = none := by
          rw [List.lookup_eq_none_iff]
          refine fun member among => bne_iff_ne.mpr fun same => once.1 ?_
          exact List.mem_map.mpr ⟨member, among, same.symm⟩
        cases ended : generator.isOver with
        | true => simp [Option.filter, ended, ih once.2, absent]
        | false => simp [Option.filter, ended]
      · rw [beq_false_of_ne is]
        cases ended : generator.isOver with
        | true => simp [ih once.2]
        | false => simp [List.lookup_cons, beq_false_of_ne is, ih once.2]

/-- Those who are not over stay in the pool when another one is spawned. -/
theorem get?_spawn (numbered : pool.IsNumbered) (profile : Profile) (other : Nat) :
    (pool.spawn profile).get? other =
      if other = pool.nextId then some (.spawn profile)
      else (pool.get? other).filter (fun generator => !generator.isOver) := by
  rw [get?, spawn, List.lookup_append, lookup_filter_alive numbered.once, ← get?]
  by_cases new : other = pool.nextId
  · rw [new, numbered.get?_nextId]
    simp
  · rw [if_neg new, List.lookup_cons, beq_false_of_ne new]
    simp

end GeneratorPool
end VirtualRadio
