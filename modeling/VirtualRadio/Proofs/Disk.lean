import VirtualRadio.Disk

namespace VirtualRadio
namespace Disk

/-!
# Files that are opened again

Storing a file takes no directory away.  So a path that could be opened for
appending can be opened again after anything was stored there, and leads to the
same file, with everything that it held.
-/

variable {disk opened : Disk} {path : String} {name here found : List String}
  {held : List UInt8}

/-- The bytes of a file, none if there is no file. -/
def contents (disk : Disk) (path : String) : List UInt8 :=
  (disk.read path).toOption.getD []

/-! ## Storing a file -/

theorem lookup_put_of_ne (disk : Disk) (held : List UInt8) (other : here ≠ name) :
    (disk.put name held).entries.lookup here = disk.entries.lookup here := by
  have kept : ∀ entries : List (List String × DiskEntry),
      (entries.filter (fun entry => entry.1 ≠ name)).lookup here = entries.lookup here := by
    intro entries
    induction entries with
    | nil => rfl
    | cons entry entries ih =>
        rcases entry with ⟨key, value⟩
        by_cases same : key = name
        · rw [List.filter_cons_of_neg (by simp [same]), ih, List.lookup_cons, same,
            beq_eq_false_iff_ne.mpr other]
        · rw [List.filter_cons_of_pos (by simp [same]), List.lookup_cons, List.lookup_cons, ih]
  rw [put, List.lookup_cons, beq_eq_false_iff_ne.mpr other]
  exact kept disk.entries

theorem entry?_put_self (disk : Disk) (name : List String) (held : List UInt8) :
    entry? (disk.put name held) name = some (.file held) := by
  have stored : (disk.put name held).entries.lookup name = some (.file held) :=
    List.lookup_cons_self
  unfold entry?
  rw [stored]

/-- What an entry lies under, some entry still lies under. -/
theorem any_put (disk : Disk) (name : List String) (held : List UInt8)
    (leads : disk.entries.any (fun entry => here.isPrefixOf entry.1) = true) :
    (disk.put name held).entries.any (fun entry => here.isPrefixOf entry.1) = true := by
  rcases List.any_eq_true.mp leads with ⟨entry, member, under⟩
  rw [List.any_eq_true]
  by_cases same : entry.1 = name
  · exact ⟨(name, .file held), List.mem_cons_self, same ▸ under⟩
  · exact ⟨entry, List.mem_cons_of_mem _ (List.mem_filter.mpr ⟨member, decide_eq_true same⟩), under⟩

/-- A directory stays one when a file is stored elsewhere. -/
theorem entry?_put_of_directory (leads : disk.entry? here = some .directory)
    (other : here ≠ name) (held : List UInt8) :
    entry? (disk.put name held) here = some .directory := by
  unfold entry? at leads ⊢
  rw [disk.lookup_put_of_ne held other]
  cases named : disk.entries.lookup here with
  | some entry =>
      rw [named] at leads
      exact leads
  | none =>
      simp only [named] at leads ⊢
      split at leads
      · next under =>
          refine if_pos ?_
          rw [Bool.or_eq_true] at under ⊢
          exact under.imp_right (disk.any_put name held)
      · contradiction

/-! ## Following a path again -/

/-- A path does not go through a file. -/
theorem walk_put {components : List String} (walked : disk.walk here components = .ok found)
    (noDirectory : disk.entry? name ≠ some .directory) (held : List UInt8) :
    (disk.put name held).walk here components = .ok found := by
  induction components generalizing here with
  | nil => exact walked
  | cons component components ih =>
      unfold walk at walked ⊢
      split at walked
      · contradiction
      · contradiction
      · next leads =>
          have other : here ≠ name := fun same => noDirectory (same ▸ leads)
          rw [entry?_put_of_directory leads other held]
          simp only
          split at walked
          · next stay =>
              rw [if_pos stay]
              exact ih walked
          · next move =>
              rw [if_neg move]
              split at walked
              · next up =>
                  rw [if_pos up]
                  exact ih walked
              · next down =>
                  rw [if_neg down]
                  exact ih walked

theorem resolve_put (resolved : disk.resolve path = .ok found)
    (noDirectory : disk.entry? name ≠ some .directory) (held : List UInt8) :
    (disk.put name held).resolve path = .ok found := by
  unfold resolve at resolved ⊢
  split at resolved
  · contradiction
  · next something =>
      rw [if_neg something]
      exact walk_put resolved noDirectory held

/-! ## Opening a file again -/

/-- What it takes to open a file for appending. -/
theorem openAppend_eq_ok (opens : disk.openAppend path = .ok (name, opened)) :
    disk.resolve path = .ok name ∧
      ((∃ held, disk.entry? name = some (.file held)) ∧ opened = disk ∨
        disk.entry? name = none ∧ opened = disk.put name []) := by
  unfold openAppend at opens
  cases resolved : disk.resolve path with
  | error fault =>
      rw [resolved] at opens
      contradiction
  | ok reached =>
      simp only [resolved, bind, Except.bind] at opens
      split at opens
      · next held entry =>
          cases opens
          exact ⟨rfl, .inl ⟨⟨held, entry⟩, rfl⟩⟩
      · contradiction
      · next missing =>
          split at opens
          · cases opens
            exact ⟨rfl, .inr ⟨missing, rfl⟩⟩
          · contradiction
          · contradiction

/-- A file with some contents, at which a path leads for appending. -/
structure Holds (disk : Disk) (path : String) (name : List String) (held : List UInt8) :
    Prop where
  resolved : disk.resolve path = .ok name
  entry : disk.entry? name = some (.file held)

namespace Holds

theorem openAppend (holds : disk.Holds path name held) :
    disk.openAppend path = .ok (name, disk) := by
  rw [Disk.openAppend, holds.resolved]
  simp only [bind, Except.bind, holds.entry]

theorem read (holds : disk.Holds path name held) : disk.read path = .ok held := by
  simp only [Disk.read, find, holds.resolved, bind, Except.bind, holds.entry]

theorem contents (holds : disk.Holds path name held) : disk.contents path = held := by
  rw [Disk.contents, holds.read]
  rfl

theorem append (holds : disk.Holds path name held) (bytes : List UInt8) :
    (disk.append name bytes).Holds path name (held ++ bytes) := by
  have noDirectory : disk.entry? name ≠ some .directory := by
    rw [holds.entry]
    nofun
  rw [Disk.append, holds.entry]
  exact ⟨resolve_put holds.resolved noDirectory _, disk.entry?_put_self name _⟩

end Holds

/-- A file that was opened for appending holds what it held before. -/
theorem holds_of_openAppend (opens : disk.openAppend path = .ok (name, opened)) :
    opened.Holds path name (disk.contents path) := by
  obtain ⟨resolved, ⟨⟨held, entry⟩, rfl⟩ | ⟨missing, rfl⟩⟩ := openAppend_eq_ok opens
  · have holds : opened.Holds path name held := ⟨resolved, entry⟩
    rw [holds.contents]
    exact holds
  · have empty : disk.contents path = [] := by
      simp only [contents, read, find, resolved, bind, Except.bind, missing]
      rfl
    have noDirectory : disk.entry? name ≠ some .directory := by
      rw [missing]
      nofun
    rw [empty]
    exact ⟨resolve_put resolved noDirectory _, disk.entry?_put_self name _⟩

end Disk
end VirtualRadio
