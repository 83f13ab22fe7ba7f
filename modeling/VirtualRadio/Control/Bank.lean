import VirtualRadio.Control.Register

namespace VirtualRadio

/-!
# Register bank

The bank remembers the last value written to each register.  A new bank holds
none, so the first value written to a register is always a change.  Writing
reports a change exactly when the stored value becomes another one; a register
without a slot is never stored and never reported.
-/

/-- A register took a new value.  `old` is absent if it had none. -/
structure RegisterChange where
  register : Register
  old : Option Int
  new : Int
  deriving DecidableEq, Repr, Inhabited

/-- The last value of every register that has been written. -/
structure RegisterBank where
  slots : Vector (Option Int) Register.slotCount
  deriving DecidableEq, Repr

namespace RegisterBank

/-- The bank in which nothing has been written. -/
def empty : RegisterBank :=
  ⟨Vector.replicate Register.slotCount none⟩

instance : Inhabited RegisterBank := ⟨empty⟩

/-- The last value written to a register. -/
def get? (bank : RegisterBank) (register : Register) : Option Int :=
  register.slot?.bind (fun slot => bank.slots[slot])

/-- The last value written to a register, or `fallback` if there is none. -/
def getD (bank : RegisterBank) (register : Register) (fallback : Int) : Int :=
  (bank.get? register).getD fallback

/-- Write a register, and report the change if there is one. -/
def set (bank : RegisterBank) (register : Register) (value : Int) :
    RegisterBank × Option RegisterChange :=
  match register.slot? with
  | none => (bank, none)
  | some slot =>
    let old := bank.slots[slot]
    if old = some value then
      (bank, none)
    else
      (⟨bank.slots.set slot (some value)⟩, some ⟨register, old, value⟩)

/-- Whether nothing has been written yet. -/
def isEmpty (bank : RegisterBank) : Bool :=
  bank.slots.all Option.isNone

/-- The registers that hold a value, in slot order, each with its value. -/
def entries (bank : RegisterBank) : List (Register × Int) :=
  Register.inSlotOrder.filterMap (fun register =>
    (bank.get? register).map (fun value => (register, value)))

/-! ### What is stored where -/

section Storage

variable {register other : Register} {slot : Fin Register.slotCount}

theorem get?_of_slot? (bank : RegisterBank) (owns : register.slot? = some slot) :
    bank.get? register = bank.slots[slot] := by
  rw [get?, owns]
  rfl

theorem get?_of_slotless (bank : RegisterBank) (slotless : register.slot? = none) :
    bank.get? register = none := by
  rw [get?, slotless]
  rfl

@[simp]
theorem get?_empty (register : Register) : empty.get? register = none := by
  rcases owns : register.slot? with _ | slot
  · exact get?_of_slotless empty owns
  · rw [get?_of_slot? empty owns]
    exact Vector.getElem_replicate _

theorem set_of_slotless (bank : RegisterBank) (slotless : register.slot? = none) (value : Int) :
    bank.set register value = (bank, none) := by
  rw [set, slotless]

theorem set_of_slot? (bank : RegisterBank) (owns : register.slot? = some slot) (value : Int) :
    bank.set register value =
      if bank.get? register = some value then (bank, none)
      else (⟨bank.slots.set slot (some value)⟩,
        some ⟨register, bank.get? register, value⟩) := by
  rw [set, owns, get?_of_slot? bank owns]

theorem get?_set_self (bank : RegisterBank) (stored : register.slot?.isSome = true)
    (value : Int) : (bank.set register value).1.get? register = some value := by
  rcases Option.isSome_iff_exists.mp stored with ⟨slot, owns⟩
  rw [set_of_slot? bank owns]
  split
  · next same => exact same
  · rw [get?_of_slot? _ owns]
    exact Vector.getElem_set_self _

theorem get?_set_of_ne (bank : RegisterBank) (different : other ≠ register) (value : Int) :
    (bank.set register value).1.get? other = bank.get? other := by
  rcases owns : register.slot? with _ | slot
  · rw [set_of_slotless bank owns]
  · rw [set_of_slot? bank owns]
    split
    · rfl
    · rcases otherOwns : other.slot? with _ | place
      · rw [get?_of_slotless _ otherOwns, get?_of_slotless _ otherOwns]
      · have apart : slot.val ≠ place.val := by
          intro same
          rw [← Fin.ext same] at otherOwns
          exact different (Register.eq_of_slot? otherOwns owns)
        rw [get?_of_slot? _ otherOwns, get?_of_slot? _ otherOwns]
        exact Vector.getElem_set_ne slot.isLt place.isLt apart

/-- A change is reported exactly when the value that is stored becomes another
one. -/
theorem set_change? (bank : RegisterBank) (register : Register) (value : Int) :
    (bank.set register value).2 =
      if register.slot?.isSome ∧ bank.get? register ≠ some value then
        some ⟨register, bank.get? register, value⟩
      else none := by
  rcases owns : register.slot? with _ | slot
  · rw [set_of_slotless bank owns]
    rfl
  · rw [set_of_slot? bank owns]
    by_cases same : bank.get? register = some value <;> simp [same]

end Storage

/-! ### Readings in the ranges their users need -/

/-- Whether the transmitter is keyed. -/
def ptt (bank : RegisterBank) : Bool :=
  bank.getD .ptt 0 ≠ 0

/-- The sample-rate code, cut to a byte. -/
def sampleRateCode (bank : RegisterBank) : UInt8 :=
  UInt8.ofInt (bank.getD .sampleRate 0)

/-- The number of receivers: at least one, at most eight, one if never written. -/
def receivers (bank : RegisterBank) : UInt8 :=
  UInt8.ofInt (max 1 (min 8 (bank.getD .receivers 1)))

/-- The transmit frequency in hertz, cut to 32 bits. -/
def txFrequency (bank : RegisterBank) : Option UInt32 :=
  (bank.get? .txFrequency).map UInt32.ofInt

/-- The transmit drive level, cut to a byte. -/
def txDrive (bank : RegisterBank) : UInt8 :=
  UInt8.ofInt (bank.getD .txDrive 0)

end RegisterBank
end VirtualRadio
