import Mathlib.Data.List.Forall2
import VirtualRadio.MacAddress

namespace VirtualRadio

/-!
# The texts that are hardware addresses

An address is read from six groups with a separator between each and the next,
and from nothing else.  A group is two hexadecimal digits; a plus sign with one
digit behind it is taken as well.  What is written for an address is such a text,
and it is read back.

Splitting finds the groups because none of their characters is a separator.
-/

namespace Text

/-! ### Digits -/

/-- The hexadecimal digits, by their values. -/
def lowerHexDigits : List Char :=
  ['0', '1', '2', '3', '4', '5', '6', '7', '8', '9', 'a', 'b', 'c', 'd', 'e', 'f']

/-- The same with upper-case letters. -/
def upperHexDigits : List Char :=
  ['0', '1', '2', '3', '4', '5', '6', '7', '8', '9', 'A', 'B', 'C', 'D', 'E', 'F']

/-- A character is the hexadecimal digit with a value. -/
def IsHexDigit (char : Char) (value : Nat) : Prop :=
  lowerHexDigits[value]? = some char ∨ upperHexDigits[value]? = some char

instance (char : Char) (value : Nat) : Decidable (IsHexDigit char value) :=
  inferInstanceAs (Decidable (_ ∨ _))

section Digits

variable {char : Char} {value : Nat}

theorem lt_of_hexDigit? (read : hexDigit? char = some value) : char.toNat < 103 := by
  have last {high : Char} (below : char ≤ high) : char.toNat ≤ high.toNat := below
  unfold hexDigit? at read
  split at read
  · next digit => exact Nat.lt_of_le_of_lt (last digit.2) (by decide)
  · split at read
    · next letter => exact Nat.lt_of_le_of_lt (last letter.2) (by decide)
    · split at read
      · next letter => exact Nat.lt_of_le_of_lt (last letter.2) (by decide)
      · contradiction

/-- The characters that are read as digits are those listed. -/
theorem hexDigit?_eq_some_iff : hexDigit? char = some value ↔ IsHexDigit char value := by
  constructor
  · intro read
    have table : ∀ code < 103, ∀ value ∈ hexDigit? (Char.ofNat code),
        IsHexDigit (Char.ofNat code) value := by
      decide
    have low := lt_of_hexDigit? read
    rw [← Char.ofNat_toNat char] at read ⊢
    exact table char.toNat low value read
  · rintro (lower | upper)
    · have table : ∀ value < 16, lowerHexDigits[value]?.bind hexDigit? = some value := by
        decide
      have read := table value (List.getElem?_eq_some_iff.mp lower).1
      rwa [lower] at read
    · have table : ∀ value < 16, upperHexDigits[value]?.bind hexDigit? = some value := by
        decide
      have read := table value (List.getElem?_eq_some_iff.mp upper).1
      rwa [upper] at read

theorem IsHexDigit.lt (digit : IsHexDigit char value) : value < 16 := by
  rcases digit with lower | upper
  · exact (List.getElem?_eq_some_iff.mp lower).1
  · exact (List.getElem?_eq_some_iff.mp upper).1

/-- A digit is none of the marks that stand in an address. -/
theorem IsHexDigit.ne_mark (digit : IsHexDigit char value) :
    char ≠ ':' ∧ char ≠ '-' ∧ char ≠ '+' := by
  have read := hexDigit?_eq_some_iff.mpr digit
  refine ⟨?_, ?_, ?_⟩
  all_goals
    rintro rfl
    exact Option.some_ne_none value read.symm

end Digits

/-! ### Parts -/

/-- A text consists of parts with one mark between each and the next. -/
inductive Joins (isMark : Char → Bool) : List (List Char) → List Char → Prop
  | last (part : List Char) : Joins isMark [part] part
  | more (part : List Char) {mark : Char} {parts : List (List Char)} {rest : List Char}
      (marked : isMark mark = true) (joined : Joins isMark parts rest) :
      Joins isMark (part :: parts) (part ++ mark :: rest)

section Parts

variable {isMark : Char → Bool} {part : List Char} {parts : List (List Char)} {text : List Char}

/-- A text splits into parts that it consists of. -/
theorem joins_splitAt (isMark : Char → Bool) (text : List Char) :
    Joins isMark (splitAt isMark text) text := by
  induction text with
  | nil => exact .last []
  | cons char rest ih =>
    rw [splitAt]
    split
    · next equal => exact absurd equal (splitAt_ne_nil isMark rest)
    · next part parts equal =>
      rw [equal] at ih
      split
      · next marked => exact .more [] marked ih
      · cases ih with
        | last => exact .last (char :: rest)
        | more _ marked joined => exact .more (char :: part) marked joined

theorem splitAt_of_unmarked (unmarked : ∀ char ∈ part, isMark char = false) :
    splitAt isMark part = [part] := by
  induction part with
  | nil => rfl
  | cons char part ih =>
    rw [splitAt, ih (fun other mem => unmarked other (.tail _ mem))]
    simp [unmarked char (.head _)]

/-- A part ends at the first mark. -/
theorem splitAt_append_mark (unmarked : ∀ char ∈ part, isMark char = false)
    {mark : Char} (marked : isMark mark = true) (rest : List Char) :
    splitAt isMark (part ++ mark :: rest) = part :: splitAt isMark rest := by
  induction part with
  | nil =>
    rw [List.nil_append, splitAt]
    split
    · exact absurd ‹_› (splitAt_ne_nil isMark rest)
    · rename_i equal
      rw [if_pos marked, ← equal]
  | cons char part ih =>
    rw [List.cons_append, splitAt, ih (fun other mem => unmarked other (.tail _ mem))]
    simp [unmarked char (.head _)]

namespace Joins

/-- Parts without marks are found again. -/
theorem splitAt_eq (joined : Joins isMark parts text)
    (unmarked : ∀ part ∈ parts, ∀ char ∈ part, isMark char = false) :
    splitAt isMark text = parts := by
  induction joined with
  | last part => exact splitAt_of_unmarked (unmarked part (.head _))
  | more part marked joined ih =>
    rw [splitAt_append_mark (unmarked part (.head _)) marked,
      ih (fun other mem => unmarked other (.tail _ mem))]

/-- The characters of the parts are characters of the text. -/
theorem mem_of_mem (joined : Joins isMark parts text) (mem : part ∈ parts) {char : Char}
    (within : char ∈ part) : char ∈ text := by
  induction joined with
  | last => rwa [← List.mem_singleton.mp mem]
  | more first marked joined ih =>
    rcases List.mem_cons.mp mem with rfl | later
    · exact List.mem_append_left _ within
    · exact List.mem_append_right _ (List.mem_cons_of_mem _ (ih later))

/-- Parts are joined by putting one and the same mark between them. -/
theorem intercalate {mark : Char} (marked : isMark mark = true) (nonempty : parts ≠ []) :
    Joins isMark parts ([mark].intercalate parts) := by
  induction parts with
  | nil => contradiction
  | cons part parts ih =>
    cases parts with
    | nil => simpa [List.intercalate] using Joins.last part
    | cons next rest =>
      have joined := Joins.more part marked (ih (by simp))
      simpa [List.intercalate] using joined

end Joins
end Parts
end Text

namespace MacAddress

open Text (IsHexDigit)

/-! ### Groups -/

/-- A group is the two digits of an octet. -/
def IsPair (group : List Char) (octet : UInt8) : Prop :=
  ∃ high low highValue lowValue, group = [high, low] ∧
    IsHexDigit high highValue ∧ IsHexDigit low lowValue ∧
      octet.toNat = 16 * highValue + lowValue

/-- A group is a plus sign and the digit of an octet below sixteen. -/
def IsSigned (group : List Char) (octet : UInt8) : Prop :=
  ∃ low value, group = ['+', low] ∧ IsHexDigit low value ∧ octet.toNat = value

section Groups

variable {group : List Char} {octet : UInt8}

theorem ofNat_eq_iff {value : Nat} (below : value < 256) :
    UInt8.ofNat value = octet ↔ octet.toNat = value := by
  constructor
  · rintro rfl
    exact UInt8.toNat_ofNat_of_lt below
  · rintro rfl
    exact UInt8.ofNat_toNat

theorem octet?_eq_some_of_isPair (pair : IsPair group octet) : octet? group = some octet := by
  obtain ⟨high, low, highValue, lowValue, rfl, isHigh, isLow, value⟩ := pair
  have highBelow := isHigh.lt
  have lowBelow := isLow.lt
  rw [octet?, Text.hexDigit?_eq_some_iff.mpr isHigh, Text.hexDigit?_eq_some_iff.mpr isLow]
  · exact congrArg some ((ofNat_eq_iff (by omega)).mpr value)
  · exact isHigh.ne_mark.2.2

theorem octet?_eq_some_of_isSigned (signed : IsSigned group octet) :
    octet? group = some octet := by
  obtain ⟨low, lowValue, rfl, isLow, value⟩ := signed
  have lowBelow := isLow.lt
  rw [octet?, Text.hexDigit?_eq_some_iff.mpr isLow]
  exact congrArg some ((ofNat_eq_iff (by omega)).mpr value)

/-- A group is read if it is two digits, or a sign and a digit. -/
theorem octet?_eq_some_iff :
    octet? group = some octet ↔ IsPair group octet ∨ IsSigned group octet := by
  constructor
  · intro read
    unfold octet? at read
    split at read
    · next low =>
      obtain ⟨value, isLow, made⟩ := Option.map_eq_some_iff.mp read
      have digit := Text.hexDigit?_eq_some_iff.mp isLow
      have below := digit.lt
      exact .inr ⟨low, value, rfl, digit, (ofNat_eq_iff (by omega)).mp made⟩
    · next high low _ =>
      obtain ⟨highValue, isHigh, rest⟩ := Option.bind_eq_some_iff.mp read
      obtain ⟨lowValue, isLow, made⟩ := Option.bind_eq_some_iff.mp rest
      have highDigit := Text.hexDigit?_eq_some_iff.mp isHigh
      have lowDigit := Text.hexDigit?_eq_some_iff.mp isLow
      have highBelow := highDigit.lt
      have lowBelow := lowDigit.lt
      exact .inl ⟨high, low, highValue, lowValue, rfl, highDigit, lowDigit,
        (ofNat_eq_iff (by omega)).mp (Option.some.inj made)⟩
    · contradiction
  · rintro (pair | signed)
    · exact octet?_eq_some_of_isPair pair
    · exact octet?_eq_some_of_isSigned signed

theorem isSeparator_of_isHexDigit {char : Char} {value : Nat} (digit : IsHexDigit char value) :
    isSeparator char = false := by
  simp [isSeparator, digit.ne_mark]

/-- No character of a group is a separator. -/
theorem isSeparator_of_octet? (read : octet? group = some octet) {char : Char}
    (mem : char ∈ group) : isSeparator char = false := by
  rcases octet?_eq_some_iff.mp read with pair | signed
  · obtain ⟨high, low, _, _, rfl, isHigh, isLow, -⟩ := pair
    rcases List.mem_pair.mp mem with rfl | rfl
    · exact isSeparator_of_isHexDigit isHigh
    · exact isSeparator_of_isHexDigit isLow
  · obtain ⟨low, _, rfl, isLow, -⟩ := signed
    rcases List.mem_pair.mp mem with rfl | rfl
    · rfl
    · exact isSeparator_of_isHexDigit isLow

end Groups

/-! ### Addresses -/

section Addresses

variable {address : MacAddress}

/-- Six groups are an address if each of them is its octet. -/
theorem ofGroups?_eq_some_iff {groups : List (List Char)} :
    ofGroups? groups = some address ↔
      List.Forall₂ (fun group octet => octet? group = some octet) groups
        address.octets.toList := by
  constructor
  · intro read
    unfold ofGroups? at read
    split at read
    · obtain ⟨_, first, read⟩ := Option.bind_eq_some_iff.mp read
      obtain ⟨_, second, read⟩ := Option.bind_eq_some_iff.mp read
      obtain ⟨_, third, read⟩ := Option.bind_eq_some_iff.mp read
      obtain ⟨_, fourth, read⟩ := Option.bind_eq_some_iff.mp read
      obtain ⟨_, fifth, read⟩ := Option.bind_eq_some_iff.mp read
      obtain ⟨_, sixth, read⟩ := Option.bind_eq_some_iff.mp read
      cases read
      exact .cons first (.cons second (.cons third (.cons fourth (.cons fifth
        (.cons sixth .nil)))))
    · contradiction
  · intro each
    obtain ⟨⟨⟨octets⟩, size⟩⟩ := address
    match octets, size, groups, each with
    | [_, _, _, _, _, _], _, _, .cons first (.cons second (.cons third (.cons fourth (.cons fifth
        (.cons sixth .nil))))) =>
      simp [ofGroups?, ofOctets, first, second, third, fourth, fifth, sixth]

/-- Groups that are read are those that splitting finds. -/
theorem splitAt_eq_of_read {groups : List (List Char)} {octets : List UInt8} {text : List Char}
    (joined : Text.Joins isSeparator groups text)
    (each : List.Forall₂ (fun group octet => octet? group = some octet) groups octets) :
    Text.splitAt isSeparator text = groups := by
  have unmarked := each.imp (fun group octet (read : octet? group = some octet) =>
    (⟨fun _ => isSeparator_of_octet? read, read⟩ :
      (∀ char ∈ group, isSeparator char = false) ∧ octet? group = some octet))
  exact joined.splitAt_eq ((List.forall₂_and_left _ _).mp unmarked).1

/-- The texts that are read as an address, group by group. -/
theorem parse_eq_ok_iff {text : String} :
    parse text = .ok address ↔
      ∃ groups, Text.Joins isSeparator groups text.toList ∧
        List.Forall₂ (fun group octet => octet? group = some octet) groups
          address.octets.toList := by
  constructor
  · intro read
    rw [parse] at read
    split at read
    · next known =>
      cases read
      exact ⟨_, Text.joins_splitAt isSeparator text.toList, ofGroups?_eq_some_iff.mp known⟩
    · contradiction
  · rintro ⟨groups, joined, each⟩
    rw [parse, splitAt_eq_of_read joined each, ofGroups?_eq_some_iff.mpr each]

theorem octet?_hexByte (byte : UInt8) : octet? (Text.hexByte byte) = some byte := by
  have below : byte.toNat < 256 := byte.toNat_lt
  have high := Text.hexDigit?_hexDigit (byte.toNat / 16) (by omega)
  have low := Text.hexDigit?_hexDigit (byte.toNat % 16) (by omega)
  exact octet?_eq_some_of_isPair ⟨_, _, _, _, rfl, Text.hexDigit?_eq_some_iff.mp high,
    Text.hexDigit?_eq_some_iff.mp low, (Nat.div_add_mod byte.toNat 16).symm⟩

/-- An address is read back from what is written for it. -/
theorem parse_render (address : MacAddress) : parse address.render = .ok address := by
  have nonempty : address.octets.toList.map Text.hexByte ≠ [] := by simp
  apply parse_eq_ok_iff.mpr
  refine ⟨address.octets.toList.map Text.hexByte, ?_, ?_⟩
  · rw [render, String.toList_ofList]
    exact .intercalate (by decide) nonempty
  · rw [List.forall₂_map_left_iff]
    exact List.forall₂_same.mpr (fun byte _ => octet?_hexByte byte)

/-- A text is read as an address if it consists of six groups, separated by colons or
hyphens, each of which is two hexadecimal digits or a plus sign and one digit, and
the octets are the values of the groups.  So of the texts without plus signs those
with six pairs of digits are read, and no others.  An address is read back from what
is written for it. -/
theorem reads_six_groups (text : String) (address : MacAddress) :
    (parse text = .ok address ↔
      ∃ groups, Text.Joins isSeparator groups text.toList ∧
        List.Forall₂ (fun group octet => IsPair group octet ∨ IsSigned group octet) groups
          address.octets.toList) ∧
    ('+' ∉ text.toList →
      (parse text = .ok address ↔
        ∃ groups, Text.Joins isSeparator groups text.toList ∧
          List.Forall₂ IsPair groups address.octets.toList)) ∧
    parse address.render = .ok address := by
  have accepted : parse text = .ok address ↔
      ∃ groups, Text.Joins isSeparator groups text.toList ∧
        List.Forall₂ (fun group octet => IsPair group octet ∨ IsSigned group octet) groups
          address.octets.toList := by
    simp only [parse_eq_ok_iff, octet?_eq_some_iff]
  refine ⟨accepted, fun unsigned => accepted.trans ?_, address.parse_render⟩
  constructor
  · rintro ⟨groups, joined, each⟩
    have signless : ∀ group ∈ groups, '+' ∉ group :=
      fun group mem sign => unsigned (joined.mem_of_mem mem sign)
    refine ⟨groups, joined, ?_⟩
    apply ((List.forall₂_and_left _ _).mpr ⟨signless, each⟩).imp
    rintro group octet ⟨signless, pair | ⟨low, _, rfl, -⟩⟩
    · exact pair
    · exact absurd (List.mem_cons_self) signless
  · rintro ⟨groups, joined, each⟩
    exact ⟨groups, joined, each.imp (fun _ _ => .inl)⟩

/-- A sign in the place of a digit is no pair of digits, but it is read. -/
theorem signed_group_is_read :
    let text := "+1:02:03:04:05:06"
    parse text = .ok (ofOctets 1 2 3 4 5 6) ∧
      ¬ ∃ groups, Text.Joins isSeparator groups text.toList ∧
        List.Forall₂ IsPair groups (ofOctets 1 2 3 4 5 6).octets.toList := by
  intro text
  refine ⟨by decide, ?_⟩
  rintro ⟨groups, joined, each⟩
  have split : Text.splitAt isSeparator text.toList =
      [['+', '1'], ['0', '2'], ['0', '3'], ['0', '4'], ['0', '5'], ['0', '6']] := by
    decide
  rw [← splitAt_eq_of_read joined (each.imp (fun _ _ => octet?_eq_some_of_isPair)), split] at each
  cases each with
  | cons first _ =>
    obtain ⟨high, low, _, _, same, isHigh, -⟩ := first
    cases same
    exact isHigh.ne_mark.2.2 rfl

end Addresses
end MacAddress
end VirtualRadio
