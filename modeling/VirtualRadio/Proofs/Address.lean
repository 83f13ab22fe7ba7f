import VirtualRadio.Address
import VirtualRadio.Proofs.Text.Numerals

namespace VirtualRadio
namespace IpAddress

/-!
# Network addresses that were written

Every address of either family is read back from what is written for it.  A
number of an address ends where no digit follows, so that each reader takes
exactly what was written for its part; a long address is never taken for a
four-part one, because no dot precedes its first colon.
-/

/-! ### Digits off the front -/

/-- A text that does not go on with a digit. -/
def EndsDigits (base : Nat) (text : List Char) : Prop :=
  ∀ char rest, text = char :: rest → Text.digit? base char = none

theorem endsDigits_nil (base : Nat) : EndsDigits base [] := by
  intro char rest equal
  cases equal

theorem endsDigits_cons {base : Nat} {char : Char} (other : Text.digit? base char = none)
    (rest : List Char) : EndsDigits base (char :: rest) := by
  rintro _ _ ⟨rfl, rfl⟩
  exact other

theorem leadingDigits_append {base limit : Nat} {digits rest : List Char}
    (all : ∀ char ∈ digits, (Text.digit? base char).isSome) (fits : digits.length ≤ limit)
    (ends : EndsDigits base rest) : leadingDigits base limit (digits ++ rest) = digits := by
  have stops : (rest.take (limit - digits.length)).takeWhile
      (fun char => (Text.digit? base char).isSome) = [] := by
    cases rest with
    | nil => simp
    | cons char rest =>
      cases limit - digits.length with
      | zero => rfl
      | succ _ => simp [ends char rest rfl]
  rw [leadingDigits, List.take_append, List.take_of_length_le fits,
    List.takeWhile_append_of_pos all, stops, List.append_nil]

/-- Any numeral that fits is what the digits of a text amount to. -/
theorem leadingDigits_toDigits {base limit value : Nat} (least : 1 < base) (most : base ≤ 16)
    (positive : 0 < limit) (below : value < Nat.pow base limit) {rest : List Char}
    (ends : EndsDigits base rest) :
    leadingDigits base limit (Nat.toDigits base value ++ rest) = Nat.toDigits base value := by
  apply leadingDigits_append
  · intro char mem
    exact Text.isSome_digit?_of_mem_toDigits least most mem
  · exact (Nat.length_toDigits_le_iff least positive).mpr below
  · exact ends

theorem takeOctet?_decimal (octet : UInt8) {rest : List Char} (ends : EndsDigits 10 rest) :
    takeOctet? (Text.decimal octet.toNat ++ rest) = some (octet, rest) := by
  have below : octet.toNat < 256 := octet.toNat_lt
  have digits : leadingDigits 10 3 (Text.decimal octet.toNat ++ rest)
      = Text.decimal octet.toNat :=
    leadingDigits_toDigits (by decide) (by decide) (by decide)
      (Nat.lt_trans below (by decide)) ends
  have noZeros : ¬ (1 < (Text.decimal octet.toNat).length
      ∧ (Text.decimal octet.toNat).head? = some '0') := by
    rintro ⟨long, head⟩
    have short : Text.decimal octet.toNat = ['0'] :=
      Text.toDigits_eq_singleton_of_head (by decide) (by decide) head
    rw [short] at long
    exact absurd long (by decide)
  simp [takeOctet?, digits, noZeros, Text.numeral?_decimal, below]

/-- What an octet is taken from is its digits and what is left. -/
theorem takeOctet?_eq_some {text rest : List Char} {octet : UInt8}
    (taken : takeOctet? text = some (octet, rest)) :
    ∃ digits, text = digits ++ rest ∧ ∀ char ∈ digits, (Text.digit? 10 char).isSome := by
  have front : leadingDigits 10 3 text <+: text :=
    (List.takeWhile_prefix _).trans (List.take_prefix 3 text)
  refine ⟨leadingDigits 10 3 text, ?_, List.all_eq_true.mp List.all_takeWhile⟩
  have left : text.drop (leadingDigits 10 3 text).length = rest := by
    simp only [takeOctet?] at taken
    split at taken
    · cases taken
    · split at taken
      · split at taken
        · exact (Prod.mk.inj (Option.some.inj taken)).2
        · cases taken
      · cases taken
  rw [← left]
  exact (List.prefix_iff_eq_append.mp front).symm

/-! ### Four-part addresses -/

theorem takeV4?_renderV4 (first second third fourth : UInt8) {rest : List Char}
    (ends : EndsDigits 10 rest) :
    takeV4? (renderV4 [first, second, third, fourth] ++ rest)
      = some (fourParts first second third fourth, rest) := by
  have dot (more : List Char) : EndsDigits 10 ('.' :: more) := endsDigits_cons (by decide) more
  simp [takeV4?, renderV4, List.intercalate, takeOctet?_decimal _ (dot _),
    takeOctet?_decimal _ ends, takeChar?]

/-- A text that ends or goes on with a colon. -/
def EndsGroup (text : List Char) : Prop :=
  text = [] ∨ ∃ rest, text = ':' :: rest

theorem EndsGroup.endsDigits {base : Nat} {text : List Char} (ends : EndsGroup text) :
    EndsDigits base text := by
  rcases ends with rfl | ⟨rest, rfl⟩
  · exact endsDigits_nil base
  · apply endsDigits_cons
    simp [Text.digit?, Text.hexDigit?]

/-- Without a dot in front of its first colon a text begins with no four-part
address. -/
theorem takeV4?_eq_none {front rest : List Char} (dotless : ∀ char ∈ front, char ≠ '.')
    (ends : EndsGroup rest) : takeV4? (front ++ rest) = none := by
  rw [takeV4?]
  cases taken : takeOctet? (front ++ rest) with
  | none => rfl
  | some found =>
    obtain ⟨octet, after⟩ := found
    obtain ⟨digits, equal, all⟩ := takeOctet?_eq_some taken
    suffices takeChar? '.' after = none by simp [this]
    cases after with
    | nil => rfl
    | cons char more =>
      suffices char ≠ '.' by simp [takeChar?, this]
      rcases List.append_eq_append_iff.mp equal with ⟨between, rfl, rest'⟩ | ⟨between, rfl, rest'⟩
      · have noColon : ':' ∉ front ++ between := by
          intro mem
          exact absurd (all ':' mem) (by decide)
        rcases ends with rfl | ⟨tail, rfl⟩
        · simp at rest'
        · cases between with
          | nil =>
            obtain ⟨rfl, -⟩ := List.cons.inj rest'
            decide
          | cons colon between =>
            obtain ⟨rfl, -⟩ := List.cons.inj rest'
            simp at noColon
      · cases between with
        | nil =>
          rcases ends with rfl | ⟨tail, rfl⟩
          · cases rest'
          · obtain ⟨rfl, -⟩ := List.cons.inj rest'
            decide
        | cons first between =>
          obtain ⟨rfl, -⟩ := List.cons.inj rest'
          exact dotless char (by simp)

/-! ### Groups -/

/-- A group ends at a colon or with the text. -/
theorem takeGroup?_toDigits (group : UInt16) {rest : List Char} (ends : EndsGroup rest) :
    takeGroup? (Nat.toDigits 16 group.toNat ++ rest) = some (group, rest) := by
  have below : group.toNat < 65536 := group.toNat_lt
  have digits : leadingDigits 16 4 (Nat.toDigits 16 group.toNat ++ rest)
      = Nat.toDigits 16 group.toNat :=
    leadingDigits_toDigits (by decide) (by decide) (by decide) below ends.endsDigits
  simp [takeGroup?, digits, Text.numeral?_toDigits]

theorem takeGroup?_eq_none {rest : List Char} (ends : EndsGroup rest) :
    takeGroup? rest = none := by
  have digits : leadingDigits 16 4 ([] ++ rest) = [] :=
    leadingDigits_append (by simp) (by decide) ends.endsDigits
  rw [List.nil_append] at digits
  simp [takeGroup?, digits, Text.numeral?]

theorem ne_dot_of_mem_toDigits {value : Nat} {char : Char} (mem : char ∈ Nat.toDigits 16 value) :
    char ≠ '.' := by
  rintro rfl
  exact absurd (Text.isSome_digit?_of_mem_toDigits (by decide) (by decide) mem) (by decide)

/-- Groups behind a first one, each after its separator. -/
def followingGroups (groups : List UInt16) : List Char :=
  groups.flatMap (fun group => ':' :: Nat.toDigits 16 group.toNat)

theorem renderGroups_cons (group : UInt16) (groups : List UInt16) :
    renderGroups (group :: groups) = Nat.toDigits 16 group.toNat ++ followingGroups groups := by
  induction groups generalizing group with
  | nil => simp [renderGroups, followingGroups, List.intercalate]
  | cons next groups ih =>
    have tail : renderGroups (group :: next :: groups)
        = Nat.toDigits 16 group.toNat ++ ':' :: renderGroups (next :: groups) := by
      simp [renderGroups, List.intercalate]
    rw [tail, ih]
    simp [followingGroups]

/-- What may stand behind groups: nothing, or the two colons of the groups that
were left out. -/
def EndsGroups (text : List Char) : Prop :=
  text = [] ∨ ∃ rest, text = ':' :: ':' :: rest

theorem EndsGroups.endsGroup {text : List Char} (ends : EndsGroups text) : EndsGroup text := by
  rcases ends with rfl | ⟨rest, rfl⟩
  · exact .inl rfl
  · exact .inr ⟨_, rfl⟩

theorem endsGroup_followingGroups (groups : List UInt16) {rest : List Char}
    (ends : EndsGroups rest) : EndsGroup (followingGroups groups ++ rest) := by
  cases groups with
  | nil => exact ends.endsGroup
  | cons group groups => exact .inr ⟨_, rfl⟩

/-- Where a group ends, no further group and no four-part address is found. -/
theorem takeGroups_eq_nil {isFirst : Bool} {text : List Char}
    (ends : ∀ rest, takeSeparator? isFirst text = some rest → EndsGroup rest) (limit : Nat) :
    takeGroups isFirst limit text = ([], false, text) := by
  cases limit with
  | zero => rfl
  | succ limit =>
    rw [takeGroups]
    cases separated : takeSeparator? isFirst text with
    | none => simp
    | some rest =>
      have noAddress : takeV4? ([] ++ rest) = none :=
        takeV4?_eq_none (by simp) (ends rest separated)
      rw [List.nil_append] at noAddress
      simp [noAddress, takeGroup?_eq_none (ends rest separated)]

/-- The first of some groups is taken off, and the others follow. -/
theorem takeGroups_group {isFirst : Bool} {text rest : List Char} (group : UInt16)
    (separated : takeSeparator? isFirst text = some (Nat.toDigits 16 group.toNat ++ rest))
    (ends : EndsGroup rest) (limit : Nat) :
    takeGroups isFirst (limit + 1) text
      = (group :: (takeGroups false limit rest).1, (takeGroups false limit rest).2) := by
  have noAddress : takeV4? (Nat.toDigits 16 group.toNat ++ rest) = none :=
    takeV4?_eq_none (fun char mem => ne_dot_of_mem_toDigits mem) ends
  rw [takeGroups]
  simp [separated, noAddress, takeGroup?_toDigits group ends]

theorem takeGroups_followingGroups {groups : List UInt16} {limit : Nat}
    (fits : groups.length ≤ limit) {rest : List Char} (ends : EndsGroups rest) :
    takeGroups false limit (followingGroups groups ++ rest) = (groups, false, rest) := by
  induction groups generalizing limit with
  | nil =>
    apply takeGroups_eq_nil
    intro after separated
    rcases ends with rfl | ⟨more, rfl⟩
    · cases separated
    · cases separated
      exact .inr ⟨more, rfl⟩
  | cons group groups ih =>
    cases limit with
    | zero => simp at fits
    | succ limit =>
      have separated : takeSeparator? false (followingGroups (group :: groups) ++ rest)
          = some (Nat.toDigits 16 group.toNat ++ (followingGroups groups ++ rest)) := by
        simp [followingGroups, takeSeparator?, takeChar?]
      rw [takeGroups_group group separated (endsGroup_followingGroups groups ends) limit,
        ih (by simpa using fits)]

/-- As many groups as were written are taken. -/
theorem takeGroups_renderGroups {groups : List UInt16} {limit : Nat}
    (fits : groups.length ≤ limit) {rest : List Char} (ends : EndsGroups rest) :
    takeGroups true limit (renderGroups groups ++ rest) = (groups, false, rest) := by
  cases groups with
  | nil =>
    apply takeGroups_eq_nil
    rintro _ ⟨rfl⟩
    exact ends.endsGroup
  | cons group groups =>
    cases limit with
    | zero => simp at fits
    | succ limit =>
      rw [renderGroups_cons, List.append_assoc,
        takeGroups_group group rfl (endsGroup_followingGroups groups ends) limit,
        takeGroups_followingGroups (by simpa using fits) ends]

/-! ### Groups that were left out -/

/-- What is left out are zeros. -/
theorem longestZeros_le (groups : List UInt16) :
    (longestZeros groups).2 ≤ leadingZeros (groups.drop (longestZeros groups).1) := by
  refine List.foldlRecOn (motive := fun (best : Nat × Nat) =>
    best.2 ≤ leadingZeros (groups.drop best.1)) _ _ ?_ ?_
  · exact Nat.zero_le _
  · intro best zeros start _
    dsimp only
    split
    · exact Nat.le_refl _
    · exact zeros

theorem eq_replicate_of_le_leadingZeros {groups : List UInt16} {count : Nat}
    (most : count ≤ leadingZeros groups) :
    groups = List.replicate count 0 ++ groups.drop count := by
  have front : groups.take count = List.replicate count 0 := by
    apply List.eq_replicate_iff.mpr
    have shorter : leadingZeros groups ≤ groups.length :=
      (List.takeWhile_prefix _).length_le
    refine ⟨by simp; omega, ?_⟩
    intro group mem
    have zeros : (groups.takeWhile (· = 0)).all (· = 0) := List.all_takeWhile
    have part : groups.take count <+: groups.takeWhile (· = 0) :=
      List.prefix_of_prefix_length_le (List.take_prefix ..) (List.takeWhile_prefix _)
        (Nat.le_trans (List.length_take_le ..) most)
    exact of_decide_eq_true (List.all_eq_true.mp zeros group (part.subset mem))
  rw [← front, List.take_append_drop]

/-- The groups before the longest run of zeros, the run, and the groups behind
it. -/
theorem groups_eq_of_longestZeros (groups : List UInt16) {start length : Nat}
    (longest : longestZeros groups = (start, length)) :
    groups = groups.take start ++ (List.replicate length 0 ++ groups.drop (start + length)) := by
  have zeros := longestZeros_le groups
  rw [longest] at zeros
  rw [← List.drop_drop, ← eq_replicate_of_le_leadingZeros zeros, List.take_append_drop]

/-! ### Long addresses -/

theorem ofGroups?_toList (groups : Vector UInt16 8) :
    ofGroups? groups.toList = some (v6 groups) := by
  obtain ⟨⟨groups⟩, size⟩ := groups
  match groups, size with
  | [_, _, _, _, _, _, _, _], _ => rfl

theorem takeV6?_renderGroups (groups : Vector UInt16 8) :
    takeV6? (renderGroups groups.toList) = some (v6 groups, []) := by
  have fits : groups.toList.length ≤ 8 := by simp
  have taken := takeGroups_renderGroups fits (.inl rfl)
  rw [List.append_nil] at taken
  simp [takeV6?, taken, ofGroups?_toList]

/-- What was left out is filled with zeros. -/
theorem takeV6?_short {groups : Vector UInt16 8} {head tail : List UInt16} {length : Nat}
    (parts : groups.toList = head ++ (List.replicate length 0 ++ tail)) (long : 1 < length) :
    takeV6? (renderGroups head ++ [':', ':'] ++ renderGroups tail) = some (v6 groups, []) := by
  have size : head.length + (length + tail.length) = 8 := by
    have sizes := congrArg List.length parts
    simpa using sizes.symm
  have taken : takeGroups true 8 (renderGroups head ++ [':', ':'] ++ renderGroups tail)
      = (head, false, ':' :: ':' :: renderGroups tail) := by
    rw [List.append_assoc]
    exact takeGroups_renderGroups (by omega) (.inr ⟨_, rfl⟩)
  have takenTail : takeGroups true (7 - head.length) (renderGroups tail) = (tail, false, []) := by
    have found := takeGroups_renderGroups (show tail.length ≤ 7 - head.length by omega) (.inl rfl)
    rwa [List.append_nil] at found
  have missing : 8 - head.length - tail.length = length := by omega
  have whole : ofGroups? (head ++ (List.replicate length 0 ++ tail)) = some (v6 groups) := by
    rw [← parts, ofGroups?_toList]
  rw [takeV6?, taken]
  simp [takenTail, missing, show head.length ≠ 8 by omega, whole]

/-- The octets of a group make it up again. -/
theorem group_eq_of_octets (group : UInt16) :
    (group >>> 8).toUInt8.toUInt16 <<< 8 ||| group.toUInt8.toUInt16 = group := by
  apply UInt16.toNat_inj.mp
  have below : group.toNat < 65536 := group.toNat_lt
  have high : ((group >>> 8).toUInt8.toUInt16 <<< 8).toNat = (group.toNat / 256) <<< 8 := by
    simp [Nat.shiftRight_eq_div_pow, Nat.shiftLeft_eq]
    omega
  have low : group.toUInt8.toUInt16.toNat = group.toNat % 256 := by simp
  rw [UInt16.toNat_or, high, low, ← Nat.shiftLeft_add_eq_or_of_lt (by omega), Nat.shiftLeft_eq]
  omega

theorem embeddedGroups_fourParts (high low : UInt16) :
    embeddedGroups (fourParts (high >>> 8).toUInt8 high.toUInt8 (low >>> 8).toUInt8 low.toUInt8)
      = [high, low] := by
  change [_, _] = [high, low]
  rw [group_eq_of_octets, group_eq_of_octets]

/-- A long address that embeds a four-part one. -/
theorem takeV6?_embedded (groups : Vector UInt16 8) {high low : UInt16}
    (parts : groups.toList = [0, 0, 0, 0, 0, 0xFFFF, high, low]) :
    takeV6? ([':', ':', 'f', 'f', 'f', 'f', ':']
        ++ renderV4 [(high >>> 8).toUInt8, high.toUInt8, (low >>> 8).toUInt8, low.toUInt8])
      = some (v6 groups, []) := by
  generalize four : renderV4 [(high >>> 8).toUInt8, high.toUInt8, (low >>> 8).toUInt8, low.toUInt8]
    = octets
  have embedded : takeV4? octets = some (fourParts (high >>> 8).toUInt8 high.toUInt8
      (low >>> 8).toUInt8 low.toUInt8, []) := by
    have taken := takeV4?_renderV4 (high >>> 8).toUInt8 high.toUInt8 (low >>> 8).toUInt8
      low.toUInt8 (endsDigits_nil 10)
    rwa [List.append_nil, four] at taken
  simp only [List.cons_append, List.nil_append]
  have front : takeGroups true 8 (':' :: ':' :: 'f' :: 'f' :: 'f' :: 'f' :: ':' :: octets)
      = ([], false, ':' :: ':' :: 'f' :: 'f' :: 'f' :: 'f' :: ':' :: octets) := by
    apply takeGroups_eq_nil
    rintro _ ⟨rfl⟩
    exact .inr ⟨_, rfl⟩
  have last : takeGroups false 6 (':' :: octets) = ([high, low], true, []) := by
    simp [takeGroups, takeSeparator?, takeChar?, embedded, embeddedGroups_fourParts]
  have tail : takeGroups true 7 ('f' :: 'f' :: 'f' :: 'f' :: ':' :: octets)
      = ([0xFFFF, high, low], true, []) := by
    have separated : takeSeparator? true ('f' :: 'f' :: 'f' :: 'f' :: ':' :: octets)
        = some (Nat.toDigits 16 (0xFFFF : UInt16).toNat ++ ':' :: octets) := rfl
    rw [takeGroups_group 0xFFFF separated (.inr ⟨octets, rfl⟩) 6, last]
  have whole : ofGroups? [0, 0, 0, 0, 0, 0xFFFF, high, low] = some (v6 groups) := by
    rw [← parts, ofGroups?_toList]
  simp [takeV6?, front, tail, whole]

theorem takeV6?_renderV6 (groups : Vector UInt16 8) :
    takeV6? (renderV6 groups.toList) = some (v6 groups, []) := by
  unfold renderV6
  split
  · exact takeV6?_embedded groups ‹_›
  · split
    rename_i start length longest
    split
    · exact takeV6?_short (groups_eq_of_longestZeros groups.toList longest) ‹_›
    · exact takeV6?_renderGroups groups

theorem takeV4?_renderGroups (groups : List UInt16) {rest : List Char} (ends : EndsGroups rest) :
    takeV4? (renderGroups groups ++ rest) = none := by
  cases groups with
  | nil =>
    apply takeV4?_eq_none
    · simp [renderGroups, List.intercalate]
    · exact ends.endsGroup
  | cons group groups =>
    rw [renderGroups_cons, List.append_assoc]
    apply takeV4?_eq_none
    · intro char mem
      exact ne_dot_of_mem_toDigits mem
    · exact endsGroup_followingGroups groups ends

/-- No dot stands in front of the first colon of a long address. -/
theorem takeV4?_renderV6 (groups : List UInt16) : takeV4? (renderV6 groups) = none := by
  unfold renderV6
  split
  · exact takeV4?_renderGroups [] (.inr ⟨_, rfl⟩)
  · split
    split
    · rw [List.append_assoc]
      exact takeV4?_renderGroups _ (.inr ⟨_, rfl⟩)
    · have taken := takeV4?_renderGroups groups (.inl rfl)
      rwa [List.append_nil] at taken

/-- An address is read back from what is written for it. -/
theorem parse?_render (address : IpAddress) : parse? address.render = some address := by
  cases address with
  | v4 octets =>
    obtain ⟨⟨octets⟩, size⟩ := octets
    match octets, size with
    | [first, second, third, fourth], _ =>
      have taken := takeV4?_renderV4 first second third fourth (endsDigits_nil 10)
      rw [List.append_nil] at taken
      simp [parse?, render, taken, fourParts]
  | v6 groups => simp [parse?, render, takeV4?_renderV6, takeV6?_renderV6]

end IpAddress
end VirtualRadio
