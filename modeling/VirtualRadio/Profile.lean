namespace VirtualRadio

/-!
# Radio profiles

A profile is the model of radio that the program presents itself as.  It fixes
the identity in discovery replies, the calibration of the forward-power
reading, and the formula for the receive gain.
-/

/-- A model of radio. -/
inductive Profile where
  | metis
  | hermes
  | griffin
  | angelia
  | orion
  | orionMkII
  | hermesLite
  | hermesLite2
  | c25
  deriving DecidableEq, Repr

/-- A name that is no profile's. -/
structure ProfileError where
  text : String
  deriving DecidableEq, Repr

/-- What is reported of a name that is no profile's. -/
def ProfileError.message (error : ProfileError) : String :=
  s!"unknown emulation: '{error.text}'"

/-- The fixed properties of a profile. -/
structure ProfileData where
  name : String
  /-- Identifier within the family; it may exceed a byte. -/
  deviceId : Nat
  /-- Full-scale voltage of the power bridge. -/
  powerC1 : Float
  /-- Coupling factor of the power bridge. -/
  powerC2 : Float
  /-- Version byte of discovery replies. -/
  firmwareVersion : UInt8
  /-- Class byte of discovery replies. -/
  deviceClass : UInt8

namespace Profile

/-- A radio that was not given a profile is a Hermes. -/
instance : Inhabited Profile := ⟨hermes⟩

/-- Every profile, in the order in which they are listed. -/
def all : List Profile :=
  [metis, hermes, griffin, angelia, orion, orionMkII, hermesLite, hermesLite2, c25]

/-- The fixed properties of a profile. -/
def data : Profile → ProfileData
  | metis => ⟨"Metis", 0, 3.3, 0.090, 31, 0⟩
  | hermes => ⟨"Hermes", 1, 3.3, 0.095, 31, 1⟩
  | griffin => ⟨"Griffin", 2, 3.3, 0.095, 31, 2⟩
  | angelia => ⟨"Angelia", 4, 3.3, 0.095, 31, 4⟩
  | orion => ⟨"Orion", 5, 5.0, 0.108, 31, 5⟩
  | orionMkII => ⟨"Orion-MkII", 10, 5.0, 0.108, 31, 10⟩
  | hermesLite => ⟨"Hermes-Lite", 6, 3.3, 0.095, 31, 6⟩
  | hermesLite2 => ⟨"Hermes-Lite2", 1006, 3.3, 0.095, 41, 6⟩
  | c25 => ⟨"C25", 100, 3.3, 0.090, 31, 100⟩

/-- The name of a profile. -/
def name (profile : Profile) : String :=
  profile.data.name

/-- The profile that a simplified name denotes. -/
def ofPlainName? : String → Option Profile
  | "metis" => some metis
  | "hermes" => some hermes
  | "griffin" => some griffin
  | "angelia" => some angelia
  | "orion" => some orion
  | "orion2" | "orionmkii" | "orionmk2" => some orionMkII
  | "hermeslite" | "hl1" | "hermeslite1" => some hermesLite
  | "hermeslite2" | "hl2" => some hermesLite2
  | "c25" | "stemlab" | "redpitaya" => some c25
  | _ => none

/-- A name without regard to case, keeping only its ASCII letters and digits. -/
def plainName (text : String) : String :=
  String.ofList ((text.toList.filter Char.isAlphanum).map Char.toLower)

/-- Read a profile from any spelling of its name. -/
def parse (text : String) : Except ProfileError Profile :=
  match ofPlainName? (plainName text) with
  | some profile => .ok profile
  | none => .error ⟨text⟩

/-- Every profile is read back from its name. -/
theorem parse_name (profile : Profile) : parse profile.name = .ok profile := by
  cases profile <;> rfl

end Profile
end VirtualRadio
