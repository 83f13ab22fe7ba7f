import VirtualRadio.Address
import VirtualRadio.Band
import VirtualRadio.MacAddress
import VirtualRadio.Profile

namespace VirtualRadio

/-!
# Settings

The settings have four sections, and every one of them has a default, so that
a radio runs without any.  Sizes and times are words of 64 bits.
-/

/-- Settings of the whole program. -/
structure GlobalSettings where
  debug : Bool
  /-- Samples in one burst. -/
  burstLength : UInt64
  emulation : Profile
  /-- Bursts that the ring holds. -/
  ringBursts : UInt64
  mac : MacAddress
  deriving DecidableEq, Repr

/-- Settings of the sockets.  Times are in milliseconds. -/
structure NetworkSettings where
  bind : IpAddress
  port : UInt16
  pollTimeout : UInt64
  stopTimeout : UInt64
  deriving DecidableEq, Repr

/-- What becomes of the samples. -/
inductive SinkKind where
  | discard
  | file
  deriving DecidableEq, Repr

/-- Settings of the output sink. -/
structure SinkSettings where
  kind : SinkKind
  path : String
  sampleRate : UInt32
  deriving DecidableEq, Repr

/-- Settings of the band filters. -/
structure FilterSettings where
  enabled : Bool
  kind : String
  pins : List UInt32
  bands : List Band
  deriving DecidableEq, Repr

/-- All settings. -/
structure Settings where
  global : GlobalSettings
  network : NetworkSettings
  sink : SinkSettings
  filters : FilterSettings
  deriving DecidableEq, Repr

/-- What is wrong with settings. -/
inductive SettingsFault where
  | emptyBurst
  | tooFewBursts
  | noPollTimeout
  | noSampleRate
  | emptyBand (name : String)
  deriving DecidableEq, Repr

/-- What is reported of wrong settings. -/
def SettingsFault.message : SettingsFault → String
  | emptyBurst => "global.iqburst must be > 0"
  | tooFewBursts => "global.ring_bursts must be >= 2"
  | noPollTimeout => "network.poll_timeout_ms must be > 0"
  | noSampleRate => "sink.sample_rate must be > 0"
  | emptyBand name => s!"band '{name}' starts above its end"

namespace SinkKind

/-- The name of a kind of sink. -/
def name : SinkKind → String
  | discard => "discard"
  | file => "file"

/-- The kind of sink with a name. -/
def ofName? : String → Option SinkKind
  | "discard" => some discard
  | "file" => some file
  | _ => none

end SinkKind

namespace Settings

/-- The settings of a radio that was given none. -/
def standard : Settings where
  global := ⟨false, 4000, .hermes, 10, .standard⟩
  network := ⟨.unspecified, 1024, 1, 500⟩
  sink := ⟨.discard, "tx.cf32", 48000⟩
  filters := ⟨false, "", [], []⟩

instance : Inhabited Settings := ⟨standard⟩

/-- The first of some bands that starts above its end. -/
def emptyBand? (bands : List Band) : Option Band :=
  bands.find? (fun band => band.endHz < band.startHz)

/-- The first thing that is wrong with settings. -/
def fault? (settings : Settings) : Option SettingsFault :=
  if settings.global.burstLength = 0 then
    some .emptyBurst
  else if settings.global.ringBursts < 2 then
    some .tooFewBursts
  else if settings.network.pollTimeout = 0 then
    some .noPollTimeout
  else if settings.sink.sampleRate = 0 then
    some .noSampleRate
  else
    (emptyBand? settings.filters.bands).map (fun band => .emptyBand band.name)

/-- Refuse settings with which something is wrong. -/
def validate (settings : Settings) : Except SettingsFault Unit :=
  match settings.fault? with
  | some fault => .error fault
  | none => .ok ()

theorem validate_eq_ok_iff {settings : Settings} :
    settings.validate = .ok () ↔ settings.fault? = none := by
  rw [validate]
  cases settings.fault? <;> simp

end Settings
end VirtualRadio
