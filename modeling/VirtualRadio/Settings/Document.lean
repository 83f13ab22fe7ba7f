import VirtualRadio.Disk
import VirtualRadio.Fault
import VirtualRadio.Settings.Basic
import VirtualRadio.Yaml.Reader
import VirtualRadio.Yaml.Writer

namespace VirtualRadio

/-!
# Settings as documents

Settings are read from a document whose sections and keys may all be left out;
what is left out has its default.  Keys that are not known are passed over, a
known one may occur only once.  Bands have no defaults.

Written, the settings name every key, in a fixed order.
-/

namespace Yaml

/-- The text of a scalar. -/
def Node.text? : Node → Option String
  | .scalar _ text => some (String.ofList text)
  | _ => none

/-- The truth value that a plain scalar stands for. -/
def Node.bool? : Node → Option Bool
  | .scalar .plain text => truth? text
  | _ => none

/-- The number below a limit that a plain scalar stands for. -/
def Node.natBelow? (limit : Nat) : Node → Option Nat
  | .scalar .plain text => (natural? text).filter (· < limit)
  | _ => none

/-- The items of a list; where nothing is written there are none. -/
def Node.items? : Node → Option (List Node)
  | .list items => some items
  | .scalar .plain [] => some []
  | _ => none

/-- The entries of a mapping with the texts of their keys; where nothing is
written there are none. -/
def Node.entries? : Node → Option (List (String × Node))
  | .mapping entries => entries.mapM (fun (key, value) => key.text?.map (fun name => (name, value)))
  | .scalar .plain [] => some []
  | _ => none

/-- The entries with known keys.  None of them may occur twice. -/
def Node.section? (known : List String) (node : Node) : Option (List (String × Node)) := do
  let entries ← node.entries?
  let found := entries.filter (fun entry => known.contains entry.1)
  if (found.map Prod.fst).Nodup then some found else none

end Yaml

/-- The value of a key in a section, or its default if the key is left out. -/
def settingOr {Value : Type} (entries : List (String × Yaml.Node)) (key : String)
    (read : Yaml.Node → Option Value) (fallback : Value) : Option Value :=
  match entries.lookup key with
  | some node => read node
  | none => some fallback

/-- The value of a key that must not be left out. -/
def requiredSetting {Value : Type} (entries : List (String × Yaml.Node)) (key : String)
    (read : Yaml.Node → Option Value) : Option Value :=
  (entries.lookup key).bind read

namespace Settings

/-! ### Reading -/

/-- Read a word of 64 bits. -/
def word64? (node : Yaml.Node) : Option UInt64 :=
  (node.natBelow? UInt64.size).map UInt64.ofNat

/-- Read a word of 32 bits. -/
def word32? (node : Yaml.Node) : Option UInt32 :=
  (node.natBelow? UInt32.size).map UInt32.ofNat

/-- Read a word of 16 bits. -/
def word16? (node : Yaml.Node) : Option UInt16 :=
  (node.natBelow? UInt16.size).map UInt16.ofNat

/-- Read the name of a profile. -/
def profile? (node : Yaml.Node) : Option Profile :=
  node.text?.bind (fun text => (Profile.parse text).toOption)

/-- Read a hardware address. -/
def mac? (node : Yaml.Node) : Option MacAddress :=
  node.text?.bind (fun text => (MacAddress.parse text).toOption)

/-- Read a network address. -/
def address? (node : Yaml.Node) : Option IpAddress :=
  node.text?.bind IpAddress.parse?

/-- Read the name of a kind of sink. -/
def sinkKind? (node : Yaml.Node) : Option SinkKind :=
  node.text?.bind SinkKind.ofName?

/-- Read a band.  All its keys are required. -/
def band? (node : Yaml.Node) : Option Band := do
  let entries ← node.section? ["name", "start_hz", "end_hz", "lpf", "hpf"]
  return {
    name := ← requiredSetting entries "name" Yaml.Node.text?
    startHz := ← requiredSetting entries "start_hz" word32?
    endHz := ← requiredSetting entries "end_hz" word32?
    lowPass := ← requiredSetting entries "lpf" word32?
    highPass := ← requiredSetting entries "hpf" word32? }

/-- Read the settings of the whole program. -/
def global? (node : Yaml.Node) : Option GlobalSettings := do
  let entries ← node.section? ["debug", "iqburst", "emulation", "ring_bursts", "mac"]
  let fallback := standard.global
  return {
    debug := ← settingOr entries "debug" Yaml.Node.bool? fallback.debug
    burstLength := ← settingOr entries "iqburst" word64? fallback.burstLength
    emulation := ← settingOr entries "emulation" profile? fallback.emulation
    ringBursts := ← settingOr entries "ring_bursts" word64? fallback.ringBursts
    mac := ← settingOr entries "mac" mac? fallback.mac }

/-- Read the settings of the sockets. -/
def network? (node : Yaml.Node) : Option NetworkSettings := do
  let entries ← node.section? ["bind", "port", "poll_timeout_ms", "stop_timeout_ms"]
  let fallback := standard.network
  return {
    bind := ← settingOr entries "bind" address? fallback.bind
    port := ← settingOr entries "port" word16? fallback.port
    pollTimeout := ← settingOr entries "poll_timeout_ms" word64? fallback.pollTimeout
    stopTimeout := ← settingOr entries "stop_timeout_ms" word64? fallback.stopTimeout }

/-- Read the settings of the output sink. -/
def sink? (node : Yaml.Node) : Option SinkSettings := do
  let entries ← node.section? ["kind", "path", "sample_rate"]
  let fallback := standard.sink
  return {
    kind := ← settingOr entries "kind" sinkKind? fallback.kind
    path := ← settingOr entries "path" Yaml.Node.text? fallback.path
    sampleRate := ← settingOr entries "sample_rate" word32? fallback.sampleRate }

/-- Read the settings of the band filters. -/
def filters? (node : Yaml.Node) : Option FilterSettings := do
  let entries ← node.section? ["enabled", "type", "gpios", "bands"]
  let fallback := standard.filters
  return {
    enabled := ← settingOr entries "enabled" Yaml.Node.bool? fallback.enabled
    kind := ← settingOr entries "type" Yaml.Node.text? fallback.kind
    pins := ← settingOr entries "gpios" (fun node => node.items?.bind (·.mapM word32?))
      fallback.pins
    bands := ← settingOr entries "bands" (fun node => node.items?.bind (·.mapM band?))
      fallback.bands }

/-- Read settings. -/
def ofNode? (node : Yaml.Node) : Option Settings := do
  let entries ← node.section? ["global", "network", "sink", "filters"]
  return {
    global := ← settingOr entries "global" global? standard.global
    network := ← settingOr entries "network" network? standard.network
    sink := ← settingOr entries "sink" sink? standard.sink
    filters := ← settingOr entries "filters" filters? standard.filters }

/-! ### Writing -/

/-- An entry of a section. -/
def entry (key : String) (value : Yaml.Node) : Yaml.Node × Yaml.Node :=
  (.scalar .plain key.toList, value)

/-- A band as a document. -/
def bandNode (band : Band) : Yaml.Node :=
  .mapping
    [entry "name" (.ofText band.name),
      entry "start_hz" (.ofNat band.startHz.toNat),
      entry "end_hz" (.ofNat band.endHz.toNat),
      entry "lpf" (.ofNat band.lowPass.toNat),
      entry "hpf" (.ofNat band.highPass.toNat)]

/-- The settings of the whole program as a document. -/
def globalNode (settings : GlobalSettings) : Yaml.Node :=
  .mapping
    [entry "debug" (.ofBool settings.debug),
      entry "iqburst" (.ofNat settings.burstLength.toNat),
      entry "emulation" (.ofText settings.emulation.name),
      entry "ring_bursts" (.ofNat settings.ringBursts.toNat),
      entry "mac" (.ofText settings.mac.render)]

/-- The settings of the sockets as a document. -/
def networkNode (settings : NetworkSettings) : Yaml.Node :=
  .mapping
    [entry "bind" (.ofText settings.bind.render),
      entry "port" (.ofNat settings.port.toNat),
      entry "poll_timeout_ms" (.ofNat settings.pollTimeout.toNat),
      entry "stop_timeout_ms" (.ofNat settings.stopTimeout.toNat)]

/-- The settings of the output sink as a document. -/
def sinkNode (settings : SinkSettings) : Yaml.Node :=
  .mapping
    [entry "kind" (.ofText settings.kind.name),
      entry "path" (.ofText settings.path),
      entry "sample_rate" (.ofNat settings.sampleRate.toNat)]

/-- The settings of the band filters as a document. -/
def filtersNode (settings : FilterSettings) : Yaml.Node :=
  .mapping
    [entry "enabled" (.ofBool settings.enabled),
      entry "type" (.ofText settings.kind),
      entry "gpios" (.list (settings.pins.map (fun pin => .ofNat pin.toNat))),
      entry "bands" (.list (settings.bands.map bandNode))]

/-- The sections of the document that settings are written as. -/
def sections (settings : Settings) : List (Yaml.Node × Yaml.Node) :=
  [entry "global" (globalNode settings.global),
    entry "network" (networkNode settings.network),
    entry "sink" (sinkNode settings.sink),
    entry "filters" (filtersNode settings.filters)]

/-- Write settings. -/
def render (settings : Settings) : String :=
  Yaml.render settings.sections

end Settings

/-! ### Files -/

/-- Why settings could not be loaded. -/
inductive LoadFault where
  /-- The document is malformed, or a key has a value that it cannot have. -/
  | malformed
  | invalid (fault : SettingsFault)
  | unreadable (path : String) (fault : DiskFault)
  deriving DecidableEq, Repr

namespace Settings

/-- Read and validate settings, with a reader for the document. -/
def parseWith (reader : Yaml.Reader) (text : String) : Except LoadFault Settings :=
  match (reader text).bind ofNode? with
  | none => .error .malformed
  | some settings =>
    match settings.validate with
    | .error fault => .error (.invalid fault)
    | .ok () => .ok settings

/-- Read and validate settings. -/
def parse (text : String) : Except LoadFault Settings :=
  parseWith Yaml.reader text

/-- Read settings from a file. -/
def load (reader : Yaml.Reader) (disk : Disk) (path : String) : Except LoadFault Settings :=
  match disk.readText path with
  | .error fault => .error (.unreadable path fault)
  | .ok text => parseWith reader text

/-- Read settings from a file if there is one. -/
def loadOrStandard (reader : Yaml.Reader) (disk : Disk) (path : String) :
    Except LoadFault Settings :=
  if disk.pathExists path then load reader disk path else .ok standard

end Settings

/-- The fault that is reported when settings cannot be loaded, if its wording is
fixed. -/
def LoadFault.fault? : LoadFault → Option Fault
  | malformed => none
  | invalid fault => some (.configuration fault.message)
  | unreadable path fault => some (.configuration s!"{path}: {fault.message}")

end VirtualRadio
