import VirtualRadio.Proofs.Address
import VirtualRadio.Proofs.MacAddress
import VirtualRadio.Proofs.Yaml.Values
import VirtualRadio.Settings.Document

namespace VirtualRadio
namespace Settings

/-!
# Settings that were saved

Valid settings are read back from the document that is written for them,
whatever their texts contain.  The document is read back as a tree first; then
every value of the tree is the one that was written.
-/

open Yaml (Node)

/-! ### Values -/

section Values

theorem text?_ofText (text : String) : (Node.ofText text).text? = some text := by
  simp [Node.ofText, Node.text?]

theorem bool?_ofBool (value : Bool) : (Node.ofBool value).bool? = some value := by
  cases value <;> rfl

theorem natBelow?_ofNat {limit value : Nat} (below : value < limit) :
    (Node.ofNat value).natBelow? limit = some value := by
  simp [Node.ofNat, Node.natBelow?, Yaml.natural?_decimal, below]

theorem word64?_ofNat (value : UInt64) : word64? (Node.ofNat value.toNat) = some value := by
  simp [word64?, natBelow?_ofNat value.toNat_lt_size]

theorem word32?_ofNat (value : UInt32) : word32? (Node.ofNat value.toNat) = some value := by
  simp [word32?, natBelow?_ofNat value.toNat_lt_size]

theorem word16?_ofNat (value : UInt16) : word16? (Node.ofNat value.toNat) = some value := by
  simp [word16?, natBelow?_ofNat value.toNat_lt_size]

theorem profile?_ofText (profile : Profile) :
    profile? (Node.ofText profile.name) = some profile := by
  simp [profile?, text?_ofText, Profile.parse_name, Except.toOption]

theorem mac?_ofText (address : MacAddress) : mac? (Node.ofText address.render) = some address := by
  simp [mac?, text?_ofText, MacAddress.parse_render, Except.toOption]

theorem address?_ofText (address : IpAddress) :
    address? (Node.ofText address.render) = some address := by
  simp [address?, text?_ofText, IpAddress.parse?_render]

theorem sinkKind?_ofText (kind : SinkKind) : sinkKind? (Node.ofText kind.name) = some kind := by
  cases kind <;> rfl

/-- A list whose items are read back one by one. -/
theorem mapM_map {Value Written : Type} {read : Written → Option Value} {write : Value → Written}
    (reads : ∀ value, read (write value) = some value) (values : List Value) :
    (values.map write).mapM read = some values := by
  induction values with
  | nil => rfl
  | cons value values ih => simp [reads, ih]

end Values

/-! ### Sections -/

/-- A section that names every key once is read with all its entries. -/
theorem known_section? {known : List String} {node : Node} {entries : List (String × Node)}
    (written : node = .mapping (entries.map (fun named => entry named.1 named.2)))
    (keys : entries.map Prod.fst = known) (once : known.Nodup) :
    node.section? known = some entries := by
  have read : node.entries? = some entries := by
    rw [written, Node.entries?]
    apply mapM_map
    intro named
    simp [entry, Node.text?]
  have all : entries.filter (fun named => known.contains named.1) = entries := by
    apply List.filter_eq_self.mpr
    intro named mem
    rw [← keys]
    simpa using List.mem_map_of_mem (f := Prod.fst) mem
  simp only [Node.section?, read, Option.bind_eq_bind, Option.bind_some, all, keys, once, if_true]

theorem band?_bandNode (band : Band) : band? (bandNode band) = some band := by
  have entries : (bandNode band).section? ["name", "start_hz", "end_hz", "lpf", "hpf"]
      = some [("name", .ofText band.name), ("start_hz", .ofNat band.startHz.toNat),
          ("end_hz", .ofNat band.endHz.toNat), ("lpf", .ofNat band.lowPass.toNat),
          ("hpf", .ofNat band.highPass.toNat)] :=
    known_section? rfl rfl (by decide)
  simp [band?, entries, requiredSetting, List.lookup_cons, text?_ofText, word32?_ofNat]

theorem global?_globalNode (settings : GlobalSettings) :
    global? (globalNode settings) = some settings := by
  have entries : (globalNode settings).section?
      ["debug", "iqburst", "emulation", "ring_bursts", "mac"]
      = some [("debug", .ofBool settings.debug), ("iqburst", .ofNat settings.burstLength.toNat),
          ("emulation", .ofText settings.emulation.name),
          ("ring_bursts", .ofNat settings.ringBursts.toNat),
          ("mac", .ofText settings.mac.render)] :=
    known_section? rfl rfl (by decide)
  simp [global?, entries, settingOr, List.lookup_cons, bool?_ofBool, word64?_ofNat,
    profile?_ofText, mac?_ofText]

theorem network?_networkNode (settings : NetworkSettings) :
    network? (networkNode settings) = some settings := by
  have entries : (networkNode settings).section?
      ["bind", "port", "poll_timeout_ms", "stop_timeout_ms"]
      = some [("bind", .ofText settings.bind.render), ("port", .ofNat settings.port.toNat),
          ("poll_timeout_ms", .ofNat settings.pollTimeout.toNat),
          ("stop_timeout_ms", .ofNat settings.stopTimeout.toNat)] :=
    known_section? rfl rfl (by decide)
  simp [network?, entries, settingOr, List.lookup_cons, address?_ofText, word16?_ofNat,
    word64?_ofNat]

theorem sink?_sinkNode (settings : SinkSettings) : sink? (sinkNode settings) = some settings := by
  have entries : (sinkNode settings).section? ["kind", "path", "sample_rate"]
      = some [("kind", .ofText settings.kind.name), ("path", .ofText settings.path),
          ("sample_rate", .ofNat settings.sampleRate.toNat)] :=
    known_section? rfl rfl (by decide)
  simp [sink?, entries, settingOr, List.lookup_cons, sinkKind?_ofText, text?_ofText, word32?_ofNat]

theorem filters?_filtersNode (settings : FilterSettings) :
    filters? (filtersNode settings) = some settings := by
  have entries : (filtersNode settings).section? ["enabled", "type", "gpios", "bands"]
      = some [("enabled", .ofBool settings.enabled), ("type", .ofText settings.kind),
          ("gpios", .list (settings.pins.map (fun pin => .ofNat pin.toNat))),
          ("bands", .list (settings.bands.map bandNode))] :=
    known_section? rfl rfl (by decide)
  have pins : (settings.pins.map (fun pin => Node.ofNat pin.toNat)).mapM word32?
      = some settings.pins := mapM_map word32?_ofNat settings.pins
  have bands : (settings.bands.map bandNode).mapM band? = some settings.bands :=
    mapM_map band?_bandNode settings.bands
  simp [filters?, entries, settingOr, List.lookup_cons, bool?_ofBool, text?_ofText, Node.items?,
    pins, bands]

theorem ofNode?_sections (settings : Settings) :
    ofNode? (.mapping settings.sections) = some settings := by
  have entries : (Node.mapping settings.sections).section? ["global", "network", "sink", "filters"]
      = some [("global", globalNode settings.global), ("network", networkNode settings.network),
          ("sink", sinkNode settings.sink), ("filters", filtersNode settings.filters)] :=
    known_section? rfl rfl (by decide)
  simp [ofNode?, entries, settingOr, List.lookup_cons, global?_globalNode, network?_networkNode,
    sink?_sinkNode, filters?_filtersNode]

/-! ### Legibility -/

theorem isLegible_nil : Node.IsLegible (.mapping []) :=
  .mapping (by simp) (by simp)

/-- An entry is legible if its key can be written plain. -/
theorem isLegible_cons {key : String} {value : Node} {entries : List (Node × Node)}
    (fits : Yaml.fitsPlain key.toList = true) (legible : value.IsLegible)
    (rest : Node.IsLegible (.mapping entries)) :
    Node.IsLegible (.mapping (entry key value :: entries)) := by
  cases rest with
  | mapping keys values =>
    apply Node.IsLegible.mapping
    · intro other mem
      rcases List.mem_cons.mp mem with rfl | mem
      · exact fits
      · exact keys other mem
    · intro other mem
      rcases List.mem_cons.mp mem with rfl | mem
      · exact legible
      · exact values other mem

theorem isLegible_list {Value : Type} {write : Value → Node}
    (each : ∀ value, (write value).IsLegible) (values : List Value) :
    Node.IsLegible (.list (values.map write)) := by
  apply Node.IsLegible.list
  intro item mem
  obtain ⟨value, -, rfl⟩ := List.mem_map.mp mem
  exact each value

theorem isLegible_bandNode (band : Band) : (bandNode band).IsLegible := by
  apply isLegible_cons (by decide) (Node.isLegible_ofText _)
  apply isLegible_cons (by decide) (Node.isLegible_ofNat _)
  apply isLegible_cons (by decide) (Node.isLegible_ofNat _)
  apply isLegible_cons (by decide) (Node.isLegible_ofNat _)
  exact isLegible_cons (by decide) (Node.isLegible_ofNat _) isLegible_nil

theorem isLegible_globalNode (settings : GlobalSettings) : (globalNode settings).IsLegible := by
  apply isLegible_cons (by decide) (Node.isLegible_ofBool _)
  apply isLegible_cons (by decide) (Node.isLegible_ofNat _)
  apply isLegible_cons (by decide) (Node.isLegible_ofText _)
  apply isLegible_cons (by decide) (Node.isLegible_ofNat _)
  exact isLegible_cons (by decide) (Node.isLegible_ofText _) isLegible_nil

theorem isLegible_networkNode (settings : NetworkSettings) : (networkNode settings).IsLegible := by
  apply isLegible_cons (by decide) (Node.isLegible_ofText _)
  apply isLegible_cons (by decide) (Node.isLegible_ofNat _)
  apply isLegible_cons (by decide) (Node.isLegible_ofNat _)
  exact isLegible_cons (by decide) (Node.isLegible_ofNat _) isLegible_nil

theorem isLegible_sinkNode (settings : SinkSettings) : (sinkNode settings).IsLegible := by
  apply isLegible_cons (by decide) (Node.isLegible_ofText _)
  apply isLegible_cons (by decide) (Node.isLegible_ofText _)
  exact isLegible_cons (by decide) (Node.isLegible_ofNat _) isLegible_nil

theorem isLegible_filtersNode (settings : FilterSettings) : (filtersNode settings).IsLegible := by
  apply isLegible_cons (by decide) (Node.isLegible_ofBool _)
  apply isLegible_cons (by decide) (Node.isLegible_ofText _)
  apply isLegible_cons (by decide) (isLegible_list (fun pin => Node.isLegible_ofNat _) _)
  exact isLegible_cons (by decide) (isLegible_list isLegible_bandNode _) isLegible_nil

theorem isLegible_sections (settings : Settings) :
    Node.IsLegible (.mapping settings.sections) := by
  apply isLegible_cons (by decide) (isLegible_globalNode _)
  apply isLegible_cons (by decide) (isLegible_networkNode _)
  apply isLegible_cons (by decide) (isLegible_sinkNode _)
  exact isLegible_cons (by decide) (isLegible_filtersNode _) isLegible_nil

/-! ### Whole settings -/

/-- Valid settings survive being saved. -/
theorem render_parses_back (settings : Settings) (valid : settings.validate = .ok ()) :
    parse settings.render = .ok settings := by
  have document : Yaml.read? settings.render.toList = some (.mapping settings.sections) :=
    Yaml.read?_render (isLegible_sections settings)
  simp [parse, parseWith, Yaml.reader, document, ofNode?_sections, valid]

/-- Settings whose texts look like other values or like marks, begin and end
with spaces, and need each of the styles. -/
def awkward : Settings where
  global := ⟨true, 1, .orionMkII, 2, .standard⟩
  network := ⟨.v6 #v[0xFE80, 0, 0, 0x10, 0, 0, 0, 1], 65535, 1, 0⟩
  sink := ⟨.file, " it's: #1 - \"?\" ", 1⟩
  filters := ⟨true, "null", [0, 4294967295],
    [⟨"0x1F", 7, 7, 0, 0⟩, ⟨"", 0, 1, 2, 3⟩, ⟨"- \x7ba\x7d: [b]", 0, 0, 0, 0⟩,
      ⟨"📻 20 m", 1, 2, 3, 4⟩]⟩

theorem awkward_parses_back :
    awkward.validate = .ok () ∧ parse awkward.render = .ok awkward :=
  ⟨rfl, render_parses_back awkward rfl⟩

end Settings
end VirtualRadio
