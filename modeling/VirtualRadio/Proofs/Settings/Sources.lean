import VirtualRadio.CommandLine

namespace VirtualRadio

/-!
# Where settings come from

A setting is what the command line says, else what the file says, else its default.
This holds setting by setting, whichever sections and keys the file leaves out.

What the command line can say is never invalid.  So the settings can be had unless
there is a file that is unreadable, malformed or invalid by itself.
-/

open CommandLine (Invocation)

namespace Yaml

/-- The value that a mapping gives to a key. -/
def Node.value? (node : Node) (key : String) : Option Node :=
  node.entries?.bind (List.lookup key)

/-- The value that a document gives to a key of one of its sections. -/
def Node.setting? (document : Node) (name key : String) : Option Node :=
  (document.value? name).bind (fun part => part.value? key)

theorem lookup_filter {Value : Type} {known : List String} {key : String} (mem : key ∈ known)
    (entries : List (String × Value)) :
    (entries.filter (fun entry => known.contains entry.1)).lookup key = entries.lookup key := by
  induction entries with
  | nil => rfl
  | cons entry entries ih =>
      obtain ⟨name, value⟩ := entry
      rw [List.filter_cons]
      split
      · rw [List.lookup_cons, List.lookup_cons, ih]
      · next unknown =>
        have different : key ≠ name := by
          rintro rfl
          exact unknown (List.contains_iff_mem.mpr mem)
        rw [ih, List.lookup_cons, beq_false_of_ne different]

/-- A section shows the values of its known keys. -/
theorem lookup_section? {node : Node} {known : List String} {entries : List (String × Node)}
    (found : node.section? known = some entries) {key : String} (mem : key ∈ known) :
    entries.lookup key = node.value? key := by
  obtain ⟨all, read, kept⟩ := Option.bind_eq_some_iff.mp found
  obtain ⟨-, kept⟩ := Option.ite_none_right_eq_some.mp kept
  cases kept
  rw [lookup_filter mem, Node.value?, read]
  rfl

end Yaml

/-- The value of a setting: what the command line says, else what the file says, else
its default. -/
def IsChosen {Value : Type} (option : Option Value) (given : Option Yaml.Node)
    (read : Yaml.Node → Option Value) (fallback value : Value) : Prop :=
  match option, given with
  | some chosen, _ => value = chosen
  | none, some node => read node = some value
  | none, none => value = fallback

section IsChosen

variable {Value : Type} {option : Option Value} {given : Option Yaml.Node}
  {read : Yaml.Node → Option Value} {fallback value loaded : Value}

theorem settingOr_eq_some_iff {entries : List (String × Yaml.Node)} {key : String} :
    settingOr entries key read fallback = some value ↔
      IsChosen none (entries.lookup key) read fallback value := by
  unfold settingOr IsChosen
  cases entries.lookup key with
  | none => exact ⟨fun same => (Option.some.inj same).symm, fun same => congrArg some same.symm⟩
  | some node => exact Iff.rfl

theorem settingOr_section?_iff {node : Yaml.Node} {known : List String}
    {entries : List (String × Yaml.Node)} (found : node.section? known = some entries)
    {key : String} (mem : key ∈ known) :
    settingOr entries key read fallback = some value ↔
      IsChosen none (node.value? key) read fallback value := by
  rw [settingOr_eq_some_iff, Yaml.lookup_section? found mem]

/-- An option goes before what the file and the default make of a setting. -/
theorem IsChosen.override (chosen : IsChosen none given read fallback loaded) :
    IsChosen option given read fallback (option.getD loaded) := by
  cases option with
  | none => exact chosen
  | some value => rfl

end IsChosen

/-- Where the settings of the whole program come from. -/
structure GlobalSettings.ComesFrom (settings : GlobalSettings) (invocation : Invocation)
    (given : String → Option Yaml.Node) : Prop where
  debug : IsChosen (if invocation.verbose then some true else none) (given "debug")
    Yaml.Node.bool? false settings.debug
  burstLength : IsChosen none (given "iqburst") Settings.word64? 4000 settings.burstLength
  emulation : IsChosen invocation.emulation (given "emulation") Settings.profile? .hermes
    settings.emulation
  ringBursts : IsChosen none (given "ring_bursts") Settings.word64? 10 settings.ringBursts
  mac : IsChosen none (given "mac") Settings.mac? (.ofOctets 0xAA 0xBB 0xCC 0xDD 0xEE 0xFF)
    settings.mac

/-- Where the settings of the sockets come from. -/
structure NetworkSettings.ComesFrom (settings : NetworkSettings) (invocation : Invocation)
    (given : String → Option Yaml.Node) : Prop where
  bind : IsChosen invocation.bind (given "bind") Settings.address? .unspecified settings.bind
  port : IsChosen invocation.port (given "port") Settings.word16? 1024 settings.port
  pollTimeout : IsChosen none (given "poll_timeout_ms") Settings.word64? 1 settings.pollTimeout
  stopTimeout : IsChosen none (given "stop_timeout_ms") Settings.word64? 500 settings.stopTimeout

/-- Where the settings of the output sink come from.  A file for the output also says
that the sink is one. -/
structure SinkSettings.ComesFrom (settings : SinkSettings) (invocation : Invocation)
    (given : String → Option Yaml.Node) : Prop where
  kind : IsChosen (invocation.output.map (fun _ => .file)) (given "kind") Settings.sinkKind?
    .discard settings.kind
  path : IsChosen invocation.output (given "path") Yaml.Node.text? "tx.cf32" settings.path
  sampleRate : IsChosen none (given "sample_rate") Settings.word32? 48000 settings.sampleRate

/-- Where the settings of the band filters come from. -/
structure FilterSettings.ComesFrom (settings : FilterSettings)
    (given : String → Option Yaml.Node) : Prop where
  enabled : IsChosen none (given "enabled") Yaml.Node.bool? false settings.enabled
  kind : IsChosen none (given "type") Yaml.Node.text? "" settings.kind
  pins : IsChosen none (given "gpios") (fun node => node.items?.bind (·.mapM Settings.word32?)) []
    settings.pins
  bands : IsChosen none (given "bands") (fun node => node.items?.bind (·.mapM Settings.band?)) []
    settings.bands

/-- Where all settings come from. -/
structure Settings.ComesFrom (settings : Settings) (invocation : Invocation)
    (given : String → String → Option Yaml.Node) : Prop where
  global : settings.global.ComesFrom invocation (given "global")
  network : settings.network.ComesFrom invocation (given "network")
  sink : settings.sink.ComesFrom invocation (given "sink")
  filters : settings.filters.ComesFrom (given "filters")

namespace Settings

/-! ### Sections -/

/-- A reader of sections first looks whether the keys can be told apart. -/
theorem section?_bind_iff {Value : Type} {node : Yaml.Node} {known : List String}
    {read : List (String × Yaml.Node) → Option Value} {value : Value} {comes : Prop}
    (reads : ∀ entries, node.section? known = some entries →
      (read entries = some value ↔ comes)) :
    (node.section? known).bind read = some value ↔
      (node.section? known).isSome = true ∧ comes := by
  cases found : node.section? known with
  | none => simp
  | some entries => simp [reads entries found]

theorem global?_eq_some_iff {node : Yaml.Node} {settings : GlobalSettings} :
    global? node = some settings ↔
      (node.section? ["debug", "iqburst", "emulation", "ring_bursts", "mac"]).isSome = true ∧
        settings.ComesFrom .bare node.value? := by
  apply section?_bind_iff
  intro entries found
  simp only [Option.bind_eq_bind, Option.bind_eq_some_iff, settingOr_section?_iff found,
    List.mem_cons, true_or, or_true]
  constructor
  · rintro ⟨_, debug, _, burstLength, _, emulation, _, ringBursts, _, mac, made⟩
    cases made
    exact ⟨debug, burstLength, emulation, ringBursts, mac⟩
  · rintro ⟨debug, burstLength, emulation, ringBursts, mac⟩
    exact ⟨_, debug, _, burstLength, _, emulation, _, ringBursts, _, mac, rfl⟩

theorem network?_eq_some_iff {node : Yaml.Node} {settings : NetworkSettings} :
    network? node = some settings ↔
      (node.section? ["bind", "port", "poll_timeout_ms", "stop_timeout_ms"]).isSome = true ∧
        settings.ComesFrom .bare node.value? := by
  apply section?_bind_iff
  intro entries found
  simp only [Option.bind_eq_bind, Option.bind_eq_some_iff, settingOr_section?_iff found,
    List.mem_cons, true_or, or_true]
  constructor
  · rintro ⟨_, bind, _, port, _, pollTimeout, _, stopTimeout, made⟩
    cases made
    exact ⟨bind, port, pollTimeout, stopTimeout⟩
  · rintro ⟨bind, port, pollTimeout, stopTimeout⟩
    exact ⟨_, bind, _, port, _, pollTimeout, _, stopTimeout, rfl⟩

theorem sink?_eq_some_iff {node : Yaml.Node} {settings : SinkSettings} :
    sink? node = some settings ↔
      (node.section? ["kind", "path", "sample_rate"]).isSome = true ∧
        settings.ComesFrom .bare node.value? := by
  apply section?_bind_iff
  intro entries found
  simp only [Option.bind_eq_bind, Option.bind_eq_some_iff, settingOr_section?_iff found,
    List.mem_cons, true_or, or_true]
  constructor
  · rintro ⟨_, kind, _, path, _, sampleRate, made⟩
    cases made
    exact ⟨kind, path, sampleRate⟩
  · rintro ⟨kind, path, sampleRate⟩
    exact ⟨_, kind, _, path, _, sampleRate, rfl⟩

theorem filters?_eq_some_iff {node : Yaml.Node} {settings : FilterSettings} :
    filters? node = some settings ↔
      (node.section? ["enabled", "type", "gpios", "bands"]).isSome = true ∧
        settings.ComesFrom node.value? := by
  apply section?_bind_iff
  intro entries found
  simp only [Option.bind_eq_bind, Option.bind_eq_some_iff, settingOr_section?_iff found,
    List.mem_cons, true_or, or_true]
  constructor
  · rintro ⟨_, enabled, _, kind, _, pins, _, bands, made⟩
    cases made
    exact ⟨enabled, kind, pins, bands⟩
  · rintro ⟨enabled, kind, pins, bands⟩
    exact ⟨_, enabled, _, kind, _, pins, _, bands, rfl⟩

/-! ### Defaults -/

theorem global_default_iff {settings : GlobalSettings} :
    settings = standard.global ↔ settings.ComesFrom .bare (fun _ => none) := by
  constructor
  · rintro rfl
    exact ⟨rfl, rfl, rfl, rfl, rfl⟩
  · obtain ⟨_, _, _, _, _⟩ := settings
    rintro ⟨rfl, rfl, rfl, rfl, rfl⟩
    rfl

theorem network_default_iff {settings : NetworkSettings} :
    settings = standard.network ↔ settings.ComesFrom .bare (fun _ => none) := by
  constructor
  · rintro rfl
    exact ⟨rfl, rfl, rfl, rfl⟩
  · obtain ⟨_, _, _, _⟩ := settings
    rintro ⟨rfl, rfl, rfl, rfl⟩
    rfl

theorem sink_default_iff {settings : SinkSettings} :
    settings = standard.sink ↔ settings.ComesFrom .bare (fun _ => none) := by
  constructor
  · rintro rfl
    exact ⟨rfl, rfl, rfl⟩
  · obtain ⟨_, _, _⟩ := settings
    rintro ⟨rfl, rfl, rfl⟩
    rfl

theorem filters_default_iff {settings : FilterSettings} :
    settings = standard.filters ↔ settings.ComesFrom (fun _ => none) := by
  constructor
  · rintro rfl
    exact ⟨rfl, rfl, rfl, rfl⟩
  · obtain ⟨_, _, _, _⟩ := settings
    rintro ⟨rfl, rfl, rfl, rfl⟩
    rfl

/-! ### Documents -/

/-- A section may be left out, which leaves all its keys to their defaults. -/
theorem isChosen_section_iff {Value : Type} {part : Option Yaml.Node} {known : List String}
    {read : Yaml.Node → Option Value} {fallback value : Value}
    {comes : (String → Option Yaml.Node) → Prop}
    (reads : ∀ node, read node = some value ↔
      (node.section? known).isSome = true ∧ comes node.value?)
    (nothing : value = fallback ↔ comes (fun _ => none)) :
    IsChosen none part read fallback value ↔
      (∀ node ∈ part, (node.section? known).isSome = true) ∧
        comes (fun key => part.bind (fun node => node.value? key)) := by
  cases part with
  | none => simpa [IsChosen] using nothing
  | some node => simpa [IsChosen] using reads node

/-- The sections of a document, with their keys. -/
def knownKeys : List (String × List String) :=
  [("global", ["debug", "iqburst", "emulation", "ring_bursts", "mac"]),
    ("network", ["bind", "port", "poll_timeout_ms", "stop_timeout_ms"]),
    ("sink", ["kind", "path", "sample_rate"]),
    ("filters", ["enabled", "type", "gpios", "bands"])]

/-- A document stands for settings: its sections can be told apart, and so can their
keys, and the settings come from it. -/
structure Describes (document : Yaml.Node) (settings : Settings) : Prop where
  sections : (document.section? (knownKeys.map Prod.fst)).isSome = true
  keys : ∀ known ∈ knownKeys, ∀ part ∈ document.value? known.1,
    (part.section? known.2).isSome = true
  comes : settings.ComesFrom .bare document.setting?

theorem ofNode?_eq_some_iff {document : Yaml.Node} {settings : Settings} :
    ofNode? document = some settings ↔ Describes document settings := by
  have read : ofNode? document = some settings ↔
      (document.section? (knownKeys.map Prod.fst)).isSome = true ∧
        IsChosen none (document.value? "global") global? standard.global settings.global ∧
        IsChosen none (document.value? "network") network? standard.network settings.network ∧
        IsChosen none (document.value? "sink") sink? standard.sink settings.sink ∧
        IsChosen none (document.value? "filters") filters? standard.filters settings.filters := by
    apply section?_bind_iff
    intro entries found
    simp only [Option.bind_eq_bind, Option.bind_eq_some_iff, settingOr_section?_iff found,
      List.mem_cons, true_or, or_true]
    constructor
    · rintro ⟨_, global, _, network, _, sink, _, filters, made⟩
      cases made
      exact ⟨global, network, sink, filters⟩
    · rintro ⟨global, network, sink, filters⟩
      exact ⟨_, global, _, network, _, sink, _, filters, rfl⟩
  rw [read, isChosen_section_iff (fun _ => global?_eq_some_iff) global_default_iff,
    isChosen_section_iff (fun _ => network?_eq_some_iff) network_default_iff,
    isChosen_section_iff (fun _ => sink?_eq_some_iff) sink_default_iff,
    isChosen_section_iff (fun _ => filters?_eq_some_iff) filters_default_iff]
  constructor
  · rintro ⟨sections, ⟨globalKeys, global⟩, ⟨networkKeys, network⟩, ⟨sinkKeys, sink⟩,
      ⟨filtersKeys, filters⟩⟩
    refine ⟨sections, ?_, ⟨global, network, sink, filters⟩⟩
    simp only [knownKeys, List.forall_mem_cons]
    exact ⟨globalKeys, networkKeys, sinkKeys, filtersKeys,
      fun _ mem => absurd mem List.not_mem_nil⟩
  · rintro ⟨sections, keys, ⟨global, network, sink, filters⟩⟩
    simp only [knownKeys, List.forall_mem_cons] at keys
    exact ⟨sections, ⟨keys.1, global⟩, ⟨keys.2.1, network⟩, ⟨keys.2.2.1, sink⟩,
      ⟨keys.2.2.2.1, filters⟩⟩

theorem standard_comesFrom : standard.ComesFrom .bare (fun _ _ => none) :=
  ⟨global_default_iff.mp rfl, network_default_iff.mp rfl, sink_default_iff.mp rfl,
    filters_default_iff.mp rfl⟩

/-! ### Files -/

variable {reader : Yaml.Reader} {disk : Disk} {path : String}

theorem parseWith_eq_ok_iff {text : String} {settings : Settings} :
    parseWith reader text = .ok settings ↔
      ∃ document, reader text = some document ∧ Describes document settings ∧
        settings.fault? = none := by
  constructor
  · intro parsed
    unfold parseWith at parsed
    split at parsed
    · contradiction
    · next loaded read =>
      split at parsed
      · contradiction
      · next valid =>
        cases parsed
        obtain ⟨document, known, made⟩ := Option.bind_eq_some_iff.mp read
        exact ⟨document, known, ofNode?_eq_some_iff.mp made, validate_eq_ok_iff.mp valid⟩
  · rintro ⟨document, known, described, faultless⟩
    simp [parseWith, known, ofNode?_eq_some_iff.mpr described, validate_eq_ok_iff.mpr faultless]

theorem load_eq_ok_iff {settings : Settings} :
    load reader disk path = .ok settings ↔
      ∃ text document, disk.readText path = .ok text ∧ reader text = some document ∧
        Describes document settings ∧ settings.fault? = none := by
  unfold load
  cases disk.readText path with
  | error fault => simp
  | ok text => simp [parseWith_eq_ok_iff]

/-- Why no settings can be had from a file. -/
inductive Unusable (reader : Yaml.Reader) (disk : Disk) (path : String) : Prop
  | unreadable {fault : DiskFault} (fails : disk.readText path = .error fault)
  | malformed {text : String} (read : disk.readText path = .ok text)
      (undescribed : ∀ document settings, reader text = some document →
        ¬ Describes document settings)
  | invalid {text : String} {document : Yaml.Node} {settings : Settings} {fault : SettingsFault}
      (read : disk.readText path = .ok text) (known : reader text = some document)
      (described : Describes document settings) (faulty : settings.fault? = some fault)

theorem Unusable.not_load (unusable : Unusable reader disk path) (settings : Settings) :
    load reader disk path ≠ .ok settings := by
  intro loaded
  obtain ⟨text, document, read, known, described, faultless⟩ := load_eq_ok_iff.mp loaded
  cases unusable with
  | unreadable fails => exact absurd (fails.symm.trans read) (by simp)
  | malformed same undescribed =>
      cases same.symm.trans read
      exact undescribed document settings known described
  | invalid same sameKnown other faulty =>
      cases same.symm.trans read
      cases sameKnown.symm.trans known
      cases (ofNode?_eq_some_iff.mpr other).symm.trans (ofNode?_eq_some_iff.mpr described)
      exact absurd (faulty.symm.trans faultless) (by simp)

/-- Loading fails for one of the three reasons. -/
theorem load_fails_iff :
    (∃ fault, load reader disk path = .error fault) ↔ Unusable reader disk path := by
  constructor
  · rintro ⟨fault, fails⟩
    cases read : disk.readText path with
    | error fault => exact .unreadable read
    | ok text =>
        by_cases described : ∃ document settings, reader text = some document ∧
            Describes document settings
        · obtain ⟨document, settings, known, described⟩ := described
          cases faults : settings.fault? with
          | some fault => exact .invalid read known described faults
          | none =>
              have loaded := load_eq_ok_iff.mpr ⟨text, document, read, known, described, faults⟩
              exact absurd (loaded.symm.trans fails) (by simp)
        · exact .malformed read (fun document settings known describes =>
            described ⟨document, settings, known, describes⟩)
  · intro unusable
    cases loaded : load reader disk path with
    | error fault => exact ⟨fault, rfl⟩
    | ok settings => exact absurd loaded (unusable.not_load settings)

/-- What is loaded, or the standard, is valid. -/
theorem fault?_of_loadOrStandard {settings : Settings}
    (loaded : loadOrStandard reader disk path = .ok settings) : settings.fault? = none := by
  unfold loadOrStandard at loaded
  split at loaded
  · obtain ⟨_, _, -, -, -, faultless⟩ := load_eq_ok_iff.mp loaded
    exact faultless
  · cases loaded
    rfl

end Settings

namespace CommandLine

variable {settings : Settings} {given : String → String → Option Yaml.Node}
  {reader : Yaml.Reader} {disk : Disk} {invocation : Invocation}

/-- Overriding settings puts what the command line says before what they say. -/
theorem override_comesFrom (invocation : Invocation) (comes : settings.ComesFrom .bare given) :
    (override invocation settings).ComesFrom invocation given where
  global :=
    { debug := by
        have chosen : (override invocation settings).global.debug =
            (if invocation.verbose then some true else none).getD settings.global.debug := by
          cases verbose : invocation.verbose <;> simp [override, verbose]
        rw [chosen]
        exact comes.global.debug.override
      burstLength := comes.global.burstLength
      emulation := comes.global.emulation.override
      ringBursts := comes.global.ringBursts
      mac := comes.global.mac }
  network :=
    { bind := comes.network.bind.override
      port := comes.network.port.override
      pollTimeout := comes.network.pollTimeout
      stopTimeout := comes.network.stopTimeout }
  sink :=
    { kind := by
        have chosen : (override invocation settings).sink.kind =
            (invocation.output.map (fun _ => SinkKind.file)).getD settings.sink.kind := by
          cases output : invocation.output <;> simp [override, output]
        rw [chosen]
        exact comes.sink.kind.override
      path := comes.sink.path.override
      sampleRate := comes.sink.sampleRate }
  filters := comes.filters

/-- Nothing that the command line says is ever checked. -/
theorem fault?_override (invocation : Invocation) (settings : Settings) :
    (override invocation settings).fault? = settings.fault? :=
  rfl

/-- So checking valid settings again, when they have been overridden, never fails. -/
theorem effectiveSettings_eq (reader : Yaml.Reader) (disk : Disk) (invocation : Invocation) :
    effectiveSettings reader disk invocation =
      ((Settings.loadOrStandard reader disk invocation.configPath).mapError
        (StartFault.load invocation.configPath)).map (override invocation) := by
  unfold effectiveSettings
  cases loaded : Settings.loadOrStandard reader disk invocation.configPath with
  | error fault => rfl
  | ok settings =>
      have valid : (override invocation settings).validate = .ok () := by
        rw [Settings.validate_eq_ok_iff, fault?_override]
        exact Settings.fault?_of_loadOrStandard loaded
      simp only [valid]
      rfl

theorem effectiveSettings_eq_ok_iff :
    effectiveSettings reader disk invocation = .ok settings ↔
      ∃ loaded, Settings.loadOrStandard reader disk invocation.configPath = .ok loaded ∧
        override invocation loaded = settings := by
  rw [effectiveSettings_eq]
  cases Settings.loadOrStandard reader disk invocation.configPath with
  | error cause =>
      constructor
      · intro made
        contradiction
      · rintro ⟨_, read, -⟩
        contradiction
  | ok loaded =>
      constructor
      · intro made
        exact ⟨loaded, rfl, Except.ok.inj made⟩
      · rintro ⟨_, read, rfl⟩
        cases read
        rfl

theorem effectiveSettings_eq_error_iff {fault : StartFault} :
    effectiveSettings reader disk invocation = .error fault ↔
      ∃ cause, Settings.loadOrStandard reader disk invocation.configPath = .error cause ∧
        .load invocation.configPath cause = fault := by
  rw [effectiveSettings_eq]
  cases Settings.loadOrStandard reader disk invocation.configPath with
  | error cause =>
      constructor
      · intro made
        exact ⟨cause, rfl, Except.error.inj made⟩
      · rintro ⟨_, read, rfl⟩
        cases read
        rfl
  | ok loaded =>
      constructor
      · intro made
        contradiction
      · rintro ⟨_, read, -⟩
        contradiction

/-- Whatever reads the documents, each of the settings that can be had is what the command
line says, else what the file says if there is one, else its default.  They cannot be
had exactly if there is a file and it is unreadable, malformed or invalid; the options
are never the reason. -/
theorem effective_settings_are_chosen (reader : Yaml.Reader) (disk : Disk)
    (invocation : Invocation) :
    let path := invocation.configPath
    (∀ settings, effectiveSettings reader disk invocation = .ok settings →
      settings.fault? = none ∧
        if disk.pathExists path then
          ∃ text document, disk.readText path = .ok text ∧ reader text = some document ∧
            settings.ComesFrom invocation document.setting?
        else settings.ComesFrom invocation (fun _ _ => none)) ∧
    ((∃ fault, effectiveSettings reader disk invocation = .error fault) ↔
      disk.pathExists path = true ∧ Settings.Unusable reader disk path) ∧
    ∀ fault, effectiveSettings reader disk invocation ≠ .error (.invalid fault) := by
  intro path
  refine ⟨?_, ?_, ?_⟩
  · intro settings effective
    obtain ⟨loaded, read, rfl⟩ := effectiveSettings_eq_ok_iff.mp effective
    have faultless := Settings.fault?_of_loadOrStandard read
    refine ⟨(fault?_override invocation loaded).trans faultless, ?_⟩
    rw [Settings.loadOrStandard] at read
    split
    · next file =>
      rw [if_pos file] at read
      obtain ⟨text, document, contents, known, described, -⟩ := Settings.load_eq_ok_iff.mp read
      exact ⟨text, document, contents, known, override_comesFrom invocation described.comes⟩
    · next noFile =>
      rw [if_neg noFile] at read
      cases read
      exact override_comesFrom invocation Settings.standard_comesFrom
  · simp only [effectiveSettings_eq_error_iff, ← Settings.load_fails_iff,
      Settings.loadOrStandard]
    constructor
    · rintro ⟨_, cause, fails, -⟩
      split at fails
      · next file => exact ⟨file, cause, fails⟩
      · contradiction
    · rintro ⟨file, cause, fails⟩
      exact ⟨_, cause, (if_pos file).trans fails, rfl⟩
  · intro fault fails
    obtain ⟨cause, -, wrong⟩ := effectiveSettings_eq_error_iff.mp fails
    contradiction

/-- The defaults as they are documented: the kind of the filters is `gpio`. -/
def documentedDefaults : Settings :=
  { Settings.standard with filters := { Settings.standard.filters with kind := "gpio" } }

/-- Without a file and without options the kind of the filters has no name. -/
theorem standard_ne_documentedDefaults :
    effectiveSettings Yaml.reader .empty .bare = .ok .standard ∧
      Settings.standard.filters.kind = "" ∧ Settings.standard ≠ documentedDefaults :=
  ⟨rfl, rfl, by decide⟩

/-- A file that gives keys of two sections, and two options, one of which goes before it. -/
example :
    (effectiveSettings Yaml.reader ⟨[(["radio"],
        .file "global:\n  iqburst: 128\n  debug: true\nsink:\n  path: a\n".toUTF8.toList)]⟩
      ⟨some "radio", none, none, some 7, some "b", false, .run⟩).toOption =
      some ⟨⟨true, 128, .hermes, 10, .standard⟩, ⟨.unspecified, 7, 1, 500⟩,
        ⟨.file, "b", 48000⟩, ⟨false, "", [], []⟩⟩ := by
  decide +kernel

end CommandLine
end VirtualRadio
