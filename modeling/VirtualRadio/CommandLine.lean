import VirtualRadio.Settings.Document

namespace VirtualRadio

/-!
# The command line

Options come before the subcommand.  Arguments are taken from left to right,
and the first one that cannot be taken decides what is reported.  An option
that waits for its value is settled only when the next known option is met or
the arguments end, so an unknown argument behind it is reported first.
-/

namespace CommandLine

/-- What the program is asked to do. -/
inductive Command where
  | run
  | profiles
  | showConfig
  deriving DecidableEq, Repr

/-- The options that take a value. -/
inductive ValueOption where
  | config
  | emulation
  | bind
  | port
  | output
  deriving DecidableEq, Repr

/-- Why a command line is refused, or answered with a text of its own. -/
inductive UsageFault where
  | unknownArgument
  | invalidSubcommand
  /-- A value does not have the form that its option asks for. -/
  | invalidForm
  /-- A value is missing or empty. -/
  | missingValue
  /-- A value was given to an option that takes none. -/
  | needlessValue
  /-- An option occurs twice. -/
  | repeated
  | helpRequested
  | versionRequested
  deriving DecidableEq, Repr

/-- What a command line asks for. -/
structure Invocation where
  config : Option String
  emulation : Option Profile
  bind : Option IpAddress
  port : Option UInt16
  output : Option String
  verbose : Bool
  command : Command
  deriving DecidableEq, Repr

namespace Invocation

/-- The command line without arguments. -/
def bare : Invocation :=
  ⟨none, none, none, none, none, false, .run⟩

/-- The file that settings are read from. -/
def configPath (invocation : Invocation) : String :=
  invocation.config.getD "hpsdr_bridge.yaml"

end Invocation

/-- The option with a long name. -/
def longOption? : String → Option ValueOption
  | "config" => some .config
  | "emulation" => some .emulation
  | "bind" => some .bind
  | "port" => some .port
  | "output" => some .output
  | _ => none

/-- The subcommand with a name. -/
def command? : String → Option Command
  | "run" => some .run
  | "profiles" => some .profiles
  | "show-config" => some .showConfig
  | _ => none

/-- Read a port number: an integer with an optional sign, in range. -/
def port? (text : String) : Option UInt16 :=
  let digits := match text.toList with
    | '+' :: rest => rest
    | '-' :: rest => if rest.all (· = '0') then rest else []
    | chars => chars
  match Text.numeral? 10 digits with
  | some value => if value < 65536 then some (UInt16.ofNat value) else none
  | none => none

/-- Give an option its value.  An option may be given only once. -/
def settle (invocation : Invocation) (option : ValueOption) (value : String) :
    Except UsageFault Invocation :=
  match option with
  | .config =>
    if invocation.config.isSome then .error .repeated
    else if value = "" then .error .missingValue
    else .ok { invocation with config := some value }
  | .output =>
    if invocation.output.isSome then .error .repeated
    else if value = "" then .error .missingValue
    else .ok { invocation with output := some value }
  | .emulation =>
    if invocation.emulation.isSome then .error .repeated
    else
      match Profile.parse value with
      | .ok profile => .ok { invocation with emulation := some profile }
      | .error _ => .error .invalidForm
  | .bind =>
    if invocation.bind.isSome then .error .repeated
    else
      match IpAddress.parse? value with
      | some address => .ok { invocation with bind := some address }
      | none => .error .invalidForm
  | .port =>
    if invocation.port.isSome then .error .repeated
    else
      match port? value with
      | some port => .ok { invocation with port := some port }
      | none => .error .invalidForm

/-- Ask for more output.  This too may be asked only once. -/
def setVerbose (invocation : Invocation) : Except UsageFault Invocation :=
  if invocation.verbose then .error .repeated else .ok { invocation with verbose := true }

/-- An option that is not settled yet: it waits for its value, or has it. -/
structure Waiting where
  option : ValueOption
  value : Option String
  deriving DecidableEq, Repr

/-- Settle the option that waits, if there is one. -/
def settleWaiting (invocation : Invocation) : Option Waiting → Except UsageFault Invocation
  | none => .ok invocation
  | some ⟨_, none⟩ => .error .missingValue
  | some ⟨option, some value⟩ => settle invocation option value

/-- A group of short options: what it gives to the invocation, and the option
that then waits. -/
def takeShort (invocation : Invocation) (waiting : Option Waiting) :
    List Char → Except UsageFault (Invocation × Option Waiting)
  | [] => .ok (invocation, waiting)
  | 'v' :: rest => do
    let invocation ← settleWaiting invocation waiting
    takeShort (← setVerbose invocation) none rest
  | 'h' :: _ => do
    let _ ← settleWaiting invocation waiting
    throw .helpRequested
  | 'V' :: _ => do
    let _ ← settleWaiting invocation waiting
    throw .versionRequested
  | 'c' :: rest => do
    let invocation ← settleWaiting invocation waiting
    match rest with
    | [] => return (invocation, some ⟨.config, none⟩)
    | '=' :: value => return (← settle invocation .config (String.ofList value), none)
    | value => return (← settle invocation .config (String.ofList value), none)
  | _ => .error .unknownArgument

/-- An option with a long name, without its two hyphens. -/
def takeLong (invocation : Invocation) (waiting : Option Waiting) (text : List Char) :
    Except UsageFault (Invocation × Option Waiting) :=
  let name := String.ofList (text.takeWhile (· ≠ '='))
  let value? := (text.dropWhile (· ≠ '=')).tail?.map String.ofList
  match longOption? name with
  | some option => do
    let invocation ← settleWaiting invocation waiting
    match value? with
    | none => return (invocation, some ⟨option, none⟩)
    | some value => return (← settle invocation option value, none)
  | none =>
    if name = "verbose" ∨ name = "help" ∨ name = "version" then
      if value?.isSome then
        throw .needlessValue
      else do
        let invocation ← settleWaiting invocation waiting
        if name = "verbose" then
          return (← setVerbose invocation, none)
        else if name = "help" then
          throw .helpRequested
        else
          throw .versionRequested
    else
      throw .unknownArgument

/-- The arguments behind a subcommand, which takes none but a call for help. -/
def takeAfterCommand : List String → Except UsageFault Unit
  | [] => .ok ()
  | argument :: rest =>
    if argument = "--" then
      if rest.isEmpty then .ok () else .error .unknownArgument
    else if argument = "--help" then
      .error .helpRequested
    else
      match argument.toList with
      | '-' :: 'h' :: _ => .error .helpRequested
      | _ =>
        if "--help=".toList.isPrefixOf argument.toList then .error .needlessValue
        else .error .unknownArgument

/-- The arguments behind a call for help: the name of one subcommand. -/
def helpFault : List String → UsageFault
  | [] => .helpRequested
  | [name] =>
    if (command? name).isSome || name = "help" then .helpRequested else .invalidSubcommand
  | _ => .invalidSubcommand

/-- The arguments behind a double hyphen: there may be none. -/
def afterHyphens (invocation : Invocation) (waiting : Option Waiting) :
    List String → Except UsageFault Invocation
  | [] => settleWaiting invocation waiting
  | argument :: _ =>
    if (command? argument).isSome || argument = "help" then .error .unknownArgument
    else .error .invalidSubcommand

/-- Take arguments from left to right. -/
def take (invocation : Invocation) (waiting : Option Waiting) :
    List String → Except UsageFault Invocation
  | [] => settleWaiting invocation waiting
  | argument :: rest =>
    let expectsValue := waiting.any (fun option => option.value.isNone)
    match if expectsValue then none else command? argument with
    | some command => do
      takeAfterCommand rest
      let invocation ← settleWaiting invocation waiting
      return { invocation with command }
    | none =>
      if !expectsValue && argument = "help" then
        .error (helpFault rest)
      else
        match argument.toList with
        | '-' :: '-' :: [] => afterHyphens invocation waiting rest
        | '-' :: '-' :: name => do
          let (invocation, waiting) ← takeLong invocation waiting name
          take invocation waiting rest
        | '-' :: first :: more => do
          let (invocation, waiting) ← takeShort invocation waiting (first :: more)
          take invocation waiting rest
        | _ =>
          match waiting with
          | some ⟨option, none⟩ => take invocation (some ⟨option, some argument⟩) rest
          | _ => .error .invalidSubcommand

/-- Read a command line. -/
def parse (arguments : List String) : Except UsageFault Invocation :=
  take .bare none arguments

end CommandLine

/-! ### What a command line does -/

/-- Why the effective settings cannot be had. -/
inductive StartFault where
  | load (path : String) (fault : LoadFault)
  | invalid (fault : SettingsFault)
  deriving DecidableEq, Repr

namespace CommandLine

/-- Put what a command line gives in the place of what a file gives. -/
def override (invocation : Invocation) (settings : Settings) : Settings :=
  { settings with
    global := { settings.global with
      debug := settings.global.debug || invocation.verbose
      emulation := invocation.emulation.getD settings.global.emulation }
    network := { settings.network with
      bind := invocation.bind.getD settings.network.bind
      port := invocation.port.getD settings.network.port }
    sink := { settings.sink with
      kind := if invocation.output.isSome then .file else settings.sink.kind
      path := invocation.output.getD settings.sink.path } }

/-- The settings that a command line leads to. -/
def effectiveSettings (reader : Yaml.Reader) (disk : Disk) (invocation : Invocation) :
    Except StartFault Settings :=
  match Settings.loadOrStandard reader disk invocation.configPath with
  | .error fault => .error (.load invocation.configPath fault)
  | .ok loaded =>
    let settings := override invocation loaded
    match settings.validate with
    | .error fault => .error (.invalid fault)
    | .ok () => .ok settings

/-- A text padded with spaces behind it. -/
def padRight (width : Nat) (text : String) : String :=
  text ++ String.ofList (List.replicate (width - text.length) ' ')

/-- A text padded with spaces in front of it. -/
def padLeft (width : Nat) (text : String) : String :=
  String.ofList (List.replicate (width - text.length) ' ') ++ text

/-- A row of the table of profiles. -/
def profileRow (name deviceClass version identifier : String) : String :=
  padRight 14 name ++ " " ++ padLeft 6 deviceClass ++ " " ++ padLeft 8 version ++ " "
    ++ padLeft 6 identifier ++ "\n"

/-- The table of profiles. -/
def profileTable : String :=
  profileRow "PROFILE" "CLASS" "VERSION" "ID"
    ++ String.join (Profile.all.map (fun profile =>
      profileRow profile.name (toString profile.data.deviceClass.toNat)
        (toString profile.data.firmwareVersion.toNat) (toString profile.data.deviceId)))

end CommandLine

/-- What is reported when the effective settings cannot be had, if its wording
is fixed. -/
def StartFault.message? : StartFault → Option String
  | load path fault => fault.fault?.map (fun cause => s!"loading {path}: {cause.message}")
  | invalid fault => some (Fault.configuration fault.message).message

end VirtualRadio
