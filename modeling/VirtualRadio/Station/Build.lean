import VirtualRadio.Station.Run

namespace VirtualRadio

/-!
# Building a station

A station is built from a plan and an output sink.  The plan is checked first;
then the datagram socket is bound, and the listener to the same port.
-/

namespace StationPlan

/-- The plan of a station about which nothing is said. -/
def standard : StationPlan where
  profile := default
  mac := .standard
  bind := .unspecified
  port := 1024
  pollTimeout := 1
  stopTimeout := 500
  burstLength := 4000
  ringBursts := 10
  bands := []
  backoff := 1
  eventCapacity := 256

instance : Inhabited StationPlan := ⟨standard⟩

/-- The plan that settings describe.  Their bands count only if the filters are
enabled. -/
def ofSettings (settings : Settings) : StationPlan :=
  { standard with
    profile := settings.global.emulation
    mac := settings.global.mac
    bind := settings.network.bind
    port := settings.network.port
    pollTimeout := settings.network.pollTimeout.toNat
    stopTimeout := settings.network.stopTimeout.toNat
    burstLength := settings.global.burstLength
    ringBursts := settings.global.ringBursts
    bands := if settings.filters.enabled then settings.filters.bands else [] }

/-- The ring of a station, if nothing is wrong with its plan. -/
def ring (plan : StationPlan) : Except Failure Ring :=
  if plan.pollTimeout = 0 then
    .error (.refused (.invalidParameter "poll timeout must be > 0"))
  else if plan.eventCapacity = 0 then
    .error (.refused (.invalidParameter "event capacity must be > 0"))
  else
    (Ring.create plan.ringBursts plan.burstLength).mapError RingFault.toFailure

end StationPlan

/-- What the operating system makes of a request for sockets. -/
structure Binding where
  /-- The port that is chosen where any will do. -/
  freePort : UInt16
  /-- Why the datagram socket cannot be bound, if it cannot. -/
  datagramFault : Option IoFault
  /-- Why the listener cannot be bound, if it cannot. -/
  listenerFault : Option IoFault

namespace Binding

/-- Bind the sockets: the port that both have. -/
def bind (binding : Binding) (address : IpAddress) (port : UInt16) : Except Fault UInt16 :=
  match binding.datagramFault with
  | some fault =>
    .error (.transport s!"UDP bind {address.render}:{port.toNat}: {fault.detail}")
  | none =>
    let port := if port = 0 then binding.freePort else port
    match binding.listenerFault with
    | some fault =>
      .error (.transport s!"TCP bind {address.render}:{port.toNat}: {fault.detail}")
    | none => .ok port

end Binding

namespace Station

variable {σ : Type}

/-- A station on which nothing has happened yet. -/
def initial (plan : StationPlan) (maintenance : MaintenanceHandler) (ring : Ring) (sink : σ) :
    Station σ where
  now := 0
  plan := plan
  maintenance := maintenance
  transport := .initial
  radio := .initial
  pool := .empty
  path := .spawn ring sink (Clock.nanos plan.backoff)
  session := .initial
  events := #[]
  hooks := #[]
  order := [.session, .consumer]

/-- Build a station, and say which address its sockets have. -/
def build (plan : StationPlan) (maintenance : MaintenanceHandler) (sink : Option σ)
    (binding : Binding) : Except Failure (Station σ × SocketAddress) :=
  match sink with
  | none =>
    .error (.refused (.invalidParameter "sink is required: call .sink() before .build()"))
  | some sink => do
    let ring ← plan.ring
    let port ← (binding.bind plan.bind plan.port).mapError .refused
    return (initial plan maintenance ring sink, ⟨plan.bind, port⟩)

end Station
end VirtualRadio
