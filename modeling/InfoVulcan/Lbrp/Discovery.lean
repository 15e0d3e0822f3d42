import InfoVulcan.Library.Machine
import InfoVulcan.Library.Reconciler
import InfoVulcan.Library.Text

/-!
# Service discovery

The reverse proxy resolves the addresses of the three services behind it from a registry, and loads
the registry again from time to time. A tick reconnects the clients of the services whose addresses
differ from those in effect before, and takes the new addresses to be in effect after it, also those
of services whose clients could not be reconnected.
-/

namespace InfoVulcan.Lbrp

/-! ## The registry -/

/-- A parsed `services.toml`: the endpoint URLs of services, by their names. -/
structure ServiceRegistry where
  services : String → Option String

namespace ServiceRegistry

/-- The configured endpoint for `service`, if present. -/
def get (reg : ServiceRegistry) (service : String) : Option String :=
  reg.services service

/-- An override wins only when it is non-blank; otherwise the registry entry is used, falling back
to `default`. -/
def resolveWith (reg : ServiceRegistry) (overrideValue : Option String) (service default : String) :
    String :=
  match overrideValue with
  | some value =>
      if ¬ (Text.trim value).isEmpty then value else (reg.get service).getD default
  | none => (reg.get service).getD default

end ServiceRegistry

/-- The three backend endpoints the proxy routes to. -/
structure BackendAddrs where
  auth : String
  admin : String
  custodian : String
  deriving DecidableEq, Repr

/-- The variables `AUTH_ADDR`, `ADMIN_ADDR` and `CUSTODIAN_ADDR`. -/
structure AddrOverrides where
  auth : Option String
  admin : Option String
  custodian : Option String

namespace BackendAddrs

def DEFAULT_AUTH : String := "http://auth:8082"
def DEFAULT_ADMIN : String := "http://admin:8083"
def DEFAULT_CUSTODIAN : String := "http://custodian-leader:8081"

/-- Resolves all three endpoints from a registry, with explicit overrides. -/
def fromRegistry (reg : ServiceRegistry) (overrides : AddrOverrides) : BackendAddrs where
  auth := reg.resolveWith overrides.auth "auth" DEFAULT_AUTH
  admin := reg.resolveWith overrides.admin "admin" DEFAULT_ADMIN
  custodian := reg.resolveWith overrides.custodian "custodian" DEFAULT_CUSTODIAN

end BackendAddrs

/-! ## The clients -/

/-- A channel, by the address it has been built for. -/
structure Channel where
  addr : String
  deriving DecidableEq, Repr

/-- A client, which sends its requests on a channel that can be swapped. -/
structure Client where
  channel : Channel
  deriving DecidableEq, Repr

/-- Builds a channel that connects when it is first used, unless that is refused. -/
def connectLazy (refusal : String → Option String) (addr : String) : Except String Channel :=
  match refusal addr with
  | none => .ok ⟨addr⟩
  | some error => .error error

/-- Swaps the channel of a client for one to a (possibly new) address. -/
def Client.reconnect (client : Client) (refusal : String → Option String) (addr : String) :
    Except String Client := do
  let channel ← connectLazy refusal addr
  return { client with channel }

/-- The clients a reload may redirect. -/
structure ReloadableClients where
  auth : Client
  admin : Client
  custodian : Client
  deriving DecidableEq, Repr

/-- The services behind the proxy. -/
inductive Service where
  | auth
  | admin
  | custodian
  deriving DecidableEq, Repr

/-- The name of a service in the registry. -/
def Service.name : Service → String
  | .auth => "auth"
  | .admin => "admin"
  | .custodian => "custodian"

/-- The address of a service. -/
def BackendAddrs.addr (addrs : BackendAddrs) : Service → String
  | .auth => addrs.auth
  | .admin => addrs.admin
  | .custodian => addrs.custodian

/-- The client of a service. -/
def ReloadableClients.client (clients : ReloadableClients) : Service → Client
  | .auth => clients.auth
  | .admin => clients.admin
  | .custodian => clients.custodian

/-! ## Reloading -/

/-- What a tick finds: the registry, or why it cannot be loaded, the variables, and to what address
the client of what service cannot be reconnected. -/
structure Tick where
  registry : Except String ServiceRegistry
  overrides : AddrOverrides
  refusal : Service → String → Option String

/-- Reconnects a client whose address has changed. A client that cannot be reconnected is as
before. -/
def applyChange (name current next : String) (refusal : String → Option String) (client : Client) :
    List String × Client :=
  if current ≠ next then
    match client.reconnect refusal next with
    | .ok client => ([name], client)
    | .error _ => ([], client)
  else ([], client)

/-- Reconnects exactly the clients whose endpoint differs between `current` and `next`, and returns
the services that were redirected. -/
def applyChanges (current next : BackendAddrs) (refusal : Service → String → Option String)
    (clients : ReloadableClients) : List String × ReloadableClients :=
  let (changedAuth, auth) :=
    applyChange "auth" current.auth next.auth (refusal .auth) clients.auth
  let (changedAdmin, admin) :=
    applyChange "admin" current.admin next.admin (refusal .admin) clients.admin
  let (changedCustodian, custodian) :=
    applyChange "custodian" current.custodian next.custodian (refusal .custodian) clients.custodian
  (changedAuth ++ changedAdmin ++ changedCustodian, { auth, admin, custodian })

/-- Performs one reload, and returns the endpoints that the next one compares with. A registry that
cannot be loaded keeps the current endpoints. -/
def reloadOnce (tick : Tick) (current : BackendAddrs) (clients : ReloadableClients) :
    BackendAddrs × ReloadableClients :=
  match tick.registry with
  | .ok reg =>
      let next := BackendAddrs.fromRegistry reg tick.overrides
      if next = current then (current, clients)
      else
        let (_, clients) := applyChanges current next tick.refusal clients
        (next, clients)
  | .error _ => (current, clients)

/-- What the reload loop carries, and the clients. -/
structure Reloader where
  current : BackendAddrs
  clients : ReloadableClients
  deriving DecidableEq, Repr

namespace Reloader

/-- The loop starts when the clients have connected to the addresses it starts with. -/
def start (initial : BackendAddrs) : Reloader where
  current := initial
  clients := ⟨⟨⟨initial.auth⟩⟩, ⟨⟨initial.admin⟩⟩, ⟨⟨initial.custodian⟩⟩⟩

/-- One round of the loop. -/
def step (s : Reloader) (tick : Tick) : Reloader :=
  let (current, clients) := reloadOnce tick s.current s.clients
  { current, clients }

/-- The addresses that the loop carries are those that the channels of the clients are for. -/
def Records (s : Reloader) : Prop :=
  ∀ service, s.current.addr service = (s.clients.client service).channel.addr

/-- If the tick resolves an address and reconnecting to it would succeed, the client points to it
after the tick. -/
def Converges (s : Reloader) (tick : Tick) : Prop :=
  ∀ reg service, tick.registry = .ok reg →
    tick.refusal service ((BackendAddrs.fromRegistry reg tick.overrides).addr service) = none →
      ((s.step tick).clients.client service).channel.addr =
        (BackendAddrs.fromRegistry reg tick.overrides).addr service

/-- If the tick resolves an address that is not the one in effect, reconnecting to it succeeds. -/
def Reconnects (s : Reloader) (tick : Tick) : Prop :=
  ∀ reg service, tick.registry = .ok reg →
    s.current.addr service ≠ (BackendAddrs.fromRegistry reg tick.overrides).addr service →
      tick.refusal service ((BackendAddrs.fromRegistry reg tick.overrides).addr service) = none

/-- The loop as a reconciler of the addresses of services. -/
def reconciler (s : Reloader) : Reconciler Service String where
  believed := s.current.addr
  actual service := (s.clients.client service).channel.addr

end Reloader

/-! ## The loop as a reconciler -/

variable {s : Reloader} {tick : Tick}

/-- The client of a service whose address has not changed is as before. -/
theorem applyChange_of_eq {name current next : String} (h : current = next)
    (refusal : String → Option String) (client : Client) :
    applyChange name current next refusal client = ([], client) :=
  if_neg (not_not_intro h)

/-- The client of a service whose address has changed points to the new one, if that is not
refused. -/
theorem applyChange_of_ne {name current next : String} (h : current ≠ next)
    {refusal : String → Option String} (hnone : refusal next = none) (client : Client) :
    applyChange name current next refusal client = ([name], ⟨⟨next⟩⟩) := by
  unfold applyChange Client.reconnect connectLazy
  rw [if_pos h, hnone]
  rfl

/-- If that is refused, the client is as before. -/
theorem applyChange_of_refusal {name current next error : String} {refusal : String → Option String}
    (herror : refusal next = some error) (client : Client) :
    applyChange name current next refusal client = ([], client) := by
  unfold applyChange Client.reconnect connectLazy
  rw [herror]
  exact ite_self _

/-- Each service has its own address, and its own client. -/
theorem client_applyChanges (current next : BackendAddrs)
    (refusal : Service → String → Option String) (clients : ReloadableClients) (service : Service) :
    (applyChanges current next refusal clients).2.client service =
      (applyChange service.name (current.addr service) (next.addr service) (refusal service)
        (clients.client service)).2 := by
  cases service with
  | auth => rfl
  | admin => rfl
  | custodian => rfl

namespace Reloader

variable {reg : ServiceRegistry}

/-- A tick whose registry cannot be loaded changes nothing. -/
theorem step_of_error {error : String} (herror : tick.registry = .error error) :
    s.step tick = s := by
  unfold step reloadOnce
  rw [herror]

/-- After a tick, the addresses of the registry are those in effect. -/
theorem current_step (hreg : tick.registry = .ok reg) :
    (s.step tick).current = .fromRegistry reg tick.overrides := by
  unfold step reloadOnce
  rw [hreg]
  by_cases hsame : BackendAddrs.fromRegistry reg tick.overrides = s.current
  · -- The loop keeps the addresses it has, which are the same.
    simp only [if_pos hsame]
    exact hsame.symm
  · simp only [if_neg hsame]

/-- A tick reconnects each client whose address has changed. -/
theorem client_step (hreg : tick.registry = .ok reg) (service : Service) :
    (s.step tick).clients.client service =
      (applyChange service.name (s.current.addr service)
        ((BackendAddrs.fromRegistry reg tick.overrides).addr service) (tick.refusal service)
        (s.clients.client service)).2 := by
  unfold step reloadOnce
  rw [hreg]
  by_cases hsame : BackendAddrs.fromRegistry reg tick.overrides = s.current
  · -- No client is looked at then, nor would any be reconnected.
    simp only [if_pos hsame]
    rw [applyChange_of_eq (by rw [hsame])]
  · simp only [if_neg hsame]
    exact client_applyChanges _ _ _ _ service

/-- A tick is a round of the reconciler. -/
theorem reconciler_step (hreg : tick.registry = .ok reg) :
    s.reconciler.Round (BackendAddrs.fromRegistry reg tick.overrides).addr
      (fun service =>
        tick.refusal service ((BackendAddrs.fromRegistry reg tick.overrides).addr service) = none)
      (s.step tick).reconciler where
  believed service := by
    show (s.step tick).current.addr service = _
    rw [current_step hreg]
  moved service hne hnone := by
    have hchanged : s.current.addr service ≠ _ := hne
    show ((s.step tick).clients.client service).channel.addr = _
    rw [client_step hreg, applyChange_of_ne hchanged hnone]
  stayed service _ hfails := by
    obtain ⟨error, herror⟩ := Option.ne_none_iff_exists'.mp hfails
    show ((s.step tick).clients.client service).channel.addr = _
    rw [client_step hreg, applyChange_of_refusal herror]
    rfl
  kept service hsame := by
    have hsame : s.current.addr service = _ := hsame
    show ((s.step tick).clients.client service).channel.addr = _
    rw [client_step hreg, applyChange_of_eq hsame]
    rfl

/-- A tick keeps what is recorded true exactly when every client that it has to reconnect can be
reconnected. -/
theorem records_step_iff (h : s.Records) (tick : Tick) :
    (s.step tick).Records ↔ s.Reconnects tick := by
  cases hregistry : tick.registry with
  | error error =>
      rw [step_of_error hregistry]
      refine iff_of_true h fun reg service hreg => ?_
      rw [hregistry] at hreg
      cases hreg
  | ok reg =>
      have hround := (reconciler_step (s := s) hregistry).inStep_iff h
      constructor
      case mp =>
        intro hafter reg' service hreg
        obtain rfl := Except.ok.inj (hregistry.symm.trans hreg)
        exact hround.mp hafter service
      case mpr =>
        exact fun hreconnects => hround.mpr fun service => hreconnects reg service hregistry

/-- A tick after which what is recorded is true has converged. -/
theorem converges_of_records (h : (s.step tick).Records) : s.Converges tick := by
  intro reg service hreg _
  rw [← h service, current_step hreg]

/-- The loop starts with what is true of the clients. -/
theorem records_start (initial : BackendAddrs) : (start initial).Records := by
  intro service
  cases service with
  | auth => rfl
  | admin => rfl
  | custodian => rfl

/-- For every sequence of ticks, the addresses in effect are always those that the clients point to,
and every address that a tick resolves and could reconnect to is reached, exactly when every client
that a tick has to reconnect can be reconnected. -/
theorem discovery_converges_iff (initial : BackendAddrs) (ticks : List Tick) :
    (Always step Records (start initial) ticks ∧
        Throughout step Converges (start initial) ticks) ↔
      Throughout step Reconnects (start initial) ticks := by
  have hrecords : Always step Records (start initial) ticks ↔
      Throughout step Reconnects (start initial) ticks :=
    always_iff_throughout (records_start initial) fun pre tick _ hbefore =>
      records_step_iff hbefore tick
  rw [← hrecords]
  constructor
  case mp => exact And.left
  case mpr =>
    refine fun halways => ⟨halways, fun pre tick hpre => converges_of_records ?_⟩
    have hafter := halways _ hpre
    rwa [List.foldl_concat] at hafter

/-! ### An attempt that fails once -/

/-- A tick that finds the address of the auth service, and whether it can be connected to. -/
def authTick (addr : String) (refused : Bool) : Tick where
  registry := .ok ⟨fun service => if service = "auth" then some addr else none⟩
  overrides := ⟨none, none, none⟩
  refusal _ _ := if refused then some "reading TLS file ca.pem" else none

/-- The addresses the loop starts with when it finds none. -/
def defaults : BackendAddrs where
  auth := BackendAddrs.DEFAULT_AUTH
  admin := BackendAddrs.DEFAULT_ADMIN
  custodian := BackendAddrs.DEFAULT_CUSTODIAN

/-- The auth client cannot be reconnected at the first of two ticks that find the same address. -/
def refusedOnce : List Tick :=
  [authTick "http://auth-2:8082" true, authTick "http://auth-2:8082" false]

/-- After the first tick the loop takes the client to point to the new address, and the second tick,
which could reconnect the client, does not try. -/
theorem discovery_gives_up :
    ¬ Always step Records (start defaults) refusedOnce ∧
      ¬ Throughout step Converges (start defaults) refusedOnce := by
  constructor
  · intro halways
    have hauth := halways [authTick "http://auth-2:8082" true] (List.prefix_append _ _) .auth
    revert hauth
    decide
  · intro hthroughout
    have hauth := hthroughout [authTick "http://auth-2:8082" true] _ List.prefix_rfl _ .auth rfl rfl
    revert hauth
    decide

end Reloader

end InfoVulcan.Lbrp
