import BacnetBridge.Assign
import BacnetBridge.Overrides

/-! The keys of the configuration that an override can reach, and an override as
the assignment of one value to one key. -/
namespace BacnetBridge

/-- The type of a field. -/
inductive Kind
  | text
  | optional
  | u16
  | u32
  | u64
  | flag
  deriving DecidableEq, Repr

abbrev Kind.Value : Kind → Type
  | .text => String
  | .optional => Option String
  | .u16 => UInt16
  | .u32 => UInt32
  | .u64 => UInt64
  | .flag => Bool

/-- What a field of the type can be set to by text. -/
def Kind.parse : (t : Kind) → String → Option t.Value
  | .text, value => some value
  | .optional, value => some (some value)
  | .u16, value => parseU16 value
  | .u32, value => parseU32 value
  | .u64, value => parseU64 value
  | .flag, value => parseBool value

/-- The scalar fields of a configuration. -/
inductive Key
  | transport
  | deviceId
  | vendorId
  | deviceName
  | lanInterface
  | lanPort
  | hubUrl
  | reconnectInitialMs
  | reconnectMaxMs
  | reconnectMaxAttempts
  | clientCert
  | clientKey
  | caCert
  | dangerAcceptInvalidCerts
  | tailscaleInterface
  | tailscalePort
  | host
  | webPort
  | openBrowser
  | bind
  | cert
  | key
  | acmeDomain
  | acmeCache
  | acmeProduction
  deriving DecidableEq, Repr

namespace Key

def kind : Key → Kind
  | .transport | .deviceName | .lanInterface | .hubUrl | .tailscaleInterface | .host | .bind
  | .acmeDomain | .acmeCache => .text
  | .clientCert | .clientKey | .caCert | .cert | .key => .optional
  | .vendorId | .lanPort | .tailscalePort | .webPort => .u16
  | .deviceId | .reconnectMaxAttempts => .u32
  | .reconnectInitialMs | .reconnectMaxMs => .u64
  | .dangerAcceptInvalidCerts | .openBrowser | .acmeProduction => .flag

/-- The dotted path of the field. -/
def path : Key → String
  | .transport => "router.transport"
  | .deviceId => "router.device_id"
  | .vendorId => "router.vendor_id"
  | .deviceName => "router.device_name"
  | .lanInterface => "router.lan.interface"
  | .lanPort => "router.lan.port"
  | .hubUrl => "router.sc.hub_url"
  | .reconnectInitialMs => "router.sc.reconnect_initial_ms"
  | .reconnectMaxMs => "router.sc.reconnect_max_ms"
  | .reconnectMaxAttempts => "router.sc.reconnect_max_attempts"
  | .clientCert => "router.sc.client_cert"
  | .clientKey => "router.sc.client_key"
  | .caCert => "router.sc.ca_cert"
  | .dangerAcceptInvalidCerts => "router.sc.danger_accept_invalid_certs"
  | .tailscaleInterface => "router.tailscale.interface"
  | .tailscalePort => "router.tailscale.port"
  | .host => "web.host"
  | .webPort => "web.port"
  | .openBrowser => "web.open_browser"
  | .bind => "hub.bind"
  | .cert => "hub.cert"
  | .key => "hub.key"
  | .acmeDomain => "hub.acme_domain"
  | .acmeCache => "hub.acme_cache"
  | .acmeProduction => "hub.acme_production"

/-- What an override sets the field to. One flag is set by any text. -/
def parse : (k : Key) → String → Option k.kind.Value
  | .dangerAcceptInvalidCerts, value => some (value == "true" || value == "1")
  | k, value => k.kind.parse value

end Key

/-- The fields by their keys. -/
def BridgeConfig.view (c : BridgeConfig) : (k : Key) → k.kind.Value
  | .transport => c.router.transport
  | .deviceId => c.router.deviceId
  | .vendorId => c.router.vendorId
  | .deviceName => c.router.deviceName
  | .lanInterface => c.router.lan.interface
  | .lanPort => c.router.lan.port
  | .hubUrl => c.router.sc.hubUrl
  | .reconnectInitialMs => c.router.sc.reconnectInitialMs
  | .reconnectMaxMs => c.router.sc.reconnectMaxMs
  | .reconnectMaxAttempts => c.router.sc.reconnectMaxAttempts
  | .clientCert => c.router.sc.clientCert
  | .clientKey => c.router.sc.clientKey
  | .caCert => c.router.sc.caCert
  | .dangerAcceptInvalidCerts => c.router.sc.dangerAcceptInvalidCerts
  | .tailscaleInterface => c.router.tailscale.interface
  | .tailscalePort => c.router.tailscale.port
  | .host => c.web.host
  | .webPort => c.web.port
  | .openBrowser => c.web.openBrowser
  | .bind => c.hub.bind
  | .cert => c.hub.cert
  | .key => c.hub.key
  | .acmeDomain => c.hub.acmeDomain
  | .acmeCache => c.hub.acmeCache
  | .acmeProduction => c.hub.acmeProduction

/-- The one field that has no key here. -/
def BridgeConfig.bdt (c : BridgeConfig) : Option (List BdtEntry) := c.router.tailscale.bdt

/-- Fields and broadcast table make up the configuration. -/
theorem BridgeConfig.ext_view {c c' : BridgeConfig} (h : c.view = c'.view) (hbdt : c.bdt = c'.bdt) :
    c = c' := by
  have hk := congrFun h
  obtain ⟨⟨_, _, _, _, ⟨_, _⟩, ⟨_, _, _, _, _, _, _, _⟩, ⟨_, _, _⟩⟩, ⟨_, _, _⟩,
    ⟨_, _, _, _, _, _⟩⟩ := c
  obtain ⟨⟨_, _, _, _, ⟨_, _⟩, ⟨_, _, _, _, _, _, _, _⟩, ⟨_, _, _⟩⟩, ⟨_, _, _⟩,
    ⟨_, _, _, _, _, _⟩⟩ := c'
  simp only [BridgeConfig.mk.injEq, RouterConfig.mk.injEq, LanConfig.mk.injEq, ScConfig.mk.injEq,
    TailscaleConfig.mk.injEq, WebConfig.mk.injEq, HubConfig.mk.injEq]
  refine ⟨⟨hk .transport, hk .deviceId, hk .vendorId, hk .deviceName, ?_, ?_, ?_⟩, ?_, ?_⟩
  · exact ⟨hk .lanInterface, hk .lanPort⟩
  · exact ⟨hk .hubUrl, hk .reconnectInitialMs, hk .reconnectMaxMs, hk .reconnectMaxAttempts,
      hk .clientCert, hk .clientKey, hk .caCert, hk .dangerAcceptInvalidCerts⟩
  · exact ⟨hk .tailscaleInterface, hk .tailscalePort, hbdt⟩
  · exact ⟨hk .host, hk .webPort, hk .openBrowser⟩
  · exact ⟨hk .bind, hk .cert, hk .key, hk .acmeDomain, hk .acmeCache, hk .acmeProduction⟩

/-- The configuration with one field set. -/
def BridgeConfig.put (c : BridgeConfig) : (k : Key) → k.kind.Value → BridgeConfig
  | .transport, v => { c with router.transport := v }
  | .deviceId, v => { c with router.deviceId := v }
  | .vendorId, v => { c with router.vendorId := v }
  | .deviceName, v => { c with router.deviceName := v }
  | .lanInterface, v => { c with router.lan.interface := v }
  | .lanPort, v => { c with router.lan.port := v }
  | .hubUrl, v => { c with router.sc.hubUrl := v }
  | .reconnectInitialMs, v => { c with router.sc.reconnectInitialMs := v }
  | .reconnectMaxMs, v => { c with router.sc.reconnectMaxMs := v }
  | .reconnectMaxAttempts, v => { c with router.sc.reconnectMaxAttempts := v }
  | .clientCert, v => { c with router.sc.clientCert := v }
  | .clientKey, v => { c with router.sc.clientKey := v }
  | .caCert, v => { c with router.sc.caCert := v }
  | .dangerAcceptInvalidCerts, v => { c with router.sc.dangerAcceptInvalidCerts := v }
  | .tailscaleInterface, v => { c with router.tailscale.interface := v }
  | .tailscalePort, v => { c with router.tailscale.port := v }
  | .host, v => { c with web.host := v }
  | .webPort, v => { c with web.port := v }
  | .openBrowser, v => { c with web.openBrowser := v }
  | .bind, v => { c with hub.bind := v }
  | .cert, v => { c with hub.cert := v }
  | .key, v => { c with hub.key := v }
  | .acmeDomain, v => { c with hub.acmeDomain := v }
  | .acmeCache, v => { c with hub.acmeCache := v }
  | .acmeProduction, v => { c with hub.acmeProduction := v }

/-- It touches that field alone. -/
theorem BridgeConfig.view_put (c : BridgeConfig) (k : Key) (v : k.kind.Value) :
    (c.put k v).view = Function.update c.view k v := by
  funext other
  cases k <;> cases other <;> rfl

theorem BridgeConfig.bdt_put (c : BridgeConfig) (k : Key) (v : k.kind.Value) :
    (c.put k v).bdt = c.bdt := by
  cases k <;> rfl

/-! ## Which key a path reaches -/

def lanKey : String → Option Key
  | "interface" => some .lanInterface
  | "port" => some .lanPort
  | _ => none

def scKey : String → Option Key
  | "hub_url" => some .hubUrl
  | "reconnect_initial_ms" => some .reconnectInitialMs
  | "reconnect_max_ms" => some .reconnectMaxMs
  | "reconnect_max_attempts" => some .reconnectMaxAttempts
  | "client_cert" => some .clientCert
  | "client_key" => some .clientKey
  | "ca_cert" => some .caCert
  | "danger_accept_invalid_certs" => some .dangerAcceptInvalidCerts
  | _ => none

def tailscaleKey : String → Option Key
  | "interface" => some .tailscaleInterface
  | "port" => some .tailscalePort
  | _ => none

/-- Behind the first four names anything can follow. -/
def routerKey (path : String) : Option Key :=
  match splitn2 path with
  | "transport" :: _ => some .transport
  | "device_id" :: _ => some .deviceId
  | "vendor_id" :: _ => some .vendorId
  | "device_name" :: _ => some .deviceName
  | "lan" :: key :: _ => lanKey key
  | "sc" :: key :: _ => scKey key
  | "tailscale" :: key :: _ => tailscaleKey key
  | _ => none

def webKey : String → Option Key
  | "host" => some .host
  | "port" => some .webPort
  | "open_browser" => some .openBrowser
  | _ => none

def hubKey : String → Option Key
  | "bind" => some .bind
  | "cert" => some .cert
  | "key" => some .key
  | "acme_domain" => some .acmeDomain
  | "acme_cache" => some .acmeCache
  | "acme_production" => some .acmeProduction
  | _ => none

/-- The key that an override with this path can assign. -/
def reached (path : String) : Option Key :=
  match splitn2 path with
  | "router" :: rest :: _ => routerKey rest
  | "web" :: rest :: _ => webKey rest
  | "hub" :: rest :: _ => hubKey rest
  | _ => none

def assigned (override : String × String) : Option ((k : Key) × k.kind.Value) :=
  (reached override.1).bind fun k => (k.parse override.2).map fun v => ⟨k, v⟩

/-! ## What an override does -/

/-- The key, if there is one, set to the value, if it can be. -/
def BridgeConfig.override (c : BridgeConfig) (value : String) : Option Key → BridgeConfig
  | none => c
  | some k => (k.parse value).elim c (c.put k)

/-- A branch of the source that sets one field to what the value parses to. -/
theorem override_parsed {c : BridgeConfig} {value : String} (k : Key)
    (set : Option k.kind.Value → BridgeConfig) (hnone : set none = c)
    (hsome : ∀ v, set (some v) = c.put k v) : set (k.parse value) = c.override value (some k) := by
  change set (k.parse value) = (k.parse value).elim c (c.put k)
  cases k.parse value with
  | none => exact hnone
  | some v => exact hsome v

theorem applyWebOverride_eq (c : BridgeConfig) (path value : String) :
    { c with web := applyWebOverride c.web path value } = c.override value (webKey path) := by
  unfold applyWebOverride webKey
  split
  · rfl
  · exact override_parsed .webPort (fun v => { c with web.port := v.getD c.web.port }) rfl
      fun _ => rfl
  · exact override_parsed .openBrowser
      (fun v => { c with web.openBrowser := v.getD c.web.openBrowser }) rfl fun _ => rfl
  · simp_all [BridgeConfig.override]

theorem applyHubOverride_eq (c : BridgeConfig) (path value : String) :
    { c with hub := applyHubOverride c.hub path value } = c.override value (hubKey path) := by
  unfold applyHubOverride hubKey
  split
  · rfl
  · rfl
  · rfl
  · rfl
  · rfl
  · exact override_parsed .acmeProduction
      (fun v => { c with hub.acmeProduction := v.getD c.hub.acmeProduction }) rfl fun _ => rfl
  · simp_all [BridgeConfig.override]

theorem applyRouterOverride_eq (c : BridgeConfig) (path value : String) :
    { c with router := applyRouterOverride c.router path value } =
      c.override value (routerKey path) := by
  unfold applyRouterOverride routerKey
  generalize splitn2 path = parts
  split
  · rfl
  · exact override_parsed .deviceId
      (fun v => { c with router.deviceId := v.getD c.router.deviceId }) rfl fun _ => rfl
  · exact override_parsed .vendorId
      (fun v => { c with router.vendorId := v.getD c.router.vendorId }) rfl fun _ => rfl
  · rfl
  · dsimp only [lanKey]
    split
    · rfl
    · exact override_parsed .lanPort
        (fun v => { c with router.lan.port := v.getD c.router.lan.port }) rfl fun _ => rfl
    · simp_all [BridgeConfig.override]
  · dsimp only [scKey]
    split
    · rfl
    · exact override_parsed .reconnectInitialMs (fun v =>
        { c with router.sc.reconnectInitialMs := v.getD c.router.sc.reconnectInitialMs }) rfl
        fun _ => rfl
    · exact override_parsed .reconnectMaxMs (fun v =>
        { c with router.sc.reconnectMaxMs := v.getD c.router.sc.reconnectMaxMs }) rfl
        fun _ => rfl
    · exact override_parsed .reconnectMaxAttempts (fun v =>
        { c with router.sc.reconnectMaxAttempts := v.getD c.router.sc.reconnectMaxAttempts }) rfl
        fun _ => rfl
    · rfl
    · rfl
    · rfl
    · rfl
    · simp_all [BridgeConfig.override]
  · dsimp only [tailscaleKey]
    split
    · rfl
    · exact override_parsed .tailscalePort
        (fun v => { c with router.tailscale.port := v.getD c.router.tailscale.port }) rfl
        fun _ => rfl
    · simp_all [BridgeConfig.override]
  · simp_all [BridgeConfig.override]

/-- An override assigns to the key that its path reaches, or to none. -/
theorem applyOverride_eq (c : BridgeConfig) (path value : String) :
    applyOverride c path value = c.override value (reached path) := by
  unfold applyOverride reached
  generalize splitn2 path = parts
  split
  · exact applyRouterOverride_eq c _ value
  · exact applyWebOverride_eq c _ value
  · exact applyHubOverride_eq c _ value
  · simp_all [BridgeConfig.override]

theorem view_applyOverride (c : BridgeConfig) (o : String × String) :
    (applyOverride c o.1 o.2).view = Assign.assign assigned c.view o := by
  rw [applyOverride_eq]
  unfold BridgeConfig.override Assign.assign assigned
  cases reached o.1 with
  | none => rfl
  | some k =>
    dsimp only [Option.bind_some]
    cases k.parse o.2 with
    | none => rfl
    | some v => exact c.view_put k v

theorem bdt_applyOverride (c : BridgeConfig) (path value : String) :
    (applyOverride c path value).bdt = c.bdt := by
  rw [applyOverride_eq]
  unfold BridgeConfig.override
  cases reached path with
  | none => rfl
  | some k =>
    dsimp only
    cases k.parse value with
    | none => rfl
    | some v => exact c.bdt_put k v

theorem view_applyOverrides (c : BridgeConfig) (overrides : List (String × String)) :
    (applyOverrides c overrides).view = Assign.assignAll assigned c.view overrides ∧
      (applyOverrides c overrides).bdt = c.bdt := by
  induction overrides generalizing c with
  | nil => exact ⟨rfl, rfl⟩
  | cons o overrides ih =>
    obtain ⟨hview, hbdt⟩ := ih (applyOverride c o.1 o.2)
    constructor
    · exact hview.trans (congrArg (Assign.assignAll assigned · overrides) (view_applyOverride c o))
    · exact hbdt.trans (bdt_applyOverride c o.1 o.2)

end BacnetBridge
