import Mathlib.Algebra.Group.Nat.Defs
import BacnetBridge.Config

/-! `config.rs`: the overrides applied to a configuration at start-up. A list
of overrides is the `HashMap` in the order in which it is visited. -/
namespace BacnetBridge

/-- `s.splitn(2, '.')`. -/
def splitn2 (s : String) : List String :=
  match s.toList.span (· ≠ '.') with
  | (_, []) => [s]
  | (head, _ :: tail) => [String.ofList head, String.ofList tail]

/-- `value.parse::<uN>()`: an optional plus sign and decimal digits, of a value
that fits. -/
def parseUnsigned (bits : Nat) (value : String) : Option Nat :=
  let digits := match value.toList with
    | '+' :: rest => rest
    | digits => digits
  if digits ≠ [] ∧ digits.all Char.isDigit then
    let n := digits.foldl (fun n d => n * 10 + (d.toNat - '0'.toNat)) 0
    if n < 2 ^ bits then some n else none
  else none

def parseU16 (value : String) : Option UInt16 := (parseUnsigned 16 value).map .ofNat

def parseU32 (value : String) : Option UInt32 := (parseUnsigned 32 value).map .ofNat

def parseU64 (value : String) : Option UInt64 := (parseUnsigned 64 value).map .ofNat

def parseBool : String → Option Bool
  | "true" => some true
  | "false" => some false
  | _ => none

/-- A value that does not parse leaves the field as it was. -/
def applyRouterOverride (router : RouterConfig) (path value : String) : RouterConfig :=
  match splitn2 path with
  | "transport" :: _ => { router with transport := value }
  | "device_id" :: _ => { router with deviceId := (parseU32 value).getD router.deviceId }
  | "vendor_id" :: _ => { router with vendorId := (parseU16 value).getD router.vendorId }
  | "device_name" :: _ => { router with deviceName := value }
  | "lan" :: key :: _ =>
    let lan := router.lan
    match key with
    | "interface" => { router with lan := { lan with interface := value } }
    | "port" => { router with lan := { lan with port := (parseU16 value).getD lan.port } }
    | _ => router
  | "sc" :: key :: _ =>
    let sc := router.sc
    match key with
    | "hub_url" => { router with sc := { sc with hubUrl := value } }
    | "reconnect_initial_ms" =>
      { router with
        sc := { sc with reconnectInitialMs := (parseU64 value).getD sc.reconnectInitialMs } }
    | "reconnect_max_ms" =>
      { router with sc := { sc with reconnectMaxMs := (parseU64 value).getD sc.reconnectMaxMs } }
    | "reconnect_max_attempts" =>
      { router with
        sc := { sc with reconnectMaxAttempts := (parseU32 value).getD sc.reconnectMaxAttempts } }
    | "client_cert" => { router with sc := { sc with clientCert := some value } }
    | "client_key" => { router with sc := { sc with clientKey := some value } }
    | "ca_cert" => { router with sc := { sc with caCert := some value } }
    | "danger_accept_invalid_certs" =>
      { router with
        sc := { sc with dangerAcceptInvalidCerts := value == "true" || value == "1" } }
    | _ => router
  | "tailscale" :: key :: _ =>
    let tailscale := router.tailscale
    match key with
    | "interface" => { router with tailscale := { tailscale with interface := value } }
    | "port" =>
      { router with
        tailscale := { tailscale with port := (parseU16 value).getD tailscale.port } }
    | _ => router
  | _ => router

def applyWebOverride (web : WebConfig) (path value : String) : WebConfig :=
  match path with
  | "host" => { web with host := value }
  | "port" => { web with port := (parseU16 value).getD web.port }
  | "open_browser" => { web with openBrowser := (parseBool value).getD web.openBrowser }
  | _ => web

def applyHubOverride (hub : HubConfig) (path value : String) : HubConfig :=
  match path with
  | "bind" => { hub with bind := value }
  | "cert" => { hub with cert := some value }
  | "key" => { hub with key := some value }
  | "acme_domain" => { hub with acmeDomain := value }
  | "acme_cache" => { hub with acmeCache := value }
  | "acme_production" => { hub with acmeProduction := (parseBool value).getD hub.acmeProduction }
  | _ => hub

/-- The body of the loop of `apply_overrides`. -/
def applyOverride (config : BridgeConfig) (path value : String) : BridgeConfig :=
  match splitn2 path with
  | "router" :: rest :: _ => { config with router := applyRouterOverride config.router rest value }
  | "web" :: rest :: _ => { config with web := applyWebOverride config.web rest value }
  | "hub" :: rest :: _ => { config with hub := applyHubOverride config.hub rest value }
  | _ => config

def applyOverrides (config : BridgeConfig) (overrides : List (String × String)) : BridgeConfig :=
  overrides.foldl (fun c o => applyOverride c o.1 o.2) config

example : applyOverrides .generateDefault [("router.lan.port", "47809"), ("web.port", "x")] =
    { BridgeConfig.generateDefault with
      router := { RouterConfig.default with lan := ⟨"", 47809⟩ } } := by decide

/-- `BridgeConfig::load`: the configuration to run with, and the file, which is
written with the defaults when there is none. -/
def BridgeConfig.load (T : Toml) (overrides : List (String × String)) (o : SaveOutcome) :
    File → Except BridgeError BridgeConfig × File
  | .unreadable reason => (.error (.io reason), .unreadable reason)
  | .text content =>
    match T.fromStr content with
    | .error reason => (.error (.tomlDeserialize reason), .text content)
    | .ok doc => (.ok (applyOverrides doc.deserialize overrides), .text content)
  | .missing =>
    let config := generateDefault
    match config.save T o .missing with
    | (.error e, file) => (.error e, file)
    | (.ok (), file) => (.ok (applyOverrides config overrides), file)

/-- A configuration that loads is the one the file then holds, overridden. -/
theorem BridgeConfig.load_ok {T : Toml} (hT : T.Faithful) {overrides : List (String × String)}
    {o : SaveOutcome} {file after : File} {config : BridgeConfig}
    (h : load T overrides o file = (.ok config, after)) :
    ∃ held, after.config T = some held ∧ config = applyOverrides held overrides := by
  cases file with
  | unreadable reason => simp [load] at h
  | text content =>
    simp only [load] at h
    cases hd : T.fromStr content with
    | error reason => simp [hd] at h
    | ok doc =>
      obtain ⟨rfl, rfl⟩ := by simpa [hd] using h
      exact ⟨doc.deserialize, by simp [File.config, hd, Except.toOption], rfl⟩
  | missing =>
    simp only [load] at h
    cases hs : generateDefault.save T o .missing with
    | mk result file =>
      cases result with
      | error e => simp [hs] at h
      | ok u =>
        obtain ⟨rfl, rfl⟩ := by simpa [hs] using h
        exact ⟨generateDefault, save_ok hT hs, rfl⟩

end BacnetBridge
