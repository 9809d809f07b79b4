import BacnetBridge.BdtAddress
import BacnetBridge.LocalDevice
import BacnetBridge.Router

/-! `router.rs`, `transport.rs`, `bbmd_transport.rs` and `sc_transport.rs`: what
`start_router` makes of a configuration, and when it fails. Whatever it awaits is taken
to return: how long the hub's connection takes to come up has no limit in the source. -/
namespace BacnetBridge

/-! ## Transports -/

/-- `BdtEntry` of the transport crate. -/
structure BbmdBdtEntry where
  ip : Ipv4
  port : UInt16
  broadcastMask : Vector UInt8 4
  deriving DecidableEq, Repr

/-- `bbmd` is the broadcast distribution table that the BBMD was enabled with. -/
structure BipTransport where
  interface : Ipv4
  port : UInt16
  broadcast : Ipv4
  bbmd : Option (List BbmdBdtEntry)
  deriving DecidableEq, Repr

/-- How the other end's certificate is judged: not at all, or by the built-in roots and
those of a file. -/
inductive Verifier
  | noServerVerification
  | roots (added : List Octets)
  deriving DecidableEq, Repr

/-- `rustls::ClientConfig`. -/
structure ClientConfig where
  verifier : Verifier
  clientAuth : Option (List Octets × Octets)
  deriving DecidableEq, Repr

structure ScReconnectConfig where
  initialDelayMs : UInt64
  maxDelayMs : UInt64
  maxRetries : UInt32
  deriving DecidableEq, Repr

structure ScTransport where
  hubUrl : String
  tls : ClientConfig
  vmac : Vector UInt8 6
  deviceUuid : Vector UInt8 16
  reconnect : ScReconnectConfig
  deriving DecidableEq, Repr

inductive AnyTransport
  | bip (transport : BipTransport)
  | sc (transport : ScTransport)
  | loopback (mac : Octets)
  deriving DecidableEq, Repr

structure RouterPort where
  transport : AnyTransport
  networkNumber : UInt16
  deriving DecidableEq, Repr

/-- What start-up finds outside the program: files, certificates, sockets, chance, and
what the transport crate answers. -/
structure Outside where
  readFile : String → Except String Octets
  certs : Octets → Except String (List Octets)
  privateKey : Octets → Except String (Option Octets)
  /-- A root store takes the certificate. -/
  parsable : Octets → Bool
  clientAuth : List Octets → Octets → Except String Unit
  connect : String → ClientConfig → Except String Unit
  vmac : Vector UInt8 6
  deviceUuid : Vector UInt8 16
  /-- `resolve_local_ip`. -/
  localIp : Option Ipv4
  /-- `bbmd_state` of a transport that is not started yet: the BBMD state that it shares. -/
  bbmdState : BipTransport → Option Nat
  loopback : Except String Unit
  route : List RouterPort → Except String Unit

section Builders

variable (O : Outside)

def readPem (path : String) : Except BridgeError Octets := (O.readFile path).mapError .io

def loadCerts (path : String) : Except BridgeError (List Octets) := do
  let bytes ← readPem O path
  (O.certs bytes).mapError fun e =>
    .transport ("Failed to load certs from " ++ path ++ ": " ++ e)

def loadPrivateKey (path : String) : Except BridgeError Octets := do
  let bytes ← readPem O path
  match O.privateKey bytes with
  | .error e => .error (.transport ("Failed to load key from " ++ path ++ ": " ++ e))
  | .ok none => .error (.transport ("No private key found in " ++ path))
  | .ok (some key) => .ok key

/-- The certificates that `ca_cert` adds to the roots. -/
def caRoots : Option String → Except BridgeError (List Octets)
  | none => .ok []
  | some caPath => do
    let bytes ← readPem O caPath
    let caCerts ← (O.certs bytes).mapError fun e =>
      .transport ("Failed to load CA cert from " ++ caPath ++ ": " ++ e)
    let added := caCerts.filter O.parsable
    if added.length = 0 then
      .error (.transport ("No valid CA certs found in " ++ caPath))
    else .ok added

def buildClientTlsConfig (clientCert clientKey caCert : Option String)
    (dangerAcceptInvalidCerts : Bool) : Except BridgeError ClientConfig := do
  if dangerAcceptInvalidCerts then
    return ⟨.noServerVerification, none⟩
  else
    let added ← caRoots O caCert
    match clientCert, clientKey with
    | some certPath, some keyPath =>
      let certs ← loadCerts O certPath
      let key ← loadPrivateKey O keyPath
      (O.clientAuth certs key).mapError fun e => .transport ("TLS client auth config: " ++ e)
      return ⟨.roots added, some (certs, key)⟩
    | _, _ => return ⟨.roots added, none⟩

def buildScTransport (scConfig : ScConfig) (clientCert clientKey : Option String) :
    Except BridgeError AnyTransport := do
  let tls ← buildClientTlsConfig O clientCert clientKey scConfig.caCert
    scConfig.dangerAcceptInvalidCerts
  if scConfig.hubUrl.isEmpty then
    .error (.transport "SC hub_url is empty, cannot connect")
  else
    (O.connect scConfig.hubUrl tls).mapError fun e =>
      .transport ("SC WebSocket connect to " ++ scConfig.hubUrl ++ ": " ++ e)
    return .sc
      { hubUrl := scConfig.hubUrl
        tls
        vmac := O.vmac
        deviceUuid := O.deviceUuid
        reconnect :=
          ⟨scConfig.reconnectInitialMs, scConfig.reconnectMaxMs, scConfig.reconnectMaxAttempts⟩ }

def convertBdtEntry (entry : BdtEntry) : Except BridgeError BbmdBdtEntry := do
  return ⟨← parseIpv4 entry.ip, entry.port, entry.broadcastMask⟩

/-- `build_bbmd_transport` up to the handle that it returns beside the transport. -/
def tailscaleTransport (config : TailscaleConfig) : Except BridgeError BipTransport := do
  match Ipv4.fromStr config.interface with
  | none =>
    .error (.transport ("Invalid Tailscale interface IP '" ++ config.interface ++
      "': invalid IPv4 address syntax"))
  | some interface =>
    match config.bdt with
    | some bdt =>
      return ⟨interface, config.port, #v[255, 255, 255, 255], some (← bdt.mapM convertBdtEntry)⟩
    | none => return ⟨interface, config.port, #v[255, 255, 255, 255], none⟩

def buildBbmdTransport (config : TailscaleConfig) :
    Except BridgeError (AnyTransport × Option Nat) := do
  let transport ← tailscaleTransport config
  return (.bip transport, O.bbmdState transport)

/-- The transport to the other side, and its BBMD state. -/
def buildRemoteTransport (config : BridgeConfig) :
    Except BridgeError (AnyTransport × Option Nat) := do
  if config.router.transport = "sc" then
    let sc := config.router.sc
    return (← buildScTransport O sc sc.clientCert sc.clientKey, none)
  else if config.router.transport = "tailscale" then
    buildBbmdTransport O config.router.tailscale
  else
    .error (.transport ("Unknown transport mode: '" ++ config.router.transport ++
      "'. Expected 'sc' or 'tailscale'"))

/-! ## The router -/

def loopbackNetwork : UInt16 := 65520

def parseLanIp (interface : String) : Ipv4 :=
  if interface.isEmpty then #v[0, 0, 0, 0]
  else (Ipv4.fromStr interface).getD #v[0, 0, 0, 0]

def broadcastFromIp (ip : Ipv4) : Ipv4 :=
  if ip = #v[0, 0, 0, 0] then #v[255, 255, 255, 255] else ip.pop.push 255

def encodeBipMac (ip : Ipv4) (port : UInt16) : Octets :=
  ip.toList ++ [(port >>> 8).toUInt8, port.toUInt8]

def resolvedLanIp (lanIp : Ipv4) : Ipv4 :=
  if lanIp = #v[0, 0, 0, 0] then O.localIp.getD #v[127, 0, 0, 1] else lanIp

/-- A router that runs: its ports, its device with the device's address on the LAN, and
its `bbmd_state`. -/
structure StartedRouter where
  ports : List RouterPort
  device : LocalDeviceConfig
  lanMac : Octets
  bbmdState : Option Nat
  deriving DecidableEq, Repr

def lanTransport (config : BridgeConfig) : BipTransport where
  interface := #v[0, 0, 0, 0]
  port := config.router.lan.port
  broadcast := broadcastFromIp (parseLanIp config.router.lan.interface)
  bbmd := some []

def localDeviceConfig (config : BridgeConfig) : LocalDeviceConfig where
  deviceId := config.router.deviceId
  vendorId := config.router.vendorId
  deviceName := config.router.deviceName
  transportMode := config.router.transport
  localNetwork := loopbackNetwork
  localMac := [0x01, 0x02]

def routerPorts (config : BridgeConfig) (remote : AnyTransport) : List RouterPort :=
  [⟨.bip (lanTransport config), 1⟩, ⟨remote, 2⟩, ⟨.loopback [0x01, 0x01], loopbackNetwork⟩]

/-- The BBMD state is asked for before the router starts the transports, and that of the
remote one is dropped. -/
def startRouter (config : BridgeConfig) : Except BridgeError StartedRouter := do
  let lanIp := parseLanIp config.router.lan.interface
  let actualLanIp := resolvedLanIp O lanIp
  let (remote, _) ← buildRemoteTransport O config
  O.loopback.mapError fun e => .router ("loopback device start: " ++ e)
  let ports := routerPorts config remote
  (O.route ports).mapError .router
  return {
    ports
    device := localDeviceConfig config
    lanMac := encodeBipMac actualLanIp config.router.lan.port
    bbmdState := O.bbmdState (lanTransport config) }

end Builders

/-- How a start ends for the loop. -/
def StartOutcome.of : Except BridgeError StartedRouter → StartOutcome
  | .ok r => .ok r.bbmdState
  | .error e => .err e

/-! ## What comes of a configuration -/

section

variable {O : Outside} {config : BridgeConfig}

theorem mapError_eq_ok {ε ε' α : Type} {x : Except ε α} {f : ε → ε'} {a : α} :
    x.mapError f = .ok a ↔ x = .ok a := by
  cases x <;> simp [Except.mapError]

/-- `start_router` succeeds exactly if the transport to the other side is built, the
device's loopback starts, and the router takes the ports. -/
theorem startRouter_eq_ok {r : StartedRouter} : startRouter O config = .ok r ↔
    ∃ remote state, buildRemoteTransport O config = .ok (remote, state) ∧ O.loopback = .ok () ∧
      O.route (routerPorts config remote) = .ok () ∧
      r = ⟨routerPorts config remote, localDeviceConfig config,
        encodeBipMac (resolvedLanIp O (parseLanIp config.router.lan.interface))
          config.router.lan.port, O.bbmdState (lanTransport config)⟩ := by
  simp only [startRouter, bind_eq_ok, mapError_eq_ok, Prod.exists]
  constructor
  · rintro ⟨remote, state, hremote, _, hloopback, _, hroute, h⟩
    exact ⟨remote, state, hremote, hloopback, hroute, (Except.ok.inj h).symm⟩
  · rintro ⟨remote, state, hremote, hloopback, hroute, rfl⟩
    exact ⟨remote, state, hremote, (), hloopback, (), hroute, rfl⟩

theorem buildRemoteTransport_sc (h : config.router.transport = "sc") {remote : AnyTransport}
    {state : Option Nat} : buildRemoteTransport O config = .ok (remote, state) ↔
      buildScTransport O config.router.sc config.router.sc.clientCert
        config.router.sc.clientKey = .ok remote ∧ state = none := by
  simp only [buildRemoteTransport, if_pos h, bind_eq_ok]
  constructor
  · rintro ⟨transport, htransport, hreturn⟩
    cases hreturn
    exact ⟨htransport, rfl⟩
  · rintro ⟨htransport, rfl⟩
    exact ⟨remote, htransport, rfl⟩

theorem buildRemoteTransport_tailscale (h : config.router.transport = "tailscale")
    {remote : AnyTransport} {state : Option Nat} :
    buildRemoteTransport O config = .ok (remote, state) ↔
      ∃ transport, tailscaleTransport config.router.tailscale = .ok transport ∧
        remote = .bip transport ∧ state = O.bbmdState transport := by
  have hsc : config.router.transport ≠ "sc" := by
    rw [h]
    decide
  simp only [buildRemoteTransport, if_neg hsc, if_pos h, buildBbmdTransport, bind_eq_ok]
  constructor
  · rintro ⟨transport, htransport, hreturn⟩
    cases hreturn
    exact ⟨transport, htransport, rfl, rfl⟩
  · rintro ⟨transport, htransport, rfl, rfl⟩
    exact ⟨transport, htransport, rfl⟩

/-- Any other text names no transport. -/
theorem transport_of_remote {remote : AnyTransport} {state : Option Nat}
    (h : buildRemoteTransport O config = .ok (remote, state)) :
    config.router.transport = "sc" ∨ config.router.transport = "tailscale" := by
  unfold buildRemoteTransport at h
  split at h
  · exact .inl ‹_›
  · split at h
    · exact .inr ‹_›
    · cases h

theorem tailscaleTransport_ok {c : TailscaleConfig} {transport : BipTransport}
    (h : tailscaleTransport c = .ok transport) :
    c.interface = ipText transport.interface ∧ transport.port = c.port ∧
      transport.bbmd.isSome = c.bdt.isSome := by
  unfold tailscaleTransport at h
  split at h
  · cases h
  · rename_i interface hinterface
    have htext := fromStr_iff.mp hinterface
    split at h
    · rename_i bdt hbdt
      obtain ⟨table, -, hreturn⟩ := ok_of_bind h
      cases hreturn
      exact ⟨htext, rfl, by rw [hbdt]; rfl⟩
    · rename_i hbdt
      cases h
      refine ⟨htext, rfl, ?_⟩
      rw [hbdt]
      rfl

theorem buildScTransport_ok {c : ScConfig} {cert key : Option String} {remote : AnyTransport}
    (h : buildScTransport O c cert key = .ok remote) :
    ∃ sc : ScTransport, remote = .sc sc ∧ sc.hubUrl = c.hubUrl ∧ c.hubUrl ≠ "" ∧
      buildClientTlsConfig O cert key c.caCert c.dangerAcceptInvalidCerts = .ok sc.tls := by
  unfold buildScTransport at h
  obtain ⟨tls, htls, h⟩ := ok_of_bind h
  split at h
  · cases h
  · rename_i hurl
    obtain ⟨_, -, hreturn⟩ := ok_of_bind h
    cases hreturn
    exact ⟨_, rfl, rfl, by simpa [String.isEmpty_iff] using hurl, htls⟩

/-! ## TLS -/

/-- Nothing but the flag turns verification off, and the flag also drops the client's
certificate. -/
theorem buildClientTlsConfig_ok {cert key ca : Option String} {danger : Bool}
    {tls : ClientConfig} (h : buildClientTlsConfig O cert key ca danger = .ok tls) :
    (tls.verifier = .noServerVerification ↔ danger = true) ∧
      (tls.clientAuth.isSome ↔ danger = false ∧ cert.isSome ∧ key.isSome) := by
  unfold buildClientTlsConfig at h
  cases danger with
  | true =>
    obtain rfl := Except.ok.inj h
    simp
  | false =>
    obtain ⟨added, -, h⟩ := ok_of_bind h
    split at h
    · obtain ⟨certs, -, h⟩ := ok_of_bind h
      obtain ⟨pkey, -, h⟩ := ok_of_bind h
      obtain ⟨_, -, hreturn⟩ := ok_of_bind h
      cases hreturn
      simp
    · rename_i hmissing
      cases h
      cases cert with
      | none => simp
      | some certPath =>
        cases key with
        | none => simp
        | some keyPath => exact absurd rfl (hmissing certPath keyPath rfl)

/-- Whether a spoke verifies its hub, and whether it shows a certificate of its own. -/
def ScTransport.trust (t : ScTransport) : Bool × Bool :=
  (t.tls.verifier ≠ .noServerVerification, t.tls.clientAuth.isSome)

/-- The same as the configuration has it. The flag against verification also drops the
spoke's certificate. -/
def ScConfig.trust (c : ScConfig) : Bool × Bool :=
  (!c.dangerAcceptInvalidCerts,
    !c.dangerAcceptInvalidCerts && c.clientCert.isSome && c.clientKey.isSome)

theorem buildScTransport_trust {c : ScConfig} {sc : ScTransport}
    (h : buildClientTlsConfig O c.clientCert c.clientKey c.caCert c.dangerAcceptInvalidCerts =
      .ok sc.tls) : sc.trust = c.trust := by
  obtain ⟨hverifier, hauth⟩ := buildClientTlsConfig_ok h
  refine Prod.ext ?_ ?_
  · simp [ScTransport.trust, ScConfig.trust, hverifier]
  · rw [Bool.eq_iff_iff]
    simp [ScTransport.trust, ScConfig.trust, hauth, and_assoc]

end

/-- A spoke of the router starts with the trust that is configured. -/
theorem startRouter_trust {O : Outside} {config : BridgeConfig} {r : StartedRouter}
    (h : startRouter O config = .ok r) {sc : ScTransport} (hport : r.ports[1]? = some ⟨.sc sc, 2⟩) :
    sc.trust = config.router.sc.trust := by
  obtain ⟨remote, state, hremote, -, -, rfl⟩ := startRouter_eq_ok.mp h
  obtain rfl : remote = .sc sc := by simpa [routerPorts] using hport
  rcases transport_of_remote hremote with hsc | hts
  · obtain ⟨hbuilt, -⟩ := (buildRemoteTransport_sc hsc).mp hremote
    obtain ⟨sc', hsame, -, -, htls⟩ := buildScTransport_ok hbuilt
    obtain rfl := AnyTransport.sc.inj hsame
    exact buildScTransport_trust htls
  · obtain ⟨_, -, hbip, -⟩ := (buildRemoteTransport_tailscale hts).mp hremote
    cases hbip

/-- An outside without files in which everything else goes well. No BBMD has a state
before its transport is started. -/
def plainOutside : Outside where
  readFile _ := .error "No such file or directory (os error 2)"
  certs _ := .ok []
  privateKey _ := .ok none
  parsable _ := false
  clientAuth _ _ := .ok ()
  connect _ _ := .ok ()
  vmac := .replicate 6 0
  deviceUuid := .replicate 16 0
  localIp := none
  bbmdState _ := none
  loopback := .ok ()
  route _ := .ok ()

/-- The certificate and the key that are named do not exist. -/
def dangerousConfig : BridgeConfig :=
  { BridgeConfig.generateDefault with
    router.sc.hubUrl := "wss://hub.example.com"
    router.sc.clientCert := some "spoke.pem"
    router.sc.clientKey := some "spoke.key"
    router.sc.dangerAcceptInvalidCerts := true }

end BacnetBridge
