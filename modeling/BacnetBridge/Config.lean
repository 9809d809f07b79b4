import BacnetBridge.State

/-! `config.rs`: the configuration, its defaults, the document it is saved as,
and the overrides applied to it at start-up. -/
namespace BacnetBridge

structure LanConfig where
  interface : String
  port : UInt16
  deriving DecidableEq, Repr

structure ScConfig where
  hubUrl : String
  reconnectInitialMs : UInt64
  reconnectMaxMs : UInt64
  reconnectMaxAttempts : UInt32
  clientCert : Option String
  clientKey : Option String
  caCert : Option String
  dangerAcceptInvalidCerts : Bool
  deriving DecidableEq, Repr

structure BdtEntry where
  ip : String
  port : UInt16
  broadcastMask : Vector UInt8 4
  deriving DecidableEq, Repr

structure TailscaleConfig where
  interface : String
  port : UInt16
  bdt : Option (List BdtEntry)
  deriving DecidableEq, Repr

structure RouterConfig where
  transport : String
  deviceId : UInt32
  vendorId : UInt16
  deviceName : String
  lan : LanConfig
  sc : ScConfig
  tailscale : TailscaleConfig
  deriving DecidableEq, Repr

structure WebConfig where
  host : String
  port : UInt16
  openBrowser : Bool
  deriving DecidableEq, Repr

structure HubConfig where
  bind : String
  cert : Option String
  key : Option String
  acmeDomain : String
  acmeCache : String
  acmeProduction : Bool
  deriving DecidableEq, Repr

structure BridgeConfig where
  router : RouterConfig
  web : WebConfig
  hub : HubConfig
  deriving DecidableEq, Repr

def LanConfig.default : LanConfig := ⟨"", 47808⟩

def ScConfig.default : ScConfig := ⟨"", 1000, 30000, 0, none, none, none, false⟩

def TailscaleConfig.default : TailscaleConfig := ⟨"", 20000, none⟩

def RouterConfig.default : RouterConfig :=
  ⟨"sc", 4194303, 15, "BACnet-Bridge", .default, .default, .default⟩

def WebConfig.default : WebConfig := ⟨"0.0.0.0", 28821, true⟩

def HubConfig.default : HubConfig := ⟨"0.0.0.0:8443", none, none, "", "./acme-cache", false⟩

def BridgeConfig.generateDefault : BridgeConfig := ⟨.default, .default, .default⟩

/-! ## The document -/

/-- The keys of a table that are present, with their values: what serde hands
to the `toml` crate and takes from it. -/
structure LanDoc where
  interface : Option String
  port : Option UInt16
  deriving DecidableEq, Repr

structure ScDoc where
  hubUrl : Option String
  reconnectInitialMs : Option UInt64
  reconnectMaxMs : Option UInt64
  reconnectMaxAttempts : Option UInt32
  clientCert : Option String
  clientKey : Option String
  caCert : Option String
  dangerAcceptInvalidCerts : Option Bool
  deriving DecidableEq, Repr

structure TailscaleDoc where
  interface : Option String
  port : Option UInt16
  bdt : Option (List BdtEntry)
  deriving DecidableEq, Repr

structure RouterDoc where
  transport : Option String
  deviceId : Option UInt32
  vendorId : Option UInt16
  deviceName : Option String
  lan : Option LanDoc
  sc : Option ScDoc
  tailscale : Option TailscaleDoc
  deriving DecidableEq, Repr

structure WebDoc where
  host : Option String
  port : Option UInt16
  openBrowser : Option Bool
  deriving DecidableEq, Repr

structure HubDoc where
  bind : Option String
  cert : Option String
  key : Option String
  acmeDomain : Option String
  acmeCache : Option String
  acmeProduction : Option Bool
  deriving DecidableEq, Repr

structure BridgeDoc where
  router : Option RouterDoc
  web : Option WebDoc
  hub : Option HubDoc
  deriving DecidableEq, Repr

def isFalse (v : Bool) : Bool := !v

def LanConfig.serialize (c : LanConfig) : LanDoc := ⟨some c.interface, some c.port⟩

/-- `Option` fields are skipped when `None`, the danger flag when `false`. -/
def ScConfig.serialize (c : ScConfig) : ScDoc :=
  ⟨some c.hubUrl, some c.reconnectInitialMs, some c.reconnectMaxMs, some c.reconnectMaxAttempts,
    c.clientCert, c.clientKey, c.caCert,
    if isFalse c.dangerAcceptInvalidCerts then none else some c.dangerAcceptInvalidCerts⟩

def TailscaleConfig.serialize (c : TailscaleConfig) : TailscaleDoc :=
  ⟨some c.interface, some c.port, c.bdt⟩

def RouterConfig.serialize (c : RouterConfig) : RouterDoc :=
  ⟨some c.transport, some c.deviceId, some c.vendorId, some c.deviceName,
    some c.lan.serialize, some c.sc.serialize, some c.tailscale.serialize⟩

def WebConfig.serialize (c : WebConfig) : WebDoc := ⟨some c.host, some c.port, some c.openBrowser⟩

def HubConfig.serialize (c : HubConfig) : HubDoc :=
  ⟨some c.bind, c.cert, c.key, some c.acmeDomain, some c.acmeCache, some c.acmeProduction⟩

def BridgeConfig.serialize (c : BridgeConfig) : BridgeDoc :=
  ⟨some c.router.serialize, some c.web.serialize, some c.hub.serialize⟩

/-- `#[serde(default)]` on the struct: a missing key takes the value it has in
the struct's `Default`. -/
def LanDoc.deserialize (d : LanDoc) : LanConfig :=
  ⟨d.interface.getD LanConfig.default.interface, d.port.getD LanConfig.default.port⟩

def ScDoc.deserialize (d : ScDoc) : ScConfig :=
  ⟨d.hubUrl.getD ScConfig.default.hubUrl,
    d.reconnectInitialMs.getD ScConfig.default.reconnectInitialMs,
    d.reconnectMaxMs.getD ScConfig.default.reconnectMaxMs,
    d.reconnectMaxAttempts.getD ScConfig.default.reconnectMaxAttempts,
    d.clientCert.or ScConfig.default.clientCert, d.clientKey.or ScConfig.default.clientKey,
    d.caCert.or ScConfig.default.caCert,
    d.dangerAcceptInvalidCerts.getD ScConfig.default.dangerAcceptInvalidCerts⟩

def TailscaleDoc.deserialize (d : TailscaleDoc) : TailscaleConfig :=
  ⟨d.interface.getD TailscaleConfig.default.interface, d.port.getD TailscaleConfig.default.port,
    d.bdt.or TailscaleConfig.default.bdt⟩

def RouterDoc.deserialize (d : RouterDoc) : RouterConfig :=
  ⟨d.transport.getD RouterConfig.default.transport, d.deviceId.getD RouterConfig.default.deviceId,
    d.vendorId.getD RouterConfig.default.vendorId,
    d.deviceName.getD RouterConfig.default.deviceName,
    (d.lan.map LanDoc.deserialize).getD RouterConfig.default.lan,
    (d.sc.map ScDoc.deserialize).getD RouterConfig.default.sc,
    (d.tailscale.map TailscaleDoc.deserialize).getD RouterConfig.default.tailscale⟩

def WebDoc.deserialize (d : WebDoc) : WebConfig :=
  ⟨d.host.getD WebConfig.default.host, d.port.getD WebConfig.default.port,
    d.openBrowser.getD WebConfig.default.openBrowser⟩

def HubDoc.deserialize (d : HubDoc) : HubConfig :=
  ⟨d.bind.getD HubConfig.default.bind, d.cert.or HubConfig.default.cert,
    d.key.or HubConfig.default.key, d.acmeDomain.getD HubConfig.default.acmeDomain,
    d.acmeCache.getD HubConfig.default.acmeCache,
    d.acmeProduction.getD HubConfig.default.acmeProduction⟩

def BridgeDoc.deserialize (d : BridgeDoc) : BridgeConfig :=
  ⟨(d.router.map RouterDoc.deserialize).getD BridgeConfig.generateDefault.router,
    (d.web.map WebDoc.deserialize).getD BridgeConfig.generateDefault.web,
    (d.hub.map HubDoc.deserialize).getD BridgeConfig.generateDefault.hub⟩

/-- What is skipped when a configuration is written is exactly what its
default restores. -/
@[simp] theorem ScConfig.deserialize_serialize (c : ScConfig) : c.serialize.deserialize = c := by
  obtain ⟨_, _, _, _, _, _, _, danger⟩ := c
  cases danger <;> simp [serialize, ScDoc.deserialize, isFalse, ScConfig.default]

@[simp] theorem RouterConfig.deserialize_serialize (c : RouterConfig) :
    c.serialize.deserialize = c := by
  simp [serialize, RouterDoc.deserialize, LanConfig.serialize, LanDoc.deserialize,
    TailscaleConfig.serialize, TailscaleDoc.deserialize, TailscaleConfig.default]

@[simp] theorem BridgeConfig.deserialize_serialize (c : BridgeConfig) :
    c.serialize.deserialize = c := by
  simp [serialize, BridgeDoc.deserialize, WebConfig.serialize, WebDoc.deserialize,
    HubConfig.serialize, HubDoc.deserialize, HubConfig.default]

/-! ## The file -/

/-- The `toml` crate: text from a document and a document from text. -/
structure Toml where
  toStringPretty : BridgeDoc → Except String String
  fromStr : String → Except String BridgeDoc

/-- Text written by the crate reads back as the document it was written from. -/
def Toml.Faithful (T : Toml) : Prop :=
  ∀ d text, T.toStringPretty d = .ok text → T.fromStr text = .ok d

/-- A codec that knows finitely many documents, each with its text. -/
def Toml.ofTable (table : List (BridgeDoc × String)) : Toml where
  toStringPretty doc :=
    match table.find? (·.1 == doc) with
    | some entry => .ok entry.2
    | none => .error "unknown document"
  fromStr content :=
    match table.find? (·.2 == content) with
    | some entry => .ok entry.1
    | none => .error "unknown text"

theorem Toml.faithful_ofTable {table : List (BridgeDoc × String)}
    (h : ∀ e ∈ table, ∀ e' ∈ table, e.2 = e'.2 → e.1 = e'.1) : (ofTable table).Faithful := by
  intro doc text hw
  simp only [ofTable] at hw ⊢
  split at hw
  · rename_i entry hfound
    obtain rfl := Except.ok.inj hw
    have hmem := List.mem_of_find?_eq_some hfound
    have hdoc : entry.1 = doc := by simpa using List.find?_some hfound
    cases hback : table.find? (·.2 == entry.2) with
    | none => simpa using List.find?_eq_none.mp hback entry hmem
    | some entry' =>
      have htext : entry'.2 = entry.2 := by simpa using List.find?_some hback
      exact congrArg _ ((h _ (List.mem_of_find?_eq_some hback) _ hmem htext).trans hdoc)
  · cases hw

/-- What is found at the configuration path. -/
inductive File
  | missing
  | unreadable (reason : String)
  | text (content : String)
  deriving DecidableEq, Repr

/-- How the file system answers one `save`. A failed write can leave anything. -/
inductive SaveOutcome
  | written
  | createDirFailed (reason : String)
  | writeFailed (reason : String) (left : File)
  deriving DecidableEq, Repr

/-- `BridgeConfig::save`: the result, and the file afterwards. -/
def BridgeConfig.save (T : Toml) (c : BridgeConfig) (o : SaveOutcome) (file : File) :
    Except BridgeError Unit × File :=
  match o with
  | .createDirFailed reason => (.error (.io reason), file)
  | .written =>
    match T.toStringPretty c.serialize with
    | .error reason => (.error (.tomlSerialize reason), file)
    | .ok content => (.ok (), .text content)
  | .writeFailed reason left =>
    match T.toStringPretty c.serialize with
    | .error reason => (.error (.tomlSerialize reason), file)
    | .ok _ => (.error (.io reason), left)

/-- The configuration that the file holds, before any override. -/
def File.config (T : Toml) : File → Option BridgeConfig
  | .text content => (T.fromStr content).toOption.map BridgeDoc.deserialize
  | _ => none

/-- A save that succeeds leaves the configuration in the file. -/
theorem BridgeConfig.save_ok {T : Toml} (hT : T.Faithful) {c : BridgeConfig} {o : SaveOutcome}
    {file after : File} (h : c.save T o file = (.ok (), after)) : after.config T = some c := by
  unfold save at h
  cases o with
  | createDirFailed reason => simp at h
  | written =>
    cases ht : T.toStringPretty c.serialize with
    | error reason => simp [ht] at h
    | ok content =>
      obtain rfl : File.text content = after := by simpa [ht] using h
      simp [File.config, hT _ _ ht, Except.toOption]
  | writeFailed reason left =>
    cases ht : T.toStringPretty c.serialize with
    | error reason => simp [ht] at h
    | ok content => simp [ht] at h

end BacnetBridge
