import BacnetBridge.Environment

/-! A configuration that is saved, then loaded from what was written, with keys of
the document taken out by hand or not. -/
namespace BacnetBridge

/-! ## Removing keys -/

/-- What can be taken out of the document without leaving it invalid: the scalar
fields and the broadcast table. -/
inductive Field
  | scalar (k : Key)
  | bdt
  deriving DecidableEq, Repr

def cut {α : Type} (removed : Bool) (value : Option α) : Option α :=
  if removed then none else value

theorem getD_cut {α : Type} (removed : Bool) (value default : α) :
    (cut removed (some value)).getD default = if removed then default else value := by
  cases removed <;> rfl

theorem or_cut {α : Type} (removed : Bool) (value : Option α) :
    (cut removed value).or none = if removed then none else value := by
  cases removed <;> cases value <;> rfl

section

variable (removed : Field → Bool)

def LanDoc.without (d : LanDoc) : LanDoc where
  interface := cut (removed (.scalar .lanInterface)) d.interface
  port := cut (removed (.scalar .lanPort)) d.port

def ScDoc.without (d : ScDoc) : ScDoc where
  hubUrl := cut (removed (.scalar .hubUrl)) d.hubUrl
  reconnectInitialMs := cut (removed (.scalar .reconnectInitialMs)) d.reconnectInitialMs
  reconnectMaxMs := cut (removed (.scalar .reconnectMaxMs)) d.reconnectMaxMs
  reconnectMaxAttempts := cut (removed (.scalar .reconnectMaxAttempts)) d.reconnectMaxAttempts
  clientCert := cut (removed (.scalar .clientCert)) d.clientCert
  clientKey := cut (removed (.scalar .clientKey)) d.clientKey
  caCert := cut (removed (.scalar .caCert)) d.caCert
  dangerAcceptInvalidCerts :=
    cut (removed (.scalar .dangerAcceptInvalidCerts)) d.dangerAcceptInvalidCerts

def TailscaleDoc.without (d : TailscaleDoc) : TailscaleDoc where
  interface := cut (removed (.scalar .tailscaleInterface)) d.interface
  port := cut (removed (.scalar .tailscalePort)) d.port
  bdt := cut (removed .bdt) d.bdt

def RouterDoc.without (d : RouterDoc) : RouterDoc where
  transport := cut (removed (.scalar .transport)) d.transport
  deviceId := cut (removed (.scalar .deviceId)) d.deviceId
  vendorId := cut (removed (.scalar .vendorId)) d.vendorId
  deviceName := cut (removed (.scalar .deviceName)) d.deviceName
  lan := d.lan.map (LanDoc.without removed)
  sc := d.sc.map (ScDoc.without removed)
  tailscale := d.tailscale.map (TailscaleDoc.without removed)

def WebDoc.without (d : WebDoc) : WebDoc where
  host := cut (removed (.scalar .host)) d.host
  port := cut (removed (.scalar .webPort)) d.port
  openBrowser := cut (removed (.scalar .openBrowser)) d.openBrowser

def HubDoc.without (d : HubDoc) : HubDoc where
  bind := cut (removed (.scalar .bind)) d.bind
  cert := cut (removed (.scalar .cert)) d.cert
  key := cut (removed (.scalar .key)) d.key
  acmeDomain := cut (removed (.scalar .acmeDomain)) d.acmeDomain
  acmeCache := cut (removed (.scalar .acmeCache)) d.acmeCache
  acmeProduction := cut (removed (.scalar .acmeProduction)) d.acmeProduction

/-- The document without these keys; its tables stay, empty if need be. -/
def BridgeDoc.without (d : BridgeDoc) : BridgeDoc where
  router := d.router.map (RouterDoc.without removed)
  web := d.web.map (WebDoc.without removed)
  hub := d.hub.map (HubDoc.without removed)

end

/-! ## What is left -/

/-- The configuration with the removed keys at their defaults. -/
structure Degraded (removed : Field → Bool) (c c' : BridgeConfig) : Prop where
  scalar : ∀ k, c'.view k =
    if removed (.scalar k) then BridgeConfig.generateDefault.view k else c.view k
  bdt : c'.bdt = if removed .bdt then BridgeConfig.generateDefault.bdt else c.bdt

/-- There is no other. -/
theorem Degraded.unique {removed : Field → Bool} {c c' c'' : BridgeConfig}
    (h : Degraded removed c c') (h' : Degraded removed c c'') : c' = c'' := by
  apply BridgeConfig.ext_view
  · funext k
    rw [h.scalar, h'.scalar]
  · rw [h.bdt, h'.bdt]

/-- The one scalar that is skipped by its value: `false`, which is its default. -/
theorem getD_cut_danger (removed danger : Bool) :
    (cut removed (if isFalse danger then none else some danger)).getD
      ScConfig.default.dangerAcceptInvalidCerts =
        if removed then ScConfig.default.dangerAcceptInvalidCerts else danger := by
  cases removed <;> cases danger <;> rfl

theorem degraded_without (removed : Field → Bool) (c : BridgeConfig) :
    Degraded removed c (c.serialize.without removed).deserialize where
  scalar k := by
    cases k with
    | clientCert | clientKey | caCert | cert | key => exact or_cut ..
    | dangerAcceptInvalidCerts => exact getD_cut_danger ..
    | _ => exact getD_cut ..
  bdt := or_cut ..

/-! ## The file -/

theorem collectEnvOverrides_none (unicode : String → String) {vars : List (String × String)}
    (h : vars.filter IsOverride = []) : collectEnvOverrides unicode vars = [] := by
  unfold collectEnvOverrides
  rw [h]
  rfl

theorem load_text {T : Toml} {content : String} {doc : BridgeDoc}
    (h : T.fromStr content = .ok doc) (o : SaveOutcome) :
    BridgeConfig.load T [] o (.text content) = (.ok doc.deserialize, .text content) := by
  simp [BridgeConfig.load, h, applyOverrides]

theorem save_text {T : Toml} {c : BridgeConfig} {o : SaveOutcome} {file after : File}
    (h : c.save T o file = (.ok (), after)) :
    ∃ content, after = .text content ∧ T.toStringPretty c.serialize = .ok content := by
  unfold BridgeConfig.save at h
  split at h
  · cases h
  · split at h
    · cases h
    · rename_i content hcontent
      cases h
      exact ⟨content, rfl, hcontent⟩
  · split at h <;> cases h

/-- A saved configuration loads as it was, and with keys taken out of what was
written, as it was but for these keys, which take their defaults. -/
theorem config_file_round_trip {T : Toml} (hT : T.Faithful) {c : BridgeConfig} {o : SaveOutcome}
    {file after : File} (hsave : c.save T o file = (.ok (), after)) (unicode : String → String)
    {vars : List (String × String)} (hvars : vars.filter IsOverride = []) (o' : SaveOutcome) :
    BridgeConfig.load T (collectEnvOverrides unicode vars) o' after = (.ok c, after) ∧
    ∃ content doc, after = .text content ∧ T.fromStr content = .ok doc ∧
      ∀ removed edited, T.fromStr edited = .ok (doc.without removed) →
        ∃ c', BridgeConfig.load T (collectEnvOverrides unicode vars) o' (.text edited) =
          (.ok c', .text edited) ∧ Degraded removed c c' := by
  obtain ⟨content, rfl, hwritten⟩ := save_text hsave
  have hread : T.fromStr content = .ok c.serialize := hT _ _ hwritten
  rw [collectEnvOverrides_none unicode hvars]
  constructor
  · rw [load_text hread, BridgeConfig.deserialize_serialize]
  · refine ⟨content, c.serialize, rfl, hread, ?_⟩
    intro removed edited hedited
    exact ⟨_, load_text hedited o', degraded_without removed c⟩

/-- A dashboard on another host and port. -/
def localDashboard : BridgeConfig :=
  { BridgeConfig.generateDefault with web := ⟨"127.0.0.1", 8080, false⟩ }

/-- A codec for its document, whole and without the port. -/
def dashboardTexts : Toml :=
  .ofTable [(localDashboard.serialize, "saved"),
    (localDashboard.serialize.without fun field => field = .scalar .webPort, "port removed")]

/-- Without its key the port is the default one again, and nothing else is. -/
theorem removed_port_is_default :
    ∃ c', BridgeConfig.load dashboardTexts (collectEnvOverrides id [("PATH", "/bin")]) .written
        (.text "port removed") = (.ok c', .text "port removed") ∧
      c'.web = ⟨"127.0.0.1", 28821, false⟩ := by
  have hfaithful : dashboardTexts.Faithful := Toml.faithful_ofTable (by decide)
  have hsave : localDashboard.save dashboardTexts .written .missing = (.ok (), .text "saved") := by
    decide
  obtain ⟨-, content, doc, hafter, hread, hremoved⟩ := config_file_round_trip hfaithful hsave id
    (by decide : [("PATH", "/bin")].filter IsOverride = []) .written
  obtain rfl := File.text.inj hafter
  obtain rfl : localDashboard.serialize = doc := Except.ok.inj hread
  obtain ⟨c', hload, hdegraded⟩ := hremoved (fun field => field = .scalar .webPort)
    "port removed" (by decide)
  refine ⟨c', hload, ?_⟩
  obtain rfl := hdegraded.unique (degraded_without _ localDashboard)
  decide

end BacnetBridge
