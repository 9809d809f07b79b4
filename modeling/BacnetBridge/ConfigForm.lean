import BacnetBridge.Config
import BacnetBridge.JavaScript

/-! `app.js`: the form of the dashboard that shows the configuration and saves it. -/
namespace BacnetBridge

open JavaScript (Value Number)

/-! ## The configuration as it is served -/

def jsNumber (n : Nat) : Value := .number (.toDouble n)

/-- The keys that are there. -/
def jsObject (entries : List (String × Option Value)) : Value :=
  .object (entries.filterMap fun entry => entry.2.map (entry.1, ·))

def LanDoc.toJs (d : LanDoc) : Value := jsObject [
  ("interface", d.interface.map .string),
  ("port", d.port.map fun port => jsNumber port.toNat)]

def ScDoc.toJs (d : ScDoc) : Value := jsObject [
  ("hub_url", d.hubUrl.map .string),
  ("reconnect_initial_ms", d.reconnectInitialMs.map fun ms => jsNumber ms.toNat),
  ("reconnect_max_ms", d.reconnectMaxMs.map fun ms => jsNumber ms.toNat),
  ("reconnect_max_attempts", d.reconnectMaxAttempts.map fun n => jsNumber n.toNat),
  ("client_cert", d.clientCert.map .string),
  ("client_key", d.clientKey.map .string),
  ("ca_cert", d.caCert.map .string),
  ("danger_accept_invalid_certs", d.dangerAcceptInvalidCerts.map .boolean)]

def BdtEntry.toJs (e : BdtEntry) : Value := jsObject [
  ("ip", some (.string e.ip)),
  ("port", some (jsNumber e.port.toNat)),
  ("broadcast_mask", some (.array (e.broadcastMask.toList.map fun b => jsNumber b.toNat)))]

def TailscaleDoc.toJs (d : TailscaleDoc) : Value := jsObject [
  ("interface", d.interface.map .string),
  ("port", d.port.map fun port => jsNumber port.toNat),
  ("bdt", d.bdt.map fun bdt => .array (bdt.map BdtEntry.toJs))]

def RouterDoc.toJs (d : RouterDoc) : Value := jsObject [
  ("transport", d.transport.map .string),
  ("device_id", d.deviceId.map fun id => jsNumber id.toNat),
  ("vendor_id", d.vendorId.map fun id => jsNumber id.toNat),
  ("device_name", d.deviceName.map .string),
  ("lan", d.lan.map LanDoc.toJs),
  ("sc", d.sc.map ScDoc.toJs),
  ("tailscale", d.tailscale.map TailscaleDoc.toJs)]

def WebDoc.toJs (d : WebDoc) : Value := jsObject [
  ("host", d.host.map .string),
  ("port", d.port.map fun port => jsNumber port.toNat),
  ("open_browser", d.openBrowser.map .boolean)]

def HubDoc.toJs (d : HubDoc) : Value := jsObject [
  ("bind", d.bind.map .string),
  ("cert", d.cert.map .string),
  ("key", d.key.map .string),
  ("acme_domain", d.acmeDomain.map .string),
  ("acme_cache", d.acmeCache.map .string),
  ("acme_production", d.acmeProduction.map .boolean)]

/-- What GET `/api/config` answers, once it is parsed. -/
def BridgeConfig.served (c : BridgeConfig) : Value :=
  let d := c.serialize
  jsObject [
    ("router", d.router.map RouterDoc.toJs),
    ("web", d.web.map WebDoc.toJs),
    ("hub", d.hub.map HubDoc.toJs)]

/-! ## The form -/

inductive FieldType
  | number
  | text
  | select (options : List String)
  | checkbox
  deriving DecidableEq, Repr

structure FormField where
  key : String
  type : FieldType
  deriving DecidableEq, Repr

/-- The fields of `renderConfigForm`, section by section. -/
def formFields : List FormField := [
  ⟨"router.device_id", .number⟩,
  ⟨"router.vendor_id", .number⟩,
  ⟨"router.device_name", .text⟩,
  ⟨"router.transport", .select ["sc", "tailscale"]⟩,
  ⟨"router.lan.interface", .text⟩,
  ⟨"router.lan.port", .number⟩,
  ⟨"router.sc.hub_url", .text⟩,
  ⟨"router.sc.reconnect_initial_ms", .number⟩,
  ⟨"router.sc.reconnect_max_ms", .number⟩,
  ⟨"router.sc.reconnect_max_attempts", .number⟩,
  ⟨"router.tailscale.interface", .text⟩,
  ⟨"router.tailscale.port", .number⟩,
  ⟨"web.host", .text⟩,
  ⟨"web.port", .number⟩,
  ⟨"web.open_browser", .checkbox⟩]

/-- What `saveConfig` reads of an input: `el.checked` of a checkbox, `el.value` of others. -/
inductive Control
  | checked (value : Bool)
  | value (text : String)
  deriving DecidableEq, Repr

/-- What a browser makes of `value="…"` with that text spliced in, by the type of the
input: the value that the input then has. -/
abbrev Browser := FieldType → String → String

def pathKeys (path : String) : List String := (path.toList.splitOn '.').map String.ofList

def getNestedValue (obj : Value) (path : String) : Value :=
  (pathKeys path).foldl (fun o k => if o.truthy then (o.get k).toOption.getD .undefined
    else .undefined) obj

def Control.ofField (B : Browser) (config : Value) (field : FormField) : Control :=
  let val := getNestedValue config field.key
  match field.type with
  -- With no option selected the first one is.
  | .select options => .value ((options.find? val.isText).getD (options.headD ""))
  | .checkbox => .checked val.truthy
  | type => .value (B type (if val.isNullish then "" else val.toText))

/-- The inputs of the form in their order, each with its key. -/
def renderConfigForm (B : Browser) (config : Value) : List (String × Control) :=
  formFields.map fun field => (field.key, .ofField B config field)

/-! ## Saving -/

def Control.toNumber : Control → Number
  | .checked b => .finite (if b then 1 else 0)
  | .value text => .ofString text

/-- `val.includes(…)`, which Booleans do not have. -/
def Control.includes (c : Char) : Control → Except JavaScript.Error Bool
  | .checked _ => .error .typeError
  | .value text => .ok (text.toList.contains c)

def Control.toValue : Control → Value
  | .checked b => .boolean b
  | .value text => .string text

/-- What `setNestedValue` stores for `val` in place of `old`. -/
def storedValue (old : Value) (val : Control) : Except JavaScript.Error Value :=
  if val = .value "true" then .ok (.boolean true)
  else if val = .value "false" then .ok (.boolean false)
  else if val = .value "" ∧ old.isString then .ok (.string "")
  else if val ≠ .value "" ∧ val.toNumber ≠ .nan then do
    return if ← val.includes '.' then val.toValue else .number val.toNumber
  else .ok val.toValue

/-- `if (!o[key]) o[key] = {}`. -/
def ensureObject (o : Value) (key : String) : Except JavaScript.Error Value := do
  if (← o.get key).truthy then return o else o.put key (.object [])

/-- The loop over the keys: what is changed below a key is changed in place. -/
def setKeys (o : Value) (keys : List String) (val : Control) : Except JavaScript.Error Value :=
  match keys with
  | [] => .ok o
  | [key] => do o.put key (← storedValue (← o.get key) val)
  | key :: rest => do
    let o ← ensureObject o key
    o.put key (← setKeys (← o.get key) rest val)

def setNestedValue (obj : Value) (path : String) (val : Control) : Except JavaScript.Error Value :=
  setKeys obj (pathKeys path) val

/-- The configuration that `saveConfig` sends for the form as it was rendered. -/
def saveConfig (B : Browser) (configData : Value) : Except JavaScript.Error Value :=
  (renderConfigForm B configData).foldlM (fun config entry =>
    setNestedValue config entry.1 entry.2) configData

/-- Saving the form untouched leaves the configuration as it was loaded. -/
def SavedUnchanged (B : Browser) (c : BridgeConfig) : Prop :=
  saveConfig B c.served = .ok c.served

/-! ## What a field stores -/

/-- A Boolean is a number, and is asked for its points. -/
theorem storedValue_checked (old : Value) (b : Bool) :
    storedValue old (.checked b) = .error .typeError := by
  cases b <;> rfl

theorem setKeys_checked {keys : List String} (h : keys ≠ []) (o saved : Value) (b : Bool) :
    setKeys o keys (.checked b) ≠ .ok saved := by
  induction keys generalizing o saved with
  | nil => exact absurd rfl h
  | cons key rest ih =>
    intro hsaved
    cases rest with
    | nil =>
      obtain ⟨old, -, hsaved⟩ := bind_eq_ok.mp hsaved
      obtain ⟨value, hvalue, -⟩ := bind_eq_ok.mp hsaved
      cases (storedValue_checked old b).symm.trans hvalue
    | cons next rest =>
      obtain ⟨o', -, hsaved⟩ := bind_eq_ok.mp hsaved
      obtain ⟨child, -, hsaved⟩ := bind_eq_ok.mp hsaved
      obtain ⟨stored, hstored, -⟩ := bind_eq_ok.mp hsaved
      exact ih (List.cons_ne_nil next rest) child stored hstored

theorem setNestedValue_checked (obj saved : Value) (path : String) (b : Bool) :
    setNestedValue obj path (.checked b) ≠ .ok saved := by
  have hkeys : pathKeys path ≠ [] := by simp [pathKeys]
  exact setKeys_checked hkeys obj saved b

/-! ## What saving does -/

/-- No list of inputs with a checkbox among them is saved. -/
theorem saveAll_checked {inputs : List (String × Control)} {path : String} {b : Bool}
    (h : (path, .checked b) ∈ inputs) (config saved : Value) :
    inputs.foldlM (fun config entry => setNestedValue config entry.1 entry.2) config ≠
      .ok saved := by
  induction inputs generalizing config with
  | nil => cases h
  | cons entry inputs ih =>
    intro hsaved
    obtain ⟨next, hnext, hsaved⟩ := bind_eq_ok.mp hsaved
    cases h with
    | head => exact setNestedValue_checked config next path b hnext
    | tail _ h => exact ih h next hsaved

theorem checkbox_rendered (B : Browser) (config : Value) :
    ∃ b, ("web.open_browser", .checked b) ∈ renderConfigForm B config := by
  refine ⟨(getNestedValue config "web.open_browser").truthy, ?_⟩
  exact List.mem_map.mpr ⟨⟨"web.open_browser", .checkbox⟩, by decide, rfl⟩

theorem saveConfig_typeError (B : Browser) (config : Value) :
    saveConfig B config = .error .typeError := by
  obtain ⟨b, hcheckbox⟩ := checkbox_rendered B config
  cases hsaved : saveConfig B config with
  | error e => rfl
  | ok saved => exact absurd hsaved (saveAll_checked hcheckbox config saved)

/-- Whatever the configuration, saving its form throws at the checkbox. -/
theorem saving_the_form_throws (B : Browser) (c : BridgeConfig) :
    saveConfig B c.served = .error .typeError ∧ ¬ SavedUnchanged B c := by
  have hthrown := saveConfig_typeError B c.served
  refine ⟨hthrown, ?_⟩
  intro hsaved
  cases hthrown.symm.trans hsaved

/-- The default configuration, in a browser that leaves every value as it is. -/
theorem default_form_is_not_saved :
    ¬ SavedUnchanged (fun _ text => text) .generateDefault := by
  intro hsaved
  cases (saveConfig_typeError _ _).symm.trans hsaved

end BacnetBridge
