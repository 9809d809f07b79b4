import BacnetBridge.Gate

/-! `hub_mode_switch` in `web/api.rs`: the hub URL, the copy kept of it while the
embedded hub is in use, and when the copy is lost. -/
namespace BacnetBridge

inductive HubMode
  | cloud
  | embedded
  deriving DecidableEq, Repr

def HubMode.parse : String → Option HubMode
  | "cloud" => some .cloud
  | "embedded" => some .embedded
  | _ => none

/-- The checks of `hub_mode_switch`, with the published state it reads, and its
reply. -/
def hubModeSwitch (mode : String) (current : AppState) :
    Except HttpError (HubMode × List (String × String)) :=
  match HubMode.parse mode with
  | none => .error ⟨400, "Invalid mode. Must be 'cloud' or 'embedded'."⟩
  | some m =>
    if current = .running then
      .error ⟨409, "Cannot switch hub mode while router is running. Stop the router first."⟩
    else .ok (m, [("status", "ok"), ("mode", mode)])

/-- `if let Some(path) = config_path { let _ = cfg.save(path) }`. -/
def World.saveTo (w : World) (T : Toml) (config : BridgeConfig) (o : SaveOutcome) : File :=
  match w.configPath with
  | none => w.file
  | some _ => (config.save T o w.file).2

/-- What `hub_mode_switch` does under the configuration's write lock. -/
def World.hubSwitched (w : World) (T : Toml) (mode : HubMode) (o : SaveOutcome) : World :=
  match mode with
  | .embedded =>
    let cloudUrl := w.config.router.sc.hubUrl
    let config := { w.config with router.sc.hubUrl := embeddedHubUrl }
    { w with
      config, file := w.saveTo T config o, cloudHubUrl := some cloudUrl, isEmbeddedHub := true }
  | .cloud =>
    let config := match w.cloudHubUrl with
      | some cloudUrl => { w.config with router.sc.hubUrl := cloudUrl }
      | none => w.config
    { w with config, file := w.saveTo T config o, isEmbeddedHub := false }

/-! ## Sequences of mode changes -/

/-- The hub's variables alone. -/
def HubVars.switch (v : HubVars) : HubMode → HubVars
  | .embedded => ⟨embeddedHubUrl, some v.hubUrl, true⟩
  | .cloud => ⟨v.cloudHubUrl.getD v.hubUrl, v.cloudHubUrl, false⟩

theorem hubVars_hubSwitched (w : World) (T : Toml) (mode : HubMode) (o : SaveOutcome) :
    (w.hubSwitched T mode o).hubVars = w.hubVars.switch mode := by
  cases mode with
  | embedded => rfl
  | cloud => cases h : w.cloudHubUrl <;> simp [World.hubSwitched, World.hubVars, HubVars.switch, h]

/-- Every change to the cloud hub brings `url` back. -/
def Restores (url : String) (v : HubVars) (modes : List HubMode) : Prop :=
  Runs.Each (fun v m => some (HubVars.switch v m)) v modes
    fun v m => m = .cloud → (v.switch m).hubUrl = url

theorem restores_cons {url : String} {v : HubVars} {m : HubMode} {ms : List HubMode} :
    Restores url v (m :: ms) ↔
      (m = .cloud → (v.switch m).hubUrl = url) ∧ Restores url (v.switch m) ms := by
  simp [Restores, Runs.each_cons]

/-- Two changes to the embedded hub in a row, and to the cloud hub afterwards. -/
def Loses (modes : List HubMode) : Prop :=
  ∃ before after, modes = before ++ .embedded :: .embedded :: after ∧ HubMode.cloud ∈ after

theorem loses_cloud {ms : List HubMode} : Loses (.cloud :: ms) ↔ Loses ms := by
  constructor
  · rintro ⟨before, after, h, hc⟩
    cases before with
    | nil => simp at h
    | cons m before => exact ⟨before, after, (List.cons.inj h).2, hc⟩
  · rintro ⟨before, after, rfl, hc⟩
    exact ⟨.cloud :: before, after, rfl, hc⟩

theorem loses_embedded_cloud {ms : List HubMode} :
    Loses (.embedded :: .cloud :: ms) ↔ Loses ms := by
  constructor
  · rintro ⟨before, after, h, hc⟩
    match before with
    | [] => simp at h
    | [m] => simp at h
    | m :: m' :: before => exact ⟨before, after, by simp at h; exact h.2.2, hc⟩
  · rintro ⟨before, after, rfl, hc⟩
    exact ⟨.embedded :: .cloud :: before, after, rfl, hc⟩

theorem loses_embedded_twice {ms : List HubMode} :
    Loses (.embedded :: .embedded :: ms) ↔ HubMode.cloud ∈ ms := by
  constructor
  · rintro ⟨before, after, h, hc⟩
    match before with
    | [] => simpa [(List.cons.inj (List.cons.inj h).2).2] using hc
    | [m] =>
      obtain rfl : ms = .embedded :: after := by simpa using (List.cons.inj (List.cons.inj h).2).2
      exact List.mem_cons_of_mem _ hc
    | m :: m' :: before =>
      simp only [List.cons_append, List.cons.injEq] at h
      simp [h.2.2, hc]
  · intro hc
    exact ⟨[], ms, rfl, hc⟩

theorem not_loses_nil : ¬ Loses [] := by simp [Loses]

theorem not_loses_embedded : ¬ Loses [.embedded] := by
  rintro ⟨before, after, h, -⟩
  have hlen := congrArg List.length h
  simp at hlen
  omega

/-- Once the kept copy is the embedded hub's URL it stays so. -/
theorem restores_lost_iff {url : String} {v : HubVars} (hv : v.hubUrl = embeddedHubUrl)
    (hc : v.cloudHubUrl = some embeddedHubUrl) {ms : List HubMode} :
    Restores url v ms ↔ url = embeddedHubUrl ∨ HubMode.cloud ∉ ms := by
  induction ms generalizing v with
  | nil => simp [Restores, Runs.each_nil]
  | cons m ms ih =>
    rw [restores_cons]
    cases m with
    | cloud =>
      rw [ih (by simp [HubVars.switch, hc]) (by simp [HubVars.switch, hc])]
      simp [HubVars.switch, hc, eq_comm]
      tauto
    | embedded =>
      rw [ih (by simp [HubVars.switch]) (by simp [HubVars.switch, hv])]
      simp

/-- With the cloud hub in use, and with the embedded hub in use and the cloud
hub's URL kept, every change back restores the URL exactly if no sequence that
loses it follows. -/
theorem restores_iff (url : String) (ms : List HubMode) :
    (∀ kept, (kept = none ∨ kept = some url) →
      (Restores url ⟨url, kept, false⟩ ms ↔ url = embeddedHubUrl ∨ ¬ Loses ms)) ∧
    (Restores url ⟨embeddedHubUrl, some url, true⟩ ms ↔
      url = embeddedHubUrl ∨ ¬ Loses (.embedded :: ms)) := by
  induction ms with
  | nil => simp [Restores, Runs.each_nil, not_loses_nil, not_loses_embedded]
  | cons m ms ih =>
    obtain ⟨ihCloud, ihEmbedded⟩ := ih
    cases m with
    | cloud =>
      constructor
      · rintro kept (rfl | rfl)
        · simpa [restores_cons, HubVars.switch, loses_cloud] using ihCloud none (.inl rfl)
        · simpa [restores_cons, HubVars.switch, loses_cloud] using ihCloud (some url) (.inr rfl)
      · simpa [restores_cons, HubVars.switch, loses_embedded_cloud] using
          ihCloud (some url) (.inr rfl)
    | embedded =>
      constructor
      · rintro kept -
        simpa [restores_cons, HubVars.switch] using ihEmbedded
      · rw [loses_embedded_twice]
        simpa [restores_cons, HubVars.switch] using
          restores_lost_iff (v := ⟨embeddedHubUrl, some embeddedHubUrl, true⟩) rfl rfl

/-! ## Requests between the steps of the loop -/

/-- `run_router` and the handlers of `hub_mode_switch`. Those in `accepted` have
passed their checks and wait for the write lock; `changes` are the modes of
those that have had it, in order. -/
structure HubSys where
  loop : Loop
  accepted : List HubMode
  changes : List HubMode

def HubSys.start (w : World) : HubSys := ⟨⟨w, none⟩, [], []⟩

inductive HubSys.Input
  | request (mode : String)
  | change (n : Nat) (o : SaveOutcome)
  | wake (i : BacnetBridge.Input) (o : Outcomes)
  | tick
  deriving DecidableEq, Repr

/-- One step of any party. What a handler does under the write lock is one step:
nobody writes the hub's variables without the lock. -/
def HubSys.step (T : Toml) (s : HubSys) : HubSys.Input → Option HubSys
  | .request mode =>
    match hubModeSwitch mode s.loop.world.state with
    | .error _ => some s
    | .ok (m, _) => some { s with accepted := s.accepted ++ [m] }
  | .change n o =>
    match s.accepted[n]? with
    | none => none
    | some m =>
      if s.loop.world.configLock = .free then
        some { s with
          loop.world := s.loop.world.hubSwitched T m o
          accepted := s.accepted.eraseIdx n
          changes := s.changes ++ [m] }
      else none
  | .wake i o => (s.loop.wake T i o).map fun loop => { s with loop }
  | .tick => s.loop.tick.map fun loop => { s with loop }

/-- After a change to the cloud hub, `url` is the hub's URL. -/
def HubSys.Restored (url : String) (s : HubSys) : Prop :=
  ∀ before, s.changes = before ++ [.cloud] → s.loop.world.config.router.sc.hubUrl = url

/-- Only a change of mode touches the hub's variables. -/
theorem HubSys.step_cases {T : Toml} {s s' : HubSys} {i : HubSys.Input} (h : s.loop.Steady)
    (hs : s.step T i = some s') : s'.loop.Steady ∧
      ((s'.changes = s.changes ∧ s'.loop.world.hubVars = s.loop.world.hubVars) ∨
        ∃ m, s'.changes = s.changes ++ [m] ∧
          s'.loop.world.hubVars = s.loop.world.hubVars.switch m) := by
  cases i with
  | request mode =>
    simp only [step] at hs
    split at hs <;> cases hs <;> exact ⟨h, .inl ⟨rfl, rfl⟩⟩
  | change n o =>
    simp only [step] at hs
    split at hs
    · cases hs
    · rename_i m hm
      split at hs
      · cases hs
        exact ⟨h, .inr ⟨m, rfl, hubVars_hubSwitched s.loop.world T m o⟩⟩
      · cases hs
  | wake i o =>
    obtain ⟨l, hw, rfl⟩ := Option.map_eq_some_iff.mp hs
    obtain ⟨hworld, hsteady⟩ := Loop.steady_wake hw
    exact ⟨hsteady, .inl ⟨rfl, congrArg World.hubVars hworld⟩⟩
  | tick =>
    obtain ⟨l, ht, rfl⟩ := Option.map_eq_some_iff.mp hs
    obtain ⟨hgrows, hsteady⟩ := h.tick ht
    exact ⟨hsteady, .inl ⟨rfl, hgrows.hubVars⟩⟩

/-- A run restores the URL throughout exactly if its changes of mode do. -/
theorem HubSys.restored_iff {T : Toml} (url : String) {s t : HubSys} {inputs : List HubSys.Input}
    (h : s.loop.Steady) (ht : Runs.after (HubSys.step T) s inputs = some t) :
    ∃ modes, t.changes = s.changes ++ modes ∧
      (Runs.Always (HubSys.step T) s inputs (Restored url) ↔
        s.Restored url ∧ Restores url s.loop.world.hubVars modes) := by
  induction inputs generalizing s with
  | nil =>
    obtain rfl := Option.some.inj ht
    exact ⟨[], by simp, by simp [Runs.always_nil, Restores, Runs.each_nil]⟩
  | cons i inputs ih =>
    obtain ⟨s', hs, hrest⟩ := Option.bind_eq_some_iff.mp ht
    obtain ⟨hsteady, hcases⟩ := step_cases h hs
    obtain ⟨modes, hmodes, hiff⟩ := ih hsteady hrest
    have hcons : Runs.Always (HubSys.step T) s (i :: inputs) (Restored url) ↔
        s.Restored url ∧ s'.Restored url ∧ Restores url s'.loop.world.hubVars modes := by
      rw [Runs.always_cons, hs, ← hiff]
      simp
    rcases hcases with ⟨hc, hv⟩ | ⟨m, hc, hv⟩
    · refine ⟨modes, by rw [hmodes, hc], hcons.trans ?_⟩
      have hsame : s'.Restored url ↔ s.Restored url := by
        have hurl := congrArg HubVars.hubUrl hv
        simp only [World.hubVars] at hurl
        simp [Restored, hc, hurl]
      rw [hsame, hv]
      tauto
    · refine ⟨m :: modes, by simp [hmodes, hc], hcons.trans ?_⟩
      have hurl : s'.Restored url ↔
          (m = .cloud → (s.loop.world.hubVars.switch m).hubUrl = url) := by
        have hurl := congrArg HubVars.hubUrl hv
        simp only [World.hubVars] at hurl
        simp [Restored, hc, hurl, World.hubVars]
      rw [restores_cons, hurl, hv]

theorem hubUrl_transport (config : BridgeConfig) (transport : Option String) :
    (applyTransportOverride config transport).router.sc.hubUrl = config.router.sc.hubUrl := by
  unfold applyTransportOverride
  split
  · split <;> rfl
  · rfl

/-- The hub's variables when the loop first waits. -/
theorem Launch.hubVars {a : Launch} {T : Toml} {w : World} (h : a.begin T = some (.waiting w)) :
    ∃ config file, BridgeConfig.load T a.overrides a.firstSave a.file = (.ok config, file) ∧
      w.hubVars = if a.withHub then ⟨embeddedHubUrl, some config.router.sc.hubUrl, true⟩
        else ⟨config.router.sc.hubUrl, none, false⟩ := by
  obtain ⟨config, file, localAddr, hload, -, rfl⟩ := a.begin_waiting h
  refine ⟨config, file, hload, ?_⟩
  have hentered : ((a.entered config file localAddr).launched a.start).hubVars =
      (a.entered config file localAddr).hubVars := by
    cases a.start <;> rfl
  rw [hentered]
  cases hw : a.withHub <;>
    simp [entered, hw, World.hubVars, World.embedded, World.announced, World.emit, world,
      hubUrl_transport]

/-- Whatever the order of steps, every change to the cloud hub restores the URL
configured at first, exactly if that URL is the embedded hub's or no change to
the embedded hub follows another directly and precedes one to the cloud hub.
`--with-hub` counts as a change to the embedded hub. -/
theorem cloud_hub_restored_iff {a : Launch} {T : Toml} {w : World}
    (h : a.begin T = some (.waiting w)) {inputs : List HubSys.Input} {s : HubSys}
    (hs : Runs.after (HubSys.step T) (.start w) inputs = some s) :
    ∃ config file, BridgeConfig.load T a.overrides a.firstSave a.file = (.ok config, file) ∧
      (Runs.Always (HubSys.step T) (.start w) inputs (HubSys.Restored config.router.sc.hubUrl) ↔
        config.router.sc.hubUrl = embeddedHubUrl ∨
          ¬ Loses ((if a.withHub then [.embedded] else []) ++ s.changes)) := by
  obtain ⟨config, file, hload, hvars⟩ := a.hubVars h
  refine ⟨config, file, hload, ?_⟩
  obtain ⟨modes, hmodes, hiff⟩ := HubSys.restored_iff config.router.sc.hubUrl
    (s := .start w) (by simp [Loop.Steady, HubSys.start]) hs
  obtain rfl : s.changes = modes := by simpa [HubSys.start] using hmodes
  have hstart : (HubSys.start w).Restored config.router.sc.hubUrl := by
    simp [HubSys.Restored, HubSys.start]
  rw [hiff, and_iff_right hstart]
  change Restores _ w.hubVars _ ↔ _
  rw [hvars]
  cases a.withHub with
  | true => simpa using (restores_iff config.router.sc.hubUrl s.changes).2
  | false => simpa using (restores_iff config.router.sc.hubUrl s.changes).1 none (.inl rfl)

/-- The router is stopped, and then modes are requested one at a time. -/
def stopThen (modes : List String) : List HubSys.Input :=
  [.wake (.command .stop) ⟨.ok none, .written⟩] ++ .replicate 7 .tick ++
    modes.flatMap fun mode => [.request mode, .change 0 .written]

/-- A bridge with its own hub goes back to the cloud hub. -/
theorem cloud_hub_restored_after_embedded :
    ∃ w s, (hubLaunch true).begin hubToml = some (.waiting w) ∧
      Runs.after (HubSys.step hubToml) (.start w) (stopThen ["cloud"]) = some s ∧
      ∃ url, Runs.Always (HubSys.step hubToml) (.start w) (stopThen ["cloud"])
        (HubSys.Restored url) := by
  refine ⟨_, _, begin_hubLaunch true, rfl, ?_⟩
  obtain ⟨config, file, -, hiff⟩ := cloud_hub_restored_iff (begin_hubLaunch true)
    (show Runs.after (HubSys.step hubToml) (.start _) (stopThen ["cloud"]) = some _ from rfl)
  exact ⟨_, hiff.mpr (.inr (loses_embedded_cloud.not.mpr not_loses_nil))⟩

/-- A second request for the embedded hub loses the cloud hub's URL. -/
theorem repeated_embedded_loses_cloud_hub :
    ∃ w s, (hubLaunch false).begin hubToml = some (.waiting w) ∧
      w.config.router.sc.hubUrl = cloudUrl ∧
      Runs.after (HubSys.step hubToml) (.start w) (stopThen ["embedded", "embedded", "cloud"]) =
        some s ∧
      s.changes = [.embedded, .embedded, .cloud] ∧
      s.loop.world.config.router.sc.hubUrl = embeddedHubUrl ∧ ¬ s.Restored cloudUrl := by
  refine ⟨_, _, begin_hubLaunch false, rfl, rfl, rfl, rfl, ?_⟩
  intro h
  exact absurd (h [.embedded, .embedded] rfl) (by decide)

end BacnetBridge
