import BacnetBridge.StartRouter
import BacnetBridge.Stranded

/-! Which configurations `run_router` ever comes to run. -/
namespace BacnetBridge

/-- What the text of the configuration decides: the transport is known, and the address
it needs is there. -/
def BridgeConfig.Startable (config : BridgeConfig) : Prop :=
  (config.router.transport = "sc" ∧ config.router.sc.hubUrl ≠ "") ∨
  (config.router.transport = "tailscale" ∧
    (∃ ip, config.router.tailscale.interface = ipText ip) ∧
    ∀ entry ∈ config.router.tailscale.bdt.getD [], ∃ ip, parseIpv4 entry.ip = .ok ip)

/-- Every file holds one good certificate and a key, and everything goes well. -/
def kindOutside : Outside where
  readFile _ := .ok []
  certs _ := .ok [[]]
  privateKey _ := .ok (some [])
  parsable _ := true
  clientAuth _ _ := .ok ()
  connect _ _ := .ok ()
  vmac := .replicate 6 0
  deviceUuid := .replicate 16 0
  localIp := none
  bbmdState _ := none
  loopback := .ok ()
  route _ := .ok ()

theorem mapM_eq_ok {α β ε : Type} {f : α → Except ε β} {xs : List α} :
    (∃ ys, xs.mapM f = .ok ys) ↔ ∀ x ∈ xs, ∃ y, f x = .ok y := by
  induction xs with
  | nil => exact ⟨fun _ => by simp, fun _ => ⟨[], rfl⟩⟩
  | cons x xs ih =>
    rw [List.forall_mem_cons, ← ih]
    simp only [List.mapM_cons, bind_eq_ok]
    constructor
    · rintro ⟨ys, y, hy, rest, hrest, -⟩
      exact ⟨⟨y, hy⟩, rest, hrest⟩
    · rintro ⟨⟨y, hy⟩, rest, hrest⟩
      exact ⟨_, y, hy, rest, hrest, rfl⟩

theorem convertBdtEntry_eq_ok {entry : BdtEntry} :
    (∃ converted, convertBdtEntry entry = .ok converted) ↔
      ∃ ip, parseIpv4 entry.ip = .ok ip := by
  simp only [convertBdtEntry, bind_eq_ok]
  constructor
  · rintro ⟨_, ip, hip, -⟩
    exact ⟨ip, hip⟩
  · rintro ⟨ip, hip⟩
    exact ⟨_, ip, hip, rfl⟩

theorem exists_tailscaleTransport {c : TailscaleConfig} :
    (∃ transport, tailscaleTransport c = .ok transport) ↔
      (∃ ip, c.interface = ipText ip) ∧
        ∀ entry ∈ c.bdt.getD [], ∃ ip, parseIpv4 entry.ip = .ok ip := by
  simp only [← fromStr_iff, ← convertBdtEntry_eq_ok, ← mapM_eq_ok]
  unfold tailscaleTransport
  cases Ipv4.fromStr c.interface with
  | none => simp
  | some interface =>
    cases c.bdt with
    | none => exact ⟨fun _ => ⟨⟨_, rfl⟩, [], rfl⟩, fun _ => ⟨_, rfl⟩⟩
    | some bdt =>
      simp only [bind_eq_ok, Option.getD_some]
      constructor
      · rintro ⟨_, table, htable, -⟩
        exact ⟨⟨_, rfl⟩, table, htable⟩
      · rintro ⟨-, table, htable⟩
        exact ⟨_, table, htable, rfl⟩

theorem exists_buildScTransport {c : ScConfig} (h : c.hubUrl ≠ "") (cert key : Option String) :
    ∃ remote, buildScTransport kindOutside c cert key = .ok remote := by
  obtain ⟨tls, htls⟩ : ∃ tls, buildClientTlsConfig kindOutside cert key c.caCert
      c.dangerAcceptInvalidCerts = .ok tls := by
    cases c.dangerAcceptInvalidCerts <;> cases c.caCert <;> cases cert <;> cases key <;>
      exact ⟨_, rfl⟩
  have hempty : c.hubUrl.isEmpty = false := by simpa using h
  simp only [buildScTransport, htls, hempty, bind_eq_ok]
  exact ⟨_, tls, rfl, rfl⟩

/-- `start_router` can succeed on a configuration exactly if its text allows it. -/
theorem exists_startRouter_iff {config : BridgeConfig} :
    (∃ O r, startRouter O config = .ok r) ↔ config.Startable := by
  constructor
  · rintro ⟨O, r, h⟩
    obtain ⟨remote, table, hremote, -⟩ := startRouter_eq_ok.mp h
    rcases transport_of_remote hremote with hsc | hts
    · obtain ⟨hbuilt, -⟩ := (buildRemoteTransport_sc hsc).mp hremote
      obtain ⟨sc, -, -, hurl, -⟩ := buildScTransport_ok hbuilt
      exact .inl ⟨hsc, hurl⟩
    · obtain ⟨transport, hbuilt, -⟩ := (buildRemoteTransport_tailscale hts).mp hremote
      exact .inr ⟨hts, exists_tailscaleTransport.mp ⟨transport, hbuilt⟩⟩
  · rintro (⟨hsc, hurl⟩ | ⟨hts, haddresses⟩)
    · obtain ⟨remote, hbuilt⟩ := exists_buildScTransport hurl config.router.sc.clientCert
        config.router.sc.clientKey
      exact ⟨kindOutside, _, startRouter_eq_ok.mpr
        ⟨remote, none, (buildRemoteTransport_sc hsc).mpr ⟨hbuilt, rfl⟩, rfl, rfl, rfl⟩⟩
    · obtain ⟨transport, hbuilt⟩ := exists_tailscaleTransport.mpr haddresses
      exact ⟨kindOutside, _, startRouter_eq_ok.mpr ⟨.bip transport, _,
        (buildRemoteTransport_tailscale hts).mpr ⟨transport, hbuilt, rfl, rfl⟩, rfl, rfl, rfl⟩⟩

/-- How the first start ends is all that it changes. -/
theorem Launch.begin_start {a : Launch} {T : Toml} {w : World}
    (h : a.begin T = some (.waiting w)) (o : StartOutcome) : ∃ ready : World,
      ready.config = w.config ∧ ready.state = .starting ∧ ready.running = none ∧
      w = ready.launched a.start ∧
      ({ a with start := o }).begin T = some (.waiting (ready.launched o)) := by
  obtain ⟨config, file, hload, ⟨hcalls, localAddr, hhub, hs⟩ | ⟨-, e, hs⟩⟩ := a.begin_cases h
  · obtain rfl := Status.waiting.inj hs
    obtain ⟨-, hnone, hstate⟩ := a.entered_ready config file localAddr
    refine ⟨a.entered config file localAddr, (launched_config _ _).1.symm, hstate, hnone, rfl, ?_⟩
    have hrun := Launch.run_startUp { a with start := o } config file
    rcases hrun with ⟨-, localAddr', hhub', hrun⟩ | ⟨hno, -⟩
    · have hsame : a.entered config file localAddr' = a.entered config file localAddr := by
        unfold Launch.entered
        split
        · rename_i hw
          have haddr : HubOutcome.listening localAddr' = .listening localAddr :=
            (hhub' hw).symm.trans (hhub hw)
          rw [HubOutcome.listening.inj haddr]
        · rfl
      have hentered : Launch.entered { a with start := o } config file localAddr' =
          a.entered config file localAddr' := rfl
      simp only [Launch.begin, hload]
      rw [hentered, hsame] at hrun
      simp only [hrun]
    · exact absurd hcalls hno
  · cases hs

/-- Whatever the outside does and whatever is requested, put and clicked but the tray's
switches, the bridge can come to run exactly if the configuration that its first start
finds in memory is one that starts. -/
theorem bridge_ever_runs_iff {a : Launch} {T : Toml} {w : World}
    (h : a.begin T = some (.waiting w)) :
    (∃ O w' inputs t,
      ({ a with start := .of (startRouter O w.config) }).begin T = some (.waiting w') ∧
      (∀ i ∈ inputs, ¬ Desktop.Input.ClicksSwitch i) ∧
      Runs.after (Desktop.step T) (.start w') inputs = some t ∧ t.world.state = .running) ↔
    w.config.Startable := by
  constructor
  · rintro ⟨O, w', inputs, t, hbegin, hinputs, hrun, hrunning⟩
    rw [← exists_startRouter_iff]
    cases hstarted : startRouter O w.config with
    | ok r => exact ⟨O, r, hstarted⟩
    | error e =>
      obtain ⟨ready, -, hstate, hnone, -, hbegin'⟩ := a.begin_start h (.err e)
      rw [hstarted] at hbegin
      obtain rfl := Status.waiting.inj (Option.some.inj (hbegin.symm.trans hbegin'))
      have hstranded : Stranded T (ready.launched (.err e)) (.start (ready.launched (.err e))) :=
        ⟨⟨hstate, hnone, rfl⟩, by simp [Desktop.start, Site.start, Sys.start], .idle⟩
      cases hrunning.symm.trans (hstranded.after hinputs hrun).halted.state_eq
  · intro hstartable
    obtain ⟨O, r, hstarted⟩ := exists_startRouter_iff.mpr hstartable
    obtain ⟨ready, -, -, -, -, hbegin⟩ := a.begin_start h (.of (startRouter O w.config))
    refine ⟨O, _, [], _, hbegin, by simp, rfl, ?_⟩
    rw [hstarted]
    rfl

/-- Knows the empty text, which is the document with no table in it. -/
def emptyToml : Toml := .ofTable [(⟨none, none, none⟩, "")]

/-- A bridge with an empty file. -/
def emptyLaunch : Launch :=
  { spokeLaunch (.of (startRouter plainOutside .generateDefault)) with file := .text "" }

/-- The defaults name no hub. -/
theorem defaults_never_run :
    ∃ w, emptyLaunch.begin emptyToml = some (.waiting w) ∧ w.config = .generateDefault ∧
      ¬ ∃ O w' inputs t,
        ({ emptyLaunch with start := .of (startRouter O w.config) }).begin emptyToml =
          some (.waiting w') ∧
        (∀ i ∈ inputs, ¬ Desktop.Input.ClicksSwitch i) ∧
        Runs.after (Desktop.step emptyToml) (.start w') inputs = some t ∧
        t.world.state = .running := by
  obtain ⟨w, hbegin, hconfig⟩ : ∃ w, emptyLaunch.begin emptyToml = some (.waiting w) ∧
      w.config = .generateDefault := ⟨_, rfl, rfl⟩
  refine ⟨w, hbegin, hconfig, ?_⟩
  rw [bridge_ever_runs_iff hbegin, hconfig]
  rintro (⟨-, hurl⟩ | ⟨hts, -⟩)
  · exact hurl rfl
  · exact absurd hts (by decide)

end BacnetBridge
