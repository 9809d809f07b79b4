import BacnetBridge.Lifecycle

/-! What a transport switch leaves in the configuration file. -/
namespace BacnetBridge

namespace BridgeConfig

def withTransport (c : BridgeConfig) (mode : String) : BridgeConfig :=
  { c with router.transport := mode }

/-- The two differ in `router.transport` at most. -/
def SameButTransport (c d : BridgeConfig) : Prop := c.withTransport d.router.transport = d

theorem withTransport_eq_iff {c d : BridgeConfig} (mode : String) :
    d.withTransport mode = c.withTransport mode ↔ c.SameButTransport d := by
  obtain ⟨⟨_, _, _, _, _, _, _⟩, _, _⟩ := c
  obtain ⟨⟨_, _, _, _, _, _, _⟩, _, _⟩ := d
  simp only [SameButTransport, withTransport, mk.injEq, RouterConfig.mk.injEq]
  constructor
  · rintro ⟨⟨_, rfl, rfl, rfl, rfl, rfl, rfl⟩, rfl, rfl⟩
    simp
  · rintro ⟨⟨_, rfl, rfl, rfl, rfl, rfl, rfl⟩, rfl, rfl⟩
    simp

end BridgeConfig

/-- The file holds the configuration in memory, but perhaps for the transport. -/
def World.Matches (T : Toml) (w : World) : Prop :=
  ∃ held, w.file.config T = some held ∧ w.config.SameButTransport held

/-- What one switch does to the configuration and the file. -/
theorem readied_config (w : World) (T : Toml) (mode : String) (o : SaveOutcome) :
    (w.readied T mode o).config = w.config.withTransport mode ∧
      (w.readied T mode o).file = ((w.config.withTransport mode).save T o w.file).2 := by
  unfold World.readied
  split <;> exact ⟨rfl, rfl⟩

theorem launched_config (w : World) (o : StartOutcome) :
    (w.launched o).config = w.config ∧ (w.launched o).file = w.file := by
  cases o <;> exact ⟨rfl, rfl⟩

theorem leave_config (w : World) : w.leave.config = w.config ∧ w.leave.file = w.file := by
  unfold World.leave
  split <;> exact ⟨rfl, rfl⟩

/-- The input is a switch to a known transport. -/
def Input.Switches : Input → Prop
  | .command (.switchTransport mode) => Task.validMode mode = true
  | _ => False

/-- A turn that is no switch touches neither the configuration nor the file. -/
theorem Turn.config_same {T : Toml} {w : World} {o : Outcomes} {i : Input} {s : Status}
    (ht : Turn T w o i s) (hi : ¬ i.Switches) :
    s.world.config = w.config ∧ s.world.file = w.file := by
  cases ht with
  | ignored | stopped => exact ⟨rfl, rfl⟩
  | started => exact launched_config w.announced o.start
  | switched mode hm => exact absurd hm hi
  | shutDown i r => exact leave_config (w.halted r)
  | refused => exact leave_config w

theorem Turn.config_switched {T : Toml} {w : World} {o : Outcomes} {mode : String} {s : Status}
    (ht : Turn T w o (.command (.switchTransport mode)) s) (hm : Task.validMode mode = true) :
    s.world.config = w.config.withTransport mode ∧
      s.world.file = ((w.config.withTransport mode).save T o.save w.file).2 := by
  rcases ht with ⟨_, _, hno⟩ | _ | _ | _ | ⟨_, _, hi⟩ | ⟨_, hi⟩
  · exact absurd hm hno
  · obtain ⟨hc, hf⟩ := launched_config (w.readied T mode o.save) o.start
    obtain ⟨hc', hf'⟩ := readied_config w T mode o.save
    exact ⟨hc.trans hc', hf.trans hf'⟩
  all_goals rcases hi with hi | hi <;> cases hi

namespace Status

/-- A switch leaves the file as it was but for the transport. -/
def Framed (T : Toml) : Status → Input × Outcomes → Prop
  | .waiting w, (.command (.switchTransport mode), o) => Task.validMode mode = true →
      ∀ s, step T (.waiting w) (.command (.switchTransport mode), o) = some s →
        s.world.file.config T = (w.file.config T).map (·.withTransport mode)
  | _, _ => True

/-- The input switches nothing. -/
def Stays : Status → Input × Outcomes → Prop
  | .waiting _, (i, _) => ¬ i.Switches
  | _, _ => True

/-- The save of a switch succeeds. -/
def Saves (T : Toml) : Status → Input × Outcomes → Prop
  | .waiting w, (.command (.switchTransport mode), o) => Task.validMode mode = true →
      ((w.config.withTransport mode).save T o.save w.file).1 = .ok ()
  | _, _ => True

end Status

/-- One switch whose save succeeds keeps the rest of the file exactly if the
file held what is in memory, and from then on it does. -/
theorem Turn.framed_iff {T : Toml} (hT : T.Faithful) {w : World} {o : Outcomes} {mode : String}
    {s : Status} (ht : Turn T w o (.command (.switchTransport mode)) s)
    (hm : Task.validMode mode = true)
    (hsave : ((w.config.withTransport mode).save T o.save w.file).1 = .ok ()) :
    (s.world.file.config T = (w.file.config T).map (·.withTransport mode) ↔ w.Matches T) ∧
      s.world.Matches T := by
  obtain ⟨hc, hf⟩ := ht.config_switched hm
  have hheld : s.world.file.config T = some (w.config.withTransport mode) := by
    rw [hf]
    exact BridgeConfig.save_ok hT (Prod.ext hsave rfl)
  refine ⟨?_, _, hheld, by simp [hc, BridgeConfig.SameButTransport, BridgeConfig.withTransport]⟩
  rw [hheld]
  cases hfile : w.file.config T with
  | none => simp [World.Matches, hfile]
  | some held =>
    simpa [World.Matches, hfile, eq_comm] using
      BridgeConfig.withTransport_eq_iff (c := w.config) (d := held) mode

theorem Input.switches_iff {i : Input} :
    i.Switches ↔ ∃ mode, i = .command (.switchTransport mode) ∧ Task.validMode mode = true := by
  constructor
  · intro h
    unfold Switches at h
    split at h
    · exact ⟨_, rfl, h⟩
    · exact h.elim
  · rintro ⟨mode, rfl, hm⟩
    exact hm

theorem Status.framed_of_stays {T : Toml} {s : Status} {i : Input × Outcomes}
    (h : s.Stays i) : s.Framed T i := by
  unfold Framed
  split
  · exact fun hm => absurd hm h
  · trivial

/-- Over a run whose saves succeed, every switch keeps the rest of the file
exactly if memory and file agree at its start, or nothing is switched. -/
theorem framed_run_iff {T : Toml} (hT : T.Faithful) {s : Status} {inputs : List (Input × Outcomes)}
    (hidle : Runs.Always (Status.step T) s inputs fun s => ∀ w, s = .waiting w → Idle w)
    (hsave : Runs.Each (Status.step T) s inputs (Status.Saves T)) :
    Runs.Each (Status.step T) s inputs (Status.Framed T) ↔
      Runs.Each (Status.step T) s inputs Status.Stays ∨ s.world.Matches T := by
  induction inputs generalizing s with
  | nil => simp [Runs.each_nil]
  | cons io inputs ih =>
    obtain ⟨hw, hidles⟩ := Runs.always_cons.mp hidle
    obtain ⟨hsave, hsaves⟩ := Runs.each_cons.mp hsave
    rw [Runs.each_cons, Runs.each_cons]
    cases s with
    | returned r w => simp [Status.step, Status.Framed, Status.Stays]
    | waiting w =>
      obtain ⟨i, o⟩ := io
      obtain ⟨t, ht, hturn⟩ := turn_of_idle (T := T) (hw w rfl) i o
      have ih := ih (hidles t ht) (hsaves t ht)
      by_cases hi : i.Switches
      · obtain ⟨mode, rfl, hm⟩ := Input.switches_iff.mp hi
        obtain ⟨hframe, hmatch⟩ := hturn.framed_iff hT hm (hsave hm)
        have hrest := ih.mpr (.inr hmatch)
        simpa [ht, hrest, Status.Framed, Status.Stays, Status.world, hm, Input.Switches]
          using hframe
      · obtain ⟨hc, hf⟩ := hturn.config_same hi
        have hmatch : t.world.Matches T ↔ w.Matches T := by
          unfold World.Matches
          rw [hc, hf]
        have hstays : (Status.waiting w).Stays (i, o) := hi
        simpa [ht, Status.framed_of_stays hstays, hstays, Status.world, ← hmatch] using ih

theorem each_returned {T : Toml} {r : Except RunError Unit} {w : World}
    {P : Status → Input × Outcomes → Prop} (hp : ∀ i, P (.returned r w) i)
    (inputs : List (Input × Outcomes)) :
    Runs.Each (Status.step T) (.returned r w) inputs P := by
  cases inputs with
  | nil => exact Runs.each_nil
  | cons i is => exact Runs.each_cons.mpr ⟨hp i, by simp [Status.step]⟩

/-- The configuration that `run_router` goes on with when the file holds `held`. -/
def Launch.effective (a : Launch) (held : BridgeConfig) : BridgeConfig :=
  let config := applyTransportOverride (applyOverrides held a.overrides) a.transport
  if a.withHub then { config with router.sc.hubUrl := embeddedHubUrl } else config

theorem Launch.entered_config (a : Launch) (held : BridgeConfig) (file : File)
    (localAddr : Option String) :
    let w := (a.entered (applyOverrides held a.overrides) file localAddr).launched a.start
    w.config = a.effective held ∧ w.file = file := by
  obtain ⟨hc, hf⟩ :=
    launched_config (a.entered (applyOverrides held a.overrides) file localAddr) a.start
  refine ⟨hc.trans ?_, hf.trans ?_⟩
  · unfold entered effective
    split <;> rfl
  · unfold entered
    split <;> rfl

/-- While saves succeed, every switch of a run leaves the file as it was but for
the transport exactly if nothing is switched, or what start-up put over the
file's configuration changed the transport at most. -/
theorem switch_persists_only_transport_iff {a : Launch} {T : Toml} (hT : T.Faithful) {s : Status}
    (h : a.begin T = some s) (inputs : List (Input × Outcomes))
    (hsave : Runs.Each (Status.step T) s inputs (Status.Saves T)) :
    ∃ held, s.world.file.config T = some held ∧
      (Runs.Each (Status.step T) s inputs (Status.Framed T) ↔
        Runs.Each (Status.step T) s inputs Status.Stays ∨
          (a.effective held).SameButTransport held) := by
  obtain ⟨config, file, hload, hs⟩ := a.begin_cases h
  obtain ⟨held, hheld, rfl⟩ := BridgeConfig.load_ok hT hload
  have hrun := framed_run_iff hT (idle_always h inputs) hsave
  rcases hs with ⟨-, localAddr, -, rfl⟩ | ⟨-, e, rfl⟩
  · obtain ⟨hc, hf⟩ := a.entered_config held file localAddr
    refine ⟨held, by simp [Status.world, hf, hheld], hrun.trans (or_congr_right ?_)⟩
    simp [World.Matches, Status.world, hc, hf, hheld]
  · refine ⟨held, by rw [Status.world, (leave_config _).2]; exact hheld, iff_of_true ?_ (.inl ?_)⟩
    · exact each_returned (fun _ => trivial) inputs
    · exact each_returned (fun _ => trivial) inputs

/-- The defaults with a hub URL and the `sc` transport, as `save` writes them. -/
def hubConfig (hubUrl : String) : BridgeConfig :=
  { BridgeConfig.generateDefault with router.sc.hubUrl := hubUrl }

def hubTextHead : String :=
  "[router]\ntransport = \"sc\"\ndevice_id = 4194303\nvendor_id = 15\n" ++
  "device_name = \"BACnet-Bridge\"\n\n[router.lan]\ninterface = \"\"\nport = 47808\n\n" ++
  "[router.sc]\nhub_url = \""

def hubTextTail : String :=
  "\"\nreconnect_initial_ms = 1000\nreconnect_max_ms = 30000\nreconnect_max_attempts = 0\n\n" ++
  "[router.tailscale]\ninterface = \"\"\nport = 20000\n\n" ++
  "[web]\nhost = \"0.0.0.0\"\nport = 28821\nopen_browser = true\n\n" ++
  "[hub]\nbind = \"0.0.0.0:8443\"\nacme_domain = \"\"\nacme_cache = \"./acme-cache\"\n" ++
  "acme_production = false\n"

def hubText (hubUrl : String) : String := hubTextHead ++ hubUrl ++ hubTextTail

def cloudUrl : String := "wss://hub.example.com:443"

def hubToml : Toml :=
  .ofTable [((hubConfig cloudUrl).serialize, hubText cloudUrl),
    ((hubConfig embeddedHubUrl).serialize, hubText embeddedHubUrl)]

theorem hubText_ne : hubText cloudUrl ≠ hubText embeddedHubUrl := by
  intro h
  have hlen := congrArg String.length h
  have hcloud : cloudUrl.length = 25 := by decide
  have hembedded : embeddedHubUrl.length = 20 := by decide
  simp only [hubText, String.length_append, hcloud, hembedded] at hlen
  generalize hubTextHead.length = head, hubTextTail.length = tail at hlen
  omega

theorem faithful_hubToml : hubToml.Faithful :=
  Toml.faithful_ofTable (by simp [hubText_ne, hubText_ne.symm])

theorem read_hubText {hubUrl : String} (h : hubUrl = cloudUrl ∨ hubUrl = embeddedHubUrl) :
    hubToml.fromStr (hubText hubUrl) = .ok (hubConfig hubUrl).serialize := by
  rcases h with rfl | rfl <;> exact faithful_hubToml _ _ rfl

theorem config_hubText {hubUrl : String} (h : hubUrl = cloudUrl ∨ hubUrl = embeddedHubUrl) :
    (File.text (hubText hubUrl)).config hubToml = some (hubConfig hubUrl) := by
  simp [File.config, read_hubText h, Except.toOption]

/-- A bridge whose file names a cloud hub, with or without its own hub. -/
def hubLaunch (withHub : Bool) : Launch :=
  { spokeLaunch (.ok none) with file := .text (hubText cloudUrl), withHub }

def toSc : Input × Outcomes := (.command (.switchTransport "sc"), ⟨.ok none, .written⟩)

theorem load_hubLaunch : BridgeConfig.load hubToml [] .written (.text (hubText cloudUrl)) =
    (.ok (hubConfig cloudUrl), .text (hubText cloudUrl)) := by
  simp [BridgeConfig.load, read_hubText, applyOverrides]

theorem begin_hubLaunch (withHub : Bool) : (hubLaunch withHub).begin hubToml =
    some (.waiting (((hubLaunch withHub).entered (hubConfig cloudUrl) (.text (hubText cloudUrl))
      none).launched (.ok none))) := by
  unfold Launch.begin
  rw [show BridgeConfig.load hubToml (hubLaunch withHub).overrides (hubLaunch withHub).firstSave
    (hubLaunch withHub).file = _ from load_hubLaunch]
  cases withHub <;> rfl

/-- Without an embedded hub and overrides the switch writes the transport only. -/
theorem switch_persists_only_transport_without_hub :
    ∃ s, (hubLaunch false).begin hubToml = some s ∧
      Runs.Each (Status.step hubToml) s [toSc] (Status.Framed hubToml) := by
  refine ⟨_, begin_hubLaunch false, ?_⟩
  obtain ⟨held, hheld, hiff⟩ := switch_persists_only_transport_iff faithful_hubToml
    (begin_hubLaunch false) [toSc] (Runs.each_cons.mpr ⟨fun _ => rfl, fun _ _ => Runs.each_nil⟩)
  exact hiff.mpr (.inr rfl)

/-- With an embedded hub the switch replaces the cloud hub's URL in the file. -/
theorem switch_writes_embedded_hub_url :
    ∃ s t, (hubLaunch true).begin hubToml = some s ∧ Status.step hubToml s toSc = some t ∧
      s.world.file.config hubToml = some (hubConfig cloudUrl) ∧
      t.world.file.config hubToml = some (hubConfig embeddedHubUrl) ∧
      hubConfig embeddedHubUrl ≠ (hubConfig cloudUrl).withTransport "sc" := by
  refine ⟨_, _, begin_hubLaunch true, rfl, ?_, ?_, by decide⟩
  · exact config_hubText (.inl rfl)
  · exact config_hubText (.inr rfl)

end BacnetBridge
