import BacnetBridge.Turns

/-! The lifecycle is kept in two places, the published state and the router
that `run_router` holds: when the two agree. -/
namespace BacnetBridge

/-- A held router is published as `Running`, and none as `Stopped`. -/
def World.Agrees (w : World) : Prop :=
  (w.running.isSome ∧ w.state = .running) ∨ (w.running = none ∧ w.state = .stopped)

/-- Agreement whenever the loop waits. -/
def Status.Agrees : Status → Prop
  | .waiting w => w.Agrees
  | .returned _ _ => True

/-- The input makes the loop call `start_router`. -/
def World.CallsStart (w : World) : Input → Prop
  | .command .start => w.state = .stopped
  | .command (.switchTransport mode) => Task.validMode mode = true
  | _ => False

/-- The loop does not call `start_router`, or the call succeeds. -/
def Status.StartSucceeds : Status → Input × Outcomes → Prop
  | .waiting w, (i, o) => w.CallsStart i → o.start.isOk
  | .returned _ _, _ => True

theorem agrees_launched {w : World} (hr : w.running = none) (hs : w.state = .starting)
    (o : StartOutcome) : (w.launched o).Agrees ↔ o.isOk := by
  cases o with
  | ok b => simp [World.Agrees, World.launched, StartOutcome.isOk]
  | err e => simp [World.Agrees, World.launched, StartOutcome.isOk, hr, hs]

/-- One turn keeps the agreement unless its call of `start_router` fails. -/
theorem Turn.agrees_iff {T : Toml} {w w' : World} {o : Outcomes} {i : Input} (h : Idle w)
    (ha : w.Agrees) (ht : Turn T w o i (.waiting w')) :
    w'.Agrees ↔ (w.CallsStart i → o.start.isOk) := by
  cases ht with
  | ignored c hc hno =>
    refine iff_of_true ha fun hcall => absurd ?_ hno
    cases c with
    | start => exact hcall
    | switchTransport mode => exact hcall
    | stop => exact hcall.elim
    | exit => exact absurd rfl hc
  | stopped r hr hs =>
    simp [World.Agrees, World.CallsStart, World.emit, World.halted]
  | started hr hs =>
    simpa [World.CallsStart, hs] using agrees_launched (w := w.announced) hr rfl o.start
  | switched mode hm =>
    obtain ⟨-, hr, hs⟩ := h.readied T mode o.save
    simpa [World.CallsStart, hm] using agrees_launched hr hs o.start

/-- The first wait finds the agreement unless the initial start failed. -/
theorem Launch.agrees_iff {a : Launch} {T : Toml} {s : Status} (h : a.begin T = some s) :
    s.Agrees ↔ (a.CallsStart → a.start.isOk) := by
  obtain ⟨config, file, -, ⟨hc, localAddr, -, rfl⟩ | ⟨hc, e, rfl⟩⟩ := a.begin_cases h
  · obtain ⟨-, hr, hs⟩ := a.entered_ready config file localAddr
    simpa [Status.Agrees, hc] using agrees_launched hr hs a.start
  · simp [Status.Agrees, hc]

/-- The agreement lasts exactly as long as no call of `start_router` fails: a
failed one leaves the state at `Starting`, from which `Stopped` is refused. -/
theorem agreement_lasts_iff {a : Launch} {T : Toml} {s : Status} (h : a.begin T = some s)
    (inputs : List (Input × Outcomes)) :
    Runs.Always (Status.step T) s inputs Status.Agrees ↔
      (a.CallsStart → a.start.isOk) ∧
        Runs.Each (Status.step T) s inputs Status.StartSucceeds := by
  rw [← a.agrees_iff h]
  have hrun : s.Agrees → (Runs.Always (Status.step T) s inputs Status.Agrees ↔
      Runs.Each (Status.step T) s inputs Status.StartSucceeds) := by
    refine Runs.always_iff_each ?_ ?_ (idle_always h inputs)
    · rintro (w | ⟨r, w⟩) ⟨i, o⟩ (w' | ⟨r', w'⟩) hidle ha hstep
      · exact (step_turn (hidle w rfl) hstep).agrees_iff (hidle w rfl) ha
      · have hturn := step_turn (hidle w rfl) hstep
        apply iff_of_true trivial
        intro hcall
        rcases hturn with _ | _ | _ | _ | ⟨_, _, rfl | rfl⟩ | ⟨_, rfl | rfl⟩ <;> cases hcall
      all_goals simp [Status.step] at hstep
    · rintro (w | ⟨r, w⟩) ⟨i, o⟩ hidle - hstep
      · obtain ⟨s, hs, -⟩ := turn_of_idle (T := T) (hidle w rfl) i o
        simp [hs] at hstep
      · trivial
  constructor
  · intro h
    exact ⟨h.start, (hrun h.start).mp h⟩
  · rintro ⟨h0, h⟩
    exact (hrun h0).mpr h

/-- A file that names a hub and nothing else. -/
def spokeText : String := "[router.sc]\nhub_url = \"wss://hub.example.com:443\"\n"

def spokeDoc : BridgeDoc where
  router := some
    { transport := none
      deviceId := none
      vendorId := none
      deviceName := none
      lan := none
      sc := some ⟨some "wss://hub.example.com:443", none, none, none, none, none, none, none⟩
      tailscale := none }
  web := none
  hub := none

def spokeToml : Toml := .ofTable [(spokeDoc, spokeText)]

/-- A bridge with that file whose first call of `start_router` ends as given. -/
def spokeLaunch (start : StartOutcome) : Launch where
  configPath := "config.toml"
  file := .text spokeText
  overrides := []
  transport := none
  withHub := false
  firstSave := .written
  hub := .listening none
  start := start

def addressInUse : StartOutcome := .err (.router "Address already in use (os error 98)")

/-- A bridge that starts, is stopped and is started again keeps the agreement. -/
theorem agreement_lasts_over_a_restart :
    ∃ s, (spokeLaunch (.ok none)).begin spokeToml = some s ∧
      Runs.Always (Status.step spokeToml) s
        [(.command .stop, ⟨.ok none, .written⟩), (.command .start, ⟨.ok none, .written⟩)]
        Status.Agrees := by
  refine ⟨_, rfl, (agreement_lasts_iff (a := spokeLaunch (.ok none)) rfl _).mpr ⟨fun _ => rfl, ?_⟩⟩
  simp only [Runs.each_cons]
  refine ⟨fun _ => rfl, fun t ht => ⟨?_, fun u _ => Runs.each_nil⟩⟩
  cases t with
  | waiting w => exact fun _ => rfl
  | returned r w => trivial

/-- The port is taken: the loop waits with no router and `Starting` published,
and a later `Start` is ignored. -/
theorem failed_start_strands_the_bridge :
    ∃ w, (spokeLaunch addressInUse).begin spokeToml = some (.waiting w) ∧
      w.running = none ∧ w.state = .starting ∧ ¬ w.Agrees ∧
      Status.step spokeToml (.waiting w) (.command .start, ⟨.ok none, .written⟩) =
        some (.waiting w) := by
  refine ⟨_, rfl, rfl, rfl, ?_, rfl⟩
  rintro (⟨h, -⟩ | ⟨-, h⟩) <;> cases h

end BacnetBridge
