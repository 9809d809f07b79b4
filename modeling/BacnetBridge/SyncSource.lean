import BacnetBridge.Persist
import BacnetBridge.StartRouter

/-! Which router's foreign devices the sync task publishes: `bbmd_handle` against
the router that `run_router` holds. First whatever BBMD state `start_router` is given,
then with a transport that has none before it is started, which is when it is asked. -/
namespace BacnetBridge

/-- The sync task reads the BBMD state of the held router, and nothing when none
is held. -/
def World.Synced (w : World) : Prop := w.bbmdHandle = w.running.bind (·.bbmdState)

/-- Synced whenever the loop waits. -/
def Status.Synced : Status → Prop
  | .waiting w => w.Synced
  | .returned _ _ => True

/-- The turn would take a router with BBMD state away without starting another:
a `Stop`, or a switch whose call of `start_router` fails. -/
def Status.Orphans : Status → Input × Outcomes → Prop
  | .waiting w, (i, o) =>
    (∃ r b, w.running = some r ∧ r.bbmdState = some b) ∧
      (i = .command .stop ∨ i.Switches ∧ o.start.isOk = false)
  | .returned _ _, _ => False

/-- No router is held, and the handle is still what it was: in step only if it
was empty. -/
theorem World.synced_of_none {w : World} (hr : w.running = none) :
    w.Synced ↔ w.bbmdHandle = none := by
  simp [Synced, hr]

theorem World.Synced.handle {w : World} (h : w.Synced) {r : RunningRouter}
    (hr : w.running = some r) : w.bbmdHandle = r.bbmdState := by
  rw [h, hr]
  rfl

/-- A start that succeeds writes the handle; one that fails leaves it alone. -/
theorem synced_launched {w : World} (hr : w.running = none) (o : StartOutcome) :
    (w.launched o).Synced ↔ o.isOk = false → w.bbmdHandle = none := by
  cases o with
  | ok b => simp [World.Synced, World.launched, StartOutcome.isOk]
  | err e => simp [World.Synced, World.launched, StartOutcome.isOk, hr]

theorem readied_bbmdHandle (w : World) (T : Toml) (mode : String) (o : SaveOutcome) :
    (w.readied T mode o).bbmdHandle = w.bbmdHandle := by
  unfold World.readied
  split <;> rfl

/-- From a synced wait the handle is empty exactly if no router with BBMD state
is held. -/
theorem World.Synced.bbmdHandle_eq_none {w : World} (h : w.Synced) :
    w.bbmdHandle = none ↔ ¬ ∃ r b, w.running = some r ∧ r.bbmdState = some b := by
  rw [h]
  cases hr : w.running with
  | none => simp
  | some r => cases hb : r.bbmdState <;> simp [hb]

theorem Turn.synced_iff {T : Toml} {w w' : World} {o : Outcomes} {i : Input} (h : Idle w)
    (hs : w.Synced) (ht : Turn T w o i (.waiting w')) :
    w'.Synced ↔ ¬ (Status.waiting w).Orphans (i, o) := by
  cases ht with
  | ignored c hc hno =>
    apply iff_of_true hs
    rintro ⟨⟨r, b, hr, hb⟩, hstop | ⟨hswitch, -⟩⟩
    · obtain rfl : c = .stop := by simpa using hstop
      exact hno (h.held r hr)
    · obtain ⟨mode, hmode, hm⟩ := Input.switches_iff.mp hswitch
      obtain rfl : c = .switchTransport mode := by simpa using hmode
      exact hno hm
  | stopped r hr hrun =>
    have hnone : ((w.halted r).emit .stoppedViaCommand).Synced ↔ w.bbmdHandle = none :=
      World.synced_of_none rfl
    rw [hnone, hs.bbmdHandle_eq_none]
    simp [Status.Orphans]
  | started hr hrun =>
    have hempty : w.bbmdHandle = none := by simpa [World.synced_of_none hr] using hs
    have hlaunched := synced_launched (w := w.announced) hr o.start
    exact iff_of_true (hlaunched.mpr fun _ => hempty) (by simp [Status.Orphans, hr])
  | switched mode hm =>
    obtain ⟨-, hr, -⟩ := h.readied T mode o.save
    rw [synced_launched hr, readied_bbmdHandle, hs.bbmdHandle_eq_none]
    have hswitch : Input.Switches (.command (.switchTransport mode)) := hm
    have horphans : (Status.waiting w).Orphans (.command (.switchTransport mode), o) ↔
        (∃ r b, w.running = some r ∧ r.bbmdState = some b) ∧ o.start.isOk = false := by
      simp [Status.Orphans, hswitch]
    rw [horphans, not_and']

theorem Launch.synced {a : Launch} {T : Toml} {s : Status} (h : a.begin T = some s) :
    s.Synced := by
  obtain ⟨config, file, -, ⟨-, localAddr, -, rfl⟩ | ⟨-, e, rfl⟩⟩ := a.begin_cases h
  · obtain ⟨-, hr, -⟩ := a.entered_ready config file localAddr
    have hempty : (a.entered config file localAddr).bbmdHandle = none := by
      unfold entered
      split <;> rfl
    exact (synced_launched hr a.start).mpr fun _ => hempty
  · trivial

/-- The handle follows the held router through a run exactly if no turn takes a
router with BBMD state away without starting another. -/
theorem handle_follows_router_iff {a : Launch} {T : Toml} {s : Status} (h : a.begin T = some s)
    (inputs : List (Input × Outcomes)) :
    Runs.Always (Status.step T) s inputs Status.Synced ↔
      Runs.Each (Status.step T) s inputs fun s i => ¬ s.Orphans i := by
  refine Runs.always_iff_each ?_ ?_ (idle_always h inputs) (a.synced h)
  · rintro (w | ⟨r, w⟩) ⟨i, o⟩ (w' | ⟨r', w'⟩) hidle hs hstep
    · exact (step_turn (hidle w rfl) hstep).synced_iff (hidle w rfl) hs
    · apply iff_of_true trivial
      rintro ⟨⟨r, b, hr, hb⟩, hi⟩
      have hrun := (hidle w rfl).held r hr
      rcases step_turn (hidle w rfl) hstep with _ | _ | _ | _ | ⟨_, _, rfl | rfl⟩ | ⟨_, rfl | rfl⟩
      all_goals rcases hi with hi | ⟨hi, -⟩ <;> cases hi
    all_goals simp [Status.step] at hstep
  · rintro (w | ⟨r, w⟩) ⟨i, o⟩ hidle - hstep
    · obtain ⟨s, hs, -⟩ := turn_of_idle (T := T) (hidle w rfl) i o
      simp [hs] at hstep
    · simp [Status.Orphans]

/-! ## Without state before the start -/

/-- A transport has no BBMD state until it is started. -/
def Outside.StatelessBeforeStart (O : Outside) : Prop := ∀ transport, O.bbmdState transport = none

/-- A call of `start_router` ends so, where a transport has no BBMD state before its
start. -/
def StartOutcome.Possible (o : StartOutcome) : Prop :=
  ∃ (O : Outside) (config : BridgeConfig), O.StatelessBeforeStart ∧ o = .of (startRouter O config)

theorem StartOutcome.Possible.bbmdState {o : StartOutcome} (h : o.Possible) {b : Option Nat}
    (hb : o = .ok b) : b = none := by
  obtain ⟨O, config, hnone, rfl⟩ := h
  cases hstarted : startRouter O config with
  | error e => simp [hstarted, of] at hb
  | ok r =>
    obtain ⟨_, _, -, -, -, rfl⟩ := startRouter_eq_ok.mp hstarted
    rw [hstarted] at hb
    exact (StartOutcome.ok.inj hb).symm.trans (hnone _)

/-- The router that is held shares no BBMD state. -/
def Status.Unshared (s : Status) : Prop := ∀ r, s.world.running = some r → r.bbmdState = none

theorem unshared_of_none {s : Status} (h : s.world.running = none) : s.Unshared := by
  intro r hr
  cases h.symm.trans hr

theorem unshared_launched {w : World} (hw : w.running = none) {o : StartOutcome}
    (ho : o.Possible) : (Status.waiting (w.launched o)).Unshared := by
  cases o with
  | ok b =>
    intro r hr
    obtain rfl := ho.bbmdState rfl
    obtain rfl := Option.some.inj hr
    rfl
  | err e => exact unshared_of_none hw

theorem Turn.unshared {T : Toml} {w : World} {o : Outcomes} {i : Input} {s : Status}
    (h : Idle w) (hw : (Status.waiting w).Unshared) (ho : o.start.Possible)
    (ht : Turn T w o i s) : s.Unshared := by
  cases ht with
  | ignored => exact hw
  | stopped r => exact unshared_of_none rfl
  | started hr => exact unshared_launched (w := w.announced) hr ho
  | switched mode => exact unshared_launched (h.readied T mode o.save).2.1 ho
  | shutDown i r => exact unshared_of_none (leave_running (w.halted r))
  | refused => exact unshared_of_none (leave_running w)

theorem Launch.unshared {a : Launch} {T : Toml} {s : Status} (h : a.begin T = some s)
    (hstart : a.start.Possible) : s.Unshared := by
  obtain ⟨config, file, -, ⟨-, localAddr, -, rfl⟩ | ⟨-, e, rfl⟩⟩ := a.begin_cases h
  · exact unshared_launched (a.entered_ready config file localAddr).2.1 hstart
  · exact unshared_of_none (leave_running (a.world config file).announced)

theorem unshared_always {a : Launch} {T : Toml} {s : Status} (h : a.begin T = some s)
    (hstart : a.start.Possible) {inputs : List (Input × Outcomes)}
    (hinputs : ∀ i ∈ inputs, i.2.start.Possible) :
    Runs.Always (Status.step T) s inputs Status.Unshared := by
  have hmade : Runs.Each (Status.step T) s inputs fun _ i => i.2.start.Possible :=
    fun seen i hp _ _ => hinputs i (hp.subset (by simp))
  refine Runs.always_of_each ?_ (idle_always h inputs) (a.unshared h hstart) hmade
  rintro (w | ⟨r, w⟩) ⟨i, o⟩ t hidle hw ho hstep
  · exact (step_turn (hidle w rfl) hstep).unshared (hidle w rfl) hw ho
  · cases hstep

/-- Whatever is commanded and however each start ends that `start_router` can make: at
every wait the handle holds the BBMD state of the router that is held, and nothing when
none is. The state is always `None`, so that no foreign device is ever published. -/
theorem handle_follows_router {a : Launch} {T : Toml} {s : Status} (h : a.begin T = some s)
    (hstart : a.start.Possible) {inputs : List (Input × Outcomes)}
    (hinputs : ∀ i ∈ inputs, i.2.start.Possible) :
    Runs.Always (Status.step T) s inputs Status.Synced ∧
      Runs.Always (Status.step T) s inputs fun s => ∀ w, s = .waiting w → w.bbmdHandle = none := by
  have hunshared := unshared_always h hstart hinputs
  have hsynced : Runs.Always (Status.step T) s inputs Status.Synced := by
    refine (handle_follows_router_iff h inputs).mpr ?_
    intro seen i hp t ht horphans
    have hbare := hunshared seen ((List.prefix_append seen [i]).trans hp) t ht
    cases t with
    | returned => exact horphans
    | waiting w =>
      obtain ⟨⟨r, b, hr, hb⟩, -⟩ := horphans
      cases (hbare r hr).symm.trans hb
  refine ⟨hsynced, ?_⟩
  rintro seen hp t ht w rfl
  have hw : w.Synced := hsynced seen hp _ ht
  rw [hw, Option.bind_eq_none_iff]
  exact hunshared seen hp _ ht

/-- A `Stop` and a `Start`. -/
theorem handle_follows_router_over_a_restart :
    ∃ s, (spokeLaunch (.ok none)).begin spokeToml = some s ∧
      Runs.Always (Status.step spokeToml) s
        [(.command .stop, ⟨.ok none, .written⟩), (.command .start, ⟨.ok none, .written⟩)]
        Status.Synced := by
  have hmade : (StartOutcome.ok none).Possible :=
    ⟨plainOutside, dangerousConfig, fun _ => rfl, rfl⟩
  refine ⟨_, rfl, (handle_follows_router (a := spokeLaunch (.ok none)) rfl hmade ?_).1⟩
  simp [hmade]

end BacnetBridge
