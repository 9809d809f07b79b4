import BacnetBridge.Router
import BacnetBridge.Runs

/-! What one turn of `run_router`'s loop does, command by command, when it is
performed from a wait: the lock is free, and a held router is a running one. -/
namespace BacnetBridge

open Prog

/-- What holds of the memory whenever the loop waits. The state is `Starting`
after a start that failed. -/
structure Idle (w : World) : Prop where
  lock : w.configLock = .free
  held : ∀ r, w.running = some r → w.state = .running
  bare : w.running = none → w.state = .stopped ∨ w.state = .starting

theorem Idle.cases {w : World} (h : Idle w) :
    (∃ r, w.running = some r ∧ w.state = .running) ∨
    (w.running = none ∧ w.state = .stopped) ∨ (w.running = none ∧ w.state = .starting) := by
  cases hr : w.running with
  | some r => exact .inl ⟨r, rfl, h.held r hr⟩
  | none =>
    rcases h.bare hr with hs | hs
    · exact .inr (.inl ⟨rfl, hs⟩)
    · exact .inr (.inr ⟨rfl, hs⟩)

theorem Idle.running_none {w : World} (h : Idle w) (hs : w.state ≠ .running) :
    w.running = none := by
  cases hr : w.running with
  | none => rfl
  | some r => exact absurd (h.held r hr) hs

namespace World

/-- A router has been stopped and the two states published around it. -/
def halted (w : World) (r : RunningRouter) : World :=
  { w with
    state := .stopped, running := none
    log := w.log ++ [.published .stopping, .stopped r.id, .published .stopped] }

def announced (w : World) : World := { w with state := .starting }.emit (.published .starting)

/-- `start_router` was called in state `Starting` with no router held. When it
fails, the refused transition to `Stopped` leaves the state at `Starting`. -/
def launched (w : World) : StartOutcome → World
  | .ok b =>
    { w with
      state := .running, bbmdHandle := b, running := some ⟨w.routers, b⟩
      routers := w.routers + 1
      log := w.log ++ [.startCalled, .started w.routers, .published .running] }
  | .err _ => { w with log := w.log ++ [.startCalled, .startFailed] }

/-- The transport is replaced in memory and all of the memory saved. -/
def saved (w : World) (T : Toml) (mode : String) (o : SaveOutcome) : World :=
  let config := { w.config with router.transport := mode }
  { w with config, file := (config.save T o w.file).2 }

/-- A switch up to the call of `start_router`: it leaves `Starting` behind, and
no router, whatever it found. -/
def readied (w : World) (T : Toml) (mode : String) (o : SaveOutcome) : World :=
  match w.running, w.state with
  | some r, _ => (((w.emit (.switching mode)).halted r).saved T mode o).announced
  | none, .stopped => ((w.emit (.switching mode)).saved T mode o).announced
  | none, _ => (w.emit (.switching mode)).saved T mode o

end World

namespace Task

theorem run_launch {w : World} (o : StartOutcome) (hl : w.configLock = .free)
    (hr : w.running = none) (hs : w.state = .starting) :
    (launch o).run w = some (.ok (), w.launched o) := by
  cases o with
  | ok b =>
    simp [launch, run_bind, lockRead, run_await, startRouter, note, World.emit, dropRead,
      setRunning, hr, transitionOk, transition, run_attempt, hs, AppState.tryTransition,
      AppState.valid, World.launched, hl, RwLock.free]
  | err e =>
    simp [launch, run_bind, lockRead, run_await, startRouter, note, World.emit, dropRead,
      transitionOk, transition, run_attempt, hs, AppState.tryTransition, AppState.valid,
      World.launched, hl, RwLock.free]

theorem run_shutDown_running {w : World} {r : RunningRouter} (hr : w.running = some r)
    (hs : w.state = .running) : shutDown.run w = some (.ok .break, w.halted r) := by
  simp [shutDown, run_bind, transition, hs, AppState.tryTransition, AppState.valid, World.emit,
    stopHeld, takeRunning, hr, stop, note, World.halted]

theorem run_shutDown_refused {w : World} (hs : w.state ≠ .running) :
    shutDown.run w =
      some (.error (.bridge (.invalidStateTransition w.state.debug "Stopping")), w) := by
  have h : w.state.valid .stopping = false := by
    cases hw : w.state <;> simp_all [AppState.valid]
  simp [shutDown, run_bind, transition, h, AppState.debug]

theorem run_onStop_running {w : World} {r : RunningRouter} (hr : w.running = some r)
    (hs : w.state = .running) :
    onStop.run w = some (.ok .continue, (w.halted r).emit .stoppedViaCommand) := by
  simp [onStop, run_bind, transition, hs, AppState.tryTransition, AppState.valid, World.emit,
    stopHeld, takeRunning, hr, stop, note, World.halted]

theorem run_onStop_other {w : World} (hs : w.state ≠ .running) :
    onStop.run w = some (.ok .continue, w) := by
  simp [onStop, run_bind, hs]

theorem run_onStart {w : World} (h : Idle w) (hs : w.state = .stopped) (o : Outcomes) :
    (onStart o).run w = some (.ok .continue, w.announced.launched o.start) := by
  have hr := h.running_none (by simp [hs])
  have hl := run_launch (w := w.announced) o.start h.lock hr rfl
  simp only [World.announced] at hl
  simp [onStart, run_bind, hs, run_attempt, transition, AppState.tryTransition, AppState.valid,
    World.announced, hl]

theorem run_onStart_other {w : World} (hs : w.state ≠ .stopped) (o : Outcomes) :
    (onStart o).run w = some (.ok .continue, w) := by
  simp [onStart, run_bind, hs]

theorem run_stopForSwitch_some {w : World} {r : RunningRouter} (hr : w.running = some r)
    (hs : w.state = .running) : stopForSwitch.run w = some (.ok (), w.halted r) := by
  simp [stopForSwitch, run_bind, takeRunning, hr, transitionOk, transition, run_attempt, hs,
    AppState.tryTransition, AppState.valid, stop, note, World.emit, World.halted]

theorem run_stopForSwitch_none {w : World} (hr : w.running = none) :
    stopForSwitch.run w = some (.ok (), w) := by
  cases w
  simp_all [stopForSwitch, run_bind, takeRunning]

theorem run_onSwitchTransport_invalid {T : Toml} {mode : String} {o : Outcomes} {w : World}
    (hm : validMode mode = false) :
    (onSwitchTransport T mode o).run w = some (.ok .continue, w) := by
  simp [onSwitchTransport, hm]

theorem run_relaunch_stopped (T : Toml) (mode : String) (o : Outcomes) {w : World}
    (hl : w.configLock = .free) (hr : w.running = none) (hs : w.state = .stopped) :
    (relaunch T mode o).run w =
      some (.ok (), (w.saved T mode o.save).announced.launched o.start) := by
  have hgo := run_launch (w := (w.saved T mode o.save).announced) o.start hl hr rfl
  simp only [World.announced, World.saved, hl] at hgo
  simp [relaunch, run_bind, lockWrite, run_await, hl, RwLock.free, saveTransport, dropWrite,
    transitionOk, transition, run_attempt, hs, AppState.tryTransition, AppState.valid,
    World.announced, World.saved] at hgo ⊢
  exact hgo

theorem run_relaunch_starting (T : Toml) (mode : String) (o : Outcomes) {w : World}
    (hl : w.configLock = .free) (hr : w.running = none) (hs : w.state = .starting) :
    (relaunch T mode o).run w = some (.ok (), (w.saved T mode o.save).launched o.start) := by
  have hgo := run_launch (w := w.saved T mode o.save) o.start hl hr hs
  simp [relaunch, run_bind, lockWrite, run_await, hl, RwLock.free, saveTransport, dropWrite,
    transitionOk, transition, run_attempt, hs, AppState.tryTransition, AppState.valid,
    World.saved] at hgo ⊢
  exact hgo

theorem run_onSwitchTransport {T : Toml} {mode : String} {o : Outcomes} {w : World} (h : Idle w)
    (hm : validMode mode = true) : (onSwitchTransport T mode o).run w =
      some (.ok .continue, (w.readied T mode o.save).launched o.start) := by
  have hl := h.lock
  rcases h.cases with ⟨r, hr, hs⟩ | ⟨hr, hs⟩ | ⟨hr, hs⟩
  · have hstop := run_stopForSwitch_some (w := w.emit (.switching mode)) hr hs
    have hgo := run_relaunch_stopped T mode o
      (w := (w.emit (.switching mode)).halted r) hl rfl rfl
    simp [onSwitchTransport, hm, run_bind, note, hstop, hgo, World.readied, hr]
  · have hstop := run_stopForSwitch_none (w := w.emit (.switching mode)) hr
    have hgo := run_relaunch_stopped T mode o
      (w := w.emit (.switching mode)) hl hr hs
    simp [onSwitchTransport, hm, run_bind, note, hstop, hgo, World.readied, hr, hs]
  · have hstop := run_stopForSwitch_none (w := w.emit (.switching mode)) hr
    have hgo := run_relaunch_starting T mode o
      (w := w.emit (.switching mode)) hl hr hs
    simp [onSwitchTransport, hm, run_bind, note, hstop, hgo, World.readied, hr, hs]

end Task

/-- The input finds the state it is meant for, so the turn does something. -/
def World.Acts (w : World) : Input → Prop
  | .command .start => w.state = .stopped
  | .command (.switchTransport mode) => Task.validMode mode = true
  | _ => w.state = .running

/-- Everything one turn can do. -/
inductive Turn (T : Toml) (w : World) (o : Outcomes) : Input → Status → Prop
  | ignored (c : RouterCommand) : c ≠ .exit → ¬ w.Acts (.command c) →
      Turn T w o (.command c) (.waiting w)
  | stopped (r : RunningRouter) : w.running = some r → w.state = .running →
      Turn T w o (.command .stop) (.waiting ((w.halted r).emit .stoppedViaCommand))
  | started : w.running = none → w.state = .stopped →
      Turn T w o (.command .start) (.waiting (w.announced.launched o.start))
  | switched (mode : String) : Task.validMode mode = true →
      Turn T w o (.command (.switchTransport mode))
        (.waiting ((w.readied T mode o.save).launched o.start))
  | shutDown (i : Input) (r : RunningRouter) : i = .ctrlC ∨ i = .command .exit →
      w.running = some r → w.state = .running →
      Turn T w o i (.returned (.ok ()) (w.halted r).leave)
  | refused (i : Input) : i = .ctrlC ∨ i = .command .exit → w.running = none →
      w.state ≠ .running → Turn T w o i (.returned (.error (.bridge
        (.invalidStateTransition w.state.debug "Stopping"))) w.leave)

theorem turn_shutDown {T : Toml} {w : World} {i : Input} {o : Outcomes} (h : Idle w)
    (hi : i = .ctrlC ∨ i = .command .exit) :
    ∃ s, Status.step T (.waiting w) (i, o) = some s ∧ Turn T w o i s := by
  have hh : handle T i o = Task.shutDown := by rcases hi with rfl | rfl <;> rfl
  by_cases hs : w.state = .running
  · rcases h.cases with ⟨r, hr, -⟩ | ⟨-, hs'⟩ | ⟨-, hs'⟩
    · exact ⟨_, by simp [Status.step, hh, Task.run_shutDown_running hr hs], .shutDown i r hi hr hs⟩
    all_goals simp [hs] at hs'
  · exact ⟨_, by simp [Status.step, hh, Task.run_shutDown_refused hs],
      .refused i hi (h.running_none hs) hs⟩

/-- A turn from a wait always comes to an end, in one of the ways listed. -/
theorem turn_of_idle {T : Toml} {w : World} (h : Idle w) (i : Input) (o : Outcomes) :
    ∃ s, Status.step T (.waiting w) (i, o) = some s ∧ Turn T w o i s := by
  cases i with
  | ctrlC => exact turn_shutDown h (.inl rfl)
  | command c =>
    cases c with
    | exit => exact turn_shutDown h (.inr rfl)
    | stop =>
      by_cases hs : w.state = .running
      · rcases h.cases with ⟨r, hr, -⟩ | ⟨-, hs'⟩ | ⟨-, hs'⟩
        · exact ⟨_, by simp [Status.step, handle, Task.run_onStop_running hr hs],
            .stopped r hr hs⟩
        all_goals simp [hs] at hs'
      · exact ⟨_, by simp [Status.step, handle, Task.run_onStop_other hs],
          .ignored _ (by simp) hs⟩
    | start =>
      by_cases hs : w.state = .stopped
      · exact ⟨_, by simp [Status.step, handle, Task.run_onStart h hs],
          .started (h.running_none (by simp [hs])) hs⟩
      · exact ⟨_, by simp [Status.step, handle, Task.run_onStart_other hs],
          .ignored _ (by simp) hs⟩
    | switchTransport mode =>
      cases hm : Task.validMode mode with
      | true => exact ⟨_, by simp [Status.step, handle, Task.run_onSwitchTransport h hm],
          .switched mode hm⟩
      | false => exact ⟨_, by simp [Status.step, handle, Task.run_onSwitchTransport_invalid hm],
          .ignored _ (by simp) (by simp [World.Acts, hm])⟩

theorem step_turn {T : Toml} {w : World} {i : Input} {o : Outcomes} {s : Status} (h : Idle w)
    (hs : Status.step T (.waiting w) (i, o) = some s) : Turn T w o i s := by
  obtain ⟨s', hs', ht⟩ := turn_of_idle (T := T) h i o
  obtain rfl := Option.some.inj (hs.symm.trans hs')
  exact ht

/-! ## Every wait is idle -/

theorem Idle.readied {w : World} (h : Idle w) (T : Toml) (mode : String) (o : SaveOutcome) :
    (w.readied T mode o).configLock = .free ∧ (w.readied T mode o).running = none ∧
      (w.readied T mode o).state = .starting := by
  have hl := h.lock
  rcases h.cases with ⟨r, hr, hs⟩ | ⟨hr, hs⟩ | ⟨hr, hs⟩ <;>
    simp [World.readied, hr, hs, World.announced, World.saved, World.halted, World.emit, hl]

theorem idle_launched {w : World} (hl : w.configLock = .free) (hr : w.running = none)
    (hs : w.state = .starting) (o : StartOutcome) : Idle (w.launched o) := by
  cases o with
  | ok b => exact ⟨hl, fun _ _ => rfl, by simp [World.launched]⟩
  | err e => exact ⟨hl, by simp [World.launched, hr], fun _ => .inr hs⟩

theorem Turn.idle {T : Toml} {w : World} {o : Outcomes} {i : Input} {w' : World}
    (h : Idle w) (ht : Turn T w o i (.waiting w')) : Idle w' := by
  cases ht with
  | ignored => exact h
  | stopped r => exact ⟨h.lock, by simp [World.emit, World.halted], fun _ => .inl rfl⟩
  | started hr hs => exact idle_launched (w := w.announced) h.lock hr rfl o.start
  | switched mode hm =>
    obtain ⟨hl, hr, hs⟩ := h.readied T mode o.save
    exact idle_launched hl hr hs o.start

/-! ## Start-up -/

/-- The embedded hub listens and its URL stands in the configuration. -/
def World.embedded (w : World) (localAddr : Option String) : World :=
  { w with
    hubListenAddr := some (localAddr.getD w.config.hub.bind)
    cloudHubUrl := some w.config.router.sc.hubUrl
    config.router.sc.hubUrl := embeddedHubUrl }

/-- The memory when `run_router` first calls `start_router`. -/
def Launch.entered (a : Launch) (config : BridgeConfig) (file : File)
    (localAddr : Option String) : World :=
  if a.withHub then (a.world config file).announced.embedded localAddr
  else (a.world config file).announced

theorem run_startEmbeddedHub {w : World} (hl : w.configLock = .free) (localAddr : Option String) :
    (startEmbeddedHub (.listening localAddr)).run w = some (.ok (), w.embedded localAddr) := by
  cases w
  simp_all [startEmbeddedHub, run_bind, Task.lockWrite, run_await, Task.dropWrite, RwLock.free,
    World.embedded]

theorem Task.run_initialStart {w : World} (o : StartOutcome) (hl : w.configLock = .free)
    (hr : w.running = none) (hs : w.state = .starting) :
    (initialStart o).run w = some (.ok (), w.launched o) := by
  cases o with
  | ok b =>
    simp [initialStart, run_bind, lockRead, run_await, startRouter, note, World.emit, dropRead,
      setRunning, hr, transition, hs, AppState.tryTransition, AppState.valid, World.launched, hl,
      RwLock.free]
  | err e =>
    simp [initialStart, run_bind, lockRead, run_await, startRouter, note, World.emit, dropRead,
      transitionOk, transition, run_attempt, hs, AppState.tryTransition, AppState.valid,
      World.launched, hl, RwLock.free]

/-- `run_router` gets as far as its first call of `start_router`. -/
def Launch.CallsStart (a : Launch) : Prop := a.withHub = true → ∃ addr, a.hub = .listening addr

theorem Launch.run_startUp (a : Launch) (config : BridgeConfig) (file : File) :
    (a.CallsStart ∧ ∃ localAddr, (a.withHub = true → a.hub = .listening localAddr) ∧
      (startUp a.withHub a.hub a.start).run (a.world config file) =
        some (.ok (), (a.entered config file localAddr).launched a.start)) ∨
    (¬ a.CallsStart ∧ ∃ e, (startUp a.withHub a.hub a.start).run (a.world config file) =
      some (.error e, (a.world config file).announced)) := by
  have hgo : (Task.transition .starting).run (a.world config file) =
      some (.ok (), (a.world config file).announced) := rfl
  cases hw : a.withHub with
  | false =>
    have hstart := Task.run_initialStart (w := (a.world config file).announced) a.start rfl rfl rfl
    exact .inl ⟨by simp [CallsStart, hw], none, by simp,
      by simp [startUp, run_bind, hgo, hstart, entered, hw]⟩
  | true =>
    cases hh : a.hub with
    | tlsFailed reason =>
      refine .inr ⟨by simp [CallsStart, hw, hh], ?_⟩
      exact ⟨_, by simp [startUp, run_bind, hgo, startEmbeddedHub]; rfl⟩
    | startFailed reason =>
      refine .inr ⟨by simp [CallsStart, hw, hh], ?_⟩
      exact ⟨_, by simp [startUp, run_bind, hgo, startEmbeddedHub]; rfl⟩
    | listening localAddr =>
      have hhub := run_startEmbeddedHub (w := (a.world config file).announced) rfl localAddr
      have hstart := Task.run_initialStart
        (w := (a.world config file).announced.embedded localAddr) a.start rfl rfl rfl
      exact .inl ⟨by simp [CallsStart, hh], localAddr, fun _ => rfl,
        by simp [startUp, run_bind, hgo, hhub, hstart, entered, hw]⟩

/-- `run_router` reaches its loop unless the embedded hub does not come up. -/
theorem Launch.begin_cases {a : Launch} {T : Toml} {s : Status} (h : a.begin T = some s) :
    ∃ config file, BridgeConfig.load T a.overrides a.firstSave a.file = (.ok config, file) ∧
      ((a.CallsStart ∧ ∃ localAddr, (a.withHub = true → a.hub = .listening localAddr) ∧
          s = .waiting ((a.entered config file localAddr).launched a.start)) ∨
        (¬ a.CallsStart ∧
          ∃ e, s = .returned (.error e) (a.world config file).announced.leave)) := by
  unfold begin at h
  split at h
  · cases h
  · rename_i config file hload
    refine ⟨config, file, hload, ?_⟩
    rcases a.run_startUp config file with ⟨hc, localAddr, hhub, hrun⟩ | ⟨hc, e, hrun⟩
    · exact .inl ⟨hc, localAddr, hhub, by simpa [hrun] using h.symm⟩
    · exact .inr ⟨hc, e, by simpa [hrun] using h.symm⟩

/-- The memory when the loop first waits. -/
theorem Launch.begin_waiting {a : Launch} {T : Toml} {w : World}
    (h : a.begin T = some (.waiting w)) : ∃ config file localAddr,
      BridgeConfig.load T a.overrides a.firstSave a.file = (.ok config, file) ∧
      (a.withHub = true → a.hub = .listening localAddr) ∧
      w = (a.entered config file localAddr).launched a.start := by
  obtain ⟨config, file, hload, ⟨-, localAddr, hhub, hs⟩ | ⟨-, e, hs⟩⟩ := a.begin_cases h
  · exact ⟨config, file, localAddr, hload, hhub, Status.waiting.inj hs⟩
  · cases hs

/-- Before the first call of `start_router` the lock is free, no router is held
and `Starting` is published. -/
theorem leave_running (w : World) : w.leave.running = none := by
  unfold World.leave
  split
  · assumption
  · rfl

theorem Launch.entered_ready (a : Launch) (config : BridgeConfig) (file : File)
    (localAddr : Option String) :
    (a.entered config file localAddr).configLock = .free ∧
      (a.entered config file localAddr).running = none ∧
      (a.entered config file localAddr).state = .starting := by
  unfold entered
  split <;> exact ⟨rfl, rfl, rfl⟩

theorem Launch.idle {a : Launch} {T : Toml} {w : World} (h : a.begin T = some (.waiting w)) :
    Idle w := by
  obtain ⟨config, file, localAddr, -, -, rfl⟩ := a.begin_waiting h
  obtain ⟨hl, hr, hs⟩ := a.entered_ready config file localAddr
  exact idle_launched hl hr hs a.start

/-- Every wait of every run is idle. -/
theorem idle_always {a : Launch} {T : Toml} {s : Status} (h : a.begin T = some s)
    (inputs : List (Input × Outcomes)) :
    Runs.Always (Status.step T) s inputs fun s => ∀ w, s = .waiting w → Idle w := by
  refine Runs.always_of_step ?_ ?_ inputs
  · rintro (w | w) ⟨i, o⟩ t hs hstep w' rfl
    · exact (step_turn (hs w rfl) hstep).idle (hs w rfl)
    · simp [Status.step] at hstep
  · rintro w rfl
    exact a.idle h

end BacnetBridge
