import BacnetBridge.Atomic
import BacnetBridge.Overrides

/-! `router_cmd.rs`: `run_router` from start-up to its exit, over the memory it
shares with the web server. Each await point and each access to shared state is
one atomic step. What it calls outside that memory (`start_router`, `stop` and the
start of the embedded hub) is taken to return, and the step is when it does. -/
namespace BacnetBridge

inductive RouterCommand
  | stop
  | start
  | switchTransport (mode : String)
  | exit
  deriving DecidableEq, Repr

/-- A started router. `id` tells the routers of one process apart; `bbmdState`
names the BBMD table it shares, when it has one. -/
structure RunningRouter where
  id : Nat
  bbmdState : Option Nat
  deriving DecidableEq, Repr

structure RwLock where
  readers : Nat
  writing : Bool
  deriving DecidableEq, Repr

def RwLock.free : RwLock := ⟨0, false⟩

/-- A command as the loop receives it. `acceptedAt` is how much the loop had
logged when the request handler that sent it checked the published state. -/
structure Request where
  command : RouterCommand
  acceptedAt : Nat
  deriving DecidableEq, Repr

/-- What `run_router` does that others can see or that outlives it, in order. -/
inductive Event
  | published (state : AppState)
  | startCalled
  | started (id : Nat)
  | startFailed
  | stopped (id : Nat)
  | dropped (id : Nat)
  | switching (mode : String)
  | stoppedViaCommand
  | received (request : Request)
  | left
  deriving DecidableEq, Repr

structure World where
  /-- The value in the watch channel of `state`. -/
  state : AppState
  running : Option RunningRouter
  bbmdHandle : Option Nat
  config : BridgeConfig
  configLock : RwLock
  configPath : Option String
  /-- What is at the configuration path. -/
  file : File
  isEmbeddedHub : Bool
  cloudHubUrl : Option String
  hubListenAddr : Option String
  /-- Routers started so far. -/
  routers : Nat
  log : List Event
  deriving DecidableEq, Repr

def World.emit (w : World) (e : Event) : World := { w with log := w.log ++ [e] }

/-- How `start_router` ends. -/
inductive StartOutcome
  | ok (bbmdState : Option Nat)
  | err (e : BridgeError)
  deriving DecidableEq, Repr

def StartOutcome.isOk : StartOutcome → Bool
  | .ok _ => true
  | .err _ => false

/-- How the outside world answers while one command is processed. -/
structure Outcomes where
  start : StartOutcome
  save : SaveOutcome
  deriving DecidableEq, Repr

/-- How the embedded hub comes up. `ScHub::local_addr` may know no address. -/
inductive HubOutcome
  | tlsFailed (reason : String)
  | startFailed (reason : String)
  | listening (localAddr : Option String)
  deriving DecidableEq, Repr

/-- `Box<dyn Error>` of `run_router`. -/
inductive RunError
  | bridge (e : BridgeError)
  | message (text : String)
  deriving DecidableEq, Repr

/-- What the loop does after a command. -/
inductive Flow
  | continue
  | break
  deriving DecidableEq, Repr

abbrev Task := Prog World RunError

namespace Task

def note (e : Event) : Task Unit := .modify (·.emit e)

def transition (next : AppState) : Task Unit := .atomic fun w =>
  match w.state.tryTransition next with
  | .ok s => (.ok (), { w with state := s }.emit (.published s))
  | .error e => (.error (.bridge e), w)

/-- `state.try_transition(next).ok()`. -/
def transitionOk (next : AppState) : Task Unit := do
  let _ ← (transition next).attempt
  return

def lockRead : Task Unit := .await (fun w => !w.configLock.writing) fun w =>
  (.ok (), { w with configLock.readers := w.configLock.readers + 1 })

def dropRead : Task Unit := .modify fun w =>
  { w with configLock.readers := w.configLock.readers - 1 }

def lockWrite : Task Unit :=
  .await (fun w => !w.configLock.writing && w.configLock.readers == 0) fun w =>
    (.ok (), { w with configLock.writing := true })

def dropWrite : Task Unit := .modify fun w => { w with configLock.writing := false }

/-- `running.take()`. -/
def takeRunning : Task (Option RunningRouter) := .atomic fun w =>
  (.ok w.running, { w with running := none })

/-- `running = Some(r)`: a router still held is dropped. -/
def setRunning (r : RunningRouter) : Task Unit := .modify fun w =>
  match w.running with
  | none => { w with running := some r }
  | some old => { w with running := some r }.emit (.dropped old.id)

/-- `r.stop().await`. -/
def stop (r : RunningRouter) : Task Unit := note (.stopped r.id)

/-- `start_router(&cfg_guard).await`: the call, and its return. -/
def startRouter (o : StartOutcome) : Task (Except BridgeError RunningRouter) := do
  note .startCalled
  .atomic fun w =>
    match o with
    | .ok bbmdState =>
      (.ok (.ok ⟨w.routers, bbmdState⟩),
        { w with routers := w.routers + 1 }.emit (.started w.routers))
    | .err e => (.ok (.error e), w.emit .startFailed)

/-- `if let Some(r) = running.take() { r.stop().await }`. -/
def stopHeld : Task Unit := do
  match ← takeRunning with
  | some r => stop r
  | none => return

/-- Starts a router under the configuration's read lock and publishes how that
went: the end of both `Start` and `SwitchTransport`. -/
def launch (o : StartOutcome) : Task Unit := do
  lockRead
  match ← startRouter o with
  | .ok r =>
    dropRead
    .modify fun w => { w with bbmdHandle := r.bbmdState }
    setRunning r
    transitionOk .running
  | .error _ =>
    dropRead
    transitionOk .stopped

/-- The body of the `Ctrl-C` branch and of `Exit`. -/
def shutDown : Task Flow := do
  transition .stopping
  stopHeld
  transition .stopped
  return .break

def onStop : Task Flow := do
  if (← .read (·.state)) = AppState.running then
    transition .stopping
    stopHeld
    transition .stopped
    note .stoppedViaCommand
    return .continue
  else
    return .continue

def onStart (o : Outcomes) : Task Flow := do
  if (← .read (·.state)) ≠ AppState.stopped then
    return .continue
  match ← (transition .starting).attempt with
  | .error _ => return .continue
  | .ok () =>
    launch o.start
    return .continue

/-- The held router is stopped for the switch; transition errors are ignored. -/
def stopForSwitch : Task Unit := do
  match ← takeRunning with
  | some r =>
    transitionOk .stopping
    stop r
    transitionOk .stopped
  | none => return

/-- `cfg.router.transport = mode; cfg.save(path).ok()`. -/
def saveTransport (T : Toml) (mode : String) (o : SaveOutcome) : Task Unit := .modify fun w =>
  let config := { w.config with router.transport := mode }
  { w with config, file := (config.save T o w.file).2 }

def validMode (mode : String) : Bool := mode == "sc" || mode == "tailscale"

/-- The switch once the held router is stopped: save, then start again. -/
def relaunch (T : Toml) (mode : String) (o : Outcomes) : Task Unit := do
  lockWrite
  saveTransport T mode o.save
  dropWrite
  transitionOk .starting
  launch o.start

/-- `SwitchTransport(mode)`: it does not look at the published state. -/
def onSwitchTransport (T : Toml) (mode : String) (o : Outcomes) : Task Flow := do
  if validMode mode = false then
    return .continue
  note (.switching mode)
  stopForSwitch
  relaunch T mode o
  return .continue

end Task

/-- What wakes the loop's `select!`. -/
inductive Input
  | ctrlC
  | command (c : RouterCommand)
  deriving DecidableEq, Repr

/-- One turn of the loop, from the input to the next wait. -/
def handle (T : Toml) (i : Input) (o : Outcomes) : Task Flow :=
  match i with
  | .ctrlC => Task.shutDown
  | .command .stop => Task.onStop
  | .command .start => Task.onStart o
  | .command (.switchTransport mode) => Task.onSwitchTransport T mode o
  | .command .exit => Task.shutDown

/-! ## Start-up -/

/-- `--transport`: an unknown mode is ignored with a warning. -/
def applyTransportOverride (config : BridgeConfig) : Option String → BridgeConfig
  | some transport =>
    if Task.validMode transport then { config with router.transport := transport } else config
  | none => config

/-- The URL that embedded-hub mode puts in place of the configured one. -/
def embeddedHubUrl : String := "wss://localhost:8443"

/-- `--with-hub`: the configured hub URL is kept aside as the cloud hub's. -/
def startEmbeddedHub (o : HubOutcome) : Task Unit := do
  match o with
  | .tlsFailed reason =>
    .throw (.message ("Failed to build self-signed TLS for embedded hub: " ++ reason))
  | .startFailed reason => .throw (.message ("Embedded hub start failed: " ++ reason))
  | .listening localAddr =>
    .modify fun w => { w with hubListenAddr := some (localAddr.getD w.config.hub.bind) }
    Task.lockWrite
    .modify fun w =>
      { w with
        cloudHubUrl := some w.config.router.sc.hubUrl
        config.router.sc.hubUrl := embeddedHubUrl }
    Task.dropWrite

def initialStart (o : StartOutcome) : Task Unit := do
  Task.lockRead
  match ← Task.startRouter o with
  | .ok r =>
    Task.setRunning r
    Task.dropRead
    Task.transition .running
    .modify fun w => { w with bbmdHandle := r.bbmdState }
  | .error _ =>
    Task.transitionOk .stopped
    Task.dropRead

/-- `run_router` between loading the configuration and its loop. -/
def startUp (withHub : Bool) (hub : HubOutcome) (o : StartOutcome) : Task Unit := do
  Task.transition .starting
  if withHub then
    startEmbeddedHub hub
    initialStart o
  else
    initialStart o

/-- How `run_router` is called, and what it finds. -/
structure Launch where
  configPath : String
  file : File
  overrides : List (String × String)
  transport : Option String
  withHub : Bool
  /-- Answers the save that writes the defaults when there is no file. -/
  firstSave : SaveOutcome
  hub : HubOutcome
  start : StartOutcome

/-- The memory when the lifecycle begins: everything is stopped. -/
def Launch.world (a : Launch) (config : BridgeConfig) (file : File) : World where
  state := .stopped
  running := none
  bbmdHandle := none
  config := applyTransportOverride config a.transport
  configLock := .free
  configPath := some a.configPath
  file := file
  isEmbeddedHub := a.withHub
  cloudHubUrl := none
  hubListenAddr := none
  routers := 0
  log := []

/-- What `run_router` still holds when it returns is dropped. -/
def World.leave (w : World) : World :=
  match w.running with
  | none => w.emit .left
  | some r => ({ w with running := none }.emit (.dropped r.id)).emit .left

/-- Where `run_router` is: waiting for its next input, or gone. -/
inductive Status
  | waiting (w : World)
  | returned (result : Except RunError Unit) (w : World)

def Status.world : Status → World
  | .waiting w => w
  | .returned _ w => w

/-- `run_router` up to its first wait. There is nothing to tell when the
configuration does not load. -/
def Launch.begin (a : Launch) (T : Toml) : Option Status :=
  match BridgeConfig.load T a.overrides a.firstSave a.file with
  | (.error _, _) => none
  | (.ok config, file) =>
    match (startUp a.withHub a.hub a.start).run (a.world config file) with
    | some (.ok (), w) => some (.waiting w)
    | some (.error e, w) => some (.returned (.error e) w.leave)
    | none => none

def Status.step (T : Toml) : Status → Input × Outcomes → Option Status
  | .waiting w, (i, o) =>
    match (handle T i o).run w with
    | some (.ok .continue, w) => some (.waiting w)
    | some (.ok .break, w) => some (.returned (.ok ()) w.leave)
    | some (.error e, w) => some (.returned (.error e) w.leave)
    | none => none
  | .returned _ _, _ => none

end BacnetBridge
