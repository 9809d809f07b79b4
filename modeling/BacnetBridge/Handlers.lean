import BacnetBridge.ConfigChange
import BacnetBridge.Endpoints
import BacnetBridge.Monitor

/-! The request handlers that take the configuration's lock, step by step, and any
number of them at once beside the turns of the loop. -/
namespace BacnetBridge

open Prog Monitor

/-! ## The handlers -/

namespace Handler

/-- `status` reads the published state before it has the lock. -/
def status (elapsed : Option UInt64) : Task StatusResponse := do
  let current ← .read (·.state)
  Task.lockRead
  let hubMode ← .read fun w => hubModeText w.isEmbeddedHub
  let response ← .read fun w => statusResponse current elapsed hubMode w.config
  Task.dropRead
  return response

/-- A handler that only reads the configuration. -/
def withConfig {α : Type} (f : BridgeConfig → α) : Task α := do
  Task.lockRead
  let response ← .read fun w => f w.config
  Task.dropRead
  return response

def getConfig : Task BridgeConfig := withConfig id

/-- `router_info`. -/
def routerInfo : Task RouterInfoResponse := withConfig BacnetBridge.routerInfo

/-- `interfaces`, with what the system has. -/
def interfaces (ifaces : Option (List SystemInterface)) : Task (List InterfaceEntry) :=
  withConfig (interfacesResponse · ifaces)

/-- `get_fdt`, with what the manager lists once the configuration was read. -/
def getFdt (listed : List FdtDisplayEntry) : Task (List FdtDisplayEntry) := do
  let transport ← withConfig (·.router.transport)
  return fdtResponse transport listed

/-- `hub_status` takes no part in the lock. -/
def hubStatus : Task HubStatusResponse := .read fun w =>
  hubStatusResponse w.isEmbeddedHub w.hubListenAddr

/-- `hub_mode_switch` under the write lock. -/
def changeMode (T : Toml) (mode : HubMode) (o : SaveOutcome) : Task Unit := do
  Task.lockWrite
  match mode with
  | .embedded =>
    let cloudUrl ← .read (·.config.router.sc.hubUrl)
    .modify fun w => { w with config.router.sc.hubUrl := embeddedHubUrl }
    .modify fun w => { w with file := w.saveTo T w.config o }
    .modify fun w => { w with cloudHubUrl := some cloudUrl }
    .modify fun w => { w with isEmbeddedHub := true }
  | .cloud =>
    .modify fun w => match w.cloudHubUrl with
      | some cloudUrl => { w with config.router.sc.hubUrl := cloudUrl }
      | none => w
    .modify fun w => { w with file := w.saveTo T w.config o }
    .modify fun w => { w with isEmbeddedHub := false }
  Task.dropWrite

def hubModeSwitch (T : Toml) (mode : String) (o : SaveOutcome) :
    Task (Except HttpError (List (String × String))) := do
  match BacnetBridge.hubModeSwitch mode (← .read (·.state)) with
  | .error e => return .error e
  | .ok (m, reply) =>
    changeMode T m o
    return .ok reply

/-- `update_config`: the reply is made before the lock is let go. -/
def updateConfig (T : Toml) (body : BridgeConfig) (o : SaveOutcome) :
    Task (Except HttpError (List (String × String))) := do
  Task.lockWrite
  let reply ← .atomic fun w => (.ok (w.updateConfig T body o).1, (w.updateConfig T body o).2)
  Task.dropWrite
  return reply

end Handler

/-- The loop on the inputs that it receives: it takes up the next one after the turn before
has ended. -/
def turns (T : Toml) : List (Input × Outcomes) → Task Flow
  | [] => return .continue
  | (i, o) :: rest => do
    match ← handle T i o with
    | .continue => turns T rest
    | .break => return .break

/-- What the bridge is doing something for. -/
inductive Activity
  | status (elapsed : Option UInt64)
  | getConfig
  | routerInfo
  | interfaces (ifaces : Option (List SystemInterface))
  | getFdt (listed : List FdtDisplayEntry)
  | hubStatus
  | hubMode (mode : String) (save : SaveOutcome)
  | updateConfig (body : BridgeConfig) (save : SaveOutcome)
  | loop (inputs : List (Input × Outcomes))

inductive Reply
  | status (response : StatusResponse)
  | config (response : BridgeConfig)
  | routerInfo (response : RouterInfoResponse)
  | interfaces (response : List InterfaceEntry)
  | fdt (response : List FdtDisplayEntry)
  | hubStatus (response : HubStatusResponse)
  | changed (response : Except HttpError (List (String × String)))
  | looped (flow : Flow)

def Activity.task (T : Toml) : Activity → Task Reply
  | .status elapsed => do return .status (← Handler.status elapsed)
  | .getConfig => do return .config (← Handler.getConfig)
  | .routerInfo => do return .routerInfo (← Handler.routerInfo)
  | .interfaces ifaces => do return .interfaces (← Handler.interfaces ifaces)
  | .getFdt listed => do return .fdt (← Handler.getFdt listed)
  | .hubStatus => do return .hubStatus (← Handler.hubStatus)
  | .hubMode mode o => do return .changed (← Handler.hubModeSwitch T mode o)
  | .updateConfig body o => do return .changed (← Handler.updateConfig T body o)
  | .loop inputs => do return .looped (← turns T inputs)

/-! Performed alone, the steps of a handler do what the whole of it does. -/

/-- A `PUT` has nothing to do with the state of the lock. -/
theorem updateConfig_locked (w : World) (lock : RwLock) (T : Toml) (body : BridgeConfig)
    (o : SaveOutcome) : World.updateConfig { w with configLock := lock } T body o =
      ((w.updateConfig T body o).1, { (w.updateConfig T body o).2 with configLock := lock }) := by
  unfold World.updateConfig
  dsimp only
  split
  · rfl
  · cases body.save T o w.file with
    | mk r file => cases r <;> rfl

theorem updateConfig_lock (w : World) (T : Toml) (body : BridgeConfig) (o : SaveOutcome) :
    (w.updateConfig T body o).2.configLock = w.configLock :=
  congrArg (·.2.configLock) (updateConfig_locked w w.configLock T body o)

theorem run_updateConfig {w : World} (hl : w.configLock = .free) (T : Toml) (body : BridgeConfig)
    (o : SaveOutcome) : (Handler.updateConfig T body o).run w =
      some (.ok (w.updateConfig T body o).1, (w.updateConfig T body o).2) := by
  have hafter : (w.updateConfig T body o).2.configLock = .free :=
    (updateConfig_lock w T body o).trans hl
  have hready : (!w.configLock.writing && w.configLock.readers == 0) = true := by rw [hl]; rfl
  simp only [Handler.updateConfig, run_bind, Task.lockWrite, run_await, hready, if_true,
    Option.bind_some, Task.dropWrite, run_atomic, run_modify, updateConfig_locked, run_pure]
  have hwhole : { (w.updateConfig T body o).2 with configLock := .free } =
      (w.updateConfig T body o).2 := by rw [← hafter]
  rw [hl]
  exact congrArg (fun w' => some (Except.ok (w.updateConfig T body o).1, w')) hwhole

theorem run_withConfig {w : World} (hl : w.configLock = .free) {α : Type} (f : BridgeConfig → α) :
    (Handler.withConfig f).run w = some (.ok (f w.config), w) := by
  obtain ⟨_, _, _, _, lock, _, _, _, _, _, _, _⟩ := w
  obtain rfl : lock = .free := hl
  simp [Handler.withConfig, run_bind, Task.lockRead, run_await, Task.dropRead, RwLock.free]

theorem run_status {w : World} (hl : w.configLock = .free) (elapsed : Option UInt64) :
    (Handler.status elapsed).run w = some (.ok (statusResponse w.state elapsed
      (hubModeText w.isEmbeddedHub) w.config), w) := by
  obtain ⟨_, _, _, _, lock, _, _, _, _, _, _, _⟩ := w
  obtain rfl : lock = .free := hl
  simp [Handler.status, run_bind, Task.lockRead, run_await, Task.dropRead, RwLock.free]

end BacnetBridge
