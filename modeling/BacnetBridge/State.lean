/-! `error.rs` and `state.rs`: the errors of the bridge and the lifecycle that
gates the routing engine. -/
namespace BacnetBridge

inductive AppState
  | stopped
  | starting
  | running
  | stopping
  deriving DecidableEq, Repr

/-- The text of `{:?}`. -/
def AppState.debug : AppState → String
  | .stopped => "Stopped"
  | .starting => "Starting"
  | .running => "Running"
  | .stopping => "Stopping"

inductive BridgeError
  | io (message : String)
  | tomlDeserialize (message : String)
  | tomlSerialize (message : String)
  | hub (message : String)
  | invalidStateTransition (src dst : String)
  | stateSync
  | router (message : String)
  | transport (message : String)
  deriving DecidableEq, Repr

/-- The text of `{}`. -/
def BridgeError.display : BridgeError → String
  | .io message => "IO error: " ++ message
  | .tomlDeserialize message => "TOML deserialize error: " ++ message
  | .tomlSerialize message => "TOML serialize error: " ++ message
  | .hub message => "Hub error: " ++ message
  | .invalidStateTransition src dst => "Invalid state transition from " ++ src ++ " to " ++ dst
  | .stateSync => "State sync channel closed"
  | .router message => "Router error: " ++ message
  | .transport message => "Transport error: " ++ message

/-- A result that is no error has none behind it. -/
theorem bind_eq_ok {ε α β : Type} {x : Except ε α} {f : α → Except ε β} {b : β} :
    x >>= f = .ok b ↔ ∃ a, x = .ok a ∧ f a = .ok b := by
  cases x with
  | error e => exact ⟨nofun, fun ⟨a, h, _⟩ => nomatch h⟩
  | ok a => exact ⟨fun h => ⟨a, rfl, h⟩, fun ⟨a', h, hf⟩ => Except.ok.inj h ▸ hf⟩

theorem ok_of_bind {ε α β : Type} {x : Except ε α} {f : α → Except ε β} {b : β}
    (h : x >>= f = .ok b) : ∃ a, x = .ok a ∧ f a = .ok b := bind_eq_ok.mp h

/-- The pairs that `try_transition` accepts. -/
def AppState.valid : AppState → AppState → Bool
  | .stopped, .starting
  | .starting, .running
  | .running, .stopping
  | .stopping, .stopped => true
  | _, _ => false

/-- The lifecycle's value after `try_transition(next)`. The manager keeps a
receiver of its own, so the channel never closes and `StateSync` never occurs. -/
def AppState.tryTransition (current next : AppState) : Except BridgeError AppState :=
  if current.valid next then .ok next
  else .error (.invalidStateTransition current.debug next.debug)

@[simp] theorem AppState.tryTransition_invalid {current next : AppState}
    (h : current.valid next = false) : current.tryTransition next =
      .error (.invalidStateTransition current.debug next.debug) := by
  simp [tryTransition, h]

end BacnetBridge
