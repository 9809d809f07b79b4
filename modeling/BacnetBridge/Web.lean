import BacnetBridge.Loop

/-! `web/api.rs`: the request handlers that control the router, the queue of
commands between them and the loop, and every order in which the two act. -/
namespace BacnetBridge

/-- A refusal: the status code and the text under `error`. -/
structure HttpError where
  status : Nat
  error : String
  deriving DecidableEq, Repr

/-- What a handler that passes its checks sends to the loop, and its reply. -/
structure Accepted where
  command : RouterCommand
  reply : List (String × String)
  deriving DecidableEq, Repr

/-- The reply of a handler in a process without a router. -/
def noControl : HttpError := ⟨503, "Router control not available in this mode"⟩

/-- `transport_switch`, with the published state it reads. -/
def transportSwitch (mode : String) (commandTx : Bool) (current : AppState) :
    Except HttpError Accepted :=
  if mode ≠ "sc" ∧ mode ≠ "tailscale" then
    .error ⟨400, "Invalid mode. Must be 'sc' or 'tailscale'."⟩
  else if commandTx = false then .error noControl
  else if current ≠ .running then
    .error ⟨409, "Cannot switch transport. Router must be Running."⟩
  else .ok ⟨.switchTransport mode, [("status", "ok"), ("transport", mode)]⟩

def transportStop (commandTx : Bool) (current : AppState) : Except HttpError Accepted :=
  if commandTx = false then .error noControl
  else if current ≠ .running then
    .error ⟨409, "Cannot stop router unless it is in Running state"⟩
  else .ok ⟨.stop, [("status", "ok")]⟩

/-- The state is checked before the sender here. -/
def transportStart (commandTx : Bool) (current : AppState) : Except HttpError Accepted :=
  if current ≠ .stopped then
    .error ⟨409, "Cannot start router unless it is in Stopped state"⟩
  else if commandTx = false then .error noControl
  else .ok ⟨.start, [("status", "ok")]⟩

inductive Call
  | switch (mode : String)
  | stop
  | start
  deriving DecidableEq, Repr

/-- The handler of a call up to its `send`. -/
def Call.check (c : Call) (commandTx : Bool) (current : AppState) : Except HttpError Accepted :=
  match c with
  | .switch mode => transportSwitch mode commandTx current
  | .stop => transportStop commandTx current
  | .start => transportStart commandTx current

/-- A handler that passes its checks has seen `Stopped` if it is to start the
router, and `Running` otherwise. -/
theorem Call.check_ok {c : Call} {commandTx : Bool} {current : AppState} {a : Accepted}
    (h : c.check commandTx current = .ok a) :
    (a.command = .start ∧ current = .stopped) ∨ (a.command ≠ .start ∧ current = .running) := by
  cases c with
  | switch mode =>
    simp only [check, transportSwitch] at h
    split at h <;> [cases h; split at h <;> [cases h; split at h <;> [cases h; skip]]]
    cases h
    simp_all
  | stop =>
    simp only [check, transportStop] at h
    split at h <;> [cases h; split at h <;> [cases h; skip]]
    cases h
    simp_all
  | start =>
    simp only [check, transportStart] at h
    split at h <;> [cases h; split at h <;> [cases h; skip]]
    cases h
    simp_all

/-- The capacity of the command channel. -/
def capacity : Nat := 32

/-- `run_router` and its request handlers. `accepted` holds the commands whose
handlers have passed their checks and wait to send; any of them may be next. -/
structure Sys where
  loop : Loop
  accepted : List Request
  queue : List Request

def Sys.start (w : World) : Sys := ⟨⟨w, none⟩, [], []⟩

inductive Sys.Input
  | request (c : Call)
  | send (n : Nat)
  | receive (o : Outcomes)
  | interrupt (o : Outcomes)
  | tick
  deriving DecidableEq, Repr

/-- One step of any party: a request arrives and is checked, a handler sends,
the loop takes up a command or `Ctrl-C`, or the loop takes one atomic step. -/
def Sys.step (T : Toml) (s : Sys) : Sys.Input → Option Sys
  | .request c =>
    match c.check true s.loop.world.state with
    | .error _ => some s
    | .ok a =>
      some { s with accepted := s.accepted ++ [⟨a.command, s.loop.world.log.length⟩] }
  | .send n =>
    match s.accepted[n]? with
    | none => none
    | some r =>
      if s.queue.length < capacity then
        some { s with accepted := s.accepted.eraseIdx n, queue := s.queue ++ [r] }
      else none
  | .receive o =>
    match s.queue with
    | [] => none
    | r :: queue =>
      let loop := { s.loop with world := s.loop.world.emit (.received r) }
      (loop.wake T (.command r.command) o).map fun loop => { s with loop, queue }
  | .interrupt o => (s.loop.wake T .ctrlC o).map fun loop => { s with loop }
  | .tick => s.loop.tick.map fun loop => { s with loop }

end BacnetBridge
