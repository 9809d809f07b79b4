import BacnetBridge.Turns

/-! The loop of `run_router` between any two of its atomic steps, where the
request handlers of the web server can act. -/
namespace BacnetBridge

open Prog

/-- The state that the events published last. -/
def published (log : List Event) : AppState :=
  log.foldl (fun s e => match e with | .published s' => s' | _ => s) .stopped

theorem published_append (log es : List Event) : published (log ++ es) =
    es.foldl (fun s e => match e with | .published s' => s' | _ => s) (published log) :=
  List.foldl_append ..

/-- What `hub_mode_switch` works on. -/
structure HubVars where
  hubUrl : String
  cloudHubUrl : Option String
  isEmbeddedHub : Bool
  deriving DecidableEq, Repr

def World.hubVars (w : World) : HubVars :=
  ⟨w.config.router.sc.hubUrl, w.cloudHubUrl, w.isEmbeddedHub⟩

/-- What every atomic step of a turn respects: the log only grows, the state is
the one published last, and the hub's variables stay. -/
structure World.Grows (w w' : World) : Prop where
  log : w.log <+: w'.log
  published : published w.log = w.state → published w'.log = w'.state
  hubVars : w'.hubVars = w.hubVars

theorem World.Grows.refl (w : World) : w.Grows w := ⟨List.prefix_rfl, id, rfl⟩

theorem World.Grows.trans {a b c : World} (h : a.Grows b) (h' : b.Grows c) : a.Grows c :=
  ⟨h.log.trans h'.log, fun hp => h'.published (h.published hp), h'.hubVars.trans h.hubVars⟩

namespace Task

/-- Programs put together from the steps of the loop: whatever holds of these
steps, and is kept by putting programs together, holds of every turn. -/
inductive Made : {α : Type} → Task α → Prop
  | done {α : Type} (a : α) : Made (Pure.pure a)
  | bind {α β : Type} {p : Task α} {f : α → Task β} : Made p → (∀ a, Made (f a)) → Made (p >>= f)
  | attempt {α : Type} {p : Task α} : Made p → Made p.attempt
  | readState : Made (read (·.state))
  | note {e : Event} : (∀ s, e ≠ .published s) → Made (note e)
  | transition (next : AppState) : Made (transition next)
  | lockRead : Made lockRead
  | dropRead : Made dropRead
  | lockWrite : Made lockWrite
  | dropWrite : Made dropWrite
  | takeRunning : Made takeRunning
  | setRunning (r : RunningRouter) : Made (setRunning r)
  | setBbmdHandle (bbmdState : Option Nat) :
      Made (modify fun w => { w with bbmdHandle := bbmdState })
  | startRouter (o : StartOutcome) : Made (startRouter o)
  | saveTransport (T : Toml) (mode : String) (o : SaveOutcome) : Made (saveTransport T mode o)

theorem made_transitionOk (next : AppState) : Made (transitionOk next) :=
  (Made.transition next).attempt.bind fun _ => .done _

theorem made_stop (r : RunningRouter) : Made (stop r) := .note (by simp)

theorem made_stopHeld : Made stopHeld := by
  apply Made.takeRunning.bind
  intro held
  cases held with
  | none => exact .done _
  | some r => exact made_stop r

theorem made_launch (o : StartOutcome) : Made (launch o) := by
  refine Made.lockRead.bind fun _ => (Made.startRouter o).bind ?_
  intro started
  cases started with
  | error e => exact Made.dropRead.bind fun _ => made_transitionOk .stopped
  | ok r =>
    exact Made.dropRead.bind fun _ => (Made.setBbmdHandle r.bbmdState).bind fun _ =>
      (Made.setRunning r).bind fun _ => made_transitionOk .running

theorem made_shutDown : Made shutDown :=
  (Made.transition .stopping).bind fun _ => made_stopHeld.bind fun _ =>
    (Made.transition .stopped).bind fun _ => .done _

theorem made_onStop : Made onStop := by
  apply Made.readState.bind
  intro s
  split
  · exact (Made.transition .stopping).bind fun _ => made_stopHeld.bind fun _ =>
      (Made.transition .stopped).bind fun _ => (Made.note (by simp)).bind fun _ => .done _
  · exact .done _

theorem made_onStart (o : Outcomes) : Made (onStart o) := by
  apply Made.readState.bind
  intro s
  split
  · exact .done _
  · apply (Made.transition .starting).attempt.bind
    intro r
    cases r with
    | error e => exact .done _
    | ok u => exact (made_launch o.start).bind fun _ => .done _

theorem made_stopForSwitch : Made stopForSwitch := by
  apply Made.takeRunning.bind
  intro held
  cases held with
  | none => exact .done _
  | some r =>
    exact (made_transitionOk .stopping).bind fun _ => (made_stop r).bind fun _ =>
      made_transitionOk .stopped

theorem made_relaunch (T : Toml) (mode : String) (o : Outcomes) : Made (relaunch T mode o) :=
  Made.lockWrite.bind fun _ => (Made.saveTransport T mode o.save).bind fun _ =>
    Made.dropWrite.bind fun _ => (made_transitionOk .starting).bind fun _ =>
    made_launch o.start

theorem made_onSwitchTransport (T : Toml) (mode : String) (o : Outcomes) :
    Made (onSwitchTransport T mode o) := by
  unfold onSwitchTransport
  split
  · exact .done _
  · exact (Made.note (by simp)).bind fun _ => made_stopForSwitch.bind fun _ =>
      (made_relaunch T mode o).bind fun _ => .done _

end Task

theorem made_handle (T : Toml) (i : Input) (o : Outcomes) : Task.Made (handle T i o) := by
  cases i with
  | ctrlC => exact Task.made_shutDown
  | command c =>
    cases c with
    | stop => exact Task.made_onStop
    | start => exact Task.made_onStart o
    | switchTransport mode => exact Task.made_onSwitchTransport T mode o
    | exit => exact Task.made_shutDown

theorem World.Grows.emit {w : World} {e : Event} (h : ∀ s, e ≠ .published s) :
    w.Grows (w.emit e) := by
  refine ⟨List.prefix_append .., fun hp => ?_, rfl⟩
  cases e with
  | published s => exact absurd rfl (h s)
  | _ => simpa [World.emit, published_append] using hp

/-- A step that neither the log nor the lifecycle nor the hub depends on. -/
theorem World.Grows.quiet {w w' : World} (hlog : w'.log = w.log) (hstate : w'.state = w.state)
    (hhub : w'.hubVars = w.hubVars) : w.Grows w' :=
  ⟨hlog ▸ List.prefix_rfl, fun hp => by rw [hlog, hstate, hp], hhub⟩

theorem Task.Made.grows {α : Type} {p : Task α} (h : Made p) : p.Keeps World.Grows := by
  induction h with
  | done => trivial
  | bind _ _ ihp ihf => exact ihp.bind ihf
  | attempt _ ih => exact ih.attempt
  | readState => exact keeps_await fun w _ => .refl w
  | note he => exact keeps_await fun w _ => .emit he
  | transition next =>
    apply keeps_await
    intro w _
    split
    · exact ⟨List.prefix_append .., fun _ => by simp [World.emit, published_append], rfl⟩
    · exact .refl w
  | lockRead | dropRead | lockWrite | dropWrite | takeRunning | setBbmdHandle | saveTransport =>
    exact keeps_await fun w _ => .quiet rfl rfl rfl
  | setRunning r =>
    apply keeps_await
    intro w _
    dsimp only
    split
    · exact .quiet rfl rfl rfl
    · have hquiet : w.Grows { w with running := some r } := .quiet rfl rfl rfl
      exact hquiet.trans (.emit (by simp))
  | startRouter o =>
    refine (keeps_await fun w _ => .emit (by simp)).bind fun _ => keeps_await ?_
    intro w _
    split
    · have hquiet : w.Grows { w with routers := w.routers + 1 } := .quiet rfl rfl rfl
      exact hquiet.trans (.emit (by simp))
    · exact .emit (by simp)

theorem grows_handle (T : Toml) (i : Input) (o : Outcomes) : (handle T i o).Keeps World.Grows :=
  (made_handle T i o).grows

/-- Where the loop is: the memory, and what is left of the turn in progress. -/
structure Loop where
  world : World
  task : Option (Task Flow)

/-- The loop takes up an input. -/
def Loop.wake (T : Toml) (l : Loop) (i : Input) (o : Outcomes) : Option Loop :=
  match l.task with
  | none => some { l with task := some (handle T i o) }
  | some _ => none

/-- One atomic step of the turn in progress, or its end. Nothing follows the
turn after which `run_router` returns. -/
def Loop.tick (l : Loop) : Option Loop :=
  match l.task with
  | none => none
  | some (.pure .continue) => some { l with task := none }
  | some p => (p.next l.world).map fun r => ⟨r.2, some r.1⟩

/-- What is left of the turn in progress keeps to the relation. -/
def Loop.Keeps (R : World → World → Prop) (l : Loop) : Prop := ∀ p, l.task = some p → p.Keeps R

theorem Loop.wake_some {T : Toml} {l l' : Loop} {i : Input} {o : Outcomes}
    (h : l.wake T i o = some l') : l.task = none ∧ l' = { l with task := some (handle T i o) } := by
  unfold wake at h
  split at h
  · rename_i hidle
    cases h
    exact ⟨hidle, rfl⟩
  · cases h

theorem Loop.Keeps.tick {R : World → World → Prop} (refl : ∀ w, R w w) {l l' : Loop}
    (hl : l.Keeps R) (h : l.tick = some l') : R l.world l'.world ∧ l'.Keeps R := by
  unfold Loop.tick at h
  split at h
  · cases h
  · cases h
    exact ⟨refl _, by simp [Loop.Keeps]⟩
  · rename_i p _ hp
    obtain ⟨⟨q, w⟩, hn, rfl⟩ := Option.map_eq_some_iff.mp h
    obtain ⟨hstep, hkeeps⟩ := (hl p hp).next hn
    exact ⟨hstep, fun p' hp' => Option.some.inj hp' ▸ hkeeps⟩

/-- What is left of the turn in progress respects what every turn respects. -/
def Loop.Steady (l : Loop) : Prop := ∀ p, l.task = some p → p.Keeps World.Grows

theorem Loop.steady_wake {T : Toml} {l l' : Loop} {i : Input} {o : Outcomes}
    (h : l.wake T i o = some l') : l'.world = l.world ∧ l'.Steady := by
  obtain ⟨-, rfl⟩ := Loop.wake_some h
  exact ⟨rfl, fun p hp => Option.some.inj hp ▸ grows_handle T i o⟩

theorem Loop.Steady.tick {l l' : Loop} (hl : l.Steady) (h : l.tick = some l') :
    l.world.Grows l'.world ∧ l'.Steady := Loop.Keeps.tick World.Grows.refl hl h

end BacnetBridge
