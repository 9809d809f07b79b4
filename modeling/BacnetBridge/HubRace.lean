import BacnetBridge.HubMode
import BacnetBridge.Ownership

/-! Whether a change of hub mode can be written while a router exists: its handler
checks the published state, and only then waits for the configuration's lock. -/
namespace BacnetBridge

open Prog

/-! ## Routers that exist -/

/-- The routers started and neither stopped nor dropped. -/
def liveRouters (log : List Event) : List Nat := (log.foldl Ledger.after .start).live

/-- A router comes into being, or ceases to be. -/
def Event.lives : Event → Option Bool
  | .started _ => some true
  | .stopped _ | .dropped _ => some false
  | _ => none

/-- Whether the last of these was a start. -/
def lastLives (log : List Event) : Option Bool := (log.filterMap Event.lives).getLast?

/-- A router is started only when there is none, and only the one that there is
is stopped or dropped. -/
def Ledger.InOrder (l : Ledger) : Event → Prop
  | .started _ => l.live = []
  | .stopped id | .dropped id => l.live = [id]
  | _ => True

def Ordered (log : List Event) : Prop := Runs.Each Ledger.step .start log Ledger.InOrder

theorem after_ledger (l : Ledger) (log : List Event) :
    Runs.after Ledger.step l log = some (log.foldl Ledger.after l) := by
  induction log generalizing l with
  | nil => rfl
  | cons e es ih => exact ih (l.after e)

theorem lastLives_append (log es : List Event) :
    lastLives (log ++ es) = (lastLives es).or (lastLives log) := by
  simp [lastLives, List.getLast?_append]

theorem Ordered.earlier {log log' : List Event} (h : Ordered log') (hp : log <+: log') :
    Ordered log := fun seen i hi => h seen i (hi.trans hp)

theorem ordered_snoc {log : List Event} {e : Event} :
    Ordered (log ++ [e]) ↔ Ordered log ∧ (log.foldl Ledger.after .start).InOrder e := by
  unfold Ordered
  rw [Runs.each_append, after_ledger]
  simp [Runs.each_cons, Runs.each_nil]

/-- While everything is in order, a router exists exactly after a start. -/
theorem Ordered.live_iff {log : List Event} (h : Ordered log) :
    liveRouters log = [] ↔ lastLives log ≠ some true := by
  induction log using List.reverseRecOn with
  | nil => simp [liveRouters, lastLives, Ledger.start]
  | append_singleton log e ih =>
    obtain ⟨hbefore, he⟩ := ordered_snoc.mp h
    have hlive : liveRouters (log ++ [e]) =
        ((log.foldl Ledger.after .start).after e).live := by
      simp [liveRouters]
    rw [hlive, lastLives_append]
    cases e with
    | started id => simp [Ledger.after, lastLives, Event.lives]
    | stopped id | dropped id =>
      have hone : (log.foldl Ledger.after .start).live = [id] := he
      simp [Ledger.after, hone, lastLives, Event.lives]
    | _ => exact ih hbefore

/-! ## Turns in order -/

/-- The log is owned and in order. -/
structure Single (w : World) : Prop extends Balanced w where
  ordered : Ordered w.log

namespace Single

variable {w w' : World}

/-- Further events are judged by the routers that the memory shows. -/
theorem extend (h : Single w) (hb : Balanced w') {es : List Event} (hlog : w'.log = w.log ++ es)
    (hes : Runs.Each Ledger.step ⟨w.running.toList.map (·.id), w.state⟩ es Ledger.InOrder) :
    Single w' := by
  constructor
  · exact hb
  · unfold Ordered
    rw [hlog]
    exact Runs.Each.append h.ordered h.ledger hes

theorem halted (h : Single w) {r : RunningRouter} (hr : w.running = some r) :
    Single (w.halted r) := by
  apply h.extend (h.toBalanced.halted hr) rfl
  simp [Runs.each_cons, Runs.each_nil, Ledger.step, Ledger.after, Ledger.InOrder, hr]

theorem announced (h : Single w) : Single w.announced := by
  apply h.extend h.toBalanced.announced rfl
  simp [Runs.each_cons, Runs.each_nil, Ledger.InOrder]

theorem launched (h : Single w) (hr : w.running = none) (o : StartOutcome) :
    Single (w.launched o) := by
  have hb := h.toBalanced.launched hr o
  cases o with
  | ok b =>
    apply h.extend hb rfl
    simp [Runs.each_cons, Runs.each_nil, Ledger.step, Ledger.after, Ledger.InOrder, hr]
  | err e =>
    apply h.extend hb rfl
    simp [Runs.each_cons, Runs.each_nil, Ledger.step, Ledger.InOrder]

theorem emit (h : Single w) {e : Event} (hb : Balanced (w.emit e))
    (horder : ∀ l : Ledger, l.InOrder e) : Single (w.emit e) := by
  apply h.extend hb rfl
  simp [Runs.each_cons, Runs.each_nil, horder]

theorem note (h : Single w) {e : Event} (hafter : ∀ l : Ledger, l.after e = l)
    (hpermits : ∀ l : Ledger, l.Permits e) (horder : ∀ l : Ledger, l.InOrder e) :
    Single (w.emit e) := h.emit (h.toBalanced.emit hafter hpermits) horder

theorem saved (h : Single w) (T : Toml) (mode : String) (o : SaveOutcome) :
    Single (w.saved T mode o) := ⟨h.toBalanced.saved T mode o, h.ordered⟩

theorem readied (h : Single w) (T : Toml) (mode : String) (o : SaveOutcome) :
    Single (w.readied T mode o) := by
  have hsw : Single (w.emit (.switching mode)) :=
    h.note (fun _ => rfl) (fun _ => trivial) fun _ => trivial
  unfold World.readied
  split
  · rename_i r _ hr
    exact ((hsw.halted hr).saved T mode o).announced
  · exact (hsw.saved T mode o).announced
  · exact hsw.saved T mode o

theorem leave (h : Single w) (hr : w.running = none) : Single w.leave := by
  have hleave : w.leave = w.emit .left := by simp [World.leave, hr]
  have hb := h.toBalanced.leave hr
  rw [hleave] at hb ⊢
  exact h.emit hb fun _ => trivial

end Single

/-- What holds of the memory whenever the loop waits. -/
structure Tidy (w : World) : Prop where
  idle : Idle w
  single : Single w

theorem Turn.single {T : Toml} {w : World} {o : Outcomes} {i : Input} {s : Status} (h : Tidy w)
    (ht : Turn T w o i s) : Single s.world := by
  have hs := h.single
  cases ht with
  | ignored => exact hs
  | stopped r hr => exact (hs.halted hr).note (fun _ => rfl) (fun _ => trivial) fun _ => trivial
  | started hr => exact hs.announced.launched hr o.start
  | switched mode =>
    obtain ⟨-, hr, -⟩ := h.idle.readied T mode o.save
    exact (hs.readied T mode o.save).launched hr o.start
  | shutDown i r hi hr => exact (hs.halted hr).leave rfl
  | refused i hi hr => exact hs.leave hr

theorem Launch.tidy {a : Launch} {T : Toml} {w : World} (h : a.begin T = some (.waiting w)) :
    Tidy w := by
  refine ⟨a.idle h, a.kept h, ?_⟩
  obtain ⟨config, file, localAddr, -, -, rfl⟩ := a.begin_waiting h
  have hlog : (a.entered config file localAddr).log = [.published .starting] := by
    unfold entered
    split <;> rfl
  have hrouters : (a.entered config file localAddr).routers = 0 := by
    unfold entered
    split <;> rfl
  unfold Ordered
  cases a.start <;>
    simp [World.launched, hlog, hrouters, Runs.each_cons, Runs.each_nil, Ledger.step, Ledger.after,
      Ledger.start, Ledger.InOrder]

/-! ## Changes of mode in the middle of a turn -/

/-- The two differ in nothing that the loop's turns depend on: a change of hub
mode is such a difference. -/
structure World.SameLoop (w w' : World) : Prop where
  state : w'.state = w.state
  running : w'.running = w.running
  lock : w'.configLock = w.configLock
  routers : w'.routers = w.routers
  log : w'.log = w.log

theorem World.SameLoop.refl (w : World) : w.SameLoop w := ⟨rfl, rfl, rfl, rfl, rfl⟩

theorem sameLoop_hubSwitched (w : World) (T : Toml) (mode : HubMode) (o : SaveOutcome) :
    w.SameLoop (w.hubSwitched T mode o) := by
  cases mode <;> exact ⟨rfl, rfl, rfl, rfl, rfl⟩

theorem World.SameLoop.emit {w w' : World} (h : w.SameLoop w') (e : Event) :
    (w.emit e).SameLoop (w'.emit e) :=
  ⟨h.state, h.running, h.lock, h.routers, congrArg (· ++ [e]) h.log⟩

theorem Task.Made.blind {α : Type} {p : Task α} (h : Made p) : p.Blind World.SameLoop := by
  induction h with
  | done => trivial
  | bind _ _ ihp ihf => exact ihp.bind ihf
  | attempt _ ih => exact ih.attempt
  | readState =>
    exact blind_atomic fun w w' h => ⟨congrArg Except.ok h.state.symm, h⟩
  | note => exact blind_atomic fun w w' h => ⟨rfl, h.emit _⟩
  | transition next =>
    apply blind_atomic
    intro w w' h
    simp only [h.state]
    split
    · rename_i s _
      have hset : World.SameLoop { w with state := s } { w' with state := s } :=
        ⟨rfl, h.running, h.lock, h.routers, h.log⟩
      exact ⟨rfl, hset.emit _⟩
    · exact ⟨rfl, h⟩
  | lockRead =>
    refine blind_await (fun w w' h => by rw [h.lock]) fun w w' h => ⟨rfl, ?_⟩
    exact ⟨h.state, h.running, by simp [h.lock], h.routers, h.log⟩
  | dropRead | dropWrite =>
    refine blind_atomic fun w w' h => ⟨rfl, ?_⟩
    exact ⟨h.state, h.running, by simp [h.lock], h.routers, h.log⟩
  | lockWrite =>
    refine blind_await (fun w w' h => by rw [h.lock]) fun w w' h => ⟨rfl, ?_⟩
    exact ⟨h.state, h.running, by simp [h.lock], h.routers, h.log⟩
  | takeRunning =>
    refine blind_atomic fun w w' h => ⟨by rw [h.running], ?_⟩
    exact ⟨h.state, rfl, h.lock, h.routers, h.log⟩
  | setRunning r =>
    apply blind_atomic
    intro w w' h
    have hset : World.SameLoop { w with running := some r } { w' with running := some r } :=
      ⟨h.state, rfl, h.lock, h.routers, h.log⟩
    constructor
    · rfl
    · simp only [h.running]
      split
      · exact hset
      · exact hset.emit _
  | setBbmdHandle | saveTransport =>
    exact blind_atomic fun w w' h => ⟨rfl, h.state, h.running, h.lock, h.routers, h.log⟩
  | startRouter o =>
    refine (blind_atomic fun w w' h => ⟨rfl, h.emit _⟩).bind fun _ => blind_atomic ?_
    intro w w' h
    cases o with
    | ok bbmdState =>
      have hset : World.SameLoop { w with routers := w.routers + 1 }
          { w' with routers := w.routers + 1 } := ⟨h.state, h.running, h.lock, rfl, h.log⟩
      simp only [h.routers]
      exact ⟨trivial, hset.emit _⟩
    | err e => exact ⟨rfl, h.emit _⟩

/-! ## The whole site -/

/-- A request for a mode that has passed its checks. `acceptedAt` is how much the
loop had logged at that moment. -/
structure HubRequest where
  mode : HubMode
  acceptedAt : Nat
  deriving DecidableEq, Repr

/-- `run_router`, its control requests, and those for a hub mode that wait for the
write lock. -/
structure Site where
  sys : Sys
  waiting : List HubRequest

namespace Site

def start (w : World) : Site := ⟨.start w, []⟩

def world (s : Site) : World := s.sys.loop.world

inductive Input
  | control (i : Sys.Input)
  | request (mode : String)
  | change (n : Nat) (o : SaveOutcome)
  deriving DecidableEq, Repr

/-- The request that the step lets write: one that waits, once the lock is free. -/
def writes (s : Site) : Input → Option HubRequest
  | .change n _ => if s.world.configLock = .free then s.waiting[n]? else none
  | _ => none

/-- One step of any party. -/
def step (T : Toml) (s : Site) : Input → Option Site
  | .control i => (s.sys.step T i).map fun sys => { s with sys }
  | .request mode =>
    match hubModeSwitch mode s.world.state with
    | .error _ => some s
    | .ok (m, _) => some { s with waiting := s.waiting ++ [⟨m, s.world.log.length⟩] }
  | .change n o =>
    (s.writes (.change n o)).map fun r =>
      { s with
        sys.loop.world := s.world.hubSwitched T r.mode o
        waiting := s.waiting.eraseIdx n }

/-- Nothing is written while a router exists. -/
def WritesApart (s : Site) (i : Input) : Prop :=
  ∀ r, s.writes i = some r → liveRouters s.world.log = []

end Site

/-- Since the check a router was stopped and none started after it, or none was
either, and the check was not made within a start or a stop. -/
def HubRequest.Undisturbed (r : HubRequest) (log : List Event) : Prop :=
  lastLives (log.drop r.acceptedAt) = some false ∨
    (lastLives (log.drop r.acceptedAt) = none ∧ lastLives (log.take r.acceptedAt) ≠ some true)

def Site.Undisturbed (s : Site) (i : Site.Input) : Prop :=
  ∀ r, s.writes i = some r → r.Undisturbed s.world.log

theorem HubRequest.undisturbed_iff (r : HubRequest) (log : List Event) :
    r.Undisturbed log ↔ lastLives log ≠ some true := by
  have hsplit := lastLives_append (log.take r.acceptedAt) (log.drop r.acceptedAt)
  rw [List.take_append_drop] at hsplit
  unfold Undisturbed
  rw [hsplit]
  cases lastLives (log.drop r.acceptedAt) with
  | none => simp
  | some b => cases b <;> simp

/-! ## Between any two steps -/

/-- The turn in progress can be seen through to its end, which is in order. -/
def OrderedTurn (p : Task Flow) (w : World) : Prop :=
  ∃ r w', p.run w = some (r, w') ∧ Ordered w'.log ∧ (r = .ok .continue → Tidy w')

/-- What is left of a turn was put together from the loop's steps. -/
structure Loop.Orderly (l : Loop) : Prop where
  grows : l.Keeps World.Grows
  blind : ∀ p, l.task = some p → p.Blind World.SameLoop
  idle : l.task = none → Tidy l.world
  turn : ∀ p, l.task = some p → OrderedTurn p l.world

theorem Loop.Orderly.ordered {l : Loop} (h : l.Orderly) : Ordered l.world.log := by
  cases htask : l.task with
  | none => exact (h.idle htask).single.ordered
  | some p =>
    obtain ⟨r, w', hrun, hordered, -⟩ := h.turn p htask
    exact hordered.earlier ((h.grows p htask).run World.Grows.refl World.Grows.trans hrun).log

theorem orderedTurn_handle {T : Toml} {w : World} (h : Tidy w) (i : Input) (o : Outcomes) :
    OrderedTurn (handle T i o) w := by
  obtain ⟨s, hstep, hturn⟩ := turn_of_idle (T := T) h.idle i o
  have hsingle := hturn.single h
  simp only [Status.step] at hstep
  split at hstep
  all_goals cases hstep
  · rename_i w' hrun
    exact ⟨_, w', hrun, hsingle.ordered, fun _ => ⟨hturn.idle h.idle, hsingle⟩⟩
  all_goals
    rename_i w' hrun
    exact ⟨_, w', hrun, hsingle.ordered.earlier (leave_grows w'), by simp⟩

theorem Loop.orderly_wake {T : Toml} {w : World} {l : Loop} {i : Input} {o : Outcomes}
    (h : Tidy w) (hw : Loop.wake T ⟨w, none⟩ i o = some l) : l.Orderly := by
  obtain ⟨-, rfl⟩ := Loop.wake_some hw
  refine ⟨?_, ?_, by simp, ?_⟩
  · intro p hp
    obtain rfl := Option.some.inj hp
    exact grows_handle T i o
  · intro p hp
    obtain rfl := Option.some.inj hp
    exact (made_handle T i o).blind
  · intro p hp
    obtain rfl := Option.some.inj hp
    exact orderedTurn_handle h i o

theorem Loop.Orderly.tick {l l' : Loop} (h : l.Orderly) (ht : l.tick = some l') : l'.Orderly := by
  obtain ⟨-, hgrows⟩ := h.grows.tick World.Grows.refl ht
  unfold Loop.tick at ht
  split at ht
  · cases ht
  · rename_i htask
    cases ht
    refine ⟨hgrows, by simp, ?_, by simp⟩
    intro _
    obtain ⟨r, w', hrun, -, htidy⟩ := h.turn _ htask
    obtain ⟨rfl, rfl⟩ : .ok .continue = r ∧ l.world = w' := by simpa [Prog.run] using hrun
    exact htidy rfl
  · rename_i p _ htask
    obtain ⟨⟨q, w⟩, hn, rfl⟩ := Option.map_eq_some_iff.mp ht
    refine ⟨hgrows, ?_, by simp, ?_⟩
    · intro p' hp'
      obtain rfl := Option.some.inj hp'
      exact (h.blind p htask).next World.SameLoop.refl hn
    · intro p' hp'
      obtain rfl := Option.some.inj hp'
      obtain ⟨r, w', hrun, hend⟩ := h.turn p htask
      exact ⟨r, w', (run_next hn).trans hrun, hend⟩

theorem Tidy.sameLoop {w w' : World} (h : Tidy w) (hw : w.SameLoop w') : Tidy w' := by
  refine ⟨⟨?_, ?_, ?_⟩, ⟨⟨?_, ?_⟩, ?_⟩⟩
  · rw [hw.lock]
    exact h.idle.lock
  · rw [hw.running, hw.state]
    exact h.idle.held
  · rw [hw.running, hw.state]
    exact h.idle.bare
  · rw [hw.log]
    exact h.single.owned
  · rw [hw.log, hw.running, hw.state]
    exact h.single.ledger
  · rw [hw.log]
    exact h.single.ordered

/-- A change of mode leaves the turn in progress to end as it would have. -/
theorem Loop.Orderly.sameLoop {l : Loop} (h : l.Orderly) {w : World} (hw : l.world.SameLoop w) :
    Loop.Orderly { l with world := w } := by
  refine ⟨h.grows, h.blind, fun hidle => (h.idle hidle).sameLoop hw, ?_⟩
  intro p hp
  obtain ⟨r, w', hrun, hordered, htidy⟩ := h.turn p hp
  obtain ⟨w'', hrun', hsame⟩ := (h.blind p hp).run hw hrun
  exact ⟨r, w'', hrun', hsame.log.symm ▸ hordered, fun hr => (htidy hr).sameLoop hsame⟩

theorem Tidy.received {w : World} (h : Tidy w) (r : Request) : Tidy (w.emit (.received r)) := by
  refine ⟨⟨h.idle.lock, h.idle.held, h.idle.bare⟩, ?_⟩
  exact h.single.note (fun _ => rfl) (fun _ => trivial) fun _ => trivial

theorem Sys.step_orderly {T : Toml} {s s' : Sys} {i : Sys.Input} (h : s.loop.Orderly)
    (hs : s.step T i = some s') : s'.loop.Orderly := by
  cases i with
  | request c =>
    simp only [step] at hs
    split at hs <;> cases hs <;> exact h
  | send n =>
    simp only [step] at hs
    split at hs
    · cases hs
    · split at hs
      · cases hs
        exact h
      · cases hs
  | receive o =>
    simp only [step] at hs
    split at hs
    · cases hs
    · rename_i r queue hq
      obtain ⟨l, hw, rfl⟩ := Option.map_eq_some_iff.mp hs
      have hidle : s.loop.task = none := (Loop.wake_some hw).1
      have htidy := (h.idle hidle).received r
      rw [hidle] at hw
      exact Loop.orderly_wake htidy hw
  | interrupt o =>
    obtain ⟨l, hw, rfl⟩ := Option.map_eq_some_iff.mp hs
    have hidle : s.loop.task = none := (Loop.wake_some hw).1
    have htidy := h.idle hidle
    obtain ⟨⟨w, task⟩, accepted, queue⟩ := s
    obtain rfl : task = none := hidle
    exact Loop.orderly_wake htidy hw
  | tick =>
    obtain ⟨l, ht, rfl⟩ := Option.map_eq_some_iff.mp hs
    exact h.tick ht

theorem Site.step_orderly {T : Toml} {s s' : Site} {i : Site.Input} (h : s.sys.loop.Orderly)
    (hs : s.step T i = some s') : s'.sys.loop.Orderly := by
  cases i with
  | control i =>
    obtain ⟨sys, hsys, rfl⟩ := Option.map_eq_some_iff.mp hs
    exact Sys.step_orderly h hsys
  | request mode =>
    simp only [step] at hs
    split at hs <;> cases hs <;> exact h
  | change n o =>
    obtain ⟨r, -, rfl⟩ := Option.map_eq_some_iff.mp hs
    exact h.sameLoop (sameLoop_hubSwitched s.world T r.mode o)

/-- In every interleaving of control requests, hub mode requests and loop, no hub
mode is written while a router exists exactly if every write is undisturbed: since
its check nothing has been started that is not stopped again, and the check was
not made within a start or a stop. -/
theorem hub_mode_written_apart_iff {a : Launch} {T : Toml} {w : World}
    (h : a.begin T = some (.waiting w)) (inputs : List Site.Input) :
    Runs.Each (Site.step T) (.start w) inputs Site.WritesApart ↔
      Runs.Each (Site.step T) (.start w) inputs Site.Undisturbed := by
  have hstart : (Site.start w).sys.loop.Orderly :=
    ⟨by simp [Loop.Keeps, Site.start, Sys.start], by simp [Site.start, Sys.start],
      fun _ => a.tidy h, by simp [Site.start, Sys.start]⟩
  have horderly : Runs.Always (Site.step T) (.start w) inputs fun s => s.sys.loop.Orderly :=
    Runs.always_of_step (fun _ _ _ hs hstep => Site.step_orderly hs hstep) hstart inputs
  have hsame : ∀ (s : Site) i, s.sys.loop.Orderly → (s.WritesApart i ↔ s.Undisturbed i) := by
    intro s i hs
    apply forall₂_congr
    intro r _
    rw [r.undisturbed_iff]
    exact hs.ordered.live_iff
  constructor
  · intro heach
    exact heach.mono_of_always horderly fun s i hs => (hsame s i hs).mp
  · intro heach
    exact heach.mono_of_always horderly fun s i hs => (hsame s i hs).mpr

/-- A control request is accepted, sent and carried out. -/
def carryOut (c : Call) (ticks : Nat) : List Site.Input :=
  [.control (.request c), .control (.send 0), .control (.receive ⟨.ok none, .written⟩)] ++
    .replicate ticks (.control .tick)

/-- The router is stopped, a mode requested and written. -/
theorem mode_written_while_stopped :
    ∃ w, (hubLaunch false).begin hubToml = some (.waiting w) ∧
      Runs.Each (Site.step hubToml) (.start w)
        (carryOut .stop 7 ++ [.request "embedded"] ++ [.change 0 .written]) Site.WritesApart := by
  refine ⟨_, begin_hubLaunch false,
    (hub_mode_written_apart_iff (begin_hubLaunch false) _).mpr (Runs.each_append.mpr ⟨?_, ?_⟩)⟩
  · intro seen i hp t _ r hr
    have hmem : i ∈ carryOut .stop 7 ++ [.request "embedded"] := hp.subset (by simp)
    simp only [carryOut, List.mem_append, List.mem_cons, List.mem_replicate, List.not_mem_nil,
      or_false] at hmem
    rcases hmem with ((rfl | rfl | rfl) | ⟨-, rfl⟩) | rfl <;> cases hr
  · intro t ht
    have hlog : t.world.log = [.published .starting, .startCalled, .started 0,
        .published .running, .received ⟨.stop, 4⟩, .published .stopping, .stopped 0,
        .published .stopped, .stoppedViaCommand] := by
      obtain rfl := Option.some.inj ht
      rfl
    refine Runs.each_cons.mpr ⟨?_, fun _ _ => Runs.each_nil⟩
    intro r hr
    rw [HubRequest.undisturbed_iff, hlog]
    decide

/-- A mode requested while the router is stopped is written after it has been
started again. -/
theorem mode_written_under_a_router :
    ∃ w s, (hubLaunch false).begin hubToml = some (.waiting w) ∧
      Runs.after (Site.step hubToml) (.start w)
        (carryOut .stop 7 ++ [.request "embedded"] ++ carryOut .start 10) = some s ∧
      s.world.state = .running ∧ liveRouters s.world.log = [1] ∧
      s.writes (.change 0 .written) = some ⟨.embedded, 9⟩ ∧
      ¬ Runs.Each (Site.step hubToml) (.start w)
        (carryOut .stop 7 ++ [.request "embedded"] ++ carryOut .start 10 ++
          [.change 0 .written]) Site.WritesApart := by
  refine ⟨_, _, begin_hubLaunch false, rfl, rfl, rfl, rfl, ?_⟩
  intro h
  have happart := h _ (.change 0 .written) List.prefix_rfl _ rfl _ rfl
  cases happart

end BacnetBridge
