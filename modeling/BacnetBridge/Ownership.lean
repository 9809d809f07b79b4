import BacnetBridge.Lifecycle

/-! Who owns a started router: the events of a run are read into a ledger of the
routers that are live, and every event finds the ledger it needs. -/
namespace BacnetBridge

/-- The routers started and not yet stopped, and the state last published. -/
structure Ledger where
  live : List Nat
  published : AppState
  deriving DecidableEq, Repr

namespace Ledger

def start : Ledger := ⟨[], .stopped⟩

def after (l : Ledger) : Event → Ledger
  | .started id => { l with live := id :: l.live }
  | .stopped id | .dropped id => { l with live := l.live.erase id }
  | .published s => { l with published := s }
  | _ => l

def step (l : Ledger) (e : Event) : Option Ledger := some (l.after e)

/-- `Running` is published only while a router is live. -/
def Sound (l : Ledger) : Prop := l.published = .running → l.live ≠ []

/-- `start_router` is called, and `run_router` left, with no router live; no
router is dropped. -/
def Permits (l : Ledger) : Event → Prop
  | .startCalled | .left => l.live = []
  | .dropped _ => False
  | _ => True

end Ledger

/-- Every event of the log is permitted by the ledger of the events before it,
and every ledger along the log is sound. -/
def Owned (log : List Event) : Prop :=
  Runs.Always Ledger.step .start log Ledger.Sound ∧
    Runs.Each Ledger.step .start log Ledger.Permits

/-- The log is owned, and its ledger is what the memory says. -/
structure Balanced (w : World) : Prop where
  owned : Owned w.log
  ledger : Runs.after Ledger.step .start w.log =
    some ⟨w.running.toList.map (·.id), w.state⟩

/-- Further events are judged by the ledger that the memory shows. -/
theorem Balanced.extend {w w' : World} (h : Balanced w) {es : List Event}
    (hlog : w'.log = w.log ++ es)
    (hs : Runs.Always Ledger.step ⟨w.running.toList.map (·.id), w.state⟩ es Ledger.Sound)
    (hp : Runs.Each Ledger.step ⟨w.running.toList.map (·.id), w.state⟩ es Ledger.Permits)
    (hl : Runs.after Ledger.step ⟨w.running.toList.map (·.id), w.state⟩ es =
      some ⟨w'.running.toList.map (·.id), w'.state⟩) : Balanced w' := by
  have hsound : Runs.Always Ledger.step .start w'.log Ledger.Sound := by
    rw [hlog]
    exact h.owned.1.append h.ledger hs
  have hpermits : Runs.Each Ledger.step .start w'.log Ledger.Permits := by
    rw [hlog]
    exact h.owned.2.append h.ledger hp
  have hledger : Runs.after Ledger.step .start w'.log =
      some ⟨w'.running.toList.map (·.id), w'.state⟩ := by
    rw [hlog, Runs.after_append, h.ledger]
    exact hl
  exact ⟨⟨hsound, hpermits⟩, hledger⟩

namespace Balanced

theorem sound {w : World} (h : Balanced w) : w.state = .running → w.running ≠ none := by
  have hs : Ledger.Sound ⟨w.running.toList.map (·.id), w.state⟩ :=
    h.owned.1 w.log List.prefix_rfl _ h.ledger
  intro hrun hnone
  exact hs hrun (by simp [hnone])

theorem halted {w : World} (h : Balanced w) {r : RunningRouter} (hr : w.running = some r) :
    Balanced (w.halted r) := by
  have hs := h.sound
  apply h.extend rfl
  · simp [Runs.always_cons, Runs.always_nil, Ledger.step, Ledger.after, Ledger.Sound, hr]
  · simp [Runs.each_cons, Runs.each_nil, Ledger.step, Ledger.after, Ledger.Permits]
  · simp [World.halted, Ledger.step, Ledger.after, hr]

theorem announced {w : World} (h : Balanced w) : Balanced w.announced := by
  have hs := h.sound
  apply h.extend rfl
  · simpa [Runs.always_cons, Runs.always_nil, Ledger.step, Ledger.after, Ledger.Sound] using hs
  · simp [Runs.each_cons, Runs.each_nil, Ledger.step, Ledger.after, Ledger.Permits]
  · simp [World.announced, World.emit, Ledger.step, Ledger.after]

theorem launched {w : World} (h : Balanced w) (hr : w.running = none) (o : StartOutcome) :
    Balanced (w.launched o) := by
  have hs := h.sound
  cases o with
  | ok b =>
    apply h.extend rfl
    · simpa [Runs.always_cons, Runs.always_nil, Ledger.step, Ledger.after, Ledger.Sound, hr]
        using hs
    · simp [Runs.each_cons, Runs.each_nil, Ledger.step, Ledger.after, Ledger.Permits, hr]
    · simp [World.launched, Ledger.step, Ledger.after, hr]
  | err e =>
    apply h.extend rfl
    · simpa [Runs.always_cons, Runs.always_nil, Ledger.step, Ledger.after, Ledger.Sound, hr]
        using hs
    · simp [Runs.each_cons, Runs.each_nil, Ledger.step, Ledger.after, Ledger.Permits, hr]
    · simp [World.launched, Ledger.step, Ledger.after, hr]

/-- An event that the ledger does not record. -/
theorem emit {w : World} (h : Balanced w) {e : Event} (hafter : ∀ l : Ledger, l.after e = l)
    (hpermits : ∀ l : Ledger, l.Permits e) : Balanced (w.emit e) := by
  have hs := h.sound
  apply h.extend rfl
  · simpa [Runs.always_cons, Runs.always_nil, Ledger.step, hafter, Ledger.Sound] using hs
  · simp [Runs.each_cons, Runs.each_nil, hpermits]
  · simp [World.emit, Ledger.step, hafter]

theorem saved {w : World} (h : Balanced w) (T : Toml) (mode : String) (o : SaveOutcome) :
    Balanced (w.saved T mode o) := ⟨h.owned, h.ledger⟩

theorem readied {w : World} (h : Balanced w) (T : Toml) (mode : String) (o : SaveOutcome) :
    Balanced (w.readied T mode o) := by
  have hsw : Balanced (w.emit (.switching mode)) := h.emit (fun _ => rfl) (fun _ => trivial)
  unfold World.readied
  split
  · rename_i r _ hr
    exact ((hsw.halted hr).saved T mode o).announced
  · exact (hsw.saved T mode o).announced
  · exact hsw.saved T mode o

/-- Leaving with no router held leaves none live. -/
theorem leave {w : World} (h : Balanced w) (hr : w.running = none) : Balanced w.leave := by
  have hs := h.sound
  have hleave : w.leave = w.emit .left := by simp [World.leave, hr]
  rw [hleave]
  apply h.extend rfl
  · simpa [Runs.always_cons, Runs.always_nil, Ledger.step, Ledger.after, Ledger.Sound] using hs
  · simp [Runs.each_cons, Runs.each_nil, Ledger.Permits, hr]
  · simp [World.emit, Ledger.step, Ledger.after, hr]

end Balanced

/-- Balanced throughout, and nothing held once `run_router` has returned. -/
def Status.Kept : Status → Prop
  | .waiting w => Balanced w
  | .returned _ w => Balanced w ∧ w.running = none

theorem Turn.kept {T : Toml} {w : World} {o : Outcomes} {i : Input} {s : Status} (h : Idle w)
    (hb : Balanced w) (ht : Turn T w o i s) : s.Kept := by
  cases ht with
  | ignored => exact hb
  | stopped r hr hs => exact (hb.halted hr).emit (fun _ => rfl) (fun _ => trivial)
  | started hr hs => exact hb.announced.launched hr o.start
  | switched mode hm =>
    obtain ⟨-, hr, -⟩ := h.readied T mode o.save
    exact (hb.readied T mode o.save).launched hr o.start
  | shutDown i r hi hr hs => exact ⟨(hb.halted hr).leave rfl, leave_running _⟩
  | refused i hi hr hs => exact ⟨hb.leave hr, leave_running _⟩

theorem Launch.balanced_world (a : Launch) (config : BridgeConfig) (file : File) :
    Balanced (a.world config file) :=
  ⟨⟨Runs.always_nil.mpr (by simp [Ledger.Sound, Ledger.start]), Runs.each_nil⟩, rfl⟩

theorem Launch.kept {a : Launch} {T : Toml} {s : Status} (h : a.begin T = some s) : s.Kept := by
  obtain ⟨config, file, -, ⟨-, localAddr, -, rfl⟩ | ⟨-, e, rfl⟩⟩ := a.begin_cases h
  · have hb : Balanced (a.entered config file localAddr) := by
      have hw := (a.balanced_world config file).announced
      unfold entered
      split
      · exact ⟨hw.owned, hw.ledger⟩
      · exact hw
    exact hb.launched (a.entered_ready config file localAddr).2.1 a.start
  · exact ⟨(a.balanced_world config file).announced.leave rfl, leave_running _⟩

theorem kept_always {a : Launch} {T : Toml} {s : Status} (h : a.begin T = some s)
    (inputs : List (Input × Outcomes)) :
    Runs.Always (Status.step T) s inputs Status.Kept := by
  have hany : Runs.Each (Status.step T) s inputs fun _ _ => True := fun _ _ _ _ _ => trivial
  refine Runs.always_of_each ?_ (idle_always h inputs) (a.kept h) hany
  rintro (w | ⟨r, w⟩) ⟨i, o⟩ t hidle hb - hstep
  · exact (step_turn (hidle w rfl) hstep).kept (hidle w rfl) hb
  · simp [Status.step] at hstep

theorem Status.Kept.balanced {s : Status} (h : s.Kept) : Balanced s.world := by
  cases s with
  | waiting w => exact h
  | returned r w => exact h.1

/-- In every run each call of `start_router` and the final return find no router
live, no router is dropped, and `Running` is published only while one is live. -/
theorem routers_are_owned {a : Launch} {T : Toml} {s : Status} (h : a.begin T = some s)
    (inputs : List (Input × Outcomes)) {t : Status}
    (ht : Runs.after (Status.step T) s inputs = some t) :
    Owned t.world.log ∧ ∃ l, Runs.after Ledger.step .start t.world.log = some l ∧
      l.published = t.world.state ∧ ∀ result w, t = .returned result w → l.live = [] := by
  have hk := kept_always h inputs inputs List.prefix_rfl t ht
  refine ⟨hk.balanced.owned, _, hk.balanced.ledger, rfl, ?_⟩
  rintro result w rfl
  simp [Status.world, hk.2]

/-- A bridge whose second start fails and that is then told to exit: the
refused transition ends `run_router` with an error and no router live. -/
theorem routers_are_owned_up_to_an_error :
    ∃ s w, (spokeLaunch (.ok none)).begin spokeToml = some s ∧
      Runs.after (Status.step spokeToml) s
        [(.command .stop, ⟨.ok none, .written⟩), (.command .start, ⟨addressInUse, .written⟩),
          (.command .exit, ⟨.ok none, .written⟩)] =
        some (.returned (.error (.bridge (.invalidStateTransition "Starting" "Stopping"))) w) ∧
      Owned w.log ∧ w.log.getLast? = some .left := by
  refine ⟨_, _, rfl, rfl, ?_, rfl⟩
  exact (routers_are_owned (a := spokeLaunch (.ok none)) (T := spokeToml) rfl
    [(.command .stop, ⟨.ok none, .written⟩), (.command .start, ⟨addressInUse, .written⟩),
      (.command .exit, ⟨.ok none, .written⟩)] rfl).1

end BacnetBridge
