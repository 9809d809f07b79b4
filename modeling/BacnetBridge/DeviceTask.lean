import BacnetBridge.Deployment
import BacnetBridge.Survival

/-! The bridge with the task of its local device: each router that starts has a task of
its own, which its messages can kill, and nobody waits for. -/
namespace BacnetBridge

/-- The router that the loop holds. -/
def Bridge.router (b : Bridge) : Option StartedRouter :=
  b.status.world.running.bind fun running => b.built[running.id]?

/-- `device` is the state of the task of the router that runs, while it lives, and `heard`
is what has been delivered to it since that router was started. -/
structure Process where
  bridge : Bridge
  device : Option Device
  heard : List ReceivedApdu

inductive ProcessInput
  | op (op : BridgeOp)
  | apdu (msg : ReceivedApdu)

namespace Process

section

variable (C : Codec)

/-- A task for the router that runs, if one does. -/
def spawn (b : Bridge) : Process :=
  ⟨b, b.router.bind fun _ => (Device.start C).toOption, []⟩

def start (w : World) (O : Outside) : Process := spawn C (.start w O)

/-- An operation that leaves another router running has started it, and what stops a
router aborts its task. -/
def step (T : Toml) (p : Process) : ProcessInput → Option Process
  | .op op => (p.bridge.step T op).map fun bridge =>
    if bridge.status.world.running = p.bridge.status.world.running then { p with bridge }
    else spawn C bridge
  | .apdu msg =>
    match p.bridge.router with
    | none => some p
    | some r =>
      some { p with
        device := p.device.bind (·.step C r.device r.device.localMac msg)
        heard := p.heard ++ [msg] }

/-- What the messages have made of a device that starts. -/
def told (r : StartedRouter) (msgs : List ReceivedApdu) : Option Device :=
  (Device.start C).toOption.bind (Runs.after (Device.step C r.device r.device.localMac) · msgs)

/-- The router that runs is one that was built, the state says so, and its device is what
its messages have made of it. -/
structure Told (p : Process) : Prop where
  counted : p.bridge.Counted
  built : ∀ running, p.bridge.status.world.running = some running →
    ∃ r, p.bridge.built[running.id]? = some r
  device : ∀ r, p.bridge.router = some r → p.device = told C r p.heard

end

variable {C : Codec} {T : Toml} {p q : Process}

theorem told_append (r : StartedRouter) (msgs : List ReceivedApdu) (msg : ReceivedApdu) :
    told C r (msgs ++ [msg]) =
      (told C r msgs).bind (·.step C r.device r.device.localMac msg) := by
  unfold told
  rw [Option.bind_assoc]
  refine congrArg _ (funext fun d => ?_)
  rw [Runs.after_append]
  refine congrArg _ (funext fun d' => ?_)
  exact Option.bind_fun_some _

theorem told_spawn {b : Bridge} (hcounted : b.Counted)
    (hbuilt : ∀ running, b.status.world.running = some running →
      ∃ r, b.built[running.id]? = some r) : (spawn C b).Told C := by
  refine ⟨hcounted, hbuilt, fun r hr => ?_⟩
  change b.router.bind _ = _
  change b.router = some r at hr
  rw [hr]
  exact (Option.bind_fun_some _).symm

theorem router_kept {b b' : Bridge} {w : World} {op : BridgeOp}
    (hbuilt : ∀ running, b.status.world.running = some running →
      ∃ r, b.built[running.id]? = some r) (h : Bridge.Stepped b w op b')
    (hkept : b'.status.world.running = b.status.world.running) : b'.router = b.router := by
  unfold Bridge.router
  rw [hkept]
  cases h with
  | put _ _ _ hsame => rw [hsame]
  | same => rfl
  | bare _ _ _ hnone => rw [← hkept, hnone, Option.bind_none, Option.bind_none]
  | built _ _ O r _ _ _ hnew hrouter =>
    -- The number of a new router is that of no router before it.
    obtain ⟨r', hr'⟩ := hbuilt _ (hkept.symm.trans hrouter)
    simp at hr'

theorem Told.step (h : p.Told C) {i : ProcessInput} (hq : p.step C T i = some q) :
    q.Told C := by
  obtain ⟨hcounted, hbuilt, hdevice⟩ := h
  cases i with
  | apdu msg =>
    simp only [Process.step] at hq
    cases hr : p.bridge.router with
    | none =>
      rw [hr] at hq
      cases hq
      exact ⟨hcounted, hbuilt, hdevice⟩
    | some r =>
      rw [hr] at hq
      cases hq
      refine ⟨hcounted, hbuilt, fun r' hr' => ?_⟩
      obtain rfl := Option.some.inj (hr.symm.trans hr')
      rw [told_append, ← hdevice r hr]
  | op op =>
    obtain ⟨b', hstep, rfl⟩ := Option.map_eq_some_iff.mp hq
    cases hb : p.bridge.status with
    | returned r w =>
      rw [Bridge.step_returned hb] at hstep
      cases hstep
    | waiting w =>
      have hworld : p.bridge.status.world = w := by
        rw [hb]
        rfl
      obtain ⟨hcounted', hstepped⟩ := Bridge.step_cases hcounted hb hstep
      have hbuilt' : ∀ running, b'.status.world.running = some running →
          ∃ r, b'.built[running.id]? = some r := by
        intro running hrunning
        cases hstepped with
        | put body save _ hsame hrouter =>
          rw [hsame]
          exact hbuilt running (hworld ▸ hrouter ▸ hrunning)
        | same => exact hbuilt running hrunning
        | bare _ _ _ hnone => cases hnone.symm.trans hrunning
        | built _ _ O r _ _ _ hnew hrouter =>
          obtain rfl := Option.some.inj (hrouter.symm.trans hrunning)
          exact ⟨r, hnew ▸ List.getElem?_concat_length⟩
      split
      · rename_i hkept
        refine ⟨hcounted', hbuilt', fun r hr => hdevice r ?_⟩
        rw [← router_kept hbuilt hstepped (hkept.trans (congrArg World.running hworld).symm)]
        exact hr
      · exact told_spawn hcounted' hbuilt'

theorem step_apdu {r : StartedRouter} (hr : p.bridge.router = some r) (msg : ReceivedApdu) :
    p.step C T (.apdu msg) = some { p with
      device := p.device.bind (·.step C r.device r.device.localMac msg)
      heard := p.heard ++ [msg] } := by
  simp only [step, hr]

theorem start_told {a : Launch} {w : World} {O : Outside} (h : a.begin T = some (.waiting w))
    (hstart : a.start = .of (startRouter O w.config)) : (start C w O).Told C := by
  obtain ⟨hcounted, hheld⟩ :=
    a.bridge_start (P := fun _ _ => True) (fun _ _ _ _ => trivial) h hstart
  refine told_spawn hcounted fun running hrunning => ?_
  obtain ⟨r, hr, -⟩ := hheld running hrunning
  exact ⟨r, hr⟩

end Process

/-- Over every run of the process, whatever is requested, whatever is found outside and
whatever the networks send: while the loop holds a router the state is `Running`, and the
device on it answers exactly if nothing it was sent since that router was started has made
it read past the end. Nothing but another start of the router brings it back. -/
theorem device_answers_iff {C : Codec} {T : Toml} {a : Launch} {w : World} {O : Outside}
    {d : Device} (h : a.begin T = some (.waiting w))
    (hstart : a.start = .of (startRouter O w.config)) (hd : Device.start C = .ok d)
    {inputs : List ProcessInput} {p : Process}
    (hrun : Runs.after (Process.step C T) (.start C w O) inputs = some p) {v : World}
    (hv : p.bridge.status = .waiting v) {r : StartedRouter} (hr : p.bridge.router = some r) :
    v.state = .running ∧
      p.device = Runs.after (Device.step C r.device r.device.localMac) d p.heard ∧
      (p.device.isSome ↔ Runs.Each (Device.step C r.device r.device.localMac) d p.heard
        fun d msg => ¬ ReadsPastEnd d msg) := by
  have htold : p.Told C := Runs.always_of_step (fun _ _ _ hp hq => Process.Told.step hp hq)
    (Process.start_told h hstart) inputs inputs List.prefix_rfl p hrun
  have hdevice : p.device = Runs.after (Device.step C r.device r.device.localMac) d p.heard := by
    rw [htold.device r hr, Process.told, hd]
    rfl
  refine ⟨?_, hdevice, ?_⟩
  · obtain ⟨running, hrunning, -⟩ := Option.bind_eq_some_iff.mp hr
    rw [hv] at hrunning
    exact (htold.counted.idle v hv).held running hrunning
  · rw [hdevice, Runs.after_isSome_iff]
    exact forall₄_congr fun _ _ _ _ => forall_congr' fun _ => step_isSome_iff ..

/-- The bridge still says that it runs. -/
theorem truncated_read_silences_a_running_bridge : ∃ (a : Launch) (w v : World) (p : Process),
    a.begin hubToml = some (.waiting w) ∧
    a.start = .of (startRouter plainOutside w.config) ∧
    Runs.after (Process.step .standard hubToml) (.start .standard w plainOutside)
      [.apdu truncatedRead] = some p ∧
    p.bridge.status = .waiting v ∧ v.state = .running ∧ p.device = none := by
  obtain ⟨w, hbegin, hstart, -, hrunning⟩ := spoke_begins
  obtain ⟨d, hd⟩ : ∃ d, Device.start .standard = .ok d := ⟨_, rfl⟩
  obtain ⟨-, -, -, -, -, -, hcache, -⟩ := Device.start_cases hd
  obtain ⟨r, hr⟩ := (Process.start_told (C := .standard) hbegin hstart).built _ hrunning
  have hrouter : (Bridge.start w plainOutside).router = some r :=
    Option.bind_eq_some_iff.mpr ⟨_, hrunning, hr⟩
  obtain ⟨p, hstep, hbridge, hheard⟩ : ∃ p, Process.step .standard hubToml
      (.start .standard w plainOutside) (.apdu truncatedRead) = some p ∧
      p.bridge = .start w plainOutside ∧ p.heard = [truncatedRead] :=
    ⟨_, Process.step_apdu hrouter truncatedRead, rfl, rfl⟩
  have hrun : Runs.after (Process.step .standard hubToml) (.start .standard w plainOutside)
      [.apdu truncatedRead] = some p := by
    rw [Runs.after_cons, hstep]
    rfl
  have hstatus : p.bridge.status = .waiting w := by
    rw [hbridge]
    rfl
  obtain ⟨hstate, -, hanswers⟩ :=
    device_answers_iff hbegin hstart hd hrun hstatus (hbridge ▸ hrouter)
  refine ⟨_, _, _, p, hbegin, hstart, hrun, hstatus, hstate, ?_⟩
  rw [← Option.not_isSome_iff_eq_none, hanswers, hheard]
  intro heach
  refine (Runs.each_cons.mp heach).1 ⟨rfl, rfl, fun _ _ => congrFun hcache _, ?_⟩
  rintro _ ⟨⟩
  rfl

end BacnetBridge
