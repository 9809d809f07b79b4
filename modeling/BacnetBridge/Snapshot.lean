import BacnetBridge.Serial

/-! What the status shows while changes of the hub mode are under way, and whether a
handler can be kept waiting for ever: not by the others, though `start_router`, which the
loop calls under the read lock, could hold up everybody by never returning. -/
namespace BacnetBridge

open Prog Monitor

/-- In embedded mode the URL is that of the embedded hub, or one that was put. -/
def Embedded (bodies : BridgeConfig → Prop) (v : HubVars) : Prop :=
  v.isEmbeddedHub = true → v.hubUrl = embeddedHubUrl ∨
    ∃ body, bodies body ∧ v.hubUrl = body.router.sc.hubUrl

theorem Launch.embedded {a : Launch} {T : Toml} {w : World} (h : a.begin T = some (.waiting w))
    (bodies : BridgeConfig → Prop) : Embedded bodies w.hubVars := by
  obtain ⟨config, file, -, hvars⟩ := a.hubVars h
  rw [hvars]
  split
  · exact fun _ => .inl rfl
  · exact fun hflag => by cases hflag

theorem embedded_switch (bodies : BridgeConfig → Prop) (v : HubVars) (m : HubMode) :
    Embedded bodies (v.switch m) := by
  intro hflag
  cases m with
  | embedded => exact .inl rfl
  | cloud => cases hflag

def Store.hubVars (s : Store) : HubVars :=
  ⟨s.config.router.sc.hubUrl, s.cloudHubUrl, s.isEmbeddedHub⟩

theorem updateConfig_hubVars (w : World) (T : Toml) (body : BridgeConfig) (o : SaveOutcome) :
    (w.updateConfig T body o).2.hubVars = { w.hubVars with hubUrl := body.router.sc.hubUrl } := by
  unfold World.updateConfig
  dsimp only
  split
  · rfl
  · split <;> rfl

/-- Configurations are put only from `bodies`. -/
def Puts (bodies : BridgeConfig → Prop) (activity : Activity) : Prop :=
  ∀ body o, activity = .updateConfig body o → bodies body

/-- Nothing that an activity does under the lock leaves a change of mode half done. -/
theorem Activity.Does.embedded {T : Toml} {bodies : BridgeConfig → Prop} {activity : Activity}
    (hputs : Puts bodies activity) {c : Change} (hc : activity.Does c) {s : Store}
    (hs : Embedded bodies s.hubVars) : Embedded bodies (c.apply T s).hubVars := by
  have hlook : c = .look → Embedded bodies (c.apply T s).hubVars := by
    rintro rfl
    exact hs
  cases activity with
  | hubMode mode o =>
    obtain ⟨m, rfl⟩ := hc
    change Embedded bodies (s.world.hubSwitched T m o).hubVars
    rw [hubVars_hubSwitched]
    exact embedded_switch bodies _ m
  | updateConfig body o =>
    obtain rfl : c = .put body o := hc
    change Embedded bodies (s.world.updateConfig T body o).2.hubVars
    rw [updateConfig_hubVars]
    exact fun _ => .inr ⟨body, hputs body o rfl, rfl⟩
  | loop inputs =>
    rcases hc with hc | ⟨t, -, hsaved⟩
    · exact hlook hc
    · unfold savedBy at hsaved
      split at hsaved
      · split at hsaved
        · cases hsaved
          exact hs
        · cases hsaved
      · cases hsaved
  | _ => exact hlook hc

/-- In every interleaving of the loop, changes of the hub mode, configurations put and
requests that read, a status that says `embedded` shows the URL of the embedded hub or
one that was put: it never shows a change of mode half done. -/
theorem embedded_status_shows_its_url {a : Launch} {T : Toml} {w : World}
    (h : a.begin T = some (.waiting w)) {bodies : BridgeConfig → Prop} {pool : Activities}
    (hpool : Serves T (fun _ => Puts bodies) w.alone pool) {activity : Activity}
    {response : StatusResponse} (hresponse : (activity, .pure (.status response)) ∈ pool.tasks)
    (hmode : response.hubMode = "embedded") :
    response.connectedUrl = embeddedHubUrl ∨
      ∃ body, bodies body ∧ response.connectedUrl = body.router.sc.hubUrl := by
  obtain ⟨history, hrecorded⟩ := hpool.recorded h
  have hexplains := hrecorded.explains
  have hputs : ∀ t ∈ pool.tasks, Puts bodies t.1 :=
    hpool.labels (fun _ _ hmay => hmay) fun _ ht => by cases ht
  obtain ⟨n, hn⟩ := List.getElem?_of_mem hresponse
  have hanswer := hexplains.replies n activity _ hn
  generalize hfound : found (Change.apply T) w.store history n = record at hanswer
  cases hanswer with
  | status elapsed current s =>
    have hs : Embedded bodies s.hubVars := by
      refine found_invariant (P := fun s => Embedded bodies s.hubVars) (a.embedded h bodies)
        (fun entry hentry v hv => ?_) (hfound ▸ List.mem_singleton_self (Change.look, s))
      obtain ⟨t, ht, hdoes⟩ := hexplains.changes entry hentry
      exact hdoes.embedded (hputs t (List.mem_of_getElem? ht)) hv
    have hflag : s.isEmbeddedHub = true := by
      change hubModeText s.isEmbeddedHub = "embedded" at hmode
      cases hflag : s.isEmbeddedHub with
      | true => rfl
      | false => simp [hflag, hubModeText] at hmode
    exact hs hflag

/-- A bridge with an embedded hub that is asked for its status right at the start. -/
theorem first_status_shows_its_url : ∃ w pool response,
    (hubLaunch true).begin hubToml = some (.waiting w) ∧
      Serves hubToml (fun _ => Puts fun _ => False) w.alone pool ∧
      (Activity.status (some 0), .pure (.status response)) ∈ pool.tasks ∧
      response.hubMode = "embedded" ∧ response.connectedUrl = embeddedHubUrl := by
  obtain ⟨w, hw, hflag⟩ : ∃ w, (hubLaunch true).begin hubToml = some (.waiting w) ∧
      w.isEmbeddedHub = true := ⟨_, begin_hubLaunch true, rfl⟩
  have hrun : ((Activity.status (some 0)).task hubToml).run w =
      some (.ok (.status (statusResponse w.state (some 0) "embedded" w.config)), w) := by
    simp only [Activity.task, run_bind, run_status ((hubLaunch true).idle hw).lock, hflag,
      Option.bind_some, run_pure, hubModeText, if_true]
  have hserves : Serves hubToml (fun _ => Puts fun _ => False) w.alone
      ⟨w, [(.status (some 0), .pure (.status (statusResponse w.state (some 0) "embedded"
        w.config)))]⟩ := Serves.undisturbed .start _ (fun _ _ h => by cases h) hrun
  have hurl := embedded_status_shows_its_url hw hserves (List.mem_singleton_self _) rfl
  refine ⟨w, _, _, hw, hserves, List.mem_singleton_self _, rfl, ?_⟩
  rcases hurl with hembedded | ⟨_, hput, -⟩
  · exact hembedded
  · cases hput

/-- However many requests and turns are under way, once no more arrive all of them
finish, in whatever order they go on as long as one can: none waits for the lock for
ever, and no two wait for each other. Each call that the loop makes while it holds the
lock, of `start_router` above all, is taken to return. -/
theorem activities_finish {a : Launch} {T : Toml} {w : World}
    (h : a.begin T = some (.waiting w)) {may : Activities → Activity → Prop} {pool : Activities}
    (hpool : Serves T may w.alone pool) {schedule : Nat → Activities}
    (hbusy : Monitor.Busy schedule) (hfirst : schedule 0 = pool) :
    ∃ n, (schedule n).tasks.length = pool.tasks.length ∧
      ∀ t ∈ (schedule n).tasks, Finished t.2 := by
  obtain ⟨n, hlast, hstuck⟩ := hbusy.ends
  rw [hfirst] at hlast
  refine ⟨n, Monitor.steps_length hlast, ?_⟩
  intro t ht
  by_contra hunfinished
  obtain ⟨history, hrecorded⟩ := Serves.recorded h (hpool.steps hlast)
  obtain ⟨next, hnext⟩ := Sound.progress hrecorded ht hunfinished
  exact hstuck next hnext

/-- A change of mode and a status, asked for at once. -/
theorem mode_and_status_finish : ∃ w pool schedule n,
    (hubLaunch true).begin hubToml = some (.waiting w) ∧
      Serves hubToml (fun _ _ => True) w.alone pool ∧ pool.tasks.length = 2 ∧
      Monitor.Busy schedule ∧ schedule 0 = pool ∧ ∀ t ∈ (schedule n).tasks, Finished t.2 := by
  have hserves : ∀ w, Serves hubToml (fun _ _ => True) (World.alone w)
      ⟨w, [(_, (Activity.hubMode "cloud" .written).task hubToml),
        (_, (Activity.status (some 0)).task hubToml)]⟩ := fun w =>
    (Monitor.Reachable.start.arrive trivial).arrive trivial
  obtain ⟨schedule, hbusy, hfirst⟩ := Monitor.exists_busy _
  obtain ⟨n, -, hfinished⟩ :=
    activities_finish (begin_hubLaunch true) (hserves _) hbusy hfirst
  exact ⟨_, _, schedule, n, begin_hubLaunch true, hserves _, rfl, hbusy, hfirst, hfinished⟩

end BacnetBridge
