import BacnetBridge.ConfigChange
import BacnetBridge.Environment

/-! What is left of a bridge's configuration when it is started again with the same
options and environment. -/
namespace BacnetBridge

/-! ## What start-up imposes -/

namespace Launch

/-- What start-up puts over the file's configuration, in its order: the overrides,
`--transport`, and the URL of the embedded hub. -/
def imposed (a : Launch) : List (String × String) :=
  a.overrides ++ (a.transport.filter Task.validMode).toList.map (Key.transport.path, ·) ++
    if a.withHub then [(Key.hubUrl.path, embeddedHubUrl)] else []

/-- What start-up sets a field to, if it sets it. -/
def dictates (a : Launch) (k : Key) : Option k.kind.Value :=
  (a.imposed.filterMap (Assign.assignedTo assigned k)).getLast?

/-- Start-up would leave the configuration as it is. -/
def Settles (a : Launch) (c : BridgeConfig) : Prop :=
  ∀ k v, a.dictates k = some v → c.view k = v

theorem applyOverrides_path (c : BridgeConfig) (k : Key) (value : String) :
    applyOverrides c [(k.path, value)] = (k.parse value).elim c (c.put k) := by
  change applyOverride c k.path value = _
  rw [applyOverride_eq, reached_path]
  rfl

theorem applyOverrides_append (c : BridgeConfig) (items more : List (String × String)) :
    applyOverrides c (items ++ more) = applyOverrides (applyOverrides c items) more :=
  List.foldl_append

theorem applyTransportOverride_eq (c : BridgeConfig) (transport : Option String) :
    applyTransportOverride c transport = applyOverrides c
      ((transport.filter Task.validMode).toList.map (Key.transport.path, ·)) := by
  cases transport with
  | none => rfl
  | some mode =>
    cases hm : Task.validMode mode with
    | true =>
      rw [Option.filter_some, if_pos hm, Option.toList_some, List.map_singleton,
        applyOverrides_path]
      simp only [applyTransportOverride, hm]
      rfl
    | false =>
      rw [Option.filter_some, if_neg (by simp [hm])]
      simp only [applyTransportOverride, hm]
      rfl

theorem effective_eq (a : Launch) (held : BridgeConfig) :
    a.effective held = applyOverrides held a.imposed := by
  simp only [effective, imposed, applyOverrides_append, applyTransportOverride_eq]
  cases a.withHub with
  | false => rfl
  | true =>
    simp only [if_true, applyOverrides_path]
    rfl

variable {a b : Launch} {c held : BridgeConfig}

theorem effective_eq_self_iff : a.effective c = c ↔ a.Settles c := by
  obtain ⟨hview, hbdt⟩ := view_applyOverrides c a.imposed
  rw [effective_eq]
  unfold Settles dictates
  rw [← Assign.assignAll_eq_self_iff, ← hview]
  constructor
  · intro h
    rw [h]
  · intro h
    exact BridgeConfig.ext_view h hbdt

theorem settles_effective : a.Settles (a.effective held) := by
  obtain ⟨hview, -⟩ := view_applyOverrides held a.imposed
  rw [effective_eq]
  unfold Settles dictates
  rw [← Assign.assignAll_eq_self_iff, hview]
  exact Assign.assignAll_idem

/-- The embedded hub's URL has the last word. -/
theorem dictates_hubUrl (h : a.withHub = true) : a.dictates .hubUrl = some embeddedHubUrl := by
  have hassigned : assigned (Key.hubUrl.path, embeddedHubUrl) = some ⟨.hubUrl, embeddedHubUrl⟩ :=
    assigned_eq_some.mpr ⟨reached_path .hubUrl, rfl⟩
  have hto : Assign.assignedTo assigned .hubUrl (Key.hubUrl.path, embeddedHubUrl) =
      some embeddedHubUrl := by
    unfold Assign.assignedTo
    rw [hassigned]
    rfl
  unfold dictates imposed
  rw [if_pos h, List.filterMap_append, List.filterMap_cons_some hto, List.filterMap_nil,
    List.getLast?_append]
  rfl

theorem settles_put (h : a.Settles c) (k : Key) (v : k.kind.Value) :
    a.Settles (c.put k v) ↔ ∀ w, a.dictates k = some w → v = w := by
  have hview := c.view_put k v
  constructor
  · intro hput w hw
    simpa [hview] using hput k w hw
  · intro hk other w hw
    by_cases hother : other = k
    · subst hother
      simpa [hview] using hk w hw
    · simpa [hview, hother] using h other w hw

end Launch

/-! ## Starting again -/

/-- `b` starts the bridge of `a` again, on the file that was left. The environment is the
same, but may be visited in another order. -/
structure Launch.Restarts (b a : Launch) (file : File) : Prop where
  configPath : b.configPath = a.configPath
  file : b.file = file
  overrides : a.overrides.Perm b.overrides
  transport : b.transport = a.transport
  withHub : b.withHub = a.withHub
  calls : b.CallsStart

/-- Started again, the bridge has the configuration that it has in memory. -/
def World.Survives (a : Launch) (T : Toml) (w : World) : Prop :=
  ∀ b : Launch, b.Restarts a w.file →
    ∃ w', b.begin T = some (.waiting w') ∧ w'.config = w.config

section

variable {a b : Launch} {T : Toml} {w : World} {held : BridgeConfig}

theorem load_of_config {file : File} (h : file.config T = some held)
    (overrides : List (String × String)) (o : SaveOutcome) :
    BridgeConfig.load T overrides o file = (.ok (applyOverrides held overrides), file) := by
  unfold File.config at h
  split at h
  · rename_i content
    obtain ⟨doc, hdoc, rfl⟩ := Option.map_eq_some_iff.mp h
    cases hread : T.fromStr content with
    | error e =>
      rw [hread] at hdoc
      cases hdoc
    | ok doc' =>
      rw [hread] at hdoc
      cases hdoc
      simp only [BridgeConfig.load, hread]
  · cases h

/-- What a start finds in memory when the file holds a configuration. -/
theorem Launch.begin_of_config (hfile : b.file.config T = some held) (hcalls : b.CallsStart) :
    ∃ w, b.begin T = some (.waiting w) ∧ w.config = b.effective held ∧ w.file = b.file ∧
      (w.hubVars.switch .cloud).hubUrl =
        (applyOverrides held b.overrides).router.sc.hubUrl := by
  have hload := load_of_config hfile b.overrides b.firstSave
  rcases b.run_startUp (applyOverrides held b.overrides) b.file with
    ⟨-, localAddr, -, hrun⟩ | ⟨hno, -⟩
  · obtain ⟨hconfig, hfile'⟩ := b.entered_config held b.file localAddr
    have hbegin : b.begin T = some (.waiting ((b.entered (applyOverrides held b.overrides) b.file
        localAddr).launched b.start)) := by
      simp only [begin, hload, hrun]
    refine ⟨_, hbegin, hconfig, hfile', ?_⟩
    obtain ⟨config, file, hload', hvars⟩ := b.hubVars hbegin
    cases hload.symm.trans hload'
    rw [hvars]
    split <;> rfl
  · exact absurd hcalls hno

theorem Launch.Restarts.effective (h : b.Restarts a w.file)
    (hagree : Assign.Agree assigned a.overrides) (held : BridgeConfig) :
    applyOverrides held b.overrides = applyOverrides held a.overrides ∧
      b.effective held = a.effective held := by
  have hsame : applyOverrides held b.overrides = applyOverrides held a.overrides :=
    (applyOverrides_eq_iff held a.overrides b.overrides).mpr
      (Assign.assignAll_perm hagree h.overrides).symm
  refine ⟨hsame, ?_⟩
  simp only [Launch.effective, hsame, h.transport, h.withHub]

/-- A start of the same bridge on what was left. -/
theorem restarts_self (a : Launch) (file : File) :
    Launch.Restarts { a with file, hub := .listening none } a file :=
  ⟨rfl, rfl, .refl _, rfl, rfl, fun _ => ⟨none, rfl⟩⟩

/-- What holds of every restart is what holds of the configuration that start-up makes of
the file's, and of the hub's URL before its own hub. -/
theorem forall_restarts_iff (hagree : Assign.Agree assigned a.overrides)
    (hheld : w.file.config T = some held) (P : BridgeConfig → String → Prop) :
    (∀ b : Launch, b.Restarts a w.file → ∃ w', b.begin T = some (.waiting w') ∧
      P w'.config (w'.hubVars.switch .cloud).hubUrl) ↔
      P (a.effective held) (applyOverrides held a.overrides).router.sc.hubUrl := by
  have hbegins : ∀ b : Launch, b.Restarts a w.file → ∃ w', b.begin T = some (.waiting w') ∧
      w'.config = a.effective held ∧ (w'.hubVars.switch .cloud).hubUrl =
        (applyOverrides held a.overrides).router.sc.hubUrl := by
    intro b hb
    have hheld' : b.file.config T = some held := by
      rw [hb.file]
      exact hheld
    obtain ⟨w', hbegin, hconfig, -, hurl⟩ := Launch.begin_of_config hheld' hb.calls
    obtain ⟨hoverridden, heffective⟩ := hb.effective hagree held
    exact ⟨w', hbegin, hconfig.trans heffective, hoverridden ▸ hurl⟩
  constructor
  · intro h
    have hself := restarts_self a w.file
    obtain ⟨w', hbegin, hp⟩ := h _ hself
    obtain ⟨w'', hbegin', hconfig, hurl⟩ := hbegins _ hself
    obtain rfl := Status.waiting.inj (Option.some.inj (hbegin.symm.trans hbegin'))
    rwa [hconfig, hurl] at hp
  · intro hp b hb
    obtain ⟨w', hbegin, hconfig, hurl⟩ := hbegins b hb
    rw [← hconfig, ← hurl] at hp
    exact ⟨w', hbegin, hp⟩

theorem survives_iff (hagree : Assign.Agree assigned a.overrides)
    (hheld : w.file.config T = some held) : w.Survives a T ↔ a.effective held = w.config :=
  forall_restarts_iff hagree hheld fun config _ => config = w.config

end

/-! ## Runs -/

namespace ConfigOp

/-- The operation, if its save succeeds. -/
def persist (T : Toml) (s : Status) (op : ConfigOp) : Option Status :=
  match op.saved T s.world with
  | .ok () => op.step T s
  | .error _ => none

/-- The mode that a request for it is let through to. -/
def accepted (w : World) (mode : String) : Option HubMode :=
  (hubModeSwitch mode w.state).toOption.map (·.1)

/-- What the operation saves is what start-up would make of it. -/
def Respects (a : Launch) : Status → ConfigOp → Prop
  | .waiting _, .update body _ => a.Settles body
  | .waiting w, .hubMode mode _ => ∀ m ∈ accepted w mode, ∀ url ∈ a.dictates .hubUrl,
      (w.hubVars.switch m).hubUrl = url
  | .waiting _, .turn (.command (.switchTransport mode)) _ => Task.validMode mode = true →
      ∀ transport ∈ a.dictates .transport, mode = transport
  | _, _ => True

/-- What the operation saves has this URL of the hub. -/
def Stores (url : String) : Status → ConfigOp → Prop
  | .waiting _, .update body _ => body.router.sc.hubUrl = url
  | .waiting w, .hubMode mode _ => ∀ m ∈ accepted w mode, (w.hubVars.switch m).hubUrl = url
  | .waiting w, .turn (.command (.switchTransport mode)) _ => Task.validMode mode = true →
      w.config.router.sc.hubUrl = url
  | _, _ => True

end ConfigOp

/-- Memory and file after an operation whose save, if it makes one, succeeds. -/
inductive Persisted (T : Toml) (w : World) : ConfigOp → Status → Prop
  | put (body : BridgeConfig) (o : SaveOutcome) (t : Status) : t.world.config = body →
      t.world.file.config T = some body → Persisted T w (.update body o) t
  | hubMode (mode : String) (m : HubMode) (o : SaveOutcome) (t : Status) :
      ConfigOp.accepted w mode = some m →
      t.world.config = w.config.put .hubUrl (w.hubVars.switch m).hubUrl →
      t.world.file.config T = some (w.config.put .hubUrl (w.hubVars.switch m).hubUrl) →
      Persisted T w (.hubMode mode o) t
  | transport (mode : String) (o : Outcomes) (t : Status) : Task.validMode mode = true →
      t.world.config = w.config.put .transport mode →
      t.world.file.config T = some (w.config.put .transport mode) →
      Persisted T w (.turn (.command (.switchTransport mode)) o) t
  | kept (op : ConfigOp) (t : Status) : t.world.config = w.config → t.world.file = w.file →
      (∀ a, op.Respects a (.waiting w)) → (∀ url, op.Stores url (.waiting w)) →
      Persisted T w op t

/-- Whenever there is something to do, the file holds a configuration. -/
structure Status.Ready (T : Toml) (s : Status) : Prop where
  held : ∃ held, s.world.file.config T = some held
  path : s.world.configPath.isSome
  idle : ∀ w, s = .waiting w → Idle w

theorem hubSwitched_put (w : World) (T : Toml) (m : HubMode) (o : SaveOutcome) :
    (w.hubSwitched T m o).config = w.config.put .hubUrl (w.hubVars.switch m).hubUrl := by
  cases m with
  | embedded => rfl
  | cloud =>
    cases hkept : w.cloudHubUrl <;>
      simp [World.hubSwitched, World.hubVars, HubVars.switch, BridgeConfig.put, hkept]

namespace ConfigOp

variable {T : Toml} {op : ConfigOp} {s t : Status} {w : World}

theorem persist_some (h : op.persist T s = some t) :
    op.saved T s.world = .ok () ∧ op.step T s = some t := by
  unfold persist at h
  split at h
  · exact ⟨‹_›, h⟩
  · cases h

theorem persisted (hT : T.Faithful) (hs : (Status.waiting w).Ready T)
    (h : op.persist T (.waiting w) = some t) : Persisted T w op t ∧ t.Ready T := by
  obtain ⟨hsaved, hstep⟩ := persist_some h
  change op.saved T w = .ok () at hsaved
  have hpath : w.configPath.isSome := hs.path
  have hidle := hs.idle w rfl
  obtain ⟨reply, t', hrun, hran⟩ := exists_ran T hpath hidle op
  obtain rfl : t' = t := by simpa [step, hrun] using hstep
  obtain ⟨hpath', hidle'⟩ := hran.kept hpath hidle
  have hready : ∀ {c}, t'.world.file.config T = some c → t'.Ready T :=
    fun hc => ⟨⟨_, hc⟩, hpath', hidle'⟩
  cases hran with
  | updated body o hok =>
    have hfile := BridgeConfig.save_ok hT (Prod.ext hok rfl)
    exact ⟨.put body o _ rfl hfile, hready hfile⟩
  | notSaved body o e hfail => cases hfail.symm.trans hsaved
  | refused mode o refusal hcheck =>
    obtain ⟨held, hheld⟩ := hs.held
    have hnone : accepted w mode = none := by simp [accepted, hcheck, Except.toOption]
    refine ⟨.kept _ _ rfl rfl ?_ ?_, hready hheld⟩
    · intro a m hm
      rw [hnone] at hm
      cases hm
    · intro url m hm
      rw [hnone] at hm
      cases hm
  | switched mode o m reply hcheck =>
    have hconfig := hubSwitched_put w T m o
    have hok : ((w.hubSwitched T m o).config.save T o w.file).1 = .ok () := by
      simpa [saved, hcheck] using hsaved
    have hfile : (w.hubSwitched T m o).file.config T =
        some (w.config.put .hubUrl (w.hubVars.switch m).hubUrl) := by
      rw [hubSwitched_file hpath, ← hconfig]
      exact BridgeConfig.save_ok hT (Prod.ext hok rfl)
    have haccepted : accepted w mode = some m := by simp [accepted, hcheck, Except.toOption]
    exact ⟨.hubMode mode m o _ haccepted hconfig hfile, hready hfile⟩
  | turn i o _ hturn =>
    rcases saved_turn T w i o with ⟨mode, rfl, hm, hsave⟩ | ⟨hi, -⟩
    · obtain ⟨hconfig, hfile⟩ := hturn.config_switched hm
      have hheld : t'.world.file.config T = some (w.config.put .transport mode) := by
        rw [hfile]
        exact BridgeConfig.save_ok hT (Prod.ext (hsave.symm.trans hsaved) rfl)
      exact ⟨.transport mode o t' hm hconfig hheld, hready hheld⟩
    · obtain ⟨hconfig, hfile⟩ := hturn.config_same hi
      obtain ⟨held, hheld⟩ := hs.held
      have hheld' : t'.world.file.config T = some held := by
        rw [hfile]
        exact hheld
      refine ⟨.kept _ _ hconfig hfile ?_ ?_, hready hheld'⟩
      · intro a
        unfold Respects
        split <;> simp_all [Input.Switches]
      · intro url
        unfold Stores
        split <;> simp_all [Input.Switches]

end ConfigOp

section

variable {a : Launch} {T : Toml} {op : ConfigOp} {s t : Status} {w : World}

theorem ready_step (hT : T.Faithful) (hs : s.Ready T) (h : op.persist T s = some t) :
    t.Ready T := by
  cases s with
  | returned r w =>
    cases (ConfigOp.persist_some h).2
  | waiting w => exact (ConfigOp.persisted hT hs h).2

/-- Only a failed save and the end of `run_router` stop a run. -/
theorem returned_of_persist (hs : s.Ready T) (h : op.persist T s = none)
    (hsaved : op.saved T s.world = .ok ()) : ∃ r w, s = .returned r w := by
  cases s with
  | returned r w => exact ⟨r, w, rfl⟩
  | waiting w =>
    have hpath : w.configPath.isSome := hs.path
    obtain ⟨reply, t, hrun, -⟩ := ConfigOp.exists_ran T hpath (hs.idle w rfl) op
    simp [ConfigOp.persist, hsaved, ConfigOp.step, hrun] at h

/-- Where a restart keeps the configuration, an operation leaves it so exactly if it
respects what start-up imposes. -/
theorem survives_step_iff (hT : T.Faithful) (hagree : Assign.Agree assigned a.overrides)
    (hs : s.Ready T) (hkept : s.world.Survives a T) (h : op.persist T s = some t) :
    t.world.Survives a T ↔ op.Respects a s := by
  cases s with
  | returned r w =>
    cases (ConfigOp.persist_some h).2
  | waiting w =>
    obtain ⟨held, hheld⟩ := hs.held
    have heffective := (survives_iff hagree hheld).mp hkept
    have hsettles : a.Settles w.config := by
      change a.Settles (Status.waiting w).world.config
      rw [← heffective]
      exact Launch.settles_effective
    cases (ConfigOp.persisted hT hs h).1 with
    | put body o _ hconfig hfile =>
      rw [survives_iff hagree hfile, hconfig]
      exact Launch.effective_eq_self_iff
    | hubMode mode m o _ hm hconfig hfile =>
      rw [survives_iff hagree hfile, hconfig, Launch.effective_eq_self_iff]
      refine (Launch.settles_put hsettles .hubUrl (w.hubVars.switch m).hubUrl).trans ?_
      simp only [ConfigOp.Respects, hm, Option.mem_def, Option.some.injEq, forall_eq']
      exact Iff.rfl
    | transport mode o _ hm hconfig hfile =>
      rw [survives_iff hagree hfile, hconfig, Launch.effective_eq_self_iff]
      refine (Launch.settles_put hsettles .transport mode).trans ?_
      simp only [ConfigOp.Respects, hm, Option.mem_def, forall_const]
      exact Iff.rfl
    | kept _ _ hconfig hfile hrespects =>
      have hheld' : t.world.file.config T = some held := hfile ▸ hheld
      refine iff_of_true ?_ (hrespects a)
      rw [survives_iff hagree hheld', hconfig]
      exact heffective

/-- A start on a file finds in memory what a restart on it would. -/
theorem Launch.begin_ready (hT : T.Faithful) (h : a.begin T = some (.waiting w)) :
    (Status.waiting w).Ready T ∧ ∃ held, w.file.config T = some held ∧
      a.effective held = w.config ∧
      (w.hubVars.switch .cloud).hubUrl =
        (applyOverrides held a.overrides).router.sc.hubUrl := by
  obtain ⟨config, file, localAddr, hload, -, hw⟩ := a.begin_waiting h
  obtain ⟨held, hheld, rfl⟩ := BridgeConfig.load_ok hT hload
  obtain ⟨hconfig, hfile⟩ := a.entered_config held file localAddr
  have hheld' : w.file.config T = some held := by
    rw [hw, hfile]
    exact hheld
  refine ⟨⟨⟨held, hheld'⟩, ?_, ?_⟩, held, hheld', hw ▸ hconfig.symm, ?_⟩
  · rw [Status.world, a.waiting_configPath h]
    rfl
  · intro w' hw'
    obtain rfl := Status.waiting.inj hw'
    exact a.idle h
  · obtain ⟨config, file', hload', hvars⟩ := a.hubVars h
    cases hload.symm.trans hload'
    rw [hvars]
    split <;> rfl

end

/-- In a run whose saves all succeed, under an environment that does not set one field to
two values: after every operation a restart with the same options and environment has the
configuration that is in memory, exactly if every `PUT` and every change leaves what the
environment, `--transport` and `--with-hub` dictate at what they dictate. Any other change
is undone. A failed save ends the run. -/
theorem restart_keeps_config_iff {a : Launch} {T : Toml} (hT : T.Faithful) {w : World}
    (h : a.begin T = some (.waiting w)) (hagree : Assign.Agree assigned a.overrides)
    (ops : List ConfigOp) :
    Runs.Always (ConfigOp.persist T) (.waiting w) ops (fun s => s.world.Survives a T) ↔
      Runs.Each (ConfigOp.persist T) (.waiting w) ops fun s op =>
        op.saved T s.world = .ok () → op.Respects a s := by
  obtain ⟨hready, held, hheld, heffective, -⟩ := Launch.begin_ready hT h
  have hready' : Runs.Always (ConfigOp.persist T) (.waiting w) ops fun s => s.Ready T :=
    Runs.always_of_step (fun s op t hs hstep => ready_step hT hs hstep) hready ops
  refine Runs.always_iff_each ?_ ?_ hready' ((survives_iff hagree hheld).mpr heffective)
  · intro s op t hs hkept hstep
    rw [survives_step_iff hT hagree hs hkept hstep]
    simp [(ConfigOp.persist_some hstep).1]
  · intro s op hs _ hstep hsaved
    obtain ⟨r, w', rfl⟩ := returned_of_persist hs hstep hsaved
    trivial

/-- A bridge with its own hub is given the cloud hub's URL. -/
theorem put_is_undone_by_a_restart :
    ∃ w, (hubLaunch true).begin hubToml = some (.waiting w) ∧
      ¬ Runs.Always (ConfigOp.persist hubToml) (.waiting w) [.update (hubConfig cloudUrl) .written]
        fun s => s.world.Survives (hubLaunch true) hubToml := by
  refine ⟨_, begin_hubLaunch true, ?_⟩
  have hagree : Assign.Agree assigned (hubLaunch true).overrides := by
    intro o ho
    cases ho
  rw [restart_keeps_config_iff faithful_hubToml (begin_hubLaunch true) hagree]
  intro heach
  have hsettles : (hubLaunch true).Settles (hubConfig cloudUrl) := (Runs.each_cons.mp heach).1 rfl
  have hsame : cloudUrl = embeddedHubUrl :=
    hsettles .hubUrl embeddedHubUrl (Launch.dictates_hubUrl rfl)
  exact absurd hsame (by decide)

/-! ## The cloud hub -/

section

variable {a : Launch} {T : Toml} {op : ConfigOp} {s t : Status} {w : World} {held : BridgeConfig}
  {url : String}

end

end BacnetBridge
