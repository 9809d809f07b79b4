import BacnetBridge.HubMode

/-! Whether a change of the configuration is made in memory and in the file, or in
neither: `PUT /api/config`, a change of hub mode and a switch of the transport. -/
namespace BacnetBridge

/-- `update_config`: the memory is replaced before the save is tried. -/
def World.updateConfig (w : World) (T : Toml) (body : BridgeConfig) (o : SaveOutcome) :
    Except HttpError (List (String × String)) × World :=
  let w := { w with config := body }
  match w.configPath with
  | none => (.ok [("status", "ok")], w)
  | some _ =>
    match body.save T o w.file with
    | (.error e, file) => (.error ⟨500, "Failed to save config: " ++ e.display⟩, { w with file })
    | (.ok (), file) => (.ok [("status", "ok")], { w with file })

/-- An operation, and how its save turns out. A turn of the loop is one: it carries
out the switches of the transport, and what comes between them. -/
inductive ConfigOp
  | update (body : BridgeConfig) (save : SaveOutcome)
  | hubMode (mode : String) (save : SaveOutcome)
  | turn (i : Input) (o : Outcomes)
  deriving DecidableEq, Repr

namespace ConfigOp

/-- What is reported, and what comes of it. A command was reported as accepted
before its turn, which reports nothing more. -/
def run (T : Toml) : Status → ConfigOp → Option (Except HttpError (List (String × String)) × Status)
  | .returned _ _, _ => none
  | .waiting w, .update body o =>
    some ((w.updateConfig T body o).1, .waiting (w.updateConfig T body o).2)
  | .waiting w, .hubMode mode o =>
    match hubModeSwitch mode w.state with
    | .error e => some (.error e, .waiting w)
    | .ok (m, reply) => some (.ok reply, .waiting (w.hubSwitched T m o))
  | .waiting w, .turn i o => (Status.step T (.waiting w) (i, o)).map fun s => (.ok [], s)

def step (T : Toml) (s : Status) (op : ConfigOp) : Option Status := (op.run T s).map (·.2)

/-- How the save that the operation makes ends; one that makes none fails in none. -/
def saved (T : Toml) (w : World) : ConfigOp → Except BridgeError Unit
  | .update body o => (body.save T o w.file).1
  | .hubMode mode o =>
    match hubModeSwitch mode w.state with
    | .error _ => .ok ()
    | .ok (m, _) => ((w.hubSwitched T m o).config.save T o w.file).1
  | .turn (.command (.switchTransport mode)) o =>
    if Task.validMode mode then ((w.config.withTransport mode).save T o.save w.file).1 else .ok ()
  | .turn _ _ => .ok ()

/-- Success leaves memory and file equal; a save that fails is reported as an error
and leaves both as they were. -/
def Atomic (T : Toml) (s : Status) (op : ConfigOp) : Prop :=
  ∀ reply s', op.run T s = some (reply, s') →
    (∀ body, reply = .ok body → s'.world.file.config T = some s'.world.config) ∧
    ∀ e, op.saved T s.world = .error e → (∃ refusal, reply = .error refusal) ∧
      s'.world.config = s.world.config ∧ s'.world.file = s.world.file

/-- The save succeeds, or it is that of a `PUT` of what is in memory already and its
failure leaves the file alone. -/
def Saves (T : Toml) (s : Status) (op : ConfigOp) : Prop :=
  ∀ w, s = .waiting w → op.saved T w = .ok () ∨
    ∃ o, op = .update w.config o ∧ (w.config.save T o w.file).2 = w.file

end ConfigOp

/-- Memory and file agree whenever there is something to do. -/
structure Status.Synchronised (T : Toml) (s : Status) : Prop where
  equal : s.world.file.config T = some s.world.config
  path : s.world.configPath.isSome
  idle : ∀ w, s = .waiting w → Idle w

theorem readied_configPath (w : World) (T : Toml) (mode : String) (o : SaveOutcome) :
    (w.readied T mode o).configPath = w.configPath := by
  unfold World.readied
  split <;> rfl

theorem launched_configPath (w : World) (o : StartOutcome) :
    (w.launched o).configPath = w.configPath := by
  cases o <;> rfl

theorem leave_configPath (w : World) : w.leave.configPath = w.configPath := by
  unfold World.leave
  split <;> rfl

theorem Turn.configPath {T : Toml} {w : World} {o : Outcomes} {i : Input} {s : Status}
    (ht : Turn T w o i s) : s.world.configPath = w.configPath := by
  cases ht with
  | ignored | stopped => rfl
  | started => exact launched_configPath w.announced o.start
  | switched mode =>
    exact (launched_configPath (w.readied T mode o.save) o.start).trans (readied_configPath ..)
  | shutDown i r => exact leave_configPath (w.halted r)
  | refused => exact leave_configPath w

theorem hubSwitched_file {w : World} (h : w.configPath.isSome) (T : Toml) (mode : HubMode)
    (o : SaveOutcome) : (w.hubSwitched T mode o).file =
      ((w.hubSwitched T mode o).config.save T o w.file).2 := by
  obtain ⟨path, hpath⟩ := Option.isSome_iff_exists.mp h
  cases mode <;> simp [World.hubSwitched, World.saveTo, hpath]

/-- Everything an operation can come to while the loop waits. -/
inductive Ran (T : Toml) (w : World) :
    ConfigOp → Except HttpError (List (String × String)) → Status → Prop
  | updated (body : BridgeConfig) (o : SaveOutcome) : (body.save T o w.file).1 = .ok () →
      Ran T w (.update body o) (.ok [("status", "ok")])
        (.waiting { w with config := body, file := (body.save T o w.file).2 })
  | notSaved (body : BridgeConfig) (o : SaveOutcome) (e : BridgeError) :
      (body.save T o w.file).1 = .error e →
      Ran T w (.update body o) (.error ⟨500, "Failed to save config: " ++ e.display⟩)
        (.waiting { w with config := body, file := (body.save T o w.file).2 })
  | refused (mode : String) (o : SaveOutcome) (refusal : HttpError) :
      hubModeSwitch mode w.state = .error refusal →
      Ran T w (.hubMode mode o) (.error refusal) (.waiting w)
  | switched (mode : String) (o : SaveOutcome) (m : HubMode) (reply : List (String × String)) :
      hubModeSwitch mode w.state = .ok (m, reply) →
      Ran T w (.hubMode mode o) (.ok reply) (.waiting (w.hubSwitched T m o))
  | turn (i : Input) (o : Outcomes) (s : Status) : Turn T w o i s → Ran T w (.turn i o) (.ok []) s

namespace ConfigOp

variable {T : Toml} {w : World} {op : ConfigOp} {s : Status}
  {reply : Except HttpError (List (String × String))}

theorem exists_ran (T : Toml) (hpath : w.configPath.isSome) (hidle : Idle w) (op : ConfigOp) :
    ∃ reply s, op.run T (.waiting w) = some (reply, s) ∧ Ran T w op reply s := by
  cases op with
  | update body o =>
    obtain ⟨path, hpath⟩ := Option.isSome_iff_exists.mp hpath
    cases hsave : body.save T o w.file with
    | mk result file =>
      have hfile : (body.save T o w.file).2 = file := by rw [hsave]
      cases result with
      | ok u =>
        have hran := Ran.updated body o (by rw [hsave])
        rw [hfile] at hran
        exact ⟨_, _, by simp [run, World.updateConfig, hpath, hsave], hran⟩
      | error e =>
        have hran := Ran.notSaved body o e (by rw [hsave])
        rw [hfile] at hran
        exact ⟨_, _, by simp [run, World.updateConfig, hpath, hsave], hran⟩
  | hubMode mode o =>
    cases hcheck : hubModeSwitch mode w.state with
    | error refusal => exact ⟨_, _, by simp [run, hcheck], .refused mode o refusal hcheck⟩
    | ok passed => exact ⟨_, _, by simp [run, hcheck], .switched mode o passed.1 passed.2 hcheck⟩
  | turn i o =>
    obtain ⟨s, hstep, hturn⟩ := turn_of_idle (T := T) hidle i o
    exact ⟨_, s, by simp [run, hstep], .turn i o s hturn⟩

/-- A turn saves only when it switches the transport. -/
theorem saved_turn (T : Toml) (w : World) (i : Input) (o : Outcomes) :
    (∃ mode, i = .command (.switchTransport mode) ∧ Task.validMode mode = true ∧
      (turn i o).saved T w = ((w.config.withTransport mode).save T o.save w.file).1) ∨
    (¬ i.Switches ∧ (turn i o).saved T w = .ok ()) := by
  by_cases hi : i.Switches
  · obtain ⟨mode, rfl, hm⟩ := Input.switches_iff.mp hi
    exact .inl ⟨mode, rfl, hm, by simp [saved, hm]⟩
  · refine .inr ⟨hi, ?_⟩
    unfold saved
    split
    · rename_i heq
      cases heq
    · rename_i heq
      cases heq
    · rename_i mode o' heq
      cases heq
      exact if_neg hi
    · rfl

end ConfigOp

section

variable {T : Toml} {w : World} {op : ConfigOp} {s : Status}
  {reply : Except HttpError (List (String × String))}

theorem idle_hubSwitched (h : Idle w) (T : Toml) (mode : HubMode) (o : SaveOutcome) :
    Idle (w.hubSwitched T mode o) := by
  cases mode <;> exact ⟨h.lock, h.held, h.bare⟩

theorem Ran.kept (hpath : w.configPath.isSome) (hidle : Idle w) (h : Ran T w op reply s) :
    s.world.configPath.isSome ∧ ∀ w', s = .waiting w' → Idle w' := by
  have hwaiting : ∀ w' : World, w'.configPath.isSome → Idle w' →
      w'.configPath.isSome ∧ ∀ w'', Status.waiting w' = .waiting w'' → Idle w'' :=
    fun w' hp hi => ⟨hp, fun w'' heq => Status.waiting.inj heq ▸ hi⟩
  cases h with
  | updated body | notSaved body =>
    exact hwaiting _ hpath ⟨hidle.lock, hidle.held, hidle.bare⟩
  | refused => exact hwaiting _ hpath hidle
  | switched mode o m =>
    refine hwaiting _ ?_ (idle_hubSwitched hidle T m o)
    cases m <;> exact hpath
  | turn i o s hturn =>
    constructor
    · exact hturn.configPath ▸ hpath
    · rintro w' rfl
      exact hturn.idle hidle

/-- An operation that reports success is atomic exactly if its save succeeds. -/
theorem atomic_of_reported (hT : T.Faithful) {config : BridgeConfig} {o : SaveOutcome}
    (hconfig : s.world.config = config) (hfile : s.world.file = (config.save T o w.file).2)
    (hsaved : op.saved T w = (config.save T o w.file).1) (hop : ∀ body o, op ≠ .update body o)
    {body : List (String × String)} (hreply : reply = .ok body) :
    ((∀ body, reply = .ok body → s.world.file.config T = some s.world.config) ∧
      ∀ e, op.saved T w = .error e → (∃ refusal, reply = .error refusal) ∧
        s.world.config = w.config ∧ s.world.file = w.file) ↔
      op.saved T w = .ok () ∨ ∃ o, op = .update w.config o ∧
        (w.config.save T o w.file).2 = w.file := by
  subst hreply
  constructor
  · rintro ⟨-, hfail⟩
    cases hresult : op.saved T w with
    | ok u => exact .inl rfl
    | error e =>
      obtain ⟨⟨refusal, hrefusal⟩, -⟩ := hfail e hresult
      cases hrefusal
  · rintro (hok | ⟨o', hop', -⟩)
    · constructor
      · intro _ _
        rw [hconfig, hfile]
        exact BridgeConfig.save_ok hT (Prod.ext (hsaved.symm.trans hok) rfl)
      · intro e he
        cases hok.symm.trans he
    · exact absurd hop' (hop _ _)

/-- What an operation comes to is atomic exactly if its save succeeds or changes
nothing. -/
theorem Ran.atomic_iff (hT : T.Faithful) (h : (Status.waiting w).Synchronised T)
    (hran : Ran T w op reply s) :
    ((∀ body, reply = .ok body → s.world.file.config T = some s.world.config) ∧
      ∀ e, op.saved T w = .error e → (∃ refusal, reply = .error refusal) ∧
        s.world.config = w.config ∧ s.world.file = w.file) ↔
      op.saved T w = .ok () ∨ ∃ o, op = .update w.config o ∧
        (w.config.save T o w.file).2 = w.file := by
  cases hran with
  | updated body o hsave =>
    refine iff_of_true ⟨?_, ?_⟩ (.inl hsave)
    · intro _ _
      exact BridgeConfig.save_ok hT (Prod.ext hsave rfl)
    · intro e he
      cases hsave.symm.trans he
  | notSaved body o e hsave =>
    constructor
    · rintro ⟨-, hfail⟩
      obtain ⟨-, hconfig, hfile⟩ := hfail e hsave
      obtain rfl : body = w.config := hconfig
      exact .inr ⟨o, rfl, hfile⟩
    · rintro (hok | ⟨o', hop, hfile⟩)
      · cases hsave.symm.trans hok
      · cases hop
        exact ⟨fun _ hreply => (by cases hreply), fun _ _ => ⟨⟨_, rfl⟩, rfl, hfile⟩⟩
  | refused mode o refusal hcheck =>
    have hsaved : (ConfigOp.hubMode mode o).saved T w = .ok () := by
      simp [ConfigOp.saved, hcheck]
    refine iff_of_true ⟨?_, ?_⟩ (.inl hsaved)
    · intro _ hreply
      cases hreply
    · intro e he
      cases hsaved.symm.trans he
  | switched mode o m reply hcheck =>
    refine atomic_of_reported hT rfl (hubSwitched_file h.path T m o) ?_ (by simp) rfl
    simp only [ConfigOp.saved, hcheck]
    rfl
  | turn i o s hturn =>
    rcases ConfigOp.saved_turn T w i o with ⟨mode, rfl, hm, hsaved⟩ | ⟨hi, hsaved⟩
    · obtain ⟨hconfig, hfile⟩ := hturn.config_switched hm
      exact atomic_of_reported hT hconfig hfile hsaved (by simp) rfl
    · obtain ⟨hconfig, hfile⟩ := hturn.config_same hi
      refine iff_of_true ⟨?_, ?_⟩ (.inl hsaved)
      · intro _ _
        rw [hconfig, hfile]
        exact h.equal
      · intro e he
        cases hsaved.symm.trans he

end

namespace ConfigOp

variable {T : Toml} {op : ConfigOp} {s : Status}

theorem atomic_iff (hT : T.Faithful) (h : s.Synchronised T) : op.Atomic T s ↔ op.Saves T s := by
  cases s with
  | returned r w =>
    apply iff_of_true
    · intro reply s' hrun
      cases hrun
    · intro w' hw'
      cases hw'
  | waiting w =>
    obtain ⟨reply, s', hrun, hran⟩ := exists_ran T h.path (h.idle w rfl) op
    constructor
    · intro ha w' hw'
      cases hw'
      exact (hran.atomic_iff hT h).mp (ha reply s' hrun)
    · intro hsaves reply' s'' hrun'
      cases hrun.symm.trans hrun'
      exact (hran.atomic_iff hT h).mpr (hsaves w rfl)

theorem Atomic.synchronised {s' : Status} (h : s.Synchronised T) (ha : op.Atomic T s)
    (hs : op.step T s = some s') : s'.Synchronised T := by
  obtain ⟨⟨reply, s'⟩, hrun, rfl⟩ := Option.map_eq_some_iff.mp hs
  cases s with
  | returned r w => cases hrun
  | waiting w =>
    obtain ⟨reply', s'', hrun', hran⟩ := exists_ran T h.path (h.idle w rfl) op
    cases hrun.symm.trans hrun'
    obtain ⟨hsuccess, hfailure⟩ := ha _ _ hrun
    obtain ⟨hpath, hidle⟩ := hran.kept h.path (h.idle w rfl)
    refine ⟨?_, hpath, hidle⟩
    cases hran with
    | updated | switched | turn => exact hsuccess _ rfl
    | refused => exact h.equal
    | notSaved body o e hsave =>
      obtain ⟨-, hconfig, hfile⟩ := hfailure e hsave
      rw [hconfig, hfile]
      exact h.equal

end ConfigOp

theorem Launch.waiting_configPath {a : Launch} {T : Toml} {w : World}
    (h : a.begin T = some (.waiting w)) : w.configPath = some a.configPath := by
  obtain ⟨config, file, localAddr, -, -, rfl⟩ := a.begin_waiting h
  rw [launched_configPath]
  unfold entered
  split <;> rfl

/-- From memory and file that are equal, every operation of a sequence is atomic
exactly if every save succeeds, but for those of a `PUT` that has nothing to
change and whose failure leaves the file alone. -/
theorem config_changes_atomic_iff {a : Launch} {T : Toml} (hT : T.Faithful) {w : World}
    (h : a.begin T = some (.waiting w)) (hequal : w.file.config T = some w.config)
    (ops : List ConfigOp) :
    Runs.Each (ConfigOp.step T) (.waiting w) ops (fun s op => op.Atomic T s) ↔
      Runs.Each (ConfigOp.step T) (.waiting w) ops fun s op => op.Saves T s := by
  have hstart : (Status.waiting w).Synchronised T := by
    refine ⟨hequal, ?_, ?_⟩
    · rw [Status.world, a.waiting_configPath h]
      rfl
    · intro w' hw'
      obtain rfl := Status.waiting.inj hw'
      exact a.idle h
  refine Runs.each_iff_each ?_ ?_ hstart
  · exact fun s op hs => ConfigOp.atomic_iff hT hs
  · exact fun s op s' hs ha hstep => ha.synchronised hs hstep

/-- The hub's URL is replaced by a `PUT` whose save succeeds. -/
theorem saved_put_is_atomic :
    ∃ w, (hubLaunch false).begin hubToml = some (.waiting w) ∧
      Runs.Each (ConfigOp.step hubToml) (.waiting w)
        [.update (hubConfig embeddedHubUrl) .written] fun s op => op.Atomic hubToml s := by
  refine ⟨_, begin_hubLaunch false, (config_changes_atomic_iff faithful_hubToml
    (begin_hubLaunch false) (config_hubText (.inl rfl)) _).mpr ?_⟩
  refine Runs.each_cons.mpr ⟨fun w hw => .inl ?_, fun _ _ => Runs.each_nil⟩
  rfl

/-- The directory of the file cannot be created: the `PUT` is refused, and has
replaced the configuration in memory all the same. -/
theorem unsaved_put_changes_memory :
    ∃ w s, (hubLaunch false).begin hubToml = some (.waiting w) ∧
      w.file.config hubToml = some w.config ∧
      ConfigOp.run hubToml (.waiting w) (.update (hubConfig embeddedHubUrl)
          (.createDirFailed "Permission denied (os error 13)")) =
        some (.error ⟨500,
          "Failed to save config: IO error: Permission denied (os error 13)"⟩, s) ∧
      s.world.config = hubConfig embeddedHubUrl ∧ s.world.file = w.file ∧
      ¬ Runs.Each (ConfigOp.step hubToml) (.waiting w) [.update (hubConfig embeddedHubUrl)
          (.createDirFailed "Permission denied (os error 13)")]
        fun s op => op.Atomic hubToml s := by
  refine ⟨_, _, begin_hubLaunch false, config_hubText (.inl rfl), rfl, rfl, rfl, ?_⟩
  intro h
  obtain ⟨hatomic, -⟩ := Runs.each_cons.mp h
  obtain ⟨-, hfail⟩ := hatomic _ _ rfl
  obtain ⟨-, hconfig, -⟩ := hfail _ rfl
  exact absurd (congrArg (·.router.sc.hubUrl) hconfig) (by decide)

end BacnetBridge
