import BacnetBridge.Handlers

/-! Request handlers and turns of the loop in any interleaving, lock by lock: there is one
order of what they do under the configuration's lock that explains what the lock guards,
and every reply. -/
namespace BacnetBridge

open Prog Monitor

/-- What the configuration's lock guards. -/
structure Store where
  config : BridgeConfig
  file : File
  configPath : Option String
  cloudHubUrl : Option String
  isEmbeddedHub : Bool
  deriving DecidableEq, Repr

def World.store (w : World) : Store :=
  ⟨w.config, w.file, w.configPath, w.cloudHubUrl, w.isEmbeddedHub⟩

/-- A memory with this store. Nothing that is done under the lock reads the rest. -/
def Store.world (s : Store) : World where
  state := .stopped
  running := none
  bbmdHandle := none
  config := s.config
  configLock := .free
  configPath := s.configPath
  file := s.file
  isEmbeddedHub := s.isEmbeddedHub
  cloudHubUrl := s.cloudHubUrl
  hubListenAddr := none
  routers := 0
  log := []

/-- What is done in one go under the configuration's lock. -/
inductive Change
  | look
  | put (body : BridgeConfig) (o : SaveOutcome)
  | mode (m : HubMode) (o : SaveOutcome)
  | transport (mode : String) (o : SaveOutcome)
  deriving DecidableEq, Repr

namespace Change

variable (T : Toml)

def perform (w : World) : Change → World
  | .look => w
  | .put body o => (w.updateConfig T body o).2
  | .mode m o => w.hubSwitched T m o
  | .transport name o => w.saved T name o

def apply (c : Change) (s : Store) : Store := (c.perform T s.world).store

theorem store_perform (c : Change) (w : World) : (c.perform T w).store = c.apply T w.store := by
  cases c with
  | look => rfl
  | put body o =>
    unfold apply perform World.updateConfig
    dsimp only [Store.world, World.store]
    cases w.configPath with
    | none => rfl
    | some path => cases body.save T o w.file with | mk r file => cases r <;> rfl
  | mode m o => cases m <;> rfl
  | transport name o => rfl

end Change

/-- The configuration's lock and what it guards. -/
def configGuard : Guard World Store where
  readers w := w.configLock.readers
  writing w := w.configLock.writing
  view := World.store

/-! ## Rules for the steps of the bridge -/

theorem free_iff {w : World} : configGuard.Free w ↔ w.configLock = .free := by
  obtain ⟨_, _, _, _, ⟨readers, writing⟩, _, _, _, _, _, _, _⟩ := w
  constructor
  · rintro ⟨hw, hr⟩
    simp only [configGuard] at hw hr
    simp [RwLock.free, hw, hr]
  · intro hfree
    simp only [RwLock.free, RwLock.mk.injEq] at hfree
    exact ⟨hfree.2, hfree.1⟩

section Rules

variable {α : Type} {T : Toml} {does : Change → Prop} {stage : Stage Store} {found now : Store}
  {record : List (Change × Store)}

/-- The program is safe under the configuration's lock. -/
abbrev Task.Safe (T : Toml) (does : Change → Prop)
    (post : Stage Store → List (Change × Store) → Except RunError α → Prop)
    (stage : Stage Store) (record : List (Change × Store)) (p : Task α) : Prop :=
  configGuard.Safe (Change.apply T) does post stage record p

theorem safe_lockRead {post : Stage Store → List (Change × Store) → Except RunError Unit → Prop}
    (hpost : ∀ found, post (.reading found) record (.ok ())) :
    Task.Safe T does post .outside record Task.lockRead := by
  apply safe_await
  intro w _
  constructor
  · intro hfree
    simp [(free_iff.mp (hfree rfl)), RwLock.free]
  · intro hready
    have hfree : w.configLock.writing = false := by simpa using hready
    refine ⟨_, [], .lockRead hfree rfl hfree rfl, ?_⟩
    rw [List.append_nil]
    exact hpost _

theorem safe_dropRead {post : Stage Store → List (Change × Store) → Except RunError Unit → Prop}
    (hlook : does .look) (hpost : post .outside (record ++ [(Change.look, found)]) (.ok ())) :
    Task.Safe T does post (.reading found) record Task.dropRead := by
  apply safe_await
  intro w _
  refine ⟨fun _ => rfl, fun _ => ⟨.outside, [(Change.look, found)], ?_, hpost⟩⟩
  apply Guard.Moves.dropRead
  · rfl
  · rfl
  · rfl
  · exact hlook
  · rfl

theorem safe_lockWrite {post : Stage Store → List (Change × Store) → Except RunError Unit → Prop}
    (hpost : ∀ found, post (.writing found found) record (.ok ())) :
    Task.Safe T does post .outside record Task.lockWrite := by
  apply safe_await
  intro w _
  constructor
  · intro hfree
    simp [(free_iff.mp (hfree rfl)), RwLock.free]
  · intro hready
    obtain ⟨hfree, hnone⟩ : w.configLock.writing = false ∧ w.configLock.readers = 0 := by
      simpa using hready
    refine ⟨_, [], .lockWrite ⟨hfree, hnone⟩ hnone rfl rfl, ?_⟩
    rw [List.append_nil]
    exact hpost _

theorem safe_dropWrite {post : Stage Store → List (Change × Store) → Except RunError Unit → Prop}
    {c : Change} (hc : does c) (hnow : c.apply T found = now)
    (hpost : post .outside (record ++ [(c, found)]) (.ok ())) :
    Task.Safe T does post (.writing found now) record Task.dropWrite := by
  apply safe_await
  intro w _
  refine ⟨fun _ => rfl, fun _ => ⟨.outside, [(c, found)], ?_, hpost⟩⟩
  apply Guard.Moves.dropWrite
  · rfl
  · rfl
  · rfl
  · exact hc
  · exact hnow

/-- What a writer does to the store it knows. -/
theorem safe_write {act : World → Except RunError α × World} (update : Store → Store)
    {post : Stage Store → List (Change × Store) → Except RunError α → Prop}
    (hlock : ∀ w, (act w).2.configLock = w.configLock)
    (hupdate : ∀ w, (act w).2.store = update w.store)
    (hpost : ∀ w, w.store = now → post (.writing found (update now)) record (act w).1) :
    Task.Safe T does post (.writing found now) record (.atomic act) := by
  apply safe_await
  intro w hw
  have hstore : w.store = now := hw.2.2
  refine ⟨fun _ => rfl, fun _ => ⟨_, [], .write (congrArg (·.readers) (hlock w))
    (congrArg (·.writing) (hlock w)), ?_⟩⟩
  have hview : (act w).2.store = update now := (hupdate w).trans (congrArg update hstore)
  rw [List.append_nil]
  change post (.writing found (act w).2.store) record (act w).1
  rw [hview]
  exact hpost w hstore

/-- The lock and what it guards are the same. -/
def World.SameStore (w w' : World) : Prop :=
  w'.configLock = w.configLock ∧ w'.store = w.store

theorem World.SameStore.same {w w' : World} (h : w.SameStore w') : configGuard.Same w w' :=
  ⟨congrArg (·.readers) h.1, congrArg (·.writing) h.1, h.2⟩

/-- A program that has to do neither with the lock nor with what it guards. -/
abbrev Steady (p : Task α) : Prop := Quiet World.SameStore p

theorem Steady.safe {p : Task α}
    {post : Stage Store → List (Change × Store) → Except RunError α → Prop} (hp : Steady p)
    (hpost : ∀ r, post stage record r) : Task.Safe T does post stage record p :=
  Quiet.safe hp (fun _ _ => World.SameStore.same) hpost

end Rules

/-! ## The turns of the loop -/

/-- The save that the turn makes. -/
def savedBy : Input → Outcomes → Option Change
  | .command (.switchTransport mode), o =>
    if Task.validMode mode then some (.transport mode o.save) else none
  | _, _ => none

/-- What a turn does under the lock: a switch saves, and then `start_router` reads; a start
only reads, if it gets that far. -/
inductive Turned : Input → Outcomes → List (Change × Store) → Prop
  | nothing (i : Input) (o : Outcomes) : savedBy i o = none → Turned i o []
  | started (o : Outcomes) (s : Store) : Turned (.command .start) o [(.look, s)]
  | switched (mode : String) (o : Outcomes) (s s' : Store) : Task.validMode mode = true →
      Turned (.command (.switchTransport mode)) o [(.transport mode o.save, s), (.look, s')]

/-- What the loop does under the lock on these inputs. It may end before the last. -/
inductive Looped : List (Input × Outcomes) → List (Change × Store) → Flow → Prop
  | waits : Looped [] [] .continue
  | turn {i : Input} {o : Outcomes} {inputs : List (Input × Outcomes)}
      {record more : List (Change × Store)} {flow : Flow} :
      Turned i o record → Looped inputs more flow → Looped ((i, o) :: inputs) (record ++ more) flow
  | ends {i : Input} {o : Outcomes} {inputs : List (Input × Outcomes)}
      {record : List (Change × Store)} : Turned i o record → Looped ((i, o) :: inputs) record .break

namespace Task

theorem steady_note (e : Event) : Steady (note e) := quiet_atomic fun _ => ⟨rfl, rfl⟩

theorem steady_transition (next : AppState) : Steady (transition next) := by
  apply quiet_atomic
  intro w
  cases w.state.tryTransition next <;> exact ⟨rfl, rfl⟩

theorem steady_transitionOk (next : AppState) : Steady (transitionOk next) :=
  (steady_transition next).attempt.bind fun _ => trivial

theorem steady_takeRunning : Steady takeRunning := quiet_atomic fun _ => ⟨rfl, rfl⟩

theorem steady_stopHeld : Steady stopHeld := by
  apply steady_takeRunning.bind
  intro held
  cases held with
  | none => trivial
  | some r => exact steady_note _

theorem steady_setRunning (r : RunningRouter) : Steady (setRunning r) := by
  apply quiet_atomic
  intro w
  dsimp only
  split <;> exact ⟨rfl, rfl⟩

theorem steady_shutDown : Steady shutDown :=
  (steady_transition .stopping).bind fun _ => steady_stopHeld.bind fun _ =>
    (steady_transition .stopped).bind fun _ => trivial

theorem steady_readState : Steady (read (·.state)) := quiet_atomic fun _ => ⟨rfl, rfl⟩

theorem steady_onStop : Steady onStop := by
  apply steady_readState.bind
  intro s
  split
  · exact (steady_transition .stopping).bind fun _ => steady_stopHeld.bind fun _ =>
      (steady_transition .stopped).bind fun _ => (steady_note _).bind fun _ => trivial
  · trivial

section

variable {T : Toml} {does : Change → Prop} {record : List (Change × Store)}

/-- `start_router` ends with a result either way. -/
theorem safe_startRouter {stage : Stage Store} {o : StartOutcome}
    {post : Stage Store → List (Change × Store) →
      Except RunError (Except BridgeError RunningRouter) → Prop}
    (hpost : ∀ started, post stage record (.ok started)) :
    Task.Safe T does post stage record (startRouter o) := by
  apply Guard.Safe.bind
  refine safe_quiet fun w _ => ⟨⟨rfl, rfl, rfl⟩, ?_⟩
  apply safe_quiet
  intro w _
  cases o with
  | ok b => exact ⟨⟨rfl, rfl, rfl⟩, hpost _⟩
  | err e => exact ⟨⟨rfl, rfl, rfl⟩, hpost _⟩

theorem safe_transitionOk {stage : Stage Store} {next : AppState}
    {post : Stage Store → List (Change × Store) → Except RunError Unit → Prop}
    (hpost : post stage record (.ok ())) :
    Task.Safe T does post stage record (transitionOk next) := by
  apply Guard.Safe.bind
  exact (steady_transition next).safe_attempt (fun _ _ => World.SameStore.same) fun _ => hpost

theorem safe_note {stage : Stage Store} {e : Event}
    {post : Stage Store → List (Change × Store) → Except RunError Unit → Prop}
    (hpost : post stage record (.ok ())) : Task.Safe T does post stage record (note e) :=
  safe_quiet fun _ _ => ⟨⟨rfl, rfl, rfl⟩, hpost⟩

theorem safe_stopForSwitch {stage : Stage Store}
    {post : Stage Store → List (Change × Store) → Except RunError Unit → Prop}
    (hpost : post stage record (.ok ())) :
    Task.Safe T does post stage record stopForSwitch := by
  apply Guard.Safe.bind
  refine safe_quiet fun w _ => ⟨⟨rfl, rfl, rfl⟩, ?_⟩
  dsimp only
  cases w.running with
  | none => exact hpost
  | some r =>
    apply Guard.Safe.bind
    apply safe_transitionOk
    apply Guard.Safe.bind
    apply safe_note
    exact safe_transitionOk hpost

theorem safe_launch {post : Stage Store → List (Change × Store) → Except RunError Unit → Prop}
    (o : StartOutcome) (hlook : does .look)
    (hpost : ∀ s r, post .outside (record ++ [(.look, s)]) r) :
    Task.Safe T does post .outside record (launch o) := by
  apply Guard.Safe.bind
  apply safe_lockRead
  intro s
  apply Guard.Safe.bind
  apply safe_startRouter
  intro started
  cases started with
  | ok r =>
    apply Guard.Safe.bind
    apply safe_dropRead hlook
    have hrest : Steady (do
        .modify fun w : World => { w with bbmdHandle := r.bbmdState }
        setRunning r
        transitionOk .running) :=
      (quiet_atomic fun _ => ⟨rfl, rfl⟩ : Steady (.modify _)).bind fun _ =>
        (steady_setRunning r).bind fun _ => steady_transitionOk .running
    exact hrest.safe (hpost s)
  | error e =>
    apply Guard.Safe.bind
    apply safe_dropRead hlook
    exact (steady_transitionOk .stopped).safe (hpost s)

theorem safe_relaunch {post : Stage Store → List (Change × Store) → Except RunError Unit → Prop}
    (mode : String) (o : Outcomes) (hlook : does .look) (hsave : does (.transport mode o.save))
    (hpost : ∀ s s' r,
      post .outside (record ++ [(.transport mode o.save, s)] ++ [(.look, s')]) r) :
    Task.Safe T does post .outside record (relaunch T mode o) := by
  apply Guard.Safe.bind
  apply safe_lockWrite
  intro s
  apply Guard.Safe.bind
  refine safe_write ((Change.transport mode o.save).apply T) (fun _ => rfl)
    (fun w => Change.store_perform T (.transport mode o.save) w) fun _ _ => ?_
  apply Guard.Safe.bind
  apply safe_dropWrite hsave rfl
  apply Guard.Safe.bind
  apply safe_transitionOk
  exact safe_launch o.start hlook (hpost s)

end

end Task

/-- What an activity may do under the lock. -/
def Activity.Does : Activity → Change → Prop
  | .hubMode _ o, c => ∃ m, c = .mode m o
  | .updateConfig body o, c => c = .put body o
  | .loop inputs, c => c = .look ∨ ∃ t ∈ inputs, savedBy t.1 t.2 = some c
  | _, c => c = .look

theorem safe_handle {T : Toml} (i : Input) (o : Outcomes) {does : Change → Prop}
    {record : List (Change × Store)}
    {post : Stage Store → List (Change × Store) → Except RunError Flow → Prop}
    (hlook : does .look) (hsaved : ∀ c, savedBy i o = some c → does c)
    (hpost : ∀ new r, Turned i o new → post .outside (record ++ new) r) :
    Task.Safe T does post .outside record (handle T i o) := by
  have hnothing : savedBy i o = none → ∀ r, post .outside record r := fun hnone r => by
    have hpost' := hpost [] r (.nothing i o hnone)
    rwa [List.append_nil] at hpost'
  cases i with
  | ctrlC => exact Task.steady_shutDown.safe (hnothing rfl)
  | command c =>
    cases c with
    | stop => exact Task.steady_onStop.safe (hnothing rfl)
    | exit => exact Task.steady_shutDown.safe (hnothing rfl)
    | start =>
      apply Guard.Safe.bind
      apply safe_read
      intro w _
      dsimp only
      split
      · exact hnothing rfl _
      · apply Guard.Safe.bind
        apply (Task.steady_transition .starting).safe_attempt (fun _ _ => World.SameStore.same)
        intro r
        cases r with
        | error e => exact hnothing rfl _
        | ok u =>
          apply Guard.Safe.bind
          apply Task.safe_launch o.start hlook
          intro s r
          have hturned := Turned.started o s
          cases r with
          | ok u => exact hpost _ _ hturned
          | error e => exact hpost _ _ hturned
    | switchTransport mode =>
      change Task.Safe T does post .outside record (Task.onSwitchTransport T mode o)
      unfold Task.onSwitchTransport
      split
      · rename_i hm
        exact hnothing (by simp [savedBy, hm]) _
      · rename_i hm
        have hvalid : Task.validMode mode = true := by simpa using hm
        have hsave : does (.transport mode o.save) :=
          hsaved _ (by simp [savedBy, hvalid])
        apply Guard.Safe.bind
        apply Task.safe_note
        apply Guard.Safe.bind
        apply Task.safe_stopForSwitch
        apply Guard.Safe.bind
        apply Task.safe_relaunch mode o hlook hsave
        intro s s' r
        rw [List.append_assoc]
        have hturned := Turned.switched mode o s s' hvalid
        cases r with
        | ok u => exact hpost _ _ hturned
        | error e => exact hpost _ _ hturned

theorem safe_turns {T : Toml} (inputs : List (Input × Outcomes)) {does : Change → Prop}
    {record : List (Change × Store)}
    {post : Stage Store → List (Change × Store) → Except RunError Flow → Prop}
    (hdoes : ∀ c, (Activity.loop inputs).Does c → does c)
    (herror : ∀ new e, post .outside (record ++ new) (.error e))
    (hpost : ∀ new flow, Looped inputs new flow → post .outside (record ++ new) (.ok flow)) :
    Task.Safe T does post .outside record (turns T inputs) := by
  induction inputs generalizing record with
  | nil =>
    have hwaits := hpost [] .continue .waits
    rwa [List.append_nil] at hwaits
  | cons t inputs ih =>
    obtain ⟨i, o⟩ := t
    apply Guard.Safe.bind
    have hsaved : ∀ c, savedBy i o = some c → does c := fun c hc =>
      hdoes c (.inr ⟨_, List.mem_cons_self .., hc⟩)
    apply safe_handle i o (hdoes _ (.inl rfl)) hsaved
    intro new r hturned
    cases r with
    | error e => exact herror new e
    | ok flow =>
      match flow with
      | .break => exact hpost new .break (.ends hturned)
      | .continue =>
        apply ih
        · rintro c (hlook | ⟨t, ht, hc⟩)
          · exact hdoes c (.inl hlook)
          · exact hdoes c (.inr ⟨t, List.mem_cons_of_mem _ ht, hc⟩)
        · intro more e
          rw [List.append_assoc]
          exact herror _ e
        · intro more flow hlooped
          rw [List.append_assoc]
          exact hpost _ flow (.turn hturned hlooped)

/-! ## The handlers -/

/-- How a reply follows from what the activity found under the lock. The state is not
guarded by it. -/
inductive Answers (T : Toml) : Activity → List (Change × Store) → Reply → Prop
  | status (elapsed : Option UInt64) (current : AppState) (s : Store) :
      Answers T (.status elapsed) [(.look, s)]
        (.status (statusResponse current elapsed (hubModeText s.isEmbeddedHub) s.config))
  | getConfig (s : Store) : Answers T .getConfig [(.look, s)] (.config s.config)
  | routerInfo (s : Store) :
      Answers T .routerInfo [(.look, s)] (.routerInfo (BacnetBridge.routerInfo s.config))
  | interfaces (ifaces : Option (List SystemInterface)) (s : Store) :
      Answers T (.interfaces ifaces) [(.look, s)]
        (.interfaces (interfacesResponse s.config ifaces))
  | getFdt (listed : List FdtDisplayEntry) (s : Store) :
      Answers T (.getFdt listed) [(.look, s)]
        (.fdt (fdtResponse s.config.router.transport listed))
  | hubStatus (response : HubStatusResponse) : Answers T .hubStatus [] (.hubStatus response)
  | refused (mode : String) (o : SaveOutcome) (current : AppState) (e : HttpError) :
      hubModeSwitch mode current = .error e →
      Answers T (.hubMode mode o) [] (.changed (.error e))
  | hubMode (mode : String) (o : SaveOutcome) (current : AppState) (m : HubMode)
      (reply : List (String × String)) (s : Store) :
      hubModeSwitch mode current = .ok (m, reply) →
      Answers T (.hubMode mode o) [(.mode m o, s)] (.changed (.ok reply))
  | updateConfig (body : BridgeConfig) (o : SaveOutcome) (s : Store) :
      Answers T (.updateConfig body o) [(.put body o, s)]
        (.changed (s.world.updateConfig T body o).1)
  | loop (inputs : List (Input × Outcomes)) (record : List (Change × Store)) (flow : Flow) :
      Looped inputs record flow → Answers T (.loop inputs) record (.looped flow)

/-- What is to hold when an activity has ended. -/
def Activity.Answered (T : Toml) (activity : Activity) (record : List (Change × Store))
    (r : Except RunError Reply) : Prop := ∀ reply, r = .ok reply → Answers T activity record reply

theorem answered_ok {T : Toml} {activity : Activity} {record : List (Change × Store)}
    {reply : Reply} (h : Answers T activity record reply) :
    Closed (activity.Answered T) .outside record (.ok reply) := by
  refine ⟨rfl, ?_⟩
  rintro _ ⟨⟩
  exact h

namespace Handler

variable {T : Toml} {does : Change → Prop}

theorem safe_withConfig {α : Type} {f : BridgeConfig → α}
    {post : Stage Store → List (Change × Store) → Except RunError α → Prop}
    (hlook : does .look) (hpost : ∀ s, post .outside [(.look, s)] (.ok (f s.config))) :
    Task.Safe T does post .outside [] (withConfig f) := by
  apply Guard.Safe.bind
  apply safe_lockRead
  intro s
  apply Guard.Safe.bind
  apply safe_read
  rintro w ⟨-, rfl⟩
  apply Guard.Safe.bind
  exact safe_dropRead hlook (hpost _)

theorem safe_status (elapsed : Option UInt64) :
    Task.Safe T (Activity.status elapsed).Does (Closed ((Activity.status elapsed).Answered T))
      .outside [] ((Activity.status elapsed).task T) := by
  apply Guard.Safe.bind
  apply Guard.Safe.bind
  apply safe_read
  intro before _
  apply Guard.Safe.bind
  apply safe_lockRead
  intro s
  apply Guard.Safe.bind
  apply safe_read
  rintro first ⟨-, rfl⟩
  apply Guard.Safe.bind
  apply safe_read
  rintro second ⟨-, hsame⟩
  apply Guard.Safe.bind
  have hlook : (Activity.status elapsed).Does .look := rfl
  apply safe_dropRead hlook
  have hconfig : second.config = first.store.config := congrArg (·.config) hsame
  dsimp only
  rw [hconfig]
  exact answered_ok (.status elapsed before.state first.store)

/-- A change of mode does under the lock what the whole change does. -/
theorem safe_changeMode {m : HubMode} {o : SaveOutcome}
    {post : Stage Store → List (Change × Store) → Except RunError Unit → Prop}
    (hmode : does (.mode m o)) (hpost : ∀ s, post .outside [(.mode m o, s)] (.ok ())) :
    Task.Safe T does post .outside [] (changeMode T m o) := by
  apply Guard.Safe.bind
  apply safe_lockWrite
  intro s
  cases m with
  | embedded =>
    apply Guard.Safe.bind
    apply safe_read
    rintro w ⟨-, -, rfl⟩
    apply Guard.Safe.bind
    refine safe_write (fun s => { s with config.router.sc.hubUrl := embeddedHubUrl })
      (fun _ => rfl) (fun _ => rfl) fun _ _ => ?_
    apply Guard.Safe.bind
    refine safe_write (fun s => { s with file := s.world.saveTo T s.config o })
      (fun _ => rfl) (fun _ => rfl) fun _ _ => ?_
    apply Guard.Safe.bind
    refine safe_write (fun s => { s with cloudHubUrl := some w.config.router.sc.hubUrl })
      (fun _ => rfl) (fun _ => rfl) fun _ _ => ?_
    apply Guard.Safe.bind
    refine safe_write (fun s => { s with isEmbeddedHub := true })
      (fun _ => rfl) (fun _ => rfl) fun _ _ => ?_
    exact safe_dropWrite hmode rfl (hpost _)
  | cloud =>
    apply Guard.Safe.bind
    refine safe_write
      (fun s => s.cloudHubUrl.elim s fun cloudUrl =>
        { s with config.router.sc.hubUrl := cloudUrl })
      (fun w => ?_) (fun w => ?_) fun _ _ => ?_
    · cases hcloud : w.cloudHubUrl <;> simp [hcloud]
    · cases hcloud : w.cloudHubUrl <;> simp [World.store, hcloud]
    apply Guard.Safe.bind
    refine safe_write (fun s => { s with file := s.world.saveTo T s.config o })
      (fun _ => rfl) (fun _ => rfl) fun _ _ => ?_
    apply Guard.Safe.bind
    refine safe_write (fun s => { s with isEmbeddedHub := false })
      (fun _ => rfl) (fun _ => rfl) fun _ _ => ?_
    refine safe_dropWrite hmode ?_ (hpost _)
    obtain ⟨config, file, path, cloud, embedded⟩ := s
    cases cloud <;> rfl

theorem safe_hubModeSwitch (mode : String) (o : SaveOutcome) :
    Task.Safe T (Activity.hubMode mode o).Does (Closed ((Activity.hubMode mode o).Answered T))
      .outside [] ((Activity.hubMode mode o).task T) := by
  apply Guard.Safe.bind
  apply Guard.Safe.bind
  apply safe_read
  intro w _
  dsimp only
  cases hcheck : BacnetBridge.hubModeSwitch mode w.state with
  | error e => exact answered_ok (.refused mode o w.state e hcheck)
  | ok passed =>
    obtain ⟨m, reply⟩ := passed
    apply Guard.Safe.bind
    apply safe_changeMode ⟨m, rfl⟩
    exact fun s => answered_ok (.hubMode mode o w.state m reply s hcheck)

theorem safe_updateConfig (body : BridgeConfig) (o : SaveOutcome) :
    Task.Safe T (Activity.updateConfig body o).Does
      (Closed ((Activity.updateConfig body o).Answered T)) .outside []
      ((Activity.updateConfig body o).task T) := by
  apply Guard.Safe.bind
  apply Guard.Safe.bind
  apply safe_lockWrite
  intro s
  apply Guard.Safe.bind
  refine safe_write ((Change.put body o).apply T) (fun w => updateConfig_lock w T body o)
    (Change.store_perform T (.put body o)) fun w hw => ?_
  apply Guard.Safe.bind
  refine safe_dropWrite rfl rfl ?_
  have hreply : (w.updateConfig T body o).1 = (s.world.updateConfig T body o).1 := by
    subst hw
    unfold World.updateConfig
    dsimp only [Store.world, World.store]
    cases w.configPath with
    | none => rfl
    | some path => cases body.save T o w.file with | mk r file => cases r <;> rfl
  rw [hreply]
  exact answered_ok (.updateConfig body o s)

end Handler

theorem Activity.safe (T : Toml) (activity : Activity) :
    Task.Safe T activity.Does (Closed (activity.Answered T)) .outside [] (activity.task T) := by
  cases activity with
  | status elapsed => exact Handler.safe_status elapsed
  | getConfig =>
    apply Guard.Safe.bind
    exact Handler.safe_withConfig rfl fun s => answered_ok (.getConfig s)
  | routerInfo =>
    apply Guard.Safe.bind
    exact Handler.safe_withConfig rfl fun s => answered_ok (.routerInfo s)
  | interfaces ifaces =>
    apply Guard.Safe.bind
    exact Handler.safe_withConfig rfl fun s => answered_ok (.interfaces ifaces s)
  | getFdt listed =>
    apply Guard.Safe.bind
    apply Guard.Safe.bind
    exact Handler.safe_withConfig rfl fun s => answered_ok (.getFdt listed s)
  | hubStatus =>
    apply Guard.Safe.bind
    exact safe_read fun w _ => answered_ok (.hubStatus _)
  | hubMode mode o => exact Handler.safe_hubModeSwitch mode o
  | updateConfig body o => exact Handler.safe_updateConfig body o
  | loop inputs =>
    apply Guard.Safe.bind
    apply safe_turns inputs fun _ hc => hc
    · exact fun _ e => ⟨rfl, fun _ h => by cases h⟩
    · exact fun record flow hlooped => answered_ok (.loop inputs record flow hlooped)

/-! ## Every interleaving -/

/-- Everything that the bridge does at once, and has done since the loop began to wait. -/
abbrev Activities := Pool World RunError Activity Reply

/-- What can come of a memory to which activities arrive when they may. -/
abbrev Serves (T : Toml) (may : Activities → Activity → Prop) : Activities → Activities → Prop :=
  Monitor.Reachable (Activity.task T) may

/-- The bridge before anything has arrived. -/
def World.alone (w : World) : Activities := ⟨w, []⟩

/-- The order in which things were done under the lock: whenever nobody writes, the store
is what they make of the first one, each is done by the activity that it is numbered with,
and every reply follows from what its activity has found. -/
structure Explains (T : Toml) (s : Store) (history : List (Nat × Change)) (pool : Activities) :
    Prop where
  store : pool.mem.configLock.writing = false →
    pool.mem.store = replay (Change.apply T) s history
  changes : ∀ entry ∈ history, ∃ t, pool.tasks[entry.1]? = some t ∧ t.1.Does entry.2
  replies : ∀ n activity reply, pool.tasks[n]? = some (activity, .pure reply) →
    Answers T activity (found (Change.apply T) s history n) reply

/-- Every activity keeps to the lock, and the history is what they have recorded. -/
def Recorded (T : Toml) (s : Store) (history : List (Nat × Change)) (pool : Activities) : Prop :=
  Sound configGuard (Change.apply T) Activity.Does (Activity.Answered T) s history pool

section

variable {a : Launch} {T : Toml} {w : World} {may : Activities → Activity → Prop}
  {s : Store} {history : List (Nat × Change)} {pool later : Activities}

theorem Recorded.explains (h : Recorded T s history pool) : Explains T s history pool :=
  ⟨h.view, h.mine, fun _ _ _ ht => h.ended ht _ rfl⟩

theorem Serves.recorded (h : a.begin T = some (.waiting w)) (hpool : Serves T may w.alone pool) :
    ∃ history, Recorded T w.store history pool :=
  Monitor.Reachable.sound hpool (free_iff.mpr (a.idle h).lock) fun _ activity _ => activity.safe T

/-- However activities interleave, lock by lock, there is one order of what they do under
the configuration's lock that explains the store and every reply. It grows as time goes
on: what has ended is in it, and what has not yet arrived is not. -/
theorem replies_are_serial {a : Launch} {T : Toml} {w : World}
    (h : a.begin T = some (.waiting w)) {may : Activities → Activity → Prop}
    {pool later : Activities} (hpool : Serves T may w.alone pool)
    (hlater : Serves T may pool later) :
    ∃ history more : List (Nat × Change), Explains T w.store history pool ∧
      Explains T w.store (history ++ more) later ∧
      ∀ entry ∈ more, ∀ t, pool.tasks[entry.1]? = some t → ¬ Finished t.2 := by
  obtain ⟨history, hrecorded⟩ := hpool.recorded h
  obtain ⟨more, hlast, hmore⟩ := Sound.reachable hrecorded hlater
    fun _ activity _ => activity.safe T
  exact ⟨history, more, hrecorded.explains, Recorded.explains hlast, hmore⟩

/-- An activity arrives, and has the bridge to itself until it ends. -/
theorem Serves.undisturbed {first : Activities} (hpool : Serves T may first pool)
    (activity : Activity) (hmay : may pool activity) {w' : World} {reply : Reply}
    (hrun : (activity.task T).run pool.mem = some (.ok reply, w')) :
    Serves T may first ⟨w', pool.tasks ++ [(activity, .pure reply)]⟩ :=
  (hpool.arrive hmay).run hrun

/-- The first activity takes a step. -/
theorem Serves.tick {first : Activities} {rest : List (Activity × Task Reply)}
    {activity : Activity} {p q : Task Reply} {w w' : World}
    (hpool : Serves T may first ⟨w, (activity, p) :: rest⟩) (hnext : p.next w = some (q, w')) :
    Serves T may first ⟨w', (activity, q) :: rest⟩ :=
  hpool.step (@Monitor.Step.run _ _ _ _ w w' [] rest activity p q hnext)

/-- The first activity goes on undisturbed until it ends. -/
theorem Serves.finish {first : Activities} {rest : List (Activity × Task Reply)}
    {activity : Activity} {p : Task Reply} {w w' : World} {reply : Reply}
    (hpool : Serves T may first ⟨w, (activity, p) :: rest⟩)
    (hrun : p.run w = some (.ok reply, w')) :
    Serves T may first ⟨w', (activity, .pure reply) :: rest⟩ := by
  have hlast : Serves T may first ⟨w', [] ++ (activity, ended (.ok reply)) :: rest⟩ :=
    Monitor.Reachable.run hpool hrun
  exact hlast

end

/-- A configuration is put, and then asked for. -/
theorem put_is_read : ∃ w pool later, (hubLaunch false).begin hubToml = some (.waiting w) ∧
    Serves hubToml (fun _ _ => True) w.alone pool ∧
    Serves hubToml (fun _ _ => True) pool later ∧
    later.tasks = pool.tasks ++ [(.getConfig, .pure (.config (hubConfig embeddedHubUrl)))] ∧
    ∃ history more, Explains hubToml w.store history pool ∧
      Explains hubToml w.store (history ++ more) later := by
  obtain ⟨w, hw⟩ : ∃ w, (hubLaunch false).begin hubToml = some (.waiting w) :=
    ⟨_, begin_hubLaunch false⟩
  have hlock := ((hubLaunch false).idle hw).lock
  generalize hubConfig embeddedHubUrl = body
  obtain ⟨reply, w', hupdated⟩ : ∃ reply w', w.updateConfig hubToml body .written = (reply, w') :=
    ⟨_, _, rfl⟩
  have hw' : w' = (w.updateConfig hubToml body .written).2 := (congrArg Prod.snd hupdated).symm
  have hlock' : w'.configLock = .free := by rw [hw', updateConfig_lock, hlock]
  have hconfig : w'.config = body := by
    rw [hw']
    unfold World.updateConfig
    dsimp only
    split
    · rfl
    · split <;> rfl
  have hput : ((Activity.updateConfig body .written).task hubToml).run w =
      some (.ok (.changed reply), w') := by
    simp only [Activity.task, run_bind, run_updateConfig hlock, hupdated, Option.bind_some,
      run_pure]
  have hget : (Activity.getConfig.task hubToml).run w' = some (.ok (.config body), w') := by
    simp only [Activity.task, Handler.getConfig, run_bind, run_withConfig hlock', hconfig,
      Option.bind_some, run_pure, id]
  have hpool : Serves hubToml (fun _ _ => True) w.alone
      ⟨w', [(.updateConfig body .written, .pure (.changed reply))]⟩ :=
    Serves.undisturbed .start _ trivial hput
  have hlater : Serves hubToml (fun _ _ => True)
      ⟨w', [(.updateConfig body .written, .pure (.changed reply))]⟩
      ⟨w', [(.updateConfig body .written, .pure (.changed reply)),
        (.getConfig, .pure (.config body))]⟩ :=
    Serves.undisturbed .start _ trivial hget
  obtain ⟨history, more, hexplains, hexplains', -⟩ := replies_are_serial hw hpool hlater
  exact ⟨w, _, _, hw, hpool, hlater, rfl, history, more, hexplains, hexplains'⟩

end BacnetBridge
