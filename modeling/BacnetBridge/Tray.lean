import BacnetBridge.ConfigChange
import BacnetBridge.HubRace

/-! `tray.rs`: the icon in the notification area with its tooltip, and the menu, which
never changes and sends commands into the same channel as the request handlers. The
tray, the handlers and the loop act in every order. -/
namespace BacnetBridge

inductive TrayIcon
  | green
  | amber
  | red
  deriving DecidableEq, Repr

/-- `TrayIcons::for_state`. -/
def TrayIcon.forState : AppState → TrayIcon
  | .running => .green
  | .starting | .stopping => .amber
  | .stopped => .red

/-- The tooltip for a state. -/
def trayLabel : AppState → String
  | .running => "BACnet Bridge - Running"
  | .starting | .stopping => "BACnet Bridge - Reconnecting"
  | .stopped => "BACnet Bridge - Stopped"

inductive MenuItem
  | openDashboard
  | stopRouter
  | startRouter
  | switchToSc
  | switchToTailscale
  | exit
  deriving DecidableEq, Repr

/-- What the item sends; the dashboard is opened in a browser. -/
def MenuItem.command : MenuItem → Option RouterCommand
  | .openDashboard => none
  | .stopRouter => some .stop
  | .startRouter => some .start
  | .switchToSc => some (.switchTransport "sc")
  | .switchToTailscale => some (.switchTransport "tailscale")
  | .exit => some .exit

/-- `seen` is how much was published when the receiver last looked. -/
structure Tray where
  icon : TrayIcon
  tooltip : String
  seen : Nat
  gone : Bool
  deriving DecidableEq, Repr

def Event.isPublished : Event → Bool
  | .published _ => true
  | _ => false

/-- The version of the watch channel. -/
def publications (log : List Event) : Nat := log.countP Event.isPublished

/-- The receiver is subscribed when the loop is about to begin: what was published by
then counts as seen. -/
def Tray.start (w : World) : Tray := ⟨.red, "BACnet Bridge - Stopped", publications w.log, false⟩

/-- Icon and tooltip are those of the state. -/
def Tray.Shows (t : Tray) (s : AppState) : Prop :=
  t.icon = .forState s ∧ t.tooltip = trayLabel s

instance (t : Tray) (s : AppState) : Decidable (t.Shows s) := instDecidableAnd

/-- `run_router` has left its loop. -/
def Loop.over (l : Loop) : Bool :=
  match l.task with
  | some (.pure .break) => true
  | some (.fail _) => true
  | _ => false

/-- One round of the tray's loop. The sender of the shutdown channel is dropped when
`run_router` leaves its loop. -/
def Tray.round (t : Tray) (l : Loop) : Tray :=
  if l.over then { t with gone := true }
  else if publications l.world.log ≠ t.seen then
    { t with
      icon := .forState l.world.state
      tooltip := trayLabel l.world.state
      seen := publications l.world.log }
  else t

/-- The bridge with everybody who can ask something of it. -/
structure Desktop where
  site : Site
  tray : Tray

namespace Desktop

def start (w : World) : Desktop := ⟨.start w, .start w⟩

def world (s : Desktop) : World := s.site.sys.loop.world

/-- A `put` acts when its handler has been given the write lock. A click is `taken`, or
its command is dropped. -/
inductive Input
  | control (i : Site.Input)
  | put (body : BridgeConfig) (o : SaveOutcome)
  | click (item : MenuItem) (taken : Bool)
  | round
  deriving DecidableEq, Repr

/-- `try_send` drops the command when the channel is full, or when the room there is has
been set aside for a handler that waits. -/
def click (s : Desktop) (command : RouterCommand) (taken : Bool) : Option Desktop :=
  let sys := s.site.sys
  if taken then
    if sys.queue.length < capacity then
      some { s with site.sys.queue := sys.queue ++ [⟨command, s.world.log.length⟩] }
    else none
  else if sys.queue.length = capacity ∨ sys.accepted ≠ [] then some s
  else none

def step (T : Toml) (s : Desktop) : Input → Option Desktop
  | .control i => (s.site.step T i).map fun site => { s with site }
  | .put body o =>
    if s.world.configLock = .free then
      some { s with site.sys.loop.world := (s.world.updateConfig T body o).2 }
    else none
  | .click item taken =>
    if s.tray.gone then none
    else
      match item.command with
      | none => some s
      | some command => s.click command taken
  | .round => if s.tray.gone then none else some { s with tray := s.tray.round s.site.sys.loop }

end Desktop

/-! ## Steps -/

/-- The log only grows, and the state is the one published last. -/
structure World.Publishes (w w' : World) : Prop where
  log : w.log <+: w'.log
  published : published w.log = w.state → published w'.log = w'.state

namespace World.Publishes

variable {a b c : World}

theorem refl (w : World) : w.Publishes w := ⟨List.prefix_rfl, id⟩

theorem trans (h : a.Publishes b) (h' : b.Publishes c) : a.Publishes c :=
  ⟨h.log.trans h'.log, fun hp => h'.published (h.published hp)⟩

theorem of_grows (h : a.Grows b) : a.Publishes b := ⟨h.log, h.published⟩

theorem of_sameLoop (h : a.SameLoop b) : a.Publishes b := by
  refine ⟨h.log ▸ List.prefix_rfl, ?_⟩
  rw [h.log, h.state]
  exact id

end World.Publishes

theorem sameLoop_updateConfig (w : World) (T : Toml) (body : BridgeConfig) (o : SaveOutcome) :
    w.SameLoop (w.updateConfig T body o).2 := by
  unfold World.updateConfig
  dsimp only
  split
  · exact ⟨rfl, rfl, rfl, rfl, rfl⟩
  · split <;> exact ⟨rfl, rfl, rfl, rfl, rfl⟩

/-- What a step of the bridge does to the memory. -/
theorem Sys.step_publishes {T : Toml} {s t : Sys} {i : Sys.Input} (h : s.loop.Steady)
    (ht : s.step T i = some t) : s.loop.world.Publishes t.loop.world ∧ t.loop.Steady := by
  cases i with
  | request c =>
    simp only [Sys.step] at ht
    split at ht <;> cases ht <;> exact ⟨.refl _, h⟩
  | send n =>
    simp only [Sys.step] at ht
    split at ht
    · cases ht
    · split at ht
      · cases ht
        exact ⟨.refl _, h⟩
      · cases ht
  | receive o =>
    simp only [Sys.step] at ht
    split at ht
    · cases ht
    · obtain ⟨loop, hwake, rfl⟩ := Option.map_eq_some_iff.mp ht
      obtain ⟨hworld, hsteady⟩ := Loop.steady_wake hwake
      refine ⟨?_, hsteady⟩
      rw [hworld]
      exact .of_grows (.emit (by simp))
  | interrupt o =>
    obtain ⟨loop, hwake, rfl⟩ := Option.map_eq_some_iff.mp ht
    obtain ⟨hworld, hsteady⟩ := Loop.steady_wake hwake
    refine ⟨?_, hsteady⟩
    rw [hworld]
    exact .refl _
  | tick =>
    obtain ⟨loop, htick, rfl⟩ := Option.map_eq_some_iff.mp ht
    obtain ⟨hgrows, hsteady⟩ := h.tick htick
    exact ⟨.of_grows hgrows, hsteady⟩

theorem Site.step_publishes {T : Toml} {s t : Site} {i : Site.Input} (h : s.sys.loop.Steady)
    (ht : s.step T i = some t) :
    s.sys.loop.world.Publishes t.sys.loop.world ∧ t.sys.loop.Steady := by
  cases i with
  | control i =>
    obtain ⟨sys, hsys, rfl⟩ := Option.map_eq_some_iff.mp ht
    exact Sys.step_publishes h hsys
  | request mode =>
    simp only [Site.step] at ht
    split at ht <;> cases ht <;> exact ⟨.refl _, h⟩
  | change n o =>
    obtain ⟨r, -, rfl⟩ := Option.map_eq_some_iff.mp ht
    exact ⟨.of_sameLoop (sameLoop_hubSwitched s.world T r.mode o), h⟩

namespace Desktop

variable {T : Toml} {s t : Desktop}

/-- A click does nothing but put its command into the channel. -/
theorem click_cases {item : MenuItem} {taken : Bool} (ht : s.step T (.click item taken) = some t) :
    t = s ∨ ∃ command, item.command = some command ∧ taken = true ∧
      t = { s with site.sys.queue := s.site.sys.queue ++ [⟨command, s.world.log.length⟩] } := by
  simp only [step] at ht
  split at ht
  · cases ht
  split at ht
  · exact .inl (Option.some.inj ht).symm
  rename_i command hcommand
  unfold click at ht
  dsimp only at ht
  split at ht
  · rename_i htaken
    split at ht
    · exact .inr ⟨command, hcommand, htaken, (Option.some.inj ht).symm⟩
    · cases ht
  · split at ht
    · exact .inl (Option.some.inj ht).symm
    · cases ht

theorem put_eq_some {body : BridgeConfig} {o : SaveOutcome}
    (ht : s.step T (.put body o) = some t) :
    t = { s with site.sys.loop.world := (s.world.updateConfig T body o).2 } := by
  simp only [step] at ht
  split at ht
  · exact (Option.some.inj ht).symm
  · cases ht

theorem round_eq_some (ht : s.step T .round = some t) :
    t = { s with tray := s.tray.round s.site.sys.loop } := by
  simp only [step] at ht
  split at ht
  · cases ht
  · exact (Option.some.inj ht).symm

end Desktop

/-! ## Icon and tooltip -/

theorem publications_mono {log log' : List Event} (h : log <+: log') :
    publications log ≤ publications log' := h.countP_le

theorem published_of_quiet {log es : List Event} (h : publications es = 0) :
    published (log ++ es) = published log := by
  induction es generalizing log with
  | nil => simp
  | cons e es ih =>
    obtain ⟨hes, he⟩ : publications es = 0 ∧ e.isPublished = false := by
      simpa [publications, List.countP_cons] using h
    rw [List.append_cons, ih hes, published_append]
    cases e with
    | published s => cases he
    | _ => rfl

/-- As long as nothing is published, the state stays. -/
theorem state_eq_of_publishes {w w' : World} (h : w.Publishes w')
    (hw : published w.log = w.state) (hsame : publications w'.log = publications w.log) :
    w'.state = w.state := by
  obtain ⟨es, hes⟩ := h.log
  have hquiet : publications es = 0 := by
    simp only [← hes, publications, List.countP_append] at hsame ⊢
    omega
  rw [← h.published hw, ← hes, published_of_quiet hquiet, hw]

/-- The tray, which began at `w`, has either had nothing to show yet, or it shows what
was current when it last looked. -/
def Tray.Follows (t : Tray) (w now : World) : Prop :=
  (t.seen = publications w.log ∧ t.Shows .stopped) ∨
    (publications w.log < t.seen ∧ t.seen ≤ publications now.log ∧
      (t.seen = publications now.log → t.Shows now.state))

theorem Tray.Follows.later {t : Tray} {w now later : World} (h : t.Follows w now)
    (hlater : now.Publishes later) (hnow : published now.log = now.state) :
    t.Follows w later := by
  rcases h with h | ⟨hnew, hle, hshows⟩
  · exact .inl h
  · have hmono := publications_mono hlater.log
    refine .inr ⟨hnew, hle.trans hmono, ?_⟩
    intro hseen
    have hsame : publications later.log = publications now.log := by omega
    rw [state_eq_of_publishes hlater hnow hsame]
    exact hshows (hseen.trans hsame)

theorem Tray.Follows.round {t : Tray} {w : World} {l : Loop} (h : t.Follows w l.world)
    (hl : w.Publishes l.world) : (t.round l).Follows w l.world := by
  have hmono := publications_mono hl.log
  unfold Tray.round
  split
  · exact h
  · split
    · rename_i hchanged
      refine .inr ⟨?_, le_rfl, fun _ => ⟨rfl, rfl⟩⟩
      rcases h with ⟨hseen, -⟩ | ⟨hnew, hle, -⟩
      · exact lt_of_le_of_ne hmono (hseen ▸ Ne.symm hchanged)
      · exact lt_of_lt_of_le hnew hle
    · exact h

/-- A tray that is still there has just looked. -/
theorem Tray.seen_round {t : Tray} {l : Loop} (h : (t.round l).gone = false) :
    (t.round l).seen = publications l.world.log := by
  unfold Tray.round at h ⊢
  split
  · rename_i hover
    simp [hover] at h
  · split
    · rfl
    · rename_i hsame
      exact (not_not.mp hsame).symm

namespace Desktop

/-- The tray against the world that the loop began to wait in. -/
structure Watched (w : World) (s : Desktop) : Prop where
  steady : s.site.sys.loop.Steady
  publishes : w.Publishes s.world
  follows : s.tray.Follows w s.world

theorem watched_start (w : World) : Watched w (.start w) where
  steady := by simp [start, Site.start, Sys.start, Loop.Steady]
  publishes := .refl w
  follows := .inl ⟨rfl, rfl, rfl⟩

theorem watched_step {T : Toml} {w : World} (hw : published w.log = w.state) {s t : Desktop}
    {i : Input} (h : s.Watched w) (ht : s.step T i = some t) : t.Watched w := by
  obtain ⟨hsteady, hpublishes, hfollows⟩ := h
  have hcurrent := hpublishes.published hw
  cases i with
  | control i =>
    obtain ⟨site, hsite, rfl⟩ := Option.map_eq_some_iff.mp ht
    obtain ⟨hstep, hsteady'⟩ := Site.step_publishes hsteady hsite
    exact ⟨hsteady', hpublishes.trans hstep, hfollows.later hstep hcurrent⟩
  | put body o =>
    obtain rfl := put_eq_some ht
    have hstep : s.world.Publishes (s.world.updateConfig T body o).2 :=
      .of_sameLoop (sameLoop_updateConfig s.world T body o)
    exact ⟨hsteady, hpublishes.trans hstep, hfollows.later hstep hcurrent⟩
  | click item taken =>
    rcases click_cases ht with rfl | ⟨_, -, -, rfl⟩
    · exact ⟨hsteady, hpublishes, hfollows⟩
    · exact ⟨hsteady, hpublishes, hfollows⟩
  | round =>
    obtain rfl := round_eq_some ht
    exact ⟨hsteady, hpublishes, hfollows.round hpublishes⟩

end Desktop

/-- The bridge never begins to wait in state `Stopped`, not even after a first start that
failed. -/
theorem Launch.state_ne_stopped {a : Launch} {T : Toml} {w : World}
    (h : a.begin T = some (.waiting w)) : w.state ≠ .stopped := by
  obtain ⟨config, file, localAddr, -, -, rfl⟩ := a.begin_waiting h
  obtain ⟨-, -, hs⟩ := a.entered_ready config file localAddr
  cases a.start with
  | ok b => simp [World.launched]
  | err e => simp [World.launched, hs]

/-- Right after the tray has looked it shows the state exactly if a state has been
published since the loop began: until then it says `Stopped`, which is not the state. -/
theorem tray_shows_state_iff {a : Launch} {T : Toml} {w : World}
    (h : a.begin T = some (.waiting w)) {inputs : List Desktop.Input} {t : Desktop}
    (ht : Runs.after (Desktop.step T) (.start w) (inputs ++ [.round]) = some t)
    (hthere : t.tray.gone = false) :
    (t.tray.Shows t.world.state ↔
      publications w.log < publications t.world.log) ∧
    (¬ t.tray.Shows t.world.state → t.tray.Shows .stopped) := by
  have hw := (a.settled h).current
  rw [Runs.after_append] at ht
  obtain ⟨s, hs, hround⟩ := Option.bind_eq_some_iff.mp ht
  have hwatched := Runs.always_of_step (fun _ _ _ hs hstep => Desktop.watched_step hw hs hstep)
    (Desktop.watched_start w) inputs inputs List.prefix_rfl s hs
  have hlast : s.step T .round = some t := by simpa using hround
  have hafter := Desktop.watched_step hw hwatched hlast
  have hseen : t.tray.seen = publications t.world.log := by
    obtain rfl := Desktop.round_eq_some hlast
    exact Tray.seen_round hthere
  rcases hafter.follows with ⟨hold, hstopped⟩ | ⟨hnew, -, hshows⟩
  · have hstate := state_eq_of_publishes hafter.publishes hw (hseen.symm.trans hold)
    have hstale : ¬ t.tray.Shows t.world.state := by
      rintro ⟨-, hlabel⟩
      rw [hstate, hstopped.2] at hlabel
      apply a.state_ne_stopped h
      revert hlabel
      cases w.state <;> decide
    refine ⟨⟨fun hshows => absurd hshows hstale, fun hlt => ?_⟩, fun _ => hstopped⟩
    omega
  · have hnow := hshows hseen
    exact ⟨⟨fun _ => hseen ▸ hnew, fun _ => hnow⟩, fun hnot => absurd hnow hnot⟩

/-- A bridge that runs from the start is shown as stopped. -/
theorem running_bridge_is_shown_stopped :
    ∃ w t, (hubLaunch false).begin hubToml = some (.waiting w) ∧
      Runs.after (Desktop.step hubToml) (.start w) [.round] = some t ∧
      t.world.state = .running ∧ t.tray.Shows .stopped := by
  obtain ⟨w, t, hbegin, hrun, hthere, hrunning, hquiet⟩ : ∃ w t, (hubLaunch false).begin hubToml =
      some (.waiting w) ∧ Runs.after (Desktop.step hubToml) (.start w) ([] ++ [.round]) = some t ∧
        t.tray.gone = false ∧ t.world.state = .running ∧
          publications t.world.log = publications w.log :=
    ⟨_, _, begin_hubLaunch false, rfl, rfl, rfl, rfl⟩
  have hlooked := tray_shows_state_iff hbegin hrun hthere
  refine ⟨w, t, hbegin, hrun, hrunning, hlooked.2 ?_⟩
  rw [hlooked.1, hquiet]
  exact lt_irrefl _

end BacnetBridge
