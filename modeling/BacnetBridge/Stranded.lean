import BacnetBridge.Tray

/-! What can still be done with a bridge whose start failed: what requests of every kind,
the tray and the loop come to, in every order. -/
namespace BacnetBridge

open Prog

/-- Turns that have nothing to do while the state is `Starting`. -/
inductive Futile (T : Toml) : Option (Task Flow) → Prop
  | idle : Futile T none
  | begun {i : Input} (o : Outcomes) : ¬ i.Switches → Futile T (some (handle T i o))
  | done : Futile T (some (.pure .continue))
  | failed (e : RunError) : Futile T (some (.fail e))

/-- The state is `Starting`, no router is held or has been started since `w`, and nothing
has changed but the log and what `PUT`s and changes of the hub mode write. -/
structure World.Halted (w w' : World) : Prop where
  starting : w.state = .starting
  bare : w.running = none
  same : w' =
    { w with
      log := w'.log
      config := w'.config
      file := w'.file
      cloudHubUrl := w'.cloudHubUrl
      isEmbeddedHub := w'.isEmbeddedHub }

namespace World.Halted

variable {w w' : World}

theorem state_eq (h : w.Halted w') : w'.state = .starting := by
  rw [h.same]
  exact h.starting

theorem emit (h : w.Halted w') (e : Event) : w.Halted (w'.emit e) := by
  refine ⟨h.starting, h.bare, ?_⟩
  conv_lhs => rw [World.emit, h.same]
  rfl

theorem updateConfig (h : w.Halted w') (T : Toml) (body : BridgeConfig) (o : SaveOutcome) :
    w.Halted (w'.updateConfig T body o).2 := by
  refine ⟨h.starting, h.bare, ?_⟩
  rw [h.same]
  unfold World.updateConfig
  dsimp only
  split
  · rfl
  · split <;> rfl

theorem hubSwitched (h : w.Halted w') (T : Toml) (mode : HubMode) (o : SaveOutcome) :
    w.Halted (w'.hubSwitched T mode o) := by
  refine ⟨h.starting, h.bare, ?_⟩
  rw [h.same]
  cases mode <;> rfl

end World.Halted

/-- A click that puts a switch of the transport into the channel. -/
def Desktop.Input.ClicksSwitch : Desktop.Input → Prop
  | .click item taken =>
    taken = true ∧ ∃ command, item.command = some command ∧ (Input.command command).Switches
  | _ => False

/-- The bridge is halted since `w`, and no switch to a known transport is on its way. -/
structure Stranded (T : Toml) (w : World) (s : Desktop) : Prop where
  halted : w.Halted s.world
  pending : ∀ r ∈ s.site.sys.accepted ++ s.site.sys.queue, ¬ (Input.command r.command).Switches
  futile : Futile T s.site.sys.loop.task

namespace Stranded

variable {T : Toml} {w : World} {s t : Desktop}

/-- No request for a command is let through. -/
theorem refused (h : Stranded T w s) (c : Call) : ∃ e, c.check true s.world.state = .error e := by
  cases hc : c.check true s.world.state with
  | error e => exact ⟨e, rfl⟩
  | ok a =>
    have hstate := h.halted.state_eq
    rcases Call.check_ok hc with ⟨-, hs⟩ | ⟨-, hs⟩ <;> simp [hstate] at hs

theorem woken {l l' : Loop} {i : Input} {o : Outcomes} (hi : ¬ i.Switches)
    (h : l.wake T i o = some l') : l'.world = l.world ∧ Futile T l'.task := by
  obtain ⟨-, rfl⟩ := Loop.wake_some h
  exact ⟨rfl, .begun o hi⟩

/-- The first step of a turn finds the state `Starting`, and is the last but one. -/
theorem next_handle {i : Input} (hi : ¬ i.Switches) {o : Outcomes} {u : World}
    (hu : u.state = .starting) {p : Task Flow} {u' : World}
    (h : (handle T i o).next u = some (p, u')) : u' = u ∧ Futile T (some p) := by
  have hshut : Task.shutDown.next u = some (p, u') → u' = u ∧ Futile T (some p) := by
    intro hnext
    simp [Task.shutDown, Task.transition, Bind.bind, Prog.bind, Prog.atomic, Prog.await, Prog.next,
      hu, AppState.tryTransition, AppState.valid] at hnext
    obtain ⟨rfl, rfl⟩ := hnext
    exact ⟨rfl, .failed _⟩
  cases i with
  | ctrlC => exact hshut h
  | command c =>
    cases c with
    | exit => exact hshut h
    | stop =>
      simp [handle, Task.onStop, Bind.bind, Prog.bind, Prog.read, Prog.atomic, Prog.await,
        Prog.next, hu] at h
      obtain ⟨rfl, rfl⟩ := h
      exact ⟨rfl, .done⟩
    | start =>
      simp [handle, Task.onStart, Bind.bind, Prog.bind, Prog.read, Prog.atomic, Prog.await,
        Prog.next, hu] at h
      obtain ⟨rfl, rfl⟩ := h
      exact ⟨rfl, .done⟩
    | switchTransport mode =>
      have hm : Task.validMode mode = false := by simpa [Input.Switches] using hi
      simp only [handle, Task.onSwitchTransport, hm] at h
      cases h

theorem ticked {l l' : Loop} (hl : l.world.state = .starting) (hfutile : Futile T l.task)
    (h : l.tick = some l') : l'.world = l.world ∧ Futile T l'.task := by
  obtain ⟨u, task⟩ := l
  cases hfutile with
  | idle => cases h
  | done =>
    cases h
    exact ⟨rfl, .idle⟩
  | failed e => cases h
  | begun o hi =>
    unfold Loop.tick at h
    split at h
    · cases h
    · cases h
      exact ⟨rfl, .idle⟩
    · rename_i p _ hp
      obtain ⟨⟨q, u'⟩, hn, rfl⟩ := Option.map_eq_some_iff.mp h
      obtain rfl := Option.some.inj hp
      exact next_handle hi hl hn

theorem control (h : Stranded T w s) {i : Sys.Input} {sys : Sys}
    (hs : s.site.sys.step T i = some sys) : Stranded T w { s with site.sys := sys } := by
  have hrefused := h.refused
  obtain ⟨hhalted, hpending, hfutile⟩ := h
  cases i with
  | request c =>
    obtain ⟨e, he⟩ : ∃ e, c.check true s.site.sys.loop.world.state = .error e := hrefused c
    simp only [Sys.step, he] at hs
    cases hs
    exact ⟨hhalted, hpending, hfutile⟩
  | send n =>
    simp only [Sys.step] at hs
    split at hs
    · cases hs
    · rename_i r hr
      split at hs
      · cases hs
        refine ⟨hhalted, ?_, hfutile⟩
        intro r' hr'
        apply hpending
        rcases List.mem_append.mp hr' with hleft | hright
        · exact List.mem_append_left _ (List.mem_of_mem_eraseIdx hleft)
        · rcases List.mem_append.mp hright with hqueue | hsent
          · exact List.mem_append_right _ hqueue
          · obtain rfl := List.mem_singleton.mp hsent
            exact List.mem_append_left _ (List.mem_of_getElem? hr)
      · cases hs
  | receive o =>
    simp only [Sys.step] at hs
    split at hs
    · cases hs
    · rename_i r queue hq
      obtain ⟨l, hw, rfl⟩ := Option.map_eq_some_iff.mp hs
      obtain ⟨hworld, hfutile'⟩ := woken (hpending r (by simp [hq])) hw
      refine ⟨?_, ?_, hfutile'⟩
      · have hhalted' : w.Halted l.world := by
          rw [hworld]
          exact hhalted.emit _
        exact hhalted'
      · intro r' hr'
        apply hpending
        rw [hq]
        rcases List.mem_append.mp hr' with hleft | hright
        · exact List.mem_append_left _ hleft
        · exact List.mem_append_right _ (List.mem_cons_of_mem _ hright)
  | interrupt o =>
    obtain ⟨l, hw, rfl⟩ := Option.map_eq_some_iff.mp hs
    obtain ⟨hworld, hfutile'⟩ := woken (by simp [Input.Switches]) hw
    have hhalted' : w.Halted l.world := by
      rw [hworld]
      exact hhalted
    exact ⟨hhalted', hpending, hfutile'⟩
  | tick =>
    obtain ⟨l, hl, rfl⟩ := Option.map_eq_some_iff.mp hs
    obtain ⟨hworld, hfutile'⟩ := ticked hhalted.state_eq hfutile hl
    have hhalted' : w.Halted l.world := by
      rw [hworld]
      exact hhalted
    exact ⟨hhalted', hpending, hfutile'⟩

theorem step (h : Stranded T w s) {i : Desktop.Input} (hi : ¬ i.ClicksSwitch)
    (ht : s.step T i = some t) : Stranded T w t := by
  cases i with
  | control i =>
    obtain ⟨site, hsite, rfl⟩ := Option.map_eq_some_iff.mp ht
    cases i with
    | control i =>
      obtain ⟨sys, hsys, rfl⟩ := Option.map_eq_some_iff.mp hsite
      exact h.control hsys
    | request mode =>
      simp only [Site.step] at hsite
      split at hsite <;> cases hsite <;> exact ⟨h.halted, h.pending, h.futile⟩
    | change n o =>
      obtain ⟨r, -, rfl⟩ := Option.map_eq_some_iff.mp hsite
      exact ⟨h.halted.hubSwitched T r.mode o, h.pending, h.futile⟩
  | put body o =>
    obtain rfl := Desktop.put_eq_some ht
    exact ⟨h.halted.updateConfig T body o, h.pending, h.futile⟩
  | click item taken =>
    rcases Desktop.click_cases ht with rfl | ⟨command, hcommand, htaken, rfl⟩
    · exact h
    · refine ⟨h.halted, ?_, h.futile⟩
      intro r hr
      rw [← List.append_assoc] at hr
      rcases List.mem_append.mp hr with hbefore | hclicked
      · exact h.pending r hbefore
      · obtain rfl := List.mem_singleton.mp hclicked
        exact fun hswitch => hi ⟨htaken, command, hcommand, hswitch⟩
  | round =>
    obtain rfl := Desktop.round_eq_some ht
    exact ⟨h.halted, h.pending, h.futile⟩

theorem after (h : Stranded T w s) {inputs : List Desktop.Input}
    (hinputs : ∀ i ∈ inputs, ¬ i.ClicksSwitch)
    (ht : Runs.after (Desktop.step T) s inputs = some t) : Stranded T w t := by
  induction inputs generalizing s with
  | nil => exact Option.some.inj ht ▸ h
  | cons i inputs ih =>
    rw [List.forall_mem_cons] at hinputs
    rw [Runs.after_cons] at ht
    obtain ⟨next, hnext, hrest⟩ := Option.bind_eq_some_iff.mp ht
    exact ih (h.step hinputs.1 hnext) hinputs.2 hrest

end Stranded

namespace Desktop

variable {T : Toml} {s t : Desktop}

end Desktop

end BacnetBridge
