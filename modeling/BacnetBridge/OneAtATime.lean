import BacnetBridge.Serial

/-! Where one loop and any requests interleave, the memory is that of a bridge that does one
thing at a time. -/
namespace BacnetBridge

open Prog Monitor

/-- What is done with the bridge to itself: a whole turn, or what a request does under the
lock. -/
inductive Deed
  | turn (i : Input) (o : Outcomes)
  | change (c : Change)

namespace Deed

def step (T : Toml) : Status → Deed → Option Status
  | .waiting w, .turn i o => Status.step T (.waiting w) (i, o)
  | .waiting w, .change c => some (.waiting (c.perform T w))
  | .returned _ _, _ => none

def turn? : Deed → Option (Input × Outcomes)
  | .turn i o => some (i, o)
  | .change _ => none

def changes : Deed → List Change
  | .turn i o => (savedBy i o).toList
  | .change c => [c]

end Deed

/-! ## What the loop works on -/

/-- The two differ at most in the configuration's lock and what that guards. -/
structure World.SameRouter (w w' : World) : Prop where
  state : w'.state = w.state
  running : w'.running = w.running
  bbmdHandle : w'.bbmdHandle = w.bbmdHandle
  hubListenAddr : w'.hubListenAddr = w.hubListenAddr
  routers : w'.routers = w.routers
  log : w'.log = w.log

theorem World.SameRouter.refl (w : World) : w.SameRouter w := ⟨rfl, rfl, rfl, rfl, rfl, rfl⟩

theorem World.SameRouter.trans {u v w : World} (h : u.SameRouter v) (h' : v.SameRouter w) :
    u.SameRouter w :=
  ⟨h'.state.trans h.state, h'.running.trans h.running, h'.bbmdHandle.trans h.bbmdHandle,
    h'.hubListenAddr.trans h.hubListenAddr, h'.routers.trans h.routers, h'.log.trans h.log⟩

theorem World.SameRouter.symm {u v : World} (h : u.SameRouter v) : v.SameRouter u :=
  ⟨h.state.symm, h.running.symm, h.bbmdHandle.symm, h.hubListenAddr.symm, h.routers.symm,
    h.log.symm⟩

theorem World.SameRouter.emit {w w' : World} (h : w.SameRouter w') (e : Event) :
    (w.emit e).SameRouter (w'.emit e) :=
  ⟨h.state, h.running, h.bbmdHandle, h.hubListenAddr, h.routers, congrArg (· ++ [e]) h.log⟩

/-- A memory is its router, its lock and its store. -/
theorem World.SameRouter.eq {w w' : World} (h : w.SameRouter w')
    (hlock : w'.configLock = w.configLock) (hstore : w'.store = w.store) : w' = w := by
  obtain ⟨_, _, _, _, _, _, _, _, _, _, _, _⟩ := w
  obtain ⟨_, _, _, _, _, _, _, _, _, _, _, _⟩ := w'
  obtain ⟨h₁, h₂, h₃, h₄, h₅, h₆⟩ := h
  simp only [World.store, Store.mk.injEq] at hstore
  simp_all

theorem Task.Made.follows {α : Type} {p : Task α} (h : Made p) : p.Follows World.SameRouter := by
  induction h with
  | done => trivial
  | bind _ _ ihp ihf => exact ihp.bind ihf
  | attempt _ ih => exact ih.attempt
  | readState => exact follows_await fun w w' h => ⟨congrArg Except.ok h.state.symm, h⟩
  | note => exact follows_await fun w w' h => ⟨rfl, h.emit _⟩
  | transition next =>
    apply follows_await
    intro w w' h
    simp only [h.state]
    split
    · rename_i s _
      have hset : World.SameRouter { w with state := s } { w' with state := s } :=
        ⟨rfl, h.running, h.bbmdHandle, h.hubListenAddr, h.routers, h.log⟩
      exact ⟨rfl, hset.emit _⟩
    · exact ⟨rfl, h⟩
  | lockRead | dropRead | lockWrite | dropWrite | saveTransport =>
    exact follows_await fun w w' h =>
      ⟨rfl, h.state, h.running, h.bbmdHandle, h.hubListenAddr, h.routers, h.log⟩
  | takeRunning =>
    exact follows_await fun w w' h =>
      ⟨by rw [h.running], h.state, rfl, h.bbmdHandle, h.hubListenAddr, h.routers, h.log⟩
  | setRunning r =>
    apply follows_await
    intro w w' h
    have hset : World.SameRouter { w with running := some r } { w' with running := some r } :=
      ⟨h.state, rfl, h.bbmdHandle, h.hubListenAddr, h.routers, h.log⟩
    refine ⟨rfl, ?_⟩
    simp only [h.running]
    split
    · exact hset
    · exact hset.emit _
  | setBbmdHandle =>
    exact follows_await fun w w' h =>
      ⟨rfl, h.state, h.running, rfl, h.hubListenAddr, h.routers, h.log⟩
  | startRouter o =>
    refine (follows_await fun w w' h => ⟨rfl, h.emit _⟩).bind fun _ => follows_await ?_
    intro w w' h
    cases o with
    | ok bbmdState =>
      have hset : World.SameRouter { w with routers := w.routers + 1 }
          { w' with routers := w.routers + 1 } :=
        ⟨h.state, h.running, h.bbmdHandle, h.hubListenAddr, rfl, h.log⟩
      simp only [h.routers]
      exact ⟨trivial, hset.emit _⟩
    | err e => exact ⟨rfl, h.emit _⟩

theorem follows_turns (T : Toml) (inputs : List (Input × Outcomes)) :
    (turns T inputs).Follows World.SameRouter := by
  induction inputs with
  | nil => trivial
  | cons t inputs ih =>
    apply ((made_handle T t.1 t.2).follows).bind
    intro flow
    match flow with
    | .continue => exact ih
    | .break => trivial

theorem sameRouter_perform (T : Toml) (c : Change) (w : World) :
    w.SameRouter (c.perform T w) := by
  cases c with
  | look => exact .refl w
  | put body o =>
    unfold Change.perform World.updateConfig
    dsimp only
    split
    · exact ⟨rfl, rfl, rfl, rfl, rfl, rfl⟩
    · split <;> exact ⟨rfl, rfl, rfl, rfl, rfl, rfl⟩
  | mode m o => cases m <;> exact ⟨rfl, rfl, rfl, rfl, rfl, rfl⟩
  | transport name o => exact ⟨rfl, rfl, rfl, rfl, rfl, rfl⟩

/-! ## Requests beside the loop -/

/-- The activity is one of the web server's. -/
def Activity.IsRequest (activity : Activity) : Prop := ∀ inputs, activity ≠ .loop inputs

namespace Task

theorem keeps_lockRead : lockRead.Keeps World.SameRouter :=
  keeps_await fun _ _ => ⟨rfl, rfl, rfl, rfl, rfl, rfl⟩

theorem keeps_dropRead : dropRead.Keeps World.SameRouter :=
  keeps_await fun _ _ => ⟨rfl, rfl, rfl, rfl, rfl, rfl⟩

theorem keeps_lockWrite : lockWrite.Keeps World.SameRouter :=
  keeps_await fun _ _ => ⟨rfl, rfl, rfl, rfl, rfl, rfl⟩

theorem keeps_dropWrite : dropWrite.Keeps World.SameRouter :=
  keeps_await fun _ _ => ⟨rfl, rfl, rfl, rfl, rfl, rfl⟩

theorem keeps_read {α : Type} (f : World → α) : (read f : Task α).Keeps World.SameRouter :=
  keeps_await fun w _ => .refl w

theorem keeps_modify {f : World → World} (h : ∀ w, World.SameRouter w (f w)) :
    (modify f : Task Unit).Keeps World.SameRouter := keeps_await fun w _ => h w

end Task

namespace Handler

theorem keeps_withConfig {α : Type} (f : BridgeConfig → α) :
    (withConfig f).Keeps World.SameRouter :=
  Task.keeps_lockRead.bind fun _ => (Task.keeps_read _).bind fun _ =>
    Task.keeps_dropRead.bind fun _ => trivial

theorem keeps_status (elapsed : Option UInt64) : (status elapsed).Keeps World.SameRouter :=
  (Task.keeps_read _).bind fun _ => Task.keeps_lockRead.bind fun _ =>
    (Task.keeps_read _).bind fun _ => (Task.keeps_read _).bind fun _ =>
    Task.keeps_dropRead.bind fun _ => trivial

theorem keeps_changeMode (T : Toml) (m : HubMode) (o : SaveOutcome) :
    (changeMode T m o).Keeps World.SameRouter := by
  have hstore : ∀ {f : World → World}, (∀ w, f w = { w with
      config := (f w).config, file := (f w).file, cloudHubUrl := (f w).cloudHubUrl,
      isEmbeddedHub := (f w).isEmbeddedHub }) → (modify f : Task Unit).Keeps World.SameRouter := by
    intro f hf
    apply Task.keeps_modify
    intro w
    rw [hf w]
    exact ⟨rfl, rfl, rfl, rfl, rfl, rfl⟩
  apply Task.keeps_lockWrite.bind
  intro _
  cases m with
  | embedded =>
    exact (Task.keeps_read _).bind fun _ => (hstore fun _ => rfl).bind fun _ =>
      (hstore fun _ => rfl).bind fun _ => (hstore fun _ => rfl).bind fun _ =>
      (hstore fun _ => rfl).bind fun _ => Task.keeps_dropWrite
  | cloud =>
    refine Keeps.bind (hstore fun w => ?_) fun _ => (hstore fun _ => rfl).bind fun _ =>
      (hstore fun _ => rfl).bind fun _ => Task.keeps_dropWrite
    cases w.cloudHubUrl <;> rfl

theorem keeps_hubModeSwitch (T : Toml) (mode : String) (o : SaveOutcome) :
    (hubModeSwitch T mode o).Keeps World.SameRouter := by
  apply (Task.keeps_read _).bind
  intro current
  split
  · trivial
  · exact (keeps_changeMode T _ o).bind fun _ => trivial

theorem keeps_updateConfig (T : Toml) (body : BridgeConfig) (o : SaveOutcome) :
    (updateConfig T body o).Keeps World.SameRouter :=
  Task.keeps_lockWrite.bind fun _ => Keeps.bind
    (keeps_await fun w _ => sameRouter_perform T (.put body o) w) fun _ =>
    Task.keeps_dropWrite.bind fun _ => trivial

end Handler

/-- No request touches what the loop works on. -/
theorem Activity.keeps (T : Toml) {activity : Activity} (h : activity.IsRequest) :
    (activity.task T).Keeps World.SameRouter := by
  cases activity with
  | status elapsed => exact (Handler.keeps_status elapsed).bind fun _ => trivial
  | getConfig => exact (Handler.keeps_withConfig _).bind fun _ => trivial
  | routerInfo => exact (Handler.keeps_withConfig _).bind fun _ => trivial
  | interfaces ifaces => exact (Handler.keeps_withConfig _).bind fun _ => trivial
  | getFdt listed =>
    refine Keeps.bind ?_ fun _ => trivial
    exact (Handler.keeps_withConfig _).bind fun _ => trivial
  | hubStatus => exact (Task.keeps_read _).bind fun _ => trivial
  | hubMode mode o => exact (Handler.keeps_hubModeSwitch T mode o).bind fun _ => trivial
  | updateConfig body o => exact (Handler.keeps_updateConfig T body o).bind fun _ => trivial
  | loop inputs => exact absurd rfl (h inputs)

/-- The loop on these inputs, before anything else has arrived. -/
def World.looping (w : World) (T : Toml) (inputs : List (Input × Outcomes)) : Activities :=
  ⟨w, [(.loop inputs, (Activity.loop inputs).task T)]⟩

/-- What is left of the loop does from `u` what the whole of it does alone from `w`, and
nobody else touches what it works on. -/
def Beside (T : Toml) (inputs : List (Input × Outcomes)) (w : World) (pool : Activities) : Prop :=
  ∃ p u requests, pool.tasks = (.loop inputs, p) :: requests ∧ pool.mem.SameRouter u ∧
    p.Follows World.SameRouter ∧ p.run u = ((Activity.loop inputs).task T).run w ∧
    ∀ t ∈ requests, t.2.Keeps World.SameRouter

section

variable {T : Toml} {inputs : List (Input × Outcomes)} {w w' : World} {pool pool' : Activities}
  {r : Except RunError Reply}

theorem Beside.step (h : Beside T inputs w pool)
    (hrun : ((Activity.loop inputs).task T).run w = some (r, w')) (hs : Monitor.Step pool pool') :
    Beside T inputs w pool' := by
  obtain ⟨p, u, requests, htasks, hu, hfollows, halone, hkeeps⟩ := h
  cases hs with
  | @run mem mem' before after l q q' next =>
    cases before with
    | nil =>
      obtain ⟨hl, rfl⟩ := List.cons.inj htasks
      obtain ⟨rfl, rfl⟩ := Prod.mk.inj hl
      obtain ⟨u', hu', halone', hfollows'⟩ := hfollows.next hu next (halone.trans hrun)
      exact ⟨q', u', after, rfl, hu', hfollows', halone'.trans hrun.symm, hkeeps⟩
    | cons first before =>
      obtain ⟨rfl, rfl⟩ := List.cons.inj htasks
      obtain ⟨hsame, hkept⟩ := (hkeeps (l, q) (by simp)).next next
      refine ⟨p, u, before ++ (l, q') :: after, rfl, hsame.symm.trans hu, hfollows, halone, ?_⟩
      intro t ht
      rcases List.mem_append.mp ht with hbefore | hrest
      · exact hkeeps t (List.mem_append_left _ hbefore)
      · rcases List.mem_cons.mp hrest with rfl | hafter
        · exact hkept
        · exact hkeeps t (List.mem_append_right _ (List.mem_cons_of_mem _ hafter))

/-- Requests arrive at any time beside the loop. -/
theorem Serves.beside (hrun : ((Activity.loop inputs).task T).run w = some (r, w'))
    (hpool : Serves T (fun _ => Activity.IsRequest) (w.looping T inputs) pool) :
    Beside T inputs w pool := by
  induction hpool with
  | start =>
    exact ⟨_, w, [], rfl, .refl w, (follows_turns T inputs).bind fun _ => trivial, rfl, by simp⟩
  | arrive _ hrequest ih =>
    obtain ⟨p, u, requests, htasks, hu, hfollows, halone, hkeeps⟩ := ih
    refine ⟨p, u, requests ++ [_], by rw [htasks]; rfl, hu, hfollows, halone, ?_⟩
    intro t ht
    rcases List.mem_append.mp ht with hold | hnew
    · exact hkeeps t hold
    · obtain rfl := List.mem_singleton.mp hnew
      exact Activity.keeps T hrequest
  | step _ hs ih => exact ih.step hrun hs

end

/-! ## The loop alone -/

section

variable {T : Toml} {inputs : List (Input × Outcomes)} {w w' : World}

/-- Alone the loop waits again after these inputs, or has ended with one of them. -/
theorem run_turns (h : Idle w) (inputs : List (Input × Outcomes)) :
    ∃ r w', (turns T inputs).run w = some (r, w') ∧
      (r = .ok .continue →
        Runs.after (Status.step T) (.waiting w) inputs = some (.waiting w')) := by
  induction inputs generalizing w with
  | nil => exact ⟨_, w, rfl, fun _ => rfl⟩
  | cons t inputs ih =>
    obtain ⟨i, o⟩ := t
    obtain ⟨s, hstep, hturn⟩ := turn_of_idle (T := T) h i o
    simp only [turns, run_bind]
    have hstep' := hstep
    simp only [Status.step] at hstep'
    split at hstep'
    · rename_i u hrun
      obtain rfl := Option.some.inj hstep'
      obtain ⟨r, w', hrest, hafter⟩ := ih (hturn.idle h)
      refine ⟨r, w', by simp [hrun, hrest], ?_⟩
      intro hr
      simp only [Runs.after, hstep, Option.bind_some]
      exact hafter hr
    · rename_i u hrun
      exact ⟨.ok .break, u, by simp [hrun], by simp⟩
    · rename_i e u hrun
      exact ⟨.error e, u, by simp [hrun], by simp⟩
    · cases hstep'

theorem step_waiting_iff {i : Input} {o : Outcomes} :
    Status.step T (.waiting w) (i, o) = some (.waiting w') ↔
      (handle T i o).run w = some (.ok .continue, w') := by
  constructor
  · intro h
    simp only [Status.step] at h
    split at h
    · rename_i u hrun
      obtain rfl := Status.waiting.inj (Option.some.inj h)
      exact hrun
    all_goals cases h
  · intro h
    simp only [Status.step, h]

theorem after_returned {r : Except RunError Unit} {inputs : List (Input × Outcomes)} :
    Runs.after (Status.step T) (.returned r w) inputs ≠ some (.waiting w') := by
  cases inputs <;> simp [Status.step]

theorem launched_store (w : World) (o : StartOutcome) : (w.launched o).store = w.store := by
  cases o <;> rfl

/-- A turn leaves the store as it was, but for its save. -/
theorem Turn.store {i : Input} {o : Outcomes} (h : Turn T w o i (.waiting w')) :
    w'.store = (savedBy i o).elim w.store fun c => c.apply T w.store := by
  cases h with
  | ignored c hexit hacts =>
    have hnone : savedBy (.command c) o = none := by
      cases c with
      | switchTransport mode => simpa [savedBy, World.Acts] using hacts
      | _ => rfl
    rw [hnone]
    rfl
  | stopped r => rfl
  | started => exact launched_store _ _
  | switched mode hm =>
    have hsaved : savedBy (.command (.switchTransport mode)) o = some (.transport mode o.save) := by
      simp [savedBy, hm]
    rw [hsaved, launched_store]
    unfold World.readied
    split <;> rfl

theorem idle_perform (h : Idle w) (c : Change) : Idle (c.perform T w) := by
  obtain ⟨hstate, hrunning, -, -, -, -⟩ := sameRouter_perform T c w
  have hlock : (c.perform T w).configLock = w.configLock := by
    cases c with
    | look => rfl
    | put body o => exact updateConfig_lock w T body o
    | mode m o => cases m <;> rfl
    | transport name o => rfl
  refine ⟨hlock.trans h.lock, ?_, ?_⟩
  · rw [hrunning, hstate]
    exact h.held
  · rw [hrunning, hstate]
    exact h.bare

/-! ## One thing at a time -/

/-- The changes of a history can be made between the turns, each save by the turn that
makes it. -/
theorem exists_deeds {history : List (Nat × Change)} {inputs : List (Input × Outcomes)}
    (h : ((history.filter (·.1 == 0)).map (·.2)).filter (· ≠ .look) =
      inputs.filterMap fun t => savedBy t.1 t.2) :
    ∃ deeds : List Deed, deeds.filterMap Deed.turn? = inputs ∧
      deeds.flatMap Deed.changes = (history.map (·.2)).filter (· ≠ .look) := by
  have hturns : ∀ {inputs : List (Input × Outcomes)}, (∀ t ∈ inputs, savedBy t.1 t.2 = none) →
      (inputs.map fun t => Deed.turn t.1 t.2).filterMap Deed.turn? = inputs ∧
        (inputs.map fun t => Deed.turn t.1 t.2).flatMap Deed.changes = [] := by
    intro inputs hnone
    constructor
    · rw [List.filterMap_map]
      exact List.filterMap_some
    · simp only [List.flatMap_map, List.flatMap_eq_nil_iff, Deed.changes]
      intro t ht
      rw [hnone t ht]
      rfl
  induction history generalizing inputs with
  | nil =>
    have hnone : ∀ t ∈ inputs, savedBy t.1 t.2 = none := List.filterMap_eq_nil_iff.mp h.symm
    obtain ⟨hmine, hchanges⟩ := hturns hnone
    exact ⟨_, hmine, hchanges⟩
  | cons entry history ih =>
    obtain ⟨n, c⟩ := entry
    by_cases hlook : c = .look
    · subst hlook
      have hrest : ((history.filter (·.1 == 0)).map (·.2)).filter (· ≠ .look) =
          inputs.filterMap fun t => savedBy t.1 t.2 := by
        by_cases hn : n = 0 <;> simpa [hn] using h
      simpa using ih hrest
    by_cases hn : n = 0
    · subst hn
      have hcons : inputs.filterMap (fun t => savedBy t.1 t.2) =
          c :: ((history.filter (·.1 == 0)).map (·.2)).filter (· ≠ .look) := by
        rw [← h]
        simp [hlook]
      obtain ⟨before, ⟨i, o⟩, after, rfl, hnone, hsave, hrest⟩ :=
        List.filterMap_eq_cons_iff.mp hcons
      obtain ⟨deeds, hmine, hchanges⟩ := ih hrest.symm
      obtain ⟨hmine', hchanges'⟩ := hturns hnone
      refine ⟨before.map (fun t => Deed.turn t.1 t.2) ++ .turn i o :: deeds, ?_, ?_⟩
      · rw [List.filterMap_append, hmine', List.filterMap_cons, hmine]
        rfl
      · rw [List.flatMap_append, hchanges', List.flatMap_cons, hchanges]
        have hsaved : Deed.changes (.turn i o) = [c] := congrArg Option.toList hsave
        simp [hsaved, hlook]
    · obtain ⟨deeds, hmine, hchanges⟩ := ih (by simpa [hn] using h)
      refine ⟨.change c :: deeds, by rw [List.filterMap_cons, hmine]; rfl, ?_⟩
      rw [List.flatMap_cons, hchanges]
      simp [Deed.changes, hlook]

/-- One thing at a time: the loop does what it does alone, and the store takes one change
after the other. -/
theorem run_deeds {deeds : List Deed} {u u' : World} (h : Idle w) (hu : Idle u)
    (hsame : w.SameRouter u)
    (hturns : Runs.after (Status.step T) (.waiting u) (deeds.filterMap Deed.turn?) =
      some (.waiting u')) :
    ∃ w', Runs.after (Deed.step T) (.waiting w) deeds = some (.waiting w') ∧ Idle w' ∧
      w'.SameRouter u' ∧
      w'.store = (deeds.flatMap Deed.changes).foldl (fun s c => c.apply T s) w.store := by
  induction deeds generalizing w u with
  | nil =>
    obtain rfl : u = u' := Status.waiting.inj (Option.some.inj hturns)
    exact ⟨w, rfl, h, hsame, rfl⟩
  | cons deed deeds ih =>
    cases deed with
    | change c =>
      have hchanged : (c.perform T w).SameRouter u := (sameRouter_perform T c w).symm.trans hsame
      obtain ⟨w', hrun, hidle, hsame', hstore⟩ := ih (idle_perform h c) hu hchanged hturns
      refine ⟨w', hrun, hidle, hsame', ?_⟩
      rw [hstore, Change.store_perform]
      rfl
    | turn i o =>
      simp only [List.filterMap_cons, Deed.turn?, Runs.after_cons, Option.bind_eq_some_iff]
        at hturns
      obtain ⟨s, hstep, hrest⟩ := hturns
      cases s with
      | returned r v => exact absurd hrest after_returned
      | waiting v =>
        obtain ⟨s', hstep', hturn⟩ := turn_of_idle (T := T) h i o
        obtain ⟨w₁, rfl, hsame₁⟩ : ∃ w₁, s' = .waiting w₁ ∧ w₁.SameRouter v := by
          have hrun := step_waiting_iff.mp hstep
          cases hmine : (handle T i o).run w with
          | none => simp [Status.step, hmine] at hstep'
          | some result =>
            obtain ⟨r, w₁⟩ := result
            obtain ⟨rfl, hsame₁⟩ := (made_handle T i o).follows.run hsame hmine hrun
            have hwaits := step_waiting_iff.mpr hmine
            exact ⟨w₁, Option.some.inj (hstep'.symm.trans hwaits), hsame₁⟩
        have hidle₁ := hturn.idle h
        have hidleᵤ := (step_turn hu hstep).idle hu
        obtain ⟨w', hrun, hidle, hsame', hstore⟩ := ih hidle₁ hidleᵤ hsame₁ hrest
        refine ⟨w', by simp [Deed.step, hstep', hrun], hidle, hsame', ?_⟩
        rw [hstore, hturn.store, List.flatMap_cons, List.foldl_append, Deed.changes]
        cases savedBy i o <;> rfl

theorem Turned.saves {i : Input} {o : Outcomes} {record : List (Change × Store)}
    (h : Turned i o record) :
    (record.map (·.1)).filter (· ≠ .look) = (savedBy i o).toList := by
  cases h with
  | nothing _ _ hnone => rw [hnone]; rfl
  | started => rfl
  | switched mode o s s' hm => simp [savedBy, hm]

theorem Looped.saves {record : List (Change × Store)} (h : Looped inputs record .continue) :
    (record.map (·.1)).filter (· ≠ .look) = inputs.filterMap fun t => savedBy t.1 t.2 := by
  generalize hflow : Flow.continue = flow at h
  induction h with
  | waits => rfl
  | turn hturned _ ih =>
    rw [List.map_append, List.filter_append, hturned.saves, ih hflow, List.filterMap_cons]
    split <;> rename_i hsave <;> rw [hsave] <;> rfl
  | ends => cases hflow

theorem apply_look (s : Store) : Change.apply T .look s = s := rfl

theorem replay_changes (s : Store) (history : List (Nat × Change)) :
    replay (Change.apply T) s history =
      ((history.map (·.2)).filter (· ≠ .look)).foldl (fun s c => c.apply T s) s := by
  induction history generalizing s with
  | nil => rfl
  | cons entry history ih =>
    change replay (Change.apply T) (entry.2.apply T s) history = _
    rw [ih]
    by_cases hlook : entry.2 = .look <;> simp [hlook, apply_look]

theorem Serves.from_alone {pool : Activities}
    (hpool : Serves T (fun _ => Activity.IsRequest) (w.looping T inputs) pool) :
    Serves T (fun _ _ => True) w.alone pool := by
  induction hpool with
  | start => exact Monitor.Reachable.start.arrive trivial
  | arrive _ _ ih => exact ih.arrive trivial
  | step _ hs ih => exact ih.step hs

end

/-- However requests and the loop interleave, lock by lock: once the loop waits and the
lock is free, the memory is what comes of the same turns and the same changes done one at a
time. The turns come in the order of the loop's inputs, and the changes in the order that
also explains every reply. -/
theorem interleavings_are_serial {a : Launch} {T : Toml} {w : World}
    (h : a.begin T = some (.waiting w)) {inputs : List (Input × Outcomes)} {pool : Activities}
    (hpool : Serves T (fun _ => Activity.IsRequest) (w.looping T inputs) pool)
    (hwaits : pool.tasks[0]? = some (.loop inputs, .pure (.looped .continue)))
    (hfree : pool.mem.configLock = .free) :
    ∃ history deeds, Explains T w.store history pool ∧ deeds.filterMap Deed.turn? = inputs ∧
      deeds.flatMap Deed.changes = (history.map (·.2)).filter (· ≠ .look) ∧
      Runs.after (Deed.step T) (.waiting w) deeds = some (.waiting pool.mem) := by
  have hidle := a.idle h
  obtain ⟨history, hrecorded⟩ := hpool.from_alone.recorded h
  have hexplains := hrecorded.explains
  obtain ⟨r, u, hrun, hafter⟩ := run_turns (T := T) hidle inputs
  -- The loop has done alone what it did among the requests.
  have hloop : ((Activity.loop inputs).task T).run w =
      some (r.map .looped, u) := by
    cases r <;> simp [Activity.task, run_bind, hrun, Except.map]
  obtain ⟨p, v, requests, htasks, hv, -, halone, -⟩ := hpool.beside hloop
  rw [htasks, List.getElem?_cons_zero] at hwaits
  obtain rfl : p = .pure (.looped .continue) := (Prod.mk.inj (Option.some.inj hwaits)).2
  obtain ⟨hr, rfl⟩ := Prod.mk.inj (Option.some.inj (halone.trans hloop))
  have hcontinue : r = .ok .continue := by
    cases r with
    | ok flow =>
      cases hr
      rfl
    | error e => cases hr
  -- Its saves are in the history in the order of its turns.
  have hanswer := hexplains.replies 0 (.loop inputs) _ (by rw [htasks]; rfl)
  have hsaves : ((history.filter (·.1 == 0)).map (·.2)).filter (· ≠ .look) =
      inputs.filterMap fun t => savedBy t.1 t.2 := by
    have hmap : (found (Change.apply T) w.store history 0).map (·.1) =
        (history.filter (·.1 == 0)).map (·.2) := map_found w.store history 0
    rw [← hmap]
    cases hanswer with
    | loop _ _ _ hlooped => exact hlooped.saves
  obtain ⟨deeds, hmine, hchanges⟩ := exists_deeds hsaves
  obtain ⟨w', hdeeds, hidle', hsame, hstore⟩ :=
    run_deeds hidle hidle (.refl w) (hmine ▸ hafter hcontinue)
  refine ⟨history, deeds, hexplains, hmine, hchanges, ?_⟩
  have hmem : w'.SameRouter pool.mem := hsame.trans hv.symm
  rw [hdeeds, hmem.eq (hfree.trans hidle'.lock.symm)]
  rw [hexplains.store (by rw [hfree]; rfl), hstore, hchanges, replay_changes]

/-- A configuration is put while a switch of the transport is under way, between its save
and its call of `start_router`. -/
theorem put_within_a_switch : ∃ w pool history deeds,
    (hubLaunch false).begin hubToml = some (.waiting w) ∧
    Serves hubToml (fun _ => Activity.IsRequest) (w.looping hubToml [toSc]) pool ∧
    pool.mem.config = hubConfig embeddedHubUrl ∧
    Explains hubToml w.store history pool ∧ deeds.filterMap Deed.turn? = [toSc] ∧
    Runs.after (Deed.step hubToml) (.waiting w) deeds = some (.waiting pool.mem) := by
  obtain ⟨w, pool, hw, hpool, hconfig, hwaits, hfree⟩ : ∃ w pool,
      (hubLaunch false).begin hubToml = some (.waiting w) ∧
      Serves hubToml (fun _ => Activity.IsRequest) (World.looping w hubToml [toSc]) pool ∧
      pool.mem.config = hubConfig embeddedHubUrl ∧
      pool.tasks[0]? = some (.loop [toSc], .pure (.looped .continue)) ∧
      pool.mem.configLock = .free := by
    have hstart : ∀ w, Serves hubToml (fun _ => Activity.IsRequest)
        (World.looping w hubToml [toSc]) (w.looping hubToml [toSc]) := fun _ => .start
    -- The switch goes on until it has let go of the write lock.
    have hsaved := ((((((((hstart (((hubLaunch false).entered (hubConfig cloudUrl)
      (.text (hubText cloudUrl)) none).launched (.ok none))).tick rfl).tick rfl).tick rfl).tick
      rfl).tick rfl).tick rfl).tick rfl).tick rfl
    have hput := hsaved.undisturbed (.updateConfig (hubConfig embeddedHubUrl) .written)
      (fun _ h => by cases h) rfl
    exact ⟨_, _, begin_hubLaunch false, hput.finish rfl, rfl, rfl, rfl⟩
  obtain ⟨history, deeds, hexplains, hmine, -, hrun⟩ :=
    interleavings_are_serial hw hpool hwaits hfree
  exact ⟨w, pool, history, deeds, hw, hpool, hconfig, hexplains, hmine, hrun⟩

end BacnetBridge
