import BacnetBridge.Persist
import BacnetBridge.Web

/-! Whether a stopped router stays stopped, when requests are checked in one
place and acted on in another. -/
namespace BacnetBridge

open Prog

/-- What a completed start or stop leaves the lifecycle at. -/
def Event.outcome : Event → Option AppState
  | .started _ => some .running
  | .startFailed => some .starting
  | .stoppedViaCommand => some .stopped
  | _ => none

/-- How the last start or stop of a log ended. -/
def lastOutcome (log : List Event) : Option AppState := (log.filterMap Event.outcome).getLast?

/-- After every executed `Stop` a `Start` was taken up that had been accepted
after that `Stop`. -/
def StopsAnswered (log : List Event) : Prop :=
  ∀ i, log[i]? = some Event.stoppedViaCommand →
    ∃ k n, i < k ∧ log[k]? = some (Event.received ⟨.start, n⟩) ∧ i < n

/-- What the events so far must be for the next one. -/
def Allows (log : List Event) : Event → Prop
  | .switching _ => published log = .running
  | .startCalled => StopsAnswered log
  | _ => True

/-- A switch acts only while `Running` is published, and `start_router` is called
only when every executed `Stop` has been answered. -/
def StaysStopped (log : List Event) : Prop :=
  ∀ before e, before ++ [e] <+: log → Allows before e

/-- `Running` is published only after a start that succeeded. -/
def Backed (log : List Event) : Prop :=
  ∀ before, before <+: log → published before = .running → lastOutcome before = some .running

/-- A `Start` or a switch is fresh when nothing has ended since its check that
would have made the check fail. -/
def Request.Fresh (r : Request) (log : List Event) : Prop :=
  match r.command with
  | .switchTransport _ => ∀ s, lastOutcome (log.drop r.acceptedAt) = some s → s = .running
  | .start => lastOutcome (log.drop r.acceptedAt) ≠ some .stopped
  | _ => True

/-- Whatever command the loop takes up is fresh. -/
def Sys.Fresh : Sys → Sys.Input → Prop
  | s, .receive _ => ∀ r, s.queue.head? = some r → r.Fresh s.loop.world.log
  | _, _ => True

@[simp] theorem lastOutcome_nil : lastOutcome [] = none := rfl

@[simp] theorem lastOutcome_cons (e : Event) (es : List Event) :
    lastOutcome (e :: es) = (lastOutcome es).or e.outcome := by
  cases h : e.outcome <;> simp [lastOutcome, List.getLast?_cons, h]

theorem lastOutcome_append (log es : List Event) :
    lastOutcome (log ++ es) = (lastOutcome es).or (lastOutcome log) := by
  simp [lastOutcome, List.getLast?_append]

theorem StopsAnswered.append {log es : List Event} (h : StopsAnswered log)
    (hes : Event.stoppedViaCommand ∉ es) : StopsAnswered (log ++ es) := by
  intro i hi
  rw [List.getElem?_append] at hi
  split at hi
  · obtain ⟨k, n, hk, hr, hn⟩ := h i hi
    have hlt : k < log.length := (List.getElem?_eq_some_iff.mp hr).1
    exact ⟨k, n, hk, by rwa [List.getElem?_append_left hlt], hn⟩
  · exact absurd (List.mem_of_getElem? hi) hes

/-- A `Start` accepted after every executed `Stop` answers them all. -/
theorem StopsAnswered.of_received {log : List Event} {n : Nat}
    (h : Event.stoppedViaCommand ∉ log.drop n) :
    StopsAnswered (log ++ [.received ⟨.start, n⟩]) := by
  intro i hi
  rw [List.getElem?_append] at hi
  split at hi
  · rename_i hlt
    refine ⟨log.length, n, hlt, by simp, ?_⟩
    by_contra hle
    apply h
    apply List.mem_of_getElem? (i := i - n)
    rwa [List.getElem?_drop, Nat.add_sub_cancel' (Nat.le_of_not_lt hle)]
  · have hmem := List.mem_of_getElem? hi
    simp at hmem

theorem StaysStopped.earlier {log log' : List Event} (h : StaysStopped log') (hp : log <+: log') :
    StaysStopped log := fun before e he => h before e (he.trans hp)

theorem Backed.earlier {log log' : List Event} (h : Backed log') (hp : log <+: log') : Backed log :=
  fun before he => h before (he.trans hp)

/-- Each further event is judged by the log before it. -/
theorem staysStopped_snoc {log : List Event} {e : Event} :
    StaysStopped (log ++ [e]) ↔ StaysStopped log ∧ Allows log e := by
  constructor
  · intro h
    exact ⟨h.earlier (List.prefix_append ..), h log e List.prefix_rfl⟩
  · rintro ⟨h, he⟩ before e' hp
    rcases List.prefix_concat_iff.mp hp with heq | hp
    · obtain ⟨rfl, hlast⟩ := List.append_inj' heq rfl
      obtain rfl : e' = e := by simpa using hlast
      exact he
    · exact h before e' hp

theorem backed_snoc {log : List Event} {e : Event} :
    Backed (log ++ [e]) ↔ Backed log ∧
      (published (log ++ [e]) = .running → lastOutcome (log ++ [e]) = some .running) := by
  constructor
  · intro h
    exact ⟨h.earlier (List.prefix_append ..), h _ List.prefix_rfl⟩
  · rintro ⟨h, he⟩ before hp
    rcases List.prefix_concat_iff.mp hp with rfl | hp
    · exact he
    · exact h before hp

/-- Further events, each judged by the log before it. -/
def Judged : List Event → List Event → Prop
  | _, [] => True
  | log, e :: es => Allows log e ∧
      (published (log ++ [e]) = .running → lastOutcome (log ++ [e]) = some .running) ∧
      Judged (log ++ [e]) es

/-- What holds of the memory between any two steps. -/
structure Traced (w : World) : Prop where
  current : published w.log = w.state
  backed : Backed w.log
  stays : StaysStopped w.log

/-- What also holds when the loop waits, and when a turn begins. -/
structure Settled (w : World) : Prop extends Traced w where
  idle : Idle w
  outcome : lastOutcome w.log = some w.state
  answered : w.state ≠ .stopped → StopsAnswered w.log

theorem judged_append {log es : List Event} (hb : Backed log) (hs : StaysStopped log)
    (h : Judged log es) : Backed (log ++ es) ∧ StaysStopped (log ++ es) := by
  induction es generalizing log with
  | nil => simpa using ⟨hb, hs⟩
  | cons e es ih =>
    obtain ⟨ha, hp, hrest⟩ := h
    simpa using ih (backed_snoc.mpr ⟨hb, hp⟩) (staysStopped_snoc.mpr ⟨hs, ha⟩) hrest

theorem Traced.append {w w' : World} (h : Traced w) {es : List Event} (hlog : w'.log = w.log ++ es)
    (hj : Judged w.log es) (hc : published w'.log = w'.state) : Traced w' := by
  obtain ⟨hb, hs⟩ := judged_append h.backed h.stays hj
  exact ⟨hc, hlog ▸ hb, hlog ▸ hs⟩

theorem Traced.halted {w : World} (h : Traced w) (r : RunningRouter) : Traced (w.halted r) := by
  apply h.append rfl
  · simp [Judged, Allows, published_append]
  · simp [World.halted, published_append]

theorem Traced.announced {w : World} (h : Traced w) : Traced w.announced := by
  apply h.append rfl
  · simp [Judged, Allows, published_append]
  · simp [World.announced, World.emit, published_append]

theorem Traced.launched {w : World} (h : Traced w) (hs : w.state = .starting)
    (ha : StopsAnswered w.log) (o : StartOutcome) : Traced (w.launched o) := by
  have hc := h.current
  cases o with
  | ok b =>
    apply h.append rfl
    · simp [Judged, Allows, published_append, hc, hs, ha, lastOutcome_append,
        Event.outcome]
    · simp [World.launched, published_append]
  | err e =>
    apply h.append rfl
    · simp [Judged, Allows, published_append, hc, hs, ha]
    · simp [World.launched, published_append, hc]

theorem Traced.saved {w : World} (h : Traced w) (T : Toml) (mode : String) (o : SaveOutcome) :
    Traced (w.saved T mode o) := ⟨h.current, h.backed, h.stays⟩

/-- After `start_router` every executed `Stop` is still answered. -/
theorem settled_launched {w : World} (h : Traced w) (hl : w.configLock = .free)
    (hr : w.running = none) (hs : w.state = .starting) (ha : StopsAnswered w.log)
    (o : StartOutcome) : Settled (w.launched o) := by
  refine ⟨h.launched hs ha o, idle_launched hl hr hs o, ?_, fun _ => ?_⟩
  · cases o <;>
      simp [World.launched, lastOutcome_append, Event.outcome, hs]
  · cases o <;> exact ha.append (by simp)

/-- A command has been taken up: nothing that a turn begins with has changed. -/
theorem Settled.received {w : World} (h : Settled w) (r : Request) :
    Settled (w.emit (.received r)) := by
  have hc := h.current
  have ho := h.outcome
  refine ⟨h.toTraced.append rfl ?_ ?_, ⟨h.idle.lock, h.idle.held, h.idle.bare⟩, ?_, fun hs => ?_⟩
  · have hb := h.backed w.log List.prefix_rfl
    simpa [Judged, Allows, published_append, lastOutcome_append, Event.outcome] using hb
  · simpa [World.emit, published_append] using hc
  · simpa [World.emit, lastOutcome_append, Event.outcome] using ho
  · exact (h.answered hs).append (by simp)

/-- What a fresh command finds: a switch finds the router running, and a start
that acts finds every `Stop` answered. -/
def Ready (w : World) : Input → Prop
  | .command (.switchTransport _) => w.state = .running
  | .command .start => StopsAnswered w.log
  | _ => True

/-- An event that says nothing of the lifecycle and needs nothing. -/
theorem Traced.emit {w : World} (h : Traced w) {e : Event} (hallows : Allows w.log e)
    (hp : published (w.log ++ [e]) = published w.log) (ho : e.outcome = none) :
    Traced (w.emit e) := by
  have hb := h.backed w.log List.prefix_rfl
  refine h.append rfl ⟨hallows, fun hrun => ?_, trivial⟩ (hp.trans h.current)
  simpa [lastOutcome_append, ho] using hb (hp ▸ hrun)

theorem Traced.leave {w : World} (h : Traced w) : Traced w.leave := by
  have hleft : ∀ w : World, Traced w → Traced (w.emit .left) := fun w h =>
    h.emit trivial (by simp [published_append]) rfl
  unfold World.leave
  split
  · exact hleft w h
  · rename_i r hr
    refine hleft _ (Traced.emit (w := { w with running := none }) ⟨h.current, h.backed, h.stays⟩
      trivial (by simp [published_append]) rfl)

theorem Settled.stopped {w : World} (h : Settled w) (r : RunningRouter) :
    Settled ((w.halted r).emit .stoppedViaCommand) := by
  have ht := h.toTraced.halted r
  refine ⟨ht.append rfl ?_ ?_, ⟨h.idle.lock, by simp [World.emit, World.halted],
    fun _ => .inl rfl⟩, ?_, fun hs => absurd rfl hs⟩
  · simp [Judged, Allows, published_append, World.halted]
  · simp [World.emit, published_append, World.halted]
  · simp [World.emit, lastOutcome_append, Event.outcome, World.halted]

theorem Settled.started {w : World} (h : Settled w) (hr : w.running = none)
    (ha : StopsAnswered w.log) (o : StartOutcome) : Settled (w.announced.launched o) :=
  settled_launched h.toTraced.announced h.idle.lock hr rfl (ha.append (by simp)) o

/-- A switch that finds the router running. -/
theorem Settled.switched {w : World} (h : Settled w) (hs : w.state = .running) (T : Toml)
    (mode : String) (o : Outcomes) : Settled ((w.readied T mode o.save).launched o.start) := by
  obtain ⟨r, hr⟩ : ∃ r, w.running = some r := by
    rcases h.idle.cases with ⟨r, hr, -⟩ | ⟨-, hs'⟩ | ⟨-, hs'⟩
    · exact ⟨r, hr⟩
    all_goals simp [hs] at hs'
  have hsw : Traced (w.emit (.switching mode)) :=
    h.toTraced.emit (h.current.trans hs) (by simp [published_append]) rfl
  have hready : w.readied T mode o.save =
      (((w.emit (.switching mode)).halted r).saved T mode o.save).announced := by
    simp [World.readied, hr]
  rw [hready]
  refine settled_launched ((hsw.halted r).saved T mode o.save).announced h.idle.lock rfl rfl ?_
    o.start
  have ha : StopsAnswered (w.log ++ [.switching mode, .published .stopping, .stopped r.id,
      .published .stopped, .published .starting]) :=
    (h.answered (by simp [hs])).append (by simp)
  simpa [World.announced, World.saved, World.halted, World.emit] using ha

theorem Turn.settled {T : Toml} {w : World} {o : Outcomes} {i : Input} {s : Status}
    (h : Settled w) (hi : Ready w i) (ht : Turn T w o i s) :
    Traced s.world ∧ ∀ w', s = .waiting w' → Settled w' := by
  have hwaiting : ∀ w', Settled w' →
      Traced w' ∧ ∀ w'', Status.waiting w' = .waiting w'' → Settled w'' := fun w' h' =>
    ⟨h'.toTraced, fun w'' heq => Status.waiting.inj heq ▸ h'⟩
  cases ht with
  | ignored => exact hwaiting _ h
  | stopped r hr hs => exact hwaiting _ (h.stopped r)
  | started hr hs => exact hwaiting _ (h.started hr hi o.start)
  | switched mode hm => exact hwaiting _ (h.switched hi T mode o)
  | shutDown i r hio hr hs => exact ⟨(h.toTraced.halted r).leave, by simp⟩
  | refused i hio hr hs => exact ⟨h.toTraced.leave, by simp⟩

/-! ## Between check and use -/

/-- What the check of a request saw, as far as the log goes back to it. -/
structure Request.Gated (r : Request) (log : List Event) : Prop where
  bound : r.acceptedAt ≤ log.length
  running : ∀ mode, r.command = .switchTransport mode →
    published (log.take r.acceptedAt) = .running

theorem Request.Gated.grow {r : Request} {log log' : List Event} (h : r.Gated log)
    (hp : log <+: log') : r.Gated log' := by
  obtain ⟨es, rfl⟩ := hp
  refine ⟨by simp; have := h.bound; omega, ?_⟩
  intro mode hm
  rw [List.take_append_of_le_length h.bound]
  exact h.running mode hm

/-- A handler that passes its checks has seen the state they ask for. -/
theorem Call.gated {c : Call} {w : World} {a : Accepted} (h : published w.log = w.state)
    (hc : c.check true w.state = .ok a) :
    Request.Gated ⟨a.command, w.log.length⟩ w.log := by
  constructor
  · exact Nat.le_refl _
  · intro mode hm
    rw [List.take_length, h]
    rcases Call.check_ok hc with ⟨hstart, -⟩ | ⟨-, hrun⟩
    · simp [hstart] at hm
    · exact hrun

theorem lastOutcome_ne_none {es : List Event} {e : Event} (he : e ∈ es) (ho : e.outcome ≠ none) :
    lastOutcome es ≠ none := by
  intro h
  have hnil : es.filterMap Event.outcome = [] := List.getLast?_eq_none_iff.mp h
  exact ho (List.filterMap_eq_nil_iff.mp hnil e he)

/-- A fresh command is taken up in a state in which it does no harm. -/
theorem Request.Fresh.ready {r : Request} {w : World} (h : Settled w) (hg : r.Gated w.log)
    (hf : r.Fresh w.log) : Ready (w.emit (.received r)) (.command r.command) := by
  have hlast : (lastOutcome (w.log.drop r.acceptedAt)).or
      (lastOutcome (w.log.take r.acceptedAt)) = some w.state := by
    rw [← lastOutcome_append, List.take_append_drop]
    exact h.outcome
  obtain ⟨command, n⟩ := r
  cases command with
  | stop | exit => trivial
  | switchTransport mode =>
    have hseen := h.backed _ (List.take_prefix n w.log) (hg.running mode rfl)
    change w.state = .running
    cases hd : lastOutcome (w.log.drop n) with
    | none => simpa [hd, hseen, eq_comm] using hlast
    | some s =>
      have hs : s = .running := hf s hd
      simpa [hd, hs, eq_comm] using hlast
  | start =>
    by_cases hs : w.state = .stopped
    · cases hd : lastOutcome (w.log.drop n) with
      | none => exact .of_received fun hmem => lastOutcome_ne_none hmem (by simp [Event.outcome]) hd
      | some s =>
        have hfresh : s ≠ .stopped := fun hs => hf (by rw [hd, hs])
        exact absurd (by simpa [hd, hs] using hlast) hfresh
    · exact (h.answered hs).append (by simp)

/-- A turn in progress can be seen through to its end, which is in order. -/
def InTurn (p : Task Flow) (w : World) : Prop :=
  ∃ r w', p.run w = some (r, w') ∧ p.Keeps World.Grows ∧ Backed w'.log ∧ StaysStopped w'.log ∧
    (r = .ok .continue → Settled w')

theorem leave_grows (w : World) : w.log <+: w.leave.log := by
  unfold World.leave
  split <;> simp [World.emit]

theorem inTurn_handle {T : Toml} {w : World} {i : Input} (h : Settled w) (hi : Ready w i)
    (o : Outcomes) : InTurn (handle T i o) w := by
  obtain ⟨s, hstep, hturn⟩ := turn_of_idle (T := T) h.idle i o
  obtain ⟨ht, hwait⟩ := hturn.settled h hi
  simp only [Status.step] at hstep
  split at hstep
  all_goals cases hstep
  · rename_i w' hrun
    exact ⟨_, w', hrun, grows_handle T i o, ht.backed, ht.stays, fun _ => hwait w' rfl⟩
  all_goals
    rename_i w' hrun
    have hp : w'.log <+: w'.leave.log := leave_grows w'
    exact ⟨_, w', hrun, grows_handle T i o, ht.backed.earlier hp, ht.stays.earlier hp, by simp⟩

def Loop.Sound (l : Loop) : Prop :=
  match l.task with
  | none => Settled l.world
  | some p => InTurn p l.world

/-- One atomic step of a turn keeps what holds between any two steps. -/
theorem InTurn.next {p q : Task Flow} {w w' : World} (h : InTurn p w) (ht : Traced w)
    (hn : p.next w = some (q, w')) : InTurn q w' ∧ Traced w' ∧ w.log <+: w'.log := by
  obtain ⟨r, wf, hrun, hkeeps, hb, hst, hsettled⟩ := h
  obtain ⟨hgrows, hkeeps'⟩ := hkeeps.next hn
  have hrun' : q.run w' = some (r, wf) := (run_next hn).trans hrun
  have hp : w'.log <+: wf.log := (hkeeps'.run World.Grows.refl World.Grows.trans hrun').log
  exact ⟨⟨r, wf, hrun', hkeeps', hb, hst, hsettled⟩,
    ⟨hgrows.published ht.current, hb.earlier hp, hst.earlier hp⟩, hgrows.log⟩

/-- A turn that is over leaves the loop waiting. -/
theorem InTurn.settled {w : World} (h : InTurn (.pure .continue) w) : Settled w := by
  obtain ⟨r, wf, hrun, -, -, -, hsettled⟩ := h
  obtain ⟨rfl, rfl⟩ : .ok .continue = r ∧ w = wf := by simpa [run] using hrun
  exact hsettled rfl

theorem Loop.tick_sound {l l' : Loop} (h : l.Sound) (ht : Traced l.world) (hs : l.tick = some l') :
    l'.Sound ∧ Traced l'.world ∧ l.world.log <+: l'.world.log := by
  obtain ⟨w, task⟩ := l
  unfold tick at hs
  split at hs
  · cases hs
  · rename_i htask
    obtain rfl : task = _ := htask
    cases hs
    exact ⟨InTurn.settled h, ht, List.prefix_rfl⟩
  · rename_i p _ htask
    obtain rfl : task = _ := htask
    obtain ⟨⟨q, w'⟩, hn, rfl⟩ := Option.map_eq_some_iff.mp hs
    exact InTurn.next h ht hn

/-- What holds in every state of the whole system. -/
structure Sys.Sound (s : Sys) : Prop where
  traced : Traced s.loop.world
  gated : ∀ r ∈ s.accepted ++ s.queue, r.Gated s.loop.world.log
  loop : s.loop.Sound

theorem Loop.wake_sound {T : Toml} {l l' : Loop} {i : Input} {o : Outcomes}
    (hw : l.wake T i o = some l') (h : Settled l.world) (hi : Ready l.world i) :
    l'.Sound ∧ l'.world = l.world := by
  obtain ⟨-, rfl⟩ := Loop.wake_some hw
  exact ⟨inTurn_handle h hi o, rfl⟩

theorem Loop.Sound.of_wake {T : Toml} {l l' : Loop} {i : Input} {o : Outcomes} {w : World}
    (hw : Loop.wake T { l with world := w } i o = some l') (h : l.Sound) : Settled l.world := by
  obtain ⟨hidle, -⟩ := Loop.wake_some hw
  unfold Loop.Sound at h
  rwa [show l.task = none from hidle] at h

/-- The commands on their way are the same ones, in whatever order. -/
theorem Sys.Sound.moved {s s' : Sys} (h : s.Sound) (hl : s'.loop = s.loop)
    (hm : ∀ r ∈ s'.accepted ++ s'.queue, r ∈ s.accepted ++ s.queue) : s'.Sound :=
  ⟨hl ▸ h.traced, fun r hr => hl ▸ h.gated r (hm r hr), hl ▸ h.loop⟩

theorem Sys.Sound.request {s : Sys} (h : s.Sound) {c : Call} {a : Accepted}
    (hc : c.check true s.loop.world.state = .ok a) : Sys.Sound
      { s with accepted := s.accepted ++ [⟨a.command, s.loop.world.log.length⟩] } := by
  refine ⟨h.traced, fun r hr => ?_, h.loop⟩
  have hmem : r ∈ s.accepted ++ s.queue ∨ r = ⟨a.command, s.loop.world.log.length⟩ := by
    simp only [List.mem_append, List.mem_singleton] at hr ⊢
    tauto
  rcases hmem with hmem | rfl
  · exact h.gated r hmem
  · exact Call.gated h.traced.current hc

theorem Sys.Sound.receive {T : Toml} {s : Sys} (h : s.Sound) {r : Request} {queue : List Request}
    {o : Outcomes} (hq : s.queue = r :: queue) (hf : r.Fresh s.loop.world.log) {l : Loop}
    (hw : Loop.wake T { s.loop with world := s.loop.world.emit (.received r) }
      (.command r.command) o = some l) : Sys.Sound { s with loop := l, queue } := by
  have hsettled := h.loop.of_wake hw
  have hready := hf.ready hsettled (h.gated r (by simp [hq]))
  obtain ⟨hsound, hworld⟩ := Loop.wake_sound hw (hsettled.received r) hready
  refine ⟨hworld ▸ (hsettled.received r).toTraced, fun r' hr' => ?_, hsound⟩
  have hmem : r' ∈ s.accepted ++ s.queue := by
    simp only [hq, List.mem_append, List.mem_cons] at hr' ⊢
    tauto
  rw [hworld]
  exact (h.gated r' hmem).grow (List.prefix_append ..)

/-- No step of any party breaks what holds, as long as what the loop takes up
is fresh. -/
theorem Sys.step_sound {T : Toml} {s s' : Sys} {i : Sys.Input} (h : s.Sound) (hf : s.Fresh i)
    (hs : s.step T i = some s') : s'.Sound := by
  cases i with
  | request c =>
    simp only [step] at hs
    split at hs
    · cases hs
      exact h
    · rename_i a hc
      cases hs
      exact h.request hc
  | send n =>
    simp only [step] at hs
    split at hs
    · cases hs
    · rename_i r hr
      split at hs
      · cases hs
        refine h.moved rfl ?_
        intro r' hr'
        have herase := fun hm => List.mem_of_mem_eraseIdx (l := s.accepted) (i := n) (a := r') hm
        have hget := List.mem_of_getElem? hr
        simp only [List.mem_append, List.mem_singleton] at hr' ⊢
        rcases hr' with hr' | hr' | rfl
        · exact .inl (herase hr')
        · exact .inr hr'
        · exact .inl hget
      · cases hs
  | receive o =>
    simp only [step] at hs
    split at hs
    · cases hs
    · rename_i r queue hq
      obtain ⟨l, hw, rfl⟩ := Option.map_eq_some_iff.mp hs
      exact h.receive hq (hf r (by simp [hq])) hw
  | interrupt o =>
    obtain ⟨l, hw, rfl⟩ := Option.map_eq_some_iff.mp hs
    have hsettled := Loop.Sound.of_wake (w := s.loop.world) hw h.loop
    obtain ⟨hsound, hworld⟩ := Loop.wake_sound hw hsettled trivial
    exact ⟨hworld ▸ h.traced, fun r hr => hworld ▸ h.gated r hr, hsound⟩
  | tick =>
    obtain ⟨l, ht, rfl⟩ := Option.map_eq_some_iff.mp hs
    obtain ⟨hsound, htraced, hp⟩ := Loop.tick_sound h.loop h.traced ht
    exact ⟨htraced, fun r hr => (h.gated r hr).grow hp, hsound⟩

theorem Launch.traced_world (a : Launch) (config : BridgeConfig) (file : File) :
    Traced (a.world config file) := by
  refine ⟨rfl, fun before hp => ?_, fun before e hp => ?_⟩
  · obtain rfl := List.prefix_nil.mp hp
    simp [published]
  · have hnil := List.prefix_nil.mp hp
    simp at hnil

theorem Launch.settled {a : Launch} {T : Toml} {w : World} (h : a.begin T = some (.waiting w)) :
    Settled w := by
  obtain ⟨config, file, localAddr, -, -, rfl⟩ := a.begin_waiting h
  obtain ⟨hl, hr, hs⟩ := a.entered_ready config file localAddr
  have hw := (a.traced_world config file).announced
  have ht : Traced (a.entered config file localAddr) := by
    unfold entered
    split
    · exact ⟨hw.current, hw.backed, hw.stays⟩
    · exact hw
  have hlog : (a.entered config file localAddr).log = [.published .starting] := by
    unfold entered
    split <;> rfl
  refine settled_launched ht hl hr hs ?_ a.start
  rw [hlog]
  have hnil : StopsAnswered [] := by simp [StopsAnswered]
  exact hnil.append (by simp)

/-- In every interleaving of requests, handlers and loop in which each command is
fresh when the loop takes it up, a stopped router stays stopped. -/
theorem stays_stopped_when_fresh {a : Launch} {T : Toml} {w : World}
    (h : a.begin T = some (.waiting w)) (inputs : List Sys.Input)
    (hf : Runs.Each (Sys.step T) (.start w) inputs Sys.Fresh) :
    Runs.Always (Sys.step T) (.start w) inputs fun s => StaysStopped s.loop.world.log := by
  have hsettled := a.settled h
  have hstart : (Sys.start w).Sound := ⟨hsettled.toTraced, by simp [Sys.start], hsettled⟩
  have hsound : Runs.Always (Sys.step T) (.start w) inputs Sys.Sound :=
    Runs.always_of_permitted (fun _ _ _ hs hi ht => Sys.step_sound hs hi ht) hstart hf
  exact fun seen hp t ht => (hsound seen hp t ht).traced.stays

/-- A switch is accepted and taken up while the router runs. -/
theorem stays_stopped_up_to_a_switch :
    ∃ w, (hubLaunch false).begin hubToml = some (.waiting w) ∧
      Runs.Always (Sys.step hubToml) (.start w)
        [.request (.switch "sc"), .send 0, .receive ⟨.ok none, .written⟩, .tick]
        fun s => StaysStopped s.loop.world.log := by
  refine ⟨_, begin_hubLaunch false, stays_stopped_when_fresh (begin_hubLaunch false) _ ?_⟩
  simp only [Runs.each_cons]
  refine ⟨trivial, fun s₁ h₁ => ⟨trivial, fun s₂ h₂ => ⟨?_, fun s₃ _ => ⟨trivial, fun _ _ =>
    Runs.each_nil⟩⟩⟩⟩
  cases h₁
  cases h₂
  rintro r hr
  cases hr
  intro s hs
  cases hs

/-- `Stop` and then a switch are accepted while the router runs, and taken up
one after the other. -/
def race : List Sys.Input :=
  [.request .stop, .request (.switch "sc"), .send 0, .send 0, .receive ⟨.ok none, .written⟩] ++
    .replicate 7 .tick ++ [.receive ⟨.ok none, .written⟩] ++ .replicate 14 .tick

/-- The switch finds the router stopped and starts it, though no `Start` was
ever requested. -/
theorem queued_switch_restarts :
    ∃ w s, (hubLaunch false).begin hubToml = some (.waiting w) ∧
      Runs.after (Sys.step hubToml) (.start w) race = some s ∧
      s.loop.world.log.drop 8 = [.stoppedViaCommand, .received ⟨.switchTransport "sc", 4⟩,
        .switching "sc", .published .starting, .startCalled, .started 1, .published .running] ∧
      ¬ StaysStopped s.loop.world.log := by
  refine ⟨_, _, begin_hubLaunch false, rfl, rfl, ?_⟩
  intro h
  have hrun := h [.published .starting, .startCalled, .started 0, .published .running,
    .received ⟨.stop, 4⟩, .published .stopping, .stopped 0, .published .stopped,
    .stoppedViaCommand, .received ⟨.switchTransport "sc", 4⟩] (.switching "sc")
    ⟨[.published .starting, .startCalled, .started 1, .published .running], rfl⟩
  exact absurd hrun (by simp [Allows, published])

end BacnetBridge
