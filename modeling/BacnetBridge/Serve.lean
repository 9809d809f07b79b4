import BacnetBridge.Web

/-! `run_serve`: the request handlers in a process without a router. The published
state stays `Stopped`, and the commands that are sent are never received. Its `--dev`, with
which `run_web_server` drops these routes, is left out. -/
namespace BacnetBridge

/-- The command channel, the handlers that wait to send, and the answers given, each
by the number of its request. -/
structure Serve where
  queue : List RouterCommand
  waiting : List (Nat × Accepted)
  answers : List (Nat × Except HttpError (List (String × String)))
  arrived : Nat

namespace Serve

def start : Serve := ⟨[], [], [], 0⟩

inductive Input
  | request (c : Call)
  | send (id : Nat)
  deriving DecidableEq, Repr

/-- A request arrives and is checked, or a handler sends, for which the channel must
have room, and answers. -/
def step (s : Serve) : Input → Option Serve
  | .request c =>
    match c.check true .stopped with
    | .error e =>
      some { s with answers := s.answers ++ [(s.arrived, .error e)], arrived := s.arrived + 1 }
    | .ok a =>
      some { s with waiting := s.waiting ++ [(s.arrived, a)], arrived := s.arrived + 1 }
  | .send id =>
    match s.waiting.find? (·.1 = id) with
    | none => none
    | some (_, a) =>
      if s.queue.length < capacity then
        some
          { s with
            queue := s.queue ++ [a.command]
            waiting := s.waiting.filter (·.1 ≠ id)
            answers := s.answers ++ [(id, .ok a.reply)] }
      else none

/-- The requests among the inputs, in the order in which they arrive. -/
def requests (inputs : List Input) : List Call :=
  inputs.filterMap fun
    | .request c => some c
    | .send _ => none

/-- Whatever happens from now on, the handler of this request waits to send. -/
def WaitsForever (s : Serve) (id : Nat) : Prop :=
  ∃ a, (id, a) ∈ s.waiting ∧
    ∀ later t, Runs.after step s later = some t → (id, a) ∈ t.waiting

/-- No request has been answered with `ok`, and none waits forever. -/
def Refuses (s : Serve) : Prop :=
  (∀ answer ∈ s.answers, ∃ e, answer.2 = .error e) ∧ ∀ id, ¬ s.WaitsForever id

/-! ## A full channel -/

theorem full_step {s t : Serve} {i : Input} (h : s.queue.length = capacity)
    (ht : s.step i = some t) :
    t.queue.length = capacity ∧ ∀ request ∈ s.waiting, request ∈ t.waiting := by
  cases i with
  | request c =>
    simp only [step] at ht
    split at ht
    · cases ht
      exact ⟨h, fun _ => id⟩
    · cases ht
      exact ⟨h, fun _ hwaiting => List.mem_append_left _ hwaiting⟩
  | send id =>
    simp only [step] at ht
    split at ht
    · cases ht
    · rw [if_neg (by omega)] at ht
      cases ht

/-- Nobody receives, so behind a full channel every handler waits forever. -/
theorem waitsForever_of_full {s : Serve} (h : s.queue.length = capacity) {id : Nat} {a : Accepted}
    (ha : (id, a) ∈ s.waiting) : s.WaitsForever id := by
  refine ⟨a, ha, ?_⟩
  intro later t ht
  have hkeeps : ∀ (u : Serve) i u', (u.queue.length = capacity ∧ (id, a) ∈ u.waiting) →
      u.step i = some u' → u'.queue.length = capacity ∧ (id, a) ∈ u'.waiting := by
    rintro u i u' ⟨hfull, hwaiting⟩ hu
    obtain ⟨hfull', hkeep⟩ := full_step hfull hu
    exact ⟨hfull', hkeep _ hwaiting⟩
  exact (Runs.always_of_step hkeeps ⟨h, ha⟩ later later List.prefix_rfl t ht).2

/-! ## Requests to start -/

/-- Everything but a start is refused while the state is `Stopped`. -/
theorem check_other {c : Call} (h : c ≠ .start) : ∃ e, c.check true .stopped = .error e := by
  cases hcheck : c.check true .stopped with
  | error e => exact ⟨e, rfl⟩
  | ok a =>
    cases c with
    | start => exact absurd rfl h
    | switch mode =>
      obtain ⟨-, hstate⟩ | ⟨-, hstate⟩ := Call.check_ok hcheck
      · simp only [Call.check, transportSwitch] at hcheck
        split at hcheck <;> cases hcheck
      · cases hstate
    | stop => cases hcheck

/-- Nothing but errors so far, and nobody waits. -/
structure AllRefused (s : Serve) : Prop where
  answers : ∀ answer ∈ s.answers, ∃ e, answer.2 = .error e
  waiting : s.waiting = []

theorem AllRefused.refuses {s : Serve} (h : s.AllRefused) : s.Refuses := by
  refine ⟨h.answers, ?_⟩
  rintro id ⟨a, ha, -⟩
  simp [h.waiting] at ha

theorem AllRefused.step {s t : Serve} {i : Input} (h : s.AllRefused) (hi : i ≠ .request .start)
    (ht : s.step i = some t) : t.AllRefused := by
  cases i with
  | request c =>
    obtain ⟨e, he⟩ := check_other (fun hc => hi (congrArg Input.request hc))
    simp only [Serve.step, he] at ht
    cases ht
    refine ⟨?_, h.waiting⟩
    intro answer hanswer
    rcases List.mem_append.mp hanswer with hanswer | hanswer
    · exact h.answers answer hanswer
    · obtain rfl := List.mem_singleton.mp hanswer
      exact ⟨e, rfl⟩
  | send id =>
    simp [Serve.step, h.waiting] at ht

/-- All requests can arrive before a handler sends. -/
theorem requests_arrive (s : Serve) (calls : List Call) :
    ∃ t, Runs.after step s (calls.map .request) = some t ∧ t.queue = s.queue ∧
      (s.waiting ≠ [] ∨ .start ∈ calls → t.waiting ≠ []) := by
  induction calls generalizing s with
  | nil => exact ⟨s, rfl, rfl, by simp⟩
  | cons c calls ih =>
    cases hcheck : c.check true .stopped with
    | error e =>
      obtain ⟨t, ht, hqueue, hwaiting⟩ := ih
        { s with answers := s.answers ++ [(s.arrived, .error e)], arrived := s.arrived + 1 }
      refine ⟨t, by simpa [step, hcheck] using ht, hqueue, ?_⟩
      rintro (hs | hstart)
      · exact hwaiting (.inl hs)
      · rcases List.mem_cons.mp hstart with rfl | hstart
        · cases hcheck
        · exact hwaiting (.inr hstart)
    | ok a =>
      obtain ⟨t, ht, hqueue, hwaiting⟩ := ih
        { s with waiting := s.waiting ++ [(s.arrived, a)], arrived := s.arrived + 1 }
      exact ⟨t, by simpa [step, hcheck] using ht, hqueue, fun _ => hwaiting (.inl (by simp))⟩

/-- While the channel has room, a handler that waits can send and answer `ok`. -/
theorem send_answers {s : Serve} (hroom : s.queue.length < capacity) (h : s.waiting ≠ []) :
    ∃ id t, s.step (.send id) = some t ∧ ¬ t.Refuses := by
  obtain ⟨⟨id, a⟩, waiting, hwaiting⟩ := List.exists_cons_of_ne_nil h
  refine ⟨id, _, by simp [step, hwaiting, hroom]; rfl, ?_⟩
  rintro ⟨hanswers, -⟩
  obtain ⟨e, he⟩ := hanswers (id, .ok a.reply) (by simp)
  cases he

end Serve

/-- Whatever order requests and sends come in, no request is answered with `ok` and
none waits forever exactly if none of them is to start the router. -/
theorem serve_refuses_iff (calls : List Call) :
    (∀ inputs s, Serve.requests inputs = calls → Runs.after Serve.step .start inputs = some s →
      s.Refuses) ↔ Call.start ∉ calls := by
  constructor
  · intro h hstart
    obtain ⟨s, hs, hqueue, hwaiting⟩ := Serve.requests_arrive .start calls
    have hroom : s.queue.length < capacity := by
      rw [hqueue]
      decide
    obtain ⟨id, t, ht, hrefuses⟩ := Serve.send_answers hroom (hwaiting (.inr hstart))
    refine hrefuses (h (calls.map .request ++ [.send id]) t ?_ ?_)
    · simp [Serve.requests, List.filterMap_append, List.filterMap_map]
    · rw [Runs.after_append, hs]
      simp [ht]
  · rintro hstart inputs s rfl hs
    have hpermitted : Runs.Each Serve.step .start inputs fun _ i => i ≠ .request .start := by
      rintro seen i hi _ _ rfl
      have hmem : .request .start ∈ inputs := hi.subset (by simp)
      exact hstart (List.mem_filterMap.mpr ⟨_, hmem, rfl⟩)
    have hrefused : Runs.Always Serve.step .start inputs Serve.AllRefused :=
      Runs.always_of_permitted (fun _ _ _ hu hi hu' => hu.step hi hu')
        ⟨by simp [Serve.start], rfl⟩ hpermitted
    exact (hrefused inputs List.prefix_rfl s hs).refuses

/-- Thirty-two requests to start are answered with `ok`, and the next one waits
forever. -/
theorem serve_hangs_on_start :
    (∃ s, Runs.after Serve.step .start [.request .start, .send 0] = some s ∧
      s.answers = [(0, .ok [("status", "ok")])]) ∧
    ∃ s, Runs.after Serve.step .start
        ((List.range 32).flatMap (fun id => [.request .start, .send id]) ++ [.request .start]) =
          some s ∧ s.answers.length = 32 ∧ s.WaitsForever 32 :=
  ⟨⟨_, rfl, rfl⟩, _, rfl, rfl, Serve.waitsForever_of_full rfl (List.mem_singleton_self _)⟩

end BacnetBridge
