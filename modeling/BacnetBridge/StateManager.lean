import Mathlib.Data.List.Chain
import Mathlib.Logic.Function.Basic
import BacnetBridge.Runs
import BacnetBridge.State

/-! `try_transition`, called on any number of clones of one `StateManager`. The
clones share a channel, and each call borrows its value and sends to it in two
steps, between which other calls can run. -/
namespace BacnetBridge

namespace StateManager

/-- How far a call has come. -/
inductive Phase
  | called
  /-- The check was passed with what was borrowed, and nothing is sent yet. -/
  | checked (current : AppState)
  | returned (result : Except BridgeError Unit)

structure Call where
  next : AppState
  phase : Phase

end StateManager

/-- The channel, all values it has had, and the calls so far. -/
structure StateManager where
  value : AppState
  published : List AppState
  calls : Nat → Option StateManager.Call

namespace StateManager

def new : StateManager := ⟨.stopped, [.stopped], fun _ => none⟩

/-- What happens next, and in which call. -/
inductive Input
  | call (id : Nat) (next : AppState)
  | borrow (id : Nat)
  | send (id : Nat)

/-- What a call does with the value it borrowed. -/
def check (current next : AppState) : Phase :=
  match current.tryTransition next with
  | .ok _ => .checked current
  | .error e => .returned (.error e)

/-- `send` does not fail, since every manager keeps a receiver. -/
def step (s : StateManager) : Input → Option StateManager
  | .call id next =>
    match s.calls id with
    | none => some { s with calls := Function.update s.calls id (some ⟨next, .called⟩) }
    | some _ => none
  | .borrow id =>
    match s.calls id with
    | some ⟨next, .called⟩ =>
      some { s with calls := Function.update s.calls id (some ⟨next, check s.value next⟩) }
    | _ => none
  | .send id =>
    match s.calls id with
    | some ⟨next, .checked _⟩ =>
      some
        { value := next
          published := s.published ++ [next]
          calls := Function.update s.calls id (some ⟨next, .returned (.ok ())⟩) }
    | _ => none

/-! ## The claim and its condition -/

/-- What was published is a path of the lifecycle, from `Stopped`. -/
def Lawful (s : StateManager) : Prop :=
  s.published.head? = some .stopped ∧ s.published.IsChain fun current next => current.valid next

/-- A call for `next` that has not returned. -/
def Underway (s : StateManager) (id : Nat) (next : AppState) : Prop :=
  s.calls id = some ⟨next, .called⟩ ∨ ∃ current, s.calls id = some ⟨next, .checked current⟩

/-- Of two calls underway for one transition that the lifecycle allows, when no
other call sends until both have returned, exactly one returns `Ok`. -/
def ExactlyOne (inputs : List Input) : Prop :=
  ∀ before during, before ++ during <+: inputs → ∀ s t, Runs.after step .new before = some s →
    Runs.after step s during = some t → ∀ a b next, a ≠ b → s.value.valid next →
    s.Underway a next → s.Underway b next → (∀ id, .send id ∈ during → id = a ∨ id = b) →
    ∀ first second, t.calls a = some ⟨next, .returned first⟩ →
    t.calls b = some ⟨next, .returned second⟩ → (first = .ok () ↔ second ≠ .ok ())

/-- A call that sends has borrowed what the channel still holds. -/
def Current (s : StateManager) : Input → Prop
  | .send id => ∀ next current, s.calls id = some ⟨next, .checked current⟩ → s.value = current
  | _ => True

/-! ## Steps -/

/-- What a step does. -/
inductive Stepped (s : StateManager) : Input → StateManager → Prop
  | call {id : Nat} {next : AppState} (h : s.calls id = none) : Stepped s (.call id next)
      { s with calls := Function.update s.calls id (some ⟨next, .called⟩) }
  | borrow {id : Nat} {next : AppState} (h : s.calls id = some ⟨next, .called⟩) :
      Stepped s (.borrow id)
        { s with calls := Function.update s.calls id (some ⟨next, check s.value next⟩) }
  | send {id : Nat} {next current : AppState} (h : s.calls id = some ⟨next, .checked current⟩) :
      Stepped s (.send id)
        { value := next
          published := s.published ++ [next]
          calls := Function.update s.calls id (some ⟨next, .returned (.ok ())⟩) }

theorem step_cases {s t : StateManager} {i : Input} (h : s.step i = some t) : Stepped s i t := by
  cases i with
  | call id next =>
    simp only [step] at h
    split at h
    · rename_i hid
      cases h
      exact .call hid
    · cases h
  | borrow id =>
    simp only [step] at h
    split at h
    · rename_i hid
      cases h
      exact .borrow hid
    · cases h
  | send id =>
    simp only [step] at h
    split at h
    · rename_i hid
      cases h
      exact .send hid
    · cases h

/-- Only a call that has passed its check can send. -/
theorem current_of_stuck {s : StateManager} {i : Input} (h : s.step i = none) : s.Current i := by
  cases i with
  | call | borrow => trivial
  | send id =>
    intro next current hid
    simp [step, hid] at h

theorem valid_injective {a b next : AppState} (ha : a.valid next) (hb : b.valid next) : a = b := by
  cases a <;> cases b <;> cases next <;> simp_all [AppState.valid]

@[simp] theorem valid_self (a : AppState) : a.valid a = false := by
  cases a <;> rfl

theorem check_valid {current next : AppState} (h : current.valid next) :
    check current next = .checked current := by
  simp [check, AppState.tryTransition, h]

theorem check_invalid {current next : AppState} (h : current.valid next = false) :
    ∃ e, check current next = .returned (.error e) := by
  simp [check, h]

/-! ## Paths -/

/-- The last value published is the channel's, and what was checked is valid. -/
structure Sound (s : StateManager) : Prop where
  first : s.published.head? = some .stopped
  last : s.published.getLast? = some s.value
  checked : ∀ id next current, s.calls id = some ⟨next, .checked current⟩ → current.valid next

/-- What is checked stays valid when one call changes to one that is. -/
theorem Sound.checked_update {s : StateManager} (h : s.Sound) {id : Nat} {call : Call}
    (hcall : ∀ next current, call = ⟨next, .checked current⟩ → current.valid next) {id' : Nat}
    {next current : AppState}
    (hid' : Function.update s.calls id (some call) id' = some ⟨next, .checked current⟩) :
    current.valid next := by
  by_cases hsame : id' = id
  · subst hsame
    rw [Function.update_self] at hid'
    exact hcall next current (Option.some.inj hid')
  · rw [Function.update_of_ne hsame] at hid'
    exact h.checked id' next current hid'

/-- A value passes the check only if the transition from it is valid. -/
theorem valid_of_check {value next current : AppState} (h : check value next = .checked current) :
    current.valid next := by
  cases hvalid : value.valid next with
  | true =>
    rw [check_valid hvalid] at h
    cases h
    exact hvalid
  | false =>
    obtain ⟨e, he⟩ := check_invalid hvalid
    cases he.symm.trans h

theorem Sound.step {s t : StateManager} {i : Input} (h : s.Sound) (ht : s.step i = some t) :
    t.Sound := by
  cases step_cases ht with
  | call hid =>
    refine ⟨h.first, h.last, ?_⟩
    intro id' next current
    apply h.checked_update
    rintro _ _ ⟨⟩
  | borrow hid =>
    refine ⟨h.first, h.last, ?_⟩
    intro id' next current
    apply h.checked_update
    intro next current hcall
    obtain ⟨rfl, hcheck⟩ := Call.mk.inj hcall
    exact valid_of_check hcheck
  | send hid =>
    refine ⟨?_, ?_, ?_⟩
    · simp [List.head?_append, h.first]
    · simp
    · intro id' next current
      apply h.checked_update
      rintro _ _ ⟨⟩

theorem always_sound (inputs : List Input) : Runs.Always step new inputs Sound :=
  Runs.always_of_step (fun _ _ _ h ht => h.step ht) ⟨rfl, rfl, fun _ _ _ h => nomatch h⟩ inputs

/-- A step keeps the path exactly if what it sends was checked against the value
it replaces. -/
theorem lawful_iff_current {s t : StateManager} {i : Input} (h : s.Sound) (hs : s.Lawful)
    (ht : s.step i = some t) : t.Lawful ↔ s.Current i := by
  cases step_cases ht with
  | call | borrow =>
    constructor
    · exact fun _ => trivial
    · exact fun _ => hs
  | @send id next current hid =>
    have hcurrent : s.Current (.send id) ↔ s.value = current := by
      constructor
      · exact fun hcurrent => hcurrent next current hid
      · intro hvalue next' current' hid'
        cases hid.symm.trans hid'
        exact hvalue
    have hvalid := h.checked id next current hid
    rw [hcurrent, Lawful, List.isChain_append]
    simp only [List.head?_append, h.first, Option.some_or, hs.2, h.last, List.isChain_singleton,
      List.head?_cons, Option.mem_def, Option.some.injEq, forall_eq', true_and]
    constructor
    · exact fun hpath => valid_injective hpath hvalid
    · rintro rfl
      exact hvalid

/-! ## Two calls for one transition -/

/-- The call has not returned, and if it has borrowed, then `v`. -/
def Open (v next : AppState) (call : Option Call) : Prop :=
  call = some ⟨next, .called⟩ ∨ call = some ⟨next, .checked v⟩

theorem Sound.open_of_underway {s : StateManager} (h : s.Sound) {id : Nat} {next : AppState}
    (hvalid : s.value.valid next) (hid : s.Underway id next) :
    Open s.value next (s.calls id) := by
  rcases hid with hid | ⟨current, hid⟩
  · exact .inl hid
  · obtain rfl := valid_injective hvalid (h.checked id next current hid)
    exact .inr hid

/-- The call has not sent. -/
def Unsent (v next : AppState) (call : Option Call) : Prop :=
  Open v next call ∨ ∃ e, call = some ⟨next, .returned (.error e)⟩

/-- The first call has sent, and the second has not. -/
structure Won (v next : AppState) (a b : Nat) (s : StateManager) : Prop where
  value : s.value = next
  winner : s.calls a = some ⟨next, .returned (.ok ())⟩
  loser : Unsent v next (s.calls b)

/-- Neither call has sent yet. -/
structure Tied (v next : AppState) (a b : Nat) (s : StateManager) : Prop where
  value : s.value = v
  first : Open v next (s.calls a)
  second : Open v next (s.calls b)

theorem Tied.symm {v next : AppState} {a b : Nat} {s : StateManager} (h : Tied v next a b s) :
    Tied v next b a s := ⟨h.value, h.second, h.first⟩

section

variable {s t : StateManager} {i : Input} {v next : AppState} {id : Nat}

theorem returned_step {result : Except BridgeError Unit} (ht : s.step i = some t)
    (h : s.calls id = some ⟨next, .returned result⟩) :
    t.calls id = some ⟨next, .returned result⟩ := by
  cases step_cases ht with
  | call hid | borrow hid | send hid =>
    simp only [Function.update_apply]
    split
    · simp_all
    · exact h

/-- A call that has not returned goes on, when the channel still holds `v`. -/
theorem Open.step (hv : v.valid next) (ht : s.step i = some t) (hvalue : s.value = v)
    (hi : i ≠ .send id) (h : Open v next (s.calls id)) : Open v next (t.calls id) := by
  cases step_cases ht with
  | call hid =>
    simp only [Function.update_apply]
    split
    · simp_all [Open]
    · exact h
  | borrow hid =>
    simp only [Function.update_apply]
    split
    · rename_i hsame
      rw [hsame, hid] at h
      rcases h with h | h
      · cases h
        rw [hvalue, check_valid hv]
        exact .inr rfl
      · cases h
    · exact h
  | send hid =>
    simp only [Function.update_apply]
    split
    · rename_i hsame
      exact absurd (congrArg Input.send hsame.symm) hi
    · exact h

/-- After the other has sent, a call can only fail: it must not send what it has
checked against the old value. -/
theorem Unsent.step (hv : v.valid next) (ht : s.step i = some t) (hvalue : s.value = next)
    (hcurrent : s.Current i) (h : Unsent v next (s.calls id)) : Unsent v next (t.calls id) := by
  cases step_cases ht with
  | call hid =>
    simp only [Function.update_apply]
    split
    · simp_all [Unsent, Open]
    · exact h
  | borrow hid =>
    simp only [Function.update_apply]
    split
    · rename_i hsame
      rw [hsame, hid] at h
      rcases h with (h | h) | ⟨e, h⟩
      · cases h
        obtain ⟨e, he⟩ := check_invalid (valid_self next)
        rw [hvalue, he]
        exact .inr ⟨e, rfl⟩
      · cases h
      · cases h
    · exact h
  | @send _ next' current hid =>
    simp only [Function.update_apply]
    split
    · rename_i hsame
      have hold := hcurrent next' current hid
      rw [hsame, hid] at h
      rcases h with (h | h) | ⟨e, h⟩
      · cases h
      · cases h
        rw [← hold, hvalue] at hv
        simp at hv
      · cases h
    · exact h

end

section

variable {s t : StateManager} {i : Input} {v next : AppState} {a b : Nat}

theorem Won.step (hv : v.valid next) (ht : s.step i = some t) (hcurrent : s.Current i)
    (hsends : ∀ id, i = .send id → id = a ∨ id = b) (h : Won v next a b s) :
    Won v next a b t := by
  have hwinner := returned_step ht h.winner
  have hloser := h.loser.step hv ht h.value hcurrent
  cases step_cases ht with
  | call | borrow => exact ⟨h.value, hwinner, hloser⟩
  | @send id next' current hid =>
    -- Neither the winner nor the loser is at a send.
    rcases hsends id rfl with rfl | rfl
    · cases hid.symm.trans h.winner
    · simp [Unsent, Open] at hloser

theorem Tied.step_send (ht : s.step (.send a) = some t) (hab : a ≠ b) (h : Tied v next a b s) :
    Won v next a b t := by
  cases step_cases ht with
  | send hid =>
    have hfirst := h.first
    rw [hid] at hfirst
    rcases hfirst with hfirst | hfirst
    · cases hfirst
    · cases hfirst
      refine ⟨rfl, ?_, ?_⟩
      · simp
      · simp only [Function.update_of_ne hab.symm]
        exact .inl h.second

theorem Tied.step (hv : v.valid next) (hab : a ≠ b) (ht : s.step i = some t)
    (hsends : ∀ id, i = .send id → id = a ∨ id = b) (h : Tied v next a b s) :
    Tied v next a b t ∨ Won v next a b t ∨ Won v next b a t := by
  by_cases ha : i = .send a
  · subst ha
    exact .inr (.inl (h.step_send ht hab))
  by_cases hb : i = .send b
  · subst hb
    exact .inr (.inr (h.symm.step_send ht hab.symm))
  left
  have hfirst := h.first.step hv ht h.value ha
  have hsecond := h.second.step hv ht h.value hb
  cases step_cases ht with
  | call | borrow => exact ⟨h.value, hfirst, hsecond⟩
  | @send id _ _ _ =>
    rcases hsends id rfl with rfl | rfl
    · exact absurd rfl ha
    · exact absurd rfl hb

/-- How far the two calls have come. -/
def Race (v next : AppState) (a b : Nat) (s : StateManager) : Prop :=
  Tied v next a b s ∨ Won v next a b s ∨ Won v next b a s

theorem Race.step (hv : v.valid next) (hab : a ≠ b) (ht : s.step i = some t)
    (hcurrent : s.Current i) (hsends : ∀ id, i = .send id → id = a ∨ id = b)
    (h : Race v next a b s) : Race v next a b t := by
  rcases h with h | h | h
  · exact h.step hv hab ht hsends
  · exact .inr (.inl (h.step hv ht hcurrent hsends))
  · exact .inr (.inr (h.step hv ht hcurrent fun id hid => (hsends id hid).symm))

theorem not_ok_of_unsent {call : Option Call} {result : Except BridgeError Unit}
    (h : Unsent v next call) (hreturned : call = some ⟨next, .returned result⟩) :
    result ≠ .ok () := by
  rintro rfl
  simp [hreturned, Unsent, Open] at h

theorem Won.ok {first second : Except BridgeError Unit} (h : Won v next a b s)
    (hfirst : s.calls a = some ⟨next, .returned first⟩)
    (hsecond : s.calls b = some ⟨next, .returned second⟩) : first = .ok () ∧ second ≠ .ok () := by
  constructor
  · cases hfirst.symm.trans h.winner
    rfl
  · exact not_ok_of_unsent h.loser hsecond

end

theorem exactlyOne_of_current {inputs : List Input} (h : Runs.Each step new inputs Current) :
    ExactlyOne inputs := by
  intro before during hp s t hs ht a b next hab hvalid ha hb hsends first second hfirst hsecond
  have hsound := always_sound inputs before ((List.prefix_append ..).trans hp) s hs
  obtain ⟨later, rfl⟩ := hp
  have hcurrent : Runs.Each step s during Current :=
    (Runs.each_append.mp (Runs.each_append.mp h).1).2 s hs
  have hduring : Runs.Each step s during fun s i =>
      s.Current i ∧ ∀ id, i = .send id → id = a ∨ id = b := by
    intro seen i hi u hu
    constructor
    · exact hcurrent seen i hi u hu
    · rintro id rfl
      exact hsends id (hi.subset (by simp))
  have hrace : Runs.Always step s during (Race s.value next a b) := by
    have hstart : Race s.value next a b s :=
      .inl ⟨rfl, hsound.open_of_underway hvalid ha, hsound.open_of_underway hvalid hb⟩
    exact Runs.always_of_permitted (fun _ _ _ hu hok hu' => hu.step hvalid hab hu' hok.1 hok.2)
      hstart hduring
  rcases hrace during List.prefix_rfl t ht with htied | hwon | hwon
  · have hopen := htied.first
    rw [hfirst] at hopen
    simp [Open] at hopen
  · obtain ⟨hok, hnot⟩ := hwon.ok hfirst hsecond
    simp [hok, hnot]
  · obtain ⟨hok, hnot⟩ := hwon.ok hsecond hfirst
    simp [hok, hnot]

/-- The published values are a path of the lifecycle, and of two calls for one
transition exactly one succeeds, exactly if every call that sends has borrowed
what the channel still holds. -/
theorem published_path_iff (inputs : List Input) :
    (Runs.Always step new inputs Lawful ∧ ExactlyOne inputs) ↔
      Runs.Each step new inputs Current := by
  have hsound := always_sound inputs
  have hlawful : new.Lawful := ⟨rfl, List.isChain_singleton _⟩
  have hexact : ∀ s i t, Sound s → Lawful s → step s i = some t → (Lawful t ↔ Current s i) :=
    fun _ _ _ hs hpath ht => lawful_iff_current hs hpath ht
  have hpath : Runs.Always step new inputs Lawful ↔ Runs.Each step new inputs Current :=
    Runs.always_iff_each hexact (fun _ _ _ _ hstuck => current_of_stuck hstuck) hsound hlawful
  constructor
  · intro h
    exact hpath.mp h.1
  · intro h
    exact ⟨hpath.mpr h, exactlyOne_of_current h⟩

/-- Two calls that both borrow before either sends: `Starting` is published twice
and both return `Ok`. -/
theorem two_starts_both_succeed :
    ∃ s, Runs.after step new [.call 0 .starting, .call 1 .starting, .borrow 0, .borrow 1,
        .send 0, .send 1] = some s ∧
      s.published = [.stopped, .starting, .starting] ∧
      s.calls 0 = some ⟨.starting, .returned (.ok ())⟩ ∧
      s.calls 1 = some ⟨.starting, .returned (.ok ())⟩ ∧ ¬ s.Lawful := by
  refine ⟨_, rfl, rfl, rfl, rfl, ?_⟩
  rintro ⟨-, hpath⟩
  simp [new] at hpath

end StateManager

end BacnetBridge
