/-! Sequential programs over shared memory, cut into atomic steps. One program
is read in two ways: `run` performs it alone to its end, `next` performs one
step, so that a scheduler can put the steps of other tasks in between. Nothing
here depends on what the memory is. -/

/-- A program over memory `S` that ends with an `α` or fails with an `E`. A step
waits until the memory is `ready`, changes it, and goes on as the memory it
found decides. -/
inductive Prog (S E α : Type) : Type
  | pure (a : α)
  | fail (e : E)
  | step (ready : S → Bool) (change : S → S) (rest : S → Prog S E α)

namespace Prog

variable {S E α β : Type}

def bind : Prog S E α → (α → Prog S E β) → Prog S E β
  | .pure a, f => f a
  | .fail e, _ => .fail e
  | .step ready change rest, f => .step ready change fun s => (rest s).bind f

instance : Monad (Prog S E) where
  pure := .pure
  bind := .bind

/-- One step that waits for `ready` and then acts on the memory at once. -/
def await (ready : S → Bool) (act : S → Except E α × S) : Prog S E α :=
  .step ready (fun s => (act s).2) fun s =>
    match (act s).1 with
    | .ok a => .pure a
    | .error e => .fail e

/-- One step that never waits. -/
def atomic (act : S → Except E α × S) : Prog S E α := await (fun _ => true) act

/-- Reads the memory. -/
def read (f : S → α) : Prog S E α := atomic fun s => (.ok (f s), s)

/-- Writes the memory. -/
def modify (f : S → S) : Prog S E Unit := atomic fun s => (.ok (), f s)

def throw (e : E) : Prog S E α := .fail e

/-- Performs a program and hands its result or its failure to the caller. -/
def attempt : Prog S E α → Prog S E (Except E α)
  | .pure a => .pure (.ok a)
  | .fail e => .pure (.error e)
  | .step ready change rest => .step ready change fun s => (rest s).attempt

/-- The whole program performed alone: its result and the memory it leaves, or
`none` when it waits for something that nobody else will do. -/
def run : Prog S E α → S → Option (Except E α × S)
  | .pure a, s => some (.ok a, s)
  | .fail e, s => some (.error e, s)
  | .step ready change rest, s => if ready s then (rest s).run (change s) else none

/-- What is left of the program after its next step, and the memory then. -/
def next : Prog S E α → S → Option (Prog S E α × S)
  | .step ready change rest, s => if ready s then some (rest s, change s) else none
  | _, _ => none

@[simp] theorem run_pure (a : α) (s : S) :
    (Pure.pure a : Prog S E α).run s = some (.ok a, s) := rfl

@[simp] theorem run_throw (e : E) (s : S) : (throw e : Prog S E α).run s = some (.error e, s) := rfl

theorem run_await (ready : S → Bool) (act : S → Except E α × S) (s : S) :
    (await ready act).run s = if ready s then some (act s) else none := by
  unfold await
  cases h : act s with
  | mk r t => cases r <;> simp [run, h]

@[simp] theorem run_atomic (act : S → Except E α × S) (s : S) :
    (atomic act).run s = some (act s) := by
  simp [atomic, run_await]

@[simp] theorem run_read (f : S → α) (s : S) :
    (read f : Prog S E α).run s = some (.ok (f s), s) := by
  simp [read]

@[simp] theorem run_modify (f : S → S) (s : S) :
    (modify f : Prog S E Unit).run s = some (.ok (), f s) := by
  simp [modify]

theorem run_bind (p : Prog S E α) (f : α → Prog S E β) (s : S) :
    (p >>= f).run s = (p.run s).bind fun r =>
      match r with
      | (.ok a, t) => (f a).run t
      | (.error e, t) => some (.error e, t) := by
  change (p.bind f).run s = _
  induction p generalizing s with
  | pure a => rfl
  | fail e => rfl
  | step ready change rest ih =>
    simp only [bind, run]
    split
    · exact ih s (change s)
    · rfl

theorem run_attempt (p : Prog S E α) (s : S) :
    p.attempt.run s = (p.run s).map fun r => (.ok r.1, r.2) := by
  induction p generalizing s with
  | pure a => rfl
  | fail e => rfl
  | step ready change rest ih =>
    simp only [attempt, run]
    split
    · exact ih s (change s)
    · rfl

/-- What is left of a program ends as the whole program does, as long as
nobody else touches the memory. -/
theorem run_next {p q : Prog S E α} {s t : S} (h : p.next s = some (q, t)) : q.run t = p.run s := by
  cases p with
  | pure a => simp [next] at h
  | fail e => simp [next] at h
  | step ready change rest =>
    simp only [next] at h
    split at h
    · rename_i hr
      obtain ⟨rfl, rfl⟩ := Prod.mk.inj (Option.some.inj h)
      simp [run, hr]
    · cases h

/-- Every step of the program relates the memory before it to the memory after
it by `R`. -/
def Keeps (R : S → S → Prop) : Prog S E α → Prop
  | .pure _ => True
  | .fail _ => True
  | .step ready change rest => ∀ s, (ready s = true → R s (change s)) ∧ (rest s).Keeps R

variable {R : S → S → Prop}

theorem Keeps.bind {p : Prog S E α} {f : α → Prog S E β} (hp : p.Keeps R)
    (hf : ∀ a, (f a).Keeps R) : (p >>= f).Keeps R := by
  change (p.bind f).Keeps R
  induction p with
  | pure a => exact hf a
  | fail e => exact trivial
  | step ready change rest ih => exact fun s => ⟨(hp s).1, ih s (hp s).2⟩

theorem Keeps.attempt {p : Prog S E α} (hp : p.Keeps R) : p.attempt.Keeps R := by
  induction p with
  | pure a => exact trivial
  | fail e => exact trivial
  | step ready change rest ih => exact fun s => ⟨(hp s).1, ih s (hp s).2⟩

theorem keeps_await {ready : S → Bool} {act : S → Except E α × S}
    (h : ∀ s, ready s = true → R s (act s).2) : (await ready act).Keeps R := by
  intro s
  refine ⟨h s, ?_⟩
  dsimp only
  split <;> exact trivial

/-- Only the next step is needed to step on: the rest of the program still
keeps the relation. -/
theorem Keeps.next {p q : Prog S E α} {s t : S} (hp : p.Keeps R)
    (h : p.next s = some (q, t)) : R s t ∧ q.Keeps R := by
  cases p with
  | pure a => simp [Prog.next] at h
  | fail e => simp [Prog.next] at h
  | step ready change rest =>
    simp only [Prog.next] at h
    split at h
    · rename_i hr
      obtain ⟨rfl, rfl⟩ := Prod.mk.inj (Option.some.inj h)
      exact ⟨(hp s).1 hr, (hp s).2⟩
    · cases h

/-- A program performed alone takes its first memory to its last along `R`. -/
theorem Keeps.run (refl : ∀ s, R s s) (trans : ∀ {a b c}, R a b → R b c → R a c)
    {p : Prog S E α} (hp : p.Keeps R) {s t : S} {r : Except E α}
    (h : p.run s = some (r, t)) : R s t := by
  induction p generalizing s with
  | pure a =>
    obtain ⟨_, rfl⟩ := Prod.mk.inj (Option.some.inj h)
    exact refl s
  | fail e =>
    obtain ⟨_, rfl⟩ := Prod.mk.inj (Option.some.inj h)
    exact refl s
  | step ready change rest ih =>
    simp only [Prog.run] at h
    split at h
    · rename_i hr
      exact trans ((hp s).1 hr) (ih s (hp s).2 h)
    · cases h

/-! ## Interference -/

/-- The program does not tell memories apart that `R` relates: in both it waits or
goes on, does the same next, and leaves related memories. -/
def Blind (R : S → S → Prop) : Prog S E α → Prop
  | .pure _ => True
  | .fail _ => True
  | .step ready change rest => ∀ s s', R s s' →
      ready s = ready s' ∧ R (change s) (change s') ∧ rest s = rest s' ∧ (rest s).Blind R

theorem Blind.bind {p : Prog S E α} {f : α → Prog S E β} (hp : p.Blind R)
    (hf : ∀ a, (f a).Blind R) : (p >>= f).Blind R := by
  change (p.bind f).Blind R
  induction p with
  | pure a => exact hf a
  | fail e => exact trivial
  | step ready change rest ih =>
    intro s s' h
    obtain ⟨hready, hchange, hrest, hblind⟩ := hp s s' h
    exact ⟨hready, hchange, congrArg (·.bind f) hrest, ih s hblind⟩

theorem Blind.attempt {p : Prog S E α} (hp : p.Blind R) : p.attempt.Blind R := by
  induction p with
  | pure a => exact trivial
  | fail e => exact trivial
  | step ready change rest ih =>
    intro s s' h
    obtain ⟨hready, hchange, hrest, hblind⟩ := hp s s' h
    exact ⟨hready, hchange, congrArg Prog.attempt hrest, ih s hblind⟩

theorem blind_await {ready : S → Bool} {act : S → Except E α × S}
    (hready : ∀ s s', R s s' → ready s = ready s')
    (hact : ∀ s s', R s s' → (act s).1 = (act s').1 ∧ R (act s).2 (act s').2) :
    (await ready act).Blind R := by
  intro s s' h
  obtain ⟨hsame, hchange⟩ := hact s s' h
  refine ⟨hready s s' h, hchange, ?_, ?_⟩
  · simp only [hsame]
  · dsimp only
    split <;> exact trivial

theorem blind_atomic {act : S → Except E α × S}
    (h : ∀ s s', R s s' → (act s).1 = (act s').1 ∧ R (act s).2 (act s').2) :
    (atomic act).Blind R := blind_await (fun _ _ _ => rfl) h

/-- After one of its steps the program is as blind as before. -/
theorem Blind.next (refl : ∀ s, R s s) {p q : Prog S E α} {s t : S} (hp : p.Blind R)
    (h : p.next s = some (q, t)) : q.Blind R := by
  cases p with
  | pure a => simp [Prog.next] at h
  | fail e => simp [Prog.next] at h
  | step ready change rest =>
    simp only [Prog.next] at h
    split at h
    · obtain ⟨rfl, rfl⟩ := Prod.mk.inj (Option.some.inj h)
      exact (hp s s (refl s)).2.2.2
    · cases h

/-- What a program does alone it also does from a related memory. -/
theorem Blind.run {p : Prog S E α} (hp : p.Blind R) {s s' t : S} {r : Except E α} (hs : R s s')
    (h : p.run s = some (r, t)) : ∃ t', p.run s' = some (r, t') ∧ R t t' := by
  induction p generalizing s s' with
  | pure a =>
    obtain ⟨rfl, rfl⟩ := Prod.mk.inj (Option.some.inj h)
    exact ⟨s', rfl, hs⟩
  | fail e =>
    obtain ⟨rfl, rfl⟩ := Prod.mk.inj (Option.some.inj h)
    exact ⟨s', rfl, hs⟩
  | step ready change rest ih =>
    obtain ⟨hready, hchange, hrest, hblind⟩ := hp s s' hs
    simp only [Prog.run] at h ⊢
    rw [← hready, ← hrest]
    split at h
    · rename_i hr
      rw [if_pos hr]
      exact ih s hblind hchange h
    · cases h

/-- Blind but for how long it waits: on memories that `R` relates the program does the same
and leaves related ones. -/
def Follows (R : S → S → Prop) : Prog S E α → Prop
  | .pure _ => True
  | .fail _ => True
  | .step _ change rest => ∀ s s', R s s' →
      R (change s) (change s') ∧ rest s = rest s' ∧ (rest s).Follows R

theorem Follows.bind {p : Prog S E α} {f : α → Prog S E β} (hp : p.Follows R)
    (hf : ∀ a, (f a).Follows R) : (p >>= f).Follows R := by
  change (p.bind f).Follows R
  induction p with
  | pure a => exact hf a
  | fail e => exact trivial
  | step ready change rest ih =>
    intro s s' h
    obtain ⟨hchange, hrest, hfollows⟩ := hp s s' h
    exact ⟨hchange, congrArg (·.bind f) hrest, ih s hfollows⟩

theorem Follows.attempt {p : Prog S E α} (hp : p.Follows R) : p.attempt.Follows R := by
  induction p with
  | pure a => exact trivial
  | fail e => exact trivial
  | step ready change rest ih =>
    intro s s' h
    obtain ⟨hchange, hrest, hfollows⟩ := hp s s' h
    exact ⟨hchange, congrArg Prog.attempt hrest, ih s hfollows⟩

theorem follows_await {ready : S → Bool} {act : S → Except E α × S}
    (hact : ∀ s s', R s s' → (act s).1 = (act s').1 ∧ R (act s).2 (act s').2) :
    (await ready act).Follows R := by
  intro s s' h
  obtain ⟨hsame, hchange⟩ := hact s s' h
  refine ⟨hchange, ?_, ?_⟩
  · simp only [hsame]
  · dsimp only
    split <;> exact trivial

/-- A step among others is a step of the program alone, as long as that does not have to
wait in the end. -/
theorem Follows.next {p q : Prog S E α} {s s' t t' : S} {r : Except E α} (hp : p.Follows R)
    (hs : R s s') (hnext : p.next s = some (q, t)) (hrun : p.run s' = some (r, t')) :
    ∃ u, R t u ∧ q.run u = some (r, t') ∧ q.Follows R := by
  cases p with
  | pure a => cases hnext
  | fail e => cases hnext
  | step ready change rest =>
    simp only [Prog.next] at hnext
    split at hnext
    · obtain ⟨rfl, rfl⟩ := Prod.mk.inj (Option.some.inj hnext)
      obtain ⟨hchange, hrest, hfollows⟩ := hp s s' hs
      simp only [Prog.run] at hrun
      split at hrun
      · exact ⟨change s', hchange, hrest ▸ hrun, hfollows⟩
      · cases hrun
    · cases hnext

theorem Follows.run {p : Prog S E α} {s s' t t' : S} {r r' : Except E α} (hp : p.Follows R)
    (hs : R s s') (h : p.run s = some (r, t)) (h' : p.run s' = some (r', t')) :
    r = r' ∧ R t t' := by
  induction p generalizing s s' with
  | pure a =>
    obtain ⟨rfl, rfl⟩ := Prod.mk.inj (Option.some.inj h)
    obtain ⟨rfl, rfl⟩ := Prod.mk.inj (Option.some.inj h')
    exact ⟨rfl, hs⟩
  | fail e =>
    obtain ⟨rfl, rfl⟩ := Prod.mk.inj (Option.some.inj h)
    obtain ⟨rfl, rfl⟩ := Prod.mk.inj (Option.some.inj h')
    exact ⟨rfl, hs⟩
  | step ready change rest ih =>
    obtain ⟨hchange, hrest, hfollows⟩ := hp s s' hs
    simp only [Prog.run] at h h'
    rw [← hrest] at h'
    split at h
    · split at h'
      · exact ih s hfollows hchange h h'
      · cases h'
    · cases h

end Prog
