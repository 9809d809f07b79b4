import Mathlib.Logic.Hydra
import BacnetBridge.Atomic

/-! Any number of sequential programs over shared memory, part of which they guard by one
readers-writer lock. From rules for a single program: every interleaving has a serial
history, in which whoever held the lock acts at once, and every interleaving comes to an
end. Nothing here depends on what the memory or the programs are. -/
namespace Monitor

variable {S V Op E L α β : Type}

/-- The lock in the memory, and what it guards. -/
structure Guard (S V : Type) where
  readers : S → Nat
  writing : S → Bool
  view : S → V

/-- Where a program stands to the lock: what it found when it got it, and what the
guarded value is now. -/
inductive Stage (V : Type)
  | outside
  | reading (found : V)
  | writing (found now : V)

def Stage.isReading : Stage V → Bool
  | .reading _ => true
  | _ => false

def Stage.isWriting : Stage V → Bool
  | .writing _ _ => true
  | _ => false

section Rules

variable (G : Guard S V) (apply : Op → V → V) (does : Op → Prop)

def Guard.Free (s : S) : Prop := G.writing s = false ∧ G.readers s = 0

/-- A program that holds the lock knows the guarded value whatever the others do. -/
def Guard.Knows : Stage V → S → Prop
  | .outside, _ => True
  | .reading found, s => G.writing s = false ∧ G.view s = found
  | .writing _ now, s => G.writing s = true ∧ G.readers s = 0 ∧ G.view s = now

/-- Neither the lock nor what it guards has changed. -/
structure Guard.Same (s s' : S) : Prop where
  readers : G.readers s' = G.readers s
  writing : G.writing s' = G.writing s
  view : G.view s' = G.view s

/-- What one step may do, by where the program stands. Only a writer changes the guarded
value. Whoever lets go of the lock records one operation, of those that it does: what it
did to the value that it had found. -/
inductive Guard.Moves : Stage V → S → S → Stage V → List (Op × V) → Prop
  | stay {stage : Stage V} {s s' : S} (same : G.Same s s') : Moves stage s s' stage []
  | lockRead {s s' : S} (free : G.writing s = false) (readers : G.readers s' = G.readers s + 1)
      (writing : G.writing s' = false) (view : G.view s' = G.view s) :
      Moves .outside s s' (.reading (G.view s)) []
  | dropRead {found : V} {s s' : S} (readers : G.readers s' = G.readers s - 1)
      (writing : G.writing s' = G.writing s) (view : G.view s' = G.view s) (op : Op)
      (mine : does op) (reads : apply op found = found) :
      Moves (.reading found) s s' .outside [(op, found)]
  | lockWrite {s s' : S} (free : G.Free s) (readers : G.readers s' = 0)
      (writing : G.writing s' = true) (view : G.view s' = G.view s) :
      Moves .outside s s' (.writing (G.view s) (G.view s)) []
  | write {found now : V} {s s' : S} (readers : G.readers s' = G.readers s)
      (writing : G.writing s' = G.writing s) :
      Moves (.writing found now) s s' (.writing found (G.view s')) []
  | dropWrite {found now : V} {s s' : S} (readers : G.readers s' = G.readers s)
      (writing : G.writing s' = false) (view : G.view s' = G.view s) (op : Op)
      (mine : does op) (writes : apply op found = now) :
      Moves (.writing found now) s s' .outside [(op, found)]

/-- The program keeps to the lock, waits for nothing else, and ends with `post` of what it
has recorded. -/
def Guard.Safe (post : Stage V → List (Op × V) → Except E α → Prop) :
    Stage V → List (Op × V) → Prog S E α → Prop
  | stage, record, .pure a => post stage record (.ok a)
  | stage, record, .fail e => post stage record (.error e)
  | stage, record, .step ready change rest => ∀ s, G.Knows stage s →
      ((stage = .outside → G.Free s) → ready s = true) ∧
      (ready s = true → ∃ stage' new, G.Moves apply does stage s (change s) stage' new ∧
        Guard.Safe post stage' (record ++ new) (rest s))

end Rules

variable {G : Guard S V} {apply : Op → V → V} {does : Op → Prop} {stage stage' : Stage V}
  {record : List (Op × V)} {post : Stage V → List (Op × V) → Except E α → Prop}

theorem Guard.Same.refl (s : S) : G.Same s s := ⟨rfl, rfl, rfl⟩

/-- A program goes on with what the first part of it ended with. -/
theorem Guard.Safe.bind {p : Prog S E α} {f : α → Prog S E β}
    {post : Stage V → List (Op × V) → Except E β → Prop}
    (hp : G.Safe apply does (fun stage record r => match r with
      | .ok a => G.Safe apply does post stage record (f a)
      | .error e => post stage record (.error e)) stage record p) :
    G.Safe apply does post stage record (p >>= f) := by
  change G.Safe apply does post stage record (p.bind f)
  induction p generalizing stage record with
  | pure a => exact hp
  | fail e => exact hp
  | step ready change rest ih =>
    intro s hs
    obtain ⟨hready, hgo⟩ := hp s hs
    refine ⟨hready, ?_⟩
    intro hr
    obtain ⟨stage', new, hmoves, hrest⟩ := hgo hr
    exact ⟨stage', new, hmoves, ih s hrest⟩

theorem safe_await {ready : S → Bool} {act : S → Except E α × S}
    (hact : ∀ s, G.Knows stage s → ((stage = .outside → G.Free s) → ready s = true) ∧
      (ready s = true → ∃ stage' new, G.Moves apply does stage s (act s).2 stage' new ∧
        post stage' (record ++ new) (act s).1)) :
    G.Safe apply does post stage record (Prog.await ready act) := by
  intro s hs
  obtain ⟨hready, hgo⟩ := hact s hs
  refine ⟨hready, ?_⟩
  intro hr
  obtain ⟨stage', new, hmoves, hpost⟩ := hgo hr
  refine ⟨stage', new, hmoves, ?_⟩
  dsimp only
  split
  · rename_i a ha
    rw [ha] at hpost
    exact hpost
  · rename_i e he
    rw [he] at hpost
    exact hpost

/-- A step that never waits and leaves the lock and the guarded value alone. -/
theorem safe_quiet {act : S → Except E α × S}
    (hact : ∀ s, G.Knows stage s → G.Same s (act s).2 ∧ post stage record (act s).1) :
    G.Safe apply does post stage record (Prog.atomic act) := by
  apply safe_await
  intro s hs
  obtain ⟨hsame, hpost⟩ := hact s hs
  refine ⟨fun _ => rfl, fun _ => ⟨stage, [], .stay hsame, ?_⟩⟩
  rwa [List.append_nil]

theorem safe_read {f : S → α} (hf : ∀ s, G.Knows stage s → post stage record (.ok (f s))) :
    G.Safe apply does post stage record (Prog.read f : Prog S E α) :=
  safe_quiet fun s hs => ⟨.refl s, hf s hs⟩

/-- Every step of the program can be taken at any time, and keeps the relation. -/
def Quiet (R : S → S → Prop) : Prog S E α → Prop
  | .pure _ => True
  | .fail _ => True
  | .step ready change rest => ∀ s, ready s = true ∧ R s (change s) ∧ Quiet R (rest s)

section Quiet

variable {R : S → S → Prop}

theorem Quiet.bind {p : Prog S E α} {f : α → Prog S E β} (hp : Quiet R p)
    (hf : ∀ a, Quiet R (f a)) : Quiet R (p >>= f) := by
  change Quiet R (p.bind f)
  induction p with
  | pure a => exact hf a
  | fail e => exact trivial
  | step ready change rest ih =>
    intro s
    obtain ⟨hready, hchange, hrest⟩ := hp s
    exact ⟨hready, hchange, ih s hrest⟩

theorem Quiet.attempt {p : Prog S E α} (hp : Quiet R p) : Quiet R p.attempt := by
  induction p with
  | pure a => exact trivial
  | fail e => exact trivial
  | step ready change rest ih =>
    intro s
    obtain ⟨hready, hchange, hrest⟩ := hp s
    exact ⟨hready, hchange, ih s hrest⟩

theorem quiet_atomic {act : S → Except E α × S} (hact : ∀ s, R s (act s).2) :
    Quiet R (Prog.atomic act) := by
  intro s
  refine ⟨rfl, hact s, ?_⟩
  dsimp only
  split <;> exact trivial

/-- A program that leaves the lock and the guarded value alone may run anywhere. -/
theorem Quiet.safe {p : Prog S E α} (hp : Quiet R p) (hR : ∀ s s', R s s' → G.Same s s')
    (hpost : ∀ r, post stage record r) : G.Safe apply does post stage record p := by
  induction p with
  | pure a => exact hpost (.ok a)
  | fail e => exact hpost (.error e)
  | step ready change rest ih =>
    intro s _
    obtain ⟨hready, hchange, hrest⟩ := hp s
    refine ⟨fun _ => hready, fun _ => ⟨stage, [], .stay (hR _ _ hchange), ?_⟩⟩
    rw [List.append_nil]
    exact ih s hrest

/-- Neither does it fail where its failure is handed on. -/
theorem Quiet.safe_attempt {p : Prog S E α}
    {post : Stage V → List (Op × V) → Except E (Except E α) → Prop} (hp : Quiet R p)
    (hR : ∀ s s', R s s' → G.Same s s') (hpost : ∀ r, post stage record (.ok r)) :
    G.Safe apply does post stage record p.attempt := by
  induction p with
  | pure a => exact hpost (.ok a)
  | fail e => exact hpost (.error e)
  | step ready change rest ih =>
    intro s _
    obtain ⟨hready, hchange, hrest⟩ := hp s
    refine ⟨fun _ => hready, fun _ => ⟨stage, [], .stay (hR _ _ hchange), ?_⟩⟩
    rw [List.append_nil]
    exact ih s hrest

end Quiet

/-! ## What the holders of the lock know -/

/-- The lock is what its holders say, and each knows what it may. -/
structure Kept (G : Guard S V) (stages : List (Stage V)) (s : S) : Prop where
  knows : ∀ stage ∈ stages, G.Knows stage s
  readers : G.readers s = stages.countP Stage.isReading
  writers : (G.writing s).toNat = stages.countP Stage.isWriting

theorem Guard.Knows.same {s s' : S} (hs : G.Knows stage s) (same : G.Same s s') :
    G.Knows stage s' := by
  cases stage with
  | outside => trivial
  | reading found => simpa only [Guard.Knows, same.writing, same.view] using hs
  | writing found now =>
    simpa only [Guard.Knows, same.writing, same.readers, same.view] using hs

theorem countP_replace (p : Stage V → Bool) (before after : List (Stage V))
    (stage stage' : Stage V) :
    (before ++ stage' :: after).countP p + (p stage).toNat =
      (before ++ stage :: after).countP p + (p stage').toNat := by
  simp only [List.countP_append, List.countP_cons]
  cases p stage <;> cases p stage' <;>
    simp only [Bool.toNat_true, Bool.toNat_false, if_true] <;> simp
  all_goals omega

section Kept

variable {s s' : S} {before after : List (Stage V)} {new : List (Op × V)}

theorem Kept.mem (hk : Kept G (before ++ stage :: after) s) : G.Knows stage s :=
  hk.knows stage (by simp)

theorem Kept.others (hk : Kept G (before ++ stage :: after) s) {other : Stage V}
    (hother : other ∈ before ++ after) : G.Knows other s := by
  apply hk.knows
  rcases List.mem_append.mp hother with hmem | hmem
  · exact List.mem_append_left _ hmem
  · exact List.mem_append_right _ (List.mem_cons_of_mem _ hmem)

/-- Beside a writer nobody holds anything. -/
theorem Kept.alone {found now : V} (hk : Kept G (before ++ .writing found now :: after) s)
    {other : Stage V} (hother : other ∈ before ++ after) : other = .outside := by
  obtain ⟨hwriting, -, -⟩ := hk.mem
  have hcount := hk.writers
  rw [hwriting, List.countP_append, List.countP_cons_of_pos rfl, Bool.toNat_true] at hcount
  cases other with
  | outside => rfl
  | reading found' =>
    obtain ⟨hread, -⟩ := hk.others hother
    simp [hwriting] at hread
  | writing found' now' =>
    have hpos : 0 < (before ++ after).countP Stage.isWriting :=
      List.countP_pos_iff.mpr ⟨_, hother, rfl⟩
    rw [List.countP_append] at hpos
    omega

theorem Kept.no_writer {stages : List (Stage V)} (hk : Kept G stages s)
    (hfree : G.writing s = false) {found now : V} : .writing found now ∉ stages := by
  intro hmem
  have hwriting := (hk.knows _ hmem).1
  simp [hfree] at hwriting

theorem Kept.replace (hk : Kept G (before ++ stage :: after) s) (hknows : G.Knows stage' s')
    (hothers : ∀ other ∈ before ++ after, G.Knows other s')
    (hreaders : G.readers s' + stage.isReading.toNat = G.readers s + stage'.isReading.toNat)
    (hwriters : (G.writing s').toNat + stage.isWriting.toNat =
      (G.writing s).toNat + stage'.isWriting.toNat) :
    Kept G (before ++ stage' :: after) s' := by
  have hr := hk.readers
  have hw := hk.writers
  have hr' := countP_replace Stage.isReading before after stage stage'
  have hw' := countP_replace Stage.isWriting before after stage stage'
  refine ⟨?_, by omega, by omega⟩
  intro other hmem
  rcases List.mem_append.mp hmem with hmem | hmem
  · exact hothers other (List.mem_append_left _ hmem)
  · rcases List.mem_cons.mp hmem with rfl | hmem
    · exact hknows
    · exact hothers other (List.mem_append_right _ hmem)

/-- What one program may do leaves the others knowing what they knew. -/
theorem Kept.moves (hk : Kept G (before ++ stage :: after) s)
    (hm : G.Moves apply does stage s s' stage' new) : Kept G (before ++ stage' :: after) s' := by
  have hmine := hk.mem
  cases hm with
  | stay same =>
    exact hk.replace (hmine.same same) (fun other hother => (hk.others hother).same same)
      (by rw [same.readers]) (by rw [same.writing])
  | lockRead free readers writing view =>
    refine hk.replace ⟨writing, view⟩ ?_ ?_ ?_
    · intro other hother
      have hknown := hk.others hother
      cases other with
      | outside => trivial
      | reading found => exact ⟨writing, view.trans hknown.2⟩
      | writing found now => simp [Guard.Knows, free] at hknown
    · simp [Stage.isReading, readers]
    · simp [Stage.isWriting, free, writing]
  | dropRead readers writing view =>
    refine hk.replace trivial ?_ ?_ ?_
    · intro other hother
      have hknown := hk.others hother
      cases other with
      | outside => trivial
      | reading found => exact ⟨writing.trans hknown.1, view.trans hknown.2⟩
      | writing found now => simp [Guard.Knows, hmine.1] at hknown
    · have hpos : 0 < G.readers s := by
        rw [hk.readers]
        exact List.countP_pos_iff.mpr ⟨_, List.mem_append_right _ (List.mem_cons_self ..), rfl⟩
      simp only [Stage.isReading, Bool.toNat_true, Bool.toNat_false]
      omega
    · simp [Stage.isWriting, writing]
  | lockWrite free readers writing view =>
    refine hk.replace ⟨writing, readers, view⟩ ?_ ?_ ?_
    · intro other hother
      have hknown := hk.others hother
      cases other with
      | outside => trivial
      | reading found =>
        have hpos := List.countP_pos_iff.mpr ⟨_, hother, (rfl : (Stage.reading found).isReading)⟩
        have hnone := hk.readers
        rw [free.2, List.countP_append, List.countP_cons] at hnone
        rw [List.countP_append] at hpos
        omega
      | writing found now => simp [Guard.Knows, free.1] at hknown
    · simp [Stage.isReading, readers, free.2]
    · simp [Stage.isWriting, free.1, writing]
  | write readers writing =>
    obtain ⟨hwriting, hnone, -⟩ := hmine
    refine hk.replace ⟨writing.trans hwriting, readers.trans hnone, rfl⟩ ?_ ?_ ?_
    · intro other hother
      obtain rfl := hk.alone hother
      trivial
    · simp [Stage.isReading, readers]
    · simp [Stage.isWriting, writing]
  | dropWrite readers writing =>
    refine hk.replace trivial ?_ ?_ ?_
    · intro other hother
      obtain rfl := hk.alone hother
      trivial
    · simp [Stage.isReading, readers]
    · simp [Stage.isWriting, writing, hmine.1]

end Kept

/-! ## Histories -/

/-- What the operations of a history make of the guarded value. -/
def replay (apply : Op → V → V) (v : V) (history : List (Nat × Op)) : V :=
  history.foldl (fun v entry => apply entry.2 v) v

/-- The operations of program `n`, each with what it finds. -/
def found (apply : Op → V → V) : V → List (Nat × Op) → Nat → List (Op × V)
  | _, [], _ => []
  | v, (m, op) :: history, n =>
    (if m = n then [(op, v)] else []) ++ found apply (apply op v) history n

theorem found_append (v : V) (history more : List (Nat × Op)) (n : Nat) :
    found apply v (history ++ more) n =
      found apply v history n ++ found apply (replay apply v history) more n := by
  induction history generalizing v with
  | nil => rfl
  | cons entry history ih =>
    simp only [List.cons_append, found, ih, List.append_assoc]
    rfl

theorem found_of_forall_ne {v : V} {history : List (Nat × Op)} {n : Nat}
    (h : ∀ entry ∈ history, entry.1 ≠ n) : found apply v history n = [] := by
  induction history generalizing v with
  | nil => rfl
  | cons entry history ih =>
    have hne := h entry (List.mem_cons_self ..)
    simp only [found, if_neg hne, List.nil_append]
    exact ih fun other hmem => h other (List.mem_cons_of_mem _ hmem)

/-- What the operations keep holds wherever one of them finds the value. -/
theorem found_invariant {P : V → Prop} {v : V} {history : List (Nat × Op)} (hv : P v)
    (hstep : ∀ entry ∈ history, ∀ v, P v → P (apply entry.2 v)) {n : Nat} {op : Op} {v' : V}
    (hmem : (op, v') ∈ found apply v history n) : P v' := by
  induction history generalizing v with
  | nil => cases hmem
  | cons entry history ih =>
    rw [found, List.mem_append] at hmem
    rcases hmem with hfirst | hlater
    · split at hfirst
      · obtain ⟨-, rfl⟩ := Prod.mk.inj (List.mem_singleton.mp hfirst)
        exact hv
      · cases hfirst
    · exact ih (hstep entry (List.mem_cons_self ..) v hv)
        (fun other hother => hstep other (List.mem_cons_of_mem _ hother)) hlater

theorem map_found (v : V) (history : List (Nat × Op)) (n : Nat) :
    (found apply v history n).map (·.1) =
      (history.filter fun entry => entry.1 == n).map (·.2) := by
  induction history generalizing v with
  | nil => rfl
  | cons entry history ih =>
    by_cases hn : entry.1 = n <;> simp [found, hn, ih]

/-! ## Pools of programs -/

/-- The memory and what is left of every program that was started, with its label. -/
structure Pool (S E L α : Type) where
  mem : S
  tasks : List (L × Prog S E α)

def Finished (p : Prog S E α) : Prop := (∃ a, p = .pure a) ∨ ∃ e, p = .fail e

/-- One of the programs takes its next step. -/
inductive Step : Pool S E L α → Pool S E L α → Prop
  | run {mem mem' : S} {before after : List (L × Prog S E α)} {l : L} {p q : Prog S E α}
      (next : p.next mem = some (q, mem')) :
      Step ⟨mem, before ++ (l, p) :: after⟩ ⟨mem', before ++ (l, q) :: after⟩

/-- What can come of a pool to which programs arrive at any time when they may. -/
inductive Reachable (task : L → Prog S E α) (may : Pool S E L α → L → Prop)
    (first : Pool S E L α) : Pool S E L α → Prop
  | start : Reachable task may first first
  | arrive {pool : Pool S E L α} {l : L} (reached : Reachable task may first pool)
      (h : may pool l) : Reachable task may first ⟨pool.mem, pool.tasks ++ [(l, task l)]⟩
  | step {pool pool' : Pool S E L α} (reached : Reachable task may first pool)
      (h : Step pool pool') : Reachable task may first pool'

/-- The lock has been let go of. -/
def Closed (post : List (Op × V) → Except E α → Prop) (stage : Stage V)
    (record : List (Op × V)) (r : Except E α) : Prop := stage = .outside ∧ post record r

/-- The history is what the programs have recorded, and accounts for the guarded value.
`marked` says where each of them stands. -/
structure Accounts (G : Guard S V) (apply : Op → V → V) (does : L → Op → Prop)
    (post : L → List (Op × V) → Except E α → Prop) (v : V) (history : List (Nat × Op))
    (marked : List (Stage V × L × Prog S E α)) (pool : Pool S E L α) : Prop where
  tasks : pool.tasks = marked.map (·.2)
  kept : Kept G (marked.map (·.1)) pool.mem
  safe : ∀ n m, marked[n]? = some m →
    G.Safe apply (does m.2.1) (Closed (post m.2.1)) m.1 (found apply v history n) m.2.2
  view : G.writing pool.mem = false → G.view pool.mem = replay apply v history
  writer : ∀ old now, .writing old now ∈ marked.map (·.1) → old = replay apply v history
  mine : ∀ entry ∈ history, ∃ t, pool.tasks[entry.1]? = some t ∧ does t.1 entry.2

/-- There is a history that accounts for the pool. -/
def Sound (G : Guard S V) (apply : Op → V → V) (does : L → Op → Prop)
    (post : L → List (Op × V) → Except E α → Prop) (v : V) (history : List (Nat × Op))
    (pool : Pool S E L α) : Prop := ∃ marked, Accounts G apply does post v history marked pool

section

variable {does : L → Op → Prop} {post : L → List (Op × V) → Except E α → Prop} {v : V}
  {history : List (Nat × Op)} {task : L → Prog S E α} {may : Pool S E L α → L → Prop}
  {pool pool' first : Pool S E L α}

theorem safe_next {mine : Op → Prop} {post : Stage V → List (Op × V) → Except E α → Prop}
    {p q : Prog S E α} {s s' : S} (hp : G.Safe apply mine post stage record p)
    (hs : G.Knows stage s) (hnext : p.next s = some (q, s')) :
    ∃ stage' new, G.Moves apply mine stage s s' stage' new ∧
      G.Safe apply mine post stage' (record ++ new) q := by
  cases p with
  | pure a => cases hnext
  | fail e => cases hnext
  | step ready change rest =>
    simp only [Prog.next] at hnext
    split at hnext
    · rename_i hready
      obtain ⟨rfl, rfl⟩ := Prod.mk.inj (Option.some.inj hnext)
      exact (hp s hs).2 hready
    · cases hnext

/-- A step changes the guarded value as it is recorded, or not at all. -/
theorem Accounts.moves {before after : List (Stage V)} {s s' : S} {new : List (Op × V)} {n : Nat}
    {mine : Op → Prop} (hk : Kept G (before ++ stage :: after) s)
    (hview : G.writing s = false → G.view s = replay apply v history)
    (hwriter : ∀ old now, .writing old now ∈ before ++ stage :: after →
      old = replay apply v history)
    (hm : G.Moves apply mine stage s s' stage' new) :
    ∃ more : List (Nat × Op), (∀ entry ∈ more, entry.1 = n ∧ mine entry.2) ∧
      found apply (replay apply v history) more n = new ∧
      (G.writing s' = false → G.view s' = replay apply v (history ++ more)) ∧
      ∀ old now, .writing old now ∈ before ++ stage' :: after →
        old = replay apply v (history ++ more) := by
  have hk' := hk.moves hm
  have hmem : ∀ {old now}, .writing old now ∈ before ++ stage' :: after →
      .writing old now ≠ stage' → old = replay apply v history := by
    intro old now hin hne
    apply hwriter old now
    simp only [List.mem_append, List.mem_cons] at hin ⊢
    tauto
  have hstage : stage ∈ before ++ stage :: after := by simp
  cases hm with
  | stay same =>
    refine ⟨[], by simp, rfl, ?_, ?_⟩
    · rw [same.writing, same.view, List.append_nil]
      exact hview
    · rw [List.append_nil]
      exact hwriter
  | lockRead free readers writing view =>
    refine ⟨[], by simp, rfl, ?_, fun old now hin => absurd hin (hk'.no_writer writing)⟩
    rw [view, List.append_nil]
    exact fun _ => hview free
  | dropRead readers writing view op hop reads =>
    obtain ⟨hfree, hfound⟩ := hk.mem
    have hold := hview hfree
    refine ⟨[(n, op)], by simp [hop], ?_, ?_,
      fun old now hin => absurd hin (hk'.no_writer (writing.trans hfree))⟩
    · simp [found, ← hold, hfound]
    · intro _
      rw [view, replay, List.foldl_append]
      change G.view s = apply op (replay apply v history)
      rw [← hold, hfound, reads]
  | lockWrite free readers writing view =>
    refine ⟨[], by simp, rfl, by simp [writing], ?_⟩
    intro old now hin
    rw [List.append_nil]
    by_cases hsame : Stage.writing old now = .writing (G.view s) (G.view s)
    · obtain ⟨rfl, -⟩ := Stage.writing.inj hsame
      exact hview free.1
    · exact hmem hin hsame
  | write readers writing =>
    rename_i old₀ now₀
    obtain ⟨hwriting, -, -⟩ := hk.mem
    refine ⟨[], by simp, rfl, by simp [writing, hwriting], ?_⟩
    intro old now hin
    rw [List.append_nil]
    by_cases hsame : Stage.writing old now = .writing old₀ (G.view s')
    · obtain ⟨rfl, -⟩ := Stage.writing.inj hsame
      exact hwriter _ _ hstage
    · exact hmem hin hsame
  | dropWrite readers writing view op hop writes =>
    obtain ⟨-, -, hnow⟩ := hk.mem
    have hold := hwriter _ _ hstage
    refine ⟨[(n, op)], by simp [hop], ?_, ?_,
      fun old now hin => absurd hin (hk'.no_writer writing)⟩
    · simp [found, ← hold]
    · intro _
      rw [view, hnow, replay, List.foldl_append]
      change _ = apply op (replay apply v history)
      rw [← hold, writes]

/-- A step of a program that is not finished adds at most to what it has recorded. -/
theorem Sound.step (hp : Sound G apply does post v history pool) (hs : Step pool pool') :
    ∃ more, Sound G apply does post v (history ++ more) pool' ∧
      ∀ entry ∈ more, ∃ t, pool.tasks[entry.1]? = some t ∧ ¬ Finished t.2 := by
  obtain ⟨marked, htasks, hkept, hsafe, hview, hwriter, hdoes⟩ := hp
  cases hs with
  | @run mem mem' first last l p q next =>
    obtain ⟨before, rest, rfl, rfl, hrest⟩ := List.map_eq_append_iff.mp htasks.symm
    obtain ⟨⟨stage, t⟩, after, rfl, ht, rfl⟩ := List.map_eq_cons_iff.mp hrest
    obtain rfl : t = (l, p) := ht
    simp only [List.map_append, List.map_cons] at hkept hwriter
    obtain ⟨stage', new, hmoves, hq⟩ :=
      safe_next (hsafe before.length (stage, l, p) (by simp)) hkept.mem next
    obtain ⟨more, hmine, hnew, hview', hwriter'⟩ :=
      Accounts.moves (n := before.length) hkept hview hwriter hmoves
    refine ⟨more, ⟨before ++ (stage', l, q) :: after, by simp, ?_, ?_, hview', ?_, ?_⟩, ?_⟩
    · simp only [List.map_append, List.map_cons]
      exact hkept.moves hmoves
    · intro n m hm
      rw [found_append]
      by_cases hn : before.length = n
      · subst hn
        obtain rfl : (stage', l, q) = m := by simpa using hm
        rw [hnew]
        exact hq
      · have hothers : ∀ entry ∈ more, entry.1 ≠ n := fun entry hentry =>
          (hmine entry hentry).1 ▸ hn
        rw [found_of_forall_ne hothers, List.append_nil]
        apply hsafe
        rw [← hm]
        simp only [List.getElem?_append, List.getElem?_cons]
        split
        · rfl
        · rw [if_neg (by omega), if_neg (by omega)]
    · simp only [List.map_append, List.map_cons]
      exact hwriter'
    · intro entry hentry
      rcases List.mem_append.mp hentry with hold | hnew'
      · obtain ⟨t, ht, hop⟩ := hdoes entry hold
        by_cases hn : before.length = entry.1
        · obtain rfl : (l, p) = t := by simpa [← hn] using ht
          exact ⟨(l, q), by simp [← hn], hop⟩
        · refine ⟨t, ?_, hop⟩
          rw [← ht]
          simp only [List.getElem?_append, List.getElem?_cons, List.length_map]
          split
          · rfl
          · rw [if_neg (by omega), if_neg (by omega)]
      · obtain ⟨hn, hop⟩ := hmine entry hnew'
        exact ⟨(l, q), by simp [hn], hop⟩
    · intro entry hentry
      refine ⟨(l, p), by simp [(hmine entry hentry).1], ?_⟩
      rintro (⟨a, rfl⟩ | ⟨e, rfl⟩) <;> cases next

theorem Sound.arrive (hp : Sound G apply does post v history pool) {l : L}
    (h : G.Safe apply (does l) (Closed (post l)) .outside [] (task l)) :
    Sound G apply does post v history ⟨pool.mem, pool.tasks ++ [(l, task l)]⟩ := by
  obtain ⟨marked, htasks, hkept, hsafe, hview, hwriter, hdoes⟩ := hp
  refine ⟨marked ++ [(.outside, l, task l)], by simp [htasks], ?_, ?_, hview, ?_, ?_⟩
  · rw [List.map_append]
    refine ⟨?_, ?_, ?_⟩
    · intro other hother
      rcases List.mem_append.mp hother with hother | hother
      · exact hkept.knows other hother
      · obtain rfl := List.mem_singleton.mp hother
        trivial
    · simpa [Stage.isReading] using hkept.readers
    · simpa [Stage.isWriting] using hkept.writers
  · intro n m hm
    rw [List.getElem?_append] at hm
    split at hm
    · exact hsafe n m hm
    · rename_i hlong
      obtain ⟨hn, rfl⟩ := List.getElem?_eq_some_iff.mp hm
      rw [found_of_forall_ne]
      · simpa using h
      · intro entry hentry heq
        obtain ⟨t, ht, -⟩ := hdoes entry hentry
        have hlt := (List.getElem?_eq_some_iff.mp ht).1
        rw [htasks, List.length_map] at hlt
        omega
  · intro old now hin
    rw [List.map_append] at hin
    rcases List.mem_append.mp hin with hin | hin
    · exact hwriter old now hin
    · cases List.mem_singleton.mp hin
  · intro entry hentry
    obtain ⟨t, ht, hop⟩ := hdoes entry hentry
    exact ⟨t, by rw [List.getElem?_append_left (List.getElem?_eq_some_iff.mp ht).1, ht], hop⟩

/-- Every reachable pool has a history, once every program that may arrive is safe. -/
theorem Reachable.sound {mem : S} (hr : Reachable task may ⟨mem, []⟩ pool) (hfree : G.Free mem)
    (hsafe : ∀ pool l, may pool l → G.Safe apply (does l) (Closed (post l)) .outside [] (task l)) :
    ∃ history, Sound G apply does post (G.view mem) history pool := by
  induction hr with
  | start =>
    refine ⟨[], [], rfl, ⟨by simp, ?_, ?_⟩, by simp, fun _ => rfl, by simp, by simp⟩
    · simp [hfree.2]
    · simp [hfree.1]
  | arrive _ h ih =>
    obtain ⟨history, hsound⟩ := ih
    exact ⟨history, hsound.arrive (hsafe _ _ h)⟩
  | step _ h ih =>
    obtain ⟨history, hsound⟩ := ih
    obtain ⟨more, hsound', -⟩ := hsound.step h
    exact ⟨_, hsound'⟩

theorem Reachable.labels {P : L → Prop} (hr : Reachable task may first pool)
    (hmay : ∀ pool l, may pool l → P l) (hfirst : ∀ t ∈ first.tasks, P t.1) :
    ∀ t ∈ pool.tasks, P t.1 := by
  induction hr with
  | start => exact hfirst
  | arrive _ h ih =>
    intro t ht
    rcases List.mem_append.mp ht with hold | hnew
    · exact ih t hold
    · obtain rfl := List.mem_singleton.mp hnew
      exact hmay _ _ h
  | step _ h ih =>
    cases h with
    | @run mem mem' before after l p q next =>
      intro t ht
      rcases List.mem_append.mp ht with hbefore | hrest
      · exact ih t (List.mem_append_left _ hbefore)
      · rcases List.mem_cons.mp hrest with rfl | hafter
        · exact ih (l, p) (by simp)
        · exact ih t (List.mem_append_right _ (List.mem_cons_of_mem _ hafter))

/-- What has finished stays as it is. -/
theorem Reachable.finished (hr : Reachable task may first pool) {n : Nat} {t : L × Prog S E α}
    (ht : first.tasks[n]? = some t) (hfinished : Finished t.2) : pool.tasks[n]? = some t := by
  induction hr with
  | start => exact ht
  | arrive _ _ ih =>
    rw [List.getElem?_append_left (List.getElem?_eq_some_iff.mp ih).1]
    exact ih
  | step _ h ih =>
    cases h with
    | @run mem mem' before after l p q next =>
      rw [List.getElem?_append] at ih ⊢
      split
      · rwa [if_pos ‹_›] at ih
      · rw [if_neg ‹_›, List.getElem?_cons] at ih
        rw [List.getElem?_cons]
        split
        · rw [if_pos ‹_›] at ih
          obtain rfl := Option.some.inj ih
          rcases hfinished with ⟨a, rfl⟩ | ⟨e, rfl⟩ <;> cases next
        · rwa [if_neg ‹_›] at ih

/-- The history only grows, and what has finished records no more. -/
theorem Sound.reachable (hp : Sound G apply does post v history first)
    (hr : Reachable task may first pool)
    (hsafe : ∀ pool l, may pool l → G.Safe apply (does l) (Closed (post l)) .outside [] (task l)) :
    ∃ more, Sound G apply does post v (history ++ more) pool ∧
      ∀ entry ∈ more, ∀ t, first.tasks[entry.1]? = some t → ¬ Finished t.2 := by
  induction hr with
  | start => exact ⟨[], by rwa [List.append_nil], by simp⟩
  | arrive _ h ih =>
    obtain ⟨more, hsound, hmore⟩ := ih
    exact ⟨more, hsound.arrive (hsafe _ _ h), hmore⟩
  | step hr h ih =>
    obtain ⟨more, hsound, hmore⟩ := ih
    obtain ⟨new, hsound', hnew⟩ := hsound.step h
    rw [List.append_assoc] at hsound'
    refine ⟨more ++ new, hsound', ?_⟩
    intro entry hentry t ht hfinished
    rcases List.mem_append.mp hentry with hold | hentry
    · exact hmore entry hold t ht hfinished
    · obtain ⟨t', ht', hunfinished⟩ := hnew entry hentry
      obtain rfl := Option.some.inj (ht'.symm.trans (hr.finished ht hfinished))
      exact hunfinished hfinished

theorem Sound.ended (hp : Sound G apply does post v history pool) {n : Nat} {l : L} {a : α}
    (ht : pool.tasks[n]? = some (l, .pure a)) : post l (found apply v history n) (.ok a) := by
  obtain ⟨marked, htasks, -, hsafe, -⟩ := hp
  rw [htasks, List.getElem?_map, Option.map_eq_some_iff] at ht
  obtain ⟨⟨stage, _⟩, hm, rfl⟩ := ht
  exact (hsafe n _ hm).2

theorem Sound.view (hp : Sound G apply does post v history pool)
    (hfree : G.writing pool.mem = false) : G.view pool.mem = replay apply v history := by
  obtain ⟨marked, -, -, -, hview, -⟩ := hp
  exact hview hfree

theorem Sound.mine (hp : Sound G apply does post v history pool) :
    ∀ entry ∈ history, ∃ t, pool.tasks[entry.1]? = some t ∧ does t.1 entry.2 := by
  obtain ⟨marked, -, -, -, -, -, hmine⟩ := hp
  exact hmine

theorem Reachable.next {s t : S} {before after : List (L × Prog S E α)} {l : L}
    {p q : Prog S E α} (hr : Reachable task may first ⟨s, before ++ (l, p) :: after⟩)
    (h : p.next s = some (q, t)) : Reachable task may first ⟨t, before ++ (l, q) :: after⟩ :=
  hr.step (.run h)

/-- What is left of a program that has ended. -/
def ended : Except E α → Prog S E α
  | .ok a => .pure a
  | .error e => .fail e

/-- While the others wait a program does what it does alone. -/
theorem Reachable.run {s t : S} {before after : List (L × Prog S E α)} {l : L}
    {p : Prog S E α} {r : Except E α}
    (hr : Reachable task may first ⟨s, before ++ (l, p) :: after⟩)
    (h : p.run s = some (r, t)) :
    Reachable task may first ⟨t, before ++ (l, ended r) :: after⟩ := by
  induction p generalizing s with
  | pure a =>
    obtain ⟨rfl, rfl⟩ := Prod.mk.inj (Option.some.inj h)
    exact hr
  | fail e =>
    obtain ⟨rfl, rfl⟩ := Prod.mk.inj (Option.some.inj h)
    exact hr
  | step ready change rest ih =>
    simp only [Prog.run] at h
    split at h
    · rename_i hready
      exact ih s (hr.next (by simp [Prog.next, hready])) h
    · cases h

/-! ## Every pool finishes -/

theorem next_of_ready {mine : Op → Prop} {post : Stage V → List (Op × V) → Except E α → Prop}
    {p : Prog S E α} {s : S} (hp : G.Safe apply mine post stage record p)
    (hunfinished : ¬ Finished p) (hs : G.Knows stage s) (hfree : stage = .outside → G.Free s) :
    ∃ q s', p.next s = some (q, s') := by
  cases p with
  | pure a => exact absurd (.inl ⟨a, rfl⟩) hunfinished
  | fail e => exact absurd (.inr ⟨e, rfl⟩) hunfinished
  | step ready change rest =>
    refine ⟨rest s, change s, ?_⟩
    simp [Prog.next, (hp s hs).1 hfree]

/-- Programs that let go of the lock in the end do not keep each other waiting: one of
those that have not finished can take a step. -/
theorem Sound.progress (hp : Sound G apply does post v history pool) {t : L × Prog S E α}
    (hmem : t ∈ pool.tasks) (hunfinished : ¬ Finished t.2) : ∃ pool', Step pool pool' := by
  obtain ⟨marked, htasks, hkept, hsafe, -⟩ := hp
  have hgo : ∀ m ∈ marked, ¬ Finished m.2.2 → (m.1 = .outside → G.Free pool.mem) →
      ∃ pool', Step pool pool' := by
    intro m hm hunfinished hfree
    obtain ⟨before, after, rfl⟩ := List.append_of_mem hm
    obtain ⟨q, s', hnext⟩ := next_of_ready (hsafe before.length m (by simp)) hunfinished
      (hkept.knows m.1 (List.mem_map_of_mem hm)) hfree
    obtain ⟨mem, tasks⟩ := pool
    simp only [List.map_append, List.map_cons] at htasks
    subst htasks
    exact ⟨_, .run hnext⟩
  by_cases hholder : ∃ m ∈ marked, m.1 ≠ .outside
  · obtain ⟨m, hm, hholds⟩ := hholder
    refine hgo m hm ?_ fun houtside => absurd houtside hholds
    obtain ⟨n, hn⟩ := List.getElem?_of_mem hm
    have hend := hsafe n m hn
    rintro (⟨a, ha⟩ | ⟨e, he⟩)
    · rw [ha] at hend
      exact hholds hend.1
    · rw [he] at hend
      exact hholds hend.1
  · have hnobody : ∀ stage ∈ marked.map (·.1), stage = .outside := by
      intro stage hstage
      obtain ⟨m, hm, rfl⟩ := List.mem_map.mp hstage
      by_contra hne
      exact hholder ⟨m, hm, hne⟩
    have hfree : G.Free pool.mem := by
      have hreaders := hkept.readers
      have hwriters := hkept.writers
      rw [List.countP_eq_zero.mpr fun stage hstage => by
        simp [hnobody stage hstage, Stage.isReading]] at hreaders
      rw [List.countP_eq_zero.mpr fun stage hstage => by
        simp [hnobody stage hstage, Stage.isWriting]] at hwriters
      exact ⟨by simpa using hwriters, hreaders⟩
    rw [htasks] at hmem
    obtain ⟨m, hm, rfl⟩ := List.mem_map.mp hmem
    exact hgo m hm hunfinished fun _ => hfree

/-- What can be left of a program after a step. -/
def Left (q p : Prog S E α) : Prop := ∃ s s', p.next s = some (q, s')

theorem wellFounded_left : WellFounded (Left (S := S) (E := E) (α := α)) := by
  constructor
  intro p
  induction p with
  | pure a => exact ⟨_, fun q ⟨s, s', h⟩ => by cases h⟩
  | fail e => exact ⟨_, fun q ⟨s, s', h⟩ => by cases h⟩
  | step ready change rest ih =>
    refine ⟨_, ?_⟩
    rintro q ⟨s, s', h⟩
    simp only [Prog.next] at h
    split at h
    · obtain ⟨rfl, -⟩ := Prod.mk.inj (Option.some.inj h)
      exact ih s
    · cases h

/-- The programs of a pool, without their labels. -/
def Pool.left (pool : Pool S E L α) : Multiset (Prog S E α) := pool.tasks.map (·.2)

theorem Step.cutExpand (h : Step pool pool') :
    Relation.CutExpand Left pool'.left pool.left := by
  cases h with
  | @run mem mem' before after l p q next =>
    refine ⟨{q}, p, ?_, ?_⟩
    · intro q' hq'
      obtain rfl := Multiset.mem_singleton.mp hq'
      exact ⟨_, _, next⟩
    · simp only [Pool.left, List.map_append, List.map_cons, ← Multiset.coe_add,
        ← Multiset.cons_coe, ← Multiset.singleton_add]
      ac_rfl

/-- No schedule goes on for ever unless new programs keep arriving. -/
theorem wellFounded_step : WellFounded fun pool' pool : Pool S E L α => Step pool pool' := by
  have hcut := (wellFounded_left (S := S) (E := E) (α := α)).cutExpand
  exact Subrelation.wf (fun h => h.cutExpand) (InvImage.wf Pool.left hcut)

theorem schedule_ends (schedule : Nat → Pool S E L α) :
    ∃ n, ¬ Step (schedule n) (schedule (n + 1)) := by
  have hwf : IsWellFounded (Pool S E L α) fun pool' pool => Step pool pool' := ⟨wellFounded_step⟩
  obtain ⟨n, hn⟩ := @WellFounded.not_rel_apply_succ _ _ hwf schedule
  exact ⟨n, hn⟩

/-- In whatever order, some program takes a step for as long as one can. -/
def Busy (schedule : Nat → Pool S E L α) : Prop :=
  ∀ n, Step (schedule n) (schedule (n + 1)) ∨
    ((∀ next, ¬ Step (schedule n) next) ∧ schedule (n + 1) = schedule n)

theorem Busy.reaches {schedule : Nat → Pool S E L α} (h : Busy schedule) (n : Nat) :
    Relation.ReflTransGen Step (schedule 0) (schedule n) := by
  induction n with
  | zero => exact .refl
  | succ n ih =>
    rcases h n with hstep | ⟨-, hsame⟩
    · exact ih.tail hstep
    · exact hsame ▸ ih

theorem Busy.ends {schedule : Nat → Pool S E L α} (h : Busy schedule) :
    ∃ n, Relation.ReflTransGen Step (schedule 0) (schedule n) ∧
      ∀ next, ¬ Step (schedule n) next := by
  obtain ⟨n, hn⟩ := schedule_ends schedule
  rcases h n with hstep | ⟨hstuck, -⟩
  · exact absurd hstep hn
  · exact ⟨n, h.reaches n, hstuck⟩

theorem exists_busy (pool : Pool S E L α) : ∃ schedule, Busy schedule ∧ schedule 0 = pool := by
  classical
  let next (p : Pool S E L α) : Pool S E L α := if h : ∃ q, Step p q then h.choose else p
  refine ⟨fun n => next^[n] pool, fun n => ?_, rfl⟩
  have hsucc : next^[n + 1] pool = next (next^[n] pool) := Function.iterate_succ_apply' ..
  simp only [hsucc]
  by_cases h : ∃ q, Step (next^[n] pool) q
  · refine .inl ?_
    simp only [next, dif_pos h]
    exact h.choose_spec
  · refine .inr ⟨fun q hq => h ⟨q, hq⟩, ?_⟩
    simp only [next, dif_neg h]

theorem steps_length (h : Relation.ReflTransGen Step pool pool') :
    pool'.tasks.length = pool.tasks.length := by
  induction h with
  | refl => rfl
  | tail _ hstep ih =>
    rw [← ih]
    cases hstep
    simp

theorem Reachable.steps (hr : Reachable task may first pool)
    (h : Relation.ReflTransGen Step pool pool') : Reachable task may first pool' := by
  induction h with
  | refl => exact hr
  | tail _ hstep ih => exact ih.step hstep

end

end Monitor
