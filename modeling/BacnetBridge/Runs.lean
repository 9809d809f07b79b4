import Mathlib.Data.List.Infix

/-! Runs of a deterministic machine that takes one input at a time and can
stop: what holds in every state a run reaches, and before every step it
takes. Nothing here depends on what the machine is. -/
namespace Runs

variable {S I : Type}

/-- The state after the inputs, or `none` when the machine has stopped. -/
def after (step : S → I → Option S) : S → List I → Option S
  | s, [] => some s
  | s, i :: is => (step s i).bind (after step · is)

@[simp] theorem after_nil (step : S → I → Option S) (s : S) : after step s [] = some s := rfl

@[simp] theorem after_cons (step : S → I → Option S) (s : S) (i : I) (is : List I) :
    after step s (i :: is) = (step s i).bind (after step · is) := rfl

theorem after_append (step : S → I → Option S) (s : S) (as bs : List I) :
    after step s (as ++ bs) = (after step s as).bind (after step · bs) := by
  induction as generalizing s with
  | nil => rfl
  | cons a as ih =>
    cases h : step s a with
    | none => simp [h]
    | some t => simp [h, ih]

/-- `P` holds in every state the run passes through, both ends included. -/
def Always (step : S → I → Option S) (s : S) (is : List I) (P : S → Prop) : Prop :=
  ∀ seen, seen <+: is → ∀ t, after step s seen = some t → P t

/-- `P` holds of every input the run takes, in the state it is taken in. -/
def Each (step : S → I → Option S) (s : S) (is : List I) (P : S → I → Prop) : Prop :=
  ∀ seen i, seen ++ [i] <+: is → ∀ t, after step s seen = some t → P t i

theorem Always.start {step : S → I → Option S} {s : S} {is : List I} {P : S → Prop}
    (h : Always step s is P) : P s := h [] List.nil_prefix s rfl

theorem always_nil {step : S → I → Option S} {s : S} {P : S → Prop} :
    Always step s [] P ↔ P s := by
  constructor
  · exact Always.start
  · intro h seen hp t ht
    obtain rfl := List.prefix_nil.mp hp
    simpa [← Option.some.inj ht] using h

theorem always_cons {step : S → I → Option S} {s : S} {i : I} {is : List I} {P : S → Prop} :
    Always step s (i :: is) P ↔ P s ∧ ∀ t, step s i = some t → Always step t is P := by
  constructor
  · intro h
    constructor
    · exact h.start
    · intro t ht seen hp u hu
      exact h (i :: seen) (List.cons_prefix_cons.mpr ⟨rfl, hp⟩) u (by simp [ht, hu])
  · rintro ⟨h0, h⟩ seen hp u hu
    cases seen with
    | nil => simpa [← Option.some.inj hu] using h0
    | cons j seen =>
      obtain ⟨rfl, hseen⟩ := List.cons_prefix_cons.mp hp
      cases ht : step s j with
      | none => simp [ht] at hu
      | some t => exact h t ht seen hseen u (by simpa [ht] using hu)

theorem each_nil {step : S → I → Option S} {s : S} {P : S → I → Prop} : Each step s [] P := by
  intro seen i hp
  simp at hp

theorem each_cons {step : S → I → Option S} {s : S} {i : I} {is : List I} {P : S → I → Prop} :
    Each step s (i :: is) P ↔ P s i ∧ ∀ t, step s i = some t → Each step t is P := by
  constructor
  · intro h
    constructor
    · exact h [] i (by simp) s rfl
    · intro t ht seen j hp u hu
      exact h (i :: seen) j (by simpa using hp) u (by simp [ht, hu])
  · rintro ⟨h0, h⟩ seen j hp u hu
    cases seen with
    | nil =>
      obtain rfl : j = i := by simpa using hp
      simpa [← Option.some.inj hu] using h0
    | cons k seen =>
      obtain ⟨rfl, hseen⟩ : k = i ∧ seen ++ [j] <+: is := by simpa using hp
      cases ht : step s k with
      | none => simp [ht] at hu
      | some t => exact h t ht seen j hseen u (by simpa [ht] using hu)

theorem always_append {step : S → I → Option S} {s : S} {as bs : List I} {P : S → Prop} :
    Always step s (as ++ bs) P ↔
      Always step s as P ∧ ∀ t, after step s as = some t → Always step t bs P := by
  induction as generalizing s with
  | nil => simpa [always_nil] using Always.start
  | cons a as ih =>
    rw [List.cons_append, always_cons, always_cons, and_assoc]
    apply and_congr_right
    intro _
    cases ht : step s a with
    | none => simp [ht]
    | some t => simpa [ht] using ih

theorem each_append {step : S → I → Option S} {s : S} {as bs : List I} {P : S → I → Prop} :
    Each step s (as ++ bs) P ↔
      Each step s as P ∧ ∀ t, after step s as = some t → Each step t bs P := by
  induction as generalizing s with
  | nil => simp [each_nil]
  | cons a as ih =>
    rw [List.cons_append, each_cons, each_cons, and_assoc]
    apply and_congr_right
    intro _
    cases ht : step s a with
    | none => simp [ht]
    | some t => simpa [ht] using ih

/-- A run is judged up to a state, and the rest of it from there. -/
theorem Always.append {step : S → I → Option S} {s t : S} {as bs : List I} {P : S → Prop}
    (h : Always step s as P) (ht : after step s as = some t) (hbs : Always step t bs P) :
    Always step s (as ++ bs) P := by
  rw [always_append]
  constructor
  · exact h
  · intro u hu
    obtain rfl := Option.some.inj (ht.symm.trans hu)
    exact hbs

theorem Each.append {step : S → I → Option S} {s t : S} {as bs : List I} {P : S → I → Prop}
    (h : Each step s as P) (ht : after step s as = some t) (hbs : Each step t bs P) :
    Each step s (as ++ bs) P := by
  rw [each_append]
  constructor
  · exact h
  · intro u hu
    obtain rfl := Option.some.inj (ht.symm.trans hu)
    exact hbs

/-- What each input has, it may be granted in view of an invariant. -/
theorem Each.mono_of_always {step : S → I → Option S} {s : S} {is : List I} {inv : S → Prop}
    {P Q : S → I → Prop} (h : Each step s is P) (hinv : Always step s is inv)
    (hpq : ∀ t i, inv t → P t i → Q t i) : Each step s is Q :=
  fun seen i hp t ht =>
    hpq t i (hinv seen ((List.prefix_append seen [i]).trans hp) t ht) (h seen i hp t ht)

/-- An invariant that every permitted step keeps, among the states the run can
reach, holds along a run whose steps are all permitted. -/
theorem always_of_each {step : S → I → Option S} {reached inv : S → Prop} {ok : S → I → Prop}
    (keeps : ∀ s i t, reached s → inv s → ok s i → step s i = some t → inv t)
    {s : S} {is : List I} (hr : Always step s is reached) (h0 : inv s) (h : Each step s is ok) :
    Always step s is inv := by
  induction is generalizing s with
  | nil => exact always_nil.mpr h0
  | cons i is ih =>
    obtain ⟨hr0, hrest⟩ := always_cons.mp hr
    obtain ⟨hi, hok⟩ := each_cons.mp h
    exact always_cons.mpr
      ⟨h0, fun t ht => ih (hrest t ht) (keeps s i t hr0 h0 hi ht) (hok t ht)⟩

theorem always_of_permitted {step : S → I → Option S} {inv : S → Prop} {ok : S → I → Prop}
    (keeps : ∀ s i t, inv s → ok s i → step s i = some t → inv t) {s : S} {is : List I}
    (h0 : inv s) (h : Each step s is ok) : Always step s is inv :=
  always_of_each (fun s i t (_ : True) hs hi ht => keeps s i t hs hi ht)
    (fun _ _ _ _ => trivial) h0 h

theorem always_of_step {step : S → I → Option S} {inv : S → Prop}
    (keeps : ∀ s i t, inv s → step s i = some t → inv t) {s : S} (h0 : inv s) (is : List I) :
    Always step s is inv :=
  always_of_permitted (fun s i t h (_ : True) ht => keeps s i t h ht) h0 fun _ _ _ _ _ => trivial

/-- When, among the states a run can reach, a step keeps the invariant exactly
if it is permitted, a run keeps the invariant throughout exactly if every step
it takes is permitted. -/
theorem always_iff_each {step : S → I → Option S} {reached inv : S → Prop} {ok : S → I → Prop}
    (exact_ : ∀ s i t, reached s → inv s → step s i = some t → (inv t ↔ ok s i))
    (stops : ∀ s i, reached s → inv s → step s i = none → ok s i)
    {s : S} {is : List I} (hr : Always step s is reached) (h0 : inv s) :
    Always step s is inv ↔ Each step s is ok := by
  induction is generalizing s with
  | nil => exact ⟨fun _ => each_nil, fun _ => always_nil.mpr h0⟩
  | cons i is ih =>
    obtain ⟨hr0, hrest⟩ := always_cons.mp hr
    rw [always_cons, each_cons]
    cases ht : step s i with
    | none => simpa using ⟨fun _ => stops s i hr0 h0 ht, fun _ => h0⟩
    | some t =>
      have ht' := exact_ s i t hr0 h0 ht
      have hrt := hrest t ht
      constructor
      · rintro ⟨_, h⟩
        have hall := h t rfl
        exact ⟨ht'.mp hall.start, fun u hu => by
          obtain rfl := Option.some.inj hu; exact (ih hrt hall.start).mp hall⟩
      · rintro ⟨hi, h⟩
        exact ⟨h0, fun u hu => by
          obtain rfl := Option.some.inj hu; exact (ih hrt (ht'.mpr hi)).mpr (h t rfl)⟩

/-- Two conditions on steps that agree wherever an invariant holds, which the steps
that meet them keep, are met along the same runs. -/
theorem each_iff_each {step : S → I → Option S} {inv : S → Prop} {P Q : S → I → Prop}
    (agree : ∀ s i, inv s → (P s i ↔ Q s i))
    (keeps : ∀ s i t, inv s → P s i → step s i = some t → inv t) {s : S} {is : List I}
    (h0 : inv s) : Each step s is P ↔ Each step s is Q := by
  constructor
  · intro h
    have hinv := always_of_permitted keeps h0 h
    exact h.mono_of_always hinv fun t i ht => (agree t i ht).mp
  · intro h
    have hinv := always_of_permitted
      (fun s i t hs hq => keeps s i t hs ((agree s i hs).mpr hq)) h0 h
    exact h.mono_of_always hinv fun t i ht => (agree t i ht).mpr

/-- A run comes to its end exactly if the machine never stops on an input. -/
theorem after_isSome_iff {step : S → I → Option S} {s : S} {is : List I} :
    (after step s is).isSome ↔ Each step s is fun s i => (step s i).isSome := by
  induction is generalizing s with
  | nil => simp [each_nil]
  | cons i is ih =>
    rw [each_cons]
    cases ht : step s i with
    | none => simp [ht]
    | some t => simpa [ht] using ih

end Runs
