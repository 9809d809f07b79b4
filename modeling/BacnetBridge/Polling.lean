import Mathlib.Data.List.DropRight

/-! A sequence that only grows, read through a window on its newest elements at
moments of the reader's choice: when the readings put together are the sequence
itself. Nothing here depends on what the elements are. -/
namespace Polling

variable {α : Type}

theorem length_rtake (n : Nat) (l : List α) : (l.rtake n).length = min n l.length := by
  unfold List.rtake
  simp only [List.length_drop]
  omega

theorem rtake_of_length_le {n : Nat} {l : List α} (h : l.length ≤ n) : l.rtake n = l := by
  unfold List.rtake
  rw [Nat.sub_eq_zero_of_le h, List.drop_zero]

/-- A window no longer than the newer part does not reach the older one. -/
theorem rtake_append_of_le {n : Nat} (older : List α) {newer : List α} (h : n ≤ newer.length) :
    (older ++ newer).rtake n = newer.rtake n := by
  unfold List.rtake
  have hlen : (older ++ newer).length - n = older.length + (newer.length - n) := by
    rw [List.length_append]
    omega
  rw [hlen, List.drop_append]
  simp

/-- A window within a window. -/
theorem rtake_rtake (m n : Nat) (l : List α) : (l.rtake n).rtake m = l.rtake (min m n) := by
  unfold List.rtake
  rw [List.drop_drop, List.length_drop]
  congr 1
  omega

/-- Older elements that a window has lost do not come back. -/
theorem rtake_append_rtake (n : Nat) (older newer : List α) :
    (older.rtake n ++ newer).rtake n = (older ++ newer).rtake n := by
  unfold List.rtake
  rw [List.drop_append, List.drop_append, List.drop_drop]
  simp only [List.length_append, List.length_drop]
  congr 1 <;> congr 1 <;> omega

theorem rtake_append_rtake_right (n : Nat) (older newer : List α) :
    (older ++ newer.rtake n).rtake n = (older ++ newer).rtake n := by
  by_cases h : newer.length ≤ n
  · rw [rtake_of_length_le h]
  · have hlen := length_rtake n newer
    rw [rtake_append_of_le older (by omega), rtake_append_of_le older (by omega), rtake_rtake,
      Nat.min_self]

/-- A window that reaches beyond the newer part. -/
theorem rtake_append_of_length_le {n : Nat} (older : List α) {newer : List α}
    (h : newer.length ≤ n) :
    (older ++ newer).rtake n = older.rtake (n - newer.length) ++ newer := by
  unfold List.rtake
  have hlen : (older ++ newer).length - n ≤ older.length := by
    rw [List.length_append]
    omega
  rw [List.drop_append_of_le_length hlen, List.length_append]
  congr 2
  omega

theorem rtake_suffix (n : Nat) (l : List α) : l.rtake n <:+ l := List.drop_suffix ..

/-- A shorter window leaves out the older elements of a longer one. -/
theorem rtake_suffix_rtake {m n : Nat} (h : m ≤ n) (l : List α) : l.rtake m <:+ l.rtake n := by
  rw [← Nat.min_eq_left h, ← rtake_rtake]
  exact rtake_suffix m _

/-- A filter does not change a window exactly if it keeps all that is in it. -/
theorem rtake_filter_iff (p : α → Bool) (n : Nat) (l : List α) :
    (l.filter p).rtake n = l.rtake n ↔ ∀ a ∈ l.rtake n, p a := by
  constructor
  · intro h a ha
    rw [← h] at ha
    exact (List.mem_filter.mp ((rtake_suffix n _).mem ha)).2
  · intro h
    obtain ⟨older, hl⟩ := rtake_suffix n l
    have hfilter : l.filter p = older.filter p ++ l.rtake n := by
      conv_lhs => rw [← hl]
      rw [List.filter_append, List.filter_eq_self.mpr h]
    have hlen := length_rtake n l
    by_cases hfull : n ≤ l.length
    · rw [hfilter, rtake_append_of_le _ (by omega), rtake_rtake, Nat.min_self]
    · have hall : l.rtake n = l := rtake_of_length_le (by omega)
      have hkeep : l.filter p = l := by
        rw [List.filter_eq_self, ← hall]
        exact h
      rw [hkeep]

/-- The sequence grows by bursts, and the newest `n` elements are read after each. -/
def windows (n : Nat) (seen : List α) : List (List α) → List (List α)
  | [] => []
  | burst :: bursts => (seen ++ burst).rtake n :: windows n (seen ++ burst) bursts

/-- Every burst fills the window, or there was nothing before it. -/
def Fills (n : Nat) (seen : List α) : List (List α) → Prop
  | [] => True
  | burst :: bursts => (burst.length = n ∨ seen = []) ∧ Fills n (seen ++ burst) bursts

/-- A burst that is not too long comes out whole, and alone exactly if it fills
the window or is all there is. -/
theorem rtake_eq_burst_iff {n : Nat} {seen burst : List α} (h : burst.length ≤ n) :
    (seen ++ burst).rtake n = burst ↔ burst.length = n ∨ seen = [] := by
  constructor
  · intro heq
    have hlen := congrArg List.length heq
    rw [length_rtake, List.length_append] at hlen
    by_cases hn : burst.length = n
    · exact .inl hn
    · exact .inr (List.eq_nil_of_length_eq_zero (by omega))
  · rintro (rfl | rfl)
    · rw [rtake_append_of_le seen (Nat.le_refl _), rtake_of_length_le (Nat.le_refl _)]
    · rw [List.nil_append, rtake_of_length_le h]

/-- What passes a filter comes out as the burst exactly if the whole burst passes, and
nothing before it does unless the burst fills the window. -/
theorem rtake_filter_eq_burst_iff (p : α → Bool) {n : Nat} (seen : List α) {burst : List α}
    (h : burst.length ≤ n) : ((seen ++ burst).filter p).rtake n = burst ↔
      (∀ a ∈ burst, p a) ∧ (burst.length = n ∨ ∀ a ∈ seen, ¬ p a) := by
  have hwhole : (∀ a ∈ burst, p a) → (((seen ++ burst).filter p).rtake n = burst ↔
      burst.length = n ∨ ∀ a ∈ seen, ¬ p a) := by
    intro hall
    rw [List.filter_append, List.filter_eq_self.mpr hall, rtake_eq_burst_iff h,
      List.filter_eq_nil_iff]
  constructor
  · intro heq
    have hall : ∀ a ∈ burst, p a := by
      intro a ha
      rw [← heq] at ha
      exact (List.mem_filter.mp ((rtake_suffix n _).mem ha)).2
    exact ⟨hall, (hwhole hall).mp heq⟩
  · rintro ⟨hall, hrest⟩
    exact (hwhole hall).mpr hrest

theorem length_flatten_windows {n : Nat} (seen : List α) {bursts : List (List α)}
    (h : ∀ burst ∈ bursts, burst.length ≤ n) :
    bursts.flatten.length ≤ (windows n seen bursts).flatten.length := by
  induction bursts generalizing seen with
  | nil => exact Nat.le_refl _
  | cons burst bursts ih =>
    have hburst := h burst (List.mem_cons_self ..)
    have hrest := ih (seen ++ burst) fun b hb => h b (List.mem_cons_of_mem _ hb)
    simp only [windows, List.flatten_cons, List.length_append, length_rtake]
    omega

/-- When no burst is longer than the window, the readings put together are the
bursts put together exactly if every burst fills the window or comes first. -/
theorem flatten_windows_iff {n : Nat} (seen : List α) {bursts : List (List α)}
    (h : ∀ burst ∈ bursts, burst.length ≤ n) :
    (windows n seen bursts).flatten = bursts.flatten ↔ Fills n seen bursts := by
  induction bursts generalizing seen with
  | nil => simp [windows, Fills]
  | cons burst bursts ih =>
    have hburst := h burst (List.mem_cons_self ..)
    have hbursts : ∀ b ∈ bursts, b.length ≤ n := fun b hb => h b (List.mem_cons_of_mem _ hb)
    have hrest := length_flatten_windows (seen ++ burst) hbursts
    simp only [windows, Fills, List.flatten_cons, ← rtake_eq_burst_iff hburst,
      ← ih (seen ++ burst) hbursts]
    constructor
    · intro heq
      -- no reading is shorter than its burst, so none can be longer either
      have hlen := congrArg List.length heq
      simp only [List.length_append, length_rtake] at hlen
      have hfirst : ((seen ++ burst).rtake n).length = burst.length := by
        rw [length_rtake, List.length_append]
        omega
      exact List.append_inj heq hfirst
    · rintro ⟨hfirst, hrest⟩
      rw [hfirst, hrest]

end Polling
