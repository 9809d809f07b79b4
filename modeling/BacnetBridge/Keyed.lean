import Mathlib.Data.List.Perm.Basic
import Mathlib.Data.List.Nodup

/-! Lists whose elements have distinct keys, and what putting elements into such
a list by their key makes of it. Nothing here depends on what the elements are. -/
namespace Keyed

variable {α κ : Type} [DecidableEq κ] (key : α → κ)

/-- `x` takes the place of the element with its key, or goes to the end. -/
def put (x : α) : List α → List α
  | [] => [x]
  | y :: ys => if key y = key x then x :: ys else y :: put x ys

def putAll (xs l : List α) : List α := xs.foldl (fun l x => put key x l) l

variable {key} {x y : α} {xs l : List α}

theorem mem_put (h : (l.map key).Nodup) : y ∈ put key x l ↔ y = x ∨ (y ∈ l ∧ key y ≠ key x) := by
  induction l with
  | nil => simp [put]
  | cons z l ih =>
    obtain ⟨hz, hl⟩ := List.nodup_cons.mp h
    by_cases hk : key z = key x
    · have hne : ∀ a ∈ l, key a ≠ key x := fun a ha he =>
        hz (List.mem_map.mpr ⟨a, ha, he.trans hk.symm⟩)
      simp only [put, hk, if_true, List.mem_cons]
      constructor
      · rintro (rfl | hy)
        · exact .inl rfl
        · exact .inr ⟨.inr hy, hne y hy⟩
      · rintro (rfl | ⟨rfl | hy, hy'⟩)
        · exact .inl rfl
        · exact absurd hk hy'
        · exact .inr hy
    · simp only [put, hk, if_false, List.mem_cons, ih hl]
      constructor
      · rintro (rfl | rfl | ⟨hy, hy'⟩)
        · exact .inr ⟨.inl rfl, hk⟩
        · exact .inl rfl
        · exact .inr ⟨.inr hy, hy'⟩
      · rintro (rfl | ⟨rfl | hy, hy'⟩)
        · exact .inr (.inl rfl)
        · exact .inl rfl
        · exact .inr (.inr ⟨hy, hy'⟩)

theorem keys_put : (put key x l).map key = l.map key ∨
    (put key x l).map key = l.map key ++ [key x] ∧ key x ∉ l.map key := by
  induction l with
  | nil => exact .inr ⟨rfl, by simp⟩
  | cons z l ih =>
    by_cases hk : key z = key x
    · exact .inl (by simp [put, hk])
    · rcases ih with h | ⟨h, hx⟩
      · exact .inl (by simp [put, hk, h])
      · refine .inr ⟨by simp [put, hk, h], ?_⟩
        rw [List.map_cons, List.mem_cons, not_or]
        exact ⟨fun he => hk he.symm, hx⟩

theorem nodup_put (h : (l.map key).Nodup) : ((put key x l).map key).Nodup := by
  have hkeys : (put key x l).map key = l.map key ∨
    (put key x l).map key = l.map key ++ [key x] ∧ key x ∉ l.map key := keys_put
  rcases hkeys with hk | ⟨hk, hx⟩
  · rwa [hk]
  · rw [hk]
    exact List.nodup_append.mpr ⟨h, by simp, fun a ha b hb he => hx (by simp_all)⟩

theorem nodup_putAll (h : (l.map key).Nodup) : ((putAll key xs l).map key).Nodup := by
  induction xs generalizing l with
  | nil => exact h
  | cons x xs ih => exact ih (nodup_put h)

theorem mem_putAll (hxs : (xs.map key).Nodup) (h : (l.map key).Nodup) :
    y ∈ putAll key xs l ↔ y ∈ xs ∨ (y ∈ l ∧ key y ∉ xs.map key) := by
  induction xs generalizing l with
  | nil => simp [putAll]
  | cons x xs ih =>
    obtain ⟨hx, hxs⟩ := List.nodup_cons.mp hxs
    have hstep : putAll key (x :: xs) l = putAll key xs (put key x l) := rfl
    rw [hstep, ih hxs (nodup_put h), mem_put h]
    simp only [List.mem_cons, List.map_cons, not_or]
    constructor
    · rintro (hy | ⟨rfl | ⟨hy, hne⟩, hn⟩)
      · exact .inl (.inr hy)
      · exact .inl (.inl rfl)
      · exact .inr ⟨hy, hne, hn⟩
    · rintro ((rfl | hy) | ⟨hy, hne, hn⟩)
      · exact .inr ⟨.inl rfl, hx⟩
      · exact .inl hy
      · exact .inr ⟨.inr ⟨hy, hne⟩, hn⟩

/-- Up to order, what was put in comes first and what it replaced is gone. -/
theorem putAll_perm (hxs : (xs.map key).Nodup) (h : (l.map key).Nodup) :
    (putAll key xs l).Perm (xs ++ l.filter fun y => key y ∉ xs.map key) := by
  refine (List.perm_ext_iff_of_nodup (.of_map key (nodup_putAll h)) ?_).mpr fun y => ?_
  · refine List.nodup_append.mpr ⟨.of_map key hxs, (List.Nodup.of_map key h).filter _, ?_⟩
    rintro a ha b hb rfl
    have hb := (List.mem_filter.mp hb).2
    simp only [decide_eq_true_eq] at hb
    exact hb (List.mem_map_of_mem ha)
  · simp [mem_putAll hxs h, List.mem_filter]

end Keyed
