import Mathlib.Data.List.Induction
import Mathlib.Data.List.Perm.Basic
import Mathlib.Logic.Function.Basic

/-! Items that each assign a value to at most one key, applied one after another:
when the order does not matter. Nothing here depends on what the items are. -/
namespace Assign

variable {α κ : Type} [DecidableEq κ] {V : κ → Type}

/-- What one item makes of an assignment of values to all keys. -/
def assign (entry : α → Option ((k : κ) × V k)) (f : (k : κ) → V k) (a : α) : (k : κ) → V k :=
  (entry a).elim f fun e => Function.update f e.1 e.2

def assignAll (entry : α → Option ((k : κ) × V k)) (f : (k : κ) → V k) (items : List α) :
    (k : κ) → V k :=
  items.foldl (assign entry) f

/-- No two items assign different values to one key. -/
def Agree (entry : α → Option ((k : κ) × V k)) (items : List α) : Prop :=
  ∀ a ∈ items, ∀ b ∈ items, ∀ k v w, entry a = some ⟨k, v⟩ → entry b = some ⟨k, w⟩ → v = w

variable {entry : α → Option ((k : κ) × V k)} {f : (k : κ) → V k} {items items' : List α}

theorem assign_none {a : α} (h : entry a = none) : assign entry f a = f := by
  simp [assign, h]

theorem assign_some {a : α} {k : κ} {v : V k} (h : entry a = some ⟨k, v⟩) :
    assign entry f a = Function.update f k v := by
  simp [assign, h]

/-- Two items that do not disagree on a key can be swapped. -/
theorem assign_comm {a b : α}
    (h : ∀ k v w, entry a = some ⟨k, v⟩ → entry b = some ⟨k, w⟩ → v = w) (f : (k : κ) → V k) :
    assign entry (assign entry f a) b = assign entry (assign entry f b) a := by
  cases ha : entry a with
  | none => simp only [assign_none ha]
  | some e =>
    cases hb : entry b with
    | none => simp only [assign_none hb]
    | some e' =>
      obtain ⟨k, v⟩ := e
      obtain ⟨k', w⟩ := e'
      simp only [assign_some ha, assign_some hb]
      by_cases hk : k' = k
      · subst hk
        obtain rfl := h k' v w ha hb
        rfl
      · exact (Function.update_comm hk w v f).symm

theorem assignAll_perm (h : Agree entry items) (hp : items.Perm items') :
    assignAll entry f items = assignAll entry f items' :=
  hp.foldl_eq' (fun a ha b hb => assign_comm (h a ha b hb)) f

/-- The item that comes last has its way. -/
theorem assignAll_last {a : α} {k : κ} {v : V k} (h : entry a = some ⟨k, v⟩) (items : List α) :
    assignAll entry f (items ++ [a]) k = v := by
  simp [assignAll, List.foldl_append, assign_some h]

/-- The value that an item assigns to a key. -/
def assignedTo (entry : α → Option ((k : κ) × V k)) (k : κ) (a : α) : Option (V k) :=
  (entry a).bind fun e => if h : e.1 = k then some (h ▸ e.2) else none

theorem assign_apply (f : (k : κ) → V k) (a : α) (k : κ) :
    assign entry f a k = (assignedTo entry k a).getD (f k) := by
  cases ha : entry a with
  | none => simp [assign, assignedTo, ha]
  | some e =>
    obtain ⟨k', v⟩ := e
    by_cases hk : k' = k
    · subst hk
      simp [assign, assignedTo, ha]
    · simp [assign, assignedTo, ha, hk, Function.update_of_ne (Ne.symm hk)]

/-- Each key has the value assigned to it last, or the one it had. -/
theorem assignAll_apply (f : (k : κ) → V k) (items : List α) (k : κ) :
    assignAll entry f items k = ((items.filterMap (assignedTo entry k)).getLast?).getD (f k) := by
  induction items using List.reverseRecOn with
  | nil => rfl
  | append_singleton items a ih =>
    have hlast : assignAll entry f (items ++ [a]) = assign entry (assignAll entry f items) a := by
      simp [assignAll]
    rw [hlast, assign_apply, ih]
    cases ha : assignedTo entry k a with
    | none => simp [ha]
    | some v => simp [ha]

/-- The items change nothing exactly if each key has the value assigned to it last. -/
theorem assignAll_eq_self_iff : assignAll entry f items = f ↔
    ∀ k v, (items.filterMap (assignedTo entry k)).getLast? = some v → f k = v := by
  simp only [funext_iff, assignAll_apply]
  refine forall_congr' fun k => ?_
  cases (items.filterMap (assignedTo entry k)).getLast? with
  | none => simp
  | some v => simpa using eq_comm

/-- What has been assigned once stays as it is. -/
theorem assignAll_idem : assignAll entry (assignAll entry f items) items =
    assignAll entry f items := by
  refine assignAll_eq_self_iff.mpr fun k v hlast => ?_
  rw [assignAll_apply, hlast, Option.getD_some]

/-- The order does not matter exactly if the items agree. -/
theorem order_irrelevant_iff : (∀ items', items.Perm items' →
    assignAll entry f items' = assignAll entry f items) ↔ Agree entry items := by
  constructor
  · intro h a ha b hb k v w hv hw
    have hlast : ∀ c ∈ items, ∀ u, entry c = some ⟨k, u⟩ → assignAll entry f items k = u := by
      intro c hc u hu
      obtain ⟨before, after, rfl⟩ := List.append_of_mem hc
      have hp : (before ++ c :: after).Perm ((before ++ after) ++ [c]) :=
        List.perm_middle.trans (List.perm_append_singleton c _).symm
      rw [← h _ hp]
      exact assignAll_last hu _
    exact (hlast a ha v hv).symm.trans (hlast b hb w hw)
  · intro h items' hp
    exact (assignAll_perm h hp).symm

end Assign
