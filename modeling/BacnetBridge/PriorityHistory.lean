import BacnetBridge.Assign
import BacnetBridge.WriteFrame

/-! A history of `update_priority` calls on one object: each slot keeps the value of
its own last call, whatever the calls in between were. -/
namespace BacnetBridge

abbrev PriorityCall := Nat × Option F32

namespace PriorityCall

/-- The slot that a call is for. -/
def slot (call : PriorityCall) : Option (Fin 16) :=
  if h : 1 ≤ call.1 ∧ call.1 ≤ 16 then some ⟨call.1 - 1, by omega⟩ else none

def entry (call : PriorityCall) : Option ((_ : Fin 16) × Option F32) :=
  call.slot.map fun slot => ⟨slot, call.2⟩

theorem slot_eq_some {call : PriorityCall} {slot : Fin 16} :
    call.slot = some slot ↔ call.1 = slot.val + 1 := by
  unfold PriorityCall.slot
  split
  · rename_i h
    simp only [Option.some.injEq, Fin.ext_iff]
    omega
  · rename_i h
    have hslot := slot.isLt
    simp only [reduceCtorEq, false_iff]
    omega

theorem slot_eq_none {call : PriorityCall} : call.slot = none ↔ call.1 = 0 ∨ 16 < call.1 := by
  unfold PriorityCall.slot
  split <;> simp <;> omega

end PriorityCall

namespace ObjectState

/-- Calls of `update_priority`, one after the other. -/
def updateAll (s : ObjectState) (calls : List PriorityCall) : ObjectState :=
  calls.foldl (fun s call => s.updatePriority call.1 call.2) s

/-- The value of the last call with a priority. -/
def lastValue (calls : List PriorityCall) (priority : Nat) : Option (Option F32) :=
  (calls.filter fun call => call.1 = priority).getLast?.map Prod.snd

/-! ## One call -/

theorem updatePriority_of_slot_none {call : PriorityCall} (h : call.slot = none)
    (s : ObjectState) : s.updatePriority call.1 call.2 = s := by
  rw [PriorityCall.slot_eq_none] at h
  exact dif_neg (by omega)

theorem updatePriority_identity (s : ObjectState) (priority : Nat) (value : Option F32) :
    (s.updatePriority priority value).identity = s.identity ∧
      (s.updatePriority priority value).outOfService = s.outOfService := by
  unfold updatePriority
  split <;> exact ⟨rfl, rfl⟩

/-- On the slots a call is an assignment to the one that it is for. -/
theorem get_updatePriority (s : ObjectState) (call : PriorityCall) :
    (s.updatePriority call.1 call.2).priorityArray.get =
      Assign.assign PriorityCall.entry s.priorityArray.get call := by
  funext other
  cases hslot : call.slot with
  | none =>
    rw [updatePriority_of_slot_none hslot, Assign.assign_none]
    simp [PriorityCall.entry, hslot]
  | some slot =>
    have hcall := PriorityCall.slot_eq_some.mp hslot
    have hentry : call.entry = some ⟨slot, call.2⟩ := by
      simp [PriorityCall.entry, hslot]
    have harray : (s.updatePriority call.1 call.2).priorityArray =
        s.priorityArray.set slot call.2 := by
      unfold updatePriority
      rw [dif_pos (by omega)]
      simp [hcall]
    rw [harray, Assign.assign_some hentry]
    change (s.priorityArray.set slot call.2)[other.val] = _
    by_cases hother : other = slot
    · subst hother
      simp
    · have hval : slot.val ≠ other.val := fun h => hother (Fin.ext h.symm)
      rw [Vector.getElem_set_ne _ _ hval, Function.update_of_ne hother]
      rfl

/-! ## Histories -/

theorem get_updateAll (s : ObjectState) (calls : List PriorityCall) :
    (s.updateAll calls).priorityArray.get =
      Assign.assignAll PriorityCall.entry s.priorityArray.get calls := by
  induction calls generalizing s with
  | nil => rfl
  | cons call calls ih =>
    have hrest := ih (s.updatePriority call.1 call.2)
    rwa [get_updatePriority] at hrest

theorem updateAll_identity (s : ObjectState) (calls : List PriorityCall) :
    (s.updateAll calls).identity = s.identity ∧
      (s.updateAll calls).outOfService = s.outOfService := by
  induction calls generalizing s with
  | nil => exact ⟨rfl, rfl⟩
  | cons call calls ih =>
    obtain ⟨hidentity, hout⟩ := ih (s.updatePriority call.1 call.2)
    obtain ⟨hidentity', hout'⟩ := s.updatePriority_identity call.1 call.2
    exact ⟨hidentity.trans hidentity', hout.trans hout'⟩

/-- What is assigned to a slot are the values of the calls for it. -/
theorem assigned_slot (calls : List PriorityCall) (slot : Fin 16) :
    calls.filterMap (Assign.assignedTo PriorityCall.entry slot) =
      (calls.filter fun call => call.1 = slot.val + 1).map Prod.snd := by
  induction calls with
  | nil => rfl
  | cons call calls ih =>
    by_cases hcall : call.1 = slot.val + 1
    · have hassigned : Assign.assignedTo PriorityCall.entry slot call = some call.2 := by
        simp [Assign.assignedTo, PriorityCall.entry, PriorityCall.slot_eq_some.mpr hcall]
      simp [hassigned, hcall, ih]
    · have hassigned : Assign.assignedTo PriorityCall.entry slot call = none := by
        cases hslot : call.slot with
        | none => simp [Assign.assignedTo, PriorityCall.entry, hslot]
        | some other =>
          have hother : other ≠ slot := by
            rintro rfl
            exact hcall (PriorityCall.slot_eq_some.mp hslot)
          simp [Assign.assignedTo, PriorityCall.entry, hslot, hother]
      simp [hassigned, hcall, ih]

theorem slot_updateAll (s : ObjectState) (calls : List PriorityCall) (slot : Fin 16) :
    (s.updateAll calls).priorityArray.get slot =
      (lastValue calls (slot + 1)).getD (s.priorityArray.get slot) := by
  rw [get_updateAll, Assign.assignAll_apply, assigned_slot, lastValue, List.getLast?_map]

/-- Calls for no slot change nothing. -/
theorem updateAll_of_slot_none (s : ObjectState) {calls : List PriorityCall}
    (h : ∀ call ∈ calls, call.slot = none) : s.updateAll calls = s := by
  induction calls with
  | nil => rfl
  | cons call calls ih =>
    obtain ⟨hcall, hcalls⟩ := List.forall_mem_cons.mp h
    have hone := updatePriority_of_slot_none hcall s
    change (s.updatePriority call.1 call.2).updateAll calls = s
    rw [hone]
    exact ih hcalls

/-- A call for a slot has the present value resolved, and no later call undoes it. -/
theorem updateAll_commanded (s : ObjectState) {calls : List PriorityCall}
    (h : s.Commanded ∨ ∃ call ∈ calls, call.slot ≠ none) : (s.updateAll calls).Commanded := by
  induction calls generalizing s with
  | nil => simpa [updateAll] using h
  | cons call calls ih =>
    change ((s.updatePriority call.1 call.2).updateAll calls).Commanded
    apply ih
    by_cases hslot : call.slot = none
    · rw [updatePriority_of_slot_none hslot]
      simpa [hslot] using h
    · rw [PriorityCall.slot_eq_none] at hslot
      exact .inl (updatePriority_commanded s call.2 (by omega))

/-- The present value of a commanded object follows from the rest. -/
theorem Commanded.ext {s s' : ObjectState} (h : s.Commanded) (h' : s'.Commanded)
    (hidentity : s.identity = s'.identity) (hout : s.outOfService = s'.outOfService)
    (hslots : s.priorityArray.get = s'.priorityArray.get) : s = s' := by
  have hvalue := h.eq
  have hvalue' := h'.eq
  have harray : s.priorityArray = s'.priorityArray := by
    ext i hi : 1
    exact congrFun hslots ⟨i, hi⟩
  obtain ⟨_, _, _, _, _, _⟩ := s
  obtain ⟨_, _, _, _, _, _⟩ := s'
  simp_all [identity, resolvePresentValue]

/-- Histories with the same calls for each priority, in the same order, leave the
same object. -/
theorem updateAll_congr (s : ObjectState) {calls calls' : List PriorityCall}
    (h : ∀ priority, calls.filter (fun call => call.1 = priority) =
      calls'.filter fun call => call.1 = priority) : s.updateAll calls = s.updateAll calls' := by
  have hmem : ∀ call, call ∈ calls ↔ call ∈ calls' := by
    intro call
    have hcall := congrArg (call ∈ ·) (h call.1)
    simpa using hcall
  by_cases hnone : ∀ call ∈ calls, call.slot = none
  · have hnone' : ∀ call ∈ calls', call.slot = none := fun call hcall =>
      hnone call ((hmem call).mpr hcall)
    rw [s.updateAll_of_slot_none hnone, s.updateAll_of_slot_none hnone']
  · obtain ⟨call, hcall, hslot⟩ : ∃ call ∈ calls, call.slot ≠ none := by
      simpa using hnone
    have hcommanded := s.updateAll_commanded (.inr ⟨call, hcall, hslot⟩)
    have hcommanded' := s.updateAll_commanded (.inr ⟨call, (hmem call).mp hcall, hslot⟩)
    obtain ⟨hidentity, hout⟩ := s.updateAll_identity calls
    obtain ⟨hidentity', hout'⟩ := s.updateAll_identity calls'
    refine hcommanded.ext hcommanded' (hidentity.trans hidentity'.symm) (hout.trans hout'.symm) ?_
    funext slot
    rw [s.slot_updateAll, s.slot_updateAll, lastValue, lastValue, h]

end ObjectState

/-- After any calls of `update_priority`, each slot holds the value of the last call
with its priority; other priorities change nothing; the present value, once a slot
was named, is the one that the slots command; and the order of calls with different
priorities does not matter. -/
theorem priorities_resolve_by_slot (s : ObjectState) (calls : List PriorityCall) :
    (∀ slot : Fin 16, (s.updateAll calls).priorityArray.get slot =
      (ObjectState.lastValue calls (slot + 1)).getD (s.priorityArray.get slot)) ∧
    (∀ priority value, priority = 0 ∨ 16 < priority →
      (s.updateAll calls).updatePriority priority value = s.updateAll calls) ∧
    ((∃ call ∈ calls, 1 ≤ call.1 ∧ call.1 ≤ 16) → (s.updateAll calls).Commanded) ∧
    ∀ calls' : List PriorityCall, (∀ priority, calls.filter (fun call => call.1 = priority) =
      calls'.filter fun call => call.1 = priority) → s.updateAll calls = s.updateAll calls' := by
  refine ⟨s.slot_updateAll calls, ?_, ?_, fun _ => s.updateAll_congr⟩
  · intro priority value hpriority
    have hslot : PriorityCall.slot (priority, value) = none :=
      PriorityCall.slot_eq_none.mpr hpriority
    exact ObjectState.updatePriority_of_slot_none hslot _
  · rintro ⟨call, hcall, hrange⟩
    refine s.updateAll_commanded (.inr ⟨call, hcall, ?_⟩)
    rw [Ne, PriorityCall.slot_eq_none]
    omega

end BacnetBridge
