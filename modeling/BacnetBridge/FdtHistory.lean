import Mathlib.Data.List.Induction
import Mathlib.Logic.Function.Basic
import BacnetBridge.Fdt

/-! `FdtManager` as a map from foreign devices to registrations that expire, and
what a history of its operations leaves in it. -/
namespace BacnetBridge

inductive FdtOp
  | add (ip : Vector UInt8 4) (port ttl : UInt16)
  | remove (ip : Vector UInt8 4) (port : UInt16)
  | tick
  deriving DecidableEq, Repr

/-- An operation and the instant at which it is called. -/
structure FdtEvent where
  now : Nat
  op : FdtOp
  deriving DecidableEq, Repr

def FdtManager.apply (m : FdtManager) (event : FdtEvent) : FdtManager :=
  match event.op with
  | .add ip port ttl => m.add ip port ttl event.now
  | .remove ip port => m.remove ip port
  | .tick => m.tick event.now

def FdtManager.applyAll (m : FdtManager) (history : List FdtEvent) : FdtManager :=
  history.foldl FdtManager.apply m

/-! ## The map -/

abbrev ForeignDevice := Vector UInt8 4 × UInt16

structure Registration where
  ttl : UInt16
  registeredAt : Nat
  deriving DecidableEq, Repr

/-- More than the ttl and the grace period have passed, in whole seconds. -/
def Registration.Expired (now : Nat) (r : Registration) : Prop :=
  r.ttl.toNat + 30 < elapsedSecs now r.registeredAt

instance (now : Nat) (r : Registration) : Decidable (r.Expired now) :=
  inferInstanceAs (Decidable (_ < _))

abbrev Registrations := ForeignDevice → Option Registration

def Registrations.apply (r : Registrations) (event : FdtEvent) : Registrations :=
  match event.op with
  | .add ip port ttl => Function.update r (ip, port) (some ⟨ttl, event.now⟩)
  | .remove ip port => Function.update r (ip, port) none
  | .tick => fun device => (r device).filter fun reg => ¬ reg.Expired event.now

def Registrations.applyAll (r : Registrations) (history : List FdtEvent) : Registrations :=
  history.foldl Registrations.apply r

theorem FdtManager.keeps_iff {now : Nat} {e : FdtEntry} :
    FdtManager.keeps now e = true ↔ elapsedSecs now e.registeredAt ≤ e.ttl.toNat + 30 :=
  decide_eq_true_iff

/-- The entry that stands for a registration. -/
def Registration.entry (r : Registration) (device : ForeignDevice) : FdtEntry :=
  ⟨device.1, device.2, r.ttl, r.registeredAt⟩

/-- One entry for each registered device. -/
structure FdtManager.Represents (m : FdtManager) (r : Registrations) : Prop where
  nodup : (m.entries.map FdtEntry.device).Nodup
  mem : ∀ device reg, reg.entry device ∈ m.entries ↔ r device = some reg

theorem FdtManager.represents_new : FdtManager.new.Represents fun _ => none := by
  constructor <;> simp [FdtManager.new]

/-- Each operation does to the entries what it does to the map. -/
theorem FdtManager.Represents.apply {m : FdtManager} {r : Registrations} (h : m.Represents r)
    (event : FdtEvent) : (m.apply event).Represents (r.apply event) := by
  obtain ⟨now, op⟩ := event
  cases op with
  | add ip port ttl =>
    constructor
    · exact Keyed.nodup_put h.nodup
    · intro device reg
      change reg.entry device ∈ Keyed.put FdtEntry.device ⟨ip, port, ttl, now⟩ m.entries ↔
        Function.update r (ip, port) (some ⟨ttl, now⟩) device = some reg
      rw [Keyed.mem_put h.nodup, h.mem]
      by_cases hdevice : device = (ip, port)
      · subst hdevice
        obtain ⟨ttl', registeredAt⟩ := reg
        simp [Registration.entry, FdtEntry.device, eq_comm]
      · obtain ⟨ip', port'⟩ := device
        simp_all [Registration.entry, FdtEntry.device]
  | remove ip port =>
    constructor
    · exact h.nodup.sublist (List.filter_sublist.map _)
    · intro device reg
      change reg.entry device ∈ m.entries.filter (fun e => e.device ≠ (ip, port)) ↔
        Function.update r (ip, port) none device = some reg
      rw [List.mem_filter, h.mem]
      by_cases hdevice : device = (ip, port)
      · subst hdevice
        simp [Registration.entry, FdtEntry.device]
      · simp_all [Registration.entry, FdtEntry.device]
  | tick =>
    constructor
    · exact h.nodup.sublist (List.filter_sublist.map _)
    · intro device reg
      change reg.entry device ∈ m.entries.filter (FdtManager.keeps now) ↔
        (r device).filter (fun reg => ¬ reg.Expired now) = some reg
      rw [List.mem_filter, h.mem, Option.filter_eq_some_iff, FdtManager.keeps_iff]
      simp [Registration.entry, Registration.Expired]

theorem FdtManager.Represents.applyAll {m : FdtManager} {r : Registrations} (h : m.Represents r)
    (history : List FdtEvent) : (m.applyAll history).Represents (r.applyAll history) := by
  induction history generalizing m r with
  | nil => exact h
  | cons event history ih => exact ih (h.apply event)

/-! ## Histories -/

/-- The event takes the registration away: another one comes in its place, it is
removed, or it is found expired. -/
def FdtEvent.Ends (event : FdtEvent) (device : ForeignDevice) (reg : Registration) : Prop :=
  match event.op with
  | .add ip port _ => (ip, port) = device
  | .remove ip port => (ip, port) = device
  | .tick => reg.Expired event.now

/-- The registration of a device with the ttl, at the instant. -/
def Registration.event (reg : Registration) (device : ForeignDevice) : FdtEvent :=
  ⟨reg.registeredAt, .add device.1 device.2 reg.ttl⟩

/-- The device was last added with this ttl at this instant, and since then neither
removed nor found expired. -/
def Registered (history : List FdtEvent) (device : ForeignDevice) (reg : Registration) : Prop :=
  ∃ before since, history = before ++ reg.event device :: since ∧
    ∀ event ∈ since, ¬ event.Ends device reg

theorem not_registered_nil (device : ForeignDevice) (reg : Registration) :
    ¬ Registered [] device reg := by
  rintro ⟨before, since, hsplit, -⟩
  simp at hsplit

theorem registered_concat {history : List FdtEvent} {event : FdtEvent} {device : ForeignDevice}
    {reg : Registration} : Registered (history ++ [event]) device reg ↔
      event = reg.event device ∨ Registered history device reg ∧ ¬ event.Ends device reg := by
  constructor
  · rintro ⟨before, since, hsplit, hsince⟩
    rcases List.eq_nil_or_concat since with rfl | ⟨since, last, rfl⟩
    · obtain ⟨-, hlast⟩ := List.append_inj' hsplit rfl
      exact .inl (List.singleton_inj.mp hlast)
    · rw [List.concat_eq_append, ← List.cons_append, ← List.append_assoc] at hsplit
      obtain ⟨rfl, hlast⟩ := List.append_inj' hsplit rfl
      obtain rfl := List.singleton_inj.mp hlast
      have hends := hsince event (by simp)
      exact .inr ⟨⟨before, since, rfl, fun e he => hsince e (by simp [he])⟩, hends⟩
  · rintro (rfl | ⟨⟨before, since, rfl, hsince⟩, hends⟩)
    · exact ⟨history, [], rfl, by simp⟩
    · refine ⟨before, since ++ [event], by simp, ?_⟩
      intro e he
      rcases List.mem_append.mp he with he | he
      · exact hsince e he
      · obtain rfl := List.mem_singleton.mp he
        exact hends

/-- One event makes a registration or leaves it, unless it ends it. -/
theorem Registrations.apply_eq_some {r : Registrations} {event : FdtEvent}
    {device : ForeignDevice} {reg : Registration} : r.apply event device = some reg ↔
      event = reg.event device ∨ r device = some reg ∧ ¬ event.Ends device reg := by
  obtain ⟨now, op⟩ := event
  cases op with
  | add ip port ttl =>
    by_cases hdevice : (ip, port) = device
    · subst hdevice
      obtain ⟨ttl', registeredAt⟩ := reg
      simp [Registrations.apply, FdtEvent.Ends, Registration.event]
      tauto
    · have hother : device ≠ (ip, port) := Ne.symm hdevice
      obtain ⟨ip', port'⟩ := device
      simp_all [Registrations.apply, FdtEvent.Ends, Registration.event, Function.update_of_ne]
  | remove ip port =>
    by_cases hdevice : (ip, port) = device
    · subst hdevice
      simp [Registrations.apply, FdtEvent.Ends, Registration.event]
    · have hother : device ≠ (ip, port) := Ne.symm hdevice
      simp [Registrations.apply, FdtEvent.Ends, Registration.event, hdevice,
        Function.update_of_ne hother]
  | tick =>
    simp [Registrations.apply, FdtEvent.Ends, Registration.event, Option.filter_eq_some_iff]

theorem applyAll_iff_registered (history : List FdtEvent) (device : ForeignDevice)
    (reg : Registration) :
    Registrations.applyAll (fun _ => none) history device = some reg ↔
      Registered history device reg := by
  induction history using List.reverseRecOn with
  | nil => simp [Registrations.applyAll, not_registered_nil]
  | append_singleton history event ih =>
    have hlast : Registrations.applyAll (fun _ => none) (history ++ [event]) =
        (Registrations.applyAll (fun _ => none) history).apply event := by
      simp [Registrations.applyAll]
    rw [hlast, Registrations.apply_eq_some, registered_concat, ih]

/-- What is left right after a tick has at most the grace period behind its ttl. -/
theorem remaining_after_tick (m : FdtManager) (now epoch : Nat) :
    ∀ d ∈ (m.tick now).list now epoch, -30 ≤ d.remainingTtl ∧ d.remainingTtl ≤ d.ttl.toNat := by
  intro d hd
  obtain ⟨e, he, rfl⟩ := List.mem_map.mp hd
  have hkeeps := FdtManager.keeps_iff.mp (List.mem_filter.mp he).2
  simp only [FdtManager.display]
  omega

/-- After any history of operations there is one entry for each device that was
added and whose last registration was neither removed since nor found expired by a
tick, with the ttl and the instant of that registration; and right after a tick no
entry is shown as overdue by more than the grace period. -/
theorem fdt_history (history : List FdtEvent) :
    ((FdtManager.new.applyAll history).entries.map FdtEntry.device).Nodup ∧
    (∀ device, (∃ e ∈ (FdtManager.new.applyAll history).entries, e.device = device) ↔
      ∃ reg, Registered history device reg) ∧
    (∀ e ∈ (FdtManager.new.applyAll history).entries,
      Registered history e.device ⟨e.ttl, e.registeredAt⟩) ∧
    ∀ now epoch, ∀ d ∈ ((FdtManager.new.applyAll history).tick now).list now epoch,
      -30 ≤ d.remainingTtl ∧ d.remainingTtl ≤ d.ttl.toNat := by
  have hrepresents := FdtManager.represents_new.applyAll history
  have hmem : ∀ device reg, reg.entry device ∈ (FdtManager.new.applyAll history).entries ↔
      Registered history device reg := by
    intro device reg
    rw [hrepresents.mem, applyAll_iff_registered]
  refine ⟨hrepresents.nodup, ?_, fun e he => (hmem e.device ⟨e.ttl, e.registeredAt⟩).mp he,
    remaining_after_tick _⟩
  intro device
  constructor
  · rintro ⟨e, he, rfl⟩
    exact ⟨⟨e.ttl, e.registeredAt⟩, (hmem _ _).mp he⟩
  · rintro ⟨reg, hreg⟩
    exact ⟨reg.entry device, (hmem device reg).mpr hreg, rfl⟩

end BacnetBridge
