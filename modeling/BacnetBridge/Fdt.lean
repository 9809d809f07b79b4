import Mathlib.Algebra.BigOperators.Group.List.Basic
import Mathlib.Algebra.GroupWithZero.Nat
import Mathlib.Algebra.Ring.Int.Defs
import BacnetBridge.Keyed
import BacnetBridge.Runs

/-! `fdt.rs` and the task in `router_cmd.rs` that keeps it: the foreign device
table as the dashboard shows it, next to the BBMD's own. Instants and durations
are nanoseconds. -/
namespace BacnetBridge

/-- `FdtEntry` of the transport crate, which `FdtManager` uses as well. -/
structure FdtEntry where
  ip : Vector UInt8 4
  port : UInt16
  ttl : UInt16
  registeredAt : Nat
  deriving DecidableEq, Repr

def FdtEntry.device (e : FdtEntry) : Vector UInt8 4 × UInt16 := (e.ip, e.port)

structure FdtDisplayEntry where
  ip : String
  port : UInt16
  ttl : UInt16
  remainingTtl : Int
  registeredAt : String
  deriving DecidableEq, Repr

/-! ## Texts -/

def isLeap (year : Nat) : Bool := (year % 4 == 0 && year % 100 != 0) || year % 400 == 0

def yearDays (year : Nat) : Nat := if isLeap year then 366 else 365

/-- The year, and the day in it, of a day counted from the start of `year`. -/
def civilYear (year day : Nat) : Nat × Nat :=
  if day < yearDays year then (year, day) else civilYear (year + 1) (day - yearDays year)
termination_by day
decreasing_by
  have hpos : 365 ≤ yearDays year := by unfold yearDays; split <;> omega
  omega

def monthDays (year : Nat) : List Nat :=
  [31, if isLeap year then 29 else 28, 31, 30, 31, 30, 31, 31, 30, 31, 30, 31]

def civilMonth (month day : Nat) : List Nat → Nat × Nat
  | [] => (month, day)
  | days :: rest => if day < days then (month, day) else civilMonth (month + 1) (day - days) rest

/-- `format!("{:0width$}", n)`. -/
def zeroPadded (width n : Nat) : String :=
  let digits := toString n
  "".pushn '0' (width - digits.length) ++ digits

def epochToIso (secs millis : Nat) : String :=
  let days := secs / 86400
  let rem := secs % 86400
  let hours := rem / 3600
  let rem := rem % 3600
  let minutes := rem / 60
  let seconds := rem % 60
  let (year, dayOfYear) := civilYear 1970 days
  let (month, dayOfMonth) := civilMonth 1 dayOfYear (monthDays year)
  zeroPadded 4 year ++ "-" ++ zeroPadded 2 month ++ "-" ++ zeroPadded 2 (dayOfMonth + 1) ++ "T" ++
    zeroPadded 2 hours ++ ":" ++ zeroPadded 2 minutes ++ ":" ++ zeroPadded 2 seconds ++ "." ++
    zeroPadded 3 millis ++ "Z"

def ipText (ip : Vector UInt8 4) : String :=
  toString ip[0] ++ "." ++ toString ip[1] ++ "." ++ toString ip[2] ++ "." ++ toString ip[3]

/-! ## The manager -/

/-- `Instant::elapsed().as_secs()` at `now`; an instant yet to come has elapsed 0. -/
def elapsedSecs (now instant : Nat) : Nat := (now - instant) / 1000000000

def gracePeriodSecs : Nat := 30

structure FdtManager where
  entries : List FdtEntry
  deriving DecidableEq, Repr

namespace FdtManager

def new : FdtManager := ⟨[]⟩

/-- The wall clock shows `epoch` since the UNIX epoch. -/
def display (now epoch : Nat) (entry : FdtEntry) : FdtDisplayEntry :=
  let regEpoch := epoch - (now - entry.registeredAt)
  { ip := ipText entry.ip
    port := entry.port
    ttl := entry.ttl
    remainingTtl := (entry.ttl.toNat : Int) - elapsedSecs now entry.registeredAt
    registeredAt := epochToIso (regEpoch / 1000000000) (regEpoch % 1000000000 / 1000000) }

def list (m : FdtManager) (now epoch : Nat) : List FdtDisplayEntry :=
  m.entries.map (display now epoch)

def keeps (now : Nat) (e : FdtEntry) : Bool :=
  decide (elapsedSecs now e.registeredAt ≤ e.ttl.toNat + gracePeriodSecs)

def tick (m : FdtManager) (now : Nat) : FdtManager := ⟨m.entries.filter (keeps now)⟩

/-- An entry of the same device gets the new ttl and instant in its place. -/
def add (m : FdtManager) (ip : Vector UInt8 4) (port ttl : UInt16) (now : Nat) : FdtManager :=
  ⟨Keyed.put FdtEntry.device ⟨ip, port, ttl, now⟩ m.entries⟩

def remove (m : FdtManager) (ip : Vector UInt8 4) (port : UInt16) : FdtManager :=
  ⟨m.entries.filter fun e => e.device ≠ (ip, port)⟩

end FdtManager

/-! ## The sync task -/

/-- One round of the sync task: when it happens, and the BBMD's table if there
is a BBMD behind the handle. -/
structure Round where
  now : Nat
  epoch : Nat
  bbmd : Option (List FdtEntry)
  deriving DecidableEq, Repr

/-- The BBMD has one entry for each foreign device. -/
def Round.OnePerDevice (r : Round) : Prop :=
  ∀ table, r.bbmd = some table → (table.map FdtEntry.device).Nodup

/-- The body of the loop: every entry of the BBMD is added, and then the rest is
ticked. All clocks read in one round show the same instant. -/
def FdtManager.sync (m : FdtManager) (r : Round) : FdtManager :=
  let added : FdtManager := match r.bbmd with
    | none => m
    | some table =>
      let entries := table.map fun e => (e.ip, e.port, e.ttl)
      entries.foldl (fun m e => m.add e.1 e.2.1 e.2.2 r.now) m
  added.tick r.now

/-- The fields of a display entry that describe the BBMD's table. -/
def FdtDisplayEntry.shown (d : FdtDisplayEntry) : String × UInt16 × UInt16 × Int :=
  (d.ip, d.port, d.ttl, d.remainingTtl)

/-- An entry of the BBMD as it should be shown at `now`. -/
def FdtEntry.due (now : Nat) (e : FdtEntry) : String × UInt16 × UInt16 × Int :=
  (ipText e.ip, e.port, e.ttl, (e.ttl.toNat : Int) - elapsedSecs now e.registeredAt)

/-- The list shows the BBMD's entries and no others, in any order. -/
def FdtManager.Mirrors (m : FdtManager) (r : Round) : Prop :=
  ∀ table, r.bbmd = some table →
    ((m.list r.now r.epoch).map FdtDisplayEntry.shown).Perm (table.map (FdtEntry.due r.now))

/-- Everything in the BBMD's table was registered in the last second, and what
is no longer in it has been without its registration for the ttl and the grace
period. -/
def FdtManager.InStep (m : FdtManager) (r : Round) : Prop :=
  ∀ table, r.bbmd = some table → (∀ e ∈ table, elapsedSecs r.now e.registeredAt = 0) ∧
    ∀ e ∈ m.entries, e.device ∉ table.map FdtEntry.device →
      e.ttl.toNat + gracePeriodSecs < elapsedSecs r.now e.registeredAt

/-! ## What one round shows -/

/-- An entry as the sync task copies it. -/
def FdtEntry.stamp (now : Nat) (e : FdtEntry) : FdtEntry := { e with registeredAt := now }

theorem map_device_stamp (now : Nat) (table : List FdtEntry) :
    (table.map (FdtEntry.stamp now)).map FdtEntry.device = table.map FdtEntry.device := by
  simp [FdtEntry.stamp, FdtEntry.device, Function.comp_def]

theorem keeps_stamp (now : Nat) (e : FdtEntry) : FdtManager.keeps now (e.stamp now) = true := by
  simp [FdtManager.keeps, FdtEntry.stamp, elapsedSecs]

theorem entries_sync (m : FdtManager) {r : Round} {table : List FdtEntry}
    (h : r.bbmd = some table) : (m.sync r).entries =
      (Keyed.putAll FdtEntry.device (table.map (FdtEntry.stamp r.now)) m.entries).filter
        (FdtManager.keeps r.now) := by
  have hadd : ∀ m : FdtManager,
      ((table.map fun e => (e.ip, e.port, e.ttl)).foldl
        (fun m e => m.add e.1 e.2.1 e.2.2 r.now) m).entries =
      Keyed.putAll FdtEntry.device (table.map (FdtEntry.stamp r.now)) m.entries := by
    induction table generalizing r with
    | nil => exact fun _ => rfl
    | cons e table ih => exact fun m => ih (r := { r with bbmd := some table }) rfl _
  simp [FdtManager.sync, FdtManager.tick, h, hadd]

theorem nodup_sync {m : FdtManager} (h : (m.entries.map FdtEntry.device).Nodup) (r : Round) :
    ((m.sync r).entries.map FdtEntry.device).Nodup := by
  have hfilter : ∀ l : List FdtEntry, (l.map FdtEntry.device).Nodup →
      ((l.filter (FdtManager.keeps r.now)).map FdtEntry.device).Nodup := fun l hl =>
    (List.filter_sublist.map FdtEntry.device).nodup hl
  cases hb : r.bbmd with
  | none => simpa [FdtManager.sync, FdtManager.tick, hb] using hfilter _ h
  | some table =>
    rw [entries_sync m hb]
    exact hfilter _ (Keyed.nodup_putAll h)

/-- What the round still shows of devices that the BBMD no longer has. -/
def FdtManager.gone (m : FdtManager) (now : Nat) (table : List FdtEntry) : List FdtEntry :=
  (m.entries.filter fun e => e.device ∉ table.map FdtEntry.device).filter (keeps now)

/-- After a round the manager holds the BBMD's entries, stamped with the round's
instant, and what is gone from the BBMD but not yet purged. -/
theorem entries_sync_perm {m : FdtManager} (h : (m.entries.map FdtEntry.device).Nodup) {r : Round}
    {table : List FdtEntry} (hb : r.bbmd = some table)
    (hone : (table.map FdtEntry.device).Nodup) :
    (m.sync r).entries.Perm (table.map (FdtEntry.stamp r.now) ++ m.gone r.now table) := by
  have hstamps : ((table.map (FdtEntry.stamp r.now)).map FdtEntry.device).Nodup := by
    rwa [map_device_stamp]
  have hput := Keyed.putAll_perm hstamps h
  rw [entries_sync m hb]
  refine (hput.filter (FdtManager.keeps r.now)).trans (.of_eq ?_)
  have hstamped : (table.map (FdtEntry.stamp r.now)).filter (FdtManager.keeps r.now) =
      table.map (FdtEntry.stamp r.now) := by
    apply List.filter_eq_self.mpr
    intro e he
    obtain ⟨e', -, rfl⟩ := List.mem_map.mp he
    exact keeps_stamp r.now e'
  rw [List.filter_append, map_device_stamp, hstamped]
  simp [FdtManager.gone]

theorem gone_eq_nil_iff {m : FdtManager} {now : Nat} {table : List FdtEntry} :
    m.gone now table = [] ↔ ∀ e ∈ m.entries, e.device ∉ table.map FdtEntry.device →
      e.ttl.toNat + gracePeriodSecs < elapsedSecs now e.registeredAt := by
  simp only [FdtManager.gone, List.filter_eq_nil_iff, List.mem_filter, decide_eq_true_eq, and_imp,
    FdtManager.keeps, Nat.not_le]

theorem sum_remaining (now : Nat) (table : List FdtEntry) :
    (table.map fun e => (e.ttl.toNat : Int) - elapsedSecs now e.registeredAt).sum =
      (table.map fun e => (e.ttl.toNat : Int)).sum -
        (table.map fun e => elapsedSecs now e.registeredAt).sum := by
  induction table with
  | nil => rfl
  | cons e table ih =>
    simp only [List.map_cons, List.sum_cons, ih]
    omega

/-- Stamped entries show the full ttl: they are shown as they should be exactly
if no second of it has passed. -/
theorem due_stamp_perm_iff (now : Nat) (table : List FdtEntry) :
    ((table.map (FdtEntry.stamp now)).map (FdtEntry.due now)).Perm (table.map (FdtEntry.due now)) ↔
      ∀ e ∈ table, elapsedSecs now e.registeredAt = 0 := by
  have hstamp : (table.map (FdtEntry.stamp now)).map (FdtEntry.due now) =
      table.map fun e => (ipText e.ip, e.port, e.ttl, (e.ttl.toNat : Int)) := by
    simp [FdtEntry.stamp, FdtEntry.due, elapsedSecs]
  rw [hstamp]
  constructor
  · intro h
    have hsum := (h.map fun d => d.2.2.2).sum_eq
    simp only [List.map_map, Function.comp_def, FdtEntry.due, sum_remaining] at hsum
    have hzero : (table.map fun e => elapsedSecs now e.registeredAt).sum = 0 := by omega
    intro e he
    exact List.sum_eq_zero_iff_forall_eq_nat.mp hzero _ (List.mem_map_of_mem he)
  · intro h
    refine .of_eq (List.map_congr_left fun e he => ?_)
    simp [FdtEntry.due, h e he]

/-- One round mirrors the BBMD exactly if the manager was in step with it. -/
theorem mirrors_iff {m : FdtManager} (h : (m.entries.map FdtEntry.device).Nodup) {r : Round}
    (hone : r.OnePerDevice) : (m.sync r).Mirrors r ↔ m.InStep r := by
  apply forall₂_congr
  intro table hb
  have hperm := (entries_sync_perm h hb (hone table hb)).map (FdtEntry.due r.now)
  have hlist : ((m.sync r).list r.now r.epoch).map FdtDisplayEntry.shown =
      (m.sync r).entries.map (FdtEntry.due r.now) := by
    simp [FdtManager.list, FdtManager.display, FdtDisplayEntry.shown, FdtEntry.due]
  rw [hlist, ← gone_eq_nil_iff, ← due_stamp_perm_iff]
  rw [List.map_append] at hperm
  constructor
  · intro hm
    have hgone : m.gone r.now table = [] := by
      have hlen := (hperm.symm.trans hm).length_eq
      simp only [List.length_append, List.length_map] at hlen
      exact List.length_eq_zero_iff.mp (by omega)
    exact ⟨by simpa [hgone] using hperm.symm.trans hm, hgone⟩
  · rintro ⟨hdue, hgone⟩
    simp only [hgone, List.map_nil, List.append_nil] at hperm
    exact hperm.trans hdue

def FdtManager.step (m : FdtManager) (r : Round) : Option FdtManager := some (m.sync r)

/-- Over any rounds the list mirrors the BBMD's table after each exactly if the
manager is in step with it before each. -/
theorem fdt_mirrors_iff (rounds : List Round) (hone : ∀ r ∈ rounds, r.OnePerDevice) :
    Runs.Each FdtManager.step .new rounds (fun m r => (m.sync r).Mirrors r) ↔
      Runs.Each FdtManager.step .new rounds FdtManager.InStep := by
  have hrun : ∀ m : FdtManager, (m.entries.map FdtEntry.device).Nodup →
      (Runs.Each FdtManager.step m rounds (fun m r => (m.sync r).Mirrors r) ↔
        Runs.Each FdtManager.step m rounds FdtManager.InStep) := by
    induction rounds with
    | nil => exact fun _ _ => iff_of_true Runs.each_nil Runs.each_nil
    | cons r rounds ih =>
      intro m hm
      have hone' := List.forall_mem_cons.mp hone
      have hrest := ih hone'.2 (m.sync r) (nodup_sync hm r)
      simp [Runs.each_cons, FdtManager.step, mirrors_iff hm hone'.1, hrest]
  exact hrun .new (by simp [FdtManager.new])

/-- A device with a ttl of 60 seconds that registered at 0 and stayed. -/
def registered : FdtEntry := ⟨#v[10, 0, 0, 5], 47808, 60, 0⟩

/-- The rounds at 0.5 s and 2.5 s find it, the one at 4.5 s finds it deleted. -/
def threeRounds : List Round :=
  [⟨500000000, 0, some [registered]⟩, ⟨2500000000, 0, some [registered]⟩,
    ⟨4500000000, 0, some []⟩]

/-- The first round shows the device as it should be shown. -/
theorem fdt_mirrors_at_first :
    Runs.Each FdtManager.step .new (threeRounds.take 1) (fun m r => (m.sync r).Mirrors r) := by
  refine (fdt_mirrors_iff _ ?_).mpr (Runs.each_cons.mpr ⟨?_, fun _ _ => Runs.each_nil⟩)
  · simp [threeRounds, Round.OnePerDevice]
  · rintro table htable
    obtain rfl := Option.some.inj htable
    exact ⟨by decide, by simp [FdtManager.new]⟩

/-- Two seconds later the full ttl is shown again, and in the end a device that
the BBMD has deleted. -/
theorem fdt_ttl_never_runs_down :
    ∃ m m', Runs.after FdtManager.step .new (threeRounds.take 2) = some m ∧
      (m.list 2500000000 0).map FdtDisplayEntry.shown = [("10.0.0.5", 47808, 60, 60)] ∧
      [registered].map (FdtEntry.due 2500000000) = [("10.0.0.5", 47808, 60, 58)] ∧
      Runs.after FdtManager.step .new threeRounds = some m' ∧
      (m'.list 4500000000 0).map FdtDisplayEntry.shown = [("10.0.0.5", 47808, 60, 58)] ∧
      ¬ Runs.Each FdtManager.step .new threeRounds (fun m r => (m.sync r).Mirrors r) := by
  refine ⟨_, _, rfl, by decide, by decide, rfl, by decide, ?_⟩
  intro h
  have hsecond := h (threeRounds.take 1) ⟨2500000000, 0, some [registered]⟩ (by decide) _ rfl
    [registered] rfl
  exact absurd (List.perm_singleton.mp hsecond) (by decide)

end BacnetBridge
