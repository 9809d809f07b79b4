import BacnetBridge.Codec
import BacnetBridge.Polling

/-! `logbuf.rs`: the ring buffer of log entries. -/
namespace BacnetBridge

/-- `serde_json::Value`; a number is kept by its text. -/
inductive Json
  | null
  | bool (b : Bool)
  | number (text : String)
  | string (s : String)
  | array (items : List Json)
  | object (fields : List (String × Json))

structure LogEntry where
  timestamp : String
  level : String
  target : String
  message : String
  fields : List (String × Json)

def levelValue : String → Nat
  | "TRACE" => 0
  | "DEBUG" => 1
  | "INFO" => 2
  | "WARN" => 3
  | "ERROR" => 4
  | _ => 5

structure LogRingBuffer where
  entries : List LogEntry
  capacity : Nat

namespace LogRingBuffer

def new (capacity : Nat) : LogRingBuffer := ⟨[], capacity⟩

/-- A buffer without capacity panics: there is no entry to remove. -/
def push (buffer : LogRingBuffer) (entry : LogEntry) : Except Panic LogRingBuffer :=
  if buffer.entries.length ≥ buffer.capacity then
    match buffer.entries with
    | [] => .error .indexOutOfBounds
    | _ :: rest => .ok { buffer with entries := rest ++ [entry] }
  else .ok { buffer with entries := buffer.entries ++ [entry] }

def recent (buffer : LogRingBuffer) (limit : Nat) (minLevel : Option String) : List LogEntry :=
  let minVal := (minLevel.map levelValue).getD 0
  let filtered := buffer.entries.filter fun e => decide (levelValue e.level ≥ minVal)
  filtered.drop (filtered.length - limit)

/-- The buffer holds the newest of the entries pushed, as many as it has room for. -/
def Holds (buffer : LogRingBuffer) (pushed : List LogEntry) : Prop :=
  buffer.entries = pushed.rtake buffer.capacity

theorem holds_new (capacity : Nat) : (new capacity).Holds [] := by
  simp [Holds, new]

/-- A push makes room by the oldest entry only, and only when there is none. -/
theorem Holds.push {buffer after : LogRingBuffer} {pushed : List LogEntry} {entry : LogEntry}
    (h : buffer.Holds pushed) (hpush : buffer.push entry = .ok after) :
    after.capacity = buffer.capacity ∧ after.Holds (pushed ++ [entry]) := by
  have hlen : buffer.entries.length = min buffer.capacity pushed.length := by
    rw [h, Polling.length_rtake]
  unfold LogRingBuffer.push at hpush
  split at hpush
  · rename_i hfull
    split at hpush
    · cases hpush
    · rename_i oldest rest hentries
      cases hpush
      constructor
      · rfl
      · obtain ⟨c, hc⟩ : ∃ c, buffer.capacity = c + 1 := by
          refine ⟨buffer.capacity - 1, ?_⟩
          simp only [hentries, List.length_cons] at hlen
          omega
        have hrest : rest = pushed.rtake c := by
          have htail := congrArg List.tail (hentries.symm.trans h)
          have hroom : c + 1 ≤ pushed.length := by omega
          simp only [List.tail_cons, hc, List.rtake, List.tail_drop] at htail
          rw [htail, List.rtake, show pushed.length - (c + 1) + 1 = pushed.length - c by omega]
        simp [Holds, hc, hrest]
  · rename_i hroom
    cases hpush
    constructor
    · rfl
    · have hshort : pushed.length < buffer.capacity := by omega
      have hall : buffer.entries = pushed := by
        rw [h, Polling.rtake_of_length_le (by omega)]
      simp only [Holds, hall]
      rw [Polling.rtake_of_length_le]
      simp
      omega

/-- With no level asked for, the newest entries of all that were pushed. -/
theorem Holds.recent_none {buffer : LogRingBuffer} {pushed : List LogEntry}
    (h : buffer.Holds pushed) (limit : Nat) :
    buffer.recent limit none = pushed.rtake (min limit buffer.capacity) := by
  have hall : buffer.recent limit none = buffer.entries.rtake limit := by
    simp [recent, List.rtake]
  rw [hall, h, Polling.rtake_rtake]

/-! ## Histories -/

/-- Entries pushed one after the other. -/
def pushAll (buffer : LogRingBuffer) (pushed : List LogEntry) : Except Panic LogRingBuffer :=
  pushed.foldlM push buffer

theorem push_ok {buffer : LogRingBuffer} (h : 1 ≤ buffer.capacity) (entry : LogEntry) :
    ∃ after, buffer.push entry = .ok after := by
  unfold push
  split
  · rename_i hfull
    split
    · rename_i hempty
      simp [hempty] at hfull
      omega
    · exact ⟨_, rfl⟩
  · exact ⟨_, rfl⟩

theorem pushAll_holds {buffer : LogRingBuffer} (hcapacity : 1 ≤ buffer.capacity)
    {before : List LogEntry} (h : buffer.Holds before) (pushed : List LogEntry) :
    ∃ after, buffer.pushAll pushed = .ok after ∧ after.capacity = buffer.capacity ∧
      after.Holds (before ++ pushed) := by
  induction pushed generalizing buffer before with
  | nil =>
    rw [List.append_nil]
    exact ⟨buffer, rfl, rfl, h⟩
  | cons entry pushed ih =>
    obtain ⟨next, hpush⟩ := push_ok hcapacity entry
    obtain ⟨hsame, hnext⟩ := h.push hpush
    obtain ⟨after, hafter, hsame', hholds⟩ := ih (hsame ▸ hcapacity) hnext
    rw [List.append_assoc] at hholds
    refine ⟨after, ?_, hsame'.trans hsame, hholds⟩
    change (buffer.push entry >>= fun next => next.pushAll pushed) = .ok after
    rw [hpush]
    exact hafter

/-- The entry's level is the one asked for or a higher one. -/
def AtLeast (minLevel : Option String) (entry : LogEntry) : Prop :=
  ∀ level, minLevel = some level → levelValue level ≤ levelValue entry.level

instance (minLevel : Option String) (entry : LogEntry) : Decidable (AtLeast minLevel entry) :=
  match minLevel with
  | none => isTrue fun _ h => nomatch h
  | some level => decidable_of_iff (levelValue level ≤ levelValue entry.level) (by simp [AtLeast])

theorem recent_eq (buffer : LogRingBuffer) (limit : Nat) (minLevel : Option String) :
    buffer.recent limit minLevel =
      (buffer.entries.filter fun e => decide (AtLeast minLevel e)).rtake limit := by
  have hfilter : ∀ e : LogEntry, decide (levelValue e.level ≥ (minLevel.map levelValue).getD 0) =
      decide (AtLeast minLevel e) := by
    intro e
    cases minLevel <;> simp [AtLeast]
  simp only [recent, hfilter, List.rtake]

end LogRingBuffer

/-- After any pushes to a buffer with room for `c` entries, `recent` gives, of the
last `c` entries pushed that have the level, the last `limit` in the order of the
pushes; a smaller limit drops the oldest of them; and no more than `c` are held. -/
theorem log_keeps_newest {c : Nat} (hc : 1 ≤ c) (pushed : List LogEntry) :
    ∃ buffer, (LogRingBuffer.new c).pushAll pushed = .ok buffer ∧ buffer.entries.length ≤ c ∧
      ∀ limit minLevel, buffer.recent limit minLevel =
          ((pushed.rtake c).filter fun e => decide (LogRingBuffer.AtLeast minLevel e)).rtake limit ∧
        ∀ fewer ≤ limit, buffer.recent fewer minLevel <:+ buffer.recent limit minLevel := by
  obtain ⟨buffer, hpush, hcapacity, hholds⟩ :=
    LogRingBuffer.pushAll_holds hc (LogRingBuffer.holds_new c) pushed
  have hentries : buffer.entries = pushed.rtake c := by
    rw [hholds, hcapacity, List.nil_append]
    rfl
  refine ⟨buffer, hpush, ?_, ?_⟩
  · rw [hentries, Polling.length_rtake]
    omega
  · intro limit minLevel
    constructor
    · rw [LogRingBuffer.recent_eq, hentries]
    · intro fewer hfewer
      rw [LogRingBuffer.recent_eq, LogRingBuffer.recent_eq]
      exact Polling.rtake_suffix_rtake hfewer _

/-- The third entry pushed to a buffer for two takes the place of the first. -/
theorem third_entry_drops_first :
    ∃ buffer, (LogRingBuffer.new 2).pushAll [⟨"", "ERROR", "", "first", []⟩,
        ⟨"", "DEBUG", "", "second", []⟩, ⟨"", "WARN", "", "third", []⟩] = .ok buffer ∧
      buffer.recent 10 (some "INFO") = [⟨"", "WARN", "", "third", []⟩] := by
  obtain ⟨buffer, hpush, -, hrecent⟩ := log_keeps_newest (by decide : 1 ≤ 2)
    [⟨"", "ERROR", "", "first", []⟩, ⟨"", "DEBUG", "", "second", []⟩,
      ⟨"", "WARN", "", "third", []⟩]
  refine ⟨buffer, hpush, ?_⟩
  rw [(hrecent 10 (some "INFO")).1]
  rfl

end BacnetBridge
