import BacnetBridge.LogBuffer

/-! `get_logs` in `web/api.rs`, asked for a level in lower case as the interface
documents it, and in upper case as entries hold it. -/
namespace BacnetBridge

structure LogQuery where
  limit : Option Nat
  level : Option String
  deriving DecidableEq, Repr

def getLogs (logbuf : LogRingBuffer) (params : LogQuery) : List LogEntry :=
  logbuf.recent (params.limit.getD 500) params.level

/-- The five levels. -/
inductive LogLevel
  | trace
  | debug
  | info
  | warn
  | error
  deriving DecidableEq, Repr

namespace LogLevel

/-- The level as entries hold it. -/
def stored : LogLevel → String
  | .trace => "TRACE"
  | .debug => "DEBUG"
  | .info => "INFO"
  | .warn => "WARN"
  | .error => "ERROR"

/-- The level as the interface documents it. -/
def documented : LogLevel → String
  | .trace => "trace"
  | .debug => "debug"
  | .info => "info"
  | .warn => "warn"
  | .error => "error"

theorem levelValue_stored (level : LogLevel) : levelValue level.stored < 5 := by
  cases level <;> decide

/-- In lower case every level ranks above all five. -/
theorem levelValue_documented (level : LogLevel) : levelValue level.documented = 5 := by
  cases level <;> decide

end LogLevel

/-- The entry has one of the five levels. -/
def Leveled (entry : LogEntry) : Prop := ∃ level : LogLevel, entry.level = level.stored

theorem levelValue_le (level : String) : levelValue level ≤ 5 := by
  unfold levelValue
  split <;> omega

theorem leveled_iff (entry : LogEntry) : Leveled entry ↔ levelValue entry.level < 5 := by
  constructor
  · rintro ⟨level, hlevel⟩
    rw [hlevel]
    exact level.levelValue_stored
  · intro h
    unfold levelValue at h
    split at h
    · exact ⟨.trace, ‹_›⟩
    · exact ⟨.debug, ‹_›⟩
    · exact ⟨.info, ‹_›⟩
    · exact ⟨.warn, ‹_›⟩
    · exact ⟨.error, ‹_›⟩
    · omega

instance (entry : LogEntry) : Decidable (Leveled entry) :=
  decidable_of_iff _ (leveled_iff entry).symm

/-- The newest stored entries at or above a level. -/
def newestFrom (logbuf : LogRingBuffer) (level : LogLevel) (limit : Nat) : List LogEntry :=
  (logbuf.entries.filter fun e => decide (levelValue level.stored ≤ levelValue e.level)).rtake limit

/-- In lower case only entries without one of the five levels are found. -/
theorem getLogs_documented (logbuf : LogRingBuffer) (limit : Option Nat) (level : LogLevel) :
    getLogs logbuf ⟨limit, some level.documented⟩ =
      (logbuf.entries.filter fun e => decide (levelValue e.level = 5)).rtake (limit.getD 500) := by
  have hfilter : ∀ e : LogEntry, decide (LogRingBuffer.AtLeast (some level.documented) e) =
      decide (levelValue e.level = 5) := by
    intro e
    have hle := levelValue_le e.level
    simp [LogRingBuffer.AtLeast, level.levelValue_documented]
    omega
  simp only [getLogs, LogRingBuffer.recent_eq, hfilter]

theorem getLogs_stored (logbuf : LogRingBuffer) (limit : Option Nat) (level : LogLevel) :
    getLogs logbuf ⟨limit, some level.stored⟩ = newestFrom logbuf level (limit.getD 500) := by
  simp [getLogs, LogRingBuffer.recent_eq, newestFrom, LogRingBuffer.AtLeast]

/-- A level in lower case finds the newest entries at or above it, as it does in
upper case, exactly if none of these has one of the five levels. -/
theorem documented_query_iff (logbuf : LogRingBuffer) (limit : Option Nat) (level : LogLevel) :
    (getLogs logbuf ⟨limit, some level.documented⟩ = getLogs logbuf ⟨limit, some level.stored⟩ ∧
      getLogs logbuf ⟨limit, some level.documented⟩ = newestFrom logbuf level (limit.getD 500)) ↔
      ∀ entry ∈ newestFrom logbuf level (limit.getD 500), ¬ Leveled entry := by
  have hlevel := level.levelValue_stored
  have htwice : (logbuf.entries.filter fun e => decide (levelValue e.level = 5)) =
      (logbuf.entries.filter fun e =>
        decide (levelValue level.stored ≤ levelValue e.level)).filter
          fun e => decide (levelValue e.level = 5) := by
    rw [List.filter_filter]
    apply List.filter_congr
    intro e _
    rw [← Bool.decide_and, decide_eq_decide]
    omega
  have hwindow := Polling.rtake_filter_iff (fun e => decide (levelValue e.level = 5))
    (limit.getD 500) (logbuf.entries.filter fun e =>
      decide (levelValue level.stored ≤ levelValue e.level))
  rw [← htwice] at hwindow
  rw [getLogs_stored, getLogs_documented, and_self, newestFrom, hwindow]
  apply forall₂_congr
  intro e _
  have hle := levelValue_le e.level
  rw [leveled_iff]
  simp
  omega

/-- The documented query for `info` finds nothing where the stored spelling finds
the entry. -/
theorem info_in_lower_case_finds_nothing :
    ∃ logbuf, (LogRingBuffer.new 1000).push ⟨"14:32:05.123", "INFO", "bacnet_bridge::router",
        "Router running", []⟩ = .ok logbuf ∧
      getLogs logbuf ⟨some 500, some LogLevel.info.documented⟩ = [] ∧
      getLogs logbuf ⟨some 500, some LogLevel.info.stored⟩ =
        [⟨"14:32:05.123", "INFO", "bacnet_bridge::router", "Router running", []⟩] :=
  ⟨_, rfl, rfl, rfl⟩

end BacnetBridge
