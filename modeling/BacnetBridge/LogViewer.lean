import BacnetBridge.JavaScript
import BacnetBridge.LiveLog
import BacnetBridge.LogQuery

/-! `app.js`: the log viewer of the dashboard, at the other end of the connection. -/
namespace BacnetBridge

/-- The entries that a page keeps. -/
def viewerCapacity : Nat := 500

/-- `slice(-n)`. -/
def sliceLast (entries : List LogEntry) (n : Nat) : List LogEntry :=
  entries.drop (entries.length - n)

theorem sliceLast_eq (entries : List LogEntry) (n : Nat) : sliceLast entries n = entries.rtake n :=
  rfl

/-- `logEntries.push(e)` and the cut after it. -/
def addEntry (entries : List LogEntry) (e : LogEntry) : List LogEntry :=
  let entries := entries ++ [e]
  if entries.length > viewerCapacity then sliceLast entries viewerCapacity else entries

/-- What the level filter offers. -/
inductive LevelChoice
  | all
  | info
  | warn
  | error
  deriving DecidableEq, Repr

namespace LevelChoice

/-- The level that is asked for, with those above it. -/
def level : LevelChoice → Option LogLevel
  | .all => none
  | .info => some .info
  | .warn => some .warn
  | .error => some .error

def value (choice : LevelChoice) : String := (choice.level.map LogLevel.stored).getD ""

end LevelChoice

/-- What is chosen and typed over the log. -/
structure LogFilter where
  level : LevelChoice
  search : String
  deriving DecidableEq, Repr

def levelOrder : List (String × Nat) :=
  [("TRACE", 0), ("DEBUG", 1), ("INFO", 2), ("WARN", 3), ("ERROR", 4)]

namespace LogFilter

/-- Nothing that is offered is the name of an inherited property. -/
def minLevel (f : LogFilter) : Nat :=
  if f.level.value.isEmpty then 0 else (levelOrder.lookup f.level.value).getD 0

/-- `lv >= minLevel`, where no number is as great as what is no number. -/
def atLeast (f : LogFilter) (e : LogEntry) : Bool :=
  match JavaScript.Property.of levelOrder e.level with
  | .own lv => decide (lv ≥ f.minLevel)
  | .inherited => false
  | .missing => decide (0 ≥ f.minLevel)

/-- `toLowerCase` is given. -/
def passes (lower : String → String) (f : LogFilter) (e : LogEntry) : Bool :=
  let searchText := lower f.search
  f.atLeast e &&
    (searchText.isEmpty || decide (searchText.toList <:+: (lower e.message).toList) ||
      decide (searchText.toList <:+: (lower e.target).toList))

end LogFilter

/-- What stands in the viewer. -/
inductive LogView
  | waiting
  | noMatch
  | lines (entries : List LogEntry)

def renderLogs (lower : String → String) (f : LogFilter) (logEntries : List LogEntry) : LogView :=
  let last50 := sliceLast (logEntries.filter (f.passes lower)) 50
  if last50.isEmpty then .noMatch else .lines last50

structure LogViewer where
  logEntries : List LogEntry
  logBuffer : List LogEntry
  logPaused : Bool
  filter : LogFilter
  view : LogView

namespace LogViewer

def start : LogViewer := ⟨[], [], false, ⟨.all, ""⟩, .waiting⟩

inductive Input
  | message (entries : List LogEntry)
  | togglePause
  | clearLogs
  | filterLogs (f : LogFilter)

def render (lower : String → String) (s : LogViewer) : LogViewer :=
  { s with view := renderLogs lower s.filter s.logEntries }

def onMessage (lower : String → String) (s : LogViewer) (entries : List LogEntry) : LogViewer :=
  if s.logPaused then
    let logBuffer := s.logBuffer ++ entries
    { s with logBuffer :=
        if logBuffer.length > viewerCapacity then sliceLast logBuffer viewerCapacity
        else logBuffer }
  else render lower { s with logEntries := entries.foldl addEntry s.logEntries }

def togglePause (lower : String → String) (s : LogViewer) : LogViewer :=
  let s := { s with logPaused := !s.logPaused }
  if !s.logPaused && decide (s.logBuffer.length > 0) then
    render lower { s with logEntries := s.logBuffer.foldl addEntry s.logEntries, logBuffer := [] }
  else s

def clearLogs (s : LogViewer) : LogViewer :=
  { s with logEntries := [], logBuffer := [], view := .waiting }

def step (lower : String → String) (s : LogViewer) : Input → LogViewer
  | .message entries => s.onMessage lower entries
  | .togglePause => s.togglePause lower
  | .clearLogs => s.clearLogs
  | .filterLogs f => render lower { s with filter := f }

def run (lower : String → String) (s : LogViewer) (inputs : List Input) : LogViewer :=
  inputs.foldl (step lower) s

/-- Everything that has arrived since the log was last cleared. -/
def arrived (inputs : List Input) : List LogEntry :=
  inputs.foldl (fun entries i =>
    match i with
    | .message es => entries ++ es
    | .clearLogs => []
    | _ => entries) []

/-! ## Pausing -/

theorem cut_eq (entries : List LogEntry) (n : Nat) :
    (if entries.length > n then sliceLast entries n else entries) = entries.rtake n := by
  split
  · rfl
  · rename_i hshort
    rw [Polling.rtake_of_length_le (by omega)]

theorem foldl_addEntry (seen entries : List LogEntry) :
    entries.foldl addEntry (seen.rtake viewerCapacity) =
      (seen ++ entries).rtake viewerCapacity := by
  induction entries generalizing seen with
  | nil => simp
  | cons e entries ih =>
    have hone : addEntry (seen.rtake viewerCapacity) e = (seen ++ [e]).rtake viewerCapacity := by
      rw [addEntry, cut_eq, Polling.rtake_append_rtake]
    rw [List.foldl_cons, hone, ih, List.append_assoc]
    rfl

/-- The entries are the newest of those that arrived before the pause, the buffer holds
the newest of those that arrived in it. -/
structure Keeps (lower : String → String) (all : List LogEntry) (s : LogViewer) : Prop where
  split : ∃ before during, all = before ++ during ∧ s.logEntries = before.rtake viewerCapacity ∧
    s.logBuffer = during.rtake viewerCapacity ∧ (s.logPaused = false → during = [])
  view : s.view = renderLogs lower s.filter s.logEntries ∨
    (s.view = .waiting ∧ s.logEntries = [])

theorem keeps_start (lower : String → String) : start.Keeps lower [] :=
  ⟨⟨[], [], rfl, rfl, rfl, fun _ => rfl⟩, .inr ⟨rfl, rfl⟩⟩

variable {lower : String → String} {all : List LogEntry} {s : LogViewer}

theorem Keeps.message (h : s.Keeps lower all) (entries : List LogEntry) :
    (s.onMessage lower entries).Keeps lower (all ++ entries) := by
  obtain ⟨⟨before, during, rfl, hentries, hbuffer, hpaused⟩, hview⟩ := h
  unfold onMessage
  split
  · rename_i hpause
    refine ⟨⟨before, during ++ entries, by simp, hentries, ?_, ?_⟩, hview⟩
    · dsimp only
      rw [cut_eq, hbuffer, Polling.rtake_append_rtake]
    · intro hgoes
      simp [hpause] at hgoes
  · rename_i hgoes
    obtain rfl := hpaused (by simpa using hgoes)
    refine ⟨⟨before ++ entries, [], by simp, ?_, hbuffer, fun _ => rfl⟩, .inl rfl⟩
    rw [render, hentries, foldl_addEntry]

theorem Keeps.toggle (h : s.Keeps lower all) : (s.togglePause lower).Keeps lower all := by
  obtain ⟨⟨before, during, rfl, hentries, hbuffer, hpaused⟩, hview⟩ := h
  unfold togglePause
  dsimp only
  split
  · refine ⟨⟨before ++ during, [], by simp, ?_, rfl, fun _ => rfl⟩, .inl rfl⟩
    have hflush : (during.rtake viewerCapacity).foldl addEntry (before.rtake viewerCapacity) =
        (before ++ during).rtake viewerCapacity := by
      rw [foldl_addEntry, Polling.rtake_append_rtake_right]
    rw [render, hentries, hbuffer, hflush]
  · rename_i hnot
    refine ⟨⟨before, during, rfl, hentries, hbuffer, ?_⟩, hview⟩
    intro hgoes
    have hempty : s.logBuffer.length = 0 := by
      have hpause : s.logPaused = true := by simpa using hgoes
      simpa [hpause] using hnot
    rw [hbuffer, Polling.length_rtake] at hempty
    apply List.eq_nil_of_length_eq_zero
    unfold viewerCapacity at hempty
    omega

theorem Keeps.clear (s : LogViewer) : (s.clearLogs).Keeps lower [] :=
  ⟨⟨[], [], rfl, rfl, rfl, fun _ => rfl⟩, .inr ⟨rfl, rfl⟩⟩

theorem Keeps.filter (h : s.Keeps lower all) (f : LogFilter) :
    (render lower { s with filter := f }).Keeps lower all := ⟨h.split, .inl rfl⟩

theorem keeps_run (lower : String → String) (inputs : List Input) :
    (start.run lower inputs).Keeps lower (arrived inputs) := by
  induction inputs using List.reverseRecOn with
  | nil => exact keeps_start lower
  | append_singleton inputs i ih =>
    rw [run, arrived, List.foldl_append, List.foldl_append]
    cases i with
    | message entries => exact ih.message entries
    | togglePause => exact ih.toggle
    | clearLogs => exact Keeps.clear _
    | filterLogs f => exact ih.filter f

end LogViewer

/-- However often the viewer is paused, resumed and filtered: while it is not paused it
keeps the newest 500 of all entries that have arrived since it was last cleared, and
shows the newest 50 of these that pass the filter. -/
theorem pausing_loses_nothing (lower : String → String) (inputs : List LogViewer.Input)
    (hgoes : (LogViewer.start.run lower inputs).logPaused = false) :
    (LogViewer.start.run lower inputs).logEntries =
        (LogViewer.arrived inputs).rtake viewerCapacity ∧
      ((LogViewer.start.run lower inputs).view =
          renderLogs lower (LogViewer.start.run lower inputs).filter
            ((LogViewer.arrived inputs).rtake viewerCapacity) ∨
        ((LogViewer.start.run lower inputs).view = .waiting ∧ LogViewer.arrived inputs = [])) := by
  obtain ⟨⟨before, during, hall, hentries, -, hpaused⟩, hview⟩ :=
    LogViewer.keeps_run lower inputs
  obtain rfl := hpaused hgoes
  rw [List.append_nil] at hall
  rw [hall, ← hentries]
  refine ⟨rfl, hview.imp_right ?_⟩
  rintro ⟨hwaiting, hempty⟩
  refine ⟨hwaiting, List.eq_nil_of_length_eq_zero ?_⟩
  have hlen := congrArg List.length (hentries.symm.trans hempty)
  rw [Polling.length_rtake, List.length_nil] at hlen
  unfold viewerCapacity at hlen
  omega

/-- One entry arrives before a pause and one in it. -/
def pausedOnce : List LogViewer.Input :=
  [.message [logEntry "Router running"], .togglePause, .message [logEntry "Router stopped"],
    .togglePause]

theorem entry_of_the_pause_is_kept :
    (LogViewer.start.run id pausedOnce).logEntries =
      [logEntry "Router running", logEntry "Router stopped"] :=
  (pausing_loses_nothing id pausedOnce rfl).1

/-! ## The level filter -/

namespace LevelChoice

/-- The entries of any of the five levels, and without a choice also those of none, unless
their level is the name of something inherited. -/
def Ranks (choice : LevelChoice) (e : LogEntry) : Prop :=
  Leveled e ∨ (choice = .all ∧ e.level ∉ JavaScript.inheritedNames)

instance (choice : LevelChoice) (e : LogEntry) : Decidable (choice.Ranks e) :=
  inferInstanceAs (Decidable (_ ∨ _))

/-- The query for what is chosen. -/
def query (choice : LevelChoice) : Option String := choice.level.map LogLevel.stored

end LevelChoice

theorem lookup_levelOrder (level : String) :
    levelOrder.lookup level = if levelValue level < 5 then some (levelValue level) else none := by
  unfold levelValue
  split
  · decide
  · decide
  · decide
  · decide
  · decide
  · rename_i htrace hdebug hinfo hwarn herror
    simp [levelOrder, List.lookup_cons, beq_eq_false_iff_ne.mpr htrace,
      beq_eq_false_iff_ne.mpr hdebug, beq_eq_false_iff_ne.mpr hinfo, beq_eq_false_iff_ne.mpr hwarn,
      beq_eq_false_iff_ne.mpr herror]

theorem LogFilter.minLevel_eq (choice : LevelChoice) (search : String) :
    LogFilter.minLevel ⟨choice, search⟩ = (choice.query.map levelValue).getD 0 := by
  cases choice <;> rfl

theorem LogFilter.minLevel_eq_zero_iff (choice : LevelChoice) (search : String) :
    LogFilter.minLevel ⟨choice, search⟩ = 0 ↔ choice = .all := by
  rw [minLevel_eq]
  cases choice <;> decide

theorem LogFilter.minLevel_le_iff (choice : LevelChoice) (search : String) (e : LogEntry) :
    LogFilter.minLevel ⟨choice, search⟩ ≤ levelValue e.level ↔
      LogRingBuffer.AtLeast choice.query e := by
  rw [minLevel_eq]
  cases choice.query <;> simp [LogRingBuffer.AtLeast]

/-- The viewer ranks what has none of the five levels below all of them, `recent` above. -/
theorem LogFilter.atLeast_iff (choice : LevelChoice) (search : String) (e : LogEntry) :
    LogFilter.atLeast ⟨choice, search⟩ e = true ↔
      LogRingBuffer.AtLeast choice.query e ∧ choice.Ranks e := by
  have hmin := minLevel_le_iff choice search e
  have hzero := minLevel_eq_zero_iff choice search
  unfold atLeast JavaScript.Property.of
  rw [lookup_levelOrder]
  by_cases hlevel : levelValue e.level < 5
  · have hleveled : Leveled e := (leveled_iff e).mpr hlevel
    simp [hlevel, hmin, LevelChoice.Ranks, hleveled]
  · have hunknown : ¬ Leveled e := fun h => hlevel ((leveled_iff e).mp h)
    by_cases hinherited : e.level ∈ JavaScript.inheritedNames
    · simp [hlevel, hinherited, LevelChoice.Ranks, hunknown]
    · have hall : choice = .all → LogRingBuffer.AtLeast choice.query e := by
        rintro rfl
        exact hmin.mp (by rw [hzero.mpr rfl]; exact Nat.zero_le _)
      simpa [hlevel, hinherited, LevelChoice.Ranks, hunknown, hzero] using hall

theorem LogFilter.passes_unsearched {lower : String → String} (hlower : lower "" = "")
    (choice : LevelChoice) (e : LogEntry) :
    LogFilter.passes lower ⟨choice, ""⟩ e = LogFilter.atLeast ⟨choice, ""⟩ e := by
  simp [passes, hlower]

/-- What the viewer shows of a whole log, with a level chosen or with none, is what the
server's query for the same finds, exactly if everything found has one of the five levels
or, with none chosen, a level that is not the name of something inherited. -/
theorem viewer_agrees_with_query_iff {lower : String → String} (hlower : lower "" = "")
    (logbuf : LogRingBuffer) (choice : LevelChoice) :
    sliceLast (logbuf.entries.filter (LogFilter.passes lower ⟨choice, ""⟩)) 50 =
        getLogs logbuf ⟨some 50, choice.query⟩ ↔
      ∀ e ∈ getLogs logbuf ⟨some 50, choice.query⟩, choice.Ranks e := by
  have htwice : logbuf.entries.filter (LogFilter.passes lower ⟨choice, ""⟩) =
      (logbuf.entries.filter fun e => decide (LogRingBuffer.AtLeast choice.query e)).filter
        fun e => decide (choice.Ranks e) := by
    rw [List.filter_filter]
    apply List.filter_congr
    intro e _
    rw [LogFilter.passes_unsearched hlower, Bool.eq_iff_iff, LogFilter.atLeast_iff]
    simp [and_comm]
  have hquery : getLogs logbuf ⟨some 50, choice.query⟩ = (logbuf.entries.filter fun e =>
      decide (LogRingBuffer.AtLeast choice.query e)).rtake 50 := LogRingBuffer.recent_eq ..
  rw [sliceLast_eq, htwice, hquery, Polling.rtake_filter_iff]
  simp

/-- An entry of a level that neither side knows: the query for warnings finds it, and the
viewer hides it. -/
theorem unknown_level_is_hidden :
    ∃ logbuf, (LogRingBuffer.new 1000).push ⟨"", "FATAL", "", "", []⟩ = .ok logbuf ∧
      sliceLast (logbuf.entries.filter (LogFilter.passes id ⟨.warn, ""⟩)) 50 ≠
        getLogs logbuf ⟨some 50, LevelChoice.warn.query⟩ := by
  refine ⟨_, rfl, ?_⟩
  rw [Ne, viewer_agrees_with_query_iff rfl]
  intro h
  rcases h ⟨"", "FATAL", "", "", []⟩ (List.mem_singleton_self _) with hleveled | ⟨hall, -⟩
  · rw [leveled_iff] at hleveled
    exact absurd hleveled (by decide)
  · cases hall

/-- With no level chosen, the viewer hides an entry whose level is an inherited name. -/
example : LogFilter.passes id ⟨.all, ""⟩ ⟨"", "constructor", "", "", []⟩ = false ∧
    LogFilter.passes id ⟨.all, ""⟩ ⟨"", "FATAL", "", "", []⟩ = true := by decide

/-! ## The whole way from the log to the page -/

/-- The server's log, what is on its way to the page, and the page. -/
structure LogPage where
  stream : LogStream
  wire : List (List LogEntry)
  viewer : LogViewer

namespace LogPage

def start : LogPage := ⟨.start, [], .start⟩

/-- A connection that is lost is opened again. -/
inductive Input
  | server (i : LogStream.Input)
  | connect
  | arrive
  | togglePause
  | clearLogs
  | filterLogs (f : LogFilter)

def step (lower : String → String) (s : LogPage) : Input → Option LogPage
  | .server i => (s.stream.step i).map fun stream =>
      { s with stream, wire := s.wire ++ stream.messages.drop s.stream.messages.length }
  | .connect =>
    if s.stream.connected then none
    else some { s with stream := { s.stream with connected := true }, wire := [] }
  | .arrive =>
    match s.wire with
    | [] => none
    | entries :: wire => some { s with wire, viewer := s.viewer.onMessage lower entries }
  | .togglePause => some { s with viewer := s.viewer.togglePause lower }
  | .clearLogs => some { s with viewer := s.viewer.clearLogs }
  | .filterLogs f => some { s with viewer := s.viewer.step lower (.filterLogs f) }

/-- The entries logged so far. -/
def logged (inputs : List Input) : List LogEntry :=
  inputs.filterMap fun i =>
    match i with
    | .server (.push e) => some e
    | _ => none

/-- The log holds the newest entries, and every message on its way is what was newest at
some moment. -/
structure Windows (lower : String → String) (log : List LogEntry) (s : LogPage) : Prop where
  capacity : s.stream.logbuf.capacity = 1000
  holds : s.stream.logbuf.Holds log
  wire : ∀ entries ∈ s.wire, ∃ before, before <+: log ∧ entries = before.rtake 50
  viewer : ∃ all, s.viewer.Keeps lower all

variable {lower : String → String} {log : List LogEntry} {s t : LogPage}

theorem windows_start (lower : String → String) : start.Windows lower [] :=
  ⟨rfl, LogRingBuffer.holds_new 1000, by simp [start], [], LogViewer.keeps_start lower⟩

theorem Windows.push (h : s.Windows lower log) {e : LogEntry}
    (ht : s.step lower (.server (.push e)) = some t) : t.Windows lower (log ++ [e]) := by
  obtain ⟨stream, hstream, rfl⟩ := Option.map_eq_some_iff.mp ht
  obtain ⟨logbuf, hpush, rfl⟩ := Option.map_eq_some_iff.mp hstream
  have hpush : s.stream.logbuf.push e = .ok logbuf := by
    cases hresult : s.stream.logbuf.push e with
    | error panic => simp [hresult, Except.toOption] at hpush
    | ok after => simpa [hresult, Except.toOption] using hpush
  obtain ⟨hsame, hholds⟩ := h.holds.push hpush
  refine ⟨hsame.trans h.capacity, hholds, ?_, h.viewer⟩
  intro entries hentries
  rw [List.drop_length, List.append_nil] at hentries
  obtain ⟨before, hbefore, hwindow⟩ := h.wire entries hentries
  exact ⟨before, hbefore.trans (List.prefix_append ..), hwindow⟩

theorem Windows.tick (h : s.Windows lower log) (ht : s.step lower (.server .tick) = some t) :
    t.Windows lower log := by
  obtain ⟨stream, hstream, rfl⟩ := Option.map_eq_some_iff.mp ht
  simp only [LogStream.step] at hstream
  split at hstream
  · obtain rfl := Option.some.inj hstream
    refine ⟨h.capacity, h.holds, ?_, h.viewer⟩
    intro entries hentries
    rw [List.drop_left] at hentries
    rcases List.mem_append.mp hentries with hold | hnew
    · exact h.wire entries hold
    · obtain rfl := List.mem_singleton.mp hnew
      refine ⟨log, List.prefix_rfl, ?_⟩
      rw [h.holds.recent_none, h.capacity]
      rfl
  · cases hstream

/-- What is on its way, and the page, when the log stays as it is. -/
theorem Windows.elsewhere (h : s.Windows lower log) (hlog : t.stream.logbuf = s.stream.logbuf)
    (hwire : t.wire <:+ s.wire) (hviewer : ∃ all, t.viewer.Keeps lower all) :
    t.Windows lower log :=
  ⟨hlog ▸ h.capacity, hlog ▸ h.holds, fun entries hmem => h.wire entries (hwire.mem hmem), hviewer⟩

theorem logged_push (inputs : List Input) (e : LogEntry) :
    logged (inputs ++ [.server (.push e)]) = logged inputs ++ [e] := List.filterMap_append ..

theorem logged_quiet (inputs : List Input) {i : Input} (h : ∀ e, i ≠ .server (.push e)) :
    logged (inputs ++ [i]) = logged inputs := by
  rw [logged, List.filterMap_append]
  cases i with
  | server i =>
    cases i with
    | push e => exact absurd rfl (h e)
    | tick | leave => exact List.append_nil _
  | connect | arrive | togglePause | clearLogs | filterLogs => exact List.append_nil _

theorem windows_step {inputs : List Input} {i : Input} (h : s.Windows lower (logged inputs))
    (ht : s.step lower i = some t) : t.Windows lower (logged (inputs ++ [i])) := by
  obtain ⟨all, hkeeps⟩ := h.viewer
  cases i with
  | server i =>
    cases i with
    | push e =>
      rw [logged_push]
      exact h.push ht
    | tick =>
      rw [logged_quiet inputs (by simp)]
      exact h.tick ht
    | leave =>
      obtain rfl := Option.some.inj ht
      rw [logged_quiet inputs (by simp)]
      exact h.elsewhere rfl (by simp) ⟨all, hkeeps⟩
  | connect =>
    simp only [step] at ht
    split at ht
    · cases ht
    · obtain rfl := Option.some.inj ht
      rw [logged_quiet inputs (by simp)]
      exact h.elsewhere rfl List.nil_suffix ⟨all, hkeeps⟩
  | arrive =>
    simp only [step] at ht
    split at ht
    · cases ht
    · rename_i entries wire hwire
      obtain rfl := Option.some.inj ht
      rw [logged_quiet inputs (by simp)]
      exact h.elsewhere rfl (hwire ▸ List.suffix_cons ..) ⟨_, hkeeps.message entries⟩
  | togglePause =>
    obtain rfl := Option.some.inj ht
    rw [logged_quiet inputs (by simp)]
    exact h.elsewhere rfl List.suffix_rfl ⟨_, hkeeps.toggle⟩
  | clearLogs =>
    obtain rfl := Option.some.inj ht
    rw [logged_quiet inputs (by simp)]
    exact h.elsewhere rfl List.suffix_rfl ⟨_, LogViewer.Keeps.clear _⟩
  | filterLogs f =>
    obtain rfl := Option.some.inj ht
    rw [logged_quiet inputs (by simp)]
    exact h.elsewhere rfl List.suffix_rfl ⟨_, hkeeps.filter f⟩

theorem windows_run {inputs : List Input} (h : Runs.after (step lower) start inputs = some s) :
    s.Windows lower (logged inputs) := by
  induction inputs using List.reverseRecOn generalizing s with
  | nil =>
    obtain rfl := Option.some.inj h
    exact windows_start lower
  | append_singleton inputs i ih =>
    rw [Runs.after_append] at h
    obtain ⟨before, hbefore, hlast⟩ := Option.bind_eq_some_iff.mp h
    have hlast : before.step lower i = some s := by simpa using hlast
    exact windows_step (ih hbefore) hlast

end LogPage

/-- Nothing is chosen or typed. -/
def LogFilter.off : LogFilter := ⟨.all, ""⟩

theorem LogFilter.off_passes {lower : String → String} (hlower : lower "" = "") (e : LogEntry) :
    off.passes lower e = decide (LevelChoice.all.Ranks e) := by
  rw [off, passes_unsearched hlower, Bool.eq_iff_iff, atLeast_iff, decide_eq_true_iff]
  exact and_iff_right fun _ h => nomatch h

theorem renderLogs_off {lower : String → String} (hlower : lower "" = "")
    (logEntries : List LogEntry) : renderLogs lower .off logEntries =
      if (logEntries.filter fun e => decide (LevelChoice.all.Ranks e)).rtake 50 = [] then .noMatch
      else .lines ((logEntries.filter fun e => decide (LevelChoice.all.Ranks e)).rtake 50) := by
  simp only [renderLogs, funext (LogFilter.off_passes hlower), sliceLast_eq, List.isEmpty_iff]

/-- A message leaves room for the newest of the entries that were there before. -/
theorem LogViewer.Keeps.view_message {lower : String → String} {all : List LogEntry}
    {s : LogViewer} (h : s.Keeps lower all) (hgoes : s.logPaused = false) {entries : List LogEntry}
    (hroom : entries.length ≤ viewerCapacity) : (s.onMessage lower entries).view =
      renderLogs lower s.filter
        (s.logEntries.rtake (viewerCapacity - entries.length) ++ entries) := by
  obtain ⟨⟨before, during, -, hentries, -, -⟩, -⟩ := h
  have hkept : entries.foldl addEntry s.logEntries =
      s.logEntries.rtake (viewerCapacity - entries.length) ++ entries := by
    rw [hentries, foldl_addEntry, Polling.rtake_append_of_length_le _ hroom, Polling.rtake_rtake,
      Nat.min_eq_left (Nat.sub_le ..)]
  simp only [onMessage, hgoes, render, Bool.false_eq_true, if_false, hkept]

/-- When a message arrives at a page that is neither paused nor filtered, the page shows
exactly what were the newest 50 entries of the log when it was sent, if and only if it
shows each of them, and there were 50 already or it shows none of those that it keeps from
before: until then it repeats entries. -/
theorem page_shows_newest_iff {lower : String → String} (hlower : lower "" = "")
    {inputs : List LogPage.Input} {s t : LogPage}
    (hs : Runs.after (LogPage.step lower) .start inputs = some s)
    (ht : s.step lower .arrive = some t) (hgoes : s.viewer.logPaused = false)
    (hoff : s.viewer.filter = .off) :
    ∃ log, log <+: LogPage.logged inputs ∧ s.wire.head? = some (log.rtake 50) ∧
      (t.viewer.view = .lines (log.rtake 50) ↔
        log ≠ [] ∧ (∀ e ∈ log.rtake 50, LevelChoice.all.Ranks e) ∧ (50 ≤ log.length ∨
          ∀ e ∈ s.viewer.logEntries.rtake (viewerCapacity - log.length),
            ¬ LevelChoice.all.Ranks e)) := by
  have hwindows := LogPage.windows_run hs
  simp only [LogPage.step] at ht
  split at ht
  · cases ht
  rename_i entries wire hwire
  obtain rfl := Option.some.inj ht
  obtain ⟨log, hlog, rfl⟩ := hwindows.wire entries (by simp [hwire])
  refine ⟨log, hlog, by simp [hwire], ?_⟩
  obtain ⟨all, hkeeps⟩ := hwindows.viewer
  have hlength : (log.rtake 50).length = min 50 log.length := Polling.length_rtake ..
  have hshort : (log.rtake 50).length ≤ 50 := by omega
  have hview : (s.viewer.onMessage lower (log.rtake 50)).view = renderLogs lower .off
      (s.viewer.logEntries.rtake (viewerCapacity - (log.rtake 50).length) ++ log.rtake 50) := by
    rw [hkeeps.view_message hgoes (hshort.trans (by decide)), hoff]
  have hburst := Polling.rtake_filter_eq_burst_iff (fun e => decide (LevelChoice.all.Ranks e))
    (s.viewer.logEntries.rtake (viewerCapacity - (log.rtake 50).length)) hshort
  simp only [decide_eq_true_iff] at hburst
  have hbeside : ((log.rtake 50).length = 50 ∨
      ∀ e ∈ s.viewer.logEntries.rtake (viewerCapacity - (log.rtake 50).length),
        ¬ LevelChoice.all.Ranks e) ↔ (50 ≤ log.length ∨
      ∀ e ∈ s.viewer.logEntries.rtake (viewerCapacity - log.length),
        ¬ LevelChoice.all.Ranks e) := by
    by_cases hfull : 50 ≤ log.length
    · exact iff_of_true (.inl (by omega)) (.inl hfull)
    · rw [show (log.rtake 50).length = log.length by omega]
      exact or_congr_left (by omega)
  rw [hview, renderLogs_off hlower, ← hbeside, ← hburst]
  constructor
  · intro hlines
    split at hlines
    · cases hlines
    · rename_i hsome
      injection hlines with hsame
      refine ⟨?_, hsame⟩
      rintro rfl
      exact hsome hsame
  · rintro ⟨hne, hsame⟩
    have hlen : log.length ≠ 0 := fun h => hne (List.eq_nil_of_length_eq_zero h)
    have hsome : log.rtake 50 ≠ [] := by
      intro h
      rw [h] at hlength
      simp at hlength
      omega
    rw [hsame, if_neg hsome]

/-- One entry is logged, and sent twice. -/
def sentTwice : List LogPage.Input :=
  [.server (.push (logEntry "Router running")), .server .tick, .server .tick, .arrive]

/-- The page shows the one entry of the log twice. -/
theorem page_repeats_the_first_entry :
    ∃ s t, Runs.after (LogPage.step id) .start sentTwice = some s ∧
      s.step id .arrive = some t ∧
      t.viewer.view = .lines [logEntry "Router running", logEntry "Router running"] ∧
      ∃ log, log <+: [logEntry "Router running"] ∧ t.viewer.view ≠ .lines (log.rtake 50) := by
  obtain ⟨s, t, hs, ht, hgoes, hoff, hseen, hview⟩ : ∃ s t,
      Runs.after (LogPage.step id) .start sentTwice = some s ∧ s.step id .arrive = some t ∧
        s.viewer.logPaused = false ∧ s.viewer.filter = .off ∧
        s.viewer.logEntries = [logEntry "Router running"] ∧
        t.viewer.view = .lines [logEntry "Router running", logEntry "Router running"] :=
    ⟨_, _, rfl, rfl, rfl, rfl, rfl, rfl⟩
  obtain ⟨log, hlog, -, hiff⟩ := page_shows_newest_iff rfl hs ht hgoes hoff
  refine ⟨s, t, hs, ht, hview, log, hlog, ?_⟩
  rw [Ne, hiff, hseen]
  have hshort : log.length ≤ 1 := hlog.length_le
  rintro ⟨-, -, hlong | hnone⟩
  · omega
  · have hkept : logEntry "Router running" ∈
        [logEntry "Router running"].rtake (viewerCapacity - log.length) := by
      rw [Polling.rtake_of_length_le]
      · exact List.mem_singleton_self _
      · simp only [viewerCapacity, List.length_singleton]
        omega
    exact hnone _ hkept (by decide)

end BacnetBridge
