import BacnetBridge.LogBuffer
import BacnetBridge.Runs

/-! `ws_logs` in `web/api.rs`: one connection that is sent the newest entries of
the log once a second. -/
namespace BacnetBridge

/-- The log of a bridge and one connection to it: what was sent so far, one
message after the other, and whether the connection's loop still runs. -/
structure LogStream where
  logbuf : LogRingBuffer
  messages : List (List LogEntry)
  connected : Bool

namespace LogStream

/-- The log as `run_router` and `serve` make it. -/
def start : LogStream := ⟨.new 1000, [], true⟩

/-- The loop also ends when the client sends something, or can no longer be
sent to. -/
inductive Input
  | push (entry : LogEntry)
  | tick
  | leave

def step (s : LogStream) : Input → Option LogStream
  | .push entry => (s.logbuf.push entry).toOption.map fun logbuf => { s with logbuf }
  | .tick =>
    if s.connected then some { s with messages := s.messages ++ [s.logbuf.recent 50 none] }
    else none
  | .leave => some { s with connected := false }

/-- The entries pushed before each tick and after the one before it; `pending`
are those pushed since the last tick. -/
def bursts (pending : List LogEntry) : List Input → List (List LogEntry)
  | [] => []
  | .push entry :: inputs => bursts (pending ++ [entry]) inputs
  | .tick :: inputs => pending :: bursts [] inputs
  | .leave :: inputs => bursts pending inputs

/-- The messages of a run are the windows on the log after each burst. -/
theorem messages_eq_windows {s t : LogStream} {inputs : List Input}
    (h : Runs.after step s inputs = some t) (hcapacity : s.logbuf.capacity = 1000)
    {seen pending : List LogEntry} (hholds : s.logbuf.Holds (seen ++ pending)) :
    t.messages = s.messages ++ Polling.windows 50 seen (bursts pending inputs) := by
  induction inputs generalizing s seen pending with
  | nil =>
    obtain rfl := Option.some.inj h
    simp [bursts, Polling.windows]
  | cons input inputs ih =>
    obtain ⟨s', hstep, hrest⟩ := Option.bind_eq_some_iff.mp h
    cases input with
    | push entry =>
      simp only [step] at hstep
      cases hpush : s.logbuf.push entry with
      | error e => simp [hpush, Except.toOption] at hstep
      | ok logbuf =>
        simp only [hpush, Except.toOption, Option.map_some, Option.some.injEq] at hstep
        subst hstep
        obtain ⟨hsame, hholds'⟩ := hholds.push hpush
        rw [List.append_assoc] at hholds'
        exact ih hrest (hsame.trans hcapacity) hholds'
    | tick =>
      simp only [step] at hstep
      split at hstep
      · obtain rfl := Option.some.inj hstep
        have hsent := hholds.recent_none 50
        rw [hcapacity, show min 50 1000 = 50 from rfl] at hsent
        have hholds' : s.logbuf.Holds (seen ++ pending ++ []) := by rwa [List.append_nil]
        have hih := ih hrest hcapacity hholds'
        simp only [hih, hsent, bursts, Polling.windows, List.append_assoc, List.singleton_append]
      · cases hstep
    | leave =>
      obtain rfl := Option.some.inj hstep
      exact ih hrest hcapacity hholds

/-- Messages that follow the first bring every entry pushed since then once and
in order. -/
def Delivers (t : LogStream) (inputs : List Input) : Prop :=
  t.messages.tail.flatten = (bursts [] inputs).tail.flatten

/-- From the second tick on, the entries pushed since the tick before fill the
window of 50, or are the first that were ever pushed. -/
def FillsWindow (inputs : List Input) : Prop :=
  Polling.Fills 50 ((bursts [] inputs).headD []) (bursts [] inputs).tail

end LogStream

/-- While at most 50 entries are pushed between two ticks, everything is sent
exactly once exactly if the window is filled anew every time: a reader has no
position of its own, and is sent older entries again. -/
theorem live_log_exactly_once_iff {inputs : List LogStream.Input} {t : LogStream}
    (h : Runs.after LogStream.step .start inputs = some t)
    (hburst : ∀ burst ∈ (LogStream.bursts [] inputs).tail, burst.length ≤ 50) :
    t.Delivers inputs ↔ LogStream.FillsWindow inputs := by
  have hnew : (LogRingBuffer.new 1000).Holds ([] ++ []) := LogRingBuffer.holds_new 1000
  have hwindows := LogStream.messages_eq_windows h rfl hnew
  have hmessages : t.messages = Polling.windows 50 [] (LogStream.bursts [] inputs) := by
    simpa [LogStream.start] using hwindows
  unfold LogStream.Delivers LogStream.FillsWindow
  rw [hmessages]
  cases hbursts : LogStream.bursts [] inputs with
  | nil => simp [Polling.windows, Polling.Fills]
  | cons first bursts =>
    rw [hbursts] at hburst
    exact Polling.flatten_windows_iff first hburst

def logEntry (message : String) : LogEntry where
  timestamp := "2025-01-01T00:00:00Z"
  level := "INFO"
  target := "bridge"
  message
  fields := []

/-- Nothing is pushed before the first tick, and one entry before the second. -/
theorem first_entry_delivered_once :
    ∃ t, Runs.after LogStream.step .start [.tick, .push (logEntry "Router running"), .tick] =
        some t ∧
      t.Delivers [.tick, .push (logEntry "Router running"), .tick] := by
  refine ⟨_, rfl, (live_log_exactly_once_iff rfl ?_).mpr ⟨.inr rfl, trivial⟩⟩
  simp [LogStream.bursts]

/-- One entry before the first tick and one before the second: the first is sent
again. -/
theorem earlier_entry_sent_again :
    ∃ t, Runs.after LogStream.step .start
        [.push (logEntry "Router running"), .tick, .push (logEntry "Router stopped"), .tick] =
          some t ∧
      t.messages =
        [[logEntry "Router running"], [logEntry "Router running", logEntry "Router stopped"]] ∧
      ¬ t.Delivers
        [.push (logEntry "Router running"), .tick, .push (logEntry "Router stopped"), .tick] := by
  refine ⟨_, rfl, rfl, ?_⟩
  intro h
  have hlen := congrArg List.length h
  cases hlen

end BacnetBridge
