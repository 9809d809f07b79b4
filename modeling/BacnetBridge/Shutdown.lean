import BacnetBridge.Lifecycle

/-! How `run_router` ends: `Exit` and `Ctrl-C` share one branch, whose two
transitions go through `?`. -/
namespace BacnetBridge

/-- The inputs that are to end the loop. -/
def Input.Ends (i : Input) : Prop := i = .ctrlC ∨ i = .command .exit

/-- The input makes `run_router` return `Ok` with `Stopped` published; a router
that was held is stopped on the way, and none is dropped. -/
def World.ShutsDown (T : Toml) (w : World) (i : Input) (o : Outcomes) : Prop :=
  ∃ w', Status.step T (.waiting w) (i, o) = some (.returned (.ok ()) w') ∧
    w'.state = .stopped ∧ w'.running = none ∧
    ∃ events, w'.log = w.log ++ events ∧ (∀ id, Event.dropped id ∉ events) ∧
      ∀ r, w.running = some r → Event.stopped r.id ∈ events

theorem World.leave_halted (w : World) (r : RunningRouter) :
    (w.halted r).leave.state = .stopped ∧ (w.halted r).leave.running = none ∧
      (w.halted r).leave.log =
        w.log ++ [.published .stopping, .stopped r.id, .published .stopped, .left] := by
  simp [World.leave, World.halted, World.emit]

/-- From an idle wait the branch goes through exactly if `Running` is published. -/
theorem Idle.shutsDown_iff {T : Toml} {w : World} (h : Idle w) {i : Input} (hi : i.Ends)
    (o : Outcomes) : w.ShutsDown T i o ↔ w.state = .running := by
  obtain ⟨s, hstep, hturn⟩ := turn_shutDown (T := T) (o := o) h hi
  constructor
  · rintro ⟨w', hok, -⟩
    obtain rfl := Option.some.inj (hstep.symm.trans hok)
    cases hturn with
    | shutDown _ r _ _ hs => exact hs
  · intro hs
    cases hturn with
    | refused _ _ _ hno => exact absurd hs hno
    | shutDown _ r _ hr _ =>
      obtain ⟨hstate, hrunning, hlog⟩ := w.leave_halted r
      refine ⟨_, hstep, hstate, hrunning, _, hlog, by simp, ?_⟩
      intro r' hr'
      obtain rfl := Option.some.inj (hr.symm.trans hr')
      simp
    | ignored _ hc => simp [Input.Ends, hc] at hi
    | stopped | started | switched => simp [Input.Ends] at hi

/-- At any wait of any run `Exit` and `Ctrl-C` shut the bridge down exactly if
`Running` is published then. -/
theorem shuts_down_iff_running {a : Launch} {T : Toml} {s : Status} (h : a.begin T = some s)
    {inputs : List (Input × Outcomes)} {w : World}
    (hw : Runs.after (Status.step T) s inputs = some (.waiting w)) {i : Input} (hi : i.Ends)
    (o : Outcomes) : w.ShutsDown T i o ↔ w.state = .running :=
  Idle.shutsDown_iff (idle_always h inputs inputs List.prefix_rfl _ hw w rfl) hi o

/-- A bridge restarted by `Stop` and `Start` shuts down. -/
theorem restarted_bridge_shuts_down :
    ∃ s w, (spokeLaunch (.ok none)).begin spokeToml = some s ∧
      Runs.after (Status.step spokeToml) s
        [(.command .stop, ⟨.ok none, .written⟩), (.command .start, ⟨.ok none, .written⟩)] =
          some (.waiting w) ∧
      w.ShutsDown spokeToml .ctrlC ⟨.ok none, .written⟩ := by
  have hrestarted : ∃ s w, (spokeLaunch (.ok none)).begin spokeToml = some s ∧
      Runs.after (Status.step spokeToml) s
        [(.command .stop, ⟨.ok none, .written⟩), (.command .start, ⟨.ok none, .written⟩)] =
          some (.waiting w) ∧
      w.state = .running := ⟨_, _, rfl, rfl, rfl⟩
  obtain ⟨s, w, hbegin, hafter, hrunning⟩ := hrestarted
  exact ⟨s, w, hbegin, hafter,
    (shuts_down_iff_running hbegin hafter (.inl rfl) _).mpr hrunning⟩

/-- `Exit` after a `Stop`: `Stopping` is refused and `run_router` fails. -/
theorem exit_after_stop_fails :
    ∃ s w w', (spokeLaunch (.ok none)).begin spokeToml = some s ∧
      Runs.after (Status.step spokeToml) s [(.command .stop, ⟨.ok none, .written⟩)] =
        some (.waiting w) ∧
      Status.step spokeToml (.waiting w) (.command .exit, ⟨.ok none, .written⟩) =
        some (.returned (.error (.bridge (.invalidStateTransition "Stopped" "Stopping"))) w') ∧
      ¬ w.ShutsDown spokeToml (.command .exit) ⟨.ok none, .written⟩ := by
  refine ⟨_, _, _, rfl, rfl, rfl, ?_⟩
  rintro ⟨w', hok, -⟩
  cases hok

end BacnetBridge
