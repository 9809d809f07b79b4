import BacnetBridge.Startable
import BacnetBridge.ConfigChange
import BacnetBridge.Endpoints

/-! `run_router` with the routers that `start_router` makes of the configuration in
memory, and what the dashboard says of the one that runs. -/
namespace BacnetBridge

/-! ## What the dashboard says of the router -/

/-- An entry of `router_info` says what is so of a port. The LAN's entry shows the
interface as it is configured, to which nothing is bound. -/
inductive RouterInfoNetwork.Shows (n : RouterInfoNetwork) : RouterPort → Prop
  | lan (t : BipTransport) : n.netType = "LAN" → n.port = t.port → Shows n ⟨.bip t, 1⟩
  | hub (t : ScTransport) : n.netType = "BACnet/SC" → n.ip = t.hubUrl →
      n.hubUrl = some t.hubUrl → Shows n ⟨.sc t, 2⟩
  | tailscale (t : BipTransport) : n.netType = "Tailscale" → n.ip = ipText t.interface →
      n.port = t.port → Shows n ⟨.bip t, 2⟩

/-- The loopback port is not shown. -/
structure RouterInfoResponse.Describes (info : RouterInfoResponse) (r : StartedRouter) :
    Prop where
  deviceId : info.deviceId = r.device.deviceId
  vendorId : info.vendorId = r.device.vendorId
  deviceName : info.deviceName = r.device.deviceName
  networks : List.Forall₂ RouterInfoNetwork.Shows info.networks (r.ports.take 2)

/-- `router_info` shows the same of both but the LAN's interface. -/
def BridgeConfig.ShownAs (c d : BridgeConfig) : Prop :=
  routerInfo { c with router.lan.interface := d.router.lan.interface } = routerInfo d

/-- The entry of network 2. -/
def BridgeConfig.remoteEntry (config : BridgeConfig) : RouterInfoNetwork :=
  if config.router.transport == "sc" then
    { network := 2
      netType := "BACnet/SC"
      ip := config.router.sc.hubUrl
      port := 0
      hubUrl := some config.router.sc.hubUrl
      adapter := none }
  else
    { network := 2
      netType := "Tailscale"
      ip := config.router.tailscale.interface
      port := config.router.tailscale.port
      hubUrl := none
      adapter := if config.router.tailscale.interface.isEmpty then none else some "tailscale" }

section

variable {c d : BridgeConfig} {r : StartedRouter}

theorem describes_iff : (routerInfo c).Describes r ↔
    c.router.deviceId = r.device.deviceId ∧ c.router.vendorId = r.device.vendorId ∧
      c.router.deviceName = r.device.deviceName ∧
      ∃ t p, r.ports.take 2 = [⟨.bip t, 1⟩, p] ∧ c.router.lan.port = t.port ∧
        c.remoteEntry.Shows p := by
  constructor
  · rintro ⟨hid, hvendor, hname, hnetworks⟩
    refine ⟨hid, hvendor, hname, ?_⟩
    generalize r.ports.take 2 = ports at hnetworks
    obtain _ | ⟨hlan, _ | ⟨hremote, _ | _⟩⟩ := hnetworks
    cases hlan with
    | lan t _ hport => exact ⟨t, _, rfl, hport, hremote⟩
    | hub t htype | tailscale t htype => exact absurd htype (by simp)
  · rintro ⟨hid, hvendor, hname, t, p, hports, hport, hremote⟩
    refine ⟨hid, hvendor, hname, ?_⟩
    rw [hports]
    exact .cons (.lan t rfl hport) (.cons hremote .nil)

theorem shownAs_iff : c.ShownAs d ↔
    c.router.deviceId = d.router.deviceId ∧ c.router.vendorId = d.router.vendorId ∧
      c.router.deviceName = d.router.deviceName ∧ c.router.lan.port = d.router.lan.port ∧
      c.remoteEntry = d.remoteEntry := by
  unfold BridgeConfig.ShownAs routerInfo
  simp only [RouterInfoResponse.mk.injEq, List.cons.injEq, RouterInfoNetwork.mk.injEq]
  constructor
  · rintro ⟨hid, hvendor, hname, ⟨-, -, -, hport, -⟩, hremote, -⟩
    exact ⟨hid, hvendor, hname, hport, hremote⟩
  · rintro ⟨hid, hvendor, hname, hport, hremote⟩
    exact ⟨hid, hvendor, hname, by simp [hport], hremote, trivial⟩

/-- The entry of network 2 is all there is to see of a port. -/
theorem remoteEntry_unique {p : RouterPort} (hc : c.remoteEntry.Shows p)
    (hd : d.remoteEntry.Shows p) : d.remoteEntry = c.remoteEntry := by
  unfold BridgeConfig.remoteEntry at hc hd ⊢
  split at hc <;> split at hd
  · cases hc with
    | lan t htype | tailscale t htype => exact absurd htype (by simp)
    | hub t _ hurl =>
      cases hd with
      | hub _ _ hurl' => simp_all
  · cases hc with
    | lan t htype | tailscale t htype => exact absurd htype (by simp)
    | hub t =>
      cases hd with
      | hub _ htype => exact absurd htype (by simp)
  · cases hd with
    | lan t htype | tailscale t htype => exact absurd htype (by simp)
    | hub t =>
      cases hc with
      | hub _ htype => exact absurd htype (by simp)
  · cases hc with
    | lan t htype | hub t htype => exact absurd htype (by simp)
    | tailscale t _ hip hport =>
      cases hd with
      | tailscale _ _ hip' hport' => simp_all

/-- Where one configuration describes a router, those that do are the ones that show
the same. -/
theorem describes_iff_shownAs (hd : (routerInfo d).Describes r) :
    (routerInfo c).Describes r ↔ c.ShownAs d := by
  obtain ⟨hid, hvendor, hname, t, p, hports, hport, hremote⟩ := describes_iff.mp hd
  rw [describes_iff, shownAs_iff, hid, hvendor, hname, hport]
  refine and_congr_right fun _ => and_congr_right fun _ => and_congr_right fun _ => ?_
  constructor
  · rintro ⟨t', p', hports', hport', hremote'⟩
    obtain ⟨rfl, rfl⟩ : t = t' ∧ p = p' := by simpa using hports.symm.trans hports'
    exact ⟨hport', remoteEntry_unique hremote hremote'⟩
  · rintro ⟨hport', hsame⟩
    exact ⟨t, p, hports, hport', hsame ▸ hremote⟩

end

theorem startRouter_describes {O : Outside} {config : BridgeConfig} {r : StartedRouter}
    (h : startRouter O config = .ok r) : (routerInfo config).Describes r := by
  obtain ⟨remote, state, hremote, -, -, rfl⟩ := startRouter_eq_ok.mp h
  refine ⟨rfl, rfl, rfl, .cons (.lan _ rfl rfl) (.cons ?_ .nil)⟩
  rcases transport_of_remote hremote with hsc | hts
  · obtain ⟨hbuilt, -⟩ := (buildRemoteTransport_sc hsc).mp hremote
    obtain ⟨sc, rfl, hurl, -, -⟩ := buildScTransport_ok hbuilt
    simp only [hsc, beq_self_eq_true, if_true]
    exact .hub sc rfl hurl.symm (congrArg some hurl.symm)
  · obtain ⟨transport, hbuilt, rfl, -⟩ := (buildRemoteTransport_tailscale hts).mp hremote
    obtain ⟨hinterface, hport, -⟩ := tailscaleTransport_ok hbuilt
    have hsc : (config.router.transport == "sc") = false := by
      rw [hts]
      decide
    simp only [hsc, if_false, Bool.false_eq_true]
    exact .tailscale transport rfl hinterface hport.symm

/-! ## Runs -/

/-- The loop with the routers it has started: the one called `id` is `built[id]`. -/
structure Bridge where
  status : Status
  built : List StartedRouter

/-- An operation, with what it finds outside the program. -/
inductive BridgeOp
  | update (body : BridgeConfig) (save : SaveOutcome)
  | hubMode (mode : String) (save : SaveOutcome)
  | turn (i : Input) (outside : Outside) (save : SaveOutcome)

/-- The configuration in memory when the turn calls `start_router`. -/
def World.startConfig (w : World) : Input → BridgeConfig
  | .command (.switchTransport mode) => w.config.withTransport mode
  | _ => w.config

/-- The operation with its start as `start_router` makes it end. -/
def BridgeOp.toConfigOp (b : Bridge) : BridgeOp → ConfigOp
  | .update body save => .update body save
  | .hubMode mode save => .hubMode mode save
  | .turn i O save =>
    .turn i ⟨.of (startRouter O (b.status.world.startConfig i)), save⟩

/-- The router that a start in the operation makes. -/
def BridgeOp.builds (b : Bridge) : BridgeOp → List StartedRouter
  | .turn i O _ => (startRouter O (b.status.world.startConfig i)).toOption.toList
  | _ => []

namespace Bridge

def start (w : World) (O : Outside) : Bridge where
  status := .waiting w
  built := (startRouter O w.config).toOption.toList

def step (T : Toml) (b : Bridge) (op : BridgeOp) : Option Bridge :=
  (ConfigOp.step T b.status (op.toConfigOp b)).map fun status =>
    { status
      built := if status.world.routers = b.status.world.routers then b.built
        else b.built ++ op.builds b }

/-- `P` is so of the configuration in memory and the router that runs, if one does. -/
def Holds (P : BridgeConfig → StartedRouter → Prop) (b : Bridge) : Prop :=
  ∀ running, b.status.world.running = some running →
    ∃ r, b.built[running.id]? = some r ∧ P b.status.world.config r

/-- A `PUT` that finds a router running leaves `P` so of it. -/
def Keeps (P : BridgeConfig → StartedRouter → Prop) : Bridge → BridgeOp → Prop
  | ⟨.waiting w, built⟩, .update body _ => ∀ running, w.running = some running →
      ∃ r, built[running.id]? = some r ∧ P body r
  | _, _ => True

/-- What `router_info` says is so of the router that runs, if one does. -/
def Truthful : Bridge → Prop := Holds fun c r => (routerInfo c).Describes r

/-- A `PUT` that finds a router running changes nothing that `router_info` shows but the
LAN's interface. -/
def Undisturbed : Bridge → BridgeOp → Prop
  | ⟨.waiting w, _⟩, .update body _ => w.running.isSome → body.ShownAs w.config
  | _, _ => True

/-- A spoke that runs verifies its hub, and shows a certificate, as is configured. -/
def TrustsAsConfigured : Bridge → Prop :=
  Holds fun c r => ∀ sc, r.ports[1]? = some ⟨.sc sc, 2⟩ → sc.trust = c.router.sc.trust

/-- A `PUT` that finds a spoke running changes nothing of that. -/
def KeepsTrust : Bridge → BridgeOp → Prop
  | ⟨.waiting w, built⟩, .update body _ => ∀ running r sc, w.running = some running →
      built[running.id]? = some r → r.ports[1]? = some ⟨.sc sc, 2⟩ →
        body.router.sc.trust = w.config.router.sc.trust
  | _, _ => True

/-- Routers are numbered as they are built. -/
structure Counted (b : Bridge) : Prop where
  length : b.built.length = b.status.world.routers
  path : b.status.world.configPath.isSome
  idle : ∀ w, b.status = .waiting w → Idle w

end Bridge

theorem readied_routers (w : World) (T : Toml) (mode : String) (o : SaveOutcome) :
    (w.readied T mode o).routers = w.routers := by
  unfold World.readied
  split <;> rfl

theorem leave_routers (w : World) : w.leave.routers = w.routers := by
  unfold World.leave
  split <;> rfl

/-- A turn leaves the router alone, leaves none, or starts one from the configuration
that it leaves in memory. -/
theorem Turn.router_cases {T : Toml} {w : World} {o : Outcomes} {i : Input} {s : Status}
    (hidle : Idle w) (ht : Turn T w o i s) :
    s = .waiting w ∨ (s.world.running = none ∧ s.world.routers = w.routers) ∨
      ∃ bbmdState, o.start = .ok bbmdState ∧ s.world.running = some ⟨w.routers, bbmdState⟩ ∧
        s.world.routers = w.routers + 1 ∧ s.world.config = w.startConfig i := by
  have hlaunched : ∀ ready : World, ready.running = none → ready.routers = w.routers →
      ready.config = w.startConfig i → s = .waiting (ready.launched o.start) →
      (s.world.running = none ∧ s.world.routers = w.routers) ∨
        ∃ bbmdState, o.start = .ok bbmdState ∧ s.world.running = some ⟨w.routers, bbmdState⟩ ∧
          s.world.routers = w.routers + 1 ∧ s.world.config = w.startConfig i := by
    rintro ready hnone hrouters hconfig rfl
    cases hstart : o.start with
    | ok bbmdState =>
      refine .inr ⟨bbmdState, rfl, ?_, congrArg (· + 1) hrouters, hconfig⟩
      rw [← hrouters]
      rfl
    | err e => exact .inl ⟨hnone, hrouters⟩
  cases ht with
  | ignored => exact .inl rfl
  | stopped r => exact .inr (.inl ⟨rfl, rfl⟩)
  | started hnone => exact .inr (hlaunched w.announced hnone rfl rfl rfl)
  | switched mode =>
    exact .inr (hlaunched (w.readied T mode o.save) (hidle.readied T mode o.save).2.1
      (readied_routers w T mode o.save) (readied_config w T mode o.save).1 rfl)
  | shutDown i r => exact .inr (.inl ⟨leave_running (w.halted r), leave_routers (w.halted r)⟩)
  | refused => exact .inr (.inl ⟨leave_running w, leave_routers w⟩)

theorem hubModeSwitch_ok {mode : String} {current : AppState} {m : HubMode}
    {reply : List (String × String)} (h : hubModeSwitch mode current = .ok (m, reply)) :
    current ≠ .running := by
  rintro rfl
  unfold hubModeSwitch at h
  split at h <;> cases h

/-- A `PUT` replaces the configuration. Everything else leaves all alone, leaves no
router, or starts one from the configuration that it leaves in memory. -/
theorem Ran.router_cases {T : Toml} {w : World} {op : ConfigOp} {s : Status}
    {reply : Except HttpError (List (String × String))} (hidle : Idle w)
    (h : Ran T w op reply s) :
    (∃ body save, op = .update body save ∧ s.world.routers = w.routers ∧
      s.world.running = w.running ∧ s.world.config = body) ∨
    ((∀ body save, op ≠ .update body save) ∧
      (s = .waiting w ∨ (s.world.running = none ∧ s.world.routers = w.routers) ∨
        ∃ i o bbmdState, op = .turn i o ∧ o.start = .ok bbmdState ∧
          s.world.running = some ⟨w.routers, bbmdState⟩ ∧ s.world.routers = w.routers + 1 ∧
          s.world.config = w.startConfig i)) := by
  cases h with
  | updated body save | notSaved body save => exact .inl ⟨body, save, rfl, rfl, rfl, rfl⟩
  | refused => exact .inr ⟨by simp, .inl rfl⟩
  | switched mode save m reply hcheck =>
    have hnone := hidle.running_none (hubModeSwitch_ok hcheck)
    refine .inr ⟨by simp, .inr (.inl ?_)⟩
    cases m <;> exact ⟨hnone, rfl⟩
  | turn i o s hturn =>
    refine .inr ⟨by simp, ?_⟩
    rcases hturn.router_cases hidle with hsame | hnone | ⟨bbmdState, hok, hrest⟩
    · exact .inl hsame
    · exact .inr (.inl hnone)
    · exact .inr (.inr ⟨i, o, bbmdState, rfl, hok, hrest⟩)

theorem StartOutcome.of_eq_ok {started : Except BridgeError StartedRouter}
    {bbmdState : Option Nat} (h : StartOutcome.of started = .ok bbmdState) :
    ∃ r, started = .ok r := by
  cases started with
  | ok r => exact ⟨r, rfl⟩
  | error e => cases h

namespace Bridge

variable {T : Toml} {b b' : Bridge} {w : World} {op : BridgeOp}

theorem step_returned {r : Except RunError Unit} (hb : b.status = .returned r w) :
    b.step T op = none := by
  simp only [step, hb]
  rfl

/-- What an operation comes to, for the routers that have been built. -/
inductive Stepped (b : Bridge) (w : World) : BridgeOp → Bridge → Prop
  | put (body : BridgeConfig) (save : SaveOutcome) (b' : Bridge) : b'.built = b.built →
      b'.status.world.running = w.running → b'.status.world.config = body →
      Stepped b w (.update body save) b'
  | same (op : BridgeOp) : (∀ body save, op ≠ .update body save) → Stepped b w op b
  | bare (op : BridgeOp) (b' : Bridge) : (∀ body save, op ≠ .update body save) →
      b'.status.world.running = none → Stepped b w op b'
  | built (op : BridgeOp) (b' : Bridge) (O : Outside) (r : StartedRouter) (bbmdState : Option Nat) :
      (∀ body save, op ≠ .update body save) → startRouter O b'.status.world.config = .ok r →
      b'.built = b.built ++ [r] →
      b'.status.world.running = some ⟨b.built.length, bbmdState⟩ → Stepped b w op b'

theorem step_cases (h : b.Counted) (hb : b.status = .waiting w) (hstep : b.step T op = some b') :
    b'.Counted ∧ Stepped b w op b' := by
  have hworld : b.status.world = w := by
    rw [hb]
    rfl
  have hpath : w.configPath.isSome := hworld ▸ h.path
  have hlength : b.built.length = w.routers := hworld ▸ h.length
  obtain ⟨status, hs, rfl⟩ := Option.map_eq_some_iff.mp hstep
  rw [hworld]
  obtain ⟨reply, s, hrun, hran⟩ := ConfigOp.exists_ran T hpath (h.idle w hb) (op.toConfigOp b)
  obtain rfl : status = s := by
    simp only [ConfigOp.step, hb, hrun, Option.map_some, Option.some.injEq] at hs
    exact hs.symm
  obtain ⟨hpath', hidle'⟩ := hran.kept hpath (h.idle w hb)
  have hsame : status.world.routers = w.routers →
      (if status.world.routers = w.routers then b.built else b.built ++ op.builds b) = b.built :=
    fun heq => if_pos heq
  have hcounted : status.world.routers = w.routers →
      b.built.length = status.world.routers := fun heq => hlength.trans heq.symm
  rcases hran.router_cases (h.idle w hb) with ⟨body, save, hop, hrouters, hrunning, hconfig⟩ |
    ⟨hno, hsame' | ⟨hnone, hrouters⟩ | ⟨i, o, bbmdState, hop, hok, hrunning, hrouters, hconfig⟩⟩
  · obtain rfl : op = .update body save := by
      cases op <;> simp_all [BridgeOp.toConfigOp]
    rw [hsame hrouters]
    exact ⟨⟨hcounted hrouters, hpath', hidle'⟩, .put body save _ rfl hrunning hconfig⟩
  · subst hsame'
    rw [hsame rfl, ← hb]
    exact ⟨h, .same op fun body save hop => hno body save (by rw [hop]; rfl)⟩
  · rw [hsame hrouters]
    refine ⟨⟨hcounted hrouters, hpath', hidle'⟩, .bare op _ ?_ hnone⟩
    exact fun body save hop => hno body save (by rw [hop]; rfl)
  · cases op with
    | update | hubMode => cases hop
    | turn i' O save =>
      cases hop
      obtain ⟨r, hstarted⟩ := StartOutcome.of_eq_ok hok
      rw [hworld] at hstarted
      have hbuilds : BridgeOp.builds b (.turn i O save) = [r] := by
        simp [BridgeOp.builds, hworld, hstarted, Except.toOption]
      have hnew : status.world.routers ≠ w.routers := by
        rw [hrouters]
        exact Nat.succ_ne_self _
      rw [if_neg hnew, hbuilds]
      refine ⟨⟨?_, hpath', hidle'⟩, .built _ _ O r bbmdState (by simp) (hconfig ▸ hstarted) rfl ?_⟩
      · rw [List.length_append, hlength, List.length_singleton]
        exact hrouters.symm
      · rw [hlength]
        exact hrunning

variable {P : BridgeConfig → StartedRouter → Prop}

/-- What every start makes so, only a `PUT` that finds a router running can undo. -/
theorem holds_step_iff (hP : ∀ O c r, startRouter O c = .ok r → P c r) (h : b.Counted)
    (hholds : b.Holds P) (hstep : b.step T op = some b') : b'.Holds P ↔ b.Keeps P op := by
  cases hb : b.status with
  | returned r w =>
    rw [step_returned hb] at hstep
    cases hstep
  | waiting w =>
    have hother : (∀ body save, op ≠ .update body save) → b.Keeps P op := by
      intro hno
      unfold Keeps
      split
      · exact absurd rfl (hno _ _)
      · trivial
    cases (step_cases h hb hstep).2 with
    | put body save _ hbuilt hrunning hconfig =>
      obtain ⟨status, built⟩ := b
      obtain rfl : status = .waiting w := hb
      simp only [Holds, Keeps, hbuilt, hrunning, hconfig]
    | same op hno => exact iff_of_true hholds (hother hno)
    | bare op _ hno hnone =>
      refine iff_of_true ?_ (hother hno)
      intro running hrunning
      cases hnone.symm.trans hrunning
    | built op _ O r bbmdState hno hstarted hbuilt hrunning =>
      refine iff_of_true ?_ (hother hno)
      intro running hheld
      obtain rfl := Option.some.inj (hrunning.symm.trans hheld)
      refine ⟨r, ?_, hP O _ r hstarted⟩
      rw [hbuilt]
      exact List.getElem?_concat_length

/-- Only the end of `run_router` stops the bridge. -/
theorem keeps_of_none (h : b.Counted) (hstep : b.step T op = none) : b.Keeps P op := by
  obtain ⟨status, built⟩ := b
  cases status with
  | returned r w => exact trivial
  | waiting w =>
    have hpath : w.configPath.isSome := h.path
    obtain ⟨reply, s, hrun, -⟩ := ConfigOp.exists_ran T hpath (h.idle w rfl)
      (op.toConfigOp ⟨.waiting w, built⟩)
    simp [step, ConfigOp.step, hrun] at hstep

theorem keeps_iff_undisturbed (htrue : b.Truthful) :
    b.Keeps (fun c r => (routerInfo c).Describes r) op ↔ b.Undisturbed op := by
  unfold Keeps Undisturbed
  split
  · rename_i w built body save
    cases hr : w.running with
    | none => simp
    | some running =>
      obtain ⟨r, hget, hdescribes⟩ := htrue running hr
      simp only [Option.some.injEq, forall_eq', Option.isSome_some, forall_const]
      refine Iff.trans ?_ (describes_iff_shownAs hdescribes)
      constructor
      · rintro ⟨r', hget', hdescribes'⟩
        obtain rfl := Option.some.inj (hget.symm.trans hget')
        exact hdescribes'
      · intro hdescribes'
        exact ⟨r, hget, hdescribes'⟩
  · rfl

theorem keeps_iff_keepsTrust (htrusts : b.TrustsAsConfigured) :
    b.Keeps (fun c r => ∀ sc, r.ports[1]? = some ⟨.sc sc, 2⟩ → sc.trust = c.router.sc.trust) op ↔
      b.KeepsTrust op := by
  unfold Keeps KeepsTrust
  split
  · rename_i w built body save
    constructor
    · intro hkeeps running r sc hr hget hport
      obtain ⟨r', hget', hbody⟩ := hkeeps running hr
      obtain rfl := Option.some.inj (hget.symm.trans hget')
      obtain ⟨r', hget', hheld⟩ := htrusts running hr
      obtain rfl := Option.some.inj (hget.symm.trans hget')
      exact (hbody sc hport).symm.trans (hheld sc hport)
    · intro hkept running hr
      obtain ⟨r, hget, hheld⟩ := htrusts running hr
      refine ⟨r, hget, ?_⟩
      intro sc hport
      exact (hheld sc hport).trans (hkept running r sc hr hget hport).symm
  · rfl

end Bridge

theorem Launch.entered_routers (a : Launch) (config : BridgeConfig) (file : File)
    (localAddr : Option String) : (a.entered config file localAddr).routers = 0 := by
  unfold Launch.entered
  split <;> rfl

/-- The first start numbers its router 0. -/
theorem Launch.bridge_start {a : Launch} {T : Toml} {w : World} {O : Outside}
    {P : BridgeConfig → StartedRouter → Prop} (hP : ∀ O c r, startRouter O c = .ok r → P c r)
    (h : a.begin T = some (.waiting w)) (hstart : a.start = .of (startRouter O w.config)) :
    (Bridge.start w O).Counted ∧ (Bridge.start w O).Holds P := by
  have hpath : w.configPath.isSome := by
    rw [a.waiting_configPath h]
    rfl
  have hidle : ∀ w', Status.waiting w = .waiting w' → Idle w' := by
    intro w' hw'
    obtain rfl := Status.waiting.inj hw'
    exact a.idle h
  obtain ⟨config, file, localAddr, -, -, hw⟩ := a.begin_waiting h
  have hnone := (a.entered_ready config file localAddr).2.1
  have hrouters := a.entered_routers config file localAddr
  cases hstarted : startRouter O w.config with
  | ok r =>
    have hbuilt : (Bridge.start w O).built = [r] := by
      simp [Bridge.start, hstarted, Except.toOption]
    rw [hstart, hstarted] at hw
    have hrunning : w.routers = 1 ∧ w.running = some ⟨0, r.bbmdState⟩ := by
      rw [hw]
      exact ⟨congrArg (· + 1) hrouters, by simp [World.launched, StartOutcome.of, hrouters]⟩
    refine ⟨⟨?_, hpath, hidle⟩, ?_⟩
    · rw [hbuilt]
      exact hrunning.1.symm
    · intro running hheld
      obtain rfl := Option.some.inj (hrunning.2.symm.trans hheld)
      exact ⟨r, by rw [hbuilt]; rfl, hP O _ r hstarted⟩
  | error e =>
    have hbuilt : (Bridge.start w O).built = [] := by
      simp [Bridge.start, hstarted, Except.toOption]
    rw [hstart, hstarted] at hw
    have hrunning : w.routers = 0 ∧ w.running = none := by
      rw [hw]
      exact ⟨hrouters, hnone⟩
    refine ⟨⟨?_, hpath, hidle⟩, ?_⟩
    · rw [hbuilt]
      exact hrunning.1.symm
    · intro running hheld
      cases hrunning.2.symm.trans hheld

/-- What every start makes so holds throughout a run exactly if every `PUT` keeps it, in
whatever terms that is put. -/
theorem holds_throughout_iff {a : Launch} {T : Toml} {w : World} {O : Outside}
    {P : BridgeConfig → StartedRouter → Prop} {Kept : Bridge → BridgeOp → Prop}
    (hP : ∀ O c r, startRouter O c = .ok r → P c r)
    (hkept : ∀ (b : Bridge) op, b.Holds P → (b.Keeps P op ↔ Kept b op))
    (h : a.begin T = some (.waiting w)) (hstart : a.start = .of (startRouter O w.config))
    (ops : List BridgeOp) :
    Runs.Always (Bridge.step T) (.start w O) ops (Bridge.Holds P) ↔
      Runs.Each (Bridge.step T) (.start w O) ops Kept := by
  obtain ⟨hcounted, hholds⟩ := a.bridge_start hP h hstart
  have hreached : Runs.Always (Bridge.step T) (.start w O) ops Bridge.Counted := by
    refine Runs.always_of_step ?_ hcounted ops
    intro b op b' hc hstep
    cases hb : b.status with
    | returned r w =>
      rw [Bridge.step_returned hb] at hstep
      cases hstep
    | waiting w => exact (Bridge.step_cases hc hb hstep).1
  refine Runs.always_iff_each ?_ ?_ hreached hholds
  · intro b op b' hc hb hstep
    exact (Bridge.holds_step_iff hP hc hb hstep).trans (hkept b op hb)
  · intro b op hc hb hstep
    exact (hkept b op hb).mp (Bridge.keeps_of_none hc hstep)

/-! ## What is shown -/

/-- Over every sequence of `PUT`s, changes of hub mode and turns of the loop, whatever is
found outside: what `router_info` says of the device, the LAN's port and the other network
is so of the router that runs, exactly if no `PUT` that finds a router running changes any
of it. A `PUT` looks at no state, and starts nothing. -/
theorem router_info_truthful_iff {a : Launch} {T : Toml} {w : World} {O : Outside}
    (h : a.begin T = some (.waiting w)) (hstart : a.start = .of (startRouter O w.config))
    (ops : List BridgeOp) :
    Runs.Always (Bridge.step T) (.start w O) ops Bridge.Truthful ↔
      Runs.Each (Bridge.step T) (.start w O) ops Bridge.Undisturbed :=
  holds_throughout_iff (fun _ _ _ => startRouter_describes)
    (fun _ _ => Bridge.keeps_iff_undisturbed) h hstart ops

/-- A spoke starts, with nothing outside in its way. -/
theorem spoke_begins : ∃ w, (hubLaunch false).begin hubToml = some (.waiting w) ∧
    (hubLaunch false).start = .of (startRouter plainOutside w.config) ∧
      w.config = hubConfig cloudUrl ∧ w.running = some ⟨0, none⟩ :=
  ⟨_, begin_hubLaunch false, rfl, rfl, rfl⟩

/-- The device gets another id while the router that carries it runs. -/
theorem put_makes_router_info_untrue : ∃ (a : Launch) (w : World),
    a.begin hubToml = some (.waiting w) ∧ a.start = .of (startRouter plainOutside w.config) ∧
    ¬ Runs.Always (Bridge.step hubToml) (.start w plainOutside)
      [.update { hubConfig cloudUrl with router.deviceId := 7 } .written] Bridge.Truthful := by
  obtain ⟨w, hbegin, hstart, hconfig, hrunning⟩ := spoke_begins
  refine ⟨_, w, hbegin, hstart, ?_⟩
  rw [router_info_truthful_iff hbegin hstart]
  intro heach
  have hshown := (Runs.each_cons.mp heach).1 (by rw [hrunning]; rfl)
  rw [hconfig, shownAs_iff] at hshown
  exact absurd hshown.1 (by decide)

/-! ## Whom the spoke trusts -/

/-- Over the same sequences: a spoke that runs verifies its hub, and shows a certificate
of its own, as the configuration in memory says, exactly if no `PUT` that finds a spoke
running changes either. To turn verification on again is nothing to the spoke that runs. -/
theorem spoke_trusts_as_configured_iff {a : Launch} {T : Toml} {w : World} {O : Outside}
    (h : a.begin T = some (.waiting w)) (hstart : a.start = .of (startRouter O w.config))
    (ops : List BridgeOp) :
    Runs.Always (Bridge.step T) (.start w O) ops Bridge.TrustsAsConfigured ↔
      Runs.Each (Bridge.step T) (.start w O) ops Bridge.KeepsTrust :=
  holds_throughout_iff (fun _ _ _ hstarted _ => startRouter_trust hstarted)
    (fun _ _ => Bridge.keeps_iff_keepsTrust) h hstart ops

/-- The flag is set, a spoke started with it, and the flag taken back. -/
def flagTakenBack : List BridgeOp :=
  [.update { hubConfig cloudUrl with router.sc.dangerAcceptInvalidCerts := true } .written,
    .turn (.command (.switchTransport "sc")) plainOutside .written,
    .update (hubConfig cloudUrl) .written]

/-- The spoke goes on without verification. -/
theorem put_does_not_verify_the_hub : ∃ w b running r sc,
    (hubLaunch false).begin hubToml = some (.waiting w) ∧
    (hubLaunch false).start = .of (startRouter plainOutside w.config) ∧
    Runs.after (Bridge.step hubToml) (.start w plainOutside) flagTakenBack = some b ∧
    b.status.world.config.router.sc.dangerAcceptInvalidCerts = false ∧
    b.status.world.running = some running ∧ b.built[running.id]? = some r ∧
    r.ports[1]? = some ⟨.sc sc, 2⟩ ∧ sc.tls.verifier = .noServerVerification ∧
    ¬ Runs.Each (Bridge.step hubToml) (.start w plainOutside) flagTakenBack
      Bridge.KeepsTrust := by
  obtain ⟨w, b, running, r, sc, hbegin, hstart, hrun, hflag, hrunning, hget, hport, hverifier⟩ :
      ∃ w b running r sc, (hubLaunch false).begin hubToml = some (.waiting w) ∧
        (hubLaunch false).start = .of (startRouter plainOutside w.config) ∧
        Runs.after (Bridge.step hubToml) (.start w plainOutside) flagTakenBack = some b ∧
        b.status.world.config.router.sc.dangerAcceptInvalidCerts = false ∧
        b.status.world.running = some running ∧ b.built[running.id]? = some r ∧
        r.ports[1]? = some ⟨.sc sc, 2⟩ ∧ sc.tls.verifier = .noServerVerification :=
    ⟨_, _, _, _, _, begin_hubLaunch false, rfl, rfl, rfl, rfl, rfl, rfl, rfl⟩
  refine ⟨w, b, running, r, sc, hbegin, hstart, hrun, hflag, hrunning, hget, hport, hverifier, ?_⟩
  rw [← spoke_trusts_as_configured_iff hbegin hstart]
  intro htrusts
  obtain ⟨r', hget', hheld⟩ := htrusts flagTakenBack List.prefix_rfl b hrun running hrunning
  obtain rfl := Option.some.inj (hget.symm.trans hget')
  have hverifies := congrArg Prod.fst (hheld sc hport)
  simp [ScTransport.trust, ScConfig.trust, hverifier, hflag] at hverifies

end BacnetBridge
