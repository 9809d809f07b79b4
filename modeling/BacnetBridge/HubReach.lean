import BacnetBridge.HubMode

/-! Whether the embedded hub that the bridge says it uses is there, and listens
on the port of the hub's URL. -/
namespace BacnetBridge

open Prog

/-- The port at the end of an address or a URL, when one is given. -/
def portOf (address : String) : Option Nat :=
  let digits := (address.toList.reverse.takeWhile (· ≠ ':')).reverse
  if digits ≠ [] ∧ digits.all Char.isDigit then
    some (digits.foldl (fun n c => n * 10 + (c.toNat - 48)) 0)
  else none

/-- In embedded mode a hub listens, on the port that the hub's URL names. -/
def World.HubReachable (w : World) : Prop :=
  w.isEmbeddedHub = true → ∃ addr port, w.hubListenAddr = some addr ∧
    portOf w.config.router.sc.hubUrl = some port ∧ portOf addr = some port

/-- The step carries out a change to the embedded hub. -/
def HubSys.ToEmbedded (s : HubSys) : HubSys.Input → Prop
  | .change n _ => s.accepted[n]? = some .embedded ∧ s.loop.world.configLock = .free
  | _ => False

/-- What no step of the loop touches. -/
structure World.SameHub (w w' : World) : Prop where
  listenAddr : w'.hubListenAddr = w.hubListenAddr
  vars : w'.hubVars = w.hubVars

theorem Task.Made.sameHub {α : Type} {p : Task α} (h : Made p) : p.Keeps World.SameHub := by
  induction h with
  | done => trivial
  | bind _ _ ihp ihf => exact ihp.bind ihf
  | attempt _ ih => exact ih.attempt
  | readState | note | lockRead | dropRead | lockWrite | dropWrite | takeRunning | setBbmdHandle
    | saveTransport =>
    exact keeps_await fun w _ => ⟨rfl, rfl⟩
  | transition next =>
    apply keeps_await
    intro w _
    split <;> exact ⟨rfl, rfl⟩
  | setRunning r =>
    apply keeps_await
    intro w _
    dsimp only
    split <;> exact ⟨rfl, rfl⟩
  | startRouter o =>
    refine (keeps_await fun w _ => ⟨rfl, rfl⟩).bind fun _ => keeps_await ?_
    intro w _
    split <;> exact ⟨rfl, rfl⟩

namespace HubSys

/-- Nobody replaces the listening address, and the embedded hub is in use only
under its own URL. -/
structure Tuned (listenAddr : Option String) (s : HubSys) : Prop where
  turn : s.loop.Keeps World.SameHub
  listens : s.loop.world.hubListenAddr = listenAddr
  url : s.loop.world.isEmbeddedHub = true →
    s.loop.world.config.router.sc.hubUrl = embeddedHubUrl

variable {T : Toml} {listenAddr : Option String} {s s' : HubSys} {i : HubSys.Input}

theorem Tuned.same (h : s.Tuned listenAddr) (hturn : s'.loop.Keeps World.SameHub)
    (hsame : s.loop.world.SameHub s'.loop.world) : s'.Tuned listenAddr ∧
      s'.loop.world.isEmbeddedHub = s.loop.world.isEmbeddedHub := by
  have hembedded : s'.loop.world.isEmbeddedHub = s.loop.world.isEmbeddedHub :=
    congrArg HubVars.isEmbeddedHub hsame.vars
  have hurl : s'.loop.world.config.router.sc.hubUrl = s.loop.world.config.router.sc.hubUrl :=
    congrArg HubVars.hubUrl hsame.vars
  refine ⟨⟨hturn, hsame.listenAddr.trans h.listens, fun h' => ?_⟩, hembedded⟩
  exact hurl.trans (h.url (hembedded ▸ h'))

/-- A step leaves embedded mode as it is, or is a change to one of the modes. -/
theorem Tuned.step (h : s.Tuned listenAddr) (hs : s.step T i = some s') : s'.Tuned listenAddr ∧
    ((¬ s.ToEmbedded i ∧ s'.loop.world.isEmbeddedHub = s.loop.world.isEmbeddedHub) ∨
      (¬ s.ToEmbedded i ∧ s'.loop.world.isEmbeddedHub = false) ∨
      (s.ToEmbedded i ∧ s'.loop.world.isEmbeddedHub = true)) := by
  cases i with
  | request mode =>
    simp only [HubSys.step] at hs
    split at hs <;> cases hs <;>
      exact ⟨⟨h.turn, h.listens, h.url⟩, .inl ⟨id, rfl⟩⟩
  | change n o =>
    simp only [HubSys.step] at hs
    split at hs
    · cases hs
    rename_i m hm
    split at hs
    · rename_i hfree
      cases hs
      cases m with
      | embedded =>
        exact ⟨⟨h.turn, h.listens, fun _ => rfl⟩, .inr (.inr ⟨⟨hm, hfree⟩, rfl⟩)⟩
      | cloud =>
        refine ⟨⟨h.turn, h.listens, fun h' => by cases h'⟩, .inr (.inl ⟨?_, rfl⟩)⟩
        rintro ⟨hm', -⟩
        cases hm.symm.trans hm'
    · cases hs
  | wake i o =>
    obtain ⟨l, hw, rfl⟩ := Option.map_eq_some_iff.mp hs
    obtain ⟨-, rfl⟩ := Loop.wake_some hw
    have hturn : (HubSys.loop { s with
        loop := { s.loop with task := some (handle T i o) } }).Keeps World.SameHub :=
      fun p hp => Option.some.inj hp ▸ (made_handle T i o).sameHub
    obtain ⟨htuned, hsame⟩ := h.same hturn ⟨rfl, rfl⟩
    exact ⟨htuned, .inl ⟨id, hsame⟩⟩
  | tick =>
    obtain ⟨l, ht, rfl⟩ := Option.map_eq_some_iff.mp hs
    obtain ⟨hsame, hturn⟩ := Loop.Keeps.tick (fun _ => ⟨rfl, rfl⟩) h.turn ht
    obtain ⟨htuned, hsame⟩ : Tuned listenAddr { s with loop := l } ∧ _ := h.same hturn hsame
    exact ⟨htuned, .inl ⟨id, hsame⟩⟩

theorem tuned_always (h : s.Tuned listenAddr) (inputs : List HubSys.Input) :
    Runs.Always (HubSys.step T) s inputs (Tuned listenAddr) :=
  Runs.always_of_step (fun _ _ _ hs hstep => (hs.step hstep).1) h inputs

theorem portOf_embeddedHubUrl : portOf embeddedHubUrl = some 8443 := rfl

/-- Under the one URL of embedded mode it comes down to the hub that listens. -/
theorem Tuned.reachable_iff (h : s.Tuned listenAddr) : s.loop.world.HubReachable ↔
    (s.loop.world.isEmbeddedHub = true → ∃ addr, listenAddr = some addr ∧
      portOf addr = some 8443) := by
  unfold World.HubReachable
  apply forall_congr'
  intro hembedded
  rw [h.url hembedded, h.listens, portOf_embeddedHubUrl]
  constructor
  · rintro ⟨addr, port, hlisten, hport, haddr⟩
    exact ⟨addr, hlisten, haddr.trans hport.symm⟩
  · rintro ⟨addr, hlisten, haddr⟩
    exact ⟨addr, 8443, hlisten, rfl, haddr⟩

/-- With a hub that listens, it is reachable throughout if its port is right. -/
theorem reachable_with_hub {addr : String} (h : s.Tuned (some addr))
    (hembedded : s.loop.world.isEmbeddedHub = true) (inputs : List HubSys.Input) :
    Runs.Always (HubSys.step T) s inputs (fun s => s.loop.world.HubReachable) ↔
      portOf addr = some 8443 := by
  constructor
  · intro halways
    obtain ⟨addr', hlisten, haddr⟩ := h.reachable_iff.mp halways.start hembedded
    obtain rfl := Option.some.inj hlisten
    exact haddr
  · intro hport seen hp t ht
    exact (tuned_always h inputs seen hp t ht).reachable_iff.mpr fun _ => ⟨addr, rfl, hport⟩

/-- Without one, embedded mode must never be entered. -/
theorem reachable_without_hub (h : s.Tuned none) (hcloud : s.loop.world.isEmbeddedHub = false)
    (inputs : List HubSys.Input) :
    Runs.Always (HubSys.step T) s inputs (fun s => s.loop.world.HubReachable) ↔
      Runs.Each (HubSys.step T) s inputs fun s i => ¬ s.ToEmbedded i := by
  have htuned := tuned_always (T := T) h inputs
  have hcloud_iff : ∀ t : HubSys, t.Tuned none →
      (t.loop.world.HubReachable ↔ t.loop.world.isEmbeddedHub = false) := by
    intro t ht
    rw [ht.reachable_iff]
    simp
  have hmodes : Runs.Always (HubSys.step T) s inputs (fun s => s.loop.world.HubReachable) ↔
      Runs.Always (HubSys.step T) s inputs fun s => s.loop.world.isEmbeddedHub = false :=
    forall₄_congr fun seen hp t ht => hcloud_iff t (htuned seen hp t ht)
  rw [hmodes]
  refine Runs.always_iff_each ?_ ?_ htuned hcloud
  · intro t i t' ht hcloud hstep
    rcases (ht.step hstep).2 with ⟨hno, hsame⟩ | ⟨hno, hmode⟩ | ⟨hto, hmode⟩
    · simp [hno, hsame, hcloud]
    · simp [hno, hmode]
    · simp [hto, hmode]
  · intro t i _ _ hstop hto
    cases i with
    | change n o =>
      obtain ⟨hm, hfree⟩ := hto
      simp [HubSys.step, hm, hfree] at hstop
    | request | wake | tick => exact hto

end HubSys

theorem Launch.hubListenAddr {a : Launch} {T : Toml} {w : World}
    (h : a.begin T = some (.waiting w)) : ∃ config file localAddr,
      BridgeConfig.load T a.overrides a.firstSave a.file = (.ok config, file) ∧
      (a.withHub = true → a.hub = .listening localAddr) ∧
      w.hubListenAddr = if a.withHub then some (localAddr.getD config.hub.bind) else none := by
  obtain ⟨config, file, localAddr, hload, hhub, rfl⟩ := a.begin_waiting h
  refine ⟨config, file, localAddr, hload, hhub, ?_⟩
  have hlaunched : ((a.entered config file localAddr).launched a.start).hubListenAddr =
      (a.entered config file localAddr).hubListenAddr := by
    cases a.start <;> rfl
  have hbind : (applyTransportOverride config a.transport).hub.bind = config.hub.bind := by
    unfold applyTransportOverride
    split
    · split <;> rfl
    · rfl
  rw [hlaunched]
  cases hw : a.withHub <;>
    simp [entered, hw, World.embedded, World.announced, World.emit, world, hbind]

/-- Embedded mode means a hub that listens on the port of its URL, throughout,
exactly if the hub of `--with-hub` listens on port 8443, or without `--with-hub`
no change to the embedded hub is carried out. -/
theorem embedded_hub_reachable_iff {a : Launch} {T : Toml} {w : World}
    (h : a.begin T = some (.waiting w)) (inputs : List HubSys.Input) :
    ∃ config file localAddr,
      BridgeConfig.load T a.overrides a.firstSave a.file = (.ok config, file) ∧
      (a.withHub = true → a.hub = .listening localAddr) ∧
      (Runs.Always (HubSys.step T) (.start w) inputs (fun s => s.loop.world.HubReachable) ↔
        if a.withHub then portOf (localAddr.getD config.hub.bind) = some 8443
        else Runs.Each (HubSys.step T) (.start w) inputs fun s i => ¬ s.ToEmbedded i) := by
  obtain ⟨config, file, localAddr, hload, hhub, hlisten⟩ := a.hubListenAddr h
  obtain ⟨config', file', hload', hvars⟩ := a.hubVars h
  refine ⟨config, file, localAddr, hload, hhub, ?_⟩
  have hurl := congrArg HubVars.hubUrl hvars
  have hembedded := congrArg HubVars.isEmbeddedHub hvars
  have hidle : (HubSys.start w).loop.Keeps World.SameHub := by simp [Loop.Keeps, HubSys.start]
  cases hw : a.withHub with
  | true =>
    rw [hw] at hlisten hurl hembedded
    exact HubSys.reachable_with_hub ⟨hidle, hlisten, fun _ => hurl⟩ hembedded inputs
  | false =>
    rw [hw] at hlisten hembedded
    have hcloud : w.isEmbeddedHub = false := hembedded
    refine HubSys.reachable_without_hub ⟨hidle, hlisten, fun h' => ?_⟩ hcloud inputs
    cases hcloud.symm.trans h'

/-- A bridge with its own hub on the default port. -/
theorem default_hub_reachable :
    ∃ w, (hubLaunch true).begin hubToml = some (.waiting w) ∧
      Runs.Always (HubSys.step hubToml) (.start w) (stopThen ["cloud", "embedded"])
        fun s => s.loop.world.HubReachable := by
  refine ⟨_, begin_hubLaunch true, ?_⟩
  obtain ⟨config, file, localAddr, hload, hhub, hiff⟩ :=
    embedded_hub_reachable_iff (begin_hubLaunch true) (stopThen ["cloud", "embedded"])
  cases load_hubLaunch.symm.trans hload
  cases hhub rfl
  exact hiff.mpr rfl

/-- A bridge without one is switched to embedded mode all the same. -/
theorem embedded_mode_without_a_hub :
    ∃ w s, (hubLaunch false).begin hubToml = some (.waiting w) ∧
      Runs.after (HubSys.step hubToml) (.start w) (stopThen ["embedded"]) = some s ∧
      s.loop.world.isEmbeddedHub = true ∧ s.loop.world.hubListenAddr = none ∧
      ¬ Runs.Always (HubSys.step hubToml) (.start w) (stopThen ["embedded"])
        fun s => s.loop.world.HubReachable := by
  refine ⟨_, _, begin_hubLaunch false, rfl, rfl, rfl, ?_⟩
  intro h
  obtain ⟨addr, port, hlisten, -⟩ := h _ List.prefix_rfl _ rfl rfl
  cases hlisten

end BacnetBridge
