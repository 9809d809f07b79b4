import BacnetBridge.Config
import BacnetBridge.Fdt

/-! The answers of `web/api.rs` that only report: each as a function of what its
handler reads. -/
namespace BacnetBridge

/-- The text of `{}`. -/
def AppState.display : AppState → String
  | .stopped => "Stopped"
  | .starting => "Starting"
  | .running => "Running"
  | .stopping => "Stopping"

structure StatusResponse where
  state : String
  transport : String
  uptimeSecs : UInt64
  connectedUrl : String
  lanIp : String
  lanPort : UInt16
  deviceId : UInt32
  hubMode : String
  deriving DecidableEq, Repr

def hubModeText (isEmbeddedHub : Bool) : String := if isEmbeddedHub then "embedded" else "cloud"

/-- `elapsed` is how long the web server has run, in seconds. -/
def statusResponse (current : AppState) (elapsed : Option UInt64) (hubMode : String)
    (cfg : BridgeConfig) : StatusResponse where
  state := current.display
  transport := cfg.router.transport
  uptimeSecs := elapsed.getD 0
  connectedUrl := cfg.router.sc.hubUrl
  lanIp := cfg.router.lan.interface
  lanPort := cfg.router.lan.port
  deviceId := cfg.router.deviceId
  hubMode := hubMode

structure RouterInfoNetwork where
  network : UInt8
  netType : String
  ip : String
  port : UInt16
  hubUrl : Option String
  adapter : Option String
  deriving DecidableEq, Repr

structure RouterInfoResponse where
  deviceId : UInt32
  vendorId : UInt16
  deviceName : String
  networks : List RouterInfoNetwork
  deriving DecidableEq, Repr

def routerInfo (cfg : BridgeConfig) : RouterInfoResponse :=
  let lan : RouterInfoNetwork :=
    { network := 1
      netType := "LAN"
      ip := cfg.router.lan.interface
      port := cfg.router.lan.port
      hubUrl := none
      adapter := if cfg.router.lan.interface.isEmpty then none else some "lan" }
  let remote : RouterInfoNetwork :=
    if cfg.router.transport == "sc" then
      { network := 2
        netType := "BACnet/SC"
        ip := cfg.router.sc.hubUrl
        port := 0
        hubUrl := some cfg.router.sc.hubUrl
        adapter := none }
    else
      { network := 2
        netType := "Tailscale"
        ip := cfg.router.tailscale.interface
        port := cfg.router.tailscale.port
        hubUrl := none
        adapter := if cfg.router.tailscale.interface.isEmpty then none else some "tailscale" }
  { deviceId := cfg.router.deviceId
    vendorId := cfg.router.vendorId
    deviceName := cfg.router.deviceName
    networks := [lan, remote] }

/-- `get_fdt`, with what the manager lists. -/
def fdtResponse (transport : String) (listed : List FdtDisplayEntry) : List FdtDisplayEntry :=
  if transport ≠ "tailscale" then [] else listed

structure HubStatusResponse where
  mode : String
  listenAddr : Option String
  spokeCount : UInt32
  deriving DecidableEq, Repr

/-- Nothing ever counts the spokes. -/
def hubStatusResponse (isEmbeddedHub : Bool) (hubListenAddr : Option String) : HubStatusResponse :=
  ⟨hubModeText isEmbeddedHub, hubListenAddr, 0⟩

/-! ## Interfaces -/

/-- An interface of the system, with the text of its address. -/
structure SystemInterface where
  name : String
  ip : String
  deriving DecidableEq, Repr

structure InterfaceEntry where
  name : String
  ip : String
  isTailscale : Bool
  deriving DecidableEq, Repr

def InterfaceEntry.of (name ip : String) : InterfaceEntry :=
  ⟨name, ip, "100.".toList.isPrefixOf ip.toList⟩

/-- The loop over the system's interfaces: the addresses seen so far, and the list. -/
def addInterface (acc : List String × List InterfaceEntry) (iface : SystemInterface) :
    List String × List InterfaceEntry :=
  if iface.ip ∈ acc.1 then acc else (iface.ip :: acc.1, acc.2 ++ [.of iface.name iface.ip])

/-- A configured address is listed unless the system's list has it. -/
def configuredInterface (seenIps : List String) (name ip : String) : List InterfaceEntry :=
  if ip.isEmpty = false ∧ ip ∉ seenIps then [.of name ip] else []

/-- `interfaces`, with what `get_if_addrs` finds, if it does not fail. -/
def interfacesResponse (cfg : BridgeConfig) (ifaces : Option (List SystemInterface)) :
    List InterfaceEntry :=
  let (seenIps, interfaces) := (ifaces.getD []).foldl addInterface ([], [])
  interfaces ++ configuredInterface seenIps "lan" cfg.router.lan.interface ++
    configuredInterface seenIps "tailscale" cfg.router.tailscale.interface

/-- The loop lists every address it has seen, once, under the name it was first seen
with. -/
theorem addInterface_foldl (ifaces : List SystemInterface) (seen : List String)
    (listed : List InterfaceEntry) (hseen : ∀ ip, ip ∈ seen ↔ ip ∈ listed.map (·.ip))
    (hnodup : (listed.map (·.ip)).Nodup) :
    (∀ ip, ip ∈ (ifaces.foldl addInterface (seen, listed)).1 ↔
      ip ∈ (ifaces.foldl addInterface (seen, listed)).2.map (·.ip)) ∧
    ((ifaces.foldl addInterface (seen, listed)).2.map (·.ip)).Nodup ∧
    ∀ ip, ip ∈ (ifaces.foldl addInterface (seen, listed)).2.map (·.ip) ↔
      ip ∈ listed.map (·.ip) ∨ ip ∈ ifaces.map (·.ip) := by
  induction ifaces generalizing seen listed with
  | nil =>
    refine ⟨hseen, hnodup, ?_⟩
    simp
  | cons iface ifaces ih =>
    rw [List.foldl_cons]
    by_cases hknown : iface.ip ∈ seen
    · have hkeep : addInterface (seen, listed) iface = (seen, listed) := if_pos hknown
      rw [hkeep]
      obtain ⟨hsame, hnodup', hmem⟩ := ih seen listed hseen hnodup
      refine ⟨hsame, hnodup', ?_⟩
      intro ip
      rw [hmem, List.map_cons, List.mem_cons]
      constructor
      · rintro (h | h)
        · exact .inl h
        · exact .inr (.inr h)
      · rintro (h | rfl | h)
        · exact .inl h
        · exact .inl ((hseen _).mp hknown)
        · exact .inr h
    · have hadd : addInterface (seen, listed) iface =
          (iface.ip :: seen, listed ++ [.of iface.name iface.ip]) := if_neg hknown
      rw [hadd]
      have hseen' : ∀ ip, ip ∈ iface.ip :: seen ↔
          ip ∈ (listed ++ [InterfaceEntry.of iface.name iface.ip]).map (·.ip) := by
        intro ip
        simp [hseen, InterfaceEntry.of, or_comm]
      have hnodup' : ((listed ++ [InterfaceEntry.of iface.name iface.ip]).map (·.ip)).Nodup := by
        rw [List.map_append, List.nodup_append]
        refine ⟨hnodup, by simp, ?_⟩
        rintro ip hip other hother rfl
        obtain rfl : ip = iface.ip := by simpa [InterfaceEntry.of] using hother
        exact hknown ((hseen _).mpr hip)
      obtain ⟨hsame, hnodup'', hmem⟩ := ih _ _ hseen' hnodup'
      refine ⟨hsame, hnodup'', ?_⟩
      intro ip
      rw [hmem]
      simp [InterfaceEntry.of, or_assoc]

/-- The address that a configured interface adds to those seen. -/
def unseen (seenIps : List String) (ip : String) : List String :=
  if ip ≠ "" ∧ ip ∉ seenIps then [ip] else []

theorem mem_unseen {seenIps : List String} {ip ip' : String} :
    ip' ∈ unseen seenIps ip ↔ ip' = ip ∧ ip ≠ "" ∧ ip ∉ seenIps := by
  unfold unseen
  split
  · rename_i h
    simp [h]
  · rename_i h
    simp [h]

theorem nodup_unseen (seenIps : List String) (ip : String) : (unseen seenIps ip).Nodup := by
  unfold unseen
  split <;> simp

theorem configuredInterface_ips (seenIps : List String) (name ip : String) :
    (configuredInterface seenIps name ip).map (·.ip) = unseen seenIps ip := by
  have hempty : ip.isEmpty = false ↔ ip ≠ "" := by simp
  simp only [configuredInterface, unseen, hempty]
  split <;> rfl

/-- The addresses of the list: those of the system, each once, and behind them what
the configuration adds. -/
theorem interfacesResponse_ips (cfg : BridgeConfig) (ifaces : Option (List SystemInterface)) :
    ∃ system, system.Nodup ∧ (∀ ip, ip ∈ system ↔ ip ∈ (ifaces.getD []).map (·.ip)) ∧
      (interfacesResponse cfg ifaces).map (·.ip) = system ++
        (unseen system cfg.router.lan.interface ++
          unseen system cfg.router.tailscale.interface) := by
  obtain ⟨hseen, hnodup, hmem⟩ := addInterface_foldl (ifaces.getD []) [] [] (by simp) (by simp)
  refine ⟨_, hnodup, fun ip => by rw [hmem]; simp, ?_⟩
  simp only [interfacesResponse, List.map_append, configuredInterface_ips, List.append_assoc]
  simp only [unseen, hseen]

/-- Every address of the system and both configured ones are listed, and nothing else;
none is listed twice exactly if the two configured ones are not the same address,
unknown to the system. -/
theorem interfaces_listed_once_iff (cfg : BridgeConfig) (ifaces : Option (List SystemInterface)) :
    (∀ ip, ip ∈ (interfacesResponse cfg ifaces).map (·.ip) ↔
      ip ∈ (ifaces.getD []).map (·.ip) ∨
        ip ≠ "" ∧ (ip = cfg.router.lan.interface ∨ ip = cfg.router.tailscale.interface)) ∧
    (((interfacesResponse cfg ifaces).map (·.ip)).Nodup ↔
      ¬ (cfg.router.lan.interface = cfg.router.tailscale.interface ∧
        cfg.router.lan.interface ≠ "" ∧
        cfg.router.lan.interface ∉ (ifaces.getD []).map (·.ip))) := by
  obtain ⟨system, hnodup, hsystem, hips⟩ := interfacesResponse_ips cfg ifaces
  rw [hips]
  constructor
  · intro ip
    simp only [List.mem_append, mem_unseen, ← hsystem]
    constructor
    · rintro (h | ⟨rfl, hne, -⟩ | ⟨rfl, hne, -⟩)
      · exact .inl h
      · exact .inr ⟨hne, .inl rfl⟩
      · exact .inr ⟨hne, .inr rfl⟩
    · rintro (h | ⟨hne, rfl | rfl⟩)
      · exact .inl h
      all_goals
        rw [or_iff_not_imp_left]
        intro hnew
      · exact .inl ⟨rfl, hne, hnew⟩
      · exact .inr ⟨rfl, hne, hnew⟩
  · rw [← hsystem]
    constructor
    · rintro hlist ⟨hsame, hne, hnew⟩
      rw [← hsame] at hlist
      have htwice := (List.nodup_append.mp hlist).2.1
      have hmem : cfg.router.lan.interface ∈ unseen system cfg.router.lan.interface :=
        mem_unseen.mpr ⟨rfl, hne, hnew⟩
      exact (List.nodup_append.mp htwice).2.2 _ hmem _ hmem rfl
    · intro hdistinct
      refine List.nodup_append.mpr ⟨hnodup, List.nodup_append.mpr ⟨nodup_unseen .., nodup_unseen ..,
        ?_⟩, ?_⟩
      · rintro ip hip other hother rfl
        obtain ⟨hlan, hne, hnew⟩ := mem_unseen.mp hip
        obtain ⟨hts, -⟩ := mem_unseen.mp hother
        exact hdistinct ⟨hlan.symm.trans hts, hne, hnew⟩
      · rintro ip hip other hother rfl
        rcases List.mem_append.mp hother with hother | hother
        · obtain ⟨rfl, -, hnew⟩ := mem_unseen.mp hother
          exact hnew hip
        · obtain ⟨rfl, -, hnew⟩ := mem_unseen.mp hother
          exact hnew hip

end BacnetBridge
