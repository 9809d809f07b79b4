import BacnetBridge.IAm
import BacnetBridge.ReadTarget
import BacnetBridge.Requests

/-! The programs of `examples/` with which a bridge is tested, on one network with it:
`icomm_sim.rs` asks who is there, `lan_device_sim.rs` and the bridge's device answer. -/
namespace BacnetBridge

/-! ## `icomm_sim.rs` -/

/-- `u32::from_be_bytes`. -/
def u32FromBeBytes (b₀ b₁ b₂ b₃ : UInt8) : UInt32 :=
  UInt32.ofNat (((b₀.toNat * 256 + b₁.toNat) * 256 + b₂.toNat) * 256 + b₃.toNat)

def isIamApdu : Octets → Bool
  | first :: service :: _ =>
    let pduType := first >>> 4
    (pduType == 0x00 || pduType == 0x01) && service == 0x00
  | _ => false

/-- The tag is that of an object identifier, or context 0 with four octets. -/
def extractDeviceId : Octets → Option UInt32
  | _ :: _ :: tag :: b₀ :: b₁ :: b₂ :: b₃ :: _ =>
    if tag = 0x0C ∨ tag = 0xC4 then some (u32FromBeBytes b₀ b₁ b₂ b₃ &&& 0x3FFFFF) else none
  | _ => none

structure IcommSim where
  foundDevices : List UInt32
  ended : Bool

namespace IcommSim

/-- What `recv` within the time left gives: the payload of a frame, or `none` for one that
`decode_npdu` rejects. -/
inductive Input
  | received (payload : Option Octets)
  | closed
  | elapsed

def start : IcommSim := ⟨[], false⟩

def hear (foundDevices : List UInt32) (apdu : Octets) : List UInt32 :=
  if isIamApdu apdu then
    match extractDeviceId apdu with
    | some id => if foundDevices.contains id then foundDevices else foundDevices ++ [id]
    | none => foundDevices
  else foundDevices

def step (s : IcommSim) (i : Input) : Option IcommSim :=
  if s.ended then none
  else
    match i with
    | .received (some apdu) => some { s with foundDevices := hear s.foundDevices apdu }
    | .received none => some s
    | .closed | .elapsed => some { s with ended := true }

def exitCode (s : IcommSim) : Option Nat :=
  if s.ended then some (if s.foundDevices.isEmpty then 1 else 0) else none

end IcommSim

/-! ## `lan_device_sim.rs` -/

structure LanDevice where
  deviceId : UInt32
  vendorId : UInt16
  deviceName : String

def isWhoIs : Octets → Bool
  | first :: service :: _ => first >>> 4 == 0x01 && service == 0x08
  | _ => false

/-- The second octet of a confirmed request is not its service. -/
def isReadPropertyApdu : Octets → Bool
  | first :: service :: _ => first >>> 4 == 0x00 && service == 0x0C
  | _ => false

namespace LanDevice

variable (C : Codec) (d : LanDevice)

/-- The NPDU of both answers, to every network. -/
def npdu (macAddress payload : Octets) : Npdu where
  isNetworkMessage := false
  expectingReply := false
  priority := .normal
  source := none
  destination := some ⟨0xFFFF, macAddress⟩
  hopCount := 255
  payload := payload

def sendIam : List Sent :=
  let npdu := npdu [] (buildIamApdu d.deviceId d.vendorId)
  match C.encodeNpdu npdu with
  | none => []
  | some buf => [.broadcast npdu buf]

/-- The property by its identifier, with its value. -/
def rpValue (propId : UInt16) : Octets :=
  match propId with
  | 75 =>
    let name := d.deviceName.toUTF8.toList
    [0x19, 0x4B, 0x75, UInt8.ofNat name.length] ++ name
  | 76 => [0x19, 0x4C, 0x22, (d.vendorId >>> 8).toUInt8, d.vendorId.toUInt8]
  | 85 => [0x19, 0x55, 0x75, 5, 0x30, 0x2E, 0x31, 0x2E, 0x30]
  | 12 => [0x19, 0x0C, 0x91, 0x00]
  | 13 => [0x19, 0x0D, 0x91, 0x18]
  | _ => [0x19, 0x00, 0x5F]

def rpApdu (invokeId : UInt8) (propId : UInt16) : Octets :=
  [0x30, invokeId, 0x0C, (d.deviceId >>> 24).toUInt8, (d.deviceId >>> 16).toUInt8,
    (d.deviceId >>> 8).toUInt8, d.deviceId.toUInt8] ++ d.rpValue propId ++ [0x0F]

/-- `start_bytes` is 0, so that the property identifier is looked for at offset 6. -/
def sendRpResponse (apdu sourceMac : Octets) : List Sent :=
  match apdu with
  | _ :: _ :: invokeId :: _ :: _ :: _ :: high :: low :: _ =>
    sendUnicast C (npdu sourceMac (d.rpApdu invokeId (u16FromBeBytes high low)))
  | _ => []

/-- `payload` is `none` for a frame that `decode_npdu` rejects. -/
def handleMessage (payload : Option Octets) (sourceMac : Octets) : List Sent :=
  match payload with
  | none => []
  | some apdu =>
    if isWhoIs apdu then d.sendIam C
    else if isReadPropertyApdu apdu then d.sendRpResponse C apdu sourceMac
    else []

end LanDevice

/-! ## The network -/

/-- `device` is the state of the device's task, while it lives. -/
inductive Party
  | simulated (d : LanDevice)
  | bridge (config : LocalDeviceConfig) (transportMac : Octets) (device : Option Device)

/-- The payload that a frame carries. One from the cache was sent before. -/
def Sent.payload? : Sent → Option Octets
  | .reply npdu _ | .broadcast npdu _ => some npdu.payload
  | .cached _ => none

namespace Party

def deviceId : Party → UInt32
  | simulated d => d.deviceId
  | bridge config _ _ => config.deviceId

def hear (C : Codec) (p : Party) (msg : ReceivedApdu) : Party × List Sent :=
  match p with
  | simulated d => (p, d.handleMessage C (some msg.apdu) msg.sourceMac)
  | bridge config transportMac device =>
    match device with
    | none => (p, [])
    | some device =>
      match device.handle C config msg transportMac with
      | .error _ => (bridge config transportMac none, [])
      | .ok (device, sent) => (bridge config transportMac (some device), sent)

/-- The APDU is the I-Am of the party. -/
def Announces (C : Codec) : Party → Octets → Prop
  | simulated d, apdu => apdu = buildIamApdu d.deviceId d.vendorId
  | bridge config _ _, apdu => ∃ oid, C.oidNew .device config.deviceId = some oid ∧
      C.encodeApdu (.unconfirmedRequest .iAm (iamRequest C oid config.vendorId)) = some apdu

/-- Nothing that a party hears makes it another one. -/
def Same : Party → Party → Prop
  | simulated d, simulated d' => d = d'
  | bridge config mac _, bridge config' mac' _ => config = config' ∧ mac = mac'
  | _, _ => False

end Party

/-- `apdus` are all that have been sent. None is ever taken out: it can be delivered to
anybody at any time, any number of times or never. NPDU headers, which the routers on the
way rewrite, are left out. -/
structure Lan where
  parties : List Party
  apdus : List Octets
  client : IcommSim

namespace Lan

inductive Input
  | party (n : Nat) (msg : ReceivedApdu)
  | client (i : IcommSim.Input)

def whoIs : Octets := [0x10, 0x08]

def start (parties : List Party) : Lan := ⟨parties, [whoIs], .start⟩

/-- A frame that does not decode can arrive at any time. -/
def step (C : Codec) (s : Lan) : Input → Option Lan
  | .party n msg =>
    match s.parties[n]? with
    | none => none
    | some p =>
      if msg.apdu ∈ s.apdus then
        some { s with
          parties := s.parties.set n (p.hear C msg).1
          apdus := s.apdus ++ (p.hear C msg).2.filterMap Sent.payload? }
      else none
  | .client (.received (some apdu)) =>
    if apdu ∈ s.apdus then
      (s.client.step (.received (some apdu))).map fun client => { s with client }
    else none
  | .client i => (s.client.step i).map fun client => { s with client }

/-- The APDUs that the client has been given. -/
def Input.heard : Input → Option Octets
  | .client (.received payload) => payload
  | _ => none

end Lan

/-! ## What is announced -/

/-- The device that the client takes an APDU to announce. -/
def announcedDevice (apdu : Octets) : Option UInt32 :=
  if isIamApdu apdu then extractDeviceId apdu else none

/-- An I-Am is an Unconfirmed-Request of service 0. -/
def Codec.MarksIAm (C : Codec) : Prop :=
  ∀ request octets, C.encodeApdu (.unconfirmedRequest .iAm request) = some octets →
    octets = [0x10, 0x00] ++ request

theorem Codec.standard_marksIAm : Codec.standard.MarksIAm := by
  intro request octets h
  exact (Option.some.inj h).symm

theorem toNat_masked (n : UInt32) : (n &&& 0x3FFFFF).toNat = n.toNat % 2 ^ 22 := by
  rw [UInt32.toNat_and]
  exact Nat.and_two_pow_sub_one_eq_mod n.toNat 22

theorem u32FromBeBytes_octets (n : Nat) :
    ∃ o₁ o₂ o₃ o₄, Standard.octets n 4 = [o₁, o₂, o₃, o₄] ∧
      u32FromBeBytes o₁ o₂ o₃ o₄ = UInt32.ofNat n := by
  refine ⟨_, _, _, _, rfl, ?_⟩
  rw [← UInt32.toNat_inj]
  simp only [u32FromBeBytes, UInt32.toNat_ofNat', UInt8.toNat_ofNat']
  omega

theorem extractDeviceId_iamRequest {C : Codec} (hC : C.EncodesParameters)
    {oid : ObjectIdentifier} (hoid : oid.Valid) (vendorId : UInt16) :
    announcedDevice ([0x10, 0x00] ++ iamRequest C oid vendorId) = some (oid.inst &&& 0x3FFFFF) := by
  have hfirst : C.encodeCtxObjectId 0 oid = Standard.tagged 0 8 (Standard.oidOctets oid) :=
    hC.encodeCtxObjectId 0 oid (by decide) hoid
  obtain ⟨o₁, o₂, o₃, o₄, hoctets, hvalue⟩ :=
    u32FromBeBytes_octets (oid.objectType.raw.toNat * 2 ^ 22 + oid.inst.toNat)
  have htagged : Standard.tagged 0 8 (Standard.oidOctets oid) = [0x0C, o₁, o₂, o₃, o₄] := by
    unfold Standard.oidOctets
    rw [hoctets]
    rfl
  unfold iamRequest
  rw [hfirst, htagged]
  have hmask : UInt32.ofNat (oid.objectType.raw.toNat * 2 ^ 22 + oid.inst.toNat) &&& 0x3FFFFF =
      oid.inst &&& 0x3FFFFF := by
    rw [← UInt32.toNat_inj, toNat_masked, toNat_masked, UInt32.toNat_ofNat']
    omega
  change some (u32FromBeBytes o₁ o₂ o₃ o₄ &&& 0x3FFFFF) = _
  rw [hvalue, hmask]

theorem extractDeviceId_buildIamApdu (deviceId : UInt32) (vendorId : UInt16) :
    announcedDevice (buildIamApdu deviceId vendorId) = some (deviceId &&& 0x3FFFFF) := by
  have hle : deviceId &&& 0x3FFFFF ≤ 4194303 := by
    rw [UInt32.le_iff_toNat_le, toNat_masked]
    have := Nat.mod_lt deviceId.toNat (show 0 < 2 ^ 22 by decide)
    simp only [UInt32.reduceToNat]
    omega
  have hsame : objectIdBytes (deviceId &&& 0x3FFFFF) = objectIdBytes deviceId := by
    unfold objectIdBytes
    rw [UInt32.and_assoc, UInt32.and_self]
  obtain ⟨o₁, o₂, o₃, o₄, hoctets, hvalue⟩ := u32FromBeBytes_octets
    (ObjectType.device.raw.toNat * 2 ^ 22 + (deviceId &&& 0x3FFFFF).toNat)
  have hbytes : objectIdBytes deviceId = [o₁, o₂, o₃, o₄] := by
    rw [← hsame, objectIdBytes_eq hle]
    exact hoctets
  have hmask : UInt32.ofNat (ObjectType.device.raw.toNat * 2 ^ 22 +
      (deviceId &&& 0x3FFFFF).toNat) &&& 0x3FFFFF = deviceId &&& 0x3FFFFF := by
    rw [← UInt32.toNat_inj, toNat_masked, UInt32.toNat_ofNat', toNat_masked]
    omega
  unfold buildIamApdu
  rw [hbytes]
  change some (u32FromBeBytes o₁ o₂ o₃ o₄ &&& 0x3FFFFF) = _
  rw [hvalue, hmask]

theorem Party.Announces.found {C : Codec} (hC : C.EncodesParameters) (hI : C.MarksIAm) {p : Party}
    {apdu : Octets} (h : p.Announces C apdu) :
    announcedDevice apdu = some (p.deviceId &&& 0x3FFFFF) := by
  cases p with
  | simulated d =>
    obtain rfl : apdu = buildIamApdu d.deviceId d.vendorId := h
    exact extractDeviceId_buildIamApdu ..
  | bridge config =>
    obtain ⟨oid, hoid, hpayload⟩ := h
    obtain ⟨rfl, hvalid⟩ := hC.oidNew_eq_some (by decide) hoid
    rw [hI _ _ hpayload]
    exact extractDeviceId_iamRequest hC hvalid _

theorem Party.Announces.head {C : Codec} (hI : C.MarksIAm) {p : Party} {apdu : Octets}
    (h : p.Announces C apdu) : ∃ rest, apdu = [0x10, 0x00] ++ rest := by
  cases p with
  | simulated d => exact ⟨_, h⟩
  | bridge config =>
    obtain ⟨oid, -, hpayload⟩ := h
    exact ⟨_, hI _ _ hpayload⟩

theorem pduTypeAndService_unconfirmed (service : UInt8) (rest : Octets) :
    pduTypeAndService ([0x10, service] ++ rest) = .ok (0x01, service) := by
  have hfirst : index ([0x10, service] ++ rest) 0 = .ok 0x10 := rfl
  have hsecond : index ([0x10, service] ++ rest) 1 = .ok service := rfl
  have htype : (0x10 : UInt8) >>> 4 = 0x01 := rfl
  simp only [pduTypeAndService, hfirst, hsecond, bind, Except.bind, htype]
  rfl

namespace Party

variable {C : Codec} {p q : Party} {msg : ReceivedApdu} {apdu : Octets}

theorem Same.refl (p : Party) : p.Same p := by
  cases p with
  | simulated d => exact rfl
  | bridge config mac device => exact ⟨rfl, rfl⟩

theorem Same.trans {r : Party} (h : p.Same q) (h' : q.Same r) : p.Same r := by
  cases p <;> cases q <;> cases r <;> simp_all [Same]

theorem Same.announces (h : p.Same q) : q.Announces C apdu ↔ p.Announces C apdu := by
  cases p <;> cases q <;> simp_all [Same, Announces]

theorem hear_same (C : Codec) (p : Party) (msg : ReceivedApdu) : p.Same (p.hear C msg).1 := by
  cases p with
  | simulated d => exact rfl
  | bridge config mac device =>
    unfold hear
    cases device with
    | none => exact ⟨rfl, rfl⟩
    | some device =>
      dsimp only
      split <;> exact ⟨rfl, rfl⟩

/-- A Who-Is is answered with an I-Am at most, and an I-Am with nothing. -/
theorem hear_sends (hI : C.MarksIAm)
    (hmsg : msg.apdu = Lan.whoIs ∨ ∃ q : Party, q.Announces C msg.apdu)
    (hsent : apdu ∈ (p.hear C msg).2.filterMap Sent.payload?) : p.Announces C apdu := by
  obtain ⟨service, rest, hfirst⟩ : ∃ service rest, msg.apdu = [0x10, service] ++ rest := by
    rcases hmsg with hwho | ⟨q, hiam⟩
    · exact ⟨0x08, [], hwho⟩
    · exact ⟨0x00, hiam.head hI⟩
  obtain ⟨frame, hframe, hpayload⟩ := List.mem_filterMap.mp hsent
  cases p with
  | simulated d =>
    have hread : isReadPropertyApdu msg.apdu = false := by
      rw [hfirst]
      rfl
    simp only [hear, LanDevice.handleMessage, hread, Bool.false_eq_true, if_false] at hframe
    split at hframe
    · unfold LanDevice.sendIam at hframe
      dsimp only at hframe
      split at hframe
      · cases hframe
      · obtain rfl := List.mem_singleton.mp hframe
        exact (Option.some.inj hpayload).symm
    · cases hframe
  | bridge config mac device =>
    unfold hear at hframe
    cases device with
    | none => cases hframe
    | some device =>
      dsimp only at hframe
      split at hframe
      · cases hframe
      · rename_i device' sent hhandle
        have hservice := pduTypeAndService_unconfirmed service rest
        rw [← hfirst] at hservice
        cases Device.handle_cases hhandle with
        | short | unhandled => cases hframe
        | readProperty _ hother | subscribeCov _ hother | writeProperty _ hother =>
          cases hservice.symm.trans hother
        | whoIs =>
          cases hoid : C.oidNew .device config.deviceId with
          | none =>
            simp only [sendIam, hoid] at hframe
            cases hframe
          | some oid =>
            rcases sendIam_cases hoid with ⟨hnone, -⟩ | ⟨payload, npdu, buf, hsends, rfl, -, hiam⟩
            · rw [hnone] at hframe
              cases hframe
            · rw [hsends] at hframe
              obtain rfl := List.mem_singleton.mp hframe
              obtain rfl := Option.some.inj hpayload
              exact ⟨oid, hoid, hiam⟩

end Party

/-! ## Runs -/

theorem hear_eraseDups (ids : List UInt32) (apdu : Octets) :
    IcommSim.hear ids.eraseDups apdu = (ids ++ (announcedDevice apdu).toList).eraseDups := by
  unfold IcommSim.hear announcedDevice
  cases isIamApdu apdu with
  | false => simp
  | true =>
    cases extractDeviceId apdu with
    | none => simp
    | some id =>
      by_cases h : id ∈ ids <;>
        simp [List.eraseDups_append, List.eraseDups_cons, List.removeAll, List.mem_eraseDups, h]

namespace Lan

variable {C : Codec} {parties : List Party} {s t : Lan}

/-- Everybody is who he was, and nothing but the question and the I-Ams of those who are
there has been sent. -/
structure Sound (C : Codec) (parties : List Party) (s : Lan) : Prop where
  same : ∀ q ∈ s.parties, ∃ p ∈ parties, p.Same q
  sent : ∀ apdu ∈ s.apdus, apdu = whoIs ∨ ∃ p ∈ parties, p.Announces C apdu

theorem Sound.step (hI : C.MarksIAm) (hs : s.Sound C parties) {i : Input}
    (h : s.step C i = some t) : t.Sound C parties := by
  obtain ⟨hsame, hsent⟩ := hs
  unfold Lan.step at h
  split at h
  · rename_i n msg
    split at h
    · cases h
    · rename_i p hp
      have hmem := List.mem_of_getElem? hp
      split at h
      · rename_i hthere
        cases h
        constructor
        · intro q hq
          rcases List.mem_or_eq_of_mem_set hq with hq | rfl
          · exact hsame q hq
          · obtain ⟨first, hfirst, hwas⟩ := hsame p hmem
            exact ⟨first, hfirst, hwas.trans (p.hear_same C msg)⟩
        · intro apdu hapdu
          rcases List.mem_append.mp hapdu with hold | hnew
          · exact hsent apdu hold
          · obtain ⟨first, hfirst, hwas⟩ := hsame p hmem
            have hasked : msg.apdu = whoIs ∨ ∃ q : Party, q.Announces C msg.apdu :=
              (hsent msg.apdu hthere).imp_right fun ⟨q, _, hq⟩ => ⟨q, hq⟩
            exact .inr ⟨first, hfirst, hwas.announces.mp (Party.hear_sends hI hasked hnew)⟩
      · cases h
  · split at h
    · obtain ⟨client, -, rfl⟩ := Option.map_eq_some_iff.mp h
      exact ⟨hsame, hsent⟩
    · cases h
  · obtain ⟨client, -, rfl⟩ := Option.map_eq_some_iff.mp h
    exact ⟨hsame, hsent⟩

/-- A step of the client is a step of the network. -/
theorem client_step {i : IcommSim.Input} (h : s.step C (.client i) = some t) :
    ∃ client, s.client.step i = some client ∧ t = { s with client } ∧
      ∀ apdu, i = .received (some apdu) → apdu ∈ s.apdus := by
  unfold Lan.step at h
  split at h
  · rename_i hi
    cases hi
  · rename_i apdu hi
    obtain rfl := Input.client.inj hi
    split at h
    · rename_i hthere
      obtain ⟨client, hclient, rfl⟩ := Option.map_eq_some_iff.mp h
      refine ⟨client, hclient, rfl, ?_⟩
      rintro _ ⟨⟩
      exact hthere
    · cases h
  · rename_i j hno hj
    obtain rfl := Input.client.inj hj
    obtain ⟨client, hclient, rfl⟩ := Option.map_eq_some_iff.mp h
    refine ⟨client, hclient, rfl, ?_⟩
    rintro apdu rfl
    exact absurd rfl (hno apdu)

theorem heard_of_step {i : Input} (h : s.step C i = some t) :
    s.apdus ⊆ t.apdus ∧ (∀ apdu, i.heard = some apdu → apdu ∈ t.apdus) ∧
    ∀ ids : List UInt32, s.client.foundDevices = ids.eraseDups →
      t.client.foundDevices = (ids ++ (i.heard.bind announcedDevice).toList).eraseDups := by
  cases i with
  | party n msg =>
    simp only [Lan.step] at h
    split at h
    · cases h
    · split at h
      · cases h
        exact ⟨fun _ => List.mem_append_left _, nofun, fun ids hids => by simpa [Input.heard]⟩
      · cases h
  | client i =>
    obtain ⟨client, hclient, rfl, hthere⟩ := client_step h
    refine ⟨fun _ hmem => hmem, ?_, ?_⟩
    · rintro apdu hheard
      cases i with
      | received payload => exact hthere apdu (congrArg _ hheard)
      | closed | elapsed => cases hheard
    · intro ids hids
      unfold IcommSim.step at hclient
      split at hclient
      · cases hclient
      · cases i with
        | closed | elapsed =>
          cases hclient
          simpa [Input.heard] using hids
        | received payload =>
          cases payload with
          | none =>
            cases hclient
            simpa [Input.heard] using hids
          | some apdu =>
            cases hclient
            change IcommSim.hear s.client.foundDevices apdu = _
            rw [hids]
            exact hear_eraseDups ids apdu

/-- The client has found the devices that it has heard of, each once and in the order in
which it first heard of them. -/
theorem found_of_run {inputs : List Input} {ids : List UInt32}
    (hids : s.client.foundDevices = ids.eraseDups)
    (h : Runs.after (step C) s inputs = some t) :
    s.apdus ⊆ t.apdus ∧ (∀ apdu ∈ inputs.filterMap Input.heard, apdu ∈ t.apdus) ∧
    t.client.foundDevices =
      (ids ++ (inputs.filterMap Input.heard).filterMap announcedDevice).eraseDups := by
  induction inputs generalizing s ids with
  | nil =>
    obtain rfl := Option.some.inj h
    exact ⟨fun _ hmem => hmem, by simp, by simpa using hids⟩
  | cons i inputs ih =>
    obtain ⟨u, hstep, hrest⟩ := Option.bind_eq_some_iff.mp h
    obtain ⟨hkept, hheard, hfound⟩ := heard_of_step hstep
    obtain ⟨hkept', hheard', hfound'⟩ := ih (hfound ids hids) hrest
    refine ⟨fun _ hmem => hkept' (hkept hmem), ?_, ?_⟩
    · intro apdu hmem
      cases hi : i.heard with
      | none =>
        rw [List.filterMap_cons_none hi] at hmem
        exact hheard' apdu hmem
      | some first =>
        rw [List.filterMap_cons_some hi] at hmem
        rcases List.mem_cons.mp hmem with rfl | hmem
        · exact hkept' (hheard apdu hi)
        · exact hheard' apdu hmem
    · rw [hfound', List.append_assoc]
      cases hi : i.heard with
      | none => simp [hi]
      | some first =>
        rw [List.filterMap_cons_some hi]
        cases hdevice : announcedDevice first <;> simp [hdevice]

end Lan

/-- On every network of simulated devices and bridges, whatever is lost, doubled or late:
the client finds the devices whose I-Am has reached it, each once, as it first heard of
them, and none that is not there. It passes exactly if it has heard of one. It does not
matter of which, so that a bridge next to it is enough. -/
theorem discovery_finds_who_was_heard {C : Codec} (hC : C.EncodesParameters) (hI : C.MarksIAm)
    {parties : List Party} {inputs : List Lan.Input} {t : Lan}
    (ht : Runs.after (Lan.step C) (.start parties) inputs = some t) :
    t.client.foundDevices =
      ((inputs.filterMap Lan.Input.heard).filterMap announcedDevice).eraseDups ∧
    (∀ id, id ∈ t.client.foundDevices ↔ ∃ p ∈ parties, id = p.deviceId &&& 0x3FFFFF ∧
      ∃ apdu ∈ inputs.filterMap Lan.Input.heard, p.Announces C apdu) ∧
    (t.client.exitCode = some 0 ↔ t.client.ended ∧ ∃ p ∈ parties,
      ∃ apdu ∈ inputs.filterMap Lan.Input.heard, p.Announces C apdu) := by
  have hnothing : (Lan.start parties).client.foundDevices = ([] : List UInt32).eraseDups := rfl
  obtain ⟨-, hheard, hfound⟩ := Lan.found_of_run hnothing ht
  have hsound : t.Sound C parties := Runs.always_of_step
    (fun _ _ _ hs hstep => Lan.Sound.step hI hs hstep)
    ⟨fun p hp => ⟨p, hp, .refl p⟩, fun apdu hmem => .inl (List.mem_singleton.mp hmem)⟩
    inputs inputs List.prefix_rfl t ht
  have hmem : ∀ id, id ∈ t.client.foundDevices ↔ ∃ p ∈ parties, id = p.deviceId &&& 0x3FFFFF ∧
      ∃ apdu ∈ inputs.filterMap Lan.Input.heard, p.Announces C apdu := by
    intro id
    rw [hfound, List.nil_append, List.mem_eraseDups, List.mem_filterMap]
    constructor
    · rintro ⟨apdu, hapdu, hid⟩
      rcases hsound.sent apdu (hheard apdu hapdu) with rfl | ⟨p, hp, hiam⟩
      · cases hid
      · exact ⟨p, hp, Option.some.inj (hid.symm.trans (hiam.found hC hI)), apdu, hapdu, hiam⟩
    · rintro ⟨p, -, rfl, apdu, hapdu, hiam⟩
      exact ⟨apdu, hapdu, hiam.found hC hI⟩
  refine ⟨hfound, hmem, ?_⟩
  have hsome : t.client.foundDevices ≠ [] ↔ ∃ p ∈ parties,
      ∃ apdu ∈ inputs.filterMap Lan.Input.heard, p.Announces C apdu := by
    constructor
    · intro hne
      obtain ⟨id, hid⟩ := List.exists_mem_of_ne_nil _ hne
      obtain ⟨p, hp, -, hiam⟩ := (hmem id).mp hid
      exact ⟨p, hp, hiam⟩
    · rintro ⟨p, hp, hiam⟩
      exact List.ne_nil_of_mem ((hmem _).mpr ⟨p, hp, rfl, hiam⟩)
  rw [← hsome]
  unfold IcommSim.exitCode
  cases t.client.ended <;> cases t.client.foundDevices <;> simp

/-- The I-Am of the default device. -/
def defaultIam : Octets := [0x10, 0x00] ++ iamRequest .standard ⟨.device, 4194303⟩ 15

/-- Only the bridge next to the client has announced itself, with an I-Am that does not
decode: the test passes. -/
theorem undecodable_iam_passes_the_test : ∃ d t, Device.start .standard = .ok d ∧
    Runs.after (Lan.step .standard)
      (.start [.bridge defaultDevice [0x01, 0x02] (some d)])
      [.party 0 ⟨Lan.whoIs, [0x0A], none⟩, .client (.received (some defaultIam)),
        .client .elapsed] = some t ∧
    t.client.exitCode = some 0 ∧ IAm.parse .standard (defaultIam.drop 2) = none := by
  obtain ⟨d, t, hstart, hrun, hended⟩ : ∃ d t, Device.start .standard = .ok d ∧
      Runs.after (Lan.step .standard)
        (.start [.bridge defaultDevice [0x01, 0x02] (some d)])
        [.party 0 ⟨Lan.whoIs, [0x0A], none⟩, .client (.received (some defaultIam)),
          .client .elapsed] = some t ∧ t.client.ended = true := ⟨_, _, rfl, rfl, rfl⟩
  obtain ⟨-, -, hpasses⟩ := discovery_finds_who_was_heard Codec.standard_encodesParameters
    Codec.standard_marksIAm hrun
  have hiam : (Party.bridge defaultDevice [0x01, 0x02] (some d)).Announces .standard defaultIam :=
    ⟨⟨.device, 4194303⟩, rfl, rfl⟩
  have hpass := hpasses.mpr
    ⟨hended, _, List.mem_singleton.mpr rfl, defaultIam, by simp [Lan.Input.heard], hiam⟩
  exact ⟨d, t, hstart, hrun, hpass, rfl⟩

/-! ## Requests to the simulated device -/

/-- The simulated device looks for the service where a request says how long an answer may
be, and for the property within the object identifier. It answers a well-formed request, to
read or to write, exactly if its sender takes 12 for that length, and with a value that
depends on the object only. -/
theorem simulated_device_misreads_requests (C : Codec) (d : LanDevice) (r : PropertyRequest)
    (sourceMac : Octets) :
    d.handleMessage C (some r.apdu) sourceMac =
      if r.maxResponse = 0x0C then
        sendUnicast C (LanDevice.npdu sourceMac (d.rpApdu r.invokeId (UInt16.ofNat
          ((r.object.objectType.raw.toNat * 2 ^ 22 + r.object.inst.toNat) / 256))))
      else [] := by
  obtain ⟨first, o₁, o₂, o₃, o₄, htype, -, hoid, happ⟩ := r.apdu_layout
  have hwho : isWhoIs r.apdu = false := by
    rw [happ]
    simp [isWhoIs, htype]
  have hread : isReadPropertyApdu r.apdu = decide (r.maxResponse = 0x0C) := by
    rw [happ]
    simp [isReadPropertyApdu, htype, beq_eq_decide]
  have hmiddle : u16FromBeBytes o₂ o₃ = UInt16.ofNat
      ((r.object.objectType.raw.toNat * 2 ^ 22 + r.object.inst.toNat) / 256) := by
    unfold Standard.oidOctets at hoid
    generalize r.object.objectType.raw.toNat * 2 ^ 22 + r.object.inst.toNat = n at hoid ⊢
    simp only [Standard.octets, List.nil_append, List.cons_append, List.cons.injEq] at hoid
    obtain ⟨-, rfl, rfl, -⟩ := hoid
    rw [← UInt16.toNat_inj, u16FromBeBytes_toNat]
    simp only [UInt8.toNat_ofNat', UInt16.toNat_ofNat']
    omega
  unfold LanDevice.handleMessage
  simp only [hwho, hread, Bool.false_eq_true, if_false, decide_eq_true_eq]
  split
  · rw [← hmiddle, happ]
    rfl
  · rfl

end BacnetBridge
