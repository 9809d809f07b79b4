import BacnetBridge.Dispatch
import BacnetBridge.ReadProperty

/-! Where the device's replies come from and go to: a client matches them by
these addresses, and every handler builds its envelope anew. -/
namespace BacnetBridge

/-- A reply built for the message names the device of the configuration as its
source, and goes back the way the message came. -/
def Sent.Uniform (config : LocalDeviceConfig) (msg : ReceivedApdu) : Sent → Prop
  | .reply npdu _ => npdu.source = some ⟨config.localNetwork, config.localMac⟩ ∧
      npdu.destination = some (msg.sourceNetwork.getD ⟨1, msg.sourceMac⟩)
  | .cached _ | .broadcast _ _ => True

section

variable {C : Codec} {config : LocalDeviceConfig} {msg : ReceivedApdu} {transportMac : Octets}
  {d : Device}

theorem replyDestination_eq (msg : ReceivedApdu) :
    replyDestination msg = some (msg.sourceNetwork.getD ⟨1, msg.sourceMac⟩) := by
  unfold replyDestination
  cases msg.sourceNetwork <;> rfl

theorem unicastNpdu_uniform_iff {source : NpduAddress} {payload buf : Octets} :
    (Sent.reply (unicastNpdu msg source payload) buf).Uniform config msg ↔
      source = ⟨config.localNetwork, config.localMac⟩ := by
  constructor
  · intro h
    exact Option.some.inj h.1
  · intro h
    exact ⟨congrArg some h, replyDestination_eq msg⟩

theorem replyNpdu_uniform (payload buf : Octets) :
    (Sent.reply (replyNpdu config msg payload) buf).Uniform config msg :=
  unicastNpdu_uniform_iff.mpr rfl

theorem sendError_uniform {invokeId : UInt8} {service : ConfirmedServiceChoice}
    {errorClass : ErrorClass} {errorCode : ErrorCode} {frame : Sent}
    (h : frame ∈ sendError C config msg invokeId service errorClass errorCode) :
    frame.Uniform config msg := by
  obtain ⟨payload, buf, -, -, rfl⟩ := mem_sendError h
  exact replyNpdu_uniform payload buf

theorem sendSimpleAck_uniform {invokeId service : UInt8} {frame : Sent}
    (h : frame ∈ sendSimpleAck C config msg invokeId service) : frame.Uniform config msg := by
  obtain ⟨buf, -, rfl⟩ := mem_sendUnicast.mp h
  exact replyNpdu_uniform _ buf

theorem sendIam_uniform {frame : Sent} (h : frame ∈ sendIam C config) :
    frame.Uniform config msg := by
  unfold sendIam at h
  split at h
  · cases h
  dsimp only at h
  split at h
  · cases h
  split at h
  · cases h
  · obtain rfl := List.mem_singleton.mp h
    exact trivial

theorem handleReadProperty_uniform {cache cache' : Cache} {objects : Objects} {sent : List Sent}
    (h : handleReadProperty C config msg cache objects = .ok (cache', sent)) :
    ∀ frame ∈ sent, frame.Uniform config msg := by
  intro frame hframe
  rcases handleReadProperty_cases h with ⟨-, -, rfl⟩ | ⟨id, -, -, ⟨buf, -, -, rfl⟩ | ⟨-, hread⟩⟩
  · cases hframe
  · obtain rfl := List.mem_singleton.mp hframe
    exact trivial
  · obtain ⟨payload, buf, rfl, -⟩ := mem_readUncached hread hframe
    exact replyNpdu_uniform payload buf

theorem handleWriteProperty_uniform {objects objects' : Objects} {sent : List Sent}
    (h : handleWriteProperty C config msg objects = .ok (objects', sent)) :
    ∀ frame ∈ sent, frame.Uniform config msg := by
  intro frame hframe
  cases write_cases h with
  | ignored => cases hframe
  | refused => exact sendError_uniform hframe
  | presentValue => exact sendSimpleAck_uniform hframe
  | outOfService => exact sendSimpleAck_uniform hframe

theorem handleSubscribeCov_eq {id : UInt8} (h : msg.apdu[2]? = some id) :
    handleSubscribeCov C msg transportMac =
      .ok (sendUnicast C (unicastNpdu msg ⟨1, transportMac⟩ (buildSubscribeCovAck id))) := by
  obtain ⟨hlen, -⟩ := List.getElem?_eq_some_iff.mp h
  unfold handleSubscribeCov
  rw [if_neg (by omega), index_eq_ok_iff.mpr h]
  rfl

theorem handleSubscribeCov_short (h : msg.apdu[2]? = none) :
    handleSubscribeCov C msg transportMac = .ok [] := by
  have hlen := List.getElem?_eq_none_iff.mp h
  unfold handleSubscribeCov
  rw [if_pos (by omega)]
  rfl

theorem Device.handle_subscribeCov (hlen : 2 ≤ msg.apdu.length)
    (hservice : pduTypeAndService msg.apdu = .ok (0x00, 0x05)) {sent : List Sent}
    (h : handleSubscribeCov C msg transportMac = .ok sent) :
    d.handle C config msg transportMac = .ok (d, sent) := by
  rw [Device.handle_of_service hlen hservice]
  simp only [Handler.ofService, Device.call, h]
  rfl

/-- The replies to a SubscribeCOV come from the transport's address on network 1,
so all replies agree exactly if that is the address of the configuration. -/
theorem replies_uniform_iff (C : Codec) (config : LocalDeviceConfig) (transportMac : Octets)
    (d : Device) (msg : ReceivedApdu) :
    (∀ d' sent, d.handle C config msg transportMac = .ok (d', sent) →
        ∀ frame ∈ sent, frame.Uniform config msg) ↔
      ∀ id, pduTypeAndService msg.apdu = .ok (0x00, 0x05) → msg.apdu[2]? = some id →
        (C.encodeNpdu (unicastNpdu msg ⟨1, transportMac⟩ (buildSubscribeCovAck id))).isSome →
        config.localNetwork = 1 ∧ config.localMac = transportMac := by
  constructor
  · intro h id hservice hid hencodes
    obtain ⟨buf, hbuf⟩ := Option.isSome_iff_exists.mp hencodes
    obtain ⟨hlen, -⟩ := List.getElem?_eq_some_iff.mp hid
    have hsubscribe : handleSubscribeCov C msg transportMac = _ := handleSubscribeCov_eq hid
    have hhandle : d.handle C config msg transportMac = _ :=
      Device.handle_subscribeCov (by omega) hservice hsubscribe
    have hsource := unicastNpdu_uniform_iff.mp
      (h _ _ hhandle _ (mem_sendUnicast.mpr ⟨buf, hbuf, rfl⟩))
    injection hsource with hnetwork hmac
    exact ⟨hnetwork.symm, hmac.symm⟩
  · intro h d' sent hhandle frame hframe
    cases Device.handle_cases hhandle with
    | short | unhandled => cases hframe
    | whoIs => exact sendIam_uniform hframe
    | readProperty _ _ hread => exact handleReadProperty_uniform hread frame hframe
    | writeProperty _ _ hwrite => exact handleWriteProperty_uniform hwrite frame hframe
    | subscribeCov _ hservice hsubscribe =>
      cases hid : msg.apdu[2]? with
      | none =>
        cases (handleSubscribeCov_short hid).symm.trans hsubscribe
        cases hframe
      | some id =>
        cases (handleSubscribeCov_eq hid).symm.trans hsubscribe
        obtain ⟨buf, hbuf, rfl⟩ := mem_sendUnicast.mp hframe
        obtain ⟨hnetwork, hmac⟩ := h id hservice hid (by rw [hbuf]; rfl)
        rw [unicastNpdu_uniform_iff, hnetwork, hmac]

/-- SubscribeCOV of AO-1, for as long as the device runs. -/
def outputSubscription : ReceivedApdu where
  apdu := [0x00, 0x05, 0x01, 0x05, 0x09, 0x01, 0x1C, 0x00, 0x40, 0x00, 0x01, 0x29, 0x00]
  sourceMac := [0x01]
  sourceNetwork := none

end

/-- A device on network 65520 answers a subscription from network 1. -/
theorem subscription_answered_from_network_one :
    ∃ d npdu buf, Device.start .standard = .ok d ∧
      d.handle .standard defaultDevice outputSubscription [0x0A] = .ok (d, [.reply npdu buf]) ∧
      npdu.source = some ⟨1, [0x0A]⟩ ∧
      ¬ ∀ d' sent, d.handle .standard defaultDevice outputSubscription [0x0A] = .ok (d', sent) →
        ∀ frame ∈ sent, frame.Uniform defaultDevice outputSubscription := by
  refine ⟨_, _, _, rfl, rfl, rfl, ?_⟩
  intro h
  obtain ⟨hsource, -⟩ := h _ _ rfl _ (List.mem_singleton_self _)
  cases hsource

end BacnetBridge
