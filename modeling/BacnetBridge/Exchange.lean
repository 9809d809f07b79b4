import Mathlib.Data.Fintype.Card
import BacnetBridge.Addressing
import BacnetBridge.Resend

/-! Everything the device has been told and has sent for it: where its frames come
from, and how long it goes on reading its objects. -/
namespace BacnetBridge

/-- The device with its messages and what it sent for each, in their order. -/
structure Conversation where
  device : Device
  exchanges : List (ReceivedApdu × List Sent)

namespace Conversation

def start (d : Device) : Conversation := ⟨d, []⟩

def step (C : Codec) (config : LocalDeviceConfig) (transportMac : Octets) (s : Conversation)
    (msg : ReceivedApdu) : Option Conversation :=
  match s.device.handle C config msg transportMac with
  | .error _ => none
  | .ok (device, sent) => some ⟨device, s.exchanges ++ [(msg, sent)]⟩

theorem step_some {C : Codec} {config : LocalDeviceConfig} {transportMac : Octets}
    {s t : Conversation} {msg : ReceivedApdu} (h : s.step C config transportMac msg = some t) :
    ∃ sent, s.device.handle C config msg transportMac = .ok (t.device, sent) ∧
      t.exchanges = s.exchanges ++ [(msg, sent)] := by
  unfold step at h
  split at h
  · cases h
  · rename_i device sent hhandle
    cases h
    exact ⟨sent, hhandle, rfl⟩

end Conversation

/-- Where a frame that is sent for a message comes from, after what was exchanged
before. -/
inductive Origin (C : Codec) (config : LocalDeviceConfig)
    (before : List (ReceivedApdu × List Sent)) (msg : ReceivedApdu) : Sent → Prop
  | announced {frame : Sent} (whoIs : pduTypeAndService msg.apdu = .ok (0x01, 0x08))
      (iam : frame ∈ sendIam C config) : Origin C config before msg frame
  | answered {npdu : Npdu} {buf : Octets} (requester : npdu.destination = replyDestination msg) :
      Origin C config before msg (.reply npdu buf)
  | repeated {buf : Octets} {earlier : ReceivedApdu} {sent : List Sent} {npdu : Npdu}
      (asked : (earlier, sent) ∈ before) (read : IsReadProperty earlier ∧ IsReadProperty msg)
      (invokeId : earlier.apdu[2]? = msg.apdu[2]?) (reply : .reply npdu buf ∈ sent) :
      Origin C config before msg (.cached buf)

def Sent.isReadAck : Sent → Bool
  | .reply npdu _ => npdu.payload.head? == some 0x30
  | _ => false

/-- The invoke ids of the requests that were sent a ReadProperty-ACK made for them. -/
def ackedIds (exchanges : List (ReceivedApdu × List Sent)) : List UInt8 :=
  (exchanges.filter fun e => e.2.any Sent.isReadAck).filterMap fun e => e.1.apdu[2]?

/-! ## One message -/

section

variable {C : Codec} {config : LocalDeviceConfig} {transportMac : Octets} {msg : ReceivedApdu}
  {d d' : Device} {sent : List Sent}

theorem length_sendUnicast (npdu : Npdu) : (sendUnicast C npdu).length ≤ 1 := by
  unfold sendUnicast
  split <;> simp

theorem length_sendError (invokeId : UInt8) (service : ConfirmedServiceChoice)
    (errorClass : ErrorClass) (errorCode : ErrorCode) :
    (sendError C config msg invokeId service errorClass errorCode).length ≤ 1 := by
  unfold sendError
  split
  · simp
  · exact length_sendUnicast _

theorem length_cacheAndSend (cache : Cache) (invokeId : UInt8) (npdu : Npdu) :
    (cacheAndSend C cache invokeId npdu).2.length ≤ 1 := by
  unfold cacheAndSend
  split <;> simp

theorem length_sendIam : (sendIam C config).length ≤ 1 := by
  unfold sendIam
  split
  · simp
  · dsimp only
    split
    · simp
    · split <;> simp

theorem length_readUncached {cache cache' : Cache} {objects : Objects} {invokeId : UInt8}
    (h : readUncached C config msg cache objects invokeId = .ok (cache', sent)) :
    sent.length ≤ 1 := by
  have hcases := read_cases h
  generalize hanswer : (cache', sent) = answer at hcases
  obtain rfl : sent = answer.2 := congrArg Prod.snd hanswer
  cases hcases with
  | unread | nameless | unencoded => exact Nat.zero_le _
  | refused => exact length_sendError ..
  | unknownProperty | acked => exact length_cacheAndSend ..

theorem length_handleReadProperty {cache cache' : Cache} {objects : Objects}
    (h : handleReadProperty C config msg cache objects = .ok (cache', sent)) :
    sent.length ≤ 1 := by
  rcases handleReadProperty_cases h with ⟨-, -, rfl⟩ | ⟨id, -, -, ⟨buf, -, -, rfl⟩ | ⟨-, hread⟩⟩
  · exact Nat.zero_le _
  · exact Nat.le_refl _
  · exact length_readUncached hread

theorem length_handleWriteProperty {objects objects' : Objects}
    (h : handleWriteProperty C config msg objects = .ok (objects', sent)) : sent.length ≤ 1 := by
  cases write_cases h with
  | ignored => exact Nat.zero_le _
  | refused => exact length_sendError ..
  | presentValue | outOfService => exact length_sendUnicast _

theorem handleSubscribeCov_cases (h : handleSubscribeCov C msg transportMac = .ok sent) :
    sent = [] ∨ ∃ id, sent =
      sendUnicast C (unicastNpdu msg ⟨1, transportMac⟩ (buildSubscribeCovAck id)) := by
  cases hid : msg.apdu[2]? with
  | none =>
    cases (handleSubscribeCov_short hid).symm.trans h
    exact .inl rfl
  | some id =>
    cases (handleSubscribeCov_eq hid).symm.trans h
    exact .inr ⟨id, rfl⟩

theorem length_handleSubscribeCov (h : handleSubscribeCov C msg transportMac = .ok sent) :
    sent.length ≤ 1 := by
  rcases handleSubscribeCov_cases h with rfl | ⟨id, rfl⟩
  · exact Nat.zero_le _
  · exact length_sendUnicast _

/-- A message is sent one frame at most. -/
theorem length_handle (h : d.handle C config msg transportMac = .ok (d', sent)) :
    sent.length ≤ 1 := by
  cases Device.handle_cases h with
  | short | unhandled => exact Nat.zero_le _
  | whoIs => exact length_sendIam
  | readProperty _ _ hread => exact length_handleReadProperty hread
  | subscribeCov _ _ hsubscribe => exact length_handleSubscribeCov hsubscribe
  | writeProperty _ _ hwrite => exact length_handleWriteProperty hwrite

/-- A frame is an I-Am for a Who-Is, a reply to the requester, or what the cache has
under the invoke id of a ReadProperty. -/
inductive Source (C : Codec) (config : LocalDeviceConfig) (d : Device) (msg : ReceivedApdu) :
    Sent → Prop
  | announced {frame : Sent} (whoIs : pduTypeAndService msg.apdu = .ok (0x01, 0x08))
      (iam : frame ∈ sendIam C config) : Source C config d msg frame
  | answered {npdu : Npdu} {buf : Octets} (requester : npdu.destination = replyDestination msg) :
      Source C config d msg (.reply npdu buf)
  | filed {id : UInt8} {buf : Octets} (read : IsReadProperty msg)
      (invokeId : msg.apdu[2]? = some id) (hit : d.apduCache id = some buf) :
      Source C config d msg (.cached buf)

theorem Source.of_addressed {frame : Sent} (h : frame.AddressedTo msg) :
    Source C config d msg frame := by
  cases frame with
  | reply npdu buf => exact .answered h
  | cached buf => exact h.elim
  | broadcast npdu buf => exact h.elim

theorem source_of_handle (h : d.handle C config msg transportMac = .ok (d', sent)) :
    ∀ frame ∈ sent, Source C config d msg frame := by
  intro frame hframe
  cases Device.handle_cases h with
  | short | unhandled => cases hframe
  | whoIs hservice => exact .announced hservice hframe
  | readProperty hlen hservice hread =>
    rcases handleReadProperty_cases hread with
      ⟨-, -, rfl⟩ | ⟨id, -, hid, ⟨buf, hhit, -, rfl⟩ | ⟨-, hmiss⟩⟩
    · cases hframe
    · obtain rfl := List.mem_singleton.mp hframe
      exact .filed ⟨hlen, hservice⟩ hid hhit
    · obtain ⟨haddressed, -⟩ := (files_readUncached C config msg d.objects id).answer hmiss
      exact .of_addressed (haddressed frame hframe)
  | subscribeCov _ _ hsubscribe =>
    rcases handleSubscribeCov_cases hsubscribe with rfl | ⟨id, rfl⟩
    · cases hframe
    · obtain ⟨buf, -, rfl⟩ := mem_sendUnicast.mp hframe
      exact .answered rfl
  | writeProperty _ _ hwrite =>
    cases write_cases hwrite with
    | ignored => cases hframe
    | refused =>
      obtain ⟨payload, buf, -, -, rfl⟩ := mem_sendError hframe
      exact .answered rfl
    | presentValue | outOfService =>
      obtain ⟨buf, -, rfl⟩ := mem_sendUnicast.mp hframe
      exact .answered rfl

/-- What is newly in the cache was sent just now, for a ReadProperty. -/
theorem filed_of_handle (h : d.handle C config msg transportMac = .ok (d', sent)) {id : UInt8}
    {buf : Octets} (hfiled : d'.apduCache id = some buf) :
    d.apduCache id = some buf ∨ (IsReadProperty msg ∧ msg.apdu[2]? = some id ∧
      ∃ npdu, .reply npdu buf ∈ sent) := by
  cases Device.handle_cases h with
  | short | unhandled | whoIs | subscribeCov | writeProperty => exact .inl hfiled
  | readProperty hlen hservice hread =>
    rcases handleReadProperty_cases hread with
      ⟨-, rfl, -⟩ | ⟨asked, -, hasked, ⟨_, -, rfl, -⟩ | ⟨-, hmiss⟩⟩
    · exact .inl hfiled
    · exact .inl hfiled
    · obtain ⟨-, ⟨rfl, -⟩ | ⟨npdu, buf', rfl, rfl, -⟩⟩ :=
        (files_readUncached C config msg d.objects asked).answer hmiss
      · exact .inl hfiled
      · by_cases heq : id = asked
        · subst heq
          have hbuf : buf' = buf := by simpa using hfiled
          exact .inr ⟨⟨hlen, hservice⟩, hasked, npdu, by simp [hbuf]⟩
        · exact .inl (by simpa [Function.update_of_ne heq] using hfiled)

theorem kept_of_handle (h : d.handle C config msg transportMac = .ok (d', sent)) {id : UInt8}
    {buf : Octets} (hhit : d.apduCache id = some buf) : d'.apduCache id = some buf := by
  rcases handle_cache h with hsame | ⟨filed, _, _, hmiss, hfiled, -⟩
  · exact hsame ▸ hhit
  · have hne : id ≠ filed := by
      rintro rfl
      cases hhit.symm.trans hmiss
    rw [hfiled, Function.update_of_ne hne]
    exact hhit

theorem not_isReadAck_of_error (hE : C.MarksErrors) {pdu : ErrorPdu} {payload buf : Octets}
    (h : C.encodeApdu (.error pdu) = some payload) :
    (Sent.reply (replyNpdu config msg payload) buf).isReadAck = false := by
  have hhead := hE _ _ h
  simp [Sent.isReadAck, replyNpdu, unicastNpdu, hhead]

/-- A ReadProperty-ACK is made only for an invoke id that the cache does not have,
and then it does. -/
theorem acked_of_handle (hE : C.MarksErrors)
    (h : d.handle C config msg transportMac = .ok (d', sent))
    (hack : sent.any Sent.isReadAck = true) :
    ∃ id, msg.apdu[2]? = some id ∧ d.apduCache id = none ∧ (d'.apduCache id).isSome := by
  obtain ⟨frame, hframe, hack⟩ := List.any_eq_true.mp hack
  cases Device.handle_cases h with
  | short | unhandled => cases hframe
  | whoIs =>
    unfold sendIam at hframe
    split at hframe
    · cases hframe
    · dsimp only at hframe
      split at hframe
      · cases hframe
      · split at hframe
        · cases hframe
        · obtain rfl := List.mem_singleton.mp hframe
          cases hack
  | subscribeCov _ _ hsubscribe =>
    rcases handleSubscribeCov_cases hsubscribe with rfl | ⟨id, rfl⟩
    · cases hframe
    · obtain ⟨buf, -, rfl⟩ := mem_sendUnicast.mp hframe
      cases hack
  | writeProperty _ _ hwrite =>
    cases write_cases hwrite with
    | ignored => cases hframe
    | refused =>
      obtain ⟨payload, buf, hpayload, -, rfl⟩ := mem_sendError hframe
      rw [not_isReadAck_of_error hE hpayload] at hack
      cases hack
    | presentValue | outOfService =>
      obtain ⟨buf, -, rfl⟩ := mem_sendUnicast.mp hframe
      cases hack
  | readProperty hlen hservice hread =>
    rcases handleReadProperty_cases hread with
      ⟨-, -, rfl⟩ | ⟨id, -, hid, ⟨buf, -, -, rfl⟩ | ⟨hnone, hmiss⟩⟩
    · cases hframe
    · obtain rfl := List.mem_singleton.mp hframe
      cases hack
    · refine ⟨id, hid, hnone, ?_⟩
      obtain ⟨payload, buf, rfl, hbuf, ⟨_, _, hpayload⟩ | ⟨oid, propId, hdue⟩⟩ :=
        mem_readUncached hmiss hframe
      · rw [not_isReadAck_of_error hE hpayload] at hack
        cases hack
      · have hfiled := hdue.readUncached d.apduCache
        rw [hmiss] at hfiled
        simp only [cacheAndSend, hbuf, Except.ok.injEq, Prod.mk.injEq] at hfiled
        simp [hfiled.1]

end

/-! ## Runs -/

namespace Conversation

variable {C : Codec} {config : LocalDeviceConfig} {transportMac : Octets} {s t : Conversation}
  {msg : ReceivedApdu}

/-- What the cache has was sent, and every message was sent one frame at most, whose
origin lies in what was exchanged before it. -/
structure Traced (C : Codec) (config : LocalDeviceConfig) (s : Conversation) : Prop where
  cached : ∀ id buf, s.device.apduCache id = some buf → ∃ earlier sent npdu,
    (earlier, sent) ∈ s.exchanges ∧ IsReadProperty earlier ∧ earlier.apdu[2]? = some id ∧
      .reply npdu buf ∈ sent
  origins : ∀ before msg sent, before ++ [(msg, sent)] <+: s.exchanges →
    sent.length ≤ 1 ∧ ∀ frame ∈ sent, Origin C config before msg frame

theorem traced_start {d : Device} (h : Device.start C = .ok d) :
    Traced C config (.start d) := by
  obtain ⟨_, _, _, -, -, -, hcache, -⟩ := Device.start_cases h
  constructor
  · intro id buf hhit
    rw [start, hcache] at hhit
    cases hhit
  · intro before msg sent hp
    simp [start] at hp

theorem origin_of_source (hs : s.Traced C config) {frame : Sent}
    (h : Source C config s.device msg frame) : Origin C config s.exchanges msg frame := by
  cases h with
  | announced hservice hiam => exact .announced hservice hiam
  | answered hrequester => exact .answered hrequester
  | filed hread hid hhit =>
    obtain ⟨earlier, sent, npdu, hmem, hearlier, hid', hreply⟩ := hs.cached _ _ hhit
    exact .repeated hmem ⟨hearlier, hread⟩ (hid'.trans hid.symm) hreply

theorem traced_step (hs : s.Traced C config) (h : s.step C config transportMac msg = some t) :
    t.Traced C config := by
  obtain ⟨sent, hhandle, hexchanges⟩ := step_some h
  constructor
  · intro id buf hhit
    rw [hexchanges]
    rcases filed_of_handle hhandle hhit with hold | ⟨hread, hid, npdu, hreply⟩
    · obtain ⟨earlier, sent, npdu, hmem, hrest⟩ := hs.cached id buf hold
      exact ⟨earlier, sent, npdu, List.mem_append_left _ hmem, hrest⟩
    · exact ⟨msg, sent, npdu, by simp, hread, hid, hreply⟩
  · intro before msg' sent' hp
    rw [hexchanges] at hp
    rcases List.prefix_concat_iff.mp hp with heq | hp
    · obtain ⟨rfl, hlast⟩ := List.append_inj' heq rfl
      obtain ⟨rfl, rfl⟩ : msg' = msg ∧ sent' = sent := by simpa using hlast
      refine ⟨length_handle hhandle, ?_⟩
      intro frame hframe
      exact origin_of_source hs (source_of_handle hhandle frame hframe)
    · exact hs.origins before msg' sent' hp

/-- The acknowledged invoke ids are all different, and the cache has them. -/
structure Counted (s : Conversation) : Prop where
  nodup : (ackedIds s.exchanges).Nodup
  cached : ∀ id ∈ ackedIds s.exchanges, (s.device.apduCache id).isSome
  named : ∀ e ∈ s.exchanges, e.2.any Sent.isReadAck = true → (e.1.apdu[2]?).isSome

theorem counted_step (hE : C.MarksErrors) (hs : s.Counted)
    (h : s.step C config transportMac msg = some t) : t.Counted := by
  obtain ⟨sent, hhandle, hexchanges⟩ := step_some h
  have hkept : ∀ id, (s.device.apduCache id).isSome → (t.device.apduCache id).isSome := by
    intro id hsome
    obtain ⟨buf, hhit⟩ := Option.isSome_iff_exists.mp hsome
    rw [kept_of_handle hhandle hhit]
    rfl
  cases hack : sent.any Sent.isReadAck with
  | false =>
    have hids : ackedIds t.exchanges = ackedIds s.exchanges := by
      simp [ackedIds, hexchanges, hack]
    refine ⟨hids ▸ hs.nodup, fun id hid => hkept id (hs.cached id (hids ▸ hid)), ?_⟩
    intro e he hacked
    rw [hexchanges] at he
    rcases List.mem_append.mp he with he | he
    · exact hs.named e he hacked
    · obtain rfl := List.mem_singleton.mp he
      cases hack.symm.trans hacked
  | true =>
    obtain ⟨id, hid, hnone, hsome⟩ := acked_of_handle hE hhandle hack
    have hids : ackedIds t.exchanges = ackedIds s.exchanges ++ [id] := by
      simp [ackedIds, hexchanges, hack, hid]
    refine ⟨?_, ?_, ?_⟩
    · rw [hids, List.nodup_append]
      refine ⟨hs.nodup, List.nodup_singleton _, ?_⟩
      rintro id' hid' _ hlast rfl
      obtain rfl := List.mem_singleton.mp hlast
      have hold := hs.cached _ hid'
      rw [hnone] at hold
      cases hold
    · intro id' hid'
      rw [hids] at hid'
      rcases List.mem_append.mp hid' with hold | hlast
      · exact hkept id' (hs.cached id' hold)
      · obtain rfl := List.mem_singleton.mp hlast
        exact hsome
    · intro e he hacked
      rw [hexchanges] at he
      rcases List.mem_append.mp he with he | he
      · exact hs.named e he hacked
      · obtain rfl := List.mem_singleton.mp he
        simp [hid]

theorem Counted.length_acks {s : Conversation} (h : s.Counted) :
    (s.exchanges.filter fun e => e.2.any Sent.isReadAck).length =
      (ackedIds s.exchanges).length := by
  have hnamed : ∀ l : List (ReceivedApdu × List Sent), (∀ e ∈ l, (e.1.apdu[2]?).isSome) →
      (l.filterMap fun e => e.1.apdu[2]?).length = l.length := by
    intro l hl
    induction l with
    | nil => rfl
    | cons e l ih =>
      obtain ⟨he, hrest⟩ := List.forall_mem_cons.mp hl
      obtain ⟨id, hid⟩ := Option.isSome_iff_exists.mp he
      simp [hid, ih hrest]
  refine (hnamed _ fun e he => ?_).symm
  obtain ⟨he, hack⟩ := List.mem_filter.mp he
  exact h.named e he hack

end Conversation

/-- Whatever the device is told, it sends one frame at most for each message: an I-Am
for a Who-Is, a reply to the requester, or once more the octets of a reply that it sent
for an earlier ReadProperty under the same invoke id. -/
theorem frames_have_origins {C : Codec} {config : LocalDeviceConfig} {transportMac : Octets}
    {d : Device} (h : Device.start C = .ok d) {msgs : List ReceivedApdu} {t : Conversation}
    (ht : Runs.after (Conversation.step C config transportMac) (.start d) msgs = some t)
    {before : List (ReceivedApdu × List Sent)} {msg : ReceivedApdu} {sent : List Sent}
    (hsent : before ++ [(msg, sent)] <+: t.exchanges) :
    sent.length ≤ 1 ∧ ∀ frame ∈ sent, Origin C config before msg frame := by
  have htraced := Runs.always_of_step (fun _ _ _ hs hstep => Conversation.traced_step hs hstep)
    (Conversation.traced_start h) msgs msgs List.prefix_rfl t ht
  exact htraced.origins before msg sent hsent

/-- Two clients read two properties under one invoke id. -/
def sharedReads : List ReceivedApdu := [deviceRead [0x01] 1 11, deviceRead [0x02] 1 76]

/-- What the second is sent was made for the first. -/
theorem second_answer_comes_from_the_first :
    ∃ d t before buf, Device.start .standard = .ok d ∧
      Runs.after (Conversation.step .standard defaultDevice [0x01, 0x02]) (.start d) sharedReads =
        some t ∧
      before ++ [(deviceRead [0x02] 1 76, [.cached buf])] = t.exchanges ∧
      Origin .standard defaultDevice before (deviceRead [0x02] 1 76) (.cached buf) := by
  obtain ⟨d, t, before, buf, hstart, hrun, hlast⟩ : ∃ d t before buf,
      Device.start .standard = .ok d ∧ Runs.after
        (Conversation.step .standard defaultDevice [0x01, 0x02]) (.start d) sharedReads = some t ∧
      before ++ [(deviceRead [0x02] 1 76, [.cached buf])] = t.exchanges :=
    ⟨_, _, [(deviceRead [0x01] 1 11, _)], _, rfl, rfl, rfl⟩
  have hprefix : before ++ [(deviceRead [0x02] 1 76, [.cached buf])] <+: t.exchanges := by
    rw [hlast]
  have horigins := frames_have_origins hstart hrun hprefix
  exact ⟨d, t, before, buf, hstart, hrun, hlast, horigins.2 _ (List.mem_singleton_self _)⟩

/-- In its whole life the device makes at most one ReadProperty-ACK for each invoke id,
and so at most 256: what it acknowledges beyond these are copies. -/
theorem read_acks_run_out {C : Codec} (hE : C.MarksErrors) {config : LocalDeviceConfig}
    {transportMac : Octets} {d : Device} {msgs : List ReceivedApdu}
    {t : Conversation}
    (ht : Runs.after (Conversation.step C config transportMac) (.start d) msgs = some t) :
    (ackedIds t.exchanges).Nodup ∧
      (t.exchanges.filter fun e => e.2.any Sent.isReadAck).length =
        (ackedIds t.exchanges).length ∧
      (t.exchanges.filter fun e => e.2.any Sent.isReadAck).length ≤ 256 := by
  have hcounted := Runs.always_of_step
    (fun _ _ _ hs hstep => Conversation.counted_step hE hs hstep)
    (⟨List.nodup_nil, by simp [ackedIds, Conversation.start], by simp [Conversation.start]⟩ :
      (Conversation.start d).Counted) msgs msgs List.prefix_rfl t ht
  refine ⟨hcounted.nodup, hcounted.length_acks, ?_⟩
  have hinjective : Function.Injective UInt8.toFin := fun _ _ h => UInt8.toFin_inj.mp h
  have hnodup : ((ackedIds t.exchanges).map UInt8.toFin).Nodup := hcounted.nodup.map hinjective
  calc (t.exchanges.filter fun e => e.2.any Sent.isReadAck).length
      = (ackedIds t.exchanges).length := hcounted.length_acks
    _ = ((ackedIds t.exchanges).map UInt8.toFin).length := (List.length_map _).symm
    _ ≤ Fintype.card (Fin 256) := hnodup.length_le_card
    _ = 256 := Fintype.card_fin 256

theorem shared_reads_are_acknowledged_once :
    ∃ d t, Device.start .standard = .ok d ∧
      Runs.after (Conversation.step .standard defaultDevice [0x01, 0x02]) (.start d) sharedReads =
        some t ∧
      t.exchanges.length = 2 ∧ ackedIds t.exchanges = [1] ∧
      (t.exchanges.filter fun e => e.2.any Sent.isReadAck).length = 1 := by
  obtain ⟨d, t, hstart, hrun, hlength, hids⟩ : ∃ d t, Device.start .standard = .ok d ∧ Runs.after
      (Conversation.step .standard defaultDevice [0x01, 0x02]) (.start d) sharedReads = some t ∧
        t.exchanges.length = 2 ∧ ackedIds t.exchanges = [1] := ⟨_, _, rfl, rfl, rfl, rfl⟩
  obtain ⟨-, hcount, -⟩ := read_acks_run_out Codec.standard_marksErrors hrun
  exact ⟨d, t, hstart, hrun, hlength, hids, hcount.trans (by rw [hids]; rfl)⟩

end BacnetBridge
