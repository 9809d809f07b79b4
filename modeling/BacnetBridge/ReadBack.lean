import BacnetBridge.Answers
import BacnetBridge.Exchange
import BacnetBridge.ReadTarget
import BacnetBridge.Survival
import BacnetBridge.WriteLog

/-! What a client that writes to an object and reads it sees: the object as a function
of what the device has been told. -/
namespace BacnetBridge

/-- The object as the writes among the messages make it. -/
def objectAfter (C : Codec) (config : LocalDeviceConfig) (oid : ObjectIdentifier)
    (msgs : List ReceivedApdu) : ObjectState :=
  (makeObject oid.objectType oid.inst).writeAll (writesTo C config oid msgs)

/-- The properties that a write to Out_Of_Service leaves alone. -/
def valueProps : List UInt16 := [36, 75, 77, 79, 85, 87, 103, 104, 117, 119]

theorem ObjectState.writeAll_name (s : ObjectState) (writes : List ValueWrite) :
    (s.writeAll writes).objectType = s.objectType ∧ (s.writeAll writes).inst = s.inst := by
  induction writes generalizing s with
  | nil => exact ⟨rfl, rfl⟩
  | cons w writes ih =>
    obtain ⟨htype, hinst⟩ := writePresentValue_name s w.2 w.1
    exact ⟨(ih _).1.trans htype, (ih _).2.trans hinst⟩

theorem valueProps_known {propId : UInt16} (h : propId ∈ valueProps) : propId ∈ aoAvLoProps := by
  simp only [valueProps, List.mem_cons, List.not_mem_nil, or_false] at h
  rcases h with rfl | rfl | rfl | rfl | rfl | rfl | rfl | rfl | rfl | rfl <;> decide

theorem ObjectState.SameValues.valueBytes {s s' : ObjectState} (h : s.SameValues s')
    (C : Codec) {propId : UInt16} (hprop : propId ∈ valueProps) :
    objectValueBytes C s' propId = objectValueBytes C s propId := by
  obtain ⟨outOfService, rfl⟩ := h
  simp only [valueProps, List.mem_cons, List.not_mem_nil, or_false] at hprop
  rcases hprop with rfl | rfl | rfl | rfl | rfl | rfl | rfl | rfl | rfl | rfl <;> rfl

/-! ## The conversation, message by message -/

namespace Conversation

variable {C : Codec} {config : LocalDeviceConfig} {transportMac : Octets} {s t : Conversation}
  {msg : ReceivedApdu}

theorem step_device (h : s.step C config transportMac msg = some t) :
    s.device.step C config transportMac msg = some t.device := by
  obtain ⟨sent, hhandle, -⟩ := step_some h
  simp [Device.step, hhandle, Except.toOption]

/-- A run adds its messages, and its device is the one that they make. -/
theorem run_grows {msgs : List ReceivedApdu}
    (h : Runs.after (step C config transportMac) s msgs = some t) :
    ∃ more, t.exchanges = s.exchanges ++ more ∧ more.map Prod.fst = msgs ∧
      Runs.after (Device.step C config transportMac) s.device msgs = some t.device := by
  induction msgs generalizing s with
  | nil =>
    obtain rfl := Option.some.inj h
    exact ⟨[], by simp, rfl, rfl⟩
  | cons msg msgs ih =>
    obtain ⟨u, hstep, hrest⟩ := Option.bind_eq_some_iff.mp h
    obtain ⟨sent, -, hexchanges⟩ := step_some hstep
    obtain ⟨more, hmore, hmsgs, hdevice⟩ := ih hrest
    refine ⟨(msg, sent) :: more, by simp [hmore, hexchanges], by simp [hmsgs], ?_⟩
    rw [Runs.after_cons, step_device hstep]
    exact hdevice

/-- An exchange was made by the device as the messages before it had left it. -/
theorem exchanged {d : Device} {msgs : List ReceivedApdu}
    (ht : Runs.after (step C config transportMac) (.start d) msgs = some t)
    {before : List (ReceivedApdu × List Sent)} {sent : List Sent}
    (hp : before ++ [(msg, sent)] <+: t.exchanges) :
    ∃ u : Conversation, Runs.after (step C config transportMac) (.start d)
        (before.map Prod.fst) = some u ∧ u.exchanges = before ∧
      ∃ d', u.device.handle C config msg transportMac = .ok (d', sent) := by
  obtain ⟨rest, hrest⟩ := hp
  obtain ⟨all, hall, hmsgs, -⟩ := run_grows ht
  have hsplit : msgs = before.map Prod.fst ++ msg :: rest.map Prod.fst := by
    rw [← hmsgs, ← show t.exchanges = all from hall, ← hrest]
    simp
  rw [hsplit, Runs.after_append] at ht
  obtain ⟨u, hu, ht⟩ := Option.bind_eq_some_iff.mp ht
  obtain ⟨v, hstep, ht⟩ := Option.bind_eq_some_iff.mp ht
  obtain ⟨sent', hhandle, hv⟩ := step_some hstep
  obtain ⟨made, hmade, hnames, -⟩ := run_grows hu
  obtain ⟨more, hmore, -⟩ := run_grows ht
  have hlength : u.exchanges.length = before.length := by
    have hsame := congrArg List.length hnames
    rw [List.length_map, List.length_map] at hsame
    rw [show u.exchanges = made from hmade, hsame]
  have heq : before ++ (msg, sent) :: rest = u.exchanges ++ (msg, sent') :: more := by
    simpa [hmore, hv] using hrest
  obtain ⟨hbefore, hlast⟩ := List.append_inj heq hlength.symm
  obtain rfl : sent = sent' := by simpa using (List.cons.inj hlast).1
  exact ⟨u, hu, hbefore.symm, v.device, hhandle⟩

/-- The cache has the octets of every acknowledgement. -/
def AcksKept (s : Conversation) : Prop :=
  ∀ earlier sent npdu buf, (earlier, sent) ∈ s.exchanges → .reply npdu buf ∈ sent →
    (Sent.reply npdu buf).isReadAck = true →
      ∃ id, earlier.apdu[2]? = some id ∧ s.device.apduCache id = some buf

theorem acksKept_step (hE : C.MarksErrors) (hs : s.AcksKept)
    (h : s.step C config transportMac msg = some t) : t.AcksKept := by
  obtain ⟨sent, hhandle, hexchanges⟩ := step_some h
  intro earlier sent' npdu buf hmem hreply hack
  rw [hexchanges] at hmem
  rcases List.mem_append.mp hmem with hold | hnew
  · obtain ⟨id, hid, hhit⟩ := hs earlier sent' npdu buf hold hreply hack
    exact ⟨id, hid, kept_of_handle hhandle hhit⟩
  · obtain ⟨rfl, rfl⟩ : earlier = msg ∧ sent' = sent := by simpa using hnew
    obtain ⟨id, hid, hmiss, hfiled⟩ :=
      acked_of_handle hE hhandle (List.any_eq_true.mpr ⟨_, hreply, hack⟩)
    obtain ⟨buf', hbuf'⟩ := Option.isSome_iff_exists.mp hfiled
    refine ⟨id, hid, ?_⟩
    rcases filed_of_handle hhandle hbuf' with hhit | ⟨-, -, npdu', hreply'⟩
    · cases hhit.symm.trans hmiss
    · -- One frame at most is sent: what was filed is the acknowledgement.
      have hone := length_handle hhandle
      cases sent' with
      | nil => cases hreply
      | cons frame rest =>
        obtain rfl : rest = [] := by simpa using hone
        have hsame := (List.mem_singleton.mp hreply).trans (List.mem_singleton.mp hreply').symm
        injection hsame with _ hbuf
        exact hbuf ▸ hbuf'

end Conversation

/-! ## Reads -/

section

variable {C : Codec} {config : LocalDeviceConfig} {msg : ReceivedApdu}

theorem snd_cacheAndSend (cache : Cache) (invokeId : UInt8) (npdu : Npdu) :
    (cacheAndSend C cache invokeId npdu).2 = sendUnicast C npdu := by
  unfold cacheAndSend sendUnicast
  cases C.encodeNpdu npdu <;> rfl

theorem PropertyRequest.readPropId_short (r : PropertyRequest) {propId : UInt16}
    (hasked : r.propId = propId.toNat) (h : propId ∈ valueProps) :
    readPropId r.apdu = .ok (some propId) := by
  have hone : r.propId < 256 := by
    have hall : ∀ propId ∈ valueProps, propId.toNat < 256 := by simp [valueProps]
    rw [hasked]
    exact hall propId h
  obtain ⟨_, _, _, _, _, -, -, -, happ⟩ := r.apdu_layout
  rcases r.property_layout with ⟨-, htagged⟩ | ⟨hle, -⟩ | ⟨hle, -⟩
  · rw [htagged] at happ
    have htag : index r.apdu 9 = .ok 0x19 := by
      rw [happ]
      rfl
    have hoctet : index r.apdu 10 = .ok (UInt8.ofNat r.propId) := by
      rw [happ]
      rfl
    have hlong : ¬ r.apdu.length ≤ 10 := by
      have := r.le_apdu_length
      omega
    have hvalue : (UInt8.ofNat r.propId).toUInt16 = propId := by
      rw [← UInt16.toNat_inj, UInt8.toNat_toUInt16, UInt8.toNat_ofNat_of_lt' hone, hasked]
    simp only [readPropId, htag, hoctet, bind, Except.bind, hlong, hvalue]
    rfl
  · omega
  · omega

/-- An object as it is made, which is not the Device. -/
def Made (oid : ObjectIdentifier) (state : ObjectState) : Prop :=
  state = makeObject oid.objectType oid.inst ∧ oid.objectType ≠ .device

theorem made_of_start (hC : C.EncodesParameters) {d : Device} (h : Device.start C = .ok d) :
    ∀ oid state, d.objects oid = some state → Made oid state := by
  have hkinds : ∀ objectType ∈ startTypes,
      objectType.raw.toNat < 2 ^ 10 ∧ objectType ≠ .device := by decide
  refine Device.start_forall (P := Made) h ?_
  intro oid objectType htype hoid
  obtain ⟨hvalid, hne⟩ := hkinds objectType htype
  obtain rfl := (hC.oidNew_eq_some hvalid hoid).1
  exact ⟨rfl, hne⟩

/-- The object that a device holds, but for its service flag, is what the writes make. -/
theorem objects_after (hC : C.EncodesParameters) {transportMac : Octets} {d d' : Device}
    (hstart : Device.start C = .ok d) {msgs : List ReceivedApdu}
    (hrun : Runs.after (Device.step C config transportMac) d msgs = some d')
    {oid : ObjectIdentifier} (hobject : (d.objects oid).isSome) :
    ∃ state, d'.objects oid = some state ∧ oid = ⟨state.objectType, state.inst⟩ ∧
      oid.objectType ≠ .device ∧ (objectAfter C config oid msgs).SameValues state := by
  obtain ⟨first, hfirst⟩ := Option.isSome_iff_exists.mp hobject
  obtain ⟨rfl, hne⟩ := made_of_start hC hstart oid first hfirst
  obtain ⟨state, hfound, hsame⟩ := run_writes hfirst hrun
  refine ⟨state, hfound, ?_, hne, hsame⟩
  obtain ⟨htype, hinst⟩ := (makeObject oid.objectType oid.inst).writeAll_name
    (writesTo C config oid msgs)
  obtain ⟨outOfService, rfl⟩ := hsame
  simp only [htype, hinst]
  rfl

end

/-- What a ReadProperty of a value of AO-1, AV-1 or LO-1 is told depends on what the device
has been told before and on the invoke id. Where none under its invoke id has been
answered, it is acknowledged what the writes so far have made of the object. Where one has
been acknowledged it gets the octets of then, whatever has been written since. -/
theorem reads_follow_the_writes {C : Codec} (hC : C.EncodesParameters) (hE : C.MarksErrors)
    {config : LocalDeviceConfig} (hdevice : config.deviceId ≤ 4194303) {transportMac : Octets}
    {d : Device} (hstart : Device.start C = .ok d) {msgs : List ReceivedApdu} {t : Conversation}
    (ht : Runs.after (Conversation.step C config transportMac) (.start d) msgs = some t)
    {r : PropertyRequest} (hservice : r.service = .readProperty)
    (hobject : (d.objects r.object).isSome) {propId : UInt16} (hasked : r.propId = propId.toNat)
    (hprop : propId ∈ valueProps) {sourceMac : Octets} {sourceNetwork : Option NpduAddress}
    {before : List (ReceivedApdu × List Sent)} {sent : List Sent}
    (hsent : before ++ [(r.received sourceMac sourceNetwork, sent)] <+: t.exchanges) :
    ((∀ e ∈ before, IsReadProperty e.1 → e.1.apdu[2]? = some r.invokeId → e.2 = []) →
      ∃ value payload,
        objectValueBytes C (objectAfter C config r.object (before.map Prod.fst)) propId =
          .ok value ∧
        sent = sendUnicast C (replyNpdu config (r.received sourceMac sourceNetwork) payload) ∧
        ReadAck.parse C payload = some ⟨r.invokeId, r.object, r.propId, value⟩) ∧
    ∀ earlier sent' npdu buf, (earlier, sent') ∈ before → earlier.apdu[2]? = some r.invokeId →
      .reply npdu buf ∈ sent' → (Sent.reply npdu buf).isReadAck = true → sent = [.cached buf] := by
  obtain ⟨u, hu, rfl, d', hhandle⟩ := Conversation.exchanged ht hsent
  have hread : IsReadProperty (r.received sourceMac sourceNetwork) := by
    have happ := r.service_apdu
    have hlen := r.le_apdu_length
    rw [hservice] at happ
    exact ⟨(by omega : 2 ≤ r.apdu.length), happ⟩
  have hid : (r.received sourceMac sourceNetwork).apdu[2]? = some r.invokeId := r.invokeId_apdu
  have hanswer := (handle_readProperty hread hhandle).2
  rcases handleReadProperty_cases hanswer with
    ⟨hshort, -⟩ | ⟨id, -, hid', hwhich⟩
  · exact absurd hshort (Nat.not_lt.mpr r.le_apdu_length)
  obtain rfl := Option.some.inj (hid.symm.trans hid')
  constructor
  · intro hnew
    have htraced : u.Traced C config := Runs.always_of_step
      (fun _ _ _ hs hstep => Conversation.traced_step hs hstep)
      (Conversation.traced_start hstart) _ _ List.prefix_rfl u hu
    rcases hwhich with ⟨buf, hhit, -⟩ | ⟨-, huncached⟩
    · obtain ⟨earlier, sent', npdu, hmem, hearlier, hsame, hreply⟩ := htraced.cached _ buf hhit
      obtain rfl : sent' = [] := hnew _ hmem hearlier hsame
      cases hreply
    · obtain ⟨-, -, -, hrun⟩ := Conversation.run_grows hu
      obtain ⟨state, hfound, hname, hne, hsame⟩ := objects_after hC hstart hrun hobject
      obtain ⟨value, hvalue⟩ := safe_objectValueBytes C state (valueProps_known hprop)
      have hown : r.object ≠ ⟨.device, config.deviceId⟩ := fun heq => hne (by rw [heq])
      have hdue : AckDue C config (r.received sourceMac sourceNetwork) u.device.objects r.invokeId
          r.object propId (buildRpAckForOid C r.invokeId ⟨state.objectType, state.inst⟩ propId
            value) :=
        .object (r.readPropId_short hasked hprop) (r.parseOid_apdu hC)
          (oidNew_device hC hdevice) hown hfound (valueProps_known hprop) hvalue
      refine ⟨value, buildRpAckForOid C r.invokeId ⟨state.objectType, state.inst⟩ propId value,
        (hsame.valueBytes C hprop).symm.trans hvalue, ?_, ?_⟩
      · rw [hdue.readUncached] at huncached
        exact (congrArg Prod.snd (Except.ok.inj huncached)).symm.trans (snd_cacheAndSend ..)
      · rw [← hname, hasked]
        exact ReadAck.parse_build hC r.valid _ _ _
  · intro earlier sent' npdu buf hmem hsame hreply hack
    have hkept : u.AcksKept := Runs.always_of_step
      (fun _ _ _ hs hstep => Conversation.acksKept_step hE hs hstep)
      (fun _ _ _ _ hmem => by cases hmem) _ _ List.prefix_rfl u hu
    obtain ⟨id, hid'', hhit⟩ := hkept earlier sent' npdu buf hmem hreply hack
    obtain rfl := Option.some.inj (hsame.symm.trans hid'')
    rcases hwhich with ⟨buf', hhit', -, hcached⟩ | ⟨hmiss, -⟩
    · obtain rfl := Option.some.inj (hhit.symm.trans hhit')
      exact hcached
    · cases hhit.symm.trans hmiss

def valueRead : ReceivedApdu := (outputRequest .readProperty 85 (by decide)).received [0x01] none

/-- AO-1 is read, is written 42.5, and reads as before under the same invoke id. -/
theorem second_read_is_of_then : ∃ d t npdu buf written, Device.start .standard = .ok d ∧
    Runs.after (Conversation.step .standard defaultDevice [0x01, 0x02]) (.start d)
      [valueRead, writeRequest [0x39, 0x08], valueRead] = some t ∧
    t.exchanges = [(valueRead, [.reply npdu buf]), (writeRequest [0x39, 0x08], written),
      (valueRead, [.cached buf])] ∧
    (objectAfter .standard defaultDevice ⟨.analogOutput, 1⟩
      [valueRead, writeRequest [0x39, 0x08]]).presentValue = ⟨0x422A0000⟩ := by
  obtain ⟨d, t, npdu, buf, written, sent, hstart, hobject, hrun, hexchanges, hack⟩ :
      ∃ d t npdu buf written sent, Device.start .standard = .ok d ∧
        (d.objects ⟨.analogOutput, 1⟩).isSome ∧
        Runs.after (Conversation.step .standard defaultDevice [0x01, 0x02]) (.start d)
          [valueRead, writeRequest [0x39, 0x08], valueRead] = some t ∧
        t.exchanges = [(valueRead, [.reply npdu buf]), (writeRequest [0x39, 0x08], written)] ++
          [(valueRead, sent)] ∧ (Sent.reply npdu buf).isReadAck = true :=
    ⟨_, _, _, _, _, _, rfl, rfl, rfl, rfl, rfl⟩
  have hsent : [(valueRead, [.reply npdu buf]), (writeRequest [0x39, 0x08], written)] ++
      [(valueRead, sent)] <+: t.exchanges := by
    rw [hexchanges]
  have hasked : (outputRequest .readProperty 85 (by decide)).propId = (85 : UInt16).toNat := rfl
  obtain ⟨-, hagain⟩ := reads_follow_the_writes Codec.standard_encodesParameters
    Codec.standard_marksErrors (by decide) hstart hrun rfl hobject hasked (by decide) hsent
  obtain rfl : sent = [.cached buf] :=
    hagain valueRead [.reply npdu buf] npdu buf (by simp) rfl (by simp) hack
  exact ⟨d, t, npdu, buf, written, hstart, hrun, hexchanges, rfl⟩

end BacnetBridge
