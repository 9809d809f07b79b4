import BacnetBridge.LocalDevice

/-! Which handler an APDU reaches, and from which octet its service is read. -/
namespace BacnetBridge

/-- What the device's task calls. -/
inductive Handler
  | sendIam
  | readProperty
  | subscribeCov
  | writeProperty
  deriving DecidableEq, Repr

/-- The PDU type and the service choice that a handler is for. -/
def Handler.service : Handler → UInt8 × UInt8
  | .sendIam => (0x01, 0x08)
  | .readProperty => (0x00, 0x0C)
  | .subscribeCov => (0x00, 0x05)
  | .writeProperty => (0x00, 0x0F)

/-- The handler for a PDU type and a service choice. -/
def Handler.ofService : UInt8 × UInt8 → Option Handler
  | (0x01, 0x08) => some .sendIam
  | (0x00, 0x0C) => some .readProperty
  | (0x00, 0x05) => some .subscribeCov
  | (0x00, 0x0F) => some .writeProperty
  | _ => none

/-- The handler that the task's loop calls for an APDU. -/
def dispatch (apdu : Octets) : Except Panic (Option Handler) := do
  if apdu.length < 2 then
    return none
  else
    return Handler.ofService (← pduTypeAndService apdu)

def Device.call (C : Codec) (config : LocalDeviceConfig) (msg : ReceivedApdu)
    (transportMac : Octets) (d : Device) : Option Handler → Except Panic (Device × List Sent)
  | none => return (d, [])
  | some .sendIam => return (d, BacnetBridge.sendIam C config)
  | some .readProperty => do
    let (apduCache, sent) ← handleReadProperty C config msg d.apduCache d.objects
    return ({ d with apduCache }, sent)
  | some .subscribeCov => do
    let sent ← handleSubscribeCov C msg transportMac
    return (d, sent)
  | some .writeProperty => do
    let (objects, sent) ← handleWriteProperty C config msg d.objects
    return ({ d with objects }, sent)

/-- The task does what the handler does that `dispatch` names. -/
theorem Device.handle_eq (C : Codec) (config : LocalDeviceConfig) (msg : ReceivedApdu)
    (transportMac : Octets) (d : Device) : d.handle C config msg transportMac =
      dispatch msg.apdu >>= d.call C config msg transportMac := by
  unfold handle dispatch
  split
  · rfl
  · cases pduTypeAndService msg.apdu with
    | error e => rfl
    | ok service =>
      simp only [bind, Except.bind]
      split
      · rfl
      · rfl
      · rfl
      · rfl
      · have hnone : Handler.ofService service = none := by
          unfold Handler.ofService
          split <;> simp_all
        rw [hnone]
        rfl

/-! ## The service octet -/

/-- The length of a confirmed request's fixed header, by its first octet; the last
octet of it is the service choice. -/
def fixedHeaderLength (first : UInt8) : Nat := if first &&& 0x08 ≠ 0 then 6 else 4

/-- The index that the service is read from, by the first octet and the length. -/
def takenFrom (first : UInt8) (length : Nat) : Nat :=
  if 3 < length then
    if first &&& 0x08 ≠ 0 ∧ 5 < length then 5 else 3
  else 1

/-- Behind a whole header the service choice is read; behind a shorter one, an
octet in front of it. -/
theorem takenFrom_eq_iff (first : UInt8) (length : Nat) :
    takenFrom first length = fixedHeaderLength first - 1 ↔ fixedHeaderLength first ≤ length := by
  unfold takenFrom fixedHeaderLength
  by_cases hsegmented : first &&& 0x08 = 0
  · simp only [hsegmented, ne_eq, not_true, false_and, if_false]
    split <;> omega
  · simp only [hsegmented, ne_eq, not_false_iff, true_and, if_true]
    split
    · split <;> omega
    · omega

theorem pduTypeAndService_confirmed {apdu : Octets} {service : UInt8} :
    pduTypeAndService apdu = .ok (0x00, service) ↔ ∃ first : UInt8, apdu[0]? = some first ∧
      first >>> 4 = 0 ∧ apdu[takenFrom first apdu.length]? = some service := by
  unfold pduTypeAndService
  cases hfirst : apdu[0]? with
  | none =>
    simp [index, hfirst, bind, Except.bind]
  | some first =>
    have hindex : index apdu 0 = .ok first := index_eq_ok_iff.mpr hfirst
    have hread : ∀ i, (do return (first >>> 4, ← index apdu i) : Except Panic (UInt8 × UInt8)) =
        .ok (0x00, service) ↔ first >>> 4 = 0 ∧ apdu[i]? = some service := by
      intro i
      rw [← index_eq_ok_iff]
      cases index apdu i <;> simp [bind, Except.bind, pure, Except.pure]
    rw [hindex]
    simp only [Option.some.injEq, exists_eq_left', takenFrom]
    by_cases htype : first >>> 4 = 0
    · by_cases hlong : 3 < apdu.length
      · have hshort : 2 < apdu.length := by omega
        by_cases hsegmented : first &&& 0x08 ≠ 0 ∧ 5 < apdu.length
        · simpa [bind, Except.bind, htype, hlong, hshort, hsegmented] using hread 5
        · simpa [bind, Except.bind, htype, hlong, hshort, hsegmented] using hread 3
      · simpa [bind, Except.bind, htype, hlong] using hread 1
    · simpa [bind, Except.bind, htype] using hread 1

theorem pduType_eq {apdu : Octets} {pduType service : UInt8}
    (h : pduTypeAndService apdu = .ok (pduType, service)) :
    ∃ first : UInt8, apdu[0]? = some first ∧ first >>> 4 = pduType := by
  unfold pduTypeAndService at h
  obtain ⟨first, hfirst, h⟩ := ok_of_bind h
  refine ⟨first, index_eq_ok_iff.mp hfirst, ?_⟩
  dsimp only at h
  split at h
  · split at h
    all_goals
      obtain ⟨_, -, h⟩ := ok_of_bind h
      cases h
      rfl
  · obtain ⟨_, -, h⟩ := ok_of_bind h
    cases h
    rfl

theorem Handler.ofService_eq_some {service : UInt8 × UInt8} {handler : Handler} :
    ofService service = some handler ↔ service = handler.service := by
  constructor
  · intro h
    unfold ofService at h
    split at h <;> cases h <;> rfl
  · rintro rfl
    cases handler <;> rfl

theorem dispatch_eq_some {apdu : Octets} {handler : Handler}
    (h : dispatch apdu = .ok (some handler)) :
    ∃ service, pduTypeAndService apdu = .ok service ∧ Handler.ofService service = some handler := by
  unfold dispatch at h
  split at h
  · cases h
  · obtain ⟨service, hservice, h⟩ := ok_of_bind h
    exact ⟨service, hservice, Except.ok.inj h⟩

theorem dispatch_of_service {apdu : Octets} (hlen : 2 ≤ apdu.length) {service : UInt8 × UInt8}
    (h : pduTypeAndService apdu = .ok service) :
    dispatch apdu = .ok (Handler.ofService service) := by
  unfold dispatch
  rw [if_neg (by omega), h]
  rfl

/-- The one handler that is called for a service. -/
theorem Device.handle_of_service {C : Codec} {config : LocalDeviceConfig} {msg : ReceivedApdu}
    {transportMac : Octets} {d : Device} (hlen : 2 ≤ msg.apdu.length) {service : UInt8 × UInt8}
    (h : pduTypeAndService msg.apdu = .ok service) : d.handle C config msg transportMac =
      d.call C config msg transportMac (Handler.ofService service) := by
  rw [Device.handle_eq, dispatch_of_service hlen h]
  rfl

/-- A handler of confirmed requests is called for what the octet at `takenFrom`
says. -/
theorem dispatch_confirmed_iff {apdu : Octets} {handler : Handler} {code : UInt8}
    (hcode : handler.service = (0x00, code)) :
    dispatch apdu = .ok (some handler) ↔ ∃ first : UInt8, apdu[0]? = some first ∧
      first >>> 4 = 0 ∧ apdu[takenFrom first apdu.length]? = some code := by
  have hservice : ∀ service, Handler.ofService service = some handler ↔ service = (0x00, code) := by
    intro service
    rw [Handler.ofService_eq_some, hcode]
  rw [← pduTypeAndService_confirmed]
  constructor
  · intro h
    obtain ⟨service, htaken, hsome⟩ := dispatch_eq_some h
    rwa [(hservice service).mp hsome] at htaken
  · intro h
    obtain ⟨first, -, -, htaken⟩ := pduTypeAndService_confirmed.mp h
    have hlength := (List.getElem?_eq_some_iff.mp htaken).1
    have hlong : 2 ≤ apdu.length := by
      unfold takenFrom at hlength
      split at hlength <;> omega
    rw [dispatch_of_service hlong h, (hservice _).mpr rfl]

/-! ## Truncated requests -/

/-- A confirmed request whose fixed header has not all arrived. -/
def Truncated (apdu : Octets) : Prop :=
  ∃ first : UInt8, apdu[0]? = some first ∧ first >>> 4 = 0 ∧ apdu.length < fixedHeaderLength first

/-- Where the service choice is missing, another octet of the header has the
number of a service. -/
def Mistaken (apdu : Octets) : Prop :=
  ∃ (first : UInt8) (handler : Handler) (code : UInt8), apdu[0]? = some first ∧ first >>> 4 = 0 ∧
    apdu.length < fixedHeaderLength first ∧ handler.service = (0x00, code) ∧
    apdu[takenFrom first apdu.length]? = some code

/-- A handler of confirmed requests is called only for a request with a whole
header and with its service choice. -/
def ReadsService (apdu : Octets) : Prop :=
  ∀ (handler : Handler) (code : UInt8), handler.service = (0x00, code) →
    dispatch apdu = .ok (some handler) → ∃ first : UInt8, apdu[0]? = some first ∧ first >>> 4 = 0 ∧
      fixedHeaderLength first ≤ apdu.length ∧ apdu[fixedHeaderLength first - 1]? = some code

/-- Nothing is sent for a truncated request, so it is not acknowledged. -/
def Unanswered (apdu : Octets) : Prop :=
  Truncated apdu → ∀ C config msg transportMac d d' sent, msg.apdu = apdu →
    Device.handle C config msg transportMac d = .ok (d', sent) → sent = []

theorem readsService_iff {apdu : Octets} : ReadsService apdu ↔ ¬ Mistaken apdu := by
  constructor
  · rintro h ⟨first, handler, code, hfirst, htype, hshort, hcode, htaken⟩
    have hdispatch := (dispatch_confirmed_iff hcode).mpr ⟨first, hfirst, htype, htaken⟩
    obtain ⟨first', hfirst', -, hwhole, -⟩ := h handler code hcode hdispatch
    obtain rfl := Option.some.inj (hfirst.symm.trans hfirst')
    omega
  · intro h handler code hcode hdispatch
    obtain ⟨first, hfirst, htype, htaken⟩ := (dispatch_confirmed_iff hcode).mp hdispatch
    by_cases hwhole : fixedHeaderLength first ≤ apdu.length
    · rw [(takenFrom_eq_iff first apdu.length).mpr hwhole] at htaken
      exact ⟨first, hfirst, htype, hwhole, htaken⟩
    · exact absurd ⟨first, handler, code, hfirst, htype, by omega, hcode, htaken⟩ h

theorem unanswered_of_not_mistaken {apdu : Octets} (h : ¬ Mistaken apdu) : Unanswered apdu := by
  rintro ⟨first, hfirst, htype, hshort⟩ C config msg transportMac d d' sent rfl hhandle
  rw [Device.handle_eq] at hhandle
  obtain ⟨found, hdispatch, hcall⟩ := ok_of_bind hhandle
  cases found with
  | none =>
    cases hcall
    rfl
  | some handler =>
    obtain ⟨service, hservice, hsome⟩ := dispatch_eq_some hdispatch
    rw [Handler.ofService_eq_some.mp hsome] at hservice
    obtain ⟨first', hfirst', htype'⟩ := pduType_eq hservice
    obtain rfl := Option.some.inj (hfirst.symm.trans hfirst')
    have hcode : handler.service = (0x00, handler.service.2) :=
      Prod.ext (htype'.symm.trans htype) rfl
    obtain ⟨first', hfirst', -, htaken⟩ := (dispatch_confirmed_iff hcode).mp hdispatch
    obtain rfl := Option.some.inj (hfirst.symm.trans hfirst')
    exact absurd ⟨first, handler, _, hfirst, htype, hshort, hcode, htaken⟩ h

/-- Handlers are called for the service choice of a whole header, and truncated
requests stay unanswered, exactly if the octet that stands in for a missing
service choice is not the number of a service. -/
theorem dispatch_reads_service_iff (apdu : Octets) :
    (ReadsService apdu ∧ Unanswered apdu) ↔ ¬ Mistaken apdu := by
  constructor
  · intro h
    exact readsService_iff.mp h.1
  · intro h
    exact ⟨readsService_iff.mpr h, unanswered_of_not_mistaken h⟩

/-- Three octets of a request, the second of which says how long an answer may be:
they are taken for a SubscribeCOV and acknowledged. -/
theorem truncated_request_is_acknowledged :
    dispatch [0x00, 0x05, 0x01] = .ok (some .subscribeCov) ∧ Truncated [0x00, 0x05, 0x01] ∧
    ¬ ReadsService [0x00, 0x05, 0x01] ∧
    ∀ d : Device, ∃ npdu buf, d.handle .standard defaultDevice ⟨[0x00, 0x05, 0x01], [0x01], none⟩
      [0x01] = .ok (d, [.reply npdu buf]) ∧ npdu.payload = [0x20, 0x01, 0x05] := by
  have hmistaken : Mistaken [0x00, 0x05, 0x01] :=
    ⟨0x00, .subscribeCov, 0x05, rfl, rfl, by decide, rfl, rfl⟩
  refine ⟨rfl, ⟨0x00, rfl, rfl, by decide⟩, ?_, fun d => ⟨_, _, rfl, rfl⟩⟩
  intro hreads
  exact readsService_iff.mp hreads hmistaken

end BacnetBridge
