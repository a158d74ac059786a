import HakoPduRpc.Rpc.ServiceLayout

/-!
# Error replies and the request in flight

`poll` answers a request that it cannot accept with an error reply.  The reply
goes through `sendReply`, which ends whatever request the named client has in
flight.  This module says exactly when a packet leaves the requests of the
registered clients alone: when the client it names has none in flight, or when
the packet cancels the one it has.
-/

namespace HakoPduRpc
namespace Rpc

/-- What `poll` may do to the status of the client that a request names. -/
inductive RequestChange (header : ServiceRequestHeader) :
    ServerEventType → ServerProcessingStatus → ServerProcessingStatus → Prop
  | same (event : ServerEventType) (status : ServerProcessingStatus) :
      RequestChange header event status status
  | started {status : ServerProcessingStatus} (h : status.state = .idle) :
      RequestChange header .requestIn status ⟨header.requestId, .running⟩
  | cancelled {status : ServerProcessingStatus} (h : status.state = .running)
      (hid : status.requestId = header.requestId) :
      RequestChange header .requestCancel status
        { status with state := .cancelling }

theorem RequestChange.eq_of_none {header : ServiceRequestHeader}
    {before after : ServerProcessingStatus}
    (h : RequestChange header .none before after) : after = before := by
  cases h
  rfl

theorem RequestChange.inFlight {header : ServiceRequestHeader}
    {event : ServerEventType} {before after : ServerProcessingStatus}
    (h : RequestChange header event before after)
    (hbusy : before.state ≠ .idle) :
    after.requestId = before.requestId ∧ after.state ≠ .idle := by
  cases h with
  | same => exact ⟨rfl, hbusy⟩
  | started hidle => exact absurd hidle hbusy
  | cancelled => exact ⟨rfl, by simp⟩

namespace ServerProcessingStatus

/-- The client has no request in flight, or it is `RUNNING` and the packet is
the valid `CANCEL` of that request. -/
def Harmless (valid : Bool) (header : ServiceRequestHeader)
    (status : ServerProcessingStatus) : Prop :=
  status.state = .idle ∨
    status.state = .running ∧ valid = true ∧
      header.opcode = operationCancel ∧ status.requestId = header.requestId

variable {valid : Bool} {header : ServiceRequestHeader}
  {status : ServerProcessingStatus}

theorem receive_of_harmless (h : status.Harmless valid header) :
    RequestChange header (status.receive valid header).2 status
      (status.receive valid header).1 := by
  obtain hidle | ⟨hrunning, rfl, hopcode, hid⟩ := h
  · cases valid with
    | false =>
        have hsame : status.receive false header = (status, .none) := by
          simp [receive, replied, hidle]
        rw [hsame]
        exact .same _ _
    | true =>
        by_cases hopcode : header.opcode = operationCancel
        · have hsame : status.receive true header = (status, .none) := by
            simp [receive, hidle, hopcode]
          rw [hsame]
          exact .same _ _
        · have hstarted : status.receive true header =
              (⟨header.requestId, .running⟩, .requestIn) := by
            simp [receive, hidle, hopcode]
          rw [hstarted]
          exact .started hidle
  · have hcancelled : status.receive true header =
        ({ status with state := .cancelling }, .requestCancel) := by
      simp [receive, hrunning, hopcode, hid]
    rw [hcancelled]
    exact .cancelled hrunning hid

theorem receive_of_not_harmless (h : ¬status.Harmless valid header) :
    status.receive valid header = (⟨0, .idle⟩, .none) := by
  have hbusy : status.state ≠ .idle := fun hidle => h (Or.inl hidle)
  have hreplied : status.replied = ⟨0, .idle⟩ := if_neg hbusy
  cases valid with
  | false => simp [receive, hreplied]
  | true =>
      cases hstate : status.state with
      | idle => exact absurd hstate hbusy
      | running =>
          by_cases hopcode : header.opcode = operationCancel
          · have hid : status.requestId ≠ header.requestId := by
              intro hid
              exact h (Or.inr ⟨hstate, rfl, hopcode, hid⟩)
            simp [receive, hstate, hreplied, hopcode, hid]
          · simp [receive, hstate, hreplied, hopcode]
      | cancelling => simp [receive, hstate, hreplied]

end ServerProcessingStatus

namespace RpcServerEndpointImpl

variable {C : RpcConvertors} {net : PduEndpoint} {s : RpcServerEndpointImpl}

theorem sendReply_effects_ne_nil_iff {clientName : String} {pdu : PduData} :
    (s.sendReply net clientName pdu).effects ≠ [] ↔
      ∃ status, s.status clientName = some status ∧ status.state ≠ .idle := by
  rw [sendReply]
  cases hstatus : s.status clientName with
  | none => simp
  | some status =>
      by_cases hidle : status.state = .idle
      · simp [hidle]
      · simp [hidle, finish]

/-- Only a request that is not reported is answered by `poll`. -/
theorem dispatch_event_of_effects {request : RpcRequest}
    (h : (dispatch C net s request).effects ≠ []) :
    (dispatch C net s request).result.1 = .none := by
  revert h
  rw [dispatch]
  split
  · exact fun _ => rfl
  · split
    · exact fun _ => rfl
    · split
      · rw [handleCancelRequest]
        split
        · split
          · exact fun _ => rfl
          · exact fun h => absurd rfl h
        · exact fun _ => rfl
        · exact fun _ => rfl
      · rw [handleRequestIn]
        split
        · exact fun h => absurd rfl h
        · exact fun _ => rfl
        · exact fun _ => rfl

/-- For a `CANCEL` of a known client the header check looks at the service name
only. -/
theorem validateHeader_cancel (hinv : s.Invariant)
    {header : ServiceRequestHeader} (hopcode : header.opcode = operationCancel)
    (hknown : (s.status header.clientName).isSome) :
    (s.validateHeader net header).2 = true ↔
      header.serviceName = s.serviceName := by
  unfold validateHeader ensureDynamicClient
  by_cases hname : header.serviceName = s.serviceName
  · have hregistered := hinv.registered _ hknown
    by_cases hdynamic : s.dynamicClient = true
    · simp [hname, hdynamic, hinv.named hdynamic _ hknown, hknown]
    · simp [hname, hdynamic, hregistered, hopcode, operationCancel,
        operationNum]
  · simp [hname]

/-! ## When a packet is harmless -/

/-- A request with this header leaves the requests in flight alone: it names a
client without one, or it is the `CANCEL` of the request that the client is
`RUNNING`. -/
def HarmlessHeader (s : RpcServerEndpointImpl)
    (header : ServiceRequestHeader) : Prop :=
  ∀ status, s.status header.clientName = some status →
    status.state = .idle ∨
      status.state = .running ∧ header.serviceName = s.serviceName ∧
        header.opcode = operationCancel ∧ status.requestId = header.requestId

/-- The oldest packet is harmless. -/
def Harmless (C : RpcConvertors) (s : RpcServerEndpointImpl)
    (request : RpcRequest) : Prop :=
  ∀ pdu ∈ s.pendingRequests.head?,
    s.HarmlessHeader (C.request.pdu2cpp pdu request.header)

/-- `poll` does not disturb a request in flight: it starts a request of an idle
client or marks the running one as cancelled, and when it answers with an error
reply, or reports nothing, every registered client is as before and can be
answered as before. -/
structure Undisturbing (C : RpcConvertors) (net : PduEndpoint)
    (s : RpcServerEndpointImpl) (request : RpcRequest) : Prop where
  changes : ∀ c before, s.status c = some before →
    ∃ after, (s.poll C net request).state.status c = some after ∧
      (after = before ∨
        c = (s.poll C net request).result.2.header.clientName ∧
          RequestChange (s.poll C net request).result.2.header
            (s.poll C net request).result.1 before after)
  errors : (s.poll C net request).effects ≠ [] →
    (s.poll C net request).result.1 = .none ∧
      ∀ c before, s.status c = some before →
        (s.poll C net request).state.status c = some before
  answerable : (s.poll C net request).result.1 = .none →
    ∀ net' c pdu, (s.sendReply net' c pdu).effects ≠ [] →
      ((s.poll C net request).state.sendReply net' c pdu).effects ≠ []

theorem harmlessHeader_iff (hinv : s.Invariant) (net : PduEndpoint)
    (header : ServiceRequestHeader) :
    s.HarmlessHeader header ↔
      ∀ status, s.status header.clientName = some status →
        status.Harmless (s.validateHeader net header).2 header := by
  refine forall₂_congr fun status hstatus => ?_
  have hknown : (s.status header.clientName).isSome := by simp [hstatus]
  rw [ServerProcessingStatus.Harmless]
  constructor
  · rintro (hidle | ⟨hrunning, hname, hopcode, hid⟩)
    · exact Or.inl hidle
    · exact Or.inr ⟨hrunning,
        (validateHeader_cancel hinv hopcode hknown).mpr hname, hopcode, hid⟩
  · rintro (hidle | ⟨hrunning, hvalid, hopcode, hid⟩)
    · exact Or.inl hidle
    · have hname := (validateHeader_cancel hinv hopcode hknown).mp hvalid
      exact Or.inr ⟨hrunning, hname, hopcode, hid⟩

/-- A packet changes the registered clients only as `RequestChange` allows, or
it ends the request of the client that it names. -/
theorem dispatch_change (request : RpcRequest)
    {c : String} {before : ServerProcessingStatus}
    (hc : s.status c = some before)
    (hharmless : ∀ status,
      s.status request.header.clientName = some status →
        status.Harmless (s.validateHeader net request.header).2
          request.header) :
    ∃ after, (dispatch C net s request).state.status c = some after ∧
      (after = before ∨ c = request.header.clientName ∧
        RequestChange request.header (dispatch C net s request).result.1
          before after) := by
  by_cases hname : c = request.header.clientName
  · subst hname
    obtain ⟨hstatus, hevent⟩ := dispatch_status C net s request hc
    refine ⟨_, hstatus, Or.inr ⟨rfl, ?_⟩⟩
    rw [hevent]
    exact ServerProcessingStatus.receive_of_harmless (hharmless before hc)
  · refine ⟨before, ?_, Or.inl rfl⟩
    rw [dispatch_status_of_ne C net s request hname, hc]

theorem poll_changes (net : PduEndpoint) (hinv : s.Invariant)
    {request : RpcRequest} (h : s.Harmless C request) {c : String}
    {before : ServerProcessingStatus} (hc : s.status c = some before) :
    ∃ after, (s.poll C net request).state.status c = some after ∧
      (after = before ∨
        c = (s.poll C net request).result.2.header.clientName ∧
          RequestChange (s.poll C net request).result.2.header
            (s.poll C net request).result.1 before after) := by
  cases hqueue : s.pendingRequests with
  | nil =>
      rw [poll_nil hqueue]
      exact ⟨before, hc, Or.inl rfl⟩
  | cons pdu rest =>
      have hheader : s.HarmlessHeader
          (C.request.pdu2cpp pdu request.header) := h pdu (by simp [hqueue])
      have hrest : ({ s with pendingRequests := rest } :
          RpcServerEndpointImpl).Invariant := ⟨hinv.registered, hinv.named⟩
      rw [poll_cons hqueue, dispatch_header]
      exact dispatch_change _ hc
        ((harmlessHeader_iff hrest net _).mp hheader)

/-- A `poll` without an event leaves every registered client as it was. -/
theorem poll_quiet (hinv : s.Invariant) {request : RpcRequest}
    (h : s.Harmless C request)
    (hnone : (s.poll C net request).result.1 = .none) {c : String}
    {before : ServerProcessingStatus} (hc : s.status c = some before) :
    (s.poll C net request).state.status c = some before := by
  obtain ⟨after, hafter, rfl | ⟨-, hchange⟩⟩ :=
    poll_changes net hinv h hc
  · exact hafter
  · rw [hnone] at hchange
    rw [hafter, hchange.eq_of_none]

theorem undisturbing_of_harmless (hinv : s.Invariant) {request : RpcRequest}
    (h : s.Harmless C request) : Undisturbing C net s request := by
  constructor
  · intro c before hc
    exact poll_changes net hinv h hc
  · intro heffects
    have hnone : (s.poll C net request).result.1 = .none := by
      cases hqueue : s.pendingRequests with
      | nil => rw [poll_nil hqueue]
      | cons pdu rest =>
          rw [poll_cons hqueue] at heffects ⊢
          exact dispatch_event_of_effects heffects
    exact ⟨hnone, fun c before hc => poll_quiet hinv h hnone hc⟩
  · intro hnone net' c pdu hsent
    rw [sendReply_effects_ne_nil_iff] at hsent ⊢
    obtain ⟨status, hstatus, hbusy⟩ := hsent
    exact ⟨status, poll_quiet hinv h hnone hstatus, hbusy⟩

/-- A packet that is not harmless ends the request of the client that it
names. -/
theorem harmless_of_undisturbing (hinv : s.Invariant) {request : RpcRequest}
    (h : Undisturbing C net s request) : s.Harmless C request := by
  intro pdu hpdu
  obtain ⟨rest, hqueue⟩ : ∃ rest, s.pendingRequests = pdu :: rest := by
    rw [Option.mem_def, List.head?_eq_some_iff] at hpdu
    exact hpdu
  have hrest : ({ s with pendingRequests := rest } :
      RpcServerEndpointImpl).Invariant := ⟨hinv.registered, hinv.named⟩
  change ({ s with pendingRequests := rest } :
    RpcServerEndpointImpl).HarmlessHeader _
  rw [harmlessHeader_iff hrest net]
  intro status hstatus
  by_contra hharm
  obtain ⟨hafter, hevent⟩ := dispatch_status C net
    { s with pendingRequests := rest }
    { request with
      pdu := pdu
      header := C.request.pdu2cpp pdu request.header } hstatus
  rw [ServerProcessingStatus.receive_of_not_harmless hharm] at hafter hevent
  rw [← poll_cons hqueue] at hafter hevent
  obtain ⟨after, hstate, hchange⟩ := h.changes _ status hstatus
  have hsame : after = status := by
    obtain hsame | ⟨-, hchange⟩ := hchange
    · exact hsame
    · rw [hevent] at hchange
      exact hchange.eq_of_none
  rw [hafter, hsame, Option.some.injEq] at hstate
  apply hharm
  left
  rw [← hstate]

/-! ## Requests in flight along a run -/

/-- A step that neither disturbs nor answers the request of `c`. -/
def Spares (C : RpcConvertors) (c : String) (s : RpcServerEndpointImpl) :
    Input → Prop
  | .poll _ request => s.Harmless C request
  | .sendReply _ clientName _ => c ≠ clientName
  | .sendCancelReply _ clientName _ => c ≠ clientName
  | .receive _ => True
  | .clearPendingRequests => True

/-- The request `requestId` of `c` is in flight. -/
def InFlight (s : RpcServerEndpointImpl) (c : String) (requestId : UInt32) :
    Prop :=
  ∃ status, s.status c = some status ∧ status.requestId = requestId ∧
    status.state ≠ .idle

theorem InFlight.step (hinv : s.Invariant) {c : String} {requestId : UInt32}
    (h : s.InFlight c requestId) {i : Input} (hi : Spares C c s i) :
    ((machine C).step s i).1.InFlight c requestId := by
  obtain ⟨before, hbefore, hid, hbusy⟩ := h
  cases i with
  | receive pdu => exact ⟨before, hbefore, hid, hbusy⟩
  | clearPendingRequests => exact ⟨before, hbefore, hid, hbusy⟩
  | sendReply net clientName pdu =>
      have hsame := (sendReply_writes net s clientName pdu).status_of_ne hi
      exact ⟨before, hsame.trans hbefore, hid, hbusy⟩
  | sendCancelReply net clientName pdu =>
      have hsame := (sendCancelReply_writes net s clientName pdu).status_of_ne
        hi
      exact ⟨before, hsame.trans hbefore, hid, hbusy⟩
  | poll net request =>
      obtain ⟨after, hafter, hchange⟩ :=
        poll_changes net hinv hi hbefore
      rcases hchange with rfl | ⟨-, hchange⟩
      · exact ⟨after, hafter, hid, hbusy⟩
      · obtain ⟨hsame, hstill⟩ := hchange.inFlight hbusy
        exact ⟨after, hafter, hsame.trans hid, hstill⟩

/-- A request in flight stays in flight until it is answered, as long as every
packet polled is harmless. -/
theorem InFlight.run (hinv : s.Invariant) {c : String} {requestId : UInt32}
    (h : s.InFlight c requestId) {is : List Input}
    (his : (machine C).Along (Spares C c) s is) :
    ((machine C).run s is).InFlight c requestId := by
  have hrun := (machine C).invariant
    (I := fun s => s.Invariant ∧ s.InFlight c requestId)
    (fun s i hi hs => ⟨hs.1.step i, hs.2.step hs.1 hi⟩) ⟨hinv, h⟩ his
  exact hrun.2

end RpcServerEndpointImpl

open RpcServerEndpointImpl in
/-- In every reachable state, `poll` leaves the requests in flight alone exactly
when the oldest packet is harmless; and a request in flight survives every run
whose packets are all harmless, until it is answered. -/
theorem error_replies_spare_requests_iff (C : RpcConvertors)
    (serviceName : String) (config : ServiceConfig)
    (clientNodeId : Option String) (is : List RpcServerEndpointImpl.Input) :
    let s := (RpcServerEndpointImpl.machine C).run
      (initializeService serviceName config clientNodeId) is
    (∀ net request, Undisturbing C net s request ↔ s.Harmless C request) ∧
      ∀ c requestId js, s.InFlight c requestId →
        (RpcServerEndpointImpl.machine C).Along (Spares C c) s js →
        ((RpcServerEndpointImpl.machine C).run s js).InFlight c requestId := by
  intro s
  have hinv : s.Invariant :=
    invariant_run serviceName config clientNodeId is
  constructor
  · intro net request
    exact ⟨harmless_of_undisturbing hinv, undisturbing_of_harmless hinv⟩
  · intro c requestId js h hjs
    exact h.run hinv hjs

open RpcServerEndpointImpl ServiceLayout in
/-- A second request while the first one is running: the `BUSY` reply makes the
client `IDLE`, and the reply to the first request is refused. -/
theorem overlappingRequest_disturbs :
    ¬∀ (is : List RpcServerEndpointImpl.Input) (net : PduEndpoint)
        (request : RpcRequest),
      Undisturbing layoutConvertors net
        ((RpcServerEndpointImpl.machine layoutConvertors).run
          (initializeService "Add" serviceConfig none) is) request := by
  intro h
  have hdisturb := (h [.receive (servicePacket 1 operationRequest),
    .poll sampleNet emptyRequest,
    .receive (servicePacket 2 operationRequest)] sampleNet
      emptyRequest).answerable (by decide +kernel) sampleNet "Client" []
  revert hdisturb
  decide +kernel

end Rpc
end HakoPduRpc
