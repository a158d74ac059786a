import HakoPduRpc.Rpc.CInterface

/-!
# Whose request an event describes

`poll` fills one `RpcRequest` object piece by piece: every packet that is taken
from a queue leaves its bytes and its header there, whether it is reported or
not, and `client_name` is written by `handle_request_in` only.  This module finds
the packet that decides the event, and says when the object that the caller gets
describes this packet: when its header is read independently of what the object
held before, and, for a cancel request, when the object held the name of the same
client already.
-/

namespace HakoPduRpc
namespace Rpc

/-! ## The packet that decides -/

namespace RpcServerEndpointImpl

/-- What `poll` reports of a packet with this header. -/
def reports (net : PduEndpoint) (s : RpcServerEndpointImpl)
    (header : ServiceRequestHeader) : ServerEventType :=
  match s.validateHeader net header with
  | (_, false) => .none
  | (s, true) =>
      match s.status header.clientName with
      | none => .none
      | some status =>
          if header.opcode = operationCancel then
            if status.state = .running ∧ status.requestId = header.requestId then
              .requestCancel
            else .none
          else if status.state = .idle then .requestIn
          else .none

/-- The request that the caller is left with. -/
theorem dispatch_result (C : RpcConvertors) (net : PduEndpoint)
    (s : RpcServerEndpointImpl) (request : RpcRequest) :
    (dispatch C net s request).result =
      (s.reports net request.header,
        if s.reports net request.header ≠ .none ∧
            request.header.opcode ≠ operationCancel then
          { request with clientName := request.header.clientName }
        else request) := by
  rcases hvalid : s.validateHeader net request.header with ⟨s', _ | _⟩
  · simp [dispatch, reports, hvalid, unreported]
  · cases hstatus : s'.status request.header.clientName with
    | none => simp [dispatch, reports, hvalid, hstatus, unreported]
    | some status =>
        by_cases hcancel : request.header.opcode = operationCancel
        · cases hstate : status.state with
          | running =>
              by_cases hid : status.requestId = request.header.requestId <;>
                simp [dispatch, reports, hvalid, hstatus, hcancel,
                  handleCancelRequest, hstate, hid, unreported]
          | idle =>
              simp [dispatch, reports, hvalid, hstatus, hcancel,
                handleCancelRequest, hstate]
          | cancelling =>
              simp [dispatch, reports, hvalid, hstatus, hcancel,
                handleCancelRequest, hstate, unreported]
        · cases hstate : status.state <;>
            simp [dispatch, reports, hvalid, hstatus, hcancel, handleRequestIn,
              hstate, unreported]

end RpcServerEndpointImpl

/-- The request that is handed out for a packet: `old` is what the header object
held before the packet was read, `clientName` the name in the request object. -/
def handed (C : RpcConvertors) (clientName : String) (pdu : PduData)
    (old : ServiceRequestHeader) : RpcRequest :=
  let header := C.request.pdu2cpp pdu old
  { clientName :=
      if header.opcode = operationCancel then clientName else header.clientName
    header := header
    pdu := pdu }

/-- The request of an event other than `NONE`. -/
def reportedRequest (result : ServerEventType × RpcRequest) :
    Option RpcRequest :=
  if result.1 = .none then none else some result.2

namespace RpcServicesServer

/-- The packet that decides what `poll` reports, and the header object as it was
before the packet was read. -/
def decidingOf (C : RpcConvertors) (net : String → PduEndpoint) :
    List (String × RpcServerEndpointImpl) → ServiceRequestHeader →
      Option (PduData × ServiceRequestHeader)
  | [], _ => none
  | (name, endpoint) :: rest, old =>
      match endpoint.pendingRequests with
      | [] => decidingOf C net rest old
      | pdu :: queue =>
          let header := C.request.pdu2cpp pdu old
          if { endpoint with pendingRequests := queue }.reports (net name)
              header ≠ .none then
            some (pdu, old)
          else decidingOf C net rest header

def deciding (C : RpcConvertors) (net : String → PduEndpoint)
    (s : RpcServicesServer) (old : ServiceRequestHeader) :
    Option (PduData × ServiceRequestHeader) :=
  decidingOf C net s.rpcEndpoints.entries old

theorem pollEndpoints_handed (C : RpcConvertors) (net : String → PduEndpoint)
    (l : List (String × RpcServerEndpointImpl)) (request : RpcRequest) :
    reportedRequest (pollEndpoints C net l request).result =
      (decidingOf C net l request.header).map fun d =>
        handed C request.clientName d.1 d.2 := by
  induction l generalizing request with
  | nil => rfl
  | cons e rest ih =>
      obtain ⟨name, endpoint⟩ := e
      rw [pollEndpoints, decidingOf]
      dsimp only
      cases hqueue : endpoint.pendingRequests with
      | nil =>
          rw [RpcServerEndpointImpl.poll_nil hqueue]
          dsimp only
          rw [if_neg (not_not_intro rfl)]
          exact ih request
      | cons pdu queue =>
          rw [RpcServerEndpointImpl.poll_cons hqueue,
            RpcServerEndpointImpl.dispatch_result]
          dsimp only
          by_cases hevent : RpcServerEndpointImpl.reports (net name)
              { endpoint with pendingRequests := queue }
              (C.request.pdu2cpp pdu request.header) = .none
          · rw [if_neg (not_not_intro hevent), if_neg (not_not_intro hevent),
              if_neg (fun h => h.1 hevent)]
            exact ih _
          · rw [if_pos hevent, if_pos hevent, reportedRequest, if_neg hevent]
            by_cases hcancel : (C.request.pdu2cpp pdu request.header).opcode =
                operationCancel
            · simp [handed, hcancel]
            · simp [handed, hcancel, hevent]

theorem poll_handed (C : RpcConvertors) (net : String → PduEndpoint)
    (s : RpcServicesServer) (request : RpcRequest) :
    reportedRequest (s.poll C net request).result =
      (s.deciding C net request.header).map fun d =>
        handed C request.clientName d.1 d.2 :=
  pollEndpoints_handed C net s.rpcEndpoints.entries request

end RpcServicesServer

namespace RpcServicesMuxServer

variable (C : RpcConvertors)

/-- The packet that decides what the loop of `poll` over the slots reports, and
the place of its slot. -/
def decidingSlot (env : ℕ → SlotEnv) (s : RpcServicesMuxServer) :
    List ℕ → Option (ℕ × PduData × ServiceRequestHeader)
  | [] => none
  | i :: rest =>
      let s := s.transportAll (env i).before
      match s.slots[i]? with
      | none => none
      | some slot =>
          match slot.server.deciding C (env i).net (env i).candidate.header with
          | some d => some (i, d)
          | none => decidingSlot env s rest

/-- The slots when `poll` comes to its loop over them. -/
def scanned (env : PollEnv) (s : RpcServicesMuxServer) (capacity : ℕ) :
    RpcServicesMuxServer :=
  ((acceptNewConnections capacity s env.arrivals).1.transportAll
    env.beforeFirstPass).cleanupDisconnected.1

/-- The packet that decides what `poll` reports. -/
def deciding (s : RpcServicesMuxServer) (env : PollEnv) :
    Option (ℕ × PduData × ServiceRequestHeader) :=
  if ¬s.started then none
  else
    s.mux.bind fun capacity =>
      decidingSlot C env.slot (scanned env s capacity)
        (List.range (scanned env s capacity).slots.length)

variable {C} {s t : RpcServicesMuxServer}

/-- The transport does the same to slots that are the same. -/
theorem getElem?_transportAll {i : ℕ} (h : s.slots[i]? = t.slots[i]?)
    (events : List TransportEvent) :
    (s.transportAll events).slots[i]? = (t.transportAll events).slots[i]? := by
  induction events generalizing s t with
  | nil => exact h
  | cons event events ih =>
      apply ih
      cases event with
      | receive slot serviceName pdu =>
          change (s.slots.modify slot _)[i]? = (t.slots.modify slot _)[i]?
          rw [List.getElem?_modify, List.getElem?_modify, h]
      | disconnect slot =>
          change (s.slots.modify slot _)[i]? = (t.slots.modify slot _)[i]?
          rw [List.getElem?_modify, List.getElem?_modify, h]

/-- Polling a slot does not touch those that are still to be polled. -/
theorem pollSlots_handed (env : ℕ → SlotEnv) {is : List ℕ} (his : is.Nodup)
    (hsame : ∀ i ∈ is, s.slots[i]? = t.slots[i]?) :
    (pollSlots C env s is).result.map (·.2.request) =
      (decidingSlot C env t is).map fun d =>
        handed C (env d.1).candidate.clientName d.2.1 d.2.2 := by
  induction is generalizing s t with
  | nil => rfl
  | cons i rest ih =>
      have hnodup := List.nodup_cons.mp his
      have hmoved : ∀ j ∈ i :: rest,
          (s.transportAll (env i).before).slots[j]? =
            (t.transportAll (env i).before).slots[j]? :=
        fun j hj => getElem?_transportAll (hsame j hj) _
      rw [pollSlots, decidingSlot]
      dsimp only
      rw [← hmoved i (List.mem_cons_self ..)]
      cases hslot : (s.transportAll (env i).before).slots[i]? with
      | none => rfl
      | some slot =>
          dsimp only
          have hpoll := RpcServicesServer.poll_handed C (env i).net slot.server
            (env i).candidate
          unfold reportedRequest at hpoll
          by_cases hevent : (slot.server.poll C (env i).net
              (env i).candidate).result.1 = .none
          · rw [if_pos hevent] at hpoll
            rw [if_neg (not_not_intro hevent),
              Option.map_eq_none_iff.mp hpoll.symm]
            refine ih hnodup.2 ?_
            intro j hj
            have hne : i ≠ j := fun h => hnodup.1 (h ▸ hj)
            rw [← hmoved j (List.mem_cons_of_mem _ hj)]
            exact List.getElem?_set_ne hne
          · rw [if_neg hevent] at hpoll
            rw [if_pos hevent]
            obtain ⟨d, hdeciding, hhanded⟩ :=
              Option.map_eq_some_iff.mp hpoll.symm
            rw [hdeciding]
            exact congrArg some hhanded.symm

theorem poll_handed (s : RpcServicesMuxServer) (env : PollEnv) :
    (s.poll C env).result.map (·.2.request) =
      (s.deciding C env).map fun d =>
        handed C (env.slot d.1).candidate.clientName d.2.1 d.2.2 := by
  rw [poll, deciding]
  by_cases hstarted : s.started = true
  · rw [if_neg (not_not_intro hstarted), if_neg (not_not_intro hstarted)]
    cases hmux : s.mux with
    | none => rfl
    | some capacity =>
        dsimp only
        have hscan := @pollSlots_handed C (scanned env s capacity)
          (scanned env s capacity) env.slot
          (List.range (scanned env s capacity).slots.length) List.nodup_range
          (fun _ _ => rfl)
        rw [Option.bind_some, ← hscan]
        split_ifs with hreport
        · rfl
        · rw [Option.not_isSome_iff_eq_none] at hreport
          exact (congrArg (Option.map _) hreport).symm
  · rw [if_pos hstarted, if_pos hstarted]
    rfl

end RpcServicesMuxServer

/-! ## What the object describes -/

/-- All of the request belongs to one packet. -/
structure Describes (C : RpcConvertors) (request : RpcRequest) (pdu : PduData) :
    Prop where
  pdu_eq : request.pdu = pdu
  header : C.request.Carries pdu request.header
  clientName : request.clientName = request.header.clientName

/-- The packet determines the header that is read from it, and a cancel request
comes with the name of its client in the request object. -/
def Determines (C : RpcConvertors) (clientName : String) (pdu : PduData)
    (old : ServiceRequestHeader) : Prop :=
  C.request.Carries pdu (C.request.pdu2cpp pdu old) ∧
    ((C.request.pdu2cpp pdu old).opcode = operationCancel →
      clientName = (C.request.pdu2cpp pdu old).clientName)

section Describes

variable {C : RpcConvertors} {clientName : String} {pdu : PduData}
  {old : ServiceRequestHeader}

theorem describes_handed_iff :
    Describes C (handed C clientName pdu old) pdu ↔
      Determines C clientName pdu old := by
  constructor
  · intro h
    refine ⟨h.header, fun hcancel => ?_⟩
    have hname := h.clientName
    rwa [handed, if_pos hcancel] at hname
  · rintro ⟨hcarries, hname⟩
    refine ⟨rfl, hcarries, ?_⟩
    rw [handed]
    split_ifs with hcancel
    · exact hname hcancel
    · rfl

end Describes

/-- The C record belongs to one packet. -/
def InfoDescribes (C : RpcConvertors) (info : RequestInfo) (pdu : PduData) :
    Prop :=
  ∃ header, C.request.Carries pdu header ∧
    info.serviceName = copyName header.serviceName ∧
    info.clientName = copyName header.clientName ∧ info.pduSize = pdu.length

/-- The same for the C record, which holds the first bytes of a name. -/
def InfoDetermines (C : RpcConvertors) (clientName : String) (pdu : PduData)
    (old : ServiceRequestHeader) : Prop :=
  C.request.Carries pdu (C.request.pdu2cpp pdu old) ∧
    ((C.request.pdu2cpp pdu old).opcode = operationCancel →
      copyName clientName = copyName (C.request.pdu2cpp pdu old).clientName)

theorem infoDescribes_handed_iff {C : RpcConvertors} {clientName : String}
    {pdu : PduData} {old : ServiceRequestHeader} (token : UInt64)
    (event : ServerEventType) :
    InfoDescribes C
        (serverReporting.info ⟨token, event, handed C clientName pdu old⟩) pdu ↔
      InfoDetermines C clientName pdu old := by
  constructor
  · rintro ⟨header, hcarries, -, hname, -⟩
    obtain rfl : C.request.pdu2cpp pdu old = header := hcarries old
    refine ⟨hcarries, fun hcancel => ?_⟩
    have hsame : (handed C clientName pdu old).clientName = clientName :=
      if_pos hcancel
    rw [← hname]
    change _ = copyName (handed C clientName pdu old).clientName
    rw [hsame]
  · rintro ⟨hcarries, hname⟩
    refine ⟨_, hcarries, rfl, ?_, rfl⟩
    change copyName (handed C clientName pdu old).clientName = _
    by_cases hcancel : (C.request.pdu2cpp pdu old).opcode = operationCancel
    · have hsame : (handed C clientName pdu old).clientName = clientName :=
        if_pos hcancel
      rw [hsame, hname hcancel]
    · have hsame : (handed C clientName pdu old).clientName =
          (C.request.pdu2cpp pdu old).clientName := if_neg hcancel
      rw [hsame]

/-- The record is written from what the services reported. -/
theorem Reporting.finish_info {σ ε τ ι : Type} {P : Reporting ε τ ι} {state : σ}
    {delivery : Delivery} {reported : Option ε} {info : ι}
    (h : (P.finish state delivery reported).result.info = some info) :
    ∃ report, reported = some report ∧ P.info report = info := by
  cases reported with
  | none => cases h
  | some report =>
      rw [finish] at h
      dsimp only at h
      split_ifs at h
      exact ⟨report, rfl, Option.some.inj h⟩

theorem RpcServerHandle.reported_handed {C : RpcConvertors}
    {h : RpcServerHandle} {net : String → PduEndpoint} {request : RpcRequest}
    {report : ServerReport} (hreport : h.reported C net request = some report) :
    ∃ d, h.rpc.deciding C net request.header = some d ∧
      report.request = handed C request.clientName d.1 d.2 := by
  have hpoll := RpcServicesServer.poll_handed C net h.rpc request
  rw [RpcServerHandle.reported] at hreport
  unfold reportedRequest at hpoll
  split_ifs at hreport with hevent
  rw [if_neg hevent] at hpoll
  obtain ⟨d, hdeciding, hhanded⟩ := Option.map_eq_some_iff.mp hpoll.symm
  refine ⟨d, hdeciding, ?_⟩
  rw [← Option.some.inj hreport, hhanded]

theorem RpcMuxServerHandle.reported_handed {C : RpcConvertors}
    {h : RpcMuxServerHandle} {rpc : RpcServicesMuxServer} {env : PollEnv}
    {report : ServerReport} (hreport : h.reported C rpc env = some report) :
    ∃ d, rpc.deciding C env = some d ∧
      report.request =
        handed C (env.slot d.1).candidate.clientName d.2.1 d.2.2 := by
  obtain ⟨result, hresult, rfl⟩ := Option.map_eq_some_iff.mp hreport
  have hpoll := RpcServicesMuxServer.poll_handed (C := C) rpc env
  rw [hresult] at hpoll
  obtain ⟨d, hdeciding, hhanded⟩ := Option.map_eq_some_iff.mp hpoll.symm
  exact ⟨d, hdeciding, hhanded.symm⟩

/-- What `poll` reports of a server or of a multiplexed server, and the record
that the C interface writes of it, describe the packet that decided the event
exactly when this packet determines its header and, for a cancel request, the
request object held the name of its client already. -/
theorem event_describes_its_packet_iff (C : RpcConvertors) :
    (∀ (net : String → PduEndpoint) (s : RpcServicesServer)
      (request reported : RpcRequest),
      reportedRequest (s.poll C net request).result = some reported →
        ∃ d, s.deciding C net request.header = some d ∧
          (Describes C reported d.1 ↔
            Determines C request.clientName d.1 d.2)) ∧
      (∀ (s : RpcServicesMuxServer) (env : PollEnv) (event : ServerEventType)
        (reported : RpcMuxRequest),
        (s.poll C env).result = some (event, reported) →
          ∃ d, s.deciding C env = some d ∧
            (Describes C reported.request d.2.1 ↔
              Determines C (env.slot d.1).candidate.clientName d.2.1 d.2.2)) ∧
      (∀ (h : RpcServerHandle) (net : String → PduEndpoint)
        (request : RpcRequest) (capacity : Option ℕ) (info : RequestInfo),
        (h.pollReturn C net request capacity).result.info = some info →
          ∃ d, h.rpc.deciding C net request.header = some d ∧
            (InfoDescribes C info d.1 ↔
              InfoDetermines C request.clientName d.1 d.2)) ∧
      ∀ (h : RpcMuxServerHandle) (env : PollEnv) (delivery : Delivery)
        (info : RequestInfo),
        (h.pollReturn C env delivery).result.info = some info →
          ∃ rpc d, h.rpc = some rpc ∧ rpc.deciding C env = some d ∧
            (InfoDescribes C info d.2.1 ↔
              InfoDetermines C (env.slot d.1).candidate.clientName d.2.1
                d.2.2) := by
  refine ⟨?_, ?_, ?_, ?_⟩
  · intro net s request reported hreported
    rw [RpcServicesServer.poll_handed] at hreported
    obtain ⟨d, hdeciding, rfl⟩ := Option.map_eq_some_iff.mp hreported
    exact ⟨d, hdeciding, describes_handed_iff⟩
  · intro s env event reported hreported
    have hpoll := RpcServicesMuxServer.poll_handed (C := C) s env
    rw [hreported] at hpoll
    obtain ⟨d, hdeciding, hhanded⟩ := Option.map_eq_some_iff.mp hpoll.symm
    refine ⟨d, hdeciding, ?_⟩
    rw [← describes_handed_iff]
    exact iff_of_eq (congrArg (fun r => Describes C r d.2.1) hhanded.symm)
  · intro h net request capacity info hinfo
    obtain ⟨⟨token, event, reported⟩, hreport, rfl⟩ := Reporting.finish_info hinfo
    obtain ⟨d, hdeciding, rfl⟩ := RpcServerHandle.reported_handed hreport
    exact ⟨d, hdeciding, infoDescribes_handed_iff token event⟩
  · intro h env delivery info hinfo
    rcases @RpcMuxServerHandle.pollReturn_cases C h env delivery with
      hcall | ⟨rpc, hrpc, hcall⟩
    · rw [hcall] at hinfo
      cases hinfo
    · rw [hcall] at hinfo
      obtain ⟨⟨token, event, reported⟩, hreport, rfl⟩ :=
        Reporting.finish_info hinfo
      obtain ⟨d, hdeciding, rfl⟩ := RpcMuxServerHandle.reported_handed hreport
      exact ⟨rpc, d, hrpc, hdeciding, infoDescribes_handed_iff token event⟩

section Sample

open ServiceLayout

/-- A server with a request of `"Client"` in progress, and the packet that
cancels it in its queue. -/
def cancelWaiting : RpcServicesServer :=
  (RpcServicesServer.poll layoutConvertors (fun _ => sampleNet)
    ((RpcServicesServer.initializeServices [("Add", serviceConfig)] none).receive
      "Add" (servicePacket 1 operationRequest)) emptyRequest).state.receive "Add"
    (servicePacket 1 operationCancel)

/-- With the name of the client in the request object, the cancel request is
described. -/
theorem cancelWaiting_named :
    Describes layoutConvertors
      (cancelWaiting.poll layoutConvertors (fun _ => sampleNet)
        { emptyRequest with clientName := "Client" }).result.2
      (servicePacket 1 operationCancel) := by
  obtain ⟨d, hdeciding, hiff⟩ := (event_describes_its_packet_iff
    layoutConvertors).1 (fun _ => sampleNet) cancelWaiting
      { emptyRequest with clientName := "Client" }
      ⟨"Client", ⟨1, "Add", "Client", operationCancel, 0⟩,
        servicePacket 1 operationCancel⟩ (by decide +kernel)
  have hd : cancelWaiting.deciding layoutConvertors (fun _ => sampleNet)
      emptyRequest.header =
        some (servicePacket 1 operationCancel, emptyRequest.header) := by
    decide +kernel
  obtain rfl := Option.some.inj (hdeciding.symm.trans hd)
  have hread : layoutConvertors.request.pdu2cpp (servicePacket 1 operationCancel)
      emptyRequest.header = ⟨1, "Add", "Client", operationCancel, 0⟩ := by
    decide +kernel
  have hresult : (cancelWaiting.poll layoutConvertors (fun _ => sampleNet)
      { emptyRequest with clientName := "Client" }).result.2 =
        ⟨"Client", ⟨1, "Add", "Client", operationCancel, 0⟩,
          servicePacket 1 operationCancel⟩ := by
    decide +kernel
  rw [hresult]
  refine hiff.mpr ⟨?_, fun _ => by rw [hread]⟩
  rw [hread]
  intro old
  have hlength : (List.replicate 300 (0 : UInt8)).length = 300 :=
    List.length_replicate
  refine requestConvertor_readsBack (by decide) ?_ ?_ _ old hlength
  · unfold Representable
    decide +kernel
  · unfold Representable
    decide +kernel

/-- The cancel request is reported without the name of its client. -/
theorem cancelWaiting_unnamed :
    ¬∀ (s : RpcServicesServer) (request reported : RpcRequest),
      reportedRequest
          (s.poll layoutConvertors (fun _ => sampleNet) request).result =
        some reported →
      reported.clientName = reported.header.clientName := by
  intro h
  have hname := h cancelWaiting emptyRequest
    ⟨"", ⟨1, "Add", "Client", operationCancel, 0⟩,
      servicePacket 1 operationCancel⟩ (by decide +kernel)
  revert hname
  decide +kernel

end Sample

end Rpc
end HakoPduRpc
