import HakoPduRpc.Lib.Machine
import HakoPduRpc.Rpc.Types

/-!
# The RPC server endpoint

`RpcServerEndpointImpl`: one service, its clients and the state of the one
request that each client may have in flight.  Requests wait in a queue filled by
the receive callback; `poll` takes the oldest one.

`poll` hands the request to the application, ignores it, or answers it with an
error reply.  An error reply is built by `createReplyBuffer` and sent by
`sendReply`, like a reply of the application.
-/

namespace HakoPduRpc
namespace Rpc

inductive ServerState
  | idle
  | running
  | cancelling
deriving DecidableEq, Repr

/-- `ServerProcessingStatus`. -/
structure ServerProcessingStatus where
  requestId : UInt32
  state : ServerState
deriving DecidableEq, Repr

/-- What is left of a request once a reply has been made, or was refused because
there is none. -/
def ServerProcessingStatus.replied (status : ServerProcessingStatus) :
    ServerProcessingStatus :=
  if status.state = .idle then status else ⟨0, .idle⟩

/-- What a request does to a client that has a status: the new status and the
event.  `valid` is the verdict of the header check. -/
def ServerProcessingStatus.receive (valid : Bool)
    (header : ServiceRequestHeader) (status : ServerProcessingStatus) :
    ServerProcessingStatus × ServerEventType :=
  if ¬valid then (status.replied, .none)
  else if header.opcode = operationCancel then
    match status.state with
    | .idle => (status, .none)
    | .running =>
        if status.requestId ≠ header.requestId then (status.replied, .none)
        else ({ status with state := .cancelling }, .requestCancel)
    | .cancelling => (status.replied, .none)
  else
    match status.state with
    | .idle => (⟨header.requestId, .running⟩, .requestIn)
    | .running => (status.replied, .none)
    | .cancelling => (status.replied, .none)

theorem ServerProcessingStatus.receive_inFlight {valid : Bool}
    {header : ServiceRequestHeader} {status : ServerProcessingStatus}
    (hbusy : (status.receive valid header).1.state ≠ .idle) :
    (status.receive valid header).2 = .requestIn ∧
        (status.receive valid header).1.requestId = header.requestId ∨
      (status.receive valid header).2 ≠ .requestIn ∧
        (status.receive valid header).1.requestId = status.requestId ∧
        status.state ≠ .idle := by
  have hreplied : status.replied.state = .idle := by
    unfold replied
    split_ifs with hidle
    · exact hidle
    · rfl
  unfold receive at hbusy ⊢
  split at hbusy
  · exact absurd hreplied hbusy
  · split at hbusy
    · cases hstate : status.state with
      | idle => simp [hstate] at hbusy
      | running =>
          by_cases hid : status.requestId = header.requestId
          · simp_all
          · simp [hstate, hid, hreplied] at hbusy
      | cancelling => simp [hstate, hreplied] at hbusy
    · cases hstate : status.state with
      | idle => simp_all
      | running => simp [hstate, hreplied] at hbusy
      | cancelling => simp [hstate, hreplied] at hbusy

/-- One client of a service configuration. -/
structure ServiceClientConfig where
  name : String
  nodeId : String

/-- What an RPC server endpoint reads of a service configuration. -/
structure ServiceConfig where
  maxClients : ℕ
  dynamicClient : Bool
  clients : List ServiceClientConfig

/-- `RpcServerEndpointImpl`. -/
structure RpcServerEndpointImpl where
  serviceName : String
  maxClients : ℕ
  dynamicClient : Bool
  registeredClients : List String
  serverStates : OrdMap String ServerProcessingStatus
  pendingRequests : List PduData

namespace RpcServerEndpointImpl

/-- A client is added, `IDLE` and with request id `0`. -/
def register (s : RpcServerEndpointImpl) (clientName : String) :
    RpcServerEndpointImpl :=
  { s with
    registeredClients := s.registeredClients ++ [clientName]
    serverStates := s.serverStates.assign clientName ⟨0, .idle⟩ }

/-- `RpcServerEndpointImpl::initialize`, for a configuration without errors. -/
def initializeService (serviceName : String) (config : ServiceConfig)
    (clientNodeId : Option String) : RpcServerEndpointImpl :=
  let start : RpcServerEndpointImpl :=
    { serviceName := serviceName
      maxClients := config.maxClients
      dynamicClient := config.dynamicClient
      registeredClients := []
      serverStates := .empty
      pendingRequests := [] }
  if config.dynamicClient then start
  else
    config.clients.foldl (fun s client =>
      if clientNodeId.any (client.nodeId ≠ ·) then s
      else s.register client.name) start

/-- `server_states_[client_name] = status` for a client that is present. -/
def setStatus (s : RpcServerEndpointImpl) (clientName : String)
    (status : ServerProcessingStatus) : RpcServerEndpointImpl :=
  { s with
    serverStates := s.serverStates.modify clientName fun _ => status }

/-- The state of a client's request. -/
def status (s : RpcServerEndpointImpl) (clientName : String) :
    Option ServerProcessingStatus :=
  s.serverStates.find? clientName

/-- `put_pending_request`. -/
def putPendingRequest (s : RpcServerEndpointImpl) (pdu : PduData) :
    RpcServerEndpointImpl :=
  { s with pendingRequests := s.pendingRequests ++ [pdu] }

/-- `clear_pending_requests`. -/
def clearPendingRequests (s : RpcServerEndpointImpl) :
    RpcServerEndpointImpl :=
  { s with pendingRequests := [] }

/-! ## Replies -/

/-- `create_reply_buffer`. -/
def createReplyBuffer (C : RpcConvertors) (net : PduEndpoint)
    (header : ServiceRequestHeader) (status : UInt8) (resultCode : Int32)
    (pdu : PduData) : PduData :=
  let key : PduKey := ⟨header.serviceName, header.clientName ++ "Res"⟩
  C.response.cpp2pdu
    { requestId := header.requestId
      serviceName := header.serviceName
      clientName := header.clientName
      status := status
      processingPercentage := 100
      resultCode := resultCode }
    (resize pdu (net.getPduSize key))

/-- The end of `send_reply` and `send_cancel_reply`: the client becomes `IDLE`,
and then the reply is sent. -/
def finish (net : PduEndpoint) (s : RpcServerEndpointImpl)
    (clientName : String) (pdu : PduData) :
    Outcome RpcServerEndpointImpl Sent Unit :=
  let key : PduKey := ⟨s.serviceName, clientName ++ "Res"⟩
  { state := s.setStatus clientName ⟨0, .idle⟩
    result := ()
    effects := [⟨key, pdu, net.send key pdu⟩] }

/-- `send_reply`. -/
def sendReply (net : PduEndpoint) (s : RpcServerEndpointImpl)
    (clientName : String) (pdu : PduData) :
    Outcome RpcServerEndpointImpl Sent Unit :=
  match s.status clientName with
  | none => { state := s, result := () }
  | some status =>
      if status.state = .idle then { state := s, result := () }
      else finish net s clientName pdu

/-- `send_cancel_reply`. -/
def sendCancelReply (net : PduEndpoint) (s : RpcServerEndpointImpl)
    (clientName : String) (pdu : PduData) :
    Outcome RpcServerEndpointImpl Sent Unit :=
  match s.status clientName with
  | none => { state := s, result := () }
  | some status =>
      if status.state ≠ .cancelling then { state := s, result := () }
      else finish net s clientName pdu

/-- `send_error_reply`. -/
def sendErrorReply (C : RpcConvertors) (net : PduEndpoint)
    (s : RpcServerEndpointImpl) (header : ServiceRequestHeader)
    (resultCode : Int32) : Outcome RpcServerEndpointImpl Sent Unit :=
  s.sendReply net header.clientName
    (createReplyBuffer C net header statusError resultCode [])

/-! ## Polling -/

/-- `ensure_dynamic_client`. -/
def ensureDynamicClient (net : PduEndpoint) (s : RpcServerEndpointImpl)
    (clientName : String) : RpcServerEndpointImpl × Bool :=
  if clientName = "" then (s, false)
  else if (s.status clientName).isSome then (s, true)
  else if s.registeredClients.length ≥ s.maxClients then (s, false)
  else if ¬net.hasPduDefinition then (s, false)
  else (s.register clientName, true)

/-- `validate_header`. -/
def validateHeader (net : PduEndpoint) (s : RpcServerEndpointImpl)
    (header : ServiceRequestHeader) : RpcServerEndpointImpl × Bool :=
  if header.serviceName ≠ s.serviceName then (s, false)
  else if s.dynamicClient then s.ensureDynamicClient net header.clientName
  else if header.clientName ∉ s.registeredClients then (s, false)
  else if header.opcode ≥ operationNum then (s, false)
  else (s, true)

/-- The outcome of a `poll` that reports nothing. -/
def unreported (request : RpcRequest)
    (o : Outcome RpcServerEndpointImpl Sent Unit) :
    Outcome RpcServerEndpointImpl Sent (ServerEventType × RpcRequest) :=
  { state := o.state, result := (.none, request), effects := o.effects }

/-- `handle_request_in`. -/
def handleRequestIn (C : RpcConvertors) (net : PduEndpoint)
    (s : RpcServerEndpointImpl) (request : RpcRequest)
    (status : ServerProcessingStatus) :
    Outcome RpcServerEndpointImpl Sent (ServerEventType × RpcRequest) :=
  match status.state with
  | .idle =>
      { state := s.setStatus request.header.clientName
          ⟨request.header.requestId, .running⟩
        result :=
          (.requestIn, { request with clientName := request.header.clientName }) }
  | .running =>
      unreported request (s.sendErrorReply C net request.header resultBusy)
  | .cancelling =>
      unreported request (s.sendErrorReply C net request.header resultBusy)

/-- `handle_cancel_request`; the request keeps the `client_name` it came with. -/
def handleCancelRequest (C : RpcConvertors) (net : PduEndpoint)
    (s : RpcServerEndpointImpl) (request : RpcRequest)
    (status : ServerProcessingStatus) :
    Outcome RpcServerEndpointImpl Sent (ServerEventType × RpcRequest) :=
  match status.state with
  | .running =>
      if status.requestId ≠ request.header.requestId then
        unreported request
          (s.sendErrorReply C net request.header resultInvalid)
      else
        { state := s.setStatus request.header.clientName
            { status with state := .cancelling }
          result := (.requestCancel, request) }
  | .idle => { state := s, result := (.none, request) }
  | .cancelling =>
      unreported request (s.sendErrorReply C net request.header resultBusy)

/-- The part of `poll` that follows the header: the request has been taken from
the queue and its header read. -/
def dispatch (C : RpcConvertors) (net : PduEndpoint)
    (s : RpcServerEndpointImpl) (request : RpcRequest) :
    Outcome RpcServerEndpointImpl Sent (ServerEventType × RpcRequest) :=
  match s.validateHeader net request.header with
  | (s, false) =>
      unreported request (s.sendErrorReply C net request.header resultError)
  | (s, true) =>
      match s.status request.header.clientName with
      | none =>
          unreported request
            (s.sendErrorReply C net request.header resultInvalid)
      | some status =>
          if request.header.opcode = operationCancel then
            s.handleCancelRequest C net request status
          else s.handleRequestIn C net request status

/-- `poll`, with the `RpcRequest` that the caller passes in. -/
def poll (C : RpcConvertors) (net : PduEndpoint) (s : RpcServerEndpointImpl)
    (request : RpcRequest) :
    Outcome RpcServerEndpointImpl Sent (ServerEventType × RpcRequest) :=
  match s.pendingRequests with
  | [] => { state := s, result := (.none, request) }
  | pdu :: rest =>
      dispatch C net { s with pendingRequests := rest }
        { request with
          pdu := pdu
          header := C.request.pdu2cpp pdu request.header }

section Poll

variable {C : RpcConvertors} {net : PduEndpoint} {s : RpcServerEndpointImpl}

theorem poll_nil (h : s.pendingRequests = []) (request : RpcRequest) :
    s.poll C net request = { state := s, result := (.none, request) } := by
  rw [poll, h]

theorem poll_cons {pdu : PduData} {rest : List PduData}
    (h : s.pendingRequests = pdu :: rest) (request : RpcRequest) :
    s.poll C net request =
      dispatch C net { s with pendingRequests := rest }
        { request with
          pdu := pdu
          header := C.request.pdu2cpp pdu request.header } := by
  rw [poll, h]

end Poll

/-! ## The status of one client -/

section Status

variable (C : RpcConvertors) (net : PduEndpoint) (s : RpcServerEndpointImpl)

@[simp] theorem status_setStatus (clientName c : String)
    (status : ServerProcessingStatus) :
    (s.setStatus clientName status).status c =
      if c = clientName then (s.status c).map fun _ => status
      else s.status c := by
  rw [RpcServerEndpointImpl.status, setStatus, OrdMap.find?_modify]
  split_ifs with hc
  · rw [hc]
    rfl
  · rfl

@[simp] theorem status_register (clientName c : String) :
    (s.register clientName).status c =
      if c = clientName then some ⟨0, .idle⟩ else s.status c := by
  rw [RpcServerEndpointImpl.status, register, OrdMap.find?_assign]
  rfl

/-- `s'` is `s`, with the status of `clientName` possibly rewritten. -/
def Writes (s s' : RpcServerEndpointImpl) (clientName : String) : Prop :=
  s' = s ∨ ∃ status, s' = s.setStatus clientName status

section Writes

variable {s} {s' : RpcServerEndpointImpl} {clientName : String}

theorem Writes.status_of_ne (h : Writes s s' clientName) {c : String}
    (hc : c ≠ clientName) : s'.status c = s.status c := by
  obtain rfl | ⟨status, rfl⟩ := h
  · rfl
  · rw [status_setStatus, if_neg hc]

theorem Writes.isSome_status (h : Writes s s' clientName) (c : String) :
    (s'.status c).isSome = (s.status c).isSome := by
  obtain rfl | ⟨status, rfl⟩ := h
  · rfl
  · rw [status_setStatus]
    split_ifs
    · rw [Option.isSome_map]
    · rfl

theorem Writes.registeredClients_eq (h : Writes s s' clientName) :
    s'.registeredClients = s.registeredClients := by
  obtain rfl | ⟨status, rfl⟩ := h <;> rfl

theorem Writes.dynamicClient_eq (h : Writes s s' clientName) :
    s'.dynamicClient = s.dynamicClient := by
  obtain rfl | ⟨status, rfl⟩ := h <;> rfl

theorem Writes.serviceName_eq (h : Writes s s' clientName) :
    s'.serviceName = s.serviceName := by
  obtain rfl | ⟨status, rfl⟩ := h <;> rfl

end Writes

theorem sendReply_writes (clientName : String) (pdu : PduData) :
    Writes s (s.sendReply net clientName pdu).state clientName := by
  rw [sendReply]
  split
  · exact Or.inl rfl
  · split
    · exact Or.inl rfl
    · exact Or.inr ⟨_, rfl⟩

theorem sendCancelReply_writes (clientName : String) (pdu : PduData) :
    Writes s (s.sendCancelReply net clientName pdu).state clientName := by
  rw [sendCancelReply]
  split
  · exact Or.inl rfl
  · split
    · exact Or.inl rfl
    · exact Or.inr ⟨_, rfl⟩

theorem sendReply_status (clientName c : String) (pdu : PduData) :
    (s.sendReply net clientName pdu).state.status c =
      if c = clientName then (s.status c).map .replied else s.status c := by
  rw [sendReply]
  split
  · next hnone =>
      split_ifs with hc
      · rw [hc, hnone]
        rfl
      · rfl
  · next status hstatus =>
      by_cases hidle : status.state = .idle
      · rw [if_pos hidle]
        split_ifs with hc
        · rw [hc, hstatus, Option.map_some, ServerProcessingStatus.replied,
            if_pos hidle]
        · rfl
      · rw [if_neg hidle, finish, status_setStatus]
        split_ifs with hc
        · rw [hc, hstatus, Option.map_some, Option.map_some,
            ServerProcessingStatus.replied, if_neg hidle]
        · rfl

theorem sendErrorReply_status (header : ServiceRequestHeader)
    (resultCode : Int32) (c : String) :
    (s.sendErrorReply C net header resultCode).state.status c =
      if c = header.clientName then (s.status c).map .replied
      else s.status c :=
  sendReply_status net s header.clientName c _

/-- The header check registers at most the client that the header names. -/
theorem validateHeader_cases (header : ServiceRequestHeader) :
    (s.validateHeader net header).1 = s ∨
      s.validateHeader net header = (s.register header.clientName, true) ∧
        s.status header.clientName = none := by
  unfold validateHeader ensureDynamicClient
  split_ifs with hname hdynamic hempty hknown hfull hdefinition hregistered
    hopcode
  all_goals first
    | exact Or.inl rfl
    | exact Or.inr ⟨rfl, by simpa using hknown⟩

theorem status_validateHeader (header : ServiceRequestHeader) {c : String}
    (hc : c ≠ header.clientName) :
    (s.validateHeader net header).1.status c = s.status c := by
  obtain hsame | ⟨hregister, -⟩ := validateHeader_cases net s header
  · rw [hsame]
  · rw [hregister, status_register, if_neg hc]

/-- A request writes the status of no client but the one it names. -/
theorem dispatch_writes (request : RpcRequest) :
    Writes (s.validateHeader net request.header).1
      (dispatch C net s request).state request.header.clientName := by
  rw [dispatch]
  split
  · next s' hcheck =>
      rw [hcheck]
      exact sendReply_writes net s' _ _
  · next s' hcheck =>
      rw [hcheck]
      split
      · exact sendReply_writes net s' _ _
      · next status hstatus =>
          split
          · rw [handleCancelRequest]
            split
            · split
              · exact sendReply_writes net s' _ _
              · exact Or.inr ⟨_, rfl⟩
            · exact Or.inl rfl
            · exact sendReply_writes net s' _ _
          · rw [handleRequestIn]
            split
            · exact Or.inr ⟨_, rfl⟩
            · exact sendReply_writes net s' _ _
            · exact sendReply_writes net s' _ _

theorem dispatch_status_of_ne (request : RpcRequest) {c : String}
    (hc : c ≠ request.header.clientName) :
    (dispatch C net s request).state.status c = s.status c := by
  rw [(dispatch_writes C net s request).status_of_ne hc]
  exact status_validateHeader net s request.header hc

/-- What a request does to the client that it names, once that client is
known. -/
theorem dispatch_receive (request : RpcRequest)
    {status : ServerProcessingStatus}
    (h : (s.validateHeader net request.header).1.status
      request.header.clientName = some status) :
    (dispatch C net s request).state.status request.header.clientName =
        some (status.receive (s.validateHeader net request.header).2
          request.header).1 ∧
      (dispatch C net s request).result.1 =
        (status.receive (s.validateHeader net request.header).2
          request.header).2 := by
  revert h
  rw [dispatch]
  generalize s.validateHeader net request.header = check
  obtain ⟨s', valid⟩ := check
  intro h
  change s'.status request.header.clientName = some status at h
  cases valid with
  | false =>
      simp [ServerProcessingStatus.receive, unreported, sendErrorReply_status,
        h]
  | true =>
      by_cases hopcode : request.header.opcode = operationCancel
      · cases hstate : status.state with
        | idle =>
            simp [h, ServerProcessingStatus.receive, handleCancelRequest,
              hopcode, hstate]
        | running =>
            by_cases hid : status.requestId = request.header.requestId
            · simp [h, ServerProcessingStatus.receive, handleCancelRequest,
                hopcode, hstate, hid]
            · simp [h, ServerProcessingStatus.receive, handleCancelRequest,
                hopcode, hstate, hid, unreported, sendErrorReply_status]
        | cancelling =>
            simp [h, ServerProcessingStatus.receive, handleCancelRequest,
              hopcode, hstate, unreported, sendErrorReply_status]
      · cases hstate : status.state with
        | idle =>
            simp [h, ServerProcessingStatus.receive, handleRequestIn, hopcode,
              hstate]
        | running =>
            simp [h, ServerProcessingStatus.receive, handleRequestIn, hopcode,
              hstate, unreported, sendErrorReply_status]
        | cancelling =>
            simp [h, ServerProcessingStatus.receive, handleRequestIn, hopcode,
              hstate, unreported, sendErrorReply_status]

/-- What a request does to a registered client that it names. -/
theorem dispatch_status (request : RpcRequest)
    {status : ServerProcessingStatus}
    (h : s.status request.header.clientName = some status) :
    (dispatch C net s request).state.status request.header.clientName =
        some (status.receive (s.validateHeader net request.header).2
          request.header).1 ∧
      (dispatch C net s request).result.1 =
        (status.receive (s.validateHeader net request.header).2
          request.header).2 := by
  apply dispatch_receive
  obtain hsame | ⟨-, hnone⟩ := validateHeader_cases net s request.header
  · rw [hsame]
    exact h
  · rw [hnone] at h
    exact absurd h (by simp)

/-- The request keeps its header through `poll`. -/
theorem dispatch_header (request : RpcRequest) :
    (dispatch C net s request).result.2.header = request.header := by
  rw [dispatch]
  split
  · rfl
  · split
    · rfl
    · split
      · rw [handleCancelRequest]
        split
        · split <;> rfl
        · rfl
        · rfl
      · rw [handleRequestIn]
        split <;> rfl

/-- Only a request with a valid header is reported. -/
theorem dispatch_serviceName (request : RpcRequest)
    (h : (dispatch C net s request).result.1 ≠ .none) :
    request.header.serviceName = s.serviceName := by
  by_contra hname
  have hcheck : s.validateHeader net request.header = (s, false) := by
    rw [validateHeader, if_pos hname]
  rw [dispatch, hcheck] at h
  exact h rfl

/-- A client that has a request in flight after a request was taken: the request
was the one reported, or it was in flight before. -/
theorem dispatch_inFlight (request : RpcRequest) {c : String}
    {after : ServerProcessingStatus}
    (hafter : (dispatch C net s request).state.status c = some after)
    (hbusy : after.state ≠ .idle) :
    (dispatch C net s request).result.1 = .requestIn ∧
        c = request.header.clientName ∧
        after.requestId = request.header.requestId ∨
      ((dispatch C net s request).result.1 = .requestIn →
          c ≠ request.header.clientName) ∧
        ∃ before, s.status c = some before ∧ before.state ≠ .idle ∧
          after.requestId = before.requestId := by
  by_cases hc : c = request.header.clientName
  · subst hc
    cases hknown : (s.validateHeader net request.header).1.status
        request.header.clientName with
    | none =>
        have hsome := (dispatch_writes C net s request).isSome_status
          request.header.clientName
        rw [hafter, hknown] at hsome
        exact absurd hsome (by simp)
    | some status =>
        obtain ⟨hstatus, hevent⟩ := dispatch_receive C net s request hknown
        rw [hafter, Option.some.injEq] at hstatus
        subst hstatus
        rcases ServerProcessingStatus.receive_inFlight hbusy with
          ⟨hin, hid⟩ | ⟨hnot, hid, hstill⟩
        · exact Or.inl ⟨hevent.trans hin, rfl, hid⟩
        · refine Or.inr ⟨fun hin => absurd (hevent.symm.trans hin) hnot,
            status, ?_, hstill, hid⟩
          obtain hsame | ⟨hregister, -⟩ :=
            validateHeader_cases net s request.header
          · rw [← hsame]
            exact hknown
          · rw [hregister, status_register, if_pos rfl,
              Option.some.injEq] at hknown
            rw [← hknown] at hstill
            exact absurd rfl hstill
  · rw [dispatch_status_of_ne C net s request hc] at hafter
    exact Or.inr ⟨fun _ => hc, after, hafter, hbusy, rfl⟩

end Status

section Polls

variable {C : RpcConvertors} {net : PduEndpoint} {s : RpcServerEndpointImpl}

theorem poll_inFlight {request : RpcRequest} {c : String}
    {after : ServerProcessingStatus}
    (hafter : (s.poll C net request).state.status c = some after)
    (hbusy : after.state ≠ .idle) :
    (s.poll C net request).result.1 = .requestIn ∧
        c = (s.poll C net request).result.2.header.clientName ∧
        after.requestId =
          (s.poll C net request).result.2.header.requestId ∨
      ((s.poll C net request).result.1 = .requestIn →
          c ≠ (s.poll C net request).result.2.header.clientName) ∧
        ∃ before, s.status c = some before ∧ before.state ≠ .idle ∧
          after.requestId = before.requestId := by
  cases hqueue : s.pendingRequests with
  | nil =>
      rw [poll_nil hqueue] at hafter ⊢
      exact Or.inr ⟨by simp, after, hafter, hbusy, rfl⟩
  | cons pdu rest =>
      rw [poll_cons hqueue] at hafter ⊢
      rw [dispatch_header]
      exact dispatch_inFlight C net _ _ hafter hbusy

theorem poll_serviceName {request : RpcRequest}
    (h : (s.poll C net request).result.1 ≠ .none) :
    (s.poll C net request).result.2.header.serviceName = s.serviceName := by
  cases hqueue : s.pendingRequests with
  | nil =>
      rw [poll_nil hqueue] at h
      exact absurd rfl h
  | cons pdu rest =>
      rw [poll_cons hqueue] at h ⊢
      rw [dispatch_header]
      exact dispatch_serviceName C net { s with pendingRequests := rest } _ h

theorem serviceName_poll (request : RpcRequest) :
    (s.poll C net request).state.serviceName = s.serviceName := by
  cases hqueue : s.pendingRequests with
  | nil => rw [poll_nil hqueue]
  | cons pdu rest =>
      rw [poll_cons hqueue, (dispatch_writes C net _ _).serviceName_eq]
      obtain hsame | ⟨hregister, -⟩ := validateHeader_cases net
        { s with pendingRequests := rest }
        (C.request.pdu2cpp pdu request.header)
      · change (validateHeader net { s with pendingRequests := rest }
          (C.request.pdu2cpp pdu request.header)).1.serviceName = _
        rw [hsame]
      · change (validateHeader net { s with pendingRequests := rest }
          (C.request.pdu2cpp pdu request.header)).1.serviceName = _
        rw [hregister]
        rfl

end Polls

/-! ## Runs -/

/-- A step of the environment or of the application. -/
inductive Input
  /-- The receive callback stores a packet. -/
  | receive (pdu : PduData)
  | poll (net : PduEndpoint) (request : RpcRequest)
  | sendReply (net : PduEndpoint) (clientName : String) (pdu : PduData)
  | sendCancelReply (net : PduEndpoint) (clientName : String) (pdu : PduData)
  | clearPendingRequests

/-- What can be seen of a step. -/
inductive Obs
  | sent (sent : Sent)
  | polled (event : ServerEventType) (request : RpcRequest)

/-- The endpoint under its inputs. -/
def machine (C : RpcConvertors) : Machine RpcServerEndpointImpl Input Obs where
  step s
    | .receive pdu => (s.putPendingRequest pdu, [])
    | .poll net request =>
        let o := s.poll C net request
        (o.state, o.effects.map .sent ++ [.polled o.result.1 o.result.2])
    | .sendReply net clientName pdu =>
        let o := s.sendReply net clientName pdu
        (o.state, o.effects.map .sent)
    | .sendCancelReply net clientName pdu =>
        let o := s.sendCancelReply net clientName pdu
        (o.state, o.effects.map .sent)
    | .clearPendingRequests => (s.clearPendingRequests, [])

/-- Every client with a status is registered, and a dynamic client has a
name. -/
structure Invariant (s : RpcServerEndpointImpl) : Prop where
  registered : ∀ c, (s.status c).isSome → c ∈ s.registeredClients
  named : s.dynamicClient = true → ∀ c, (s.status c).isSome → c ≠ ""

section Runs

variable {C : RpcConvertors} {s s' : RpcServerEndpointImpl}

theorem Invariant.writes {clientName : String} (h : s.Invariant)
    (hwrites : Writes s s' clientName) : s'.Invariant where
  registered := by
    intro c hc
    rw [hwrites.isSome_status] at hc
    rw [hwrites.registeredClients_eq]
    exact h.registered c hc
  named := by
    intro hdynamic c hc
    rw [hwrites.isSome_status] at hc
    rw [hwrites.dynamicClient_eq] at hdynamic
    exact h.named hdynamic c hc

theorem Invariant.register {clientName : String} (h : s.Invariant)
    (hname : s.dynamicClient = true → clientName ≠ "") :
    (s.register clientName).Invariant where
  registered := by
    intro c hc
    rw [status_register] at hc
    change c ∈ s.registeredClients ++ [clientName]
    rw [List.mem_append, List.mem_singleton]
    split_ifs at hc with heq
    · exact Or.inr heq
    · exact Or.inl (h.registered c hc)
  named := by
    intro hdynamic c hc
    rw [status_register] at hc
    split_ifs at hc with heq
    · rw [heq]
      exact hname hdynamic
    · exact h.named hdynamic c hc

theorem Invariant.validateHeader (h : s.Invariant) (net : PduEndpoint)
    (header : ServiceRequestHeader) :
    (s.validateHeader net header).1.Invariant := by
  unfold RpcServerEndpointImpl.validateHeader ensureDynamicClient
  split_ifs with hname hdynamic hempty
  all_goals first
    | exact h
    | exact h.register fun _ => hempty

theorem Invariant.poll (h : s.Invariant) (net : PduEndpoint)
    (request : RpcRequest) : (s.poll C net request).state.Invariant := by
  rw [RpcServerEndpointImpl.poll]
  split
  · exact h
  · next pdu rest hqueue =>
      have hrest : ({ s with pendingRequests := rest } :
          RpcServerEndpointImpl).Invariant := ⟨h.registered, h.named⟩
      exact (hrest.validateHeader net _).writes (dispatch_writes C net _ _)

theorem Invariant.step (h : s.Invariant) (i : Input) :
    ((machine C).step s i).1.Invariant := by
  cases i with
  | receive pdu => exact ⟨h.registered, h.named⟩
  | poll net request => exact h.poll net request
  | sendReply net clientName pdu =>
      exact h.writes (sendReply_writes net s clientName pdu)
  | sendCancelReply net clientName pdu =>
      exact h.writes (sendCancelReply_writes net s clientName pdu)
  | clearPendingRequests => exact ⟨h.registered, h.named⟩

theorem invariant_of_empty (h : s.serverStates = .empty) : s.Invariant := by
  have hnone : ∀ c, s.status c = none := by
    intro c
    rw [status, h]
    rfl
  constructor
  · intro c hc
    simp [hnone] at hc
  · intro _ c hc
    simp [hnone] at hc

theorem invariant_initializeService (serviceName : String)
    (config : ServiceConfig) (clientNodeId : Option String) :
    (initializeService serviceName config clientNodeId).Invariant := by
  unfold initializeService
  split_ifs with hdynamic
  · exact invariant_of_empty rfl
  · apply And.left
    apply List.foldlRecOn config.clients _
      (motive := fun s : RpcServerEndpointImpl =>
        s.Invariant ∧ s.dynamicClient = false)
    · exact ⟨invariant_of_empty rfl, by simpa using hdynamic⟩
    · rintro s ⟨hs, hstatic⟩ client -
      split_ifs
      · exact ⟨hs, hstatic⟩
      · refine ⟨hs.register ?_, hstatic⟩
        intro hdynamic
        rw [hstatic] at hdynamic
        exact absurd hdynamic (by simp)

/-- No client starts with a request in flight. -/
theorem idle_initializeService (serviceName : String) (config : ServiceConfig)
    (clientNodeId : Option String) (c : String)
    (status : ServerProcessingStatus)
    (h : (initializeService serviceName config clientNodeId).status c =
      some status) : status.state = .idle := by
  unfold initializeService at h
  split_ifs at h with hdynamic
  · exact absurd h (by simp [RpcServerEndpointImpl.status])
  · revert h
    apply List.foldlRecOn config.clients _
      (motive := fun s : RpcServerEndpointImpl =>
        s.status c = some status → status.state = .idle)
    · intro h
      exact absurd h (by simp [RpcServerEndpointImpl.status])
    · intro s hs client _
      split_ifs
      · exact hs
      · rw [status_register]
        split_ifs with hc
        · intro h
          rw [Option.some.injEq] at h
          rw [← h]
        · exact hs

theorem serviceName_initializeService (serviceName : String)
    (config : ServiceConfig) (clientNodeId : Option String) :
    (initializeService serviceName config clientNodeId).serviceName =
      serviceName := by
  unfold initializeService
  split_ifs with hdynamic
  · rfl
  · apply List.foldlRecOn config.clients _
      (motive := fun s : RpcServerEndpointImpl => s.serviceName = serviceName)
    · rfl
    · intro s hs client _
      split_ifs
      · exact hs
      · exact hs

theorem dynamicClient_initializeService (serviceName : String)
    (config : ServiceConfig) (clientNodeId : Option String) :
    (initializeService serviceName config clientNodeId).dynamicClient =
      config.dynamicClient := by
  unfold initializeService
  split_ifs with hdynamic
  · rfl
  · apply List.foldlRecOn config.clients _
      (motive := fun s : RpcServerEndpointImpl =>
        s.dynamicClient = config.dynamicClient)
    · rfl
    · intro s hs client _
      split_ifs
      · exact hs
      · exact hs

theorem pendingRequests_initializeService (serviceName : String)
    (config : ServiceConfig) (clientNodeId : Option String) :
    (initializeService serviceName config clientNodeId).pendingRequests =
      [] := by
  unfold initializeService
  split_ifs with hdynamic
  · rfl
  · apply List.foldlRecOn config.clients _
      (motive := fun s : RpcServerEndpointImpl => s.pendingRequests = [])
    · rfl
    · intro s hs client _
      split_ifs
      · exact hs
      · exact hs

/-- A configured client is registered and has a status. -/
theorem known_initializeService (serviceName : String) (config : ServiceConfig)
    (clientNodeId : Option String) (hstatic : config.dynamicClient = false)
    {client : ServiceClientConfig} (hclient : client ∈ config.clients)
    (hnode : clientNodeId.all (client.nodeId = ·) = true) :
    client.name ∈ (initializeService serviceName config
        clientNodeId).registeredClients ∧
      ((initializeService serviceName config clientNodeId).status
        client.name).isSome ∧
      (initializeService serviceName config
        clientNodeId).dynamicClient = false := by
  have hkeep : ¬clientNodeId.any (client.nodeId ≠ ·) = true := by
    cases clientNodeId with
    | none => simp
    | some nodeId => simpa using hnode
  unfold initializeService
  rw [if_neg (by simp [hstatic])]
  generalize hstart : ({
      serviceName := serviceName
      maxClients := config.maxClients
      dynamicClient := config.dynamicClient
      registeredClients := []
      serverStates := .empty
      pendingRequests := [] } : RpcServerEndpointImpl) = start
  have hdynamic : start.dynamicClient = false := by
    rw [← hstart]
    exact hstatic
  clear hstart
  -- Once the client has been reached, the rest of the list keeps it.
  have hrest : ∀ (l : List ServiceClientConfig) (s : RpcServerEndpointImpl),
      client.name ∈ s.registeredClients → (s.status client.name).isSome →
      client.name ∈ (l.foldl (fun s client =>
          if clientNodeId.any (client.nodeId ≠ ·) then s
          else s.register client.name) s).registeredClients ∧
        ((l.foldl (fun s client =>
          if clientNodeId.any (client.nodeId ≠ ·) then s
          else s.register client.name) s).status client.name).isSome := by
    intro l
    induction l with
    | nil => exact fun s hs hstatus => ⟨hs, hstatus⟩
    | cons other l ih =>
        intro s hs hstatus
        rw [List.foldl_cons]
        split_ifs
        · exact ih s hs hstatus
        · refine ih _ (List.mem_append_left _ hs) ?_
          rw [status_register]
          split_ifs
          · rfl
          · exact hstatus
  have hstays : ∀ (l : List ServiceClientConfig) (s : RpcServerEndpointImpl),
      (l.foldl (fun s client =>
        if clientNodeId.any (client.nodeId ≠ ·) then s
        else s.register client.name) s).dynamicClient = s.dynamicClient := by
    intro l
    induction l with
    | nil => exact fun _ => rfl
    | cons other l ih =>
        intro s
        rw [List.foldl_cons, ih]
        split_ifs
        · rfl
        · rfl
  obtain ⟨before, after, hsplit⟩ := List.append_of_mem hclient
  rw [hsplit, List.foldl_append, List.foldl_cons, if_neg hkeep]
  refine (and_assoc).mp ⟨hrest after _ ?_ ?_, ?_⟩
  · exact List.mem_append_right _ (List.mem_singleton.mpr rfl)
  · rw [status_register, if_pos rfl]
    rfl
  · rw [hstays]
    exact (hstays before start).trans hdynamic

theorem invariant_run (serviceName : String) (config : ServiceConfig)
    (clientNodeId : Option String) (is : List Input) :
    ((machine C).run (initializeService serviceName config clientNodeId)
      is).Invariant :=
  (machine C).invariant (C := fun _ _ => True)
    (fun _ i _ h => h.step i)
    (invariant_initializeService serviceName config clientNodeId)
    ((machine C).along_of_forall (fun _ _ _ => trivial) _)

end Runs

end RpcServerEndpointImpl

end Rpc
end HakoPduRpc
