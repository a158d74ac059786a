import HakoPduRpc.Rpc.ServiceLayout

/-!
# The RPC client endpoint

`RpcClientEndpointImpl`: the one request that a client may have in flight, and
the responses that wait to be polled.

A request buffer draws its request id from a counter when it is created; `call`
records the counter as it stands when the buffer is sent.  `poll` takes the first
waiting response with the recorded id and checks the rest of its header
afterwards.
-/

namespace HakoPduRpc
namespace Rpc

inductive ClientState
  | idle
  | running
  | cancelling
deriving DecidableEq, Repr

/-- `ClientProcessingStatus`. -/
structure ClientProcessingStatus where
  requestId : UInt32
  state : ClientState
deriving DecidableEq, Repr

/-- `RpcClientEndpointImpl`. -/
structure RpcClientEndpointImpl where
  serviceName : String
  clientName : String
  clientState : ClientProcessingStatus
  pendingResponses : List PduData
  currentTimeoutUsec : UInt64
  requestStartTimeUsec : UInt64
  currentRequestId : UInt64

namespace RpcClientEndpointImpl

/-- The constructor. -/
def create (serviceName clientName : String) : RpcClientEndpointImpl where
  serviceName := serviceName
  clientName := clientName
  clientState := ⟨0, .idle⟩
  pendingResponses := []
  currentTimeoutUsec := 0
  requestStartTimeUsec := 0
  currentRequestId := 0

/-- `client_state_.state = state`. -/
def setState (s : RpcClientEndpointImpl) (state : ClientState) :
    RpcClientEndpointImpl :=
  { s with clientState := { s.clientState with state := state } }

/-- `put_pending_response`. -/
def putPendingResponse (s : RpcClientEndpointImpl) (pdu : PduData) :
    RpcClientEndpointImpl :=
  { s with pendingResponses := s.pendingResponses ++ [pdu] }

/-- `clear_pending_responses`. -/
def clearPendingResponses (s : RpcClientEndpointImpl) :
    RpcClientEndpointImpl :=
  { s with pendingResponses := [] }

/-! ## Requests -/

/-- `{service_name_, client_name_ + "Req"}`. -/
def requestKey (s : RpcClientEndpointImpl) : PduKey :=
  ⟨s.serviceName, s.clientName ++ "Req"⟩

/-- The header that `create_request_buffer` writes. -/
def requestHeader (s : RpcClientEndpointImpl) (opcode : UInt8)
    (requestId : UInt32) : ServiceRequestHeader where
  requestId := requestId
  serviceName := s.serviceName
  clientName := s.clientName
  opcode := opcode
  statusPollIntervalMsec := 0

/-- `create_request_buffer`; a cancel request reuses the id in flight, any other
draws the next one. -/
def createRequestBuffer (C : RpcConvertors) (net : PduEndpoint)
    (s : RpcClientEndpointImpl) (opcode : UInt8) (isCancelRequest : Bool)
    (pdu : PduData) : RpcClientEndpointImpl × PduData :=
  let buffer := resize pdu (net.getPduSize s.requestKey)
  if isCancelRequest then
    (s, C.request.cpp2pdu (s.requestHeader opcode s.clientState.requestId)
      buffer)
  else
    let s := { s with currentRequestId := s.currentRequestId + 1 }
    (s, C.request.cpp2pdu (s.requestHeader opcode
      s.currentRequestId.toUInt32) buffer)

/-- What `call` records of the request that it is about to send. -/
def startRequest (s : RpcClientEndpointImpl) (now timeoutUsec : UInt64) :
    RpcClientEndpointImpl :=
  { s with
    clientState := ⟨s.currentRequestId.toUInt32, .running⟩
    currentTimeoutUsec := timeoutUsec
    requestStartTimeUsec := now }

/-- `call`; `now` is the reading of the clock. -/
def call (net : PduEndpoint) (now : UInt64) (s : RpcClientEndpointImpl)
    (pdu : PduData) (timeoutUsec : UInt64) :
    Outcome RpcClientEndpointImpl Sent Bool :=
  if s.clientState.state ≠ .idle then { state := s, result := false }
  else
    let started := s.startRequest now timeoutUsec
    let sent : Sent := ⟨s.requestKey, pdu, net.send s.requestKey pdu⟩
    if ¬sent.ok then
      { state := started.setState .idle, result := false, effects := [sent] }
    else { state := started, result := true, effects := [sent] }

/-- `send_cancel_request`. -/
def sendCancelRequest (C : RpcConvertors) (net : PduEndpoint)
    (s : RpcClientEndpointImpl) : Outcome RpcClientEndpointImpl Sent Bool :=
  if s.clientState.state ≠ .running then { state := s, result := false }
  else
    let (s, pdu) := s.createRequestBuffer C net operationCancel true []
    let sent : Sent := ⟨s.requestKey, pdu, net.send s.requestKey pdu⟩
    if sent.ok then
      { state := s.setState .cancelling, result := true, effects := [sent] }
    else { state := s, result := false, effects := [sent] }

section Requests

variable (C : RpcConvertors) (net : PduEndpoint) (s : RpcClientEndpointImpl)

/-- The packet that `send_cancel_request` sends. -/
def cancelBuffer : PduData :=
  (s.createRequestBuffer C net operationCancel true []).2

theorem call_cases (now : UInt64) (pdu : PduData) (timeoutUsec : UInt64) :
    (s.clientState.state ≠ .idle ∧
        s.call net now pdu timeoutUsec = { state := s, result := false }) ∨
      (s.clientState.state = .idle ∧ net.send s.requestKey pdu = false ∧
        s.call net now pdu timeoutUsec =
          { state := (s.startRequest now timeoutUsec).setState .idle
            result := false
            effects := [⟨s.requestKey, pdu, false⟩] }) ∨
      s.clientState.state = .idle ∧ net.send s.requestKey pdu = true ∧
        s.call net now pdu timeoutUsec =
          { state := s.startRequest now timeoutUsec
            result := true
            effects := [⟨s.requestKey, pdu, true⟩] } := by
  by_cases hidle : s.clientState.state = .idle
  · right
    cases hsend : net.send s.requestKey pdu with
    | false => exact Or.inl ⟨hidle, rfl, by simp [call, hidle, hsend]⟩
    | true => exact Or.inr ⟨hidle, rfl, by simp [call, hidle, hsend]⟩
  · exact Or.inl ⟨hidle, by simp [call, hidle]⟩

theorem sendCancelRequest_cases :
    (s.clientState.state ≠ .running ∧
        s.sendCancelRequest C net = { state := s, result := false }) ∨
      (s.clientState.state = .running ∧
        net.send s.requestKey (s.cancelBuffer C net) = false ∧
        s.sendCancelRequest C net =
          { state := s
            result := false
            effects := [⟨s.requestKey, s.cancelBuffer C net, false⟩] }) ∨
      s.clientState.state = .running ∧
        net.send s.requestKey (s.cancelBuffer C net) = true ∧
        s.sendCancelRequest C net =
          { state := s.setState .cancelling
            result := true
            effects := [⟨s.requestKey, s.cancelBuffer C net, true⟩] } := by
  by_cases hrunning : s.clientState.state = .running
  · right
    have hbuffer : s.createRequestBuffer C net operationCancel true [] =
        (s, s.cancelBuffer C net) := rfl
    cases hsend : net.send s.requestKey (s.cancelBuffer C net) with
    | false =>
        exact Or.inl ⟨hrunning, rfl,
          by simp [sendCancelRequest, hrunning, hbuffer, hsend]⟩
    | true =>
        exact Or.inr ⟨hrunning, rfl,
          by simp [sendCancelRequest, hrunning, hbuffer, hsend]⟩
  · exact Or.inl ⟨hrunning, by simp [sendCancelRequest, hrunning]⟩

end Requests

/-! ## Responses -/

/-- `HakoCpp_ServiceResponseHeader response_header;`. -/
def blankHeader : ServiceResponseHeader := ⟨0, "", "", 0, 0, 0⟩

/-- The header of a waiting response. -/
def readResponse (C : RpcConvertors) (pdu : PduData) : ServiceResponseHeader :=
  C.response.pdu2cpp pdu blankHeader

/-- The timeout check of `poll`, in the arithmetic of `uint64_t`. -/
def timedOut (s : RpcClientEndpointImpl) (now : UInt64) : Bool :=
  s.clientState.state = .running ∧ s.currentTimeoutUsec > 0 ∧
    now - s.requestStartTimeUsec > s.currentTimeoutUsec

/-- The search of `poll` for a response to the request in flight. -/
def matchesRequest (C : RpcConvertors) (s : RpcClientEndpointImpl)
    (pdu : PduData) : Bool :=
  (readResponse C pdu).requestId = s.clientState.requestId

/-- `validate_header`. -/
def validateHeader (s : RpcClientEndpointImpl)
    (header : ServiceResponseHeader) : Bool :=
  header.serviceName = s.serviceName ∧ header.clientName = s.clientName ∧
    header.requestId = s.clientState.requestId ∧ header.resultCode < resultNum

/-- `handle_response_in` and `handle_cancel_response`. -/
def handleResponseIn (s : RpcClientEndpointImpl) (response : RpcResponse) :
    RpcClientEndpointImpl × ClientEventType :=
  if ¬s.validateHeader response.header then (s.setState .idle, .none)
  else if response.header.resultCode = resultCanceled then
    (s.setState .idle, .responseCancel)
  else (s.setState .idle, .responseIn)

/-- `poll`, with the `RpcResponse` that the caller passes in. -/
def poll (C : RpcConvertors) (now : UInt64) (s : RpcClientEndpointImpl)
    (response : RpcResponse) :
    RpcClientEndpointImpl × ClientEventType × RpcResponse :=
  if s.clientState.state = .idle then (s, .none, response)
  else if s.timedOut now then (s, .responseTimeout, response)
  else
    match s.pendingResponses.find? (s.matchesRequest C) with
    | none => (s, .none, response)
    | some pdu =>
        let s' :=
          { s with
            pendingResponses :=
              s.pendingResponses.eraseP (s.matchesRequest C) }
        let response := ⟨readResponse C pdu, pdu⟩
        let handled := s'.handleResponseIn response
        (handled.1, handled.2, response)

/-! ## Runs -/

/-- A step of the environment or of the application. -/
inductive Input
  | receive (pdu : PduData)
  | createRequestBuffer (net : PduEndpoint) (opcode : UInt8)
      (isCancelRequest : Bool) (pdu : PduData)
  | call (net : PduEndpoint) (now : UInt64) (pdu : PduData)
      (timeoutUsec : UInt64)
  | sendCancelRequest (net : PduEndpoint)
  | poll (now : UInt64) (response : RpcResponse)
  | clearPendingResponses

/-- What can be seen of a step. -/
inductive Obs
  | sent (sent : Sent)
  | created (pdu : PduData)
  | called (ok : Bool)
  | cancelRequested (ok : Bool)
  | polled (event : ClientEventType) (response : RpcResponse)

/-- The endpoint under its inputs. -/
def machine (C : RpcConvertors) : Machine RpcClientEndpointImpl Input Obs where
  step s
    | .receive pdu => (s.putPendingResponse pdu, [])
    | .createRequestBuffer net opcode isCancelRequest pdu =>
        let created := s.createRequestBuffer C net opcode isCancelRequest pdu
        (created.1, [.created created.2])
    | .call net now pdu timeoutUsec =>
        let o := s.call net now pdu timeoutUsec
        (o.state, o.effects.map .sent ++ [.called o.result])
    | .sendCancelRequest net =>
        let o := s.sendCancelRequest C net
        (o.state, o.effects.map .sent ++ [.cancelRequested o.result])
    | .poll now response =>
        let polled := s.poll C now response
        (polled.1, [.polled polled.2.1 polled.2.2])
    | .clearPendingResponses => (s.clearPendingResponses, [])

end RpcClientEndpointImpl

end Rpc
end HakoPduRpc
