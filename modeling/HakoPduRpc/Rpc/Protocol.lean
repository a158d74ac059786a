import HakoPduRpc.Lib.Duplex
import HakoPduRpc.Rpc.ClientRequests
import HakoPduRpc.Rpc.ServerRequests
import HakoPduRpc.Rpc.ServicesServer

/-!
# One client and one server

An RPC client endpoint and a static server endpoint, joined by a transport that
delivers every packet once and in order.  The client application sends each
request from a fresh buffer and cancels when it likes.  The server application
answers each request it is given once, with a reply buffer made from that
request's header.

`Phase` ties the two state machines to the packets under way.  A cancel request
that comes too late stands in front of the next request of the client, so it
always finds the server idle.
-/

namespace HakoPduRpc
namespace Rpc

/-! ## The two applications -/

/-- An application that fills the body of a packet and leaves the header
alone. -/
structure BodyFill {H : Type} (c : PduConvertor H) where
  fill : PduData → PduData
  keeps : ∀ buffer old, c.pdu2cpp (fill buffer) old = c.pdu2cpp buffer old

/-- What is known of the platform: the client is one of those that the service
was configured with, no send fails, and headers with these two names survive the
way through a buffer. -/
structure RpcDeployment where
  C : RpcConvertors
  net : PduEndpoint
  serviceName : String
  clientName : String
  config : ServiceConfig
  clientNodeId : Option String
  static : config.dynamicClient = false
  registered : ∃ client ∈ config.clients, client.name = clientName ∧
    clientNodeId.all (client.nodeId = ·)
  sends : ∀ key data, net.send key data = true
  readsRequest : ∀ header : ServiceRequestHeader,
    header.serviceName = serviceName → header.clientName = clientName →
    C.request.ReadsBack
      (net.getPduSize ⟨serviceName, clientName ++ "Req"⟩) header
  readsResponse : ∀ header : ServiceResponseHeader,
    header.serviceName = serviceName → header.clientName = clientName →
    C.response.ReadsBack
      (net.getPduSize ⟨serviceName, clientName ++ "Res"⟩) header

/-- A step of the client. -/
inductive ClientStep (C : RpcConvertors)
  | receive (pdu : PduData)
  /-- A buffer that is never sent. -/
  | create (opcode : UInt8) (isCancelRequest : Bool) (pdu : PduData)
  /-- A buffer is created, its body filled in, and it is sent at once. -/
  | request (initial : PduData) (body : BodyFill C.request)
      (now timeoutUsec : UInt64)
  | cancel
  | poll (now : UInt64) (response : RpcResponse)

/-- A step of the server. -/
inductive ServerStep (C : RpcConvertors)
  | receive (pdu : PduData)
  | poll (request : RpcRequest)
  /-- The application answers one of the requests it has not answered yet. -/
  | answer (kind : ReplyKind) (index : ℕ) (status : UInt8)
      (resultCode : {code : Int32 // code < resultNum}) (initial : PduData)
      (body : BodyFill C.response)

/-- What is seen of the client. -/
inductive ClientObs
  | sent (sent : Sent)
  /-- A call was made; the id is the one it is tracked under. -/
  | called (ok : Bool) (requestId : UInt32)
  | polled (event : ClientEventType) (response : RpcResponse)

/-- What is seen of the server. -/
inductive ServerObs
  | sent (sent : Sent)
  | polled (event : ServerEventType) (request : RpcRequest)

/-- The server endpoint and the requests that the application has been given and
has not answered. -/
structure RpcServer where
  endpoint : RpcServerEndpointImpl
  unanswered : List ServiceRequestHeader

namespace RpcDeployment

variable (D : RpcDeployment)

/-- The client under its steps. -/
def clientMachine :
    Machine RpcClientEndpointImpl (ClientStep D.C) ClientObs where
  step s
    | .receive pdu => (s.putPendingResponse pdu, [])
    | .create opcode isCancelRequest pdu =>
        ((s.createRequestBuffer D.C D.net opcode isCancelRequest pdu).1, [])
    | .request initial body now timeoutUsec =>
        let created :=
          s.createRequestBuffer D.C D.net operationRequest false initial
        let o := created.1.call D.net now (body.fill created.2) timeoutUsec
        (o.state, o.effects.map .sent ++
          [.called o.result o.state.clientState.requestId])
    | .cancel =>
        let o := s.sendCancelRequest D.C D.net
        (o.state, o.effects.map .sent)
    | .poll now response =>
        let polled := s.poll D.C now response
        (polled.1, [.polled polled.2.1 polled.2.2])

/-- Whether the application may answer in this way now: a cancel reply needs a
request that is being cancelled. -/
def mayAnswer (s : RpcServer) (header : ServiceRequestHeader) :
    ReplyKind → Bool
  | .reply => true
  | .cancelReply =>
      (s.endpoint.status header.clientName).any (·.state = .cancelling)

/-- The server and its application under their steps. -/
def serverMachine : Machine RpcServer (ServerStep D.C) ServerObs where
  step s
    | .receive pdu =>
        ({ s with endpoint := s.endpoint.putPendingRequest pdu }, [])
    | .poll request =>
        let o := s.endpoint.poll D.C D.net request
        ({ endpoint := o.state
           unanswered :=
            if o.result.1 = .requestIn then
              s.unanswered ++ [o.result.2.header]
            else s.unanswered },
          o.effects.map .sent ++ [.polled o.result.1 o.result.2])
    | .answer kind index status resultCode initial body =>
        match s.unanswered[index]? with
        | none => (s, [])
        | some header =>
            if ¬mayAnswer s header kind then (s, [])
            else
              let pdu := body.fill (RpcServerEndpointImpl.createReplyBuffer
                D.C D.net header status resultCode.1 initial)
              let o := match kind with
                | .reply => s.endpoint.sendReply D.net header.clientName pdu
                | .cancelReply =>
                    s.endpoint.sendCancelReply D.net header.clientName pdu
              ({ endpoint := o.state
                 unanswered := s.unanswered.eraseIdx index },
                o.effects.map .sent)

/-- The packets that a step puts on the link: those with the client's keys that
the transport took. -/
def wiring : Duplex.Wiring (ClientStep D.C) (ServerStep D.C) ClientObs
    ServerObs PduData where
  sendLeft
    | .sent sent =>
        if sent.ok ∧ sent.key = ⟨D.serviceName, D.clientName ++ "Req"⟩ then
          [sent.data]
        else []
    | _ => []
  sendRight
    | .sent sent =>
        if sent.ok ∧ sent.key = ⟨D.serviceName, D.clientName ++ "Res"⟩ then
          [sent.data]
        else []
    | _ => []
  receiveLeft := .receive
  receiveRight := .receive

/-- Client, server and transport. -/
abbrev Pair := Duplex RpcClientEndpointImpl RpcServer PduData

def machine : Machine Pair
    (Duplex.Input (ClientStep D.C) (ServerStep D.C)) (ClientObs ⊕ ServerObs) :=
  Duplex.machine D.clientMachine D.serverMachine D.wiring

/-- Both sides as they start. -/
def start : Pair where
  left := .create D.serviceName D.clientName
  right :=
    { endpoint :=
        .initializeService D.serviceName D.config D.clientNodeId
      unanswered := [] }
  toLeft := []
  toRight := []

/-- Packets come from the link only. -/
def Regular {C : RpcConvertors} :
    Duplex.Input (ClientStep C) (ServerStep C) → Prop
  | .left (.receive _) => False
  | .right (.receive _) => False
  | _ => True

/-! ## The packets under way -/

/-- A request packet, as far as the protocol is concerned. -/
inductive Message
  | request (requestId : UInt32)
  | cancel (requestId : UInt32)

/-- The header that the packet of a message carries. -/
def header : Message → ServiceRequestHeader
  | .request requestId =>
      ⟨requestId, D.serviceName, D.clientName, operationRequest, 0⟩
  | .cancel requestId =>
      ⟨requestId, D.serviceName, D.clientName, operationCancel, 0⟩

/-- The packets carry these messages. -/
def Up (pdus : List PduData) (messages : List Message) : Prop :=
  List.Forall₂ (fun pdu m => D.C.request.Carries pdu (D.header m)) pdus
    messages

/-- The packet is a valid response to the request. -/
def Answers (pdu : PduData) (requestId : UInt32) : Prop :=
  ∃ header, D.C.response.Carries pdu header ∧
    header.requestId = requestId ∧ header.serviceName = D.serviceName ∧
    header.clientName = D.clientName ∧ header.resultCode < resultNum

/-- The packets are responses to these requests. -/
def Down (pdus : List PduData) (requestIds : List UInt32) : Prop :=
  List.Forall₂ D.Answers pdus requestIds

/-- What a cancel request that came too late may have left under way. -/
def Late (messages : List Message) : Prop :=
  messages = [] ∨ ∃ requestId, messages = [.cancel requestId]

/-- Where a request is: the states of the two sides, the requests and the
responses under way, and what the application has not answered. -/
inductive Phase : ClientProcessingStatus → ServerProcessingStatus →
    List Message → List UInt32 → List ServiceRequestHeader → Prop
  | idle {c : ClientProcessingStatus} {s : ServerProcessingStatus}
      {late : List Message} (hc : c.state = .idle) (hs : s.state = .idle)
      (hlate : Late late) : Phase c s late [] []
  | asked {c : ClientProcessingStatus} {s : ServerProcessingStatus}
      {late : List Message} (hc : c.state = .running) (hs : s.state = .idle)
      (hlate : Late late) : Phase c s (late ++ [.request c.requestId]) [] []
  | running {c : ClientProcessingStatus} {s : ServerProcessingStatus}
      (hc : c.state = .running) (hs : s.state = .running)
      (hid : s.requestId = c.requestId) :
      Phase c s [] [] [D.header (.request c.requestId)]
  | answered {c : ClientProcessingStatus} {s : ServerProcessingStatus}
      (hc : c.state = .running) (hs : s.state = .idle) :
      Phase c s [] [c.requestId] []
  | askedCancel {c : ClientProcessingStatus} {s : ServerProcessingStatus}
      {late : List Message} (hc : c.state = .cancelling) (hs : s.state = .idle)
      (hlate : Late late) :
      Phase c s (late ++ [.request c.requestId, .cancel c.requestId]) [] []
  | runningCancel {c : ClientProcessingStatus} {s : ServerProcessingStatus}
      (hc : c.state = .cancelling) (hs : s.state = .running)
      (hid : s.requestId = c.requestId) :
      Phase c s [.cancel c.requestId] [] [D.header (.request c.requestId)]
  | cancelling {c : ClientProcessingStatus} {s : ServerProcessingStatus}
      (hc : c.state = .cancelling) (hs : s.state = .cancelling)
      (hid : s.requestId = c.requestId) :
      Phase c s [] [] [D.header (.request c.requestId)]
  | answeredCancel {c : ClientProcessingStatus} {s : ServerProcessingStatus}
      {late : List Message} (hc : c.state = .cancelling) (hs : s.state = .idle)
      (hlate : Late late) : Phase c s late [c.requestId] []

namespace Phase

variable {D} {c : ClientProcessingStatus} {s : ServerProcessingStatus}
  {up : List Message} {down : List UInt32}
  {unanswered : List ServiceRequestHeader}

/-- An idle client sends a request. -/
theorem request (h : D.Phase c s up down unanswered) (hc : c.state = .idle)
    (requestId : UInt32) :
    D.Phase ⟨requestId, .running⟩ s (up ++ [.request requestId]) down
      unanswered := by
  cases h with
  | idle _ hs hlate =>
      exact .asked (c := ⟨requestId, .running⟩) rfl hs hlate
  | asked hc' => simp [hc] at hc'
  | running hc' => simp [hc] at hc'
  | answered hc' => simp [hc] at hc'
  | askedCancel hc' => simp [hc] at hc'
  | runningCancel hc' => simp [hc] at hc'
  | cancelling hc' => simp [hc] at hc'
  | answeredCancel hc' => simp [hc] at hc'

/-- The client cancels the request that it is running. -/
theorem cancel (h : D.Phase c s up down unanswered)
    (hc : c.state = .running) :
    D.Phase { c with state := .cancelling } s
      (up ++ [.cancel c.requestId]) down unanswered := by
  cases h with
  | idle hc' => simp [hc] at hc'
  | asked _ hs hlate =>
      rw [List.append_assoc]
      exact .askedCancel (c := ⟨c.requestId, .cancelling⟩) rfl hs hlate
  | running _ hs hid =>
      exact .runningCancel (c := ⟨c.requestId, .cancelling⟩) rfl hs hid
  | answered _ hs =>
      exact .answeredCancel (c := ⟨c.requestId, .cancelling⟩) rfl hs
        (Or.inr ⟨_, rfl⟩)
  | askedCancel hc' => simp [hc] at hc'
  | runningCancel hc' => simp [hc] at hc'
  | cancelling hc' => simp [hc] at hc'
  | answeredCancel hc' => simp [hc] at hc'

/-- There is at most one response, it is for the request in flight, and taking
it leaves both sides idle. -/
theorem respond {requestId : UInt32}
    (h : D.Phase c s up (requestId :: down) unanswered) :
    requestId = c.requestId ∧ down = [] ∧
      D.Phase { c with state := .idle } s up [] unanswered := by
  cases h with
  | answered hc hs =>
      exact ⟨rfl, rfl, .idle rfl hs (Or.inl rfl)⟩
  | answeredCancel hc hs hlate => exact ⟨rfl, rfl, .idle rfl hs hlate⟩

/-- A request packet finds the server idle. -/
theorem takeRequest {requestId : UInt32}
    (h : D.Phase c s (.request requestId :: up) down unanswered) :
    s.state = .idle ∧
      D.Phase c ⟨requestId, .running⟩ up down
        (unanswered ++ [D.header (.request requestId)]) := by
  generalize hmessages : Message.request requestId :: up = messages at h
  cases h with
  | idle _ _ hlate =>
      obtain rfl | ⟨k, rfl⟩ := hlate
      · simp at hmessages
      · simp at hmessages
  | asked hc hs hlate =>
      obtain rfl | ⟨k, rfl⟩ := hlate
      · simp only [List.nil_append, List.cons.injEq, Message.request.injEq]
          at hmessages
        obtain ⟨rfl, rfl⟩ := hmessages
        exact ⟨hs, .running hc rfl rfl⟩
      · simp at hmessages
  | running => simp at hmessages
  | answered => simp at hmessages
  | askedCancel hc hs hlate =>
      obtain rfl | ⟨k, rfl⟩ := hlate
      · simp only [List.nil_append, List.cons.injEq, Message.request.injEq]
          at hmessages
        obtain ⟨rfl, rfl⟩ := hmessages
        exact ⟨hs, .runningCancel hc rfl rfl⟩
      · simp at hmessages
  | runningCancel => simp at hmessages
  | cancelling => simp at hmessages
  | answeredCancel hc hs hlate =>
      obtain rfl | ⟨k, rfl⟩ := hlate
      · simp at hmessages
      · simp at hmessages

/-- A cancel packet comes too late and finds the server idle, or it finds the
request that the client is cancelling. -/
theorem takeCancel {requestId : UInt32}
    (h : D.Phase c s (.cancel requestId :: up) down unanswered) :
    (s.state = .idle ∧ D.Phase c s up down unanswered) ∨
      s = ⟨requestId, .running⟩ ∧ c = ⟨requestId, .cancelling⟩ ∧
        D.Phase c ⟨requestId, .cancelling⟩ up down unanswered := by
  generalize hmessages : Message.cancel requestId :: up = messages at h
  cases h with
  | idle hc hs hlate =>
      obtain rfl | ⟨k, rfl⟩ := hlate
      · simp at hmessages
      · simp only [List.cons.injEq] at hmessages
        rw [hmessages.2]
        exact Or.inl ⟨hs, .idle hc hs (Or.inl rfl)⟩
  | asked hc hs hlate =>
      obtain rfl | ⟨k, rfl⟩ := hlate
      · simp at hmessages
      · simp only [List.cons_append, List.nil_append, List.cons.injEq]
          at hmessages
        rw [hmessages.2]
        exact Or.inl ⟨hs, @asked D c s [] hc hs (Or.inl rfl)⟩
  | running => simp at hmessages
  | answered => simp at hmessages
  | askedCancel hc hs hlate =>
      obtain rfl | ⟨k, rfl⟩ := hlate
      · simp at hmessages
      · simp only [List.cons_append, List.nil_append, List.cons.injEq]
          at hmessages
        rw [hmessages.2]
        exact Or.inl ⟨hs, @askedCancel D c s [] hc hs (Or.inl rfl)⟩
  | runningCancel hc hs hid =>
      simp only [List.cons.injEq, Message.cancel.injEq] at hmessages
      obtain ⟨rfl, rfl⟩ := hmessages
      refine Or.inr ⟨?_, ?_, .cancelling hc rfl rfl⟩
      · rw [← hid, ← hs]
      · rw [← hc]
  | cancelling => simp at hmessages
  | answeredCancel hc hs hlate =>
      obtain rfl | ⟨k, rfl⟩ := hlate
      · simp at hmessages
      · simp only [List.cons.injEq] at hmessages
        rw [hmessages.2]
        exact Or.inl ⟨hs, .answeredCancel hc hs (Or.inl rfl)⟩

/-- The application has at most one request to answer: the one in flight, which
the server is working on. -/
theorem answer {header : ServiceRequestHeader}
    (h : D.Phase c s up down unanswered) (hheader : header ∈ unanswered) :
    unanswered = [header] ∧ header = D.header (.request c.requestId) ∧
      s.state ≠ .idle ∧
      D.Phase c ⟨0, .idle⟩ up (down ++ [c.requestId]) [] := by
  cases h with
  | idle => simp at hheader
  | asked => simp at hheader
  | running hc hs =>
      obtain rfl := List.mem_singleton.mp hheader
      exact ⟨rfl, rfl, by simp [hs], .answered hc rfl⟩
  | answered => simp at hheader
  | askedCancel => simp at hheader
  | runningCancel hc hs =>
      obtain rfl := List.mem_singleton.mp hheader
      exact ⟨rfl, rfl, by simp [hs],
        .answeredCancel hc rfl (Or.inr ⟨_, rfl⟩)⟩
  | cancelling hc hs =>
      obtain rfl := List.mem_singleton.mp hheader
      exact ⟨rfl, rfl, by simp [hs], .answeredCancel hc rfl (Or.inl rfl)⟩
  | answeredCancel => simp at hheader

end Phase

/-! ## What the packets carry -/

section Packets

variable {D} {s : RpcClientEndpointImpl}

/-- The client endpoint belongs to this service and client. -/
def OfClient (D : RpcDeployment) (s : RpcClientEndpointImpl) : Prop :=
  s.serviceName = D.serviceName ∧ s.clientName = D.clientName

theorem OfClient.requestKey (h : D.OfClient s) :
    s.requestKey = ⟨D.serviceName, D.clientName ++ "Req"⟩ := by
  rw [RpcClientEndpointImpl.requestKey, h.1, h.2]

theorem OfClient.request_carries (h : D.OfClient s) (initial : PduData)
    (body : BodyFill D.C.request) :
    D.C.request.Carries
      (body.fill (s.createRequestBuffer D.C D.net operationRequest false
        initial).2)
      (D.header (.request (s.currentRequestId + 1).toUInt32)) := by
  intro old
  rw [body.keeps]
  have hreads := D.readsRequest
    (s.requestHeader operationRequest (s.currentRequestId + 1).toUInt32)
    h.1 h.2 (resize initial (D.net.getPduSize s.requestKey)) old
    (by rw [length_resize, h.requestKey])
  refine hreads.trans ?_
  rw [RpcClientEndpointImpl.requestHeader, h.1, h.2]
  rfl

theorem OfClient.cancel_carries (h : D.OfClient s) :
    D.C.request.Carries (s.cancelBuffer D.C D.net)
      (D.header (.cancel s.clientState.requestId)) := by
  intro old
  have hreads := D.readsRequest
    (s.requestHeader operationCancel s.clientState.requestId) h.1 h.2
    (resize [] (D.net.getPduSize s.requestKey)) old
    (by rw [length_resize, h.requestKey])
  refine hreads.trans ?_
  rw [RpcClientEndpointImpl.requestHeader, h.1, h.2]
  rfl

theorem reply_answers (D : RpcDeployment) (requestId : UInt32) (status : UInt8)
    (resultCode : {code : Int32 // code < resultNum}) (initial : PduData)
    (body : BodyFill D.C.response) :
    D.Answers
      (body.fill (RpcServerEndpointImpl.createReplyBuffer D.C D.net
        (D.header (.request requestId)) status resultCode.1 initial))
      requestId := by
  refine ⟨⟨requestId, D.serviceName, D.clientName, status, 100,
    resultCode.1⟩, ?_, rfl, rfl, rfl, resultCode.2⟩
  intro old
  rw [body.keeps]
  exact D.readsResponse
    ⟨requestId, D.serviceName, D.clientName, status, 100, resultCode.1⟩
    rfl rfl _ old (length_resize _ _)

/-- The server endpoint serves this client. -/
structure Serves (D : RpcDeployment) (t : RpcServerEndpointImpl) : Prop where
  serviceName : t.serviceName = D.serviceName
  static : t.dynamicClient = false
  registered : D.clientName ∈ t.registeredClients

variable {t t' : RpcServerEndpointImpl}

theorem Serves.writes {c : String} (h : D.Serves t)
    (hwrites : RpcServerEndpointImpl.Writes t t' c) : D.Serves t' where
  serviceName := hwrites.serviceName_eq.trans h.serviceName
  static := hwrites.dynamicClient_eq.trans h.static
  registered := by
    rw [hwrites.registeredClients_eq]
    exact h.registered

theorem header_clientName (m : Message) :
    (D.header m).clientName = D.clientName := by
  cases m <;> rfl

theorem Serves.validateHeader (h : D.Serves t) (m : Message) :
    t.validateHeader D.net (D.header m) = (t, true) := by
  have hservice : (D.header m).serviceName = t.serviceName := by
    rw [h.serviceName]
    cases m <;> rfl
  have hclient : (D.header m).clientName ∈ t.registeredClients := by
    rw [header_clientName]
    exact h.registered
  have hopcode : ¬(D.header m).opcode ≥ operationNum := by
    cases m with
    | request requestId => simp [header, operationRequest, operationNum]
    | cancel requestId => simp [header, operationCancel, operationNum]
  simp [RpcServerEndpointImpl.validateHeader, hservice, h.static, hclient,
    hopcode]

end Packets

/-! ## What the server does with a packet -/

section Dispatch

variable {D} {t : RpcServerEndpointImpl} {request : RpcRequest}
  {status : ServerProcessingStatus} {requestId : UInt32}

theorem Serves.dispatch_request (h : D.Serves t)
    (hheader : request.header = D.header (.request requestId))
    (hstatus : t.status D.clientName = some status)
    (hidle : status.state = .idle) :
    RpcServerEndpointImpl.dispatch D.C D.net t request =
      { state := t.setStatus D.clientName ⟨requestId, .running⟩
        result := (.requestIn, { request with clientName := D.clientName }) } := by
  rw [RpcServerEndpointImpl.dispatch, hheader, h.validateHeader]
  simp [header, hstatus, RpcServerEndpointImpl.handleRequestIn, hidle,
    operationRequest, operationCancel, hheader]

theorem Serves.dispatch_lateCancel (h : D.Serves t)
    (hheader : request.header = D.header (.cancel requestId))
    (hstatus : t.status D.clientName = some status)
    (hidle : status.state = .idle) :
    RpcServerEndpointImpl.dispatch D.C D.net t request =
      { state := t, result := (.none, request) } := by
  rw [RpcServerEndpointImpl.dispatch, hheader, h.validateHeader]
  simp [header, hstatus, RpcServerEndpointImpl.handleCancelRequest, hidle]

theorem Serves.dispatch_cancel (h : D.Serves t)
    (hheader : request.header = D.header (.cancel requestId))
    (hstatus : t.status D.clientName = some ⟨requestId, .running⟩) :
    RpcServerEndpointImpl.dispatch D.C D.net t request =
      { state := t.setStatus D.clientName ⟨requestId, .cancelling⟩
        result := (.requestCancel, request) } := by
  rw [RpcServerEndpointImpl.dispatch, hheader, h.validateHeader]
  simp [header, hstatus, RpcServerEndpointImpl.handleCancelRequest, hheader]

end Dispatch

/-! ## Calls and their ends -/

/-- A successful call, or the event that reports its end. -/
inductive CallEntry
  | called (requestId : UInt32)
  | ended (requestId : UInt32)

/-- What an observation of the client says about its calls. -/
def callEntry : ClientObs → List CallEntry
  | .called true requestId => [.called requestId]
  | .polled .responseIn response => [.ended response.header.requestId]
  | .polled .responseCancel response => [.ended response.header.requestId]
  | _ => []

/-- The calls of a run and their ends. -/
def callLog (trace : List ClientObs) : List CallEntry :=
  trace.flatMap callEntry

/-- Every call in the list has ended before the next one. -/
def Ended (log : List CallEntry) : Prop :=
  ∃ requestIds : List UInt32,
    log = requestIds.flatMap fun requestId =>
      [.called requestId, .ended requestId]

/-- The calls so far: all have ended, or all but the last one, which is in
flight. -/
def CallHistory (c : ClientProcessingStatus) (log : List CallEntry) : Prop :=
  if c.state = .idle then Ended log
  else ∃ earlier, Ended earlier ∧ log = earlier ++ [.called c.requestId]

theorem Ended.append {log : List CallEntry} (h : Ended log)
    (requestId : UInt32) :
    Ended (log ++ [.called requestId] ++ [.ended requestId]) := by
  obtain ⟨requestIds, rfl⟩ := h
  refine ⟨requestIds ++ [requestId], ?_⟩
  simp

/-! ## The two sides together -/

/-- What holds of client, server and link at every moment. -/
structure Linked (p : Pair) (past : List (ClientObs ⊕ ServerObs)) : Prop where
  client : D.OfClient p.left
  server : D.Serves p.right.endpoint
  phase : ∃ status up down,
    p.right.endpoint.status D.clientName = some status ∧
      D.Up (p.right.endpoint.pendingRequests ++ p.toRight) up ∧
      D.Down (p.left.pendingResponses ++ p.toLeft) down ∧
      D.Phase p.left.clientState status up down p.right.unanswered
  calls : CallHistory p.left.clientState (callLog (Duplex.lefts past))

section Steps

variable {D} {p : Pair} {past : List (ClientObs ⊕ ServerObs)}

/-- A step of the client, once it is known what becomes of the phase and of the
calls. -/
theorem Linked.left (h : D.Linked p past) {i : ClientStep D.C}
    {left : RpcClientEndpointImpl} {obs : List ClientObs} (sent : List PduData)
    (hstep : D.clientMachine.step p.left i = (left, obs))
    (hsent : obs.flatMap D.wiring.sendLeft = sent)
    (hclient : D.OfClient left)
    (hphase : ∀ status up down,
      D.Up (p.right.endpoint.pendingRequests ++ p.toRight) up →
      D.Down (p.left.pendingResponses ++ p.toLeft) down →
      D.Phase p.left.clientState status up down p.right.unanswered →
      ∃ new down', D.Up sent new ∧
        D.Down (left.pendingResponses ++ p.toLeft) down' ∧
        D.Phase left.clientState status (up ++ new) down' p.right.unanswered)
    (hcalls : CallHistory left.clientState
      (callLog (Duplex.lefts past) ++ obs.flatMap callEntry)) :
    D.Linked (D.machine.step p (.left i)).1
      (past ++ (D.machine.step p (.left i)).2) := by
  have hmoved : D.machine.step p (.left i) =
      ({ p with left := left, toRight := p.toRight ++ sent },
        obs.map Sum.inl) := by
    simp only [machine, Duplex.machine, Duplex.stepLeft, hstep, hsent]
  rw [hmoved]
  constructor
  · exact hclient
  · exact h.server
  · obtain ⟨status, up, down, hstatus, hup, hdown, hlink⟩ := h.phase
    obtain ⟨new, down', hnew, hdown', hlink'⟩ :=
      hphase status up down hup hdown hlink
    refine ⟨status, up ++ new, down', hstatus, ?_, hdown', hlink'⟩
    change D.Up (p.right.endpoint.pendingRequests ++ (p.toRight ++ sent)) _
    rw [← List.append_assoc]
    exact List.rel_append hup hnew
  · rw [Duplex.lefts_append, Duplex.lefts_inl, callLog, List.flatMap_append]
    exact hcalls

/-- A step of the client that sends nothing and leaves the request alone. -/
theorem Linked.leftQuiet (h : D.Linked p past) {i : ClientStep D.C}
    {left : RpcClientEndpointImpl} {obs : List ClientObs}
    (hstep : D.clientMachine.step p.left i = (left, obs))
    (hsent : obs.flatMap D.wiring.sendLeft = [])
    (hentries : obs.flatMap callEntry = []) (hclient : D.OfClient left)
    (hstate : left.clientState = p.left.clientState)
    (hqueue : left.pendingResponses = p.left.pendingResponses) :
    D.Linked (D.machine.step p (.left i)).1
      (past ++ (D.machine.step p (.left i)).2) := by
  refine h.left [] hstep hsent hclient ?_ ?_
  · intro status up down _ hdown hlink
    rw [hstate, hqueue]
    refine ⟨[], down, .nil, hdown, ?_⟩
    rw [List.append_nil]
    exact hlink
  · rw [hstate, hentries, List.append_nil]
    exact h.calls

theorem Linked.create (h : D.Linked p past) (opcode : UInt8)
    (isCancelRequest : Bool) (pdu : PduData) :
    D.Linked (D.machine.step p (.left (.create opcode isCancelRequest pdu))).1
      (past ++ (D.machine.step p
        (.left (.create opcode isCancelRequest pdu))).2) := by
  cases isCancelRequest with
  | false => exact h.leftQuiet rfl rfl rfl h.client rfl rfl
  | true => exact h.leftQuiet rfl rfl rfl h.client rfl rfl

theorem Linked.request (h : D.Linked p past) (initial : PduData)
    (body : BodyFill D.C.request) (now timeoutUsec : UInt64) :
    D.Linked
      (D.machine.step p (.left (.request initial body now timeoutUsec))).1
      (past ++ (D.machine.step p
        (.left (.request initial body now timeoutUsec))).2) := by
  have hcarries := h.client.request_carries initial body
  generalize hcreated : p.left.createRequestBuffer D.C D.net operationRequest
    false initial = created at hcarries
  have hfirst : created.1 =
      { p.left with currentRequestId := p.left.currentRequestId + 1 } := by
    rw [← hcreated]
    rfl
  have hclient : D.OfClient created.1 := by
    rw [hfirst]
    exact h.client
  have hstep : D.clientMachine.step p.left
      (.request initial body now timeoutUsec) =
        ((created.1.call D.net now (body.fill created.2) timeoutUsec).state,
          (created.1.call D.net now (body.fill created.2)
            timeoutUsec).effects.map .sent ++
          [.called
            (created.1.call D.net now (body.fill created.2) timeoutUsec).result
            (created.1.call D.net now (body.fill created.2)
              timeoutUsec).state.clientState.requestId]) := by
    rw [← hcreated]
    rfl
  rcases RpcClientEndpointImpl.call_cases D.net created.1 now
      (body.fill created.2) timeoutUsec with
    ⟨-, hcall⟩ | ⟨-, hsend, -⟩ | ⟨hidle, -, hcall⟩
  · rw [hcall] at hstep
    refine h.leftQuiet hstep rfl rfl hclient ?_ ?_
    · rw [hfirst]
    · rw [hfirst]
  · rw [D.sends] at hsend
    exact absurd hsend (by simp)
  · rw [hcall] at hstep
    have hkey := hclient.requestKey
    have hidle' : p.left.clientState.state = .idle := by
      rw [hfirst] at hidle
      exact hidle
    have hid : created.1.currentRequestId.toUInt32 =
        (p.left.currentRequestId + 1).toUInt32 := by
      rw [hfirst]
    refine h.left [body.fill created.2] hstep ?_ hclient ?_ ?_
    · simp [wiring, hkey]
    · intro status up down _ hdown hlink
      refine ⟨[.request (p.left.currentRequestId + 1).toUInt32], down,
        .cons hcarries .nil, ?_, ?_⟩
      · change D.Down (created.1.pendingResponses ++ p.toLeft) down
        rw [hfirst]
        exact hdown
      · change D.Phase ⟨created.1.currentRequestId.toUInt32, .running⟩ _ _ _ _
        rw [hid]
        exact hlink.request hidle' _
    · have hended : Ended (callLog (Duplex.lefts past)) := by
        have hcalls := h.calls
        rwa [CallHistory, if_pos hidle'] at hcalls
      change CallHistory ⟨created.1.currentRequestId.toUInt32, .running⟩
        (callLog (Duplex.lefts past) ++
          [.called created.1.currentRequestId.toUInt32])
      rw [CallHistory, if_neg (by simp)]
      exact ⟨_, hended, rfl⟩

theorem Linked.cancel (h : D.Linked p past) :
    D.Linked (D.machine.step p (.left .cancel)).1
      (past ++ (D.machine.step p (.left .cancel)).2) := by
  have hstep : D.clientMachine.step p.left .cancel =
      ((p.left.sendCancelRequest D.C D.net).state,
        (p.left.sendCancelRequest D.C D.net).effects.map .sent) := rfl
  rcases RpcClientEndpointImpl.sendCancelRequest_cases D.C D.net p.left with
    ⟨-, hsend⟩ | ⟨-, hfail, -⟩ | ⟨hrunning, -, hsend⟩
  · rw [hsend] at hstep
    exact h.leftQuiet hstep rfl rfl h.client rfl rfl
  · rw [D.sends] at hfail
    exact absurd hfail (by simp)
  · rw [hsend] at hstep
    refine h.left [p.left.cancelBuffer D.C D.net] hstep ?_ h.client
      ?_ ?_
    · simp [wiring, h.client.requestKey]
    · intro status up down _ hdown hlink
      exact ⟨[.cancel p.left.clientState.requestId], down,
        .cons h.client.cancel_carries .nil, hdown, hlink.cancel hrunning⟩
    · have hcalls := h.calls
      rw [CallHistory, if_neg (by simp [hrunning])] at hcalls
      change CallHistory ⟨p.left.clientState.requestId, .cancelling⟩
        (callLog (Duplex.lefts past) ++ [])
      rw [CallHistory, if_neg (by simp), List.append_nil]
      exact hcalls

theorem callEntry_terminalEvent (header : ServiceResponseHeader)
    (response : RpcResponse) :
    callEntry (.polled (RpcClientEndpointImpl.terminalEvent header) response) =
      [.ended response.header.requestId] := by
  unfold RpcClientEndpointImpl.terminalEvent
  split_ifs <;> rfl

/-- A response that the client takes is the only one under way, and it passes
the header check. -/
theorem Linked.takes (h : D.Linked p past) {now : UInt64} {pdu : PduData}
    (htaken : p.left.taken D.C now = some pdu) :
    p.left.pendingResponses = [pdu] ∧ p.toLeft = [] ∧
      p.left.validateHeader (RpcClientEndpointImpl.readResponse D.C pdu) =
        true ∧
      ∀ status up down,
        D.Down (p.left.pendingResponses ++ p.toLeft) down →
        D.Phase p.left.clientState status up down p.right.unanswered →
        D.Phase { p.left.clientState with state := .idle } status up []
          p.right.unanswered := by
  have hmem : pdu ∈ p.left.pendingResponses := by
    unfold RpcClientEndpointImpl.taken at htaken
    split_ifs at htaken
    exact List.mem_of_find?_eq_some htaken
  obtain ⟨status, up, down, -, -, hdown, hlink⟩ := h.phase
  obtain ⟨x, rest, hqueue⟩ :
      ∃ x rest, p.left.pendingResponses = x :: rest := by
    cases hqueue : p.left.pendingResponses with
    | nil =>
        rw [hqueue] at hmem
        exact absurd hmem (by simp)
    | cons x rest => exact ⟨x, rest, rfl⟩
  rw [hqueue, List.cons_append] at hdown
  obtain ⟨k, down', hanswers, hrest, rfl⟩ := List.forall₂_cons_left_iff.mp hdown
  obtain ⟨hk, rfl, -⟩ := hlink.respond
  obtain ⟨hnil, htoLeft⟩ := List.append_eq_nil_iff.mp
    (List.forall₂_nil_right_iff.mp hrest)
  rw [hqueue, hnil, List.mem_singleton] at hmem
  subst hmem
  refine ⟨by rw [hqueue, hnil], htoLeft, ?_, ?_⟩
  · obtain ⟨header, hcarries, hid, hservice, hclient, hcode⟩ := hanswers
    rw [RpcClientEndpointImpl.readResponse, hcarries,
      RpcClientEndpointImpl.validateHeader]
    simp [hservice, hclient, hid, hk, hcode, h.client.1, h.client.2]
  · intro status' up' down' hdown' hlink'
    rw [hqueue, List.cons_append] at hdown'
    obtain ⟨k', down'', -, -, rfl⟩ := List.forall₂_cons_left_iff.mp hdown'
    exact hlink'.respond.2.2

theorem Linked.poll (h : D.Linked p past) (now : UInt64)
    (response : RpcResponse) :
    D.Linked (D.machine.step p (.left (.poll now response))).1
      (past ++ (D.machine.step p (.left (.poll now response))).2) := by
  have hstep : D.clientMachine.step p.left (.poll now response) =
      ((p.left.poll D.C now response).1,
        [.polled (p.left.poll D.C now response).2.1
          (p.left.poll D.C now response).2.2]) := rfl
  rcases RpcClientEndpointImpl.poll_cases D.C now p.left response with
    ⟨-, hstate, hevent⟩ | ⟨pdu, htaken, hbusy, hid, hpoll⟩
  · refine h.leftQuiet hstep rfl ?_ (by rw [hstate]; exact h.client)
      (by rw [hstate]) (by rw [hstate])
    rcases hevent with hevent | hevent
    · rw [hevent]
      rfl
    · rw [hevent]
      rfl
  · obtain ⟨hqueue, htoLeft, hvalid, hlink⟩ := h.takes htaken
    rw [hpoll, if_pos hvalid] at hstep
    refine h.left [] hstep rfl h.client ?_ ?_
    · intro status up down _ hdown hphase
      refine ⟨[], [], .nil, ?_, ?_⟩
      · have hmatch : p.left.matchesRequest D.C pdu = true := by
          simpa [RpcClientEndpointImpl.matchesRequest] using hid
        have hempty : (p.left.freed D.C).pendingResponses = [] := by
          simp [RpcClientEndpointImpl.freed, RpcClientEndpointImpl.setState,
            hqueue, hmatch]
        rw [hempty, htoLeft]
        exact .nil
      · rw [List.append_nil]
        exact hlink status up down hdown hphase
    · have hcalls := h.calls
      rw [CallHistory, if_neg hbusy] at hcalls
      obtain ⟨earlier, hearlier, hlog⟩ := hcalls
      have hfree : (p.left.freed D.C).clientState.state = .idle := rfl
      rw [CallHistory, if_pos hfree, List.flatMap_singleton,
        callEntry_terminalEvent, hlog]
      change Ended (earlier ++ [.called p.left.clientState.requestId] ++
        [.ended (RpcClientEndpointImpl.readResponse D.C pdu).requestId])
      rw [hid]
      exact hearlier.append _

/-- A step of the server, once it is known what becomes of the phase. -/
theorem Linked.right (h : D.Linked p past) {j : ServerStep D.C}
    {right : RpcServer} {obs : List ServerObs} (sent : List PduData)
    (hstep : D.serverMachine.step p.right j = (right, obs))
    (hsent : obs.flatMap D.wiring.sendRight = sent)
    (hserver : D.Serves right.endpoint)
    (hphase : ∃ status up down new,
      right.endpoint.status D.clientName = some status ∧
        D.Up (right.endpoint.pendingRequests ++ p.toRight) up ∧
        D.Down (p.left.pendingResponses ++ p.toLeft) down ∧
        D.Down sent new ∧
        D.Phase p.left.clientState status up (down ++ new)
          right.unanswered) :
    D.Linked (D.machine.step p (.right j)).1
      (past ++ (D.machine.step p (.right j)).2) := by
  have hmoved : D.machine.step p (.right j) =
      ({ p with right := right, toLeft := p.toLeft ++ sent },
        obs.map Sum.inr) := by
    simp only [machine, Duplex.machine, Duplex.stepRight, hstep, hsent]
  rw [hmoved]
  constructor
  · exact h.client
  · exact hserver
  · obtain ⟨status, up, down, new, hstatus, hup, hdown, hnew, hlink⟩ := hphase
    refine ⟨status, up, down ++ new, hstatus, hup, ?_, hlink⟩
    change D.Down (p.left.pendingResponses ++ (p.toLeft ++ sent)) _
    rw [← List.append_assoc]
    exact List.rel_append hdown hnew
  · rw [Duplex.lefts_append, Duplex.lefts_inr, List.append_nil]
    exact h.calls

/-- What `poll` of the server does with the oldest packet: a request is handed
out, a cancel request is handed out for the request that both sides are working
on, or it comes too late and changes nothing.  No packet is answered by an
error. -/
theorem Linked.serverPoll_cases (h : D.Linked p past) (request : RpcRequest)
    {pdu : PduData} {rest : List PduData}
    (hqueue : p.right.endpoint.pendingRequests = pdu :: rest) :
    let header := D.C.request.pdu2cpp pdu request.header
    let o := p.right.endpoint.poll D.C D.net request
    o.effects = [] ∧ o.result.2.header = header ∧
      D.Serves o.state ∧ o.state.pendingRequests = rest ∧
      ∃ status up down, D.Up (rest ++ p.toRight) up ∧
        D.Down (p.left.pendingResponses ++ p.toLeft) down ∧
        o.state.status D.clientName = some status ∧
        ((∃ requestId, header = D.header (.request requestId) ∧
            o.result.1 = .requestIn ∧
            D.Phase p.left.clientState status up down
              (p.right.unanswered ++ [header])) ∨
          (∃ requestId, header = D.header (.cancel requestId) ∧
            o.result.1 = .none ∧
            (∀ c, o.state.status c = p.right.endpoint.status c) ∧
            D.Phase p.left.clientState status up down p.right.unanswered) ∨
          ∃ requestId, header = D.header (.cancel requestId) ∧
            o.result.1 = .requestCancel ∧
            p.right.endpoint.status D.clientName =
              some ⟨requestId, .running⟩ ∧
            p.left.clientState = ⟨requestId, .cancelling⟩ ∧
            D.Phase p.left.clientState status up down p.right.unanswered) := by
  intro header o
  obtain ⟨status, messages, down, hstatus, hup, hdown, hlink⟩ := h.phase
  rw [hqueue, List.cons_append] at hup
  obtain ⟨m, up, hcarries, hrest, rfl⟩ := List.forall₂_cons_left_iff.mp hup
  have hheader : header = D.header m := hcarries request.header
  have hserves : D.Serves { p.right.endpoint with pendingRequests := rest } :=
    ⟨h.server.serviceName, h.server.static, h.server.registered⟩
  have hpoll : o = RpcServerEndpointImpl.dispatch D.C D.net
      { p.right.endpoint with pendingRequests := rest }
      { request with pdu := pdu, header := header } :=
    RpcServerEndpointImpl.poll_cons hqueue request
  have hstatus' : ({ p.right.endpoint with pendingRequests := rest } :
      RpcServerEndpointImpl).status D.clientName = some status := hstatus
  cases m with
  | request requestId =>
      obtain ⟨hidle, hnext⟩ := hlink.takeRequest
      rw [hserves.dispatch_request hheader hstatus' hidle] at hpoll
      rw [hpoll]
      refine ⟨rfl, rfl, hserves.writes (Or.inr ⟨_, rfl⟩), rfl,
        ⟨requestId, .running⟩, up, down, hrest, hdown, ?_, ?_⟩
      · rw [RpcServerEndpointImpl.status_setStatus, if_pos rfl, hstatus']
        rfl
      · rw [← hheader] at hnext
        exact Or.inl ⟨requestId, hheader, rfl, hnext⟩
  | cancel requestId =>
      rcases hlink.takeCancel with
        ⟨hidle, hnext⟩ | ⟨rfl, hclient, hnext⟩
      · rw [hserves.dispatch_lateCancel hheader hstatus' hidle] at hpoll
        rw [hpoll]
        exact ⟨rfl, rfl, hserves, rfl, status, up, down, hrest, hdown, hstatus',
          Or.inr (Or.inl ⟨requestId, hheader, rfl, fun _ => rfl, hnext⟩)⟩
      · rw [hserves.dispatch_cancel hheader hstatus'] at hpoll
        rw [hpoll]
        refine ⟨rfl, rfl, hserves.writes (Or.inr ⟨_, rfl⟩), rfl,
          ⟨requestId, .cancelling⟩, up, down, hrest, hdown, ?_, ?_⟩
        · rw [RpcServerEndpointImpl.status_setStatus, if_pos rfl, hstatus']
          rfl
        · exact Or.inr (Or.inr ⟨requestId, hheader, rfl, hstatus, hclient,
            hnext⟩)

theorem Linked.serverPoll (h : D.Linked p past) (request : RpcRequest) :
    D.Linked (D.machine.step p (.right (.poll request))).1
      (past ++ (D.machine.step p (.right (.poll request))).2) := by
  have hstep : D.serverMachine.step p.right (.poll request) =
      ({ endpoint := (p.right.endpoint.poll D.C D.net request).state
         unanswered :=
          if (p.right.endpoint.poll D.C D.net request).result.1 =
              .requestIn then
            p.right.unanswered ++
              [(p.right.endpoint.poll D.C D.net request).result.2.header]
          else p.right.unanswered },
        (p.right.endpoint.poll D.C D.net request).effects.map .sent ++
          [.polled (p.right.endpoint.poll D.C D.net request).result.1
            (p.right.endpoint.poll D.C D.net request).result.2]) := rfl
  cases hqueue : p.right.endpoint.pendingRequests with
  | nil =>
      rw [RpcServerEndpointImpl.poll_nil hqueue] at hstep
      refine h.right [] hstep rfl h.server ?_
      obtain ⟨status, up, down, hstatus, hup, hdown, hlink⟩ := h.phase
      refine ⟨status, up, down, [], hstatus, hup, hdown, .nil, ?_⟩
      rw [List.append_nil]
      exact hlink
  | cons pdu rest =>
      obtain ⟨heffects, hheader, hserves, hrest, status, up, down, hup, hdown,
        hstatus, hcase⟩ := h.serverPoll_cases request hqueue
      rw [heffects] at hstep
      refine h.right [] hstep rfl hserves ?_
      rw [hrest]
      refine ⟨status, up, down, [], hstatus, hup, hdown, .nil, ?_⟩
      rw [List.append_nil]
      rcases hcase with ⟨requestId, -, hevent, hlink⟩ |
          ⟨requestId, -, hevent, -, hlink⟩ | ⟨requestId, -, hevent, -, -, hlink⟩
      · simp only [hevent, if_true, hheader]
        exact hlink
      · simpa only [hevent, if_false, reduceCtorEq] using hlink
      · simpa only [hevent, if_false, reduceCtorEq] using hlink

/-- A reply of the application ends the request that both sides are working
on. -/
theorem Linked.answered (h : D.Linked p past) {header : ServiceRequestHeader}
    (pdu : PduData) (hunanswered : p.right.unanswered = [header])
    (hpdu : D.Answers pdu header.requestId) {j : ServerStep D.C}
    (hstep : D.serverMachine.step p.right j =
      ({ endpoint :=
          (RpcServerEndpointImpl.finish D.net p.right.endpoint
            header.clientName pdu).state
         unanswered := [] },
        (RpcServerEndpointImpl.finish D.net p.right.endpoint
          header.clientName pdu).effects.map .sent)) :
    D.Linked (D.machine.step p (.right j)).1
      (past ++ (D.machine.step p (.right j)).2) := by
  obtain ⟨status, up, down, hstatus, hup, hdown, hlink⟩ := h.phase
  obtain ⟨-, hheader, hbusy, hnext⟩ := hlink.answer
    (show header ∈ p.right.unanswered by simp [hunanswered])
  have hclient : header.clientName = D.clientName := by rw [hheader]; rfl
  have hid : header.requestId = p.left.clientState.requestId := by
    rw [hheader]
    rfl
  rw [hclient] at hstep
  rw [hid] at hpdu
  refine h.right [pdu] hstep ?_ (h.server.writes (Or.inr ⟨_, rfl⟩)) ?_
  · simp [wiring, RpcServerEndpointImpl.finish, D.sends, h.server.serviceName]
  · refine ⟨⟨0, .idle⟩, up, down, [p.left.clientState.requestId], ?_, hup,
      hdown, .cons hpdu .nil, hnext⟩
    change (p.right.endpoint.setStatus D.clientName ⟨0, .idle⟩).status
      D.clientName = _
    rw [RpcServerEndpointImpl.status_setStatus, if_pos rfl, hstatus]
    rfl

theorem Linked.answer (h : D.Linked p past) (kind : ReplyKind) (index : ℕ)
    (status : UInt8) (resultCode : {code : Int32 // code < resultNum})
    (initial : PduData) (body : BodyFill D.C.response) :
    D.Linked
      (D.machine.step p
        (.right (.answer kind index status resultCode initial body))).1
      (past ++ (D.machine.step p
        (.right (.answer kind index status resultCode initial body))).2) := by
  have hnothing (hstep : D.serverMachine.step p.right
      (.answer kind index status resultCode initial body) = (p.right, [])) :
      D.Linked
        (D.machine.step p
          (.right (.answer kind index status resultCode initial body))).1
        (past ++ (D.machine.step p
          (.right (.answer kind index status resultCode initial body))).2) := by
    refine h.right [] hstep rfl h.server ?_
    obtain ⟨st, up, down, hstatus, hup, hdown, hlink⟩ := h.phase
    refine ⟨st, up, down, [], hstatus, hup, hdown, .nil, ?_⟩
    rw [List.append_nil]
    exact hlink
  cases hheader : p.right.unanswered[index]? with
  | none => exact hnothing (by simp [serverMachine, hheader])
  | some header =>
      by_cases hmay : mayAnswer p.right header kind = true
      · obtain ⟨st, up, down, hstatus, hup, hdown, hlink⟩ := h.phase
        obtain ⟨hunanswered, hrequest, hbusy, -⟩ :=
          hlink.answer (List.mem_of_getElem? hheader)
        have hindex : index = 0 := by
          rw [hunanswered, List.getElem?_singleton] at hheader
          by_contra hne
          simp [hne] at hheader
        have hclient : header.clientName = D.clientName := by
          rw [hrequest]
          rfl
        have hstatus' : p.right.endpoint.status header.clientName =
            some st := by
          rw [hclient]
          exact hstatus
        have hsends : (match kind with
            | .reply => p.right.endpoint.sendReply D.net header.clientName
            | .cancelReply =>
                p.right.endpoint.sendCancelReply D.net header.clientName) =
            RpcServerEndpointImpl.finish D.net p.right.endpoint
              header.clientName := by
          funext pdu
          cases kind with
          | reply => simp [RpcServerEndpointImpl.sendReply, hstatus', hbusy]
          | cancelReply =>
              have hcancelling : st.state = .cancelling := by
                simpa [mayAnswer, hstatus'] using hmay
              simp [RpcServerEndpointImpl.sendCancelReply, hstatus',
                hcancelling]
        refine h.answered
          (body.fill (RpcServerEndpointImpl.createReplyBuffer D.C D.net header
            status resultCode.1 initial)) hunanswered ?_ ?_
        · rw [hrequest]
          exact D.reply_answers _ status resultCode initial body
        · have hsend := congrFun hsends
            (body.fill (RpcServerEndpointImpl.createReplyBuffer D.C D.net
              header status resultCode.1 initial))
          subst hindex
          rw [← hsend]
          simp only [serverMachine, hheader, hmay, not_true_eq_false, if_false]
          cases kind with
          | reply => simp [hunanswered]
          | cancelReply => simp [hunanswered]
      · exact hnothing (by simp [serverMachine, hheader, hmay])

theorem Linked.deliverLeft (h : D.Linked p past) :
    D.Linked (D.machine.step p .deliverLeft).1
      (past ++ (D.machine.step p .deliverLeft).2) := by
  cases hqueue : p.toLeft with
  | nil =>
      have hstep : D.machine.step p .deliverLeft = (p, []) := by
        simp [machine, Duplex.machine, hqueue]
      rw [hstep, List.append_nil]
      exact h
  | cons x rest =>
      have hstep : D.machine.step p .deliverLeft =
          ({ p with
              left := p.left.putPendingResponse x
              toLeft := rest }, []) := by
        simp [machine, Duplex.machine, hqueue, Duplex.stepLeft, clientMachine,
          wiring]
      rw [hstep, List.append_nil]
      refine ⟨h.client, h.server, ?_, h.calls⟩
      obtain ⟨status, up, down, hstatus, hup, hdown, hlink⟩ := h.phase
      refine ⟨status, up, down, hstatus, hup, ?_, hlink⟩
      change D.Down ((p.left.pendingResponses ++ [x]) ++ rest) down
      rw [List.append_assoc, List.singleton_append, ← hqueue]
      exact hdown

theorem Linked.deliverRight (h : D.Linked p past) :
    D.Linked (D.machine.step p .deliverRight).1
      (past ++ (D.machine.step p .deliverRight).2) := by
  cases hqueue : p.toRight with
  | nil =>
      have hstep : D.machine.step p .deliverRight = (p, []) := by
        simp [machine, Duplex.machine, hqueue]
      rw [hstep, List.append_nil]
      exact h
  | cons x rest =>
      have hstep : D.machine.step p .deliverRight =
          ({ p with
              right :=
                { p.right with
                  endpoint := p.right.endpoint.putPendingRequest x }
              toRight := rest }, []) := by
        simp [machine, Duplex.machine, hqueue, Duplex.stepRight, serverMachine,
          wiring]
      rw [hstep, List.append_nil]
      refine ⟨h.client,
        ⟨h.server.serviceName, h.server.static, h.server.registered⟩, ?_,
        h.calls⟩
      obtain ⟨status, up, down, hstatus, hup, hdown, hlink⟩ := h.phase
      refine ⟨status, up, down, hstatus, ?_, hdown, hlink⟩
      change D.Up ((p.right.endpoint.pendingRequests ++ [x]) ++ rest) up
      rw [List.append_assoc, List.singleton_append, ← hqueue]
      exact hup

/-- Every step keeps the two sides together. -/
theorem Linked.step (h : D.Linked p past)
    (i : Duplex.Input (ClientStep D.C) (ServerStep D.C)) (hi : Regular i) :
    D.Linked (D.machine.step p i).1 (past ++ (D.machine.step p i).2) := by
  cases i with
  | deliverLeft => exact h.deliverLeft
  | deliverRight => exact h.deliverRight
  | left i =>
      cases i with
      | receive pdu => exact hi.elim
      | create opcode isCancelRequest pdu =>
          exact h.create opcode isCancelRequest pdu
      | request initial body now timeoutUsec =>
          exact h.request initial body now timeoutUsec
      | cancel => exact h.cancel
      | poll now response => exact h.poll now response
  | right j =>
      cases j with
      | receive pdu => exact hi.elim
      | poll request => exact h.serverPoll request
      | answer kind index status resultCode initial body =>
          exact h.answer kind index status resultCode initial body

end Steps

theorem linked_start : D.Linked D.start [] := by
  obtain ⟨client, hclient, hname, hnode⟩ := D.registered
  obtain ⟨hregistered, hknown, hstatic⟩ :=
    RpcServerEndpointImpl.known_initializeService D.serviceName D.config
      D.clientNodeId D.static hclient hnode
  rw [hname] at hregistered hknown
  obtain ⟨status, hstatus⟩ := Option.isSome_iff_exists.mp hknown
  have hidle := RpcServerEndpointImpl.idle_initializeService _ _ _ _ _ hstatus
  have hqueue : (RpcServerEndpointImpl.initializeService D.serviceName
      D.config D.clientNodeId).pendingRequests = [] :=
    RpcServerEndpointImpl.pendingRequests_initializeService _ _ _
  constructor
  · exact ⟨rfl, rfl⟩
  · exact ⟨RpcServerEndpointImpl.serviceName_initializeService _ _ _, hstatic,
      hregistered⟩
  · refine ⟨status, [], [], hstatus, ?_, .nil, .idle rfl hidle (Or.inl rfl)⟩
    change D.Up ((RpcServerEndpointImpl.initializeService D.serviceName
      D.config D.clientNodeId).pendingRequests ++ []) []
    rw [hqueue]
    exact .nil
  · have hstart : D.start.left.clientState.state = .idle := rfl
    rw [CallHistory, if_pos hstart]
    exact ⟨[], rfl⟩

theorem linked_run {is : List (Duplex.Input (ClientStep D.C) (ServerStep D.C))}
    (his : ∀ i ∈ is, Regular i) :
    D.Linked (D.machine.run D.start is) (D.machine.trace D.start is) :=
  D.machine.trace_invariant (C := fun _ i => Regular i)
    (fun _ _ i hi h => h.step i hi) D.linked_start
    (D.machine.along_of_forall (fun i hi _ => his i hi) _)

/-- What the server does with the oldest packet is safe: it is never answered by
an error, a request is handed out, a cancel request is handed out only for the
request that the client is cancelling, and otherwise changes nothing. -/
structure SafePoll (p : Pair) (request : RpcRequest) (pdu : PduData) :
    Prop where
  noError : (p.right.endpoint.poll D.C D.net request).effects = []
  requestIn : (D.C.request.pdu2cpp pdu request.header).opcode =
      operationRequest →
    (p.right.endpoint.poll D.C D.net request).result.1 = .requestIn
  requestCancel :
    (p.right.endpoint.poll D.C D.net request).result.1 = .requestCancel →
    p.left.clientState =
        ⟨(D.C.request.pdu2cpp pdu request.header).requestId, .cancelling⟩ ∧
      p.right.endpoint.status D.clientName =
        some ⟨(D.C.request.pdu2cpp pdu request.header).requestId, .running⟩
  lateCancel :
    (p.right.endpoint.poll D.C D.net request).result.1 = .none →
    ∀ c, (p.right.endpoint.poll D.C D.net request).state.status c =
      p.right.endpoint.status c

variable {D} in
theorem Linked.safePoll {p : Pair} {past : List (ClientObs ⊕ ServerObs)}
    (h : D.Linked p past) (request : RpcRequest) {pdu : PduData}
    {rest : List PduData}
    (hqueue : p.right.endpoint.pendingRequests = pdu :: rest) :
    D.SafePoll p request pdu := by
  obtain ⟨heffects, -, -, -, status, up, down, -, -, -, hcase⟩ :=
    h.serverPoll_cases request hqueue
  rcases hcase with ⟨requestId, hheader, hevent, -⟩ |
      ⟨requestId, hheader, hevent, hsame, -⟩ |
      ⟨requestId, hheader, hevent, hstatus, hclient, -⟩
  · constructor
    · exact heffects
    · intro _
      exact hevent
    · intro hcancel
      rw [hevent] at hcancel
      exact absurd hcancel (by simp)
    · intro hnone
      rw [hevent] at hnone
      exact absurd hnone (by simp)
  · constructor
    · exact heffects
    · intro hopcode
      rw [hheader] at hopcode
      exact absurd hopcode (by simp [header, operationCancel,
        operationRequest])
    · intro hcancel
      rw [hevent] at hcancel
      exact absurd hcancel (by simp)
    · intro _
      exact hsame
  · constructor
    · exact heffects
    · intro hopcode
      rw [hheader] at hopcode
      exact absurd hopcode (by simp [header, operationCancel,
        operationRequest])
    · intro _
      rw [hheader]
      exact ⟨hclient, hstatus⟩
    · intro hnone
      rw [hevent] at hnone
      exact absurd hnone (by simp)

end RpcDeployment

open RpcDeployment in
/-- One client and one server, in any interleaving: no packet is answered by an
error and every request is handed out; a cancel request is handed out only for
the request in flight and is ignored when it comes too late; and the successful
calls and their terminal events take turns, each event with the id of its
call. -/
theorem rpc_protocol_safety (D : RpcDeployment)
    (is : List (Duplex.Input (ClientStep D.C) (ServerStep D.C)))
    (his : ∀ i ∈ is, Regular i) :
    let p := D.machine.run D.start is
    (∀ request pdu rest, p.right.endpoint.pendingRequests = pdu :: rest →
        D.SafePoll p request pdu) ∧
      CallHistory p.left.clientState
        (callLog (Duplex.lefts (D.machine.trace D.start is))) := by
  intro p
  have hlinked := D.linked_run his
  constructor
  · intro request pdu rest hqueue
    exact hlinked.safePoll request hqueue
  · exact hlinked.calls

section Sample

open ServiceLayout

/-- The small instance of the layout module. -/
def sampleService : RpcDeployment where
  C := layoutConvertors
  net := sampleNet
  serviceName := "Add"
  clientName := "Client"
  config := serviceConfig
  clientNodeId := none
  static := rfl
  registered := ⟨⟨"Client", "node"⟩, by simp [serviceConfig], rfl, rfl⟩
  sends _ _ := rfl
  readsRequest header hservice hclient :=
    requestConvertor_readsBack (by decide)
      (by rw [hservice]; unfold Representable; decide +kernel)
      (by rw [hclient]; unfold Representable; decide +kernel)
  readsResponse header hservice hclient :=
    responseConvertor_readsBack (by decide)
      (by rw [hservice]; unfold Representable; decide +kernel)
      (by rw [hclient]; unfold Representable; decide +kernel)

/-- An application that leaves the body empty. -/
def noBody {H : Type} (c : PduConvertor H) : BodyFill c := ⟨id, fun _ _ => rfl⟩

/-- The client cancels its first request while the reply is under way, and sends
a second one; both the late cancel and the second request reach the server. -/
def lateCancel : List (Duplex.Input (ClientStep layoutConvertors)
    (ServerStep layoutConvertors)) :=
  [.left (.request [] (noBody _) 0 0), .deliverRight,
    .right (.poll emptyRequest), .right (.answer .reply 0 3 ⟨0, by decide⟩ []
      (noBody _)), .left .cancel, .deliverLeft,
    .left (.poll 0 ⟨RpcClientEndpointImpl.blankHeader, []⟩),
    .left (.request [] (noBody _) 0 0), .deliverRight, .deliverRight]

theorem lateCancel_regular :
    ∀ i ∈ lateCancel, RpcDeployment.Regular i := by
  simp [lateCancel, RpcDeployment.Regular]

theorem lateCancel_safe :
    (sampleService.machine.run sampleService.start
        lateCancel).right.endpoint.pendingRequests.length = 2 ∧
      (∀ request pdu rest,
        (sampleService.machine.run sampleService.start
          lateCancel).right.endpoint.pendingRequests = pdu :: rest →
        sampleService.SafePoll
          (sampleService.machine.run sampleService.start lateCancel) request
          pdu) ∧
      RpcDeployment.CallHistory
        (sampleService.machine.run sampleService.start
          lateCancel).left.clientState
        (RpcDeployment.callLog (Duplex.lefts
          (sampleService.machine.trace sampleService.start lateCancel))) :=
  ⟨by decide +kernel,
    rpc_protocol_safety sampleService lateCancel lateCancel_regular⟩

end Sample

end Rpc
end HakoPduRpc
