import HakoPduRpc.Rpc.ServiceLayout

/-!
# RPC services and request tokens

`RpcServicesServer` holds one endpoint for each service and finds the endpoint
of a reply by the service name in the request header.  The C interface stores
every request it reports under a token of its own; a reply takes the request
back out and is made with its header.

A reply names a client, not a request.  This module says when a reply ends the
request it was made for and no other: when that request is the last one of its
client that `poll` handed out, or when the client has nothing to answer.
-/

namespace HakoPduRpc
namespace Rpc

/-! ## The services -/

/-- `RpcServicesServer`. -/
structure RpcServicesServer where
  rpcEndpoints : OrdMap String RpcServerEndpointImpl

namespace RpcServicesServer

/-- `initialize_services`, for a configuration without errors. -/
def initializeServices (services : List (String × ServiceConfig))
    (clientNodeId : Option String) : RpcServicesServer :=
  ⟨services.foldl (fun endpoints service =>
    endpoints.assign service.1
      (.initializeService service.1 service.2 clientNodeId)) .empty⟩

/-- The loop of `poll`: endpoint after endpoint, until one reports something.
The request is handed on from one to the next. -/
def pollEndpoints (C : RpcConvertors) (net : String → PduEndpoint) :
    List (String × RpcServerEndpointImpl) → RpcRequest →
      Outcome (List (String × RpcServerEndpointImpl)) Sent
        (ServerEventType × RpcRequest)
  | [], request => { state := [], result := (.none, request) }
  | (name, endpoint) :: rest, request =>
      let o := endpoint.poll C (net name) request
      if o.result.1 ≠ .none then
        { state := (name, o.state) :: rest
          result := o.result
          effects := o.effects }
      else
        let later := pollEndpoints C net rest o.result.2
        { state := (name, o.state) :: later.state
          result := later.result
          effects := o.effects ++ later.effects }

theorem map_fst_pollEndpoints (C : RpcConvertors) (net : String → PduEndpoint)
    (l : List (String × RpcServerEndpointImpl)) (request : RpcRequest) :
    (pollEndpoints C net l request).state.map Prod.fst = l.map Prod.fst := by
  induction l generalizing request with
  | nil => rfl
  | cons e rest ih =>
      obtain ⟨name, endpoint⟩ := e
      rw [pollEndpoints]
      split
      · rfl
      · rw [List.map_cons, List.map_cons, ih]

/-- `poll`. -/
def poll (C : RpcConvertors) (net : String → PduEndpoint)
    (s : RpcServicesServer) (request : RpcRequest) :
    Outcome RpcServicesServer Sent (ServerEventType × RpcRequest) :=
  let o := pollEndpoints C net s.rpcEndpoints.entries request
  { state := ⟨s.rpcEndpoints.replaceValues o.state
      (map_fst_pollEndpoints C net _ request)⟩
    result := o.result
    effects := o.effects }

/-- The receive callback of one service stores a packet. -/
def receive (s : RpcServicesServer) (serviceName : String) (pdu : PduData) :
    RpcServicesServer :=
  ⟨s.rpcEndpoints.modify serviceName (·.putPendingRequest pdu)⟩

/-- The operation `send` of the endpoint that the header belongs to. -/
def withEndpoint (s : RpcServicesServer) (header : ServiceRequestHeader)
    (send : RpcServerEndpointImpl → Outcome RpcServerEndpointImpl Sent Unit) :
    Outcome RpcServicesServer Sent Unit :=
  match s.rpcEndpoints.find? header.serviceName with
  | none => { state := s, result := () }
  | some endpoint =>
      (send endpoint).embed fun endpoint =>
        ⟨s.rpcEndpoints.modify header.serviceName fun _ => endpoint⟩

/-- `send_reply`. -/
def sendReply (net : String → PduEndpoint) (s : RpcServicesServer)
    (header : ServiceRequestHeader) (pdu : PduData) :
    Outcome RpcServicesServer Sent Unit :=
  s.withEndpoint header fun endpoint =>
    endpoint.sendReply (net header.serviceName) header.clientName pdu

/-- `send_cancel_reply`. -/
def sendCancelReply (net : String → PduEndpoint) (s : RpcServicesServer)
    (header : ServiceRequestHeader) (pdu : PduData) :
    Outcome RpcServicesServer Sent Unit :=
  s.withEndpoint header fun endpoint =>
    endpoint.sendCancelReply (net header.serviceName) header.clientName pdu

/-- The status of a client of a service. -/
def status (s : RpcServicesServer) (serviceName clientName : String) :
    Option ServerProcessingStatus :=
  (s.rpcEndpoints.find? serviceName).bind (·.status clientName)

end RpcServicesServer

/-! ## The C interface -/

/-- The two ways to answer a request. -/
inductive ReplyKind
  | reply
  | cancelReply
deriving DecidableEq

/-- The requests that a reply of this kind ends. -/
def ReplyKind.Ends : ReplyKind → ServerState → Prop
  | .reply, state => state ≠ .idle
  | .cancelReply, state => state = .cancelling

/-- How the application names a request when it answers it: by the header that
`poll` gave it, or by the token of the C interface. -/
inductive ReplyTarget
  | header (header : ServiceRequestHeader)
  | token (token : UInt64)

/-- `hako_pdu_rpc_server_handle`, between start and stop. -/
structure RpcServerHandle where
  rpc : RpcServicesServer
  nextToken : UInt64 := 1
  pendingRequests : List (UInt64 × RpcRequest) := []

namespace RpcServerHandle

/-- `copy_pdu` succeeds; without a buffer only an empty packet can be copied. -/
def fits (capacity : Option ℕ) (pdu : PduData) : Bool :=
  match capacity with
  | none => pdu.isEmpty
  | some capacity => pdu.length ≤ capacity

/-- `pending_requests.emplace(token, request)`. -/
def store (h : RpcServerHandle) (request : RpcRequest) : RpcServerHandle :=
  { h with
    nextToken := h.nextToken + 1
    pendingRequests :=
      if (KeyedList.lookup Prod.fst h.nextToken h.pendingRequests).isSome then
        h.pendingRequests
      else h.pendingRequests ++ [(h.nextToken, request)] }

/-- `hako_pdu_rpc_server_poll`; a request that does not fit the caller's buffer
gets no token. -/
def poll (C : RpcConvertors) (net : String → PduEndpoint)
    (h : RpcServerHandle) (request : RpcRequest) (capacity : Option ℕ) :
    Outcome RpcServerHandle Sent (ServerEventType × RpcRequest) :=
  let o := h.rpc.poll C net request
  let polled := { h with rpc := o.state }
  { state :=
      if o.result.1 = .none then polled
      else if fits capacity o.result.2.pdu then polled.store o.result.2
      else polled
    result := o.result
    effects := o.effects }

/-- The request that a reply is made for. -/
def resolve (h : RpcServerHandle) : ReplyTarget → Option ServiceRequestHeader
  | .header header => some header
  | .token token =>
      (KeyedList.lookup Prod.fst token h.pendingRequests).map (·.2.header)

/-- The request is taken out of the table. -/
def take (h : RpcServerHandle) : ReplyTarget → RpcServerHandle
  | .header _ => h
  | .token token =>
      { h with
        pendingRequests :=
          KeyedList.removeFirst Prod.fst token h.pendingRequests }

/-- `send_reply` and `send_cancel_reply` of the services for a header, and of
the C interface for a token. -/
def answer (net : String → PduEndpoint) (h : RpcServerHandle)
    (kind : ReplyKind) (target : ReplyTarget) (pdu : PduData) :
    Outcome RpcServerHandle Sent Unit :=
  match h.resolve target with
  | none => { state := h, result := () }
  | some header =>
      let send := match kind with
        | .reply => RpcServicesServer.sendReply
        | .cancelReply => RpcServicesServer.sendCancelReply
      (send net h.rpc header pdu).embed fun rpc =>
        { h.take target with rpc := rpc }

/-! ## Runs -/

/-- A step of the environment or of the application. -/
inductive Input
  | receive (serviceName : String) (pdu : PduData)
  | poll (net : String → PduEndpoint) (request : RpcRequest)
      (capacity : Option ℕ)
  | answer (net : String → PduEndpoint) (kind : ReplyKind)
      (target : ReplyTarget) (pdu : PduData)

/-- What can be seen of a step. -/
inductive Obs
  | sent (sent : Sent)
  | polled (event : ServerEventType) (request : RpcRequest)

/-- The server under its inputs. -/
def machine (C : RpcConvertors) : Machine RpcServerHandle Input Obs where
  step h
    | .receive serviceName pdu =>
        ({ h with rpc := h.rpc.receive serviceName pdu }, [])
    | .poll net request capacity =>
        let o := h.poll C net request capacity
        (o.state, o.effects.map .sent ++ [.polled o.result.1 o.result.2])
    | .answer net kind target pdu =>
        let o := h.answer net kind target pdu
        (o.state, o.effects.map .sent)

/-- The request that a `REQUEST_IN` event of this client hands out. -/
def dispatchedId (serviceName clientName : String) : Obs → Option UInt32
  | .polled .requestIn request =>
      if request.header.serviceName = serviceName ∧
          request.header.clientName = clientName then
        some request.header.requestId
      else none
  | _ => none

/-- The last request of a client that was handed out. -/
def lastDispatched (serviceName clientName : String) (trace : List Obs) :
    Option UInt32 :=
  (trace.filterMap (dispatchedId serviceName clientName)).getLast?

end RpcServerHandle

/-! ## What a reply ends -/

namespace RpcServerEndpointImpl

/-- Either the client has a request that the reply ends, or nothing happens. -/
theorem sendReply_cases (net : PduEndpoint) (s : RpcServerEndpointImpl)
    (clientName : String) (pdu : PduData) :
    (∃ status, s.status clientName = some status ∧
        ReplyKind.reply.Ends status.state ∧
        s.sendReply net clientName pdu = finish net s clientName pdu) ∨
      (∀ status, s.status clientName = some status →
        ¬ReplyKind.reply.Ends status.state) ∧
        s.sendReply net clientName pdu = { state := s, result := () } := by
  rw [sendReply]
  cases hstatus : s.status clientName with
  | none => exact Or.inr ⟨by simp, rfl⟩
  | some status =>
      by_cases hidle : status.state = .idle
      · exact Or.inr ⟨by simp [ReplyKind.Ends, hidle], by simp [hidle]⟩
      · exact Or.inl ⟨status, rfl, hidle, by simp [hidle]⟩

theorem sendCancelReply_cases (net : PduEndpoint)
    (s : RpcServerEndpointImpl) (clientName : String) (pdu : PduData) :
    (∃ status, s.status clientName = some status ∧
        ReplyKind.cancelReply.Ends status.state ∧
        s.sendCancelReply net clientName pdu = finish net s clientName pdu) ∨
      (∀ status, s.status clientName = some status →
        ¬ReplyKind.cancelReply.Ends status.state) ∧
        s.sendCancelReply net clientName pdu =
          { state := s, result := () } := by
  rw [sendCancelReply]
  cases hstatus : s.status clientName with
  | none => exact Or.inr ⟨by simp, rfl⟩
  | some status =>
      by_cases hcancel : status.state = .cancelling
      · exact Or.inl ⟨status, rfl, hcancel, by simp [hcancel]⟩
      · exact Or.inr ⟨by simp [ReplyKind.Ends, hcancel], by simp [hcancel]⟩

end RpcServerEndpointImpl

theorem ReplyKind.Ends.ne_idle {kind : ReplyKind} {state : ServerState}
    (h : kind.Ends state) : state ≠ .idle := by
  cases kind with
  | reply => exact h
  | cancelReply =>
      rw [show state = .cancelling from h]
      simp

namespace RpcServicesServer

variable {C : RpcConvertors} {net : String → PduEndpoint}

theorem status_modify (s : RpcServicesServer) (name : String)
    {endpoint : RpcServerEndpointImpl}
    (h : s.rpcEndpoints.find? name = some endpoint)
    (f : RpcServerEndpointImpl → RpcServerEndpointImpl)
    (serviceName clientName : String) :
    (⟨s.rpcEndpoints.modify name f⟩ : RpcServicesServer).status serviceName
        clientName =
      if serviceName = name then (f endpoint).status clientName
      else s.status serviceName clientName := by
  rw [status, OrdMap.find?_modify]
  split_ifs with hname
  · rw [h]
    rfl
  · rfl

/-- What the polled endpoints have to do with what `poll` reports. -/
structure Polled (l l' : List (String × RpcServerEndpointImpl))
    (event : ServerEventType) (header : ServiceRequestHeader) : Prop where
  reported : event ≠ .none → header.serviceName ∈ l.map Prod.fst
  named : ∀ name endpoint, (name, endpoint) ∈ l' → endpoint.serviceName = name
  inFlight : ∀ name endpoint', (name, endpoint') ∈ l' → ∀ c after,
    endpoint'.status c = some after → after.state ≠ .idle →
      event = .requestIn ∧ name = header.serviceName ∧
          c = header.clientName ∧ after.requestId = header.requestId ∨
        ¬(event = .requestIn ∧ header.serviceName = name ∧
            header.clientName = c) ∧
          ∃ endpoint before, (name, endpoint) ∈ l ∧
            endpoint.status c = some before ∧ before.state ≠ .idle ∧
            after.requestId = before.requestId

theorem pollEndpoints_polled (net : String → PduEndpoint) {l : List (String × RpcServerEndpointImpl)}
    (hnodup : (l.map Prod.fst).Nodup)
    (hnamed : ∀ name endpoint, (name, endpoint) ∈ l →
      endpoint.serviceName = name) (request : RpcRequest) :
    Polled l (pollEndpoints C net l request).state
      (pollEndpoints C net l request).result.1
      (pollEndpoints C net l request).result.2.header := by
  induction l generalizing request with
  | nil => exact ⟨fun h => absurd rfl h, by simp [pollEndpoints],
      by simp [pollEndpoints]⟩
  | cons e rest ih =>
      obtain ⟨name, endpoint⟩ := e
      simp only [List.map_cons, List.nodup_cons] at hnodup
      have hname : endpoint.serviceName = name :=
        hnamed name endpoint (by simp)
      have hrest : ∀ n ep, (n, ep) ∈ rest → ep.serviceName = n :=
        fun n ep h => hnamed n ep (by simp [h])
      have hfirst : (endpoint.poll C (net name) request).state.serviceName =
          name := (RpcServerEndpointImpl.serviceName_poll request).trans hname
      rw [pollEndpoints]
      by_cases hevent :
          (endpoint.poll C (net name) request).result.1 = .none
      · rw [if_neg (by simpa using hevent)]
        have hlater := ih hnodup.2 hrest
          (endpoint.poll C (net name) request).result.2
        constructor
        · intro h
          exact List.mem_cons_of_mem _ (hlater.reported h)
        · intro n ep hmem
          rcases List.mem_cons.mp hmem with heq | hmem
          · cases heq
            exact hfirst
          · exact hlater.named n ep hmem
        · intro n ep hmem c after hafter hbusy
          rcases List.mem_cons.mp hmem with heq | hmem
          · cases heq
            rcases RpcServerEndpointImpl.poll_inFlight hafter hbusy with
              ⟨hin, -⟩ | ⟨-, before, hbefore, hstill, hid⟩
            · rw [hevent] at hin
              exact absurd hin (by simp)
            · refine Or.inr ⟨?_, endpoint, before, by simp, hbefore, hstill,
                hid⟩
              rintro ⟨hin, hservice, -⟩
              have hmem := hlater.reported (by
                intro hnone
                exact absurd (hin.symm.trans hnone) (by simp))
              exact hnodup.1 (hservice ▸ hmem)
          · rcases hlater.inFlight n ep hmem c after hafter hbusy with
              hin | ⟨hnot, ep', before, hmem', hrest'⟩
            · exact Or.inl hin
            · exact Or.inr ⟨hnot, ep', before, List.mem_cons_of_mem _ hmem',
                hrest'⟩
      · rw [if_pos hevent]
        have hservice := RpcServerEndpointImpl.poll_serviceName hevent
        rw [hname] at hservice
        constructor
        · intro _
          rw [hservice]
          simp
        · intro n ep hmem
          rcases List.mem_cons.mp hmem with heq | hmem
          · cases heq
            exact hfirst
          · exact hrest n ep hmem
        · intro n ep hmem c after hafter hbusy
          rcases List.mem_cons.mp hmem with heq | hmem
          · cases heq
            rcases RpcServerEndpointImpl.poll_inFlight hafter hbusy with
              ⟨hin, hc, hid⟩ | ⟨hnot, before, hbefore, hstill, hid⟩
            · exact Or.inl ⟨hin, hservice.symm, hc, hid⟩
            · refine Or.inr ⟨?_, endpoint, before, by simp, hbefore, hstill,
                hid⟩
              rintro ⟨hin, -, hc⟩
              exact hnot hin hc.symm
          · refine Or.inr ⟨?_, ep, after, by simp [hmem], hafter, hbusy, rfl⟩
            rintro ⟨-, hsame, -⟩
            have hkey : n ∈ rest.map Prod.fst :=
              List.mem_map_of_mem (f := Prod.fst) hmem
            rw [← hsame, hservice] at hkey
            exact hnodup.1 hkey

end RpcServicesServer

namespace RpcServerHandle

/-! ### The request in flight is the last one handed out -/

theorem lastDispatched_sent (name c : String) (past : List Obs)
    (l : List Sent) :
    lastDispatched name c (past ++ l.map .sent) =
      lastDispatched name c past := by
  have hnone : (l.map Obs.sent).filterMap (dispatchedId name c) = [] := by
    rw [List.filterMap_map, List.filterMap_eq_nil_iff]
    intro _ _
    rfl
  rw [lastDispatched, List.filterMap_append, hnone, List.append_nil]
  rfl

theorem lastDispatched_polled (name c : String) (past : List Obs)
    (l : List Sent) (event : ServerEventType) (request : RpcRequest) :
    lastDispatched name c (past ++ (l.map .sent ++ [.polled event request])) =
      if event = .requestIn ∧ request.header.serviceName = name ∧
          request.header.clientName = c then
        some request.header.requestId
      else lastDispatched name c past := by
  rw [← List.append_assoc, lastDispatched, List.filterMap_append]
  have hsent := lastDispatched_sent name c past l
  rw [lastDispatched] at hsent
  cases event with
  | none => simpa [dispatchedId] using hsent
  | requestCancel => simpa [dispatchedId] using hsent
  | requestIn =>
      by_cases hmatch : request.header.serviceName = name ∧
          request.header.clientName = c
      · simp [dispatchedId, hmatch]
      · have hlast : [Obs.polled .requestIn request].filterMap
            (dispatchedId name c) = [] := by
          simp only [List.filterMap_cons, dispatchedId, if_neg hmatch,
            List.filterMap_nil]
        rw [hlast, List.append_nil, hsent, if_neg (fun h => hmatch h.2)]

/-- The endpoints have the names of their services, and a request in flight is
the last one of its client that was handed out. -/
structure Tracked (h : RpcServerHandle) (past : List Obs) : Prop where
  named : ∀ name endpoint, h.rpc.rpcEndpoints.find? name = some endpoint →
    endpoint.serviceName = name
  inFlight : ∀ name c status, h.rpc.status name c = some status →
    status.state ≠ .idle → lastDispatched name c past = some status.requestId

variable {C : RpcConvertors} {net : String → PduEndpoint}
  {h : RpcServerHandle} {past : List Obs}

/-- What an answer does to the services: it ends the request of its client, or
nothing. -/
theorem answer_cases (net : String → PduEndpoint) (h : RpcServerHandle)
    (kind : ReplyKind) (target : ReplyTarget) (pdu : PduData)
    {header : ServiceRequestHeader} (hheader : h.resolve target = some header) :
    (∃ endpoint status,
        h.rpc.rpcEndpoints.find? header.serviceName = some endpoint ∧
        endpoint.status header.clientName = some status ∧
        kind.Ends status.state ∧
        (h.answer net kind target pdu).state.rpc =
          ⟨h.rpc.rpcEndpoints.modify header.serviceName fun _ =>
            endpoint.setStatus header.clientName ⟨0, .idle⟩⟩ ∧
        (h.answer net kind target pdu).effects ≠ []) ∨
      (∀ status,
        h.rpc.status header.serviceName header.clientName = some status →
          ¬kind.Ends status.state) ∧
        (h.answer net kind target pdu).state.rpc = h.rpc ∧
        (h.answer net kind target pdu).effects = [] := by
  simp only [answer, hheader]
  cases hendpoint : h.rpc.rpcEndpoints.find? header.serviceName with
  | none =>
      right
      constructor
      · intro status hstatus
        rw [RpcServicesServer.status, hendpoint] at hstatus
        exact absurd hstatus (by simp)
      · cases kind <;>
          simp [RpcServicesServer.sendReply,
            RpcServicesServer.sendCancelReply,
            RpcServicesServer.withEndpoint, hendpoint]
  | some endpoint =>
      have hknown : ∀ status,
          h.rpc.status header.serviceName header.clientName = some status ↔
            endpoint.status header.clientName = some status := by
        intro status
        rw [RpcServicesServer.status, hendpoint, Option.bind_some]
      have hself : (⟨h.rpc.rpcEndpoints.modify header.serviceName
          fun _ => endpoint⟩ : RpcServicesServer) = h.rpc := by
        rw [OrdMap.modify_eq_self hendpoint rfl]
      cases kind with
      | reply =>
          rcases RpcServerEndpointImpl.sendReply_cases (net header.serviceName)
              endpoint header.clientName pdu with
            ⟨status, hstatus, hends, hsend⟩ | ⟨hnot, hsend⟩
          · left
            refine ⟨endpoint, status, rfl, hstatus, hends, ?_, ?_⟩
            all_goals simp [RpcServicesServer.sendReply,
              RpcServicesServer.withEndpoint, hendpoint, hsend,
              RpcServerEndpointImpl.finish]
          · right
            refine ⟨fun status hstatus => hnot status
              ((hknown status).mp hstatus), ?_, ?_⟩
            all_goals simp [RpcServicesServer.sendReply,
              RpcServicesServer.withEndpoint, hendpoint, hsend, hself]
      | cancelReply =>
          rcases RpcServerEndpointImpl.sendCancelReply_cases (net header.serviceName)
              endpoint header.clientName pdu with
            ⟨status, hstatus, hends, hsend⟩ | ⟨hnot, hsend⟩
          · left
            refine ⟨endpoint, status, rfl, hstatus, hends, ?_, ?_⟩
            all_goals simp [RpcServicesServer.sendCancelReply,
              RpcServicesServer.withEndpoint, hendpoint, hsend,
              RpcServerEndpointImpl.finish]
          · right
            refine ⟨fun status hstatus => hnot status
              ((hknown status).mp hstatus), ?_, ?_⟩
            all_goals simp [RpcServicesServer.sendCancelReply,
              RpcServicesServer.withEndpoint, hendpoint, hsend, hself]

theorem Tracked.receive (ht : Tracked h past) (name : String)
    (pdu : PduData) :
    Tracked { h with rpc := h.rpc.receive name pdu } past := by
  cases hendpoint : h.rpc.rpcEndpoints.find? name with
  | none =>
      have hsame : ∀ name', (h.rpc.receive name pdu).rpcEndpoints.find? name' =
          h.rpc.rpcEndpoints.find? name' := by
        intro name'
        rw [RpcServicesServer.receive, OrdMap.find?_modify]
        split_ifs with hname
        · rw [hname, hendpoint]
          rfl
        · rfl
      constructor
      · intro name' endpoint hfind
        rw [hsame] at hfind
        exact ht.named name' endpoint hfind
      · intro name' c status hstatus
        rw [RpcServicesServer.status, hsame] at hstatus
        exact ht.inFlight name' c status hstatus
  | some endpoint =>
      constructor
      · intro name' endpoint' hfind
        rw [RpcServicesServer.receive, OrdMap.find?_modify] at hfind
        split_ifs at hfind with hname
        · rw [hendpoint, Option.map_some, Option.some.injEq] at hfind
          rw [← hfind, hname]
          exact ht.named name endpoint hendpoint
        · exact ht.named name' endpoint' hfind
      · intro name' c status hstatus
        rw [RpcServicesServer.receive,
          RpcServicesServer.status_modify h.rpc name hendpoint] at hstatus
        split_ifs at hstatus with hname
        · refine ht.inFlight name' c status ?_
          rw [RpcServicesServer.status, hname, hendpoint]
          exact hstatus
        · exact ht.inFlight name' c status hstatus

theorem Tracked.answer (ht : Tracked h past) (net : String → PduEndpoint)
    (kind : ReplyKind) (target : ReplyTarget) (pdu : PduData) :
    Tracked (h.answer net kind target pdu).state
      (past ++ (h.answer net kind target pdu).effects.map .sent) := by
  cases hheader : h.resolve target with
  | none =>
      have hnothing : h.answer net kind target pdu =
          { state := h, result := () } := by
        simp only [RpcServerHandle.answer, hheader]
      rw [hnothing]
      simpa using ht
  | some header =>
      rcases answer_cases net h kind target pdu hheader with
        ⟨endpoint, status, hendpoint, -, -, hstate, -⟩ | ⟨-, hstate, -⟩
      · constructor
        · intro name endpoint' hfind
          rw [hstate, OrdMap.find?_modify] at hfind
          split_ifs at hfind with hname
          · rw [hendpoint, Option.map_some, Option.some.injEq] at hfind
            rw [← hfind, hname]
            exact ht.named _ endpoint hendpoint
          · exact ht.named name endpoint' hfind
        · intro name c after hafter hbusy
          rw [lastDispatched_sent]
          rw [hstate, RpcServicesServer.status_modify h.rpc _ hendpoint]
            at hafter
          split_ifs at hafter with hname
          · rw [RpcServerEndpointImpl.status_setStatus] at hafter
            split_ifs at hafter with hc
            · obtain ⟨_, -, hidle⟩ := Option.map_eq_some_iff.mp hafter
              rw [← hidle] at hbusy
              exact absurd rfl hbusy
            · refine ht.inFlight name c after ?_ hbusy
              rw [RpcServicesServer.status, hname, hendpoint]
              exact hafter
          · exact ht.inFlight name c after hafter hbusy
      · constructor
        · intro name endpoint hfind
          rw [hstate] at hfind
          exact ht.named name endpoint hfind
        · intro name c after hafter hbusy
          rw [hstate] at hafter
          rw [lastDispatched_sent]
          exact ht.inFlight name c after hafter hbusy

theorem poll_rpc (C : RpcConvertors) (net : String → PduEndpoint)
    (request : RpcRequest) (capacity : Option ℕ) :
    (h.poll C net request capacity).state.rpc =
      (h.rpc.poll C net request).state := by
  simp only [RpcServerHandle.poll]
  split_ifs <;> rfl

theorem Tracked.poll (ht : Tracked h past) (net : String → PduEndpoint)
    (request : RpcRequest) (capacity : Option ℕ) :
    Tracked (h.poll C net request capacity).state
      (past ++ ((h.poll C net request capacity).effects.map .sent ++
        [.polled (h.poll C net request capacity).result.1
          (h.poll C net request capacity).result.2])) := by
  have hpolled := RpcServicesServer.pollEndpoints_polled (C := C) net
    h.rpc.rpcEndpoints.nodup_keys
    (fun name endpoint hmem =>
      ht.named name endpoint (OrdMap.mem_entries_iff.mp hmem)) request
  constructor
  · intro name endpoint hfind
    rw [poll_rpc] at hfind
    exact hpolled.named name endpoint (OrdMap.mem_entries_iff.mpr hfind)
  · intro name c after hafter hbusy
    rw [poll_rpc, RpcServicesServer.status] at hafter
    obtain ⟨endpoint', hfind, hstatus⟩ := Option.bind_eq_some_iff.mp hafter
    rw [lastDispatched_polled]
    rcases hpolled.inFlight name endpoint' (OrdMap.mem_entries_iff.mpr hfind)
        c after hstatus hbusy with
      ⟨hin, hname, hc, hid⟩ | ⟨hnot, endpoint, before, hmem, hbefore, hstill,
        hid⟩
    · rw [if_pos ⟨hin, hname.symm, hc.symm⟩]
      exact congrArg some hid.symm
    · refine (if_neg hnot).trans ?_
      rw [hid]
      refine ht.inFlight name c before ?_ hstill
      rw [RpcServicesServer.status, OrdMap.mem_entries_iff.mp hmem]
      exact hbefore

theorem Tracked.step (ht : Tracked h past) (i : Input) :
    Tracked ((machine C).step h i).1 (past ++ ((machine C).step h i).2) := by
  cases i with
  | receive name pdu =>
      have hreceive := ht.receive name pdu
      simpa [machine] using hreceive
  | poll net request capacity => exact ht.poll net request capacity
  | answer net kind target pdu => exact ht.answer net kind target pdu

/-- The server as it starts. -/
def started (services : List (String × ServiceConfig))
    (clientNodeId : Option String) : RpcServerHandle :=
  { rpc := .initializeServices services clientNodeId }

theorem tracked_started (services : List (String × ServiceConfig))
    (clientNodeId : Option String) :
    Tracked (started services clientNodeId) [] := by
  have hfind : ∀ name endpoint,
      (started services clientNodeId).rpc.rpcEndpoints.find? name =
        some endpoint →
      ∃ config, endpoint =
        .initializeService name config clientNodeId := by
    simp only [started, RpcServicesServer.initializeServices]
    apply List.foldlRecOn services _
      (motive := fun m : OrdMap String RpcServerEndpointImpl =>
        ∀ name endpoint, m.find? name = some endpoint →
          ∃ config, endpoint = .initializeService name config clientNodeId)
    · intro name endpoint h
      simp at h
    · intro m hm service _ name endpoint h
      rw [OrdMap.find?_assign] at h
      split_ifs at h with hname
      · rw [Option.some.injEq] at h
        exact ⟨service.2, by rw [← h, hname]⟩
      · exact hm name endpoint h
  constructor
  · intro name endpoint h
    obtain ⟨config, rfl⟩ := hfind name endpoint h
    exact RpcServerEndpointImpl.serviceName_initializeService _ _ _
  · intro name c status hstatus hbusy
    obtain ⟨endpoint, hendpoint, hc⟩ := Option.bind_eq_some_iff.mp hstatus
    obtain ⟨config, rfl⟩ := hfind name endpoint hendpoint
    exact absurd (RpcServerEndpointImpl.idle_initializeService _ _ _ _ _ hc)
      hbusy

theorem tracked_run (services : List (String × ServiceConfig))
    (clientNodeId : Option String) (is : List Input) :
    Tracked ((machine C).run (started services clientNodeId) is)
      ((machine C).trace (started services clientNodeId) is) :=
  (machine C).trace_invariant (C := fun _ _ => True)
    (fun _ _ i _ ht => ht.step i) (tracked_started services clientNodeId)
    ((machine C).along_of_forall (fun _ _ _ => trivial) _)

/-! ### Replies -/

/-- The reply changes the status of its client, or sends a response, only if the
request it is made for is in flight. -/
def FinishesOwn (net : String → PduEndpoint) (h : RpcServerHandle)
    (kind : ReplyKind) (target : ReplyTarget) (pdu : PduData) : Prop :=
  ∀ header, h.resolve target = some header →
    ((h.answer net kind target pdu).state.rpc.status header.serviceName
          header.clientName ≠
        h.rpc.status header.serviceName header.clientName ∨
      (h.answer net kind target pdu).effects ≠ []) →
    ∃ status, h.rpc.status header.serviceName header.clientName =
        some status ∧
      status.state ≠ .idle ∧ status.requestId = header.requestId

/-- The reply is made for the last request of its client that was handed out, or
the client has no request that a reply of this kind ends. -/
def Timely (past : List Obs) (h : RpcServerHandle) (kind : ReplyKind)
    (target : ReplyTarget) : Prop :=
  ∀ header, h.resolve target = some header →
    lastDispatched header.serviceName header.clientName past =
        some header.requestId ∨
      ∀ status,
        h.rpc.status header.serviceName header.clientName = some status →
          ¬kind.Ends status.state

theorem Tracked.finishesOwn_iff (ht : Tracked h past)
    (net : String → PduEndpoint) (kind : ReplyKind) (target : ReplyTarget)
    (pdu : PduData) :
    FinishesOwn net h kind target pdu ↔ Timely past h kind target := by
  refine forall₂_congr fun header hheader => ?_
  rcases answer_cases net h kind target pdu hheader with
    ⟨endpoint, status, hendpoint, hstatus, hends, -, heffects⟩ |
      ⟨hnot, hstate, heffects⟩
  · have hknown : h.rpc.status header.serviceName header.clientName =
        some status := by
      rw [RpcServicesServer.status, hendpoint]
      exact hstatus
    have hlast := ht.inFlight _ _ status hknown hends.ne_idle
    rw [hlast]
    constructor
    · intro hown
      obtain ⟨status', hstatus', -, hid⟩ := hown (Or.inr heffects)
      rw [hknown, Option.some.injEq] at hstatus'
      left
      rw [hstatus', hid]
    · rintro (hid | hnot) _
      · exact ⟨status, hknown, hends.ne_idle, Option.some.inj hid⟩
      · exact absurd hends (hnot status hknown)
  · constructor
    · intro _
      exact Or.inr hnot
    · rintro - (hchange | hsent)
      · rw [hstate] at hchange
        exact absurd rfl hchange
      · exact absurd heffects hsent

end RpcServerHandle

open RpcServerHandle in
/-- In every run of the server, a reply ends the request it was made for and no
other exactly when that request is the last one of its client that was handed
out, or the client has nothing that the reply would end. -/
theorem reply_finishes_own_request_iff (C : RpcConvertors)
    (services : List (String × ServiceConfig)) (clientNodeId : Option String)
    (is : List RpcServerHandle.Input) (net : String → PduEndpoint)
    (kind : ReplyKind) (target : ReplyTarget) (pdu : PduData) :
    let start := started services clientNodeId
    let h := (RpcServerHandle.machine C).run start is
    FinishesOwn net h kind target pdu ↔
      Timely ((RpcServerHandle.machine C).trace start is) h kind target := by
  intro start h
  exact (tracked_run services clientNodeId is).finishesOwn_iff net kind target
    pdu

open RpcServerHandle ServiceLayout in
/-- A request is cancelled and answered by its first token; its second token
then ends the next request of the client. -/
theorem staleToken_ends_newer_request :
    ¬∀ (is : List RpcServerHandle.Input) (net : String → PduEndpoint)
        (kind : ReplyKind) (target : ReplyTarget) (pdu : PduData),
      FinishesOwn net
        ((RpcServerHandle.machine layoutConvertors).run
          (started [("Add", serviceConfig)] none) is) kind target pdu := by
  intro h
  have hown := h [.receive "Add" (servicePacket 1 operationRequest),
    .poll (fun _ => sampleNet) emptyRequest (some 300),
    .receive "Add" (servicePacket 1 operationCancel),
    .poll (fun _ => sampleNet) emptyRequest (some 300),
    .answer (fun _ => sampleNet) .reply (.token 1) [],
    .receive "Add" (servicePacket 2 operationRequest),
    .poll (fun _ => sampleNet) emptyRequest (some 300)]
    (fun _ => sampleNet) .reply (.token 2) []
    ⟨1, "Add", "Client", operationCancel, 0⟩ (by decide +kernel)
    (Or.inr (by decide +kernel))
  obtain ⟨status, hstatus, -, hid⟩ := hown
  have hrunning : some (⟨2, .running⟩ : ServerProcessingStatus) =
      some status := by
    rw [← hstatus]
    decide +kernel
  rw [← Option.some.inj hrunning] at hid
  exact absurd hid (by decide)

end Rpc
end HakoPduRpc
