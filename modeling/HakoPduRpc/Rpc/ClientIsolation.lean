import HakoPduRpc.Lib.Observer
import HakoPduRpc.Rpc.ServiceLayout

/-!
# The clients of a service do not interfere

All clients of an RPC server endpoint share one queue, one `poll` and one map of
states.  This module shows that none of them notices the others: for a
registered client the endpoint behaves like `solo`, an endpoint that serves this
client alone and is handed only the steps of this client.

A step of a client is a packet taken by `poll` whose header names the client, or
a reply made for it.  Whether `Endpoint::send` succeeds is not part of a step:
neither the state nor the events depend on it.
-/

namespace HakoPduRpc
namespace Rpc
namespace RpcServerEndpointImpl

/-! ## The steps of one client -/

/-- A step that concerns one client.  The request of a packet holds its header
and its bytes, and the `client_name` of the object passed to `poll`. -/
inductive ClientStep
  | packet (request : RpcRequest)
  | reply (pdu : PduData)
  | cancelReply (pdu : PduData)
deriving DecidableEq

/-- What one client's part of a run consists of: the events reported for it and
the packets handed to `Endpoint::send` for it. -/
inductive ClientObs
  | event (type : ServerEventType) (request : RpcRequest)
  | packet (pdu : PduData)
deriving DecidableEq

/-- The request that `poll` makes of the packet in front of the queue. -/
def taken (C : RpcConvertors) (request : RpcRequest) (pdu : PduData) :
    RpcRequest :=
  { request with
    pdu := pdu
    header := C.request.pdu2cpp pdu request.header }

theorem poll_taken {C : RpcConvertors} {net : PduEndpoint}
    {s : RpcServerEndpointImpl} {request : RpcRequest} {pdu : PduData}
    {rest : List PduData} (h : s.pendingRequests = pdu :: rest) :
    s.poll C net request =
      dispatch C net { s with pendingRequests := rest }
        (taken C request pdu) :=
  poll_cons h request

/-- The steps of a client in one step of the endpoint. -/
def clientSteps (C : RpcConvertors) (c : String) (s : RpcServerEndpointImpl) :
    Input → List ClientStep
  | .poll _ request =>
      match s.pendingRequests with
      | [] => []
      | pdu :: _ =>
          if (taken C request pdu).header.clientName = c then
            [.packet (taken C request pdu)]
          else []
  | .sendReply _ clientName pdu =>
      if clientName = c then [.reply pdu] else []
  | .sendCancelReply _ clientName pdu =>
      if clientName = c then [.cancelReply pdu] else []
  | .receive _ | .clearPendingRequests => []

/-- What is seen of a client. -/
def observeClient (serviceName c : String) : Obs → List ClientObs
  | .sent sent =>
      if sent.key = ⟨serviceName, c ++ "Res"⟩ then [.packet sent.data] else []
  | .polled type request =>
      if type ≠ .none ∧ request.header.clientName = c then
        [.event type request]
      else []

/-! ## An endpoint for one client -/

/-- The endpoint that serves one client only. -/
def solo (serviceName c : String) (status : Option ServerProcessingStatus) :
    RpcServerEndpointImpl where
  serviceName := serviceName
  maxClients := 1
  dynamicClient := false
  registeredClients := [c]
  serverStates :=
    match status with
    | none => .empty
    | some status => OrdMap.empty.assign c status
  pendingRequests := []

/-- A PDU endpoint with the given PDU sizes that takes every packet. -/
def sizedNet (sizes : PduKey → ℕ) : PduEndpoint where
  send _ _ := true
  getPduSize := sizes
  hasPduDefinition := true

/-- The endpoint of one client as a machine over the steps of that client; its
state is the entry of the client in `server_states_`. -/
def soloMachine (C : RpcConvertors) (sizes : PduKey → ℕ)
    (serviceName c : String) :
    Machine (Option ServerProcessingStatus) ClientStep ClientObs where
  step status step :=
    let s := solo serviceName c status
    match step with
    | .packet request =>
        let o := s.dispatch C (sizedNet sizes) request
        (o.state.status c,
          (o.effects.map Obs.sent ++
            [Obs.polled o.result.1 o.result.2]).flatMap
            (observeClient serviceName c))
    | .reply pdu =>
        let o := s.sendReply (sizedNet sizes) c pdu
        (o.state.status c,
          (o.effects.map Obs.sent).flatMap (observeClient serviceName c))
    | .cancelReply pdu =>
        let o := s.sendCancelReply (sizedNet sizes) c pdu
        (o.state.status c,
          (o.effects.map Obs.sent).flatMap (observeClient serviceName c))

/-! ## Endpoints that agree on a client -/

/-- Two static endpoints look the same to the client. -/
structure Agree (c : String) (s t : RpcServerEndpointImpl) : Prop where
  serviceName_eq : s.serviceName = t.serviceName
  isStatic : s.dynamicClient = false ∧ t.dynamicClient = false
  registered : c ∈ s.registeredClients ∧ c ∈ t.registeredClients
  status_eq : s.status c = t.status c

/-- The packets that an operation hands to `Endpoint::send`. -/
def packets {α : Type} (o : Outcome RpcServerEndpointImpl Sent α) :
    List (PduKey × PduData) :=
  o.effects.map fun sent => (sent.key, sent.data)

/-- Two operations look the same to the client. -/
structure Alike {α : Type} (c : String)
    (o o' : Outcome RpcServerEndpointImpl Sent α) : Prop where
  result_eq : o.result = o'.result
  packets_eq : packets o = packets o'
  status_eq : o.state.status c = o'.state.status c

section Agree

variable {C : RpcConvertors} {net net' : PduEndpoint} {c : String}
  {s t : RpcServerEndpointImpl}

theorem Agree.finish (h : Agree c s t) (pdu : PduData) :
    Alike c (finish net s c pdu) (finish net' t c pdu) where
  result_eq := rfl
  packets_eq := by
    simp only [packets, RpcServerEndpointImpl.finish, List.map_cons,
      List.map_nil, h.serviceName_eq]
  status_eq := by
    simp only [RpcServerEndpointImpl.finish, status_setStatus, if_true,
      h.status_eq]

theorem Agree.sendReply (h : Agree c s t) (pdu : PduData) :
    Alike c (s.sendReply net c pdu) (t.sendReply net' c pdu) := by
  unfold RpcServerEndpointImpl.sendReply
  rw [h.status_eq]
  split
  · exact ⟨rfl, rfl, h.status_eq⟩
  · split
    · exact ⟨rfl, rfl, h.status_eq⟩
    · exact h.finish pdu

theorem Agree.sendCancelReply (h : Agree c s t) (pdu : PduData) :
    Alike c (s.sendCancelReply net c pdu) (t.sendCancelReply net' c pdu) := by
  unfold RpcServerEndpointImpl.sendCancelReply
  rw [h.status_eq]
  split
  · exact ⟨rfl, rfl, h.status_eq⟩
  · split
    · exact ⟨rfl, rfl, h.status_eq⟩
    · exact h.finish pdu

theorem Alike.unreported {o o' : Outcome RpcServerEndpointImpl Sent Unit}
    (h : Alike c o o') (request : RpcRequest) :
    Alike c (unreported request o) (unreported request o') :=
  ⟨rfl, h.packets_eq, h.status_eq⟩

/-- The header check of a static endpoint registers nobody. -/
theorem validateHeader_fst_static (net : PduEndpoint)
    (hstatic : s.dynamicClient = false) (header : ServiceRequestHeader) :
    (s.validateHeader net header).1 = s := by
  unfold validateHeader
  simp only [hstatic, Bool.false_eq_true, if_false]
  split_ifs <;> rfl

/-- The header check of a static endpoint, for a registered client. -/
theorem validateHeader_static (hstatic : s.dynamicClient = false)
    {header : ServiceRequestHeader}
    (hregistered : header.clientName ∈ s.registeredClients) :
    s.validateHeader net header =
      (s, decide (header.serviceName = s.serviceName ∧
        header.opcode < operationNum)) := by
  unfold validateHeader
  rw [hstatic]
  by_cases hname : header.serviceName = s.serviceName
  · by_cases hopcode : header.opcode < operationNum
    · simp [hname, hregistered, hopcode]
    · simp [hname, hregistered, UInt8.not_lt.mp hopcode, hopcode]
  · simp [hname]

variable {request : RpcRequest} (h : Agree c s t)
  (hclient : request.header.clientName = c)
  (hsizes : net.getPduSize = net'.getPduSize)

include h hclient hsizes

theorem Agree.sendErrorReply (resultCode : Int32) :
    Alike c (s.sendErrorReply C net request.header resultCode)
      (t.sendErrorReply C net' request.header resultCode) := by
  unfold RpcServerEndpointImpl.sendErrorReply createReplyBuffer
  rw [hclient, hsizes]
  exact h.sendReply _

omit hsizes in
theorem Agree.setStatus {status : ServerProcessingStatus}
    {result : ServerEventType × RpcRequest} :
    Alike c
      { state := s.setStatus request.header.clientName status
        result := result }
      { state := t.setStatus request.header.clientName status
        result := result } where
  result_eq := rfl
  packets_eq := rfl
  status_eq := by
    simp only [hclient, status_setStatus, if_true, h.status_eq]

/-- A packet of the client does the same at both endpoints. -/
theorem Agree.dispatch :
    Alike c (dispatch C net s request) (dispatch C net' t request) := by
  have herror (code : Int32) :
      Alike c (unreported request (s.sendErrorReply C net request.header code))
        (unreported request (t.sendErrorReply C net' request.header code)) :=
    (h.sendErrorReply hclient hsizes code).unreported request
  unfold RpcServerEndpointImpl.dispatch
  rw [validateHeader_static h.isStatic.1 (hclient ▸ h.registered.1),
    validateHeader_static h.isStatic.2 (hclient ▸ h.registered.2),
    h.serviceName_eq]
  cases decide (request.header.serviceName = t.serviceName ∧
      request.header.opcode < operationNum) with
  | false => exact herror resultError
  | true =>
      simp only
      rw [show s.status request.header.clientName =
        t.status request.header.clientName by rw [hclient, h.status_eq]]
      cases t.status request.header.clientName with
      | none => exact herror resultInvalid
      | some status =>
          simp only
          split
          · unfold handleCancelRequest
            split
            · split
              · exact herror resultInvalid
              · exact h.setStatus hclient
            · exact ⟨rfl, rfl, h.status_eq⟩
            · exact herror resultBusy
          · unfold handleRequestIn
            split
            · exact h.setStatus hclient
            · exact herror resultBusy
            · exact herror resultBusy

end Agree

/-! ## What is seen of a client -/

section Seen

variable {C : RpcConvertors} {net : PduEndpoint} {serviceName c : String}
  {s : RpcServerEndpointImpl}

theorem seen_packets {α : Type} {o o' : Outcome RpcServerEndpointImpl Sent α}
    (h : packets o = packets o') :
    (o.effects.map Obs.sent).flatMap (observeClient serviceName c) =
      (o'.effects.map Obs.sent).flatMap (observeClient serviceName c) := by
  have hseen (o : Outcome RpcServerEndpointImpl Sent α) :
      (o.effects.map Obs.sent).flatMap (observeClient serviceName c) =
        (packets o).flatMap fun packet =>
          if packet.1 = ⟨serviceName, c ++ "Res"⟩ then
            [ClientObs.packet packet.2]
          else [] := by
    rw [packets, List.flatMap_map, List.flatMap_map]
    rfl
  rw [hseen, hseen, h]

/-- Everything sent goes to the reply channel of the client. -/
def SendsTo {α : Type} (s : RpcServerEndpointImpl) (clientName : String)
    (o : Outcome RpcServerEndpointImpl Sent α) : Prop :=
  ∀ sent ∈ o.effects, sent.key = ⟨s.serviceName, clientName ++ "Res"⟩

theorem finish_sendsTo (clientName : String) (pdu : PduData) :
    SendsTo s clientName (finish net s clientName pdu) := by
  intro sent hsent
  rw [List.mem_singleton.mp hsent]

theorem sendReply_sendsTo (clientName : String) (pdu : PduData) :
    SendsTo s clientName (s.sendReply net clientName pdu) := by
  unfold sendReply
  split
  · simp [SendsTo]
  · split
    · simp [SendsTo]
    · exact finish_sendsTo clientName pdu

theorem sendCancelReply_sendsTo (clientName : String) (pdu : PduData) :
    SendsTo s clientName (s.sendCancelReply net clientName pdu) := by
  unfold sendCancelReply
  split
  · simp [SendsTo]
  · split
    · simp [SendsTo]
    · exact finish_sendsTo clientName pdu

theorem dispatch_sendsTo (hstatic : s.dynamicClient = false)
    (request : RpcRequest) :
    SendsTo s request.header.clientName (dispatch C net s request) := by
  have hsame := validateHeader_fst_static net hstatic request.header
  have herror (code : Int32) : SendsTo s request.header.clientName
      (unreported request (s.sendErrorReply C net request.header code)) :=
    sendReply_sendsTo _ _
  unfold dispatch
  generalize s.validateHeader net request.header = check at hsame
  obtain ⟨s', valid⟩ := check
  obtain rfl : s' = s := hsame
  cases valid with
  | false => exact herror resultError
  | true =>
      simp only
      split
      · exact herror resultInvalid
      · split
        · unfold handleCancelRequest
          split
          · split
            · exact herror resultInvalid
            · simp [SendsTo]
          · simp [SendsTo]
          · exact herror resultBusy
        · unfold handleRequestIn
          split
          · simp [SendsTo]
          · exact herror resultBusy
          · exact herror resultBusy

/-- Nothing is seen of a client when another one is answered. -/
theorem seen_other {α : Type} {o : Outcome RpcServerEndpointImpl Sent α}
    {clientName : String} (h : SendsTo s clientName o) (hne : c ≠ clientName) :
    (o.effects.map Obs.sent).flatMap (observeClient serviceName c) = [] := by
  rw [List.flatMap_eq_nil_iff]
  intro obs hobs
  obtain ⟨sent, hsent, rfl⟩ := List.mem_map.mp hobs
  simp only [observeClient, h sent hsent, PduKey.mk.injEq]
  rw [if_neg]
  rintro ⟨-, hname⟩
  exact hne ((String.append_left_inj "Res").mp hname).symm

end Seen

/-! ## The endpoint seen by one client -/

section Projection

variable (C : RpcConvertors) (sizes : PduKey → ℕ) (serviceName c : String)

/-- What the endpoint knows about the sizes of PDUs does not change. -/
def Sized : Input → Prop
  | .poll net _ => net.getPduSize = sizes
  | .sendReply _ _ _ | .sendCancelReply _ _ _ | .receive _
  | .clearPendingRequests => True

/-- A static endpoint that serves the client. -/
structure Serving (s : RpcServerEndpointImpl) : Prop where
  serviceName_eq : s.serviceName = serviceName
  isStatic : s.dynamicClient = false
  registered : c ∈ s.registeredClients

variable {C sizes serviceName c} {s : RpcServerEndpointImpl}

theorem Serving.agree (h : Serving serviceName c s) :
    Agree c s (solo serviceName c (s.status c)) where
  serviceName_eq := h.serviceName_eq
  isStatic := ⟨h.isStatic, rfl⟩
  registered := ⟨h.registered, List.mem_singleton.mpr rfl⟩
  status_eq := by
    cases hstatus : s.status c with
    | none => rfl
    | some status =>
        simp [RpcServerEndpointImpl.status, solo, OrdMap.find?_assign]

theorem Serving.writes (h : Serving serviceName c s)
    {s' : RpcServerEndpointImpl} {clientName : String}
    (hwrites : Writes s s' clientName) : Serving serviceName c s' where
  serviceName_eq := hwrites.serviceName_eq.trans h.serviceName_eq
  isStatic := hwrites.dynamicClient_eq.trans h.isStatic
  registered := hwrites.registeredClients_eq ▸ h.registered

/-- The endpoint with another queue. -/
theorem Serving.queued (h : Serving serviceName c s)
    (pendingRequests : List PduData) :
    Serving serviceName c { s with pendingRequests := pendingRequests } :=
  ⟨h.serviceName_eq, h.isStatic, h.registered⟩

theorem Serving.dispatch (h : Serving serviceName c s) (net : PduEndpoint)
    (request : RpcRequest) :
    Serving serviceName c (dispatch C net s request).state := by
  have hwrites := dispatch_writes C net s request
  rw [validateHeader_fst_static net h.isStatic] at hwrites
  exact h.writes hwrites

theorem Serving.step (h : Serving serviceName c s) (i : Input) :
    Serving serviceName c ((machine C).step s i).1 := by
  cases i with
  | receive pdu => exact h.queued _
  | clearPendingRequests => exact h.queued _
  | sendReply net clientName pdu =>
      exact h.writes (sendReply_writes net s clientName pdu)
  | sendCancelReply net clientName pdu =>
      exact h.writes (sendCancelReply_writes net s clientName pdu)
  | poll net request =>
      change Serving serviceName c (s.poll C net request).state
      cases hqueue : s.pendingRequests with
      | nil =>
          rw [poll_nil hqueue]
          exact h
      | cons pdu rest =>
          rw [poll_cons hqueue]
          exact (h.queued rest).dispatch net _

/-- A step of the endpoint looks to the client like its own steps at an endpoint
of its own. -/
def Projects (C : RpcConvertors) (sizes : PduKey → ℕ) (serviceName c : String)
    (s : RpcServerEndpointImpl) (i : Input) : Prop :=
  ((machine C).step s i).1.status c =
      (soloMachine C sizes serviceName c).run (s.status c)
        (clientSteps C c s i) ∧
    ((machine C).step s i).2.flatMap (observeClient serviceName c) =
      (soloMachine C sizes serviceName c).trace (s.status c)
        (clientSteps C c s i)

/-- A reply, of the one kind or of the other. -/
theorem Serving.projects_reply (h : Serving serviceName c s)
    (net : PduEndpoint) (clientName : String) (pdu : PduData) :
    Projects C sizes serviceName c s (.sendReply net clientName pdu) := by
  unfold Projects
  rw [clientSteps]
  split_ifs with hc
  · subst hc
    have halike : Alike clientName (s.sendReply net clientName pdu)
        ((solo serviceName clientName (s.status clientName)).sendReply
          (sizedNet sizes) clientName pdu) :=
      h.agree.sendReply pdu
    refine ⟨halike.status_eq, ?_⟩
    rw [Machine.trace_cons, Machine.trace_nil, List.append_nil]
    exact seen_packets halike.packets_eq
  · have hne : c ≠ clientName := fun heq => hc heq.symm
    exact ⟨(sendReply_writes net s clientName pdu).status_of_ne hne,
      seen_other (sendReply_sendsTo clientName pdu) hne⟩

theorem Serving.projects_cancelReply (h : Serving serviceName c s)
    (net : PduEndpoint) (clientName : String) (pdu : PduData) :
    Projects C sizes serviceName c s
      (.sendCancelReply net clientName pdu) := by
  unfold Projects
  rw [clientSteps]
  split_ifs with hc
  · subst hc
    have halike : Alike clientName (s.sendCancelReply net clientName pdu)
        ((solo serviceName clientName (s.status clientName)).sendCancelReply
          (sizedNet sizes) clientName pdu) :=
      h.agree.sendCancelReply pdu
    refine ⟨halike.status_eq, ?_⟩
    rw [Machine.trace_cons, Machine.trace_nil, List.append_nil]
    exact seen_packets halike.packets_eq
  · have hne : c ≠ clientName := fun heq => hc heq.symm
    exact ⟨(sendCancelReply_writes net s clientName pdu).status_of_ne hne,
      seen_other (sendCancelReply_sendsTo clientName pdu) hne⟩

/-- A poll that takes a packet. -/
theorem Serving.projects_poll (h : Serving serviceName c s)
    {net : PduEndpoint} (hsizes : net.getPduSize = sizes)
    (request : RpcRequest) :
    Projects C sizes serviceName c s (.poll net request) := by
  unfold Projects
  simp only [machine, clientSteps]
  cases hqueue : s.pendingRequests with
  | nil =>
      rw [poll_nil hqueue]
      simp [observeClient]
  | cons pdu rest =>
      rw [poll_taken hqueue]
      have hrest := h.queued rest
      dsimp only
      generalize taken C request pdu = taken
      split_ifs with hc
      · have halike : Alike c
            (RpcServerEndpointImpl.dispatch C net
              { s with pendingRequests := rest } taken)
            (RpcServerEndpointImpl.dispatch C (sizedNet sizes)
              (solo serviceName c (s.status c)) taken) :=
          hrest.agree.dispatch hc hsizes
        refine ⟨halike.status_eq, ?_⟩
        rw [Machine.trace_cons, Machine.trace_nil, List.append_nil]
        simp only [soloMachine, List.flatMap_append,
          seen_packets halike.packets_eq, halike.result_eq]
      · have hne : c ≠ taken.header.clientName := fun heq => hc heq.symm
        refine ⟨dispatch_status_of_ne C net _ taken hne, ?_⟩
        rw [List.flatMap_append,
          seen_other (dispatch_sendsTo hrest.isStatic taken) hne]
        simp [observeClient, dispatch_header, hc]

theorem Serving.projects (h : Serving serviceName c s) {i : Input}
    (hi : Sized sizes i) : Projects C sizes serviceName c s i := by
  cases i with
  | receive pdu => exact ⟨rfl, rfl⟩
  | clearPendingRequests => exact ⟨rfl, rfl⟩
  | sendReply net clientName pdu => exact h.projects_reply net clientName pdu
  | sendCancelReply net clientName pdu =>
      exact h.projects_cancelReply net clientName pdu
  | poll net request => exact h.projects_poll hi request

/-- The endpoint, seen by one client. -/
def clientProjection (C : RpcConvertors) (sizes : PduKey → ℕ)
    (serviceName c : String) :
    Machine.Projection (machine C) (soloMachine C sizes serviceName c)
      (fun _ i => Sized sizes i) where
  Good := Serving serviceName c
  view s := s.status c
  inputs := clientSteps C c
  observe := observeClient serviceName c
  good_step _ i _ h := h.step i
  view_step _ _ hi h := (h.projects hi).1
  trace_step _ _ hi h := (h.projects hi).2

theorem length_clientSteps_le (s : RpcServerEndpointImpl) (i : Input) :
    (clientSteps C c s i).length ≤ 1 := by
  cases i with
  | receive pdu => exact Nat.zero_le _
  | clearPendingRequests => exact Nat.zero_le _
  | sendReply net clientName pdu =>
      rw [clientSteps]
      split_ifs <;> simp
  | sendCancelReply net clientName pdu =>
      rw [clientSteps]
      split_ifs <;> simp
  | poll net request =>
      rw [clientSteps]
      split
      · simp
      · split_ifs <;> simp

end Projection

end RpcServerEndpointImpl

open RpcServerEndpointImpl in
/-- Two runs of a static endpoint with the same steps of a registered client give
this client the same events, the same packets and the same successive states,
whatever the other clients do in between. -/
theorem rpc_clients_do_not_interfere (C : RpcConvertors)
    (sizes : PduKey → ℕ) (serviceName : String) (config : ServiceConfig)
    (hstatic : config.dynamicClient = false) (clientNodeId : Option String)
    (c : String) (is is' : List RpcServerEndpointImpl.Input)
    (hc : c ∈ (initializeService serviceName config
      clientNodeId).registeredClients)
    (his : ∀ i ∈ is, Sized sizes i) (his' : ∀ i ∈ is', Sized sizes i) :
    let M := RpcServerEndpointImpl.machine C
    let s := initializeService serviceName config clientNodeId
    let steps := (clientProjection C sizes serviceName c).runInputs s
    steps is = steps is' →
      (M.trace s is).flatMap (observeClient serviceName c) =
          (M.trace s is').flatMap (observeClient serviceName c) ∧
        M.successive (·.status c) s is = M.successive (·.status c) s is' := by
  intro M s steps hsteps
  have hserving : Serving serviceName c s :=
    ⟨serviceName_initializeService serviceName config clientNodeId,
      (dynamicClient_initializeService serviceName config clientNodeId).trans
        hstatic,
      hc⟩
  exact (clientProjection C sizes serviceName c).indistinguishable
    (fun s i _ _ => length_clientSteps_le s i) hserving hserving rfl
    (M.along_of_forall (fun i hi _ => his i hi) s)
    (M.along_of_forall (fun i hi _ => his' i hi) s) hsteps

namespace ServiceLayout

open RpcServerEndpointImpl

/-- A service with two clients. -/
def sharedConfig : ServiceConfig where
  maxClients := 2
  dynamicClient := false
  clients := [⟨"Client", "node"⟩, ⟨"Other", "node"⟩]

/-- A request packet of any client for any service. -/
def clientPacket (serviceName clientName : String) (requestId : UInt32)
    (opcode : UInt8) : PduData :=
  layoutConvertors.request.cpp2pdu
    { requestId := requestId
      serviceName := serviceName
      clientName := clientName
      opcode := opcode
      statusPollIntervalMsec := 0 }
    (List.replicate 300 0)

/-- `"Client"` makes a request, cancels it, cancels it again and gets a
reply. -/
def aloneRun : List RpcServerEndpointImpl.Input :=
  [.receive (servicePacket 1 operationRequest), .poll sampleNet emptyRequest,
    .receive (servicePacket 1 operationCancel), .poll sampleNet emptyRequest,
    .receive (servicePacket 1 operationCancel), .poll sampleNet emptyRequest,
    .sendReply sampleNet "Client" [1, 2, 3]]

/-- The same among the requests of `"Other"`, of an unknown client and for
another service, an invalid opcode, and replies to `"Other"`. -/
def sharedRun : List RpcServerEndpointImpl.Input :=
  [.receive (clientPacket "Add" "Other" 7 operationRequest),
    .receive (servicePacket 1 operationRequest),
    .receive (clientPacket "Add" "Stranger" 1 operationRequest),
    .poll sampleNet emptyRequest, .poll sampleNet emptyRequest,
    .receive (clientPacket "Sub" "Other" 8 operationRequest),
    .receive (servicePacket 1 operationCancel),
    .receive (clientPacket "Add" "Other" 9 255),
    .poll sampleNet emptyRequest, .poll sampleNet emptyRequest,
    .poll sampleNet emptyRequest,
    .sendReply sampleNet "Other" [4],
    .receive (servicePacket 1 operationCancel),
    .poll sampleNet emptyRequest, .poll sampleNet emptyRequest,
    .sendCancelReply sampleNet "Other" [5],
    .sendReply sampleNet "Client" [1, 2, 3]]

end ServiceLayout

open RpcServerEndpointImpl ServiceLayout in
/-- `"Client"` sees the same in both runs. -/
theorem sharedRun_looks_alone :
    let M := RpcServerEndpointImpl.machine layoutConvertors
    let s := initializeService "Add" sharedConfig none
    let seen (is : List RpcServerEndpointImpl.Input) : List ClientObs :=
      (M.trace s is).flatMap (observeClient "Add" "Client")
    (seen aloneRun).length = 3 ∧ seen aloneRun = seen sharedRun ∧
      M.successive (·.status "Client") s aloneRun =
        M.successive (·.status "Client") s sharedRun := by
  have hsized : (∀ i ∈ aloneRun, Sized sampleNet.getPduSize i) ∧
      ∀ i ∈ sharedRun, Sized sampleNet.getPduSize i := by
    simp [aloneRun, sharedRun, Sized]
  exact ⟨by decide +kernel,
    rpc_clients_do_not_interfere layoutConvertors sampleNet.getPduSize "Add"
      sharedConfig rfl none "Client" aloneRun sharedRun (by decide +kernel)
      hsized.1 hsized.2 (by decide +kernel)⟩

end Rpc
end HakoPduRpc
