import HakoPduRpc.Rpc.ClientRequests
import HakoPduRpc.Rpc.ServicesServer

/-!
# Sends that fail

Four operations of the two endpoints hand a packet to the transport.  The two of
the client put their state back when the transport refuses the packet; the two
of the server have already made the client `IDLE` and leave it so.
-/

namespace HakoPduRpc
namespace Rpc

/-- An operation that sends. -/
inductive SendOperation
  | call (net : PduEndpoint) (now : UInt64) (pdu : PduData)
      (timeoutUsec : UInt64)
  | sendCancelRequest (net : PduEndpoint)
  | sendReply (net : PduEndpoint) (clientName : String) (pdu : PduData)
  | sendCancelReply (net : PduEndpoint) (clientName : String) (pdu : PduData)

namespace SendOperation

/-- The operations of the client endpoint. -/
def OfClient : SendOperation → Prop
  | .call .. => True
  | .sendCancelRequest _ => True
  | .sendReply .. => False
  | .sendCancelReply .. => False

/-- What the operation hands to the transport, from a state of the client
endpoint or of the server endpoint. -/
def sends (C : RpcConvertors) (s : RpcClientEndpointImpl)
    (t : RpcServerEndpointImpl) : SendOperation → List Sent
  | .call net now pdu timeoutUsec => (s.call net now pdu timeoutUsec).effects
  | .sendCancelRequest net => (s.sendCancelRequest C net).effects
  | .sendReply net clientName pdu => (t.sendReply net clientName pdu).effects
  | .sendCancelReply net clientName pdu =>
      (t.sendCancelReply net clientName pdu).effects

/-- The transport refuses the packet of the operation. -/
def Fails (C : RpcConvertors) (s : RpcClientEndpointImpl)
    (t : RpcServerEndpointImpl) (op : SendOperation) : Prop :=
  ∃ sent ∈ op.sends C s t, sent.ok = false

/-- The protocol state is the one before: the client is still `IDLE` or still
`RUNNING` the same request, and the server has kept the requests of its clients
and can make the reply again. -/
def Keeps (C : RpcConvertors) (s : RpcClientEndpointImpl)
    (t : RpcServerEndpointImpl) : SendOperation → Prop
  | .call net now pdu timeoutUsec =>
      (s.call net now pdu timeoutUsec).state.clientState.state = .idle
  | .sendCancelRequest net =>
      (s.sendCancelRequest C net).state.clientState = s.clientState ∧
        s.clientState.state = .running
  | .sendReply net clientName pdu =>
      (∀ c, (t.sendReply net clientName pdu).state.status c = t.status c) ∧
        ∀ net', ((t.sendReply net clientName pdu).state.sendReply net'
          clientName pdu).effects ≠ []
  | .sendCancelReply net clientName pdu =>
      (∀ c,
        (t.sendCancelReply net clientName pdu).state.status c = t.status c) ∧
        ∀ net', ((t.sendCancelReply net clientName pdu).state.sendCancelReply
          net' clientName pdu).effects ≠ []

variable {C : RpcConvertors} {s : RpcClientEndpointImpl}
  {t : RpcServerEndpointImpl}

theorem keeps_call {net : PduEndpoint} {now timeoutUsec : UInt64}
    {pdu : PduData} (h : Fails C s t (.call net now pdu timeoutUsec)) :
    Keeps C s t (.call net now pdu timeoutUsec) := by
  obtain ⟨sent, hmem, hok⟩ := h
  simp only [sends] at hmem
  rw [Keeps]
  rcases RpcClientEndpointImpl.call_cases net s now pdu timeoutUsec with
    ⟨-, hcall⟩ | ⟨-, -, hcall⟩ | ⟨-, -, hcall⟩
  · rw [hcall] at hmem
    exact absurd hmem (by simp)
  · rw [hcall]
    rfl
  · rw [hcall] at hmem
    rw [List.mem_singleton.mp hmem] at hok
    exact absurd hok (by simp)

theorem keeps_sendCancelRequest {net : PduEndpoint}
    (h : Fails C s t (.sendCancelRequest net)) :
    Keeps C s t (.sendCancelRequest net) := by
  obtain ⟨sent, hmem, hok⟩ := h
  simp only [sends] at hmem
  rw [Keeps]
  rcases RpcClientEndpointImpl.sendCancelRequest_cases C net s with
    ⟨-, hsend⟩ | ⟨hrunning, -, hsend⟩ | ⟨-, -, hsend⟩
  · rw [hsend] at hmem
    exact absurd hmem (by simp)
  · rw [hsend]
    exact ⟨rfl, hrunning⟩
  · rw [hsend] at hmem
    rw [List.mem_singleton.mp hmem] at hok
    exact absurd hok (by simp)

/-- The server has ended the request before it sends. -/
theorem status_finish {net : PduEndpoint} {clientName : String}
    {pdu : PduData} {status : ServerProcessingStatus}
    (hstatus : t.status clientName = some status)
    (hbusy : status.state ≠ .idle) :
    ¬∀ c, (RpcServerEndpointImpl.finish net t clientName
      pdu).state.status c = t.status c := by
  intro h
  have hsame := h clientName
  rw [RpcServerEndpointImpl.finish, RpcServerEndpointImpl.status_setStatus,
    if_pos rfl, hstatus, Option.map_some, Option.some.injEq] at hsame
  exact hbusy (by rw [← hsame])

theorem not_keeps_sendReply {net : PduEndpoint} {clientName : String}
    {pdu : PduData} (h : Fails C s t (.sendReply net clientName pdu)) :
    ¬Keeps C s t (.sendReply net clientName pdu) := by
  obtain ⟨sent, hmem, -⟩ := h
  simp only [sends] at hmem
  rintro ⟨hkept, -⟩
  rcases RpcServerEndpointImpl.sendReply_cases net t clientName pdu with
    ⟨status, hstatus, hends, hsend⟩ | ⟨-, hsend⟩
  · rw [hsend] at hkept
    exact status_finish hstatus hends.ne_idle hkept
  · rw [hsend] at hmem
    exact absurd hmem (by simp)

theorem not_keeps_sendCancelReply {net : PduEndpoint} {clientName : String}
    {pdu : PduData} (h : Fails C s t (.sendCancelReply net clientName pdu)) :
    ¬Keeps C s t (.sendCancelReply net clientName pdu) := by
  obtain ⟨sent, hmem, -⟩ := h
  simp only [sends] at hmem
  rintro ⟨hkept, -⟩
  rcases RpcServerEndpointImpl.sendCancelReply_cases net t clientName pdu with
    ⟨status, hstatus, hends, hsend⟩ | ⟨-, hsend⟩
  · rw [hsend] at hkept
    exact status_finish hstatus hends.ne_idle hkept
  · rw [hsend] at hmem
    exact absurd hmem (by simp)

end SendOperation

open SendOperation in
/-- In every reachable state of the two endpoints, a send that fails leaves the
protocol state as it was exactly when it is a send of the client. -/
theorem failed_send_keeps_state_iff (C : RpcConvertors)
    (serviceName clientName : String) (config : ServiceConfig)
    (clientNodeId : Option String) (is : List RpcClientEndpointImpl.Input)
    (js : List RpcServerEndpointImpl.Input) (op : SendOperation) :
    let s := (RpcClientEndpointImpl.machine C).run
      (.create serviceName clientName) is
    let t := (RpcServerEndpointImpl.machine C).run
      (.initializeService serviceName config clientNodeId) js
    Fails C s t op → (Keeps C s t op ↔ op.OfClient) := by
  intro s t h
  cases op with
  | call net now pdu timeoutUsec => exact ⟨fun _ => trivial, fun _ => keeps_call h⟩
  | sendCancelRequest net =>
      exact ⟨fun _ => trivial, fun _ => keeps_sendCancelRequest h⟩
  | sendReply net c pdu =>
      exact ⟨fun hkept => not_keeps_sendReply h hkept, fun hfalse => hfalse.elim⟩
  | sendCancelReply net c pdu =>
      exact ⟨fun hkept => not_keeps_sendCancelReply h hkept,
        fun hfalse => hfalse.elim⟩

/-- An endpoint on which every send fails. -/
def deadNet : PduEndpoint := { ServiceLayout.sampleNet with send := fun _ _ => false }

open SendOperation ServiceLayout in
theorem refusedCall_keeps_state :
    Keeps layoutConvertors (.create "Add" "Client")
      (.initializeService "Add" serviceConfig none)
      (.call deadNet 0 (servicePacket 1 operationRequest) 0) :=
  (failed_send_keeps_state_iff layoutConvertors "Add" "Client" serviceConfig
    none [] [] (.call deadNet 0 (servicePacket 1 operationRequest) 0)
    ⟨⟨⟨"Add", "ClientReq"⟩, servicePacket 1 operationRequest, false⟩,
      by decide +kernel, rfl⟩).mpr trivial

open SendOperation ServiceLayout in
/-- The reply to a running request is refused by the transport, and the server
has forgotten the request. -/
theorem refusedReply_loses_request :
    ¬∀ (js : List RpcServerEndpointImpl.Input) (op : SendOperation),
      Fails layoutConvertors (.create "Add" "Client")
        ((RpcServerEndpointImpl.machine layoutConvertors).run
          (.initializeService "Add" serviceConfig none) js) op →
      Keeps layoutConvertors (.create "Add" "Client")
        ((RpcServerEndpointImpl.machine layoutConvertors).run
          (.initializeService "Add" serviceConfig none) js) op := by
  intro h
  have hkept := h [.receive (servicePacket 1 operationRequest),
    .poll sampleNet emptyRequest] (.sendReply deadNet "Client" [])
    ⟨⟨⟨"Add", "ClientRes"⟩, [], false⟩, by decide +kernel, rfl⟩
  have hstatus := hkept.1 "Client"
  revert hstatus
  decide +kernel

end Rpc
end HakoPduRpc
