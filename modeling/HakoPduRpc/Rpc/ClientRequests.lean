import HakoPduRpc.Rpc.ClientEndpoint

/-!
# The request that the client has in flight

Two questions about `RpcClientEndpointImpl`.  Which polls end the request in
flight: those that take a response with its id, and the caller sees a terminal
event exactly when the rest of the header passes the check.  Which request the
client takes for the one in flight: the last one created, whichever was sent.
-/

namespace HakoPduRpc
namespace Rpc

namespace RpcClientEndpointImpl

variable {C : RpcConvertors} {s : RpcClientEndpointImpl}

/-! ## Polls that end the request -/

/-- The response that `poll` takes from the queue. -/
def taken (C : RpcConvertors) (s : RpcClientEndpointImpl) (now : UInt64) :
    Option PduData :=
  if s.clientState.state = .idle ∨ s.timedOut now then none
  else s.pendingResponses.find? (s.matchesRequest C)

/-- What a valid response is reported as. -/
def terminalEvent (header : ServiceResponseHeader) : ClientEventType :=
  if header.resultCode = resultCanceled then .responseCancel else .responseIn

/-- The client after `poll` took a response. -/
def freed (C : RpcConvertors) (s : RpcClientEndpointImpl) :
    RpcClientEndpointImpl :=
  setState
    { s with
      pendingResponses := s.pendingResponses.eraseP (s.matchesRequest C) }
    .idle

/-- What one `poll` can do: it takes no response and changes nothing, or it
takes one with the id in flight and frees the client. -/
theorem poll_cases (C : RpcConvertors) (now : UInt64)
    (s : RpcClientEndpointImpl) (response : RpcResponse) :
    (s.taken C now = none ∧ (s.poll C now response).1 = s ∧
        ((s.poll C now response).2.1 = .none ∨
          (s.poll C now response).2.1 = .responseTimeout)) ∨
      ∃ pdu, s.taken C now = some pdu ∧ s.clientState.state ≠ .idle ∧
        (readResponse C pdu).requestId = s.clientState.requestId ∧
        s.poll C now response =
          (s.freed C,
            if s.validateHeader (readResponse C pdu) then
              terminalEvent (readResponse C pdu)
            else .none,
            ⟨readResponse C pdu, pdu⟩) := by
  by_cases hidle : s.clientState.state = .idle
  · left
    simp [taken, poll, hidle]
  · by_cases htimeout : s.timedOut now = true
    · left
      simp [taken, poll, hidle, htimeout]
    · cases hfind : s.pendingResponses.find? (s.matchesRequest C) with
      | none =>
          left
          simp [taken, poll, hidle, htimeout, hfind]
      | some pdu =>
          right
          have hmatch : s.matchesRequest C pdu = true :=
            List.find?_some hfind
          refine ⟨pdu, ?_, hidle, by simpa [matchesRequest] using hmatch, ?_⟩
          · simp [taken, hidle, htimeout, hfind]
          · simp only [poll, if_neg hidle, if_neg htimeout, hfind,
              handleResponseIn, terminalEvent, freed]
            have hvalidate : ∀ header, validateHeader
                { s with
                  pendingResponses :=
                    s.pendingResponses.eraseP (s.matchesRequest C) }
                header = s.validateHeader header := fun _ => rfl
            rw [hvalidate]
            by_cases hvalid :
                s.validateHeader (readResponse C pdu) = true
            · simp only [hvalid, not_true_eq_false, if_false, if_true]
              split_ifs <;> rfl
            · simp [hvalid]

/-- `poll` reports the end of a request. -/
def Terminal (event : ClientEventType) : Prop :=
  event = .responseIn ∨ event = .responseCancel

theorem terminal_terminalEvent (header : ServiceResponseHeader) :
    Terminal (terminalEvent header) := by
  unfold terminalEvent
  split_ifs
  · exact Or.inr rfl
  · exact Or.inl rfl

/-- The client becomes free exactly with a terminal event for the request in
flight, and no other result of `poll` changes its state. -/
structure FreesOnTerminalEvent (C : RpcConvertors) (now : UInt64)
    (s : RpcClientEndpointImpl) (response : RpcResponse) : Prop where
  freed_iff : (s.clientState.state ≠ .idle ∧
      (s.poll C now response).1.clientState.state = .idle) ↔
    Terminal (s.poll C now response).2.1 ∧
      (s.poll C now response).2.2.header.requestId = s.clientState.requestId
  unchanged : ¬Terminal (s.poll C now response).2.1 →
    (s.poll C now response).1.clientState = s.clientState

/-- The response that `poll` takes, if it takes one, has a valid header. -/
def TakesValid (C : RpcConvertors) (now : UInt64)
    (s : RpcClientEndpointImpl) : Prop :=
  ∀ pdu ∈ s.taken C now,
    (readResponse C pdu).serviceName = s.serviceName ∧
      (readResponse C pdu).clientName = s.clientName ∧
      (readResponse C pdu).resultCode < resultNum

theorem freesOnTerminalEvent_iff (now : UInt64) (response : RpcResponse) :
    FreesOnTerminalEvent C now s response ↔ TakesValid C now s := by
  rcases poll_cases C now s response with
    ⟨htaken, hstate, hevent⟩ | ⟨pdu, htaken, hbusy, hid, hpoll⟩
  · have hquiet : ¬Terminal (s.poll C now response).2.1 := by
      rcases hevent with hevent | hevent
      · simp [Terminal, hevent]
      · simp [Terminal, hevent]
    constructor
    · intro _ pdu hpdu
      rw [htaken] at hpdu
      exact absurd hpdu (by simp)
    · intro _
      constructor
      · rw [hstate]
        exact ⟨fun h => absurd h.2 h.1, fun h => absurd h.1 hquiet⟩
      · intro _
        rw [hstate]
  · have hvalid_iff : TakesValid C now s ↔
        s.validateHeader (readResponse C pdu) = true := by
      simp [TakesValid, htaken, validateHeader, hid]
    rw [hvalid_iff]
    have hfree : (s.freed C).clientState.state = .idle := rfl
    constructor
    · intro h
      by_contra hinvalid
      have hterminal := h.freed_iff.mp
      rw [hpoll] at hterminal
      obtain ⟨hevent, -⟩ := hterminal ⟨hbusy, hfree⟩
      simp [Terminal, hinvalid] at hevent
    · intro hvalid
      constructor
      · rw [hpoll]
        simp only [hvalid, if_true]
        exact ⟨fun _ => ⟨terminal_terminalEvent _, hid⟩,
          fun _ => ⟨hbusy, hfree⟩⟩
      · intro hquiet
        rw [hpoll] at hquiet
        simp only [hvalid, if_true] at hquiet
        exact absurd (terminal_terminalEvent _) hquiet

/-- The request `requestId` is in flight. -/
def InFlight (s : RpcClientEndpointImpl) (requestId : UInt32) : Prop :=
  s.clientState.state ≠ .idle ∧ s.clientState.requestId = requestId

/-- A step in which `poll` takes no response with a bad header. -/
def ValidStep (C : RpcConvertors) (s : RpcClientEndpointImpl) : Input → Prop
  | .poll now _ => TakesValid C now s
  | _ => True

/-- Some `poll` reported the end of the request. -/
def Ended (requestId : UInt32) (trace : List Obs) : Prop :=
  ∃ event response, Obs.polled event response ∈ trace ∧ Terminal event ∧
    response.header.requestId = requestId

theorem InFlight.step {requestId : UInt32} (h : s.InFlight requestId)
    {i : Input} (hi : ValidStep C s i) :
    ((machine C).step s i).1.InFlight requestId ∨
      Ended requestId ((machine C).step s i).2 := by
  obtain ⟨hbusy, hid⟩ := h
  cases i with
  | receive pdu => exact Or.inl ⟨hbusy, hid⟩
  | clearPendingResponses => exact Or.inl ⟨hbusy, hid⟩
  | createRequestBuffer net opcode isCancelRequest pdu =>
      cases isCancelRequest with
      | false => exact Or.inl ⟨hbusy, hid⟩
      | true => exact Or.inl ⟨hbusy, hid⟩
  | call net now pdu timeoutUsec =>
      left
      simp only [machine, call, if_pos hbusy]
      exact ⟨hbusy, hid⟩
  | sendCancelRequest net =>
      left
      rcases sendCancelRequest_cases C net s with
        ⟨-, hsend⟩ | ⟨-, -, hsend⟩ | ⟨-, -, hsend⟩
      · simp only [machine, hsend]
        exact ⟨hbusy, hid⟩
      · simp only [machine, hsend]
        exact ⟨hbusy, hid⟩
      · simp only [machine, hsend]
        exact ⟨by simp [setState], hid⟩
  | poll now response =>
      have hfrees := (freesOnTerminalEvent_iff now response).mpr hi
      by_cases hterminal : Terminal (s.poll C now response).2.1
      · rcases poll_cases C now s response with
          ⟨-, -, hevent⟩ | ⟨pdu, -, -, hmatch, hpoll⟩
        · rcases hevent with hevent | hevent
          · simp [Terminal, hevent] at hterminal
          · simp [Terminal, hevent] at hterminal
        · right
          refine ⟨_, _, List.mem_singleton.mpr rfl, hterminal, ?_⟩
          rw [hpoll]
          exact hmatch.trans hid
      · left
        have hsame := hfrees.unchanged hterminal
        refine ⟨?_, ?_⟩
        · change (s.poll C now response).1.clientState.state ≠ .idle
          rw [hsame]
          exact hbusy
        · change (s.poll C now response).1.clientState.requestId = requestId
          rw [hsame]
          exact hid

/-- A request in flight stays in flight until its end is reported. -/
theorem InFlight.run {requestId : UInt32} (h : s.InFlight requestId)
    {is : List Input} (his : (machine C).Along (ValidStep C) s is) :
    ((machine C).run s is).InFlight requestId ∨
      Ended requestId ((machine C).trace s is) := by
  refine (machine C).trace_invariant
    (I := fun s past => s.InFlight requestId ∨ Ended requestId past)
    ?_ (Or.inl h) his
  rintro s past i hi (hs | ⟨event, response, hmem, hended⟩)
  · rcases hs.step hi with hs | ⟨event, response, hmem, hended⟩
    · exact Or.inl hs
    · exact Or.inr ⟨event, response, List.mem_append_right _ hmem, hended⟩
  · exact Or.inr ⟨event, response, List.mem_append_left _ hmem, hended⟩

end RpcClientEndpointImpl

open RpcClientEndpointImpl in
/-- In every run of the client, a `poll` frees it with a terminal event and only
so exactly when the response it takes has a valid header; and while no other
response is taken, a request in flight stays in flight until its end is
reported. -/
theorem client_frees_on_terminal_event_iff (C : RpcConvertors)
    (serviceName clientName : String)
    (is : List RpcClientEndpointImpl.Input) :
    let s := (RpcClientEndpointImpl.machine C).run
      (create serviceName clientName) is
    (∀ now response,
        FreesOnTerminalEvent C now s response ↔ TakesValid C now s) ∧
      ∀ requestId js, s.InFlight requestId →
        (RpcClientEndpointImpl.machine C).Along (ValidStep C) s js →
        ((RpcClientEndpointImpl.machine C).run s js).InFlight requestId ∨
          Ended requestId ((RpcClientEndpointImpl.machine C).trace s js) := by
  intro s
  constructor
  · intro now response
    exact freesOnTerminalEvent_iff now response
  · intro requestId js h hjs
    exact h.run hjs

open RpcClientEndpointImpl ServiceLayout in
/-- A response with the id in flight and the name of another service frees the
client, and `poll` reports nothing. -/
theorem foreignResponse_frees_silently :
    ¬∀ (is : List RpcClientEndpointImpl.Input) (now : UInt64)
        (response : RpcResponse),
      FreesOnTerminalEvent layoutConvertors now
        ((RpcClientEndpointImpl.machine layoutConvertors).run
          (create "Add" "Client") is) response := by
  intro h
  have hfrees := h [.createRequestBuffer sampleNet operationRequest false [],
    .call sampleNet 0 (servicePacket 1 operationRequest) 0,
    .receive (responsePacket ⟨1, "Sub", "Client", 3, 100, 0⟩)] 0
    ⟨blankHeader, []⟩
  have hterminal := (hfrees.freed_iff.mp (by decide +kernel)).1
  unfold Terminal at hterminal
  revert hterminal
  decide +kernel

/-! ## The request that is tracked -/

namespace RpcClientEndpointImpl

variable {C : RpcConvertors} {s : RpcClientEndpointImpl}

/-- How many request buffers a run creates. -/
def requestBuffers (is : List Input) : ℕ :=
  is.countP fun
    | .createRequestBuffer _ _ isCancelRequest _ => !isCancelRequest
    | _ => false

/-- The client follows the request with this header: it takes the responses with
its id, and its cancel request carries that id. -/
structure Tracks (C : RpcConvertors) (s : RpcClientEndpointImpl)
    (header : ServiceRequestHeader) : Prop where
  requestId : s.clientState.requestId = header.requestId
  responses : ∀ pdu, s.matchesRequest C pdu = true ↔
    (readResponse C pdu).requestId = header.requestId
  cancels : ∀ net pdu,
    (s.createRequestBuffer C net operationCancel true pdu).2 =
      C.request.cpp2pdu (s.requestHeader operationCancel header.requestId)
        (resize pdu (net.getPduSize s.requestKey))

theorem tracks_iff {header : ServiceRequestHeader} :
    Tracks C s header ↔ s.clientState.requestId = header.requestId := by
  constructor
  · exact Tracks.requestId
  · intro h
    constructor
    · exact h
    · intro pdu
      simp [matchesRequest, h]
    · intro net pdu
      simp [createRequestBuffer, h]

theorem currentRequestId_step (i : Input) :
    ((machine C).step s i).1.currentRequestId =
      s.currentRequestId + UInt64.ofNat (requestBuffers [i]) := by
  cases i with
  | receive pdu => simp [machine, putPendingResponse, requestBuffers]
  | clearPendingResponses =>
      simp [machine, clearPendingResponses, requestBuffers]
  | createRequestBuffer net opcode isCancelRequest pdu =>
      cases isCancelRequest with
      | false => simp [machine, createRequestBuffer, requestBuffers]
      | true => simp [machine, createRequestBuffer, requestBuffers]
  | call net now pdu timeoutUsec =>
      rcases call_cases net s now pdu timeoutUsec with
        ⟨-, hcall⟩ | ⟨-, -, hcall⟩ | ⟨-, -, hcall⟩
      all_goals simp [machine, hcall, requestBuffers, setState, startRequest]
  | sendCancelRequest net =>
      rcases sendCancelRequest_cases C net s with
        ⟨-, hsend⟩ | ⟨-, -, hsend⟩ | ⟨-, -, hsend⟩
      all_goals simp [machine, hsend, requestBuffers, setState]
  | poll now response =>
      have hsame : (s.poll C now response).1.currentRequestId =
          s.currentRequestId := by
        rcases poll_cases C now s response with
          ⟨-, hstate, -⟩ | ⟨pdu, -, -, -, hpoll⟩
        · rw [hstate]
        · rw [hpoll]
          rfl
      simpa [machine, requestBuffers] using hsame

theorem currentRequestId_run (s : RpcClientEndpointImpl) (is : List Input) :
    ((machine C).run s is).currentRequestId =
      s.currentRequestId + UInt64.ofNat (requestBuffers is) := by
  induction is generalizing s with
  | nil => simp [requestBuffers]
  | cons i is ih =>
      rw [Machine.run_cons, ih, currentRequestId_step, UInt64.add_assoc,
        ← UInt64.ofNat_add]
      congr 2
      rw [requestBuffers, requestBuffers, requestBuffers, ← List.countP_append,
        List.singleton_append]

/-- Two readings of the counter give the same id exactly when a multiple of
`2 ^ 32` ids was drawn between them. -/
theorem toUInt32_add_eq_iff (c : UInt64) (n : ℕ) :
    (c + UInt64.ofNat n).toUInt32 = c.toUInt32 ↔ n % 2 ^ 32 = 0 := by
  rw [← UInt32.toNat_inj, UInt64.toNat_toUInt32, UInt64.toNat_toUInt32,
    UInt64.toNat_add, UInt64.toNat_ofNat']
  omega

theorem names_step (i : Input) :
    ((machine C).step s i).1.serviceName = s.serviceName ∧
      ((machine C).step s i).1.clientName = s.clientName := by
  cases i with
  | receive pdu => exact ⟨rfl, rfl⟩
  | clearPendingResponses => exact ⟨rfl, rfl⟩
  | createRequestBuffer net opcode isCancelRequest pdu =>
      cases isCancelRequest with
      | false => exact ⟨rfl, rfl⟩
      | true => exact ⟨rfl, rfl⟩
  | call net now pdu timeoutUsec =>
      rcases call_cases net s now pdu timeoutUsec with
        ⟨-, hcall⟩ | ⟨-, -, hcall⟩ | ⟨-, -, hcall⟩
      all_goals simp [machine, hcall, setState, startRequest]
  | sendCancelRequest net =>
      rcases sendCancelRequest_cases C net s with
        ⟨-, hsend⟩ | ⟨-, -, hsend⟩ | ⟨-, -, hsend⟩
      all_goals simp [machine, hsend, setState]
  | poll now response =>
      rcases poll_cases C now s response with
        ⟨-, hstate, -⟩ | ⟨pdu, -, -, -, hpoll⟩
      · simp [machine, hstate]
      · simp [machine, hpoll, freed, setState]

theorem names_run (s : RpcClientEndpointImpl) (is : List Input) :
    ((machine C).run s is).serviceName = s.serviceName ∧
      ((machine C).run s is).clientName = s.clientName := by
  induction is generalizing s with
  | nil => exact ⟨rfl, rfl⟩
  | cons i is ih =>
      obtain ⟨hservice, hclient⟩ := names_step (C := C) (s := s) i
      obtain ⟨hservice', hclient'⟩ := ih ((machine C).step s i).1
      exact ⟨hservice'.trans hservice, hclient'.trans hclient⟩

/-- The request id after a successful `call`. -/
theorem requestId_call {net : PduEndpoint} {now : UInt64} {pdu : PduData}
    {timeoutUsec : UInt64}
    (h : (s.call net now pdu timeoutUsec).result = true) :
    (s.call net now pdu timeoutUsec).state.clientState.requestId =
      s.currentRequestId.toUInt32 := by
  rcases call_cases net s now pdu timeoutUsec with
    ⟨-, hcall⟩ | ⟨-, -, hcall⟩ | ⟨-, -, hcall⟩
  · rw [hcall] at h
    exact absurd h (by simp)
  · rw [hcall] at h
    exact absurd h (by simp)
  · rw [hcall]
    rfl

end RpcClientEndpointImpl

open RpcClientEndpointImpl in
/-- In every run of the client: a request buffer is created, more may be created
and anything else may happen, and then the buffer, its body filled in, is sent
by a successful `call`.  The client tracks the request in the buffer exactly
when the number of request buffers created in between is a multiple of
`2 ^ 32`. -/
theorem call_tracks_request_iff (C : RpcConvertors)
    (serviceName clientName : String)
    (before between : List RpcClientEndpointImpl.Input)
    (net net' : PduEndpoint) (initial pdu : PduData)
    (now timeoutUsec : UInt64) (old : ServiceRequestHeader) :
    let s := (RpcClientEndpointImpl.machine C).run
      (create serviceName clientName) before
    let created := s.createRequestBuffer C net operationRequest false initial
    let called := call net' now
      ((RpcClientEndpointImpl.machine C).run created.1 between) pdu timeoutUsec
    (∀ header : ServiceRequestHeader, header.serviceName = serviceName →
      header.clientName = clientName →
      C.request.ReadsBack
        (net.getPduSize ⟨serviceName, clientName ++ "Req"⟩) header) →
    (∀ old, C.request.pdu2cpp pdu old = C.request.pdu2cpp created.2 old) →
    called.result = true →
    (Tracks C called.state (C.request.pdu2cpp pdu old) ↔
      requestBuffers between % 2 ^ 32 = 0) := by
  intro s created called hreads hpdu hcalled
  obtain ⟨hservice, hclient⟩ : s.serviceName = serviceName ∧
      s.clientName = clientName := names_run (create serviceName clientName) before
  have hkey : s.requestKey = ⟨serviceName, clientName ++ "Req"⟩ := by
    rw [requestKey, hservice, hclient]
  have hheader : C.request.pdu2cpp pdu old =
      s.requestHeader operationRequest
        (s.currentRequestId + 1).toUInt32 := by
    rw [hpdu]
    refine hreads _ hservice hclient _ _ ?_
    rw [length_resize, hkey]
  rw [tracks_iff, requestId_call hcalled, currentRequestId_run, hheader]
  exact toUInt32_add_eq_iff (s.currentRequestId + 1) _

open RpcClientEndpointImpl ServiceLayout in
theorem singleBuffer_tracked :
    Tracks layoutConvertors
      (call sampleNet 0
        (createRequestBuffer layoutConvertors sampleNet
          (create "Add" "Client") operationRequest false []).1
        (createRequestBuffer layoutConvertors sampleNet
          (create "Add" "Client") operationRequest false []).2 0).state
      ⟨1, "Add", "Client", operationRequest, 0⟩ := by
  have htracks := call_tracks_request_iff layoutConvertors "Add" "Client" [] []
    sampleNet sampleNet []
    (createRequestBuffer layoutConvertors sampleNet
      (create "Add" "Client") operationRequest false []).2 0 0
    emptyRequest.header
    (fun header hservice hclient =>
      requestConvertor_readsBack (by decide)
        (by rw [hservice]; unfold Representable; decide +kernel)
        (by rw [hclient]; unfold Representable; decide +kernel))
    (fun _ => rfl) (by decide +kernel)
  have hheader : layoutConvertors.request.pdu2cpp
      (createRequestBuffer layoutConvertors sampleNet
        (create "Add" "Client") operationRequest false []).2
      emptyRequest.header = ⟨1, "Add", "Client", operationRequest, 0⟩ := by
    decide +kernel
  rw [hheader] at htracks
  exact htracks.mpr (by decide)

open RpcClientEndpointImpl ServiceLayout in
/-- Two buffers are created and the first one is sent: the client waits for the
response to the second one. -/
theorem earlierBuffer_not_tracked :
    ¬∀ (before between : List RpcClientEndpointImpl.Input),
      let created := createRequestBuffer layoutConvertors sampleNet
        ((RpcClientEndpointImpl.machine layoutConvertors).run
          (create "Add" "Client") before) operationRequest false []
      let called := call sampleNet 0
        ((RpcClientEndpointImpl.machine layoutConvertors).run created.1
          between) created.2 0
      called.result = true →
        Tracks layoutConvertors called.state
          (layoutConvertors.request.pdu2cpp created.2
            emptyRequest.header) := by
  intro h
  have hid := (h [] [.createRequestBuffer sampleNet operationRequest false []]
    (by decide +kernel)).requestId
  revert hid
  decide +kernel

end Rpc
end HakoPduRpc
