import HakoPduRpc.Rpc.Protocol

/-!
# What is left to do for a call

A call of the client ends when packets are delivered, both sides poll, and the
server application answers what it has been given.  The client may cancel at any
time, and its timeouts may elapse; a poll counts for it when the timeout of the
call has not elapsed or the call is being cancelled.

`work` weighs what is left to do for the call in flight.  Every step of either
side lowers it or changes nothing that matters, and the step that is due lowers
it.
-/

namespace HakoPduRpc
namespace Rpc
namespace RpcDeployment

variable (D : RpcDeployment)

/-- An input of the client and the server. -/
abbrev PairInput := Duplex.Input (ClientStep D.C) (ServerStep D.C)

/-- The actions that a call waits for. -/
inductive Due
  | deliverRight
  | serverPoll
  | answer
  | deliverLeft
  | clientPoll
deriving DecidableEq, Repr

/-- The step takes an action: the client polls in time, and the server answers
the oldest request that it has not answered. -/
def Acts : Due → Pair → D.PairInput → Prop
  | .deliverRight, _, .deliverRight => True
  | .serverPoll, _, .right (.poll _) => True
  | .answer, _, .right (.answer kind index _ _ _ _) =>
      kind = .reply ∧ index = 0
  | .deliverLeft, _, .deliverLeft => True
  | .clientPoll, p, .left (.poll now _) => p.left.timedOut now = false
  | _, _, _ => False

/-- The action that the call in flight waits for. -/
def due (p : Pair) : Due :=
  if p.toRight ≠ [] then .deliverRight
  else if p.right.endpoint.pendingRequests ≠ [] then .serverPoll
  else if p.right.unanswered ≠ [] then .answer
  else if p.toLeft ≠ [] then .deliverLeft
  else .clientPoll

/-- A call that runs may still be cancelled. -/
def cancelWork (c : ClientProcessingStatus) : ℕ :=
  if c.state = .running then 7 else 0

/-- What is left to do: every packet has a way to go, and there may be one more
for a cancel. -/
def work (p : Pair) : ℕ :=
  6 * p.toRight.length + 5 * p.right.endpoint.pendingRequests.length +
    4 * p.right.unanswered.length + 2 * p.toLeft.length +
    p.left.pendingResponses.length + cancelWork p.left.clientState

/-- The call with this id is in flight. -/
def InFlight (requestId : UInt32) (p : Pair) : Prop :=
  p.left.clientState.state ≠ .idle ∧ p.left.clientState.requestId = requestId

/-- The observations show the end of the call. -/
def Ends (requestId : UInt32) (obs : List (ClientObs ⊕ ServerObs)) : Prop :=
  .ended requestId ∈ callLog (Duplex.lefts obs)

/-- What a step may do while a call is in flight. -/
def Advances (requestId : UInt32) (p p' : Pair)
    (obs : List (ClientObs ⊕ ServerObs)) : Prop :=
  Ends requestId obs ∨ InFlight requestId p' ∧
    (work p' < work p ∨ work p' = work p ∧ due p' = due p)

section Steps

variable {D} {p : Pair} {past : List (ClientObs ⊕ ServerObs)}
  {requestId : UInt32}

/-- A step that changes nothing of a call. -/
theorem advances_of_same {p' : Pair} {obs : List (ClientObs ⊕ ServerObs)}
    (hbusy : InFlight requestId p)
    (hstate : p'.left.clientState = p.left.clientState)
    (hresponses : p'.left.pendingResponses = p.left.pendingResponses)
    (hright : p'.right.endpoint.pendingRequests =
      p.right.endpoint.pendingRequests)
    (hunanswered : p'.right.unanswered = p.right.unanswered)
    (htoLeft : p'.toLeft = p.toLeft) (htoRight : p'.toRight = p.toRight) :
    Advances requestId p p' obs := by
  refine Or.inr ⟨?_, Or.inr ⟨?_, ?_⟩⟩
  · rw [InFlight, hstate]
    exact hbusy
  · simp only [work, hstate, hresponses, hright, hunanswered, htoLeft, htoRight]
  · simp only [due, hright, hunanswered, htoLeft, htoRight]

/-- A step that leaves the client alone and leaves less to do. -/
theorem advances_of_lt {p' : Pair} {obs : List (ClientObs ⊕ ServerObs)}
    (hbusy : InFlight requestId p)
    (hstate : p'.left.clientState = p.left.clientState)
    (hlt : work p' < work p) : Advances requestId p p' obs := by
  refine Or.inr ⟨?_, Or.inl hlt⟩
  rw [InFlight, hstate]
  exact hbusy

/-! ## Deliveries -/

theorem work_deliverRight {p : Pair} (h : p.toRight ≠ []) :
    work (D.machine.step p .deliverRight).1 < work p ∧
      (D.machine.step p .deliverRight).1.left = p.left := by
  obtain ⟨x, rest, hqueue⟩ := List.exists_cons_of_ne_nil h
  have hstep : (D.machine.step p .deliverRight).1 =
      { p with
        right :=
          { p.right with endpoint := p.right.endpoint.putPendingRequest x }
        toRight := rest } := by
    simp [machine, Duplex.machine, hqueue, Duplex.stepRight, serverMachine,
      wiring]
  rw [hstep]
  refine ⟨?_, rfl⟩
  simp only [work, hqueue, RpcServerEndpointImpl.putPendingRequest,
    List.length_append, List.length_cons, List.length_nil]
  omega

theorem work_deliverLeft {p : Pair} (h : p.toLeft ≠ []) :
    work (D.machine.step p .deliverLeft).1 < work p ∧
      (D.machine.step p .deliverLeft).1.left.clientState =
        p.left.clientState := by
  obtain ⟨x, rest, hqueue⟩ := List.exists_cons_of_ne_nil h
  have hstep : (D.machine.step p .deliverLeft).1 =
      { p with
        left := p.left.putPendingResponse x
        toLeft := rest } := by
    simp [machine, Duplex.machine, hqueue, Duplex.stepLeft, clientMachine,
      wiring]
  rw [hstep]
  refine ⟨?_, rfl⟩
  simp only [work, hqueue, RpcClientEndpointImpl.putPendingResponse,
    List.length_append, List.length_cons, List.length_nil]
  omega

/-! ## Steps of the client -/

theorem advances_create (hbusy : InFlight requestId p) (opcode : UInt8)
    (isCancelRequest : Bool) (pdu : PduData) :
    Advances requestId p
      (D.machine.step p (.left (.create opcode isCancelRequest pdu))).1
      (D.machine.step p (.left (.create opcode isCancelRequest pdu))).2 := by
  cases isCancelRequest <;>
    exact advances_of_same hbusy rfl rfl rfl rfl rfl (List.append_nil _)

/-- A second call is refused while one is in flight. -/
theorem advances_request (hbusy : InFlight requestId p) (initial : PduData)
    (body : BodyFill D.C.request) (now timeoutUsec : UInt64) :
    Advances requestId p
      (D.machine.step p (.left (.request initial body now timeoutUsec))).1
      (D.machine.step p (.left (.request initial body now timeoutUsec))).2 := by
  generalize hcreated : p.left.createRequestBuffer D.C D.net operationRequest
    false initial = created
  have hfirst : created.1 =
      { p.left with currentRequestId := p.left.currentRequestId + 1 } := by
    rw [← hcreated]
    rfl
  have hrefused : created.1.call D.net now (body.fill created.2) timeoutUsec =
      { state := created.1, result := false } := by
    rcases RpcClientEndpointImpl.call_cases D.net created.1 now
        (body.fill created.2) timeoutUsec with
      ⟨-, hcall⟩ | ⟨hidle, -⟩ | ⟨hidle, -⟩
    · exact hcall
    · rw [hfirst] at hidle
      exact absurd hidle hbusy.1
    · rw [hfirst] at hidle
      exact absurd hidle hbusy.1
  have hstep : (D.machine.step p
      (.left (.request initial body now timeoutUsec))).1 =
        { p with left := created.1 } := by
    simp [machine, Duplex.machine, Duplex.stepLeft, clientMachine, hcreated,
      hrefused, wiring]
  rw [hstep]
  apply advances_of_same hbusy <;> rw [hfirst]

/-- A cancel takes the place of the cancel that was still possible. -/
theorem advances_cancel (hbusy : InFlight requestId p) :
    Advances requestId p (D.machine.step p (.left .cancel)).1
      (D.machine.step p (.left .cancel)).2 := by
  rcases RpcClientEndpointImpl.sendCancelRequest_cases D.C D.net p.left with
    ⟨-, hsend⟩ | ⟨-, hfail, -⟩ | ⟨hrunning, -, hsend⟩
  · have hstep : (D.machine.step p (.left .cancel)).1 = p := by
      simp [machine, Duplex.machine, Duplex.stepLeft, clientMachine, hsend]
    rw [hstep]
    exact advances_of_same hbusy rfl rfl rfl rfl rfl rfl
  · rw [D.sends] at hfail
    exact absurd hfail (by simp)
  · have hstep : ∃ sent : List PduData, sent.length ≤ 1 ∧
        (D.machine.step p (.left .cancel)).1 =
          { p with
            left := p.left.setState .cancelling
            toRight := p.toRight ++ sent } := by
      refine ⟨D.wiring.sendLeft (.sent ⟨p.left.requestKey,
        p.left.cancelBuffer D.C D.net, true⟩), ?_, ?_⟩
      · simp only [wiring]
        split_ifs <;> simp
      · simp [machine, Duplex.machine, Duplex.stepLeft, clientMachine, hsend]
    obtain ⟨sent, hsent, hstep⟩ := hstep
    rw [hstep]
    refine Or.inr ⟨⟨by simp [RpcClientEndpointImpl.setState], hbusy.2⟩,
      Or.inl ?_⟩
    simp only [work, RpcClientEndpointImpl.setState, List.length_append,
      cancelWork, hrunning, if_true, reduceCtorEq, if_false]
    omega

/-- A response that is taken ends the call. -/
theorem Linked.ends (h : D.Linked p past) (hbusy : InFlight requestId p)
    {now : UInt64} (response : RpcResponse) {pdu : PduData}
    (htaken : p.left.taken D.C now = some pdu) :
    Ends requestId (D.machine.step p (.left (.poll now response))).2 := by
  have hobs : (D.machine.step p (.left (.poll now response))).2 =
      [.inl (.polled (p.left.poll D.C now response).2.1
        (p.left.poll D.C now response).2.2)] := rfl
  rcases RpcClientEndpointImpl.poll_cases D.C now p.left response with
    ⟨hnone, -⟩ | ⟨pdu', htaken', -, hid, hpoll⟩
  · rw [htaken] at hnone
    cases hnone
  · obtain ⟨-, -, hvalid, -⟩ := h.takes htaken'
    rw [hpoll, if_pos hvalid] at hobs
    rw [Ends, hobs]
    change .ended requestId ∈ callEntry (.polled _ _) ++ []
    rw [callEntry_terminalEvent, List.append_nil, List.mem_singleton, hid,
      hbusy.2]

theorem Linked.advances_poll (h : D.Linked p past)
    (hbusy : InFlight requestId p) (now : UInt64) (response : RpcResponse) :
    Advances requestId p
      (D.machine.step p (.left (.poll now response))).1
      (D.machine.step p (.left (.poll now response))).2 := by
  cases htaken : p.left.taken D.C now with
  | some pdu => exact Or.inl (h.ends hbusy response htaken)
  | none =>
      rcases RpcClientEndpointImpl.poll_cases D.C now p.left response with
        ⟨-, hstate, -⟩ | ⟨pdu, htaken', -⟩
      · have hstep : (D.machine.step p (.left (.poll now response))).1 = p := by
          simp [machine, Duplex.machine, Duplex.stepLeft, clientMachine,
            hstate, wiring]
        rw [hstep]
        exact advances_of_same hbusy rfl rfl rfl rfl rfl rfl
      · rw [htaken] at htaken'
        cases htaken'

/-! ## Steps of the server -/

/-- The server takes a packet from its queue; at most it has one request more to
answer. -/
theorem Linked.work_serverPoll (h : D.Linked p past) (request : RpcRequest)
    (hqueue : p.right.endpoint.pendingRequests ≠ []) :
    work (D.machine.step p (.right (.poll request))).1 < work p ∧
      (D.machine.step p (.right (.poll request))).1.left = p.left := by
  obtain ⟨pdu, rest, hcons⟩ := List.exists_cons_of_ne_nil hqueue
  obtain ⟨heffects, -, -, hrest, -⟩ := h.serverPoll_cases request hcons
  have hstep : (D.machine.step p (.right (.poll request))).1 =
      { p with
        right :=
          { endpoint := (p.right.endpoint.poll D.C D.net request).state
            unanswered :=
              if (p.right.endpoint.poll D.C D.net request).result.1 =
                  .requestIn then
                p.right.unanswered ++
                  [(p.right.endpoint.poll D.C D.net request).result.2.header]
              else p.right.unanswered } } := by
    simp [machine, Duplex.machine, Duplex.stepRight, serverMachine, heffects,
      wiring]
  have hlength (b : Prop) [Decidable b] (header : ServiceRequestHeader) :
      (if b then p.right.unanswered ++ [header]
        else p.right.unanswered).length ≤ p.right.unanswered.length + 1 := by
    split_ifs <;> simp
  have hunanswered := hlength
    ((p.right.endpoint.poll D.C D.net request).result.1 = .requestIn)
    (p.right.endpoint.poll D.C D.net request).result.2.header
  rw [hstep]
  refine ⟨?_, rfl⟩
  simp only [work, hrest, hcons, List.length_cons]
  omega

theorem Linked.advances_serverPoll (h : D.Linked p past)
    (hbusy : InFlight requestId p) (request : RpcRequest) :
    Advances requestId p (D.machine.step p (.right (.poll request))).1
      (D.machine.step p (.right (.poll request))).2 := by
  by_cases hqueue : p.right.endpoint.pendingRequests = []
  · have hstep : (D.machine.step p (.right (.poll request))).1 = p := by
      simp [machine, Duplex.machine, Duplex.stepRight, serverMachine, wiring,
        RpcServerEndpointImpl.poll_nil hqueue]
    rw [hstep]
    exact advances_of_same hbusy rfl rfl rfl rfl rfl rfl
  · obtain ⟨hlt, hleft⟩ := h.work_serverPoll request hqueue
    exact advances_of_lt hbusy (by rw [hleft]) hlt

/-- A reply, or a cancel reply, sends at most one packet and leaves the queue
alone. -/
theorem reply_le (t : RpcServerEndpointImpl) (kind : ReplyKind) (c : String)
    (pdu : PduData) :
    let o := match kind with
      | .reply => t.sendReply D.net c pdu
      | .cancelReply => t.sendCancelReply D.net c pdu
    o.effects.length ≤ 1 ∧ o.state.pendingRequests = t.pendingRequests := by
  have hfinish := (⟨le_rfl, rfl⟩ :
    (RpcServerEndpointImpl.finish D.net t c pdu).effects.length ≤ 1 ∧
      (RpcServerEndpointImpl.finish D.net t c pdu).state.pendingRequests =
        t.pendingRequests)
  cases kind with
  | reply =>
      simp only [RpcServerEndpointImpl.sendReply]
      split
      · simp
      · split_ifs
        · simp
        · exact hfinish
  | cancelReply =>
      simp only [RpcServerEndpointImpl.sendCancelReply]
      split
      · simp
      · split_ifs
        · simp
        · exact hfinish

theorem length_flatMap_sendRight (sent : List Sent) :
    ((sent.map ServerObs.sent).flatMap D.wiring.sendRight).length ≤
      sent.length := by
  induction sent with
  | nil => simp
  | cons x sent ih =>
      have hone : (D.wiring.sendRight (.sent x)).length ≤ 1 := by
        simp only [wiring]
        split_ifs <;> simp
      simp only [List.map_cons, List.flatMap_cons, List.length_append,
        List.length_cons]
      omega

/-- An answer that is possible leaves less to do. -/
theorem work_answer {kind : ReplyKind} {index : ℕ} (status : UInt8)
    (resultCode : {code : Int32 // code < resultNum}) (initial : PduData)
    (body : BodyFill D.C.response) {header : ServiceRequestHeader}
    (hheader : p.right.unanswered[index]? = some header)
    (hmay : mayAnswer p.right header kind = true) :
    work (D.machine.step p
        (.right (.answer kind index status resultCode initial body))).1 <
        work p ∧
      (D.machine.step p (.right
        (.answer kind index status resultCode initial body))).1.left =
        p.left := by
  generalize hpdu : body.fill (RpcServerEndpointImpl.createReplyBuffer D.C
    D.net header status resultCode.1 initial) = pdu
  obtain ⟨heffects, hqueue⟩ := reply_le (D := D) p.right.endpoint kind
    header.clientName pdu
  generalize ho : (match kind with
    | .reply => p.right.endpoint.sendReply D.net header.clientName pdu
    | .cancelReply =>
        p.right.endpoint.sendCancelReply D.net header.clientName pdu) = o
    at heffects hqueue
  have hstep : (D.machine.step p (.right
      (.answer kind index status resultCode initial body))).1 =
      { p with
        right :=
          { endpoint := o.state
            unanswered := p.right.unanswered.eraseIdx index }
        toLeft := p.toLeft ++
          (o.effects.map ServerObs.sent).flatMap D.wiring.sendRight } := by
    simp only [machine, Duplex.machine, Duplex.stepRight, serverMachine,
      hheader, hmay, not_true_eq_false, if_false, hpdu]
    subst ho
    rfl
  have hsends := length_flatMap_sendRight (D := D) o.effects
  have hindex : index < p.right.unanswered.length :=
    (List.getElem?_eq_some_iff.mp hheader).1
  have herase := List.length_eraseIdx_of_lt hindex
  rw [hstep]
  refine ⟨?_, rfl⟩
  simp only [work, hqueue, List.length_append, herase]
  omega

theorem advances_answer (hbusy : InFlight requestId p) (kind : ReplyKind)
    (index : ℕ) (status : UInt8)
    (resultCode : {code : Int32 // code < resultNum}) (initial : PduData)
    (body : BodyFill D.C.response) :
    Advances requestId p
      (D.machine.step p
        (.right (.answer kind index status resultCode initial body))).1
      (D.machine.step p
        (.right (.answer kind index status resultCode initial body))).2 := by
  have hnothing (hstep : D.serverMachine.step p.right
      (.answer kind index status resultCode initial body) = (p.right, [])) :
      Advances requestId p
        (D.machine.step p
          (.right (.answer kind index status resultCode initial body))).1
        (D.machine.step p
          (.right (.answer kind index status resultCode initial body))).2 := by
    simp only [machine, Duplex.machine, Duplex.stepRight, hstep]
    exact advances_of_same hbusy rfl rfl rfl rfl (List.append_nil _) rfl
  cases hheader : p.right.unanswered[index]? with
  | none => exact hnothing (by simp [serverMachine, hheader])
  | some header =>
      by_cases hmay : mayAnswer p.right header kind = true
      · obtain ⟨hlt, hleft⟩ :=
          work_answer status resultCode initial body hheader hmay
        exact advances_of_lt hbusy (by rw [hleft]) hlt
      · exact hnothing (by simp [serverMachine, hheader, hmay])

/-! ## Every step advances, and the one that is due helps -/

theorem Linked.advances (h : D.Linked p past) (hbusy : InFlight requestId p)
    {i : D.PairInput} (hi : Regular i) :
    Advances requestId p (D.machine.step p i).1 (D.machine.step p i).2 := by
  cases i with
  | left i =>
      cases i with
      | receive pdu => exact hi.elim
      | create opcode isCancelRequest pdu => exact advances_create hbusy ..
      | request initial body now timeoutUsec =>
          exact advances_request hbusy ..
      | cancel => exact advances_cancel hbusy
      | poll now response => exact h.advances_poll hbusy now response
  | right j =>
      cases j with
      | receive pdu => exact hi.elim
      | poll request => exact h.advances_serverPoll hbusy request
      | answer kind index status resultCode initial body =>
          exact advances_answer hbusy ..
  | deliverLeft =>
      by_cases hqueue : p.toLeft = []
      · have hstep : (D.machine.step p .deliverLeft).1 = p := by
          simp [machine, Duplex.machine, hqueue]
        rw [hstep]
        exact advances_of_same hbusy rfl rfl rfl rfl rfl rfl
      · obtain ⟨hlt, hstate⟩ := work_deliverLeft (D := D) hqueue
        exact advances_of_lt hbusy hstate hlt
  | deliverRight =>
      by_cases hqueue : p.toRight = []
      · have hstep : (D.machine.step p .deliverRight).1 = p := by
          simp [machine, Duplex.machine, hqueue]
        rw [hstep]
        exact advances_of_same hbusy rfl rfl rfl rfl rfl rfl
      · obtain ⟨hlt, hleft⟩ := work_deliverRight (D := D) hqueue
        exact advances_of_lt hbusy (by rw [hleft]) hlt

/-- When nothing is under way and nothing is left to answer, the response waits
for the client. -/
theorem Linked.taken (h : D.Linked p past) (hbusy : InFlight requestId p)
    (htoRight : p.toRight = [])
    (hrequests : p.right.endpoint.pendingRequests = [])
    (hunanswered : p.right.unanswered = []) (htoLeft : p.toLeft = [])
    {now : UInt64} (hnow : p.left.timedOut now = false) :
    ∃ pdu, p.left.taken D.C now = some pdu := by
  obtain ⟨status, up, down, -, hup, hdown, hphase⟩ := h.phase
  rw [htoRight, hrequests] at hup
  obtain rfl : up = [] := List.forall₂_nil_left_iff.mp hup
  rw [htoLeft, List.append_nil] at hdown
  rw [hunanswered] at hphase
  have hone : down = [p.left.clientState.requestId] := by
    generalize hnone : ([] : List Message) = messages at hphase
    cases hphase with
    | idle hc => exact absurd hc hbusy.1
    | asked => simp at hnone
    | askedCancel => simp at hnone
    | answered => rfl
    | answeredCancel => rfl
  subst hone
  obtain ⟨pdu, rest, hanswers, -, hqueue⟩ :=
    List.forall₂_cons_right_iff.mp hdown
  obtain ⟨header, hcarries, hid, -⟩ := hanswers
  have hmatch : p.left.matchesRequest D.C pdu = true := by
    rw [RpcClientEndpointImpl.matchesRequest,
      RpcClientEndpointImpl.readResponse, hcarries RpcClientEndpointImpl.blankHeader,
      hid, decide_eq_true rfl]
  refine ⟨pdu, ?_⟩
  rw [RpcClientEndpointImpl.taken, if_neg (by simp [hbusy.1, hnow]), hqueue,
    List.find?_cons_of_pos hmatch]

/-- The action that is due brings the call nearer to its end. -/
theorem Linked.helps (h : D.Linked p past) (hbusy : InFlight requestId p)
    {i : D.PairInput} (hi : D.Acts (due p) p i) :
    Ends requestId (D.machine.step p i).2 ∨
      InFlight requestId (D.machine.step p i).1 ∧
        work (D.machine.step p i).1 < work p := by
  have hlower {p' : Pair} {obs : List (ClientObs ⊕ ServerObs)}
      (hstate : p'.left.clientState = p.left.clientState)
      (hlt : work p' < work p) :
      Ends requestId obs ∨ InFlight requestId p' ∧ work p' < work p := by
    refine Or.inr ⟨?_, hlt⟩
    rw [InFlight, hstate]
    exact hbusy
  unfold due at hi
  by_cases htoRight : p.toRight = []
  · by_cases hrequests : p.right.endpoint.pendingRequests = []
    · by_cases hunanswered : p.right.unanswered = []
      · by_cases htoLeft : p.toLeft = []
        · simp only [htoRight, hrequests, hunanswered, htoLeft, ne_eq,
            not_true_eq_false, if_false] at hi
          cases i with
          | left i =>
              cases i with
              | poll now response =>
                  obtain ⟨pdu, htaken⟩ := h.taken hbusy htoRight hrequests
                    hunanswered htoLeft hi
                  exact Or.inl (h.ends hbusy response htaken)
              | receive | create | request | cancel => exact hi.elim
          | right | deliverLeft | deliverRight => exact hi.elim
        · simp only [htoRight, hrequests, hunanswered, htoLeft, ne_eq,
            not_true_eq_false, not_false_eq_true, if_false, if_true] at hi
          cases i with
          | deliverLeft =>
              obtain ⟨hlt, hstate⟩ := work_deliverLeft (D := D) htoLeft
              exact hlower hstate hlt
          | left | right | deliverRight => exact hi.elim
      · simp only [htoRight, hrequests, hunanswered, ne_eq, not_true_eq_false,
          not_false_eq_true, if_false, if_true] at hi
        cases i with
        | right j =>
            cases j with
            | answer kind index status resultCode initial body =>
                obtain ⟨rfl, rfl⟩ := hi
                obtain ⟨header, rest, hcons⟩ :=
                  List.exists_cons_of_ne_nil hunanswered
                have hfirst : p.right.unanswered[0]? = some header := by
                  rw [hcons]
                  rfl
                have hmay : mayAnswer p.right header .reply = true := rfl
                obtain ⟨hlt, hleft⟩ :=
                  work_answer status resultCode initial body hfirst hmay
                exact hlower (by rw [hleft]) hlt
            | receive | poll => exact hi.elim
        | left | deliverLeft | deliverRight => exact hi.elim
    · simp only [htoRight, hrequests, ne_eq, not_true_eq_false,
        not_false_eq_true, if_false, if_true] at hi
      cases i with
      | right j =>
          cases j with
          | poll request =>
              obtain ⟨hlt, hleft⟩ := h.work_serverPoll request hrequests
              exact hlower (by rw [hleft]) hlt
          | receive | answer => exact hi.elim
      | left | deliverLeft | deliverRight => exact hi.elim
  · simp only [htoRight, ne_eq, not_false_eq_true, if_true] at hi
    cases i with
    | deliverRight =>
        obtain ⟨hlt, hleft⟩ := work_deliverRight (D := D) htoRight
        exact hlower (by rw [hleft]) hlt
    | left | right | deliverLeft => exact hi.elim

end Steps

section Called

variable {D}

end Called

end RpcDeployment
end Rpc
end HakoPduRpc
