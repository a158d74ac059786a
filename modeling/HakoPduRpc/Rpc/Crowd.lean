import HakoPduRpc.Rpc.CallProgress
import HakoPduRpc.Rpc.ClientIsolation
import Mathlib.Data.Prod.Lex

/-!
# A client in a crowd

The server endpoint of `Protocol` with packets of other clients in its queue,
well-formed or not, and with an application that answers these as well.

`narrow` leaves out what belongs to the others.  What `Protocol` shows of one
client and one server holds of the narrow state: a step of the others is not
seen in it, and every other step is the same step.  The others can make the
client wait, so `crowdDescent` counts, after the work that is left, what stands
in front of the client's request.
-/

namespace HakoPduRpc
namespace Rpc

/-! ## An entry taken out of a list -/

section Lists

variable {α : Type} {P : α → Bool} {l : List α} {x : α} {n : ℕ}

theorem filter_eraseIdx_of_not (hx : l[n]? = some x) (hP : P x = false) :
    (l.eraseIdx n).filter P = l.filter P := by
  induction l generalizing n with
  | nil => rfl
  | cons y l ih =>
      cases n with
      | zero =>
          obtain rfl : y = x := by simpa using hx
          simp [hP]
      | succ n => simp [List.filter_cons, ih (n := n) (by simpa using hx)]

/-- An entry that the filter keeps is also an entry of what is left. -/
theorem exists_filter_eraseIdx (hx : l[n]? = some x) (hP : P x = true) :
    ∃ j, (l.filter P)[j]? = some x ∧
      (l.eraseIdx n).filter P = (l.filter P).eraseIdx j := by
  induction l generalizing n with
  | nil => simp at hx
  | cons y l ih =>
      cases n with
      | zero =>
          obtain rfl : y = x := by simpa using hx
          exact ⟨0, by simp [hP], by simp [hP]⟩
      | succ n =>
          obtain ⟨j, hj, herase⟩ := ih (n := n) (by simpa using hx)
          cases hy : P y with
          | true =>
              exact ⟨j + 1, by simpa [hy] using hj, by simp [hy, herase]⟩
          | false => exact ⟨j, by simpa [hy] using hj, by simp [hy, herase]⟩

/-- Taking out another entry brings nothing further back. -/
theorem findIdx_eraseIdx_le (hx : l[n]? = some x) (hP : P x = false) :
    (l.eraseIdx n).findIdx P ≤ l.findIdx P := by
  induction l generalizing n with
  | nil => exact le_rfl
  | cons y l ih =>
      cases n with
      | zero =>
          obtain rfl : y = x := by simpa using hx
          simp [List.findIdx_cons, hP]
      | succ n =>
          have hrest := ih (n := n) (by simpa using hx)
          rw [List.eraseIdx_cons_succ, List.findIdx_cons, List.findIdx_cons]
          cases P y with
          | true => exact le_rfl
          | false => exact Nat.succ_le_succ hrest

/-- What is added at the end brings nothing further back. -/
theorem findIdx_append_of_filter (h : l.filter P ≠ []) (l' : List α) :
    (l ++ l').findIdx P = l.findIdx P := by
  obtain ⟨x, hx⟩ := List.exists_mem_of_ne_nil _ h
  rw [List.mem_filter] at hx
  have hlt : l.findIdx P < l.length := List.findIdx_lt_length.mpr ⟨x, hx⟩
  rw [List.findIdx_append, if_pos hlt]

end Lists

namespace RpcServerEndpointImpl

/-! ## The queue plays no part in an answer -/

/-- The endpoint with another queue. -/
def queued (queue : List PduData) (s : RpcServerEndpointImpl) :
    RpcServerEndpointImpl :=
  { s with pendingRequests := queue }

section Queued

variable (C : RpcConvertors) (net : PduEndpoint) (queue : List PduData)
  (s : RpcServerEndpointImpl)

theorem status_queued (clientName : String) :
    (s.queued queue).status clientName = s.status clientName := rfl

theorem sendReply_queued (clientName : String) (pdu : PduData) :
    (s.queued queue).sendReply net clientName pdu =
      (s.sendReply net clientName pdu).embed (queued queue) := by
  unfold sendReply
  rw [status_queued]
  cases s.status clientName with
  | none => rfl
  | some status =>
      dsimp only
      split_ifs <;> rfl

theorem sendCancelReply_queued (clientName : String) (pdu : PduData) :
    (s.queued queue).sendCancelReply net clientName pdu =
      (s.sendCancelReply net clientName pdu).embed (queued queue) := by
  unfold sendCancelReply
  rw [status_queued]
  cases s.status clientName with
  | none => rfl
  | some status =>
      dsimp only
      split_ifs <;> rfl

theorem validateHeader_queued (hstatic : s.dynamicClient = false)
    (header : ServiceRequestHeader) :
    (s.queued queue).validateHeader net header =
      (s.queued queue, (s.validateHeader net header).2) := by
  unfold validateHeader
  change (if header.serviceName ≠ s.serviceName then _
    else if s.dynamicClient then _ else _) = _
  rw [hstatic]
  change (if header.serviceName ≠ s.serviceName then _
    else if false = true then _
    else if header.clientName ∉ s.registeredClients then _ else _) = _
  simp only [Bool.false_eq_true, if_false]
  split_ifs <;> rfl

theorem dispatch_queued (hstatic : s.dynamicClient = false)
    (request : RpcRequest) :
    dispatch C net (s.queued queue) request =
      (dispatch C net s request).embed (queued queue) := by
  have herror (resultCode : Int32) :
      unreported request
          ((s.queued queue).sendErrorReply C net request.header resultCode) =
        (unreported request
          (s.sendErrorReply C net request.header resultCode)).embed
            (queued queue) := by
    simp only [sendErrorReply, sendReply_queued]
    rfl
  have hsame := validateHeader_fst_static net hstatic request.header
  unfold dispatch
  rw [validateHeader_queued net queue s hstatic]
  generalize s.validateHeader net request.header = check at hsame
  obtain ⟨s', valid⟩ := check
  obtain rfl : s' = s := hsame
  cases valid with
  | false => exact herror resultError
  | true =>
      dsimp only
      rw [status_queued]
      cases s'.status request.header.clientName with
      | none => exact herror resultInvalid
      | some status =>
          dsimp only
          split_ifs
          · unfold handleCancelRequest
            cases status.state with
            | idle => rfl
            | running =>
                dsimp only
                split_ifs
                · exact herror resultInvalid
                · rfl
            | cancelling => exact herror resultBusy
          · unfold handleRequestIn
            cases status.state with
            | idle => rfl
            | running => exact herror resultBusy
            | cancelling => exact herror resultBusy

end Queued

end RpcServerEndpointImpl

namespace RpcDeployment

variable (D : RpcDeployment)

/-! ## What belongs to the client -/

/-- The packet names the client, whatever object it is read into. -/
def Mine (pdu : PduData) : Prop :=
  ∀ old, (D.C.request.pdu2cpp pdu old).clientName = D.clientName

/-- The packet does not name the client. -/
def Foreign (pdu : PduData) : Prop :=
  ∀ old, (D.C.request.pdu2cpp pdu old).clientName ≠ D.clientName

/-- The client's packets, for a queue in which every packet is the client's or
foreign. -/
def mine (pdu : PduData) : Bool :=
  (D.C.request.pdu2cpp pdu ⟨0, "", "", 0, 0⟩).clientName = D.clientName

/-- The client's requests among those that the application has been given. -/
def asks (header : ServiceRequestHeader) : Bool :=
  header.clientName = D.clientName

/-- What the client has to do with. -/
def narrow (p : Pair) : Pair :=
  { p with
    right :=
      { endpoint := p.right.endpoint.queued
          (p.right.endpoint.pendingRequests.filter D.mine)
        unanswered := p.right.unanswered.filter D.asks } }

/-- The client's own packets come from its link only. -/
def Crowded : D.PairInput → Prop
  | .left (.receive _) => False
  | .right (.receive pdu) => D.Foreign pdu
  | _ => True

/-- Every packet in the queue belongs to somebody, and the client and the server
are together as far as the client has to do with it. -/
structure InCrowd (p : Pair) (past : List (ClientObs ⊕ ServerObs)) : Prop where
  clear : ∀ pdu ∈ p.right.endpoint.pendingRequests, D.Mine pdu ∨ D.Foreign pdu
  linked : D.Linked (D.narrow p) past

section Crowd

variable {D} {p : Pair} {past : List (ClientObs ⊕ ServerObs)} {pdu : PduData}

theorem Mine.mine (h : D.Mine pdu) : D.mine pdu = true :=
  decide_eq_true (h _)

theorem Foreign.mine (h : D.Foreign pdu) : D.mine pdu = false :=
  decide_eq_false (h _)

/-- A step of which the client notices nothing. -/
structure Unnoticed (D : RpcDeployment) (p p' : Pair)
    (obs : List (ClientObs ⊕ ServerObs)) : Prop where
  left_eq : p'.left = p.left
  toLeft_eq : p'.toLeft = p.toLeft
  toRight_eq : p'.toRight = p.toRight
  serves : D.Serves p.right.endpoint → D.Serves p'.right.endpoint
  status_eq : p'.right.endpoint.status D.clientName =
    p.right.endpoint.status D.clientName
  mine_eq : p'.right.endpoint.pendingRequests.filter D.mine =
    p.right.endpoint.pendingRequests.filter D.mine
  asks_eq : p'.right.unanswered.filter D.asks =
    p.right.unanswered.filter D.asks
  lefts_eq : Duplex.lefts obs = []

/-- Nothing of what the client waits for has been put further back. -/
structure Closer (D : RpcDeployment) (p p' : Pair) : Prop where
  queue : p.right.endpoint.pendingRequests.filter D.mine ≠ [] →
    p'.right.endpoint.pendingRequests.findIdx D.mine ≤
      p.right.endpoint.pendingRequests.findIdx D.mine
  unanswered : p.right.unanswered.filter D.asks ≠ [] →
    p'.right.unanswered.findIdx D.asks ≤ p.right.unanswered.findIdx D.asks

theorem Unnoticed.same (p : Pair) {obs : List (ClientObs ⊕ ServerObs)}
    (hobs : Duplex.lefts obs = []) : D.Unnoticed p p obs :=
  ⟨rfl, rfl, rfl, id, rfl, rfl, rfl, hobs⟩

theorem Closer.same (p : Pair) : D.Closer p p :=
  ⟨fun _ => le_rfl, fun _ => le_rfl⟩

theorem InCrowd.serves (h : D.InCrowd p past) : D.Serves p.right.endpoint :=
  ⟨h.linked.server.serviceName, h.linked.server.static,
    h.linked.server.registered⟩

theorem InCrowd.unnoticed (h : D.InCrowd p past) {p' : Pair}
    {obs : List (ClientObs ⊕ ServerObs)} (hp' : D.Unnoticed p p' obs) :
    D.Linked (D.narrow p') (past ++ obs) := by
  have hserves := hp'.serves h.serves
  constructor
  · change D.OfClient p'.left
    rw [hp'.left_eq]
    exact h.linked.client
  · exact ⟨hserves.serviceName, hserves.static, hserves.registered⟩
  · obtain ⟨status, up, down, hstatus, hup, hdown, hphase⟩ := h.linked.phase
    refine ⟨status, up, down, hp'.status_eq.trans hstatus, ?_, ?_, ?_⟩
    · change D.Up (p'.right.endpoint.pendingRequests.filter D.mine ++
        p'.toRight) up
      rw [hp'.mine_eq, hp'.toRight_eq]
      exact hup
    · change D.Down (p'.left.pendingResponses ++ p'.toLeft) down
      rw [hp'.left_eq, hp'.toLeft_eq]
      exact hdown
    · change D.Phase p'.left.clientState status up down
        (p'.right.unanswered.filter D.asks)
      rw [hp'.left_eq, hp'.asks_eq]
      exact hphase
  · rw [Duplex.lefts_append, hp'.lefts_eq, List.append_nil]
    change CallHistory p'.left.clientState _
    rw [hp'.left_eq]
    exact h.linked.calls

/-- A packet of the client carries one of its messages. -/
theorem Up.exists_carries {pdus : List PduData} {messages : List Message}
    (h : D.Up pdus messages) (hpdu : pdu ∈ pdus) :
    ∃ m, D.C.request.Carries pdu (D.header m) := by
  induction h with
  | nil => cases hpdu
  | cons hcarries _ ih =>
      obtain rfl | hpdu := List.mem_cons.mp hpdu
      · exact ⟨_, hcarries⟩
      · exact ih hpdu

/-- What is on the way to the server is the client's. -/
theorem InCrowd.mine_of_toRight (h : D.InCrowd p past)
    (hpdu : pdu ∈ p.toRight) : D.Mine pdu := by
  obtain ⟨status, up, down, -, hup, -⟩ := h.linked.phase
  have hmem : pdu ∈ (D.narrow p).right.endpoint.pendingRequests ++
      (D.narrow p).toRight := List.mem_append_right _ hpdu
  obtain ⟨m, hcarries⟩ := hup.exists_carries hmem
  intro old
  rw [hcarries old, header_clientName]

/-! ## Steps that the client has to do with -/

theorem narrow_left (i : ClientStep D.C) :
    D.machine.step (D.narrow p) (.left i) =
      (D.narrow (D.machine.step p (.left i)).1,
        (D.machine.step p (.left i)).2) := rfl

theorem narrow_deliverLeft :
    D.machine.step (D.narrow p) .deliverLeft =
      (D.narrow (D.machine.step p .deliverLeft).1,
        (D.machine.step p .deliverLeft).2) := by
  cases hqueue : p.toLeft with
  | nil =>
      have hnarrow : (D.narrow p).toLeft = [] := hqueue
      simp [machine, Duplex.machine, hqueue, hnarrow]
  | cons x rest =>
      have hnarrow : (D.narrow p).toLeft = x :: rest := hqueue
      simp only [machine, Duplex.machine, hqueue, hnarrow]
      rfl

theorem InCrowd.narrow_deliverRight (h : D.InCrowd p past) :
    D.machine.step (D.narrow p) .deliverRight =
      (D.narrow (D.machine.step p .deliverRight).1,
        (D.machine.step p .deliverRight).2) := by
  cases hqueue : p.toRight with
  | nil =>
      have hnarrow : (D.narrow p).toRight = [] := hqueue
      simp [machine, Duplex.machine, hqueue, hnarrow]
  | cons x rest =>
      have hmine : D.mine x = true :=
        (h.mine_of_toRight (by rw [hqueue]; exact List.mem_cons_self)).mine
      simp [machine, Duplex.machine, Duplex.stepRight, serverMachine, hqueue,
        narrow, wiring, RpcServerEndpointImpl.putPendingRequest,
        RpcServerEndpointImpl.queued, hmine]

/-! ## Packets of the client and of the others -/

/-- Nothing of what is sent to another client is put on the link. -/
theorem sendRight_of_sendsTo {α : Type} {s : RpcServerEndpointImpl}
    {o : Outcome RpcServerEndpointImpl Sent α} {clientName : String}
    (h : RpcServerEndpointImpl.SendsTo s clientName o)
    (hne : clientName ≠ D.clientName) :
    (o.effects.map ServerObs.sent).flatMap D.wiring.sendRight = [] := by
  rw [List.flatMap_eq_nil_iff]
  intro obs hobs
  obtain ⟨sent, hsent, rfl⟩ := List.mem_map.mp hobs
  simp only [wiring, h sent hsent, PduKey.mk.injEq]
  rw [if_neg]
  rintro ⟨-, -, hname⟩
  exact hne ((String.append_left_inj "Res").mp hname)

/-- The packet in front of the queue, once it is taken. -/
theorem poll_queued (hstatic : p.right.endpoint.dynamicClient = false)
    (request : RpcRequest) {rest : List PduData}
    (hqueue : p.right.endpoint.pendingRequests = pdu :: rest) :
    p.right.endpoint.poll D.C D.net request =
      (RpcServerEndpointImpl.dispatch D.C D.net p.right.endpoint
        (RpcServerEndpointImpl.taken D.C request pdu)).embed
          (RpcServerEndpointImpl.queued rest) :=
  (RpcServerEndpointImpl.poll_taken hqueue).trans
    (RpcServerEndpointImpl.dispatch_queued D.C D.net rest _ hstatic _)

theorem filter_asks_requestIn {event : ServerEventType}
    {header : ServiceRequestHeader} (unanswered : List ServiceRequestHeader) :
    (if event = .requestIn then unanswered ++ [header]
      else unanswered).filter D.asks =
      if event = .requestIn ∧ D.asks header = true then
        unanswered.filter D.asks ++ [header]
      else unanswered.filter D.asks := by
  by_cases hevent : event = .requestIn
  · cases hasks : D.asks header <;> simp [hevent, hasks]
  · simp [hevent]

/-- The server polls and takes a packet of the client. -/
theorem InCrowd.narrow_poll (h : D.InCrowd p past) (request : RpcRequest)
    {rest : List PduData}
    (hqueue : p.right.endpoint.pendingRequests = pdu :: rest)
    (hmine : D.Mine pdu) :
    D.machine.step (D.narrow p) (.right (.poll request)) =
      (D.narrow (D.machine.step p (.right (.poll request))).1,
        (D.machine.step p (.right (.poll request))).2) := by
  have hnarrow : (D.narrow p).right.endpoint.pendingRequests =
      pdu :: rest.filter D.mine := by
    simp [narrow, RpcServerEndpointImpl.queued, hqueue, hmine.mine]
  have hstatic := h.serves.static
  have hpoll := poll_queued (D := D) hstatic request hqueue
  have hpoll' : (D.narrow p).right.endpoint.poll D.C D.net request =
      (RpcServerEndpointImpl.dispatch D.C D.net p.right.endpoint
        (RpcServerEndpointImpl.taken D.C request pdu)).embed
          (RpcServerEndpointImpl.queued (rest.filter D.mine)) :=
    (RpcServerEndpointImpl.poll_taken hnarrow).trans
      (RpcServerEndpointImpl.dispatch_queued D.C D.net _ _ hstatic _)
  have hasks : D.asks (RpcServerEndpointImpl.dispatch D.C D.net
      p.right.endpoint
      (RpcServerEndpointImpl.taken D.C request pdu)).result.2.header = true := by
    rw [RpcServerEndpointImpl.dispatch_header]
    exact decide_eq_true (hmine _)
  simp only [machine, Duplex.machine, Duplex.stepRight, serverMachine, hpoll,
    hpoll', Outcome.embed_result, Outcome.embed_effects]
  simp only [narrow, filter_asks_requestIn, hasks, and_true]
  rfl

/-- The server polls and takes a packet of somebody else. -/
theorem InCrowd.foreign_poll (h : D.InCrowd p past) (request : RpcRequest)
    {rest : List PduData}
    (hqueue : p.right.endpoint.pendingRequests = pdu :: rest)
    (hforeign : D.Foreign pdu) :
    D.Unnoticed p (D.machine.step p (.right (.poll request))).1
        (D.machine.step p (.right (.poll request))).2 ∧
      (D.machine.step p
          (.right (.poll request))).1.right.endpoint.pendingRequests = rest ∧
      ∃ added, (D.machine.step p (.right (.poll request))).1.right.unanswered =
        p.right.unanswered ++ added := by
  have hstatic := h.serves.static
  have hpoll := poll_queued (D := D) hstatic request hqueue
  generalize htaken : RpcServerEndpointImpl.taken D.C request pdu = taken
    at hpoll
  have hne : taken.header.clientName ≠ D.clientName := by
    rw [← htaken]
    exact hforeign _
  generalize ho : RpcServerEndpointImpl.dispatch D.C D.net p.right.endpoint
    taken = o at hpoll
  have hsends : RpcServerEndpointImpl.SendsTo p.right.endpoint
      taken.header.clientName o :=
    ho ▸ RpcServerEndpointImpl.dispatch_sendsTo hstatic taken
  have hasks : D.asks o.result.2.header = false := by
    rw [← ho, RpcServerEndpointImpl.dispatch_header]
    exact decide_eq_false hne
  have hstatus : o.state.status D.clientName =
      p.right.endpoint.status D.clientName := by
    rw [← ho]
    exact RpcServerEndpointImpl.dispatch_status_of_ne D.C D.net _ taken hne.symm
  have hwrites : RpcServerEndpointImpl.Writes p.right.endpoint o.state
      taken.header.clientName := by
    rw [← ho]
    have hchecked := RpcServerEndpointImpl.dispatch_writes D.C D.net
      p.right.endpoint taken
    rwa [RpcServerEndpointImpl.validateHeader_fst_static D.net hstatic]
      at hchecked
  simp only [machine, Duplex.machine, Duplex.stepRight, serverMachine, hpoll,
    Outcome.embed_state, Outcome.embed_result, Outcome.embed_effects,
    List.flatMap_append, sendRight_of_sendsTo hsends hne]
  refine ⟨⟨rfl, ?_, rfl, ?_, hstatus, ?_, ?_, Duplex.lefts_inr _⟩, rfl, ?_⟩
  · simp [wiring]
  · intro hserves
    have hserves' := hserves.writes hwrites
    exact ⟨hserves'.serviceName, hserves'.static, hserves'.registered⟩
  · simp only [RpcServerEndpointImpl.queued, hqueue, List.filter_cons,
      hforeign.mine, Bool.false_eq_true, if_false]
  · simp only [filter_asks_requestIn, hasks, Bool.false_eq_true, and_false,
      if_false]
  · split_ifs
    · exact ⟨_, rfl⟩
    · exact ⟨[], (List.append_nil _).symm⟩

/-! ## Answers to the client and to the others -/

/-- The reply of either kind. -/
def answered (D : RpcDeployment) (t : RpcServerEndpointImpl) (kind : ReplyKind)
    (clientName : String) (pdu : PduData) :
    Outcome RpcServerEndpointImpl Sent Unit :=
  match kind with
  | .reply => t.sendReply D.net clientName pdu
  | .cancelReply => t.sendCancelReply D.net clientName pdu

theorem answered_queued (queue : List PduData) (t : RpcServerEndpointImpl)
    (kind : ReplyKind) (clientName : String) :
    D.answered (t.queued queue) kind clientName pdu =
      (D.answered t kind clientName pdu).embed
        (RpcServerEndpointImpl.queued queue) := by
  cases kind with
  | reply => exact RpcServerEndpointImpl.sendReply_queued D.net queue t _ _
  | cancelReply =>
      exact RpcServerEndpointImpl.sendCancelReply_queued D.net queue t _ _

theorem answered_writes (t : RpcServerEndpointImpl) (kind : ReplyKind)
    (clientName : String) :
    RpcServerEndpointImpl.Writes t (D.answered t kind clientName pdu).state
      clientName := by
  cases kind with
  | reply => exact RpcServerEndpointImpl.sendReply_writes D.net t _ _
  | cancelReply =>
      exact RpcServerEndpointImpl.sendCancelReply_writes D.net t _ _

theorem answered_pendingRequests (t : RpcServerEndpointImpl)
    (kind : ReplyKind) (clientName : String) :
    (D.answered t kind clientName pdu).state.pendingRequests =
      t.pendingRequests := by
  have hwrites : RpcServerEndpointImpl.Writes t
      (D.answered t kind clientName pdu).state clientName :=
    answered_writes t kind clientName
  obtain hstate | ⟨status, hstate⟩ := hwrites
  · rw [hstate]
  · rw [hstate]
    rfl

theorem answered_sendsTo (t : RpcServerEndpointImpl) (kind : ReplyKind)
    (clientName : String) :
    RpcServerEndpointImpl.SendsTo t clientName
      (D.answered t kind clientName pdu) := by
  cases kind with
  | reply => exact RpcServerEndpointImpl.sendReply_sendsTo _ _
  | cancelReply => exact RpcServerEndpointImpl.sendCancelReply_sendsTo _ _

/-- A request that the application may answer in this way is answered. -/
theorem step_answer {s : RpcServer} {kind : ReplyKind} {index : ℕ}
    (status : UInt8) (resultCode : {code : Int32 // code < resultNum})
    (initial : PduData) (body : BodyFill D.C.response)
    {header : ServiceRequestHeader} (hheader : s.unanswered[index]? = some header)
    (hmay : mayAnswer s header kind = true) :
    let o := D.answered s.endpoint kind header.clientName
      (body.fill (RpcServerEndpointImpl.createReplyBuffer D.C D.net header
        status resultCode.1 initial))
    D.serverMachine.step s (.answer kind index status resultCode initial body) =
      ({ endpoint := o.state
         unanswered := s.unanswered.eraseIdx index },
        o.effects.map .sent) := by
  simp only [serverMachine, hheader, hmay, not_true_eq_false, if_false]
  cases kind <;> rfl

/-- Otherwise nothing happens. -/
theorem step_answer_of_not {s : RpcServer} {kind : ReplyKind} {index : ℕ}
    (status : UInt8) (resultCode : {code : Int32 // code < resultNum})
    (initial : PduData) (body : BodyFill D.C.response)
    (h : ¬∃ header, s.unanswered[index]? = some header ∧
      mayAnswer s header kind = true) :
    D.serverMachine.step s (.answer kind index status resultCode initial body) =
      (s, []) := by
  cases hheader : s.unanswered[index]? with
  | none => simp [serverMachine, hheader]
  | some header =>
      have hmay : ¬mayAnswer s header kind = true := fun hmay =>
        h ⟨header, hheader, hmay⟩
      simp [serverMachine, hheader, hmay]

theorem mayAnswer_narrow (p : Pair) (header : ServiceRequestHeader)
    (kind : ReplyKind) :
    mayAnswer (D.narrow p).right header kind =
      mayAnswer p.right header kind := by
  cases kind <;> rfl

/-- The application answers a request of the client. -/
theorem narrow_answer {kind : ReplyKind} {index : ℕ} (status : UInt8)
    (resultCode : {code : Int32 // code < resultNum}) (initial : PduData)
    (body : BodyFill D.C.response) {header : ServiceRequestHeader}
    (hheader : p.right.unanswered[index]? = some header)
    (hasks : D.asks header = true)
    (hmay : mayAnswer p.right header kind = true) :
    ∃ j, (D.narrow p).right.unanswered[j]? = some header ∧
      D.machine.step (D.narrow p)
          (.right (.answer kind j status resultCode initial body)) =
        (D.narrow (D.machine.step p
            (.right (.answer kind index status resultCode initial body))).1,
          (D.machine.step p
            (.right (.answer kind index status resultCode initial body))).2) := by
  obtain ⟨j, hj, herase⟩ := exists_filter_eraseIdx hheader hasks
  refine ⟨j, hj, ?_⟩
  have hmay' : mayAnswer (D.narrow p).right header kind = true :=
    (mayAnswer_narrow p header kind).trans hmay
  have hj' : (D.narrow p).right.unanswered[j]? = some header := hj
  simp only [machine, Duplex.machine, Duplex.stepRight,
    step_answer status resultCode initial body hheader hmay,
    step_answer status resultCode initial body hj' hmay']
  simp only [narrow, answered_queued, Outcome.embed_state,
    Outcome.embed_effects, herase, answered_pendingRequests]

/-- The application answers a request of somebody else. -/
theorem foreign_answer {kind : ReplyKind} {index : ℕ} (status : UInt8)
    (resultCode : {code : Int32 // code < resultNum}) (initial : PduData)
    (body : BodyFill D.C.response) {header : ServiceRequestHeader}
    (hheader : p.right.unanswered[index]? = some header)
    (hasks : D.asks header = false)
    (hmay : mayAnswer p.right header kind = true) :
    let next := D.machine.step p
      (.right (.answer kind index status resultCode initial body))
    D.Unnoticed p next.1 next.2 ∧
      next.1.right.endpoint.pendingRequests =
        p.right.endpoint.pendingRequests ∧
      next.1.right.unanswered = p.right.unanswered.eraseIdx index := by
  have hne : header.clientName ≠ D.clientName := of_decide_eq_false hasks
  generalize hpdu : body.fill (RpcServerEndpointImpl.createReplyBuffer D.C D.net
    header status resultCode.1 initial) = pdu
  have hwrites : RpcServerEndpointImpl.Writes p.right.endpoint
      (D.answered p.right.endpoint kind header.clientName pdu).state
      header.clientName := answered_writes _ _ _
  have hsends : RpcServerEndpointImpl.SendsTo p.right.endpoint
      header.clientName
      (D.answered p.right.endpoint kind header.clientName pdu) :=
    answered_sendsTo _ _ _
  simp only [machine, Duplex.machine, Duplex.stepRight,
    step_answer status resultCode initial body hheader hmay, hpdu]
  refine ⟨⟨rfl, ?_, rfl, ?_, ?_, ?_, ?_, Duplex.lefts_inr _⟩,
    answered_pendingRequests _ _ _, trivial⟩
  · simp only [sendRight_of_sendsTo hsends hne, List.append_nil]
  · exact fun hserves => hserves.writes hwrites
  · exact hwrites.status_of_ne hne.symm
  · simp only [answered_pendingRequests]
  · exact filter_eraseIdx_of_not hheader hasks

/-! ## What a step does -/

/-- A step is one of the narrow state, and then it moves nothing on the side of
the server or brings the call nearer to its end; or the client notices nothing
of it. -/
theorem InCrowd.step_cases (h : D.InCrowd p past) {i : D.PairInput}
    (hi : D.Crowded i) :
    (∃ i', Regular i' ∧
        D.machine.step (D.narrow p) i' =
          (D.narrow (D.machine.step p i).1, (D.machine.step p i).2) ∧
        ((D.machine.step p i).1.right = p.right ∨
          work (D.narrow (D.machine.step p i).1) < work (D.narrow p))) ∨
      (D.Unnoticed p (D.machine.step p i).1 (D.machine.step p i).2 ∧
        D.Closer p (D.machine.step p i).1) := by
  have hnothing {i : D.PairInput} {obs : List (ClientObs ⊕ ServerObs)}
      (hstep : D.machine.step p i = (p, obs)) (hobs : Duplex.lefts obs = []) :
      D.Unnoticed p (D.machine.step p i).1 (D.machine.step p i).2 ∧
        D.Closer p (D.machine.step p i).1 := by
    rw [hstep]
    exact ⟨.same p hobs, .same p⟩
  cases i with
  | left i =>
      exact Or.inl ⟨.left i, by cases i <;> trivial, narrow_left i,
        Or.inl rfl⟩
  | deliverLeft =>
      refine Or.inl ⟨.deliverLeft, trivial, narrow_deliverLeft, Or.inl ?_⟩
      simp only [machine, Duplex.machine]
      split <;> rfl
  | deliverRight =>
      refine Or.inl ⟨.deliverRight, trivial, h.narrow_deliverRight, ?_⟩
      by_cases hqueue : p.toRight = []
      · left
        simp [machine, Duplex.machine, hqueue]
      · right
        have hlt := (work_deliverRight (D := D) (p := D.narrow p) hqueue).1
        rwa [h.narrow_deliverRight] at hlt
  | right j =>
      cases j with
      | receive pdu =>
          have hforeign : D.Foreign pdu := hi
          refine Or.inr ⟨⟨rfl, List.append_nil _, rfl, ?_, rfl, ?_, rfl, rfl⟩,
            ?_, fun _ => le_rfl⟩
          · exact fun hs => ⟨hs.serviceName, hs.static, hs.registered⟩
          · change (p.right.endpoint.pendingRequests ++ [pdu]).filter D.mine = _
            rw [List.filter_append, List.filter_cons, hforeign.mine]
            exact List.append_nil _
          · exact fun hmine => (findIdx_append_of_filter hmine [pdu]).le
      | poll request =>
          cases hqueue : p.right.endpoint.pendingRequests with
          | nil =>
              have hpoll : p.right.endpoint.poll D.C D.net request =
                  { state := p.right.endpoint, result := (.none, request) } :=
                RpcServerEndpointImpl.poll_nil hqueue request
              have hstep : D.machine.step p (.right (.poll request)) =
                  (p, [.inr (.polled .none request)]) := by
                simp [machine, Duplex.machine, Duplex.stepRight, serverMachine,
                  hpoll, wiring]
              exact Or.inr (hnothing hstep rfl)
          | cons pdu rest =>
              obtain hmine | hforeign := h.clear pdu (by
                rw [hqueue]
                exact List.mem_cons_self)
              · refine Or.inl ⟨.right (.poll request), trivial,
                  h.narrow_poll request hqueue hmine, Or.inr ?_⟩
                have hne : (D.narrow p).right.endpoint.pendingRequests ≠ [] := by
                  simp [narrow, RpcServerEndpointImpl.queued, hqueue,
                    hmine.mine]
                have hlt := (h.linked.work_serverPoll request hne).1
                rwa [h.narrow_poll request hqueue hmine] at hlt
              · obtain ⟨hnotice, hrest, added, hadded⟩ :=
                  h.foreign_poll request hqueue hforeign
                refine Or.inr ⟨hnotice, ?_, ?_⟩
                · intro _
                  rw [hrest, hqueue, List.findIdx_cons, hforeign.mine]
                  exact Nat.le_succ _
                · intro hasks
                  rw [hadded]
                  exact (findIdx_append_of_filter hasks added).le
      | answer kind index status resultCode initial body =>
          by_cases hanswer : ∃ header, p.right.unanswered[index]? =
              some header ∧ mayAnswer p.right header kind = true
          · obtain ⟨header, hheader, hmay⟩ := hanswer
            cases hasks : D.asks header with
            | true =>
                obtain ⟨j, hj, hstep⟩ := narrow_answer status resultCode initial
                  body hheader hasks hmay
                refine Or.inl ⟨.right
                  (.answer kind j status resultCode initial body), trivial,
                  hstep, Or.inr ?_⟩
                have hlt := (work_answer status resultCode initial body hj
                  ((mayAnswer_narrow p header kind).trans hmay)).1
                rwa [hstep] at hlt
            | false =>
                obtain ⟨hnotice, hqueue, herase⟩ := foreign_answer status
                  resultCode initial body hheader hasks hmay
                refine Or.inr ⟨hnotice, ?_, ?_⟩
                · intro _
                  rw [hqueue]
                · intro _
                  rw [herase]
                  exact findIdx_eraseIdx_le hheader hasks
          · have hstep : D.machine.step p
                (.right (.answer kind index status resultCode initial body)) =
                  (p, []) := by
              simp [machine, Duplex.machine, Duplex.stepRight,
                step_answer_of_not status resultCode initial body hanswer]
            exact Or.inr (hnothing hstep rfl)

/-! ## Every step keeps the client and the server together -/

theorem InCrowd.linked_step (h : D.InCrowd p past) {i : D.PairInput}
    (hi : D.Crowded i) :
    D.Linked (D.narrow (D.machine.step p i).1)
      (past ++ (D.machine.step p i).2) := by
  obtain ⟨i', hi', hstep, -⟩ | ⟨hnotice, -⟩ := h.step_cases hi
  · have hlinked := h.linked.step i' hi'
    rwa [hstep] at hlinked
  · exact h.unnoticed hnotice

/-- What is in the queue after a step of the server was there before or has just
been received. -/
theorem mem_pendingRequests_step {s : RpcServer}
    (hstatic : s.endpoint.dynamicClient = false) {j : ServerStep D.C}
    (h : pdu ∈ (D.serverMachine.step s j).1.endpoint.pendingRequests) :
    pdu ∈ s.endpoint.pendingRequests ∨ j = .receive pdu := by
  cases j with
  | receive received =>
      obtain h | h := List.mem_append.mp h
      · exact Or.inl h
      · exact Or.inr (by rw [List.mem_singleton.mp h])
  | poll request =>
      left
      cases hqueue : s.endpoint.pendingRequests with
      | nil =>
          simp only [serverMachine, RpcServerEndpointImpl.poll_nil hqueue] at h
          rwa [hqueue] at h
      | cons first rest =>
          simp only [serverMachine, RpcServerEndpointImpl.poll_taken hqueue] at h
          change pdu ∈ (RpcServerEndpointImpl.dispatch D.C D.net
            (s.endpoint.queued rest) _).state.pendingRequests at h
          rw [RpcServerEndpointImpl.dispatch_queued D.C D.net rest _ hstatic]
            at h
          exact List.mem_cons_of_mem first h
  | answer kind index status resultCode initial body =>
      left
      by_cases hanswer : ∃ header, s.unanswered[index]? = some header ∧
          mayAnswer s header kind = true
      · obtain ⟨header, hheader, hmay⟩ := hanswer
        simp only [step_answer status resultCode initial body hheader hmay,
          answered_pendingRequests] at h
        exact h
      · rwa [step_answer_of_not status resultCode initial body hanswer] at h

theorem InCrowd.clear_step (h : D.InCrowd p past) {i : D.PairInput}
    (hi : D.Crowded i) :
    ∀ pdu ∈ (D.machine.step p i).1.right.endpoint.pendingRequests,
      D.Mine pdu ∨ D.Foreign pdu := by
  cases i with
  | left i => exact h.clear
  | deliverLeft =>
      simp only [machine, Duplex.machine]
      split <;> exact h.clear
  | deliverRight =>
      cases hqueue : p.toRight with
      | nil =>
          simp only [machine, Duplex.machine, hqueue]
          exact h.clear
      | cons x rest =>
          simp only [machine, Duplex.machine, hqueue]
          intro pdu hpdu
          obtain hpdu | hreceived := mem_pendingRequests_step h.serves.static
            hpdu
          · exact h.clear pdu hpdu
          · obtain rfl : x = pdu := ServerStep.receive.inj hreceived
            exact Or.inl (h.mine_of_toRight (by
              rw [hqueue]
              exact List.mem_cons_self))
  | right j =>
      intro pdu hpdu
      obtain hpdu | hreceived := mem_pendingRequests_step h.serves.static hpdu
      · exact h.clear pdu hpdu
      · subst hreceived
        exact Or.inr hi

theorem InCrowd.step (h : D.InCrowd p past) {i : D.PairInput}
    (hi : D.Crowded i) :
    D.InCrowd (D.machine.step p i).1 (past ++ (D.machine.step p i).2) :=
  ⟨h.clear_step hi, h.linked_step hi⟩

theorem inCrowd_start : D.InCrowd D.start [] := by
  have hqueue : D.start.right.endpoint.pendingRequests = [] :=
    RpcServerEndpointImpl.pendingRequests_initializeService _ _ _
  have hnarrow : D.narrow D.start = D.start := by
    have hfilter : D.start.right.endpoint.queued
        (D.start.right.endpoint.pendingRequests.filter D.mine) =
          D.start.right.endpoint := by
      rw [hqueue, List.filter_nil, ← hqueue]
      rfl
    rw [narrow, hfilter]
    rfl
  constructor
  · rw [hqueue]
    simp
  · rw [hnarrow]
    exact D.linked_start

/-- The server does with a packet of the client what it does when it serves
nobody else. -/
theorem InCrowd.safePoll (h : D.InCrowd p past) (request : RpcRequest)
    {rest : List PduData}
    (hqueue : p.right.endpoint.pendingRequests = pdu :: rest)
    (hmine : D.Mine pdu) : D.SafePoll p request pdu := by
  have hnarrow : (D.narrow p).right.endpoint.pendingRequests =
      pdu :: rest.filter D.mine := by
    simp [narrow, RpcServerEndpointImpl.queued, hqueue, hmine.mine]
  have hsafe := h.linked.safePoll request hnarrow
  have hpoll := poll_queued (D := D) h.serves.static request hqueue
  have hpoll' := poll_queued (D := D) h.linked.server.static request hnarrow
  have hsame := RpcServerEndpointImpl.dispatch_queued D.C D.net
    (p.right.endpoint.pendingRequests.filter D.mine) p.right.endpoint
    h.serves.static (RpcServerEndpointImpl.taken D.C request pdu)
  rw [show (D.narrow p).right.endpoint = p.right.endpoint.queued
    (p.right.endpoint.pendingRequests.filter D.mine) from rfl, hsame] at hpoll'
  obtain ⟨hnoError, hrequestIn, hrequestCancel, hlateCancel⟩ := hsafe
  rw [show (D.narrow p).right.endpoint = p.right.endpoint.queued
    (p.right.endpoint.pendingRequests.filter D.mine) from rfl, hpoll']
    at hnoError hrequestIn hrequestCancel hlateCancel
  constructor
  · rw [hpoll]
    exact hnoError
  · rw [hpoll]
    exact hrequestIn
  · rw [hpoll]
    exact hrequestCancel
  · rw [hpoll]
    exact hlateCancel

end Crowd

end RpcDeployment
end Rpc
end HakoPduRpc
