import HakoPduRpc.Action.GoalLink
import HakoPduRpc.Action.System

/-!
# One Action between client and server

`goalView` reads the protocol of every single Goal off the two sides of an
Action, the packets between them and what was seen so far.  A packet between the
two sides counts as under way from its send until the poll that takes it.

A request or a packet that was sent arrives as what it was sent as
(`requests_of_carries`, `deliveries_of_carries`), so that a step of one side
appends to the other side's queue what it put on the wire.
-/

namespace HakoPduRpc.Action

/-! ## The log of a Goal on the client -/

/-- What the log of a Goal records. -/
inductive ClientEntry
  | sent
  | cancelSent
  | reported (notice : Notice) (data : PduData)
  | timedOut
deriving DecidableEq

/-- A Goal Request opens an incarnation. -/
def ClientEntry.start : ClientEntry → Option Unit
  | .sent => some ()
  | _ => none

/-- The entries that an observation adds to the log of a Goal. -/
def clientEntry (g : GoalId) : ClientObs → List ClientEntry
  | .event event =>
      if event.goal.goalId = g then
        match event.type with
        | .goalResponse => [.reported (.goalResponse event.decision) event.pdu]
        | .feedback => [.reported (.feedback event.feedbackSequence) event.pdu]
        | .cancelResponse =>
            [.reported (.cancelResponse event.decision) event.pdu]
        | .result => [.reported (.result event.terminalStatus) event.pdu]
        | .timeout => [.timedOut]
        | _ => []
      else []
  | .sentGoal g' _ result _ => if g' = g ∧ result = .success then [.sent] else []
  | .sentCancel goal result =>
      if goal.goalId = g ∧ result = true then [.cancelSent] else []
  | .effect _ => []

/-- The log of a Goal. -/
def clientLog (g : GoalId) (trace : List ClientObs) : List ClientEntry :=
  trace.flatMap (clientEntry g)

/-- The incarnations of a Goal, newest first. -/
def clientIncarnations (g : GoalId) (trace : List ClientObs) :
    List (Section Unit ClientEntry) :=
  Section.divide ClientEntry.start (clientLog g trace)

/-- The packets that a log reports. -/
def reports (entries : List ClientEntry) : List (Notice × PduData) :=
  entries.filterMap fun
    | .reported notice data => some (notice, data)
    | _ => none

/-- The requests that a log records. -/
def requestKinds (entries : List ClientEntry) : List RequestKind :=
  entries.filterMap fun
    | .sent => some .goal
    | .cancelSent => some .cancel
    | _ => none

@[simp] theorem clientLog_append (g : GoalId) (l l' : List ClientObs) :
    clientLog g (l ++ l') = clientLog g l ++ clientLog g l' := by
  simp [clientLog]

@[simp] theorem requestKinds_append (l l' : List ClientEntry) :
    requestKinds (l ++ l') = requestKinds l ++ requestKinds l' := by
  simp [requestKinds]

@[simp] theorem requestKinds_nil : requestKinds [] = [] := rfl

@[simp] theorem requestKinds_sent : requestKinds [.sent] = [.goal] := rfl

@[simp] theorem requestKinds_cancelSent :
    requestKinds [.cancelSent] = [.cancel] := rfl

@[simp] theorem requestKinds_reported (notice : Notice) (data : PduData) :
    requestKinds [.reported notice data] = [] := rfl

@[simp] theorem requestKinds_timedOut : requestKinds [.timedOut] = [] := rfl

theorem clientIncarnations_append (g : GoalId) (past obs : List ClientObs) :
    clientIncarnations g (past ++ obs) =
      (clientLog g obs).foldl (Section.enter ClientEntry.start)
        (clientIncarnations g past) := by
  rw [clientIncarnations, clientLog_append, Section.divide_append]
  rfl

/-- The event of a packet is logged as that packet. -/
theorem clientEntry_noticeEvent (g g' : GoalId) (name : String) (n : Notice)
    (data : PduData) :
    clientEntry g (.event (noticeEvent name g' n data)) =
      if g' = g then [.reported n data] else [] := by
  cases n <;> rfl

/-! ## What is under way -/

/-- The packets that the endpoint of the client queues for a transmission. -/
def clientArrivals (routing : List SlotRouting) (m : Transmission) :
    List ClientPendingPacket :=
  routing.flatMap fun r =>
    (if r.response = m.1 then
      [{ slotIndex := r.slotIndex, kind := .response, pdu := m.2 }]
    else []) ++
    (if r.feedback = m.1 then
      [{ slotIndex := r.slotIndex, kind := .feedback, pdu := m.2 }]
    else [])

/-- The packets that the endpoint of the server queues for a transmission. -/
def serverArrivals (routing : List SlotRouting) (m : Transmission) :
    List ServerPendingPacket :=
  (routing.filter fun r => r.request = m.1).map fun r =>
    { slotIndex := r.slotIndex, pdu := m.2 }

/-- The request for a Goal that a queued packet stands for. -/
def requestIn (R : PduRegistry) (ep : ActionServerEndpointImpl) (g : GoalId)
    (packet : ServerPendingPacket) : Option Request :=
  (ep.readRequest R packet).bind fun header =>
    if header.goalId = g then
      some
        { slot := packet.slotIndex
          kind :=
            if header.requestKind = requestKindCancel then .cancel else .goal }
    else none

/-- The packet for a Goal that a queued packet stands for. -/
def deliveryIn (R : PduRegistry) (routing : List SlotRouting) (g : GoalId)
    (packet : ClientPendingPacket) : Option Delivery :=
  (packet.decode R routing).bind fun p =>
    if p.goalId = g then
      some { slot := p.slot, notice := p.notice, data := packet.pdu }
    else none

namespace ActionPair

variable (R : PduRegistry) (p : ActionPair)

/-- Everything that the polls of the server have still to take. -/
def serverQueue : List ServerPendingPacket :=
  p.right.endpoint.pendingPackets ++
    p.toRight.flatMap (serverArrivals p.right.endpoint.slotRouting)

/-- Everything that the polls of the client have still to take. -/
def clientQueue : List ClientPendingPacket :=
  p.left.endpoint.pendingPackets ++
    p.toLeft.flatMap (clientArrivals p.left.endpoint.slotRouting)

/-- The requests for a Goal under way. -/
def requests (g : GoalId) : List Request :=
  (serverQueue p).filterMap (requestIn R p.right.endpoint g)

/-- The packets for a Goal under way. -/
def deliveries (g : GoalId) : List Delivery :=
  (clientQueue p).filterMap (deliveryIn R p.left.endpoint.slotRouting g)

end ActionPair

/-- The packets that the client reported for a Goal, newest incarnation
first. -/
def reportedPackets (g : GoalId) (trace : List ClientObs) :
    List (List (Notice × PduData)) :=
  (clientIncarnations g trace).map fun s => reports s.entries

/-- The packets that the server sent for a Goal, newest incarnation first. -/
def sentPackets (R : PduRegistry) (routing : List SlotRouting) (g : GoalId)
    (trace : List ServerObs) : List (List (Notice × PduData)) :=
  (incarnations R routing g trace).map fun s => packets s.entries

/-- The protocol of one Goal, as the two sides of its Action have it. -/
def goalView (R : PduRegistry) (p : ActionPair)
    (past : List (ClientObs ⊕ ServerObs)) (g : GoalId) : GoalView where
  client := p.left.binding g
  server := p.right.binding g
  requests := ActionPair.requests R p g
  deliveries := ActionPair.deliveries R p g
  reported := reportedPackets g (Duplex.lefts past)
  sent := sentPackets R p.right.endpoint.slotRouting g (Duplex.rights past)
  asked := requestKinds (clientLog g (Duplex.lefts past))

/-! ## Packets arrive as what they were sent as -/

section Arrivals

variable {R : PduRegistry} (hR : R.Lawful) {actionName : String}
  {routing : List SlotRouting} (hwf : RoutingWellFormed actionName routing)

include hwf

/-- In a well-formed table a channel belongs to one slot. -/
theorem filter_key {slot : ℕ} {r : SlotRouting} (hr : routing[slot]? = some r)
    (kind kind' : ActionChannelKind) :
    routing.filter (fun x => x.key kind' = r.key kind) =
      if kind' = kind then [r] else [] := by
  have hmem : ∀ x ∈ routing, x.key kind' = r.key kind → x = r ∧ kind' = kind := by
    intro x hx heq
    obtain ⟨j, hj⟩ := List.getElem?_of_mem hx
    obtain ⟨rfl, hkind⟩ := hwf.key_injective hj hr heq
    rw [hj] at hr
    exact ⟨Option.some.inj hr, hkind⟩
  split_ifs with hkind
  · subst hkind
    have hnodup : routing.Nodup := by
      rw [List.nodup_iff_injective_getElem]
      intro i j hij
      have hi : routing[i.1]? = some routing[i.1] :=
        List.getElem?_eq_getElem i.2
      have hj : routing[j.1]? = some routing[j.1] :=
        List.getElem?_eq_getElem j.2
      have hsame := (hwf.slotIndex_eq hi).symm.trans
        ((congrArg SlotRouting.slotIndex hij).trans (hwf.slotIndex_eq hj))
      exact Fin.ext hsame
    refine List.perm_singleton.mp ?_
    rw [List.perm_ext_iff_of_nodup (hnodup.filter _) (by simp)]
    intro x
    simp only [List.mem_filter, decide_eq_true_eq, List.mem_singleton]
    constructor
    · rintro ⟨hx, heq⟩
      exact (hmem x hx heq).1
    · rintro rfl
      exact ⟨List.mem_of_getElem? hr, rfl⟩
  · rw [List.filter_eq_nil_iff]
    intro x hx heq
    exact hkind (hmem x hx (by simpa using heq)).2

theorem serverArrivals_of_carries {slot : ℕ} {g : GoalId} {kind : UInt8}
    {key : PduResolvedKey} {data : PduData}
    (h : RequestCarries R routing slot g kind key data) :
    serverArrivals routing (key, data) =
      [{ slotIndex := slot, pdu := data }] := by
  obtain ⟨r, hr, rfl, -⟩ := h
  have hfilter : routing.filter (fun x => x.request = r.request) = [r] :=
    filter_key hwf hr .request .request
  simp [serverArrivals, hfilter, hwf.slotIndex_eq hr]

omit hwf in
theorem flatMap_ite_singleton {α β : Type} (P : α → Prop) [DecidablePred P]
    (f : α → β) (l : List α) :
    l.flatMap (fun x => if P x then [f x] else []) =
      (l.filter fun x => P x).map f := by
  induction l with
  | nil => rfl
  | cons x l ih => by_cases hx : P x <;> simp [hx, ih]

theorem clientArrivals_response {slot : ℕ} {r : SlotRouting}
    (hr : routing[slot]? = some r) (data : PduData) :
    clientArrivals routing (r.response, data) =
      [{ slotIndex := slot, kind := .response, pdu := data }] := by
  have hfilter : routing.filter (fun x => x.response = r.response) = [r] :=
    filter_key hwf hr .response .response
  have hnone : ∀ x ∈ routing, x.feedback ≠ r.response := by
    have hempty : routing.filter (fun x => x.feedback = r.response) = [] :=
      filter_key hwf hr .response .feedback
    simpa [List.filter_eq_nil_iff] using hempty
  have hsame : clientArrivals routing (r.response, data) =
      routing.flatMap fun x =>
        if x.response = r.response then
          [{ slotIndex := x.slotIndex, kind := .response, pdu := data }]
        else [] := by
    refine List.flatMap_congr fun x hx => ?_
    simp [hnone x hx]
  rw [hsame, flatMap_ite_singleton (fun x : SlotRouting =>
    x.response = r.response), hfilter]
  simp [hwf.slotIndex_eq hr]

theorem clientArrivals_feedback {slot : ℕ} {r : SlotRouting}
    (hr : routing[slot]? = some r) (data : PduData) :
    clientArrivals routing (r.feedback, data) =
      [{ slotIndex := slot, kind := .feedback, pdu := data }] := by
  have hfilter : routing.filter (fun x => x.feedback = r.feedback) = [r] :=
    filter_key hwf hr .feedback .feedback
  have hnone : ∀ x ∈ routing, x.response ≠ r.feedback := by
    have hempty : routing.filter (fun x => x.response = r.feedback) = [] :=
      filter_key hwf hr .feedback .response
    simpa [List.filter_eq_nil_iff] using hempty
  have hsame : clientArrivals routing (r.feedback, data) =
      routing.flatMap fun x =>
        if x.feedback = r.feedback then
          [{ slotIndex := x.slotIndex, kind := .feedback, pdu := data }]
        else [] := by
    refine List.flatMap_congr fun x hx => ?_
    simp [hnone x hx]
  rw [hsame, flatMap_ite_singleton (fun x : SlotRouting =>
    x.feedback = r.feedback), hfilter]
  simp [hwf.slotIndex_eq hr]

include hR

/-- A request arrives as what the client sent. -/
theorem requests_of_carries {ep : ActionServerEndpointImpl}
    (hrouting : ep.slotRouting = routing) {slot : ℕ} {g : GoalId}
    (hg : isValidGoalId g = true) {kind : RequestKind} {key : PduResolvedKey}
    {data : PduData}
    (h : RequestCarries R routing slot g kind.code key data) (g' : GoalId) :
    (serverArrivals routing (key, data)).filterMap (requestIn R ep g') =
      if g' = g then [⟨slot, kind⟩] else [] := by
  rw [serverArrivals_of_carries hwf h]
  obtain ⟨r, hr, -, pdu, w, packet, hcheck, hwrite, rfl⟩ := h
  obtain ⟨hvalid, hdecode⟩ := PduRegistry.transmit hR hR.request hcheck hwrite
  have hread : ep.readRequest R
      { slotIndex := slot, pdu := packet.take w.toNat } = some
        { version := actionProtocolVersion
          requestKind := kind.code
          goalId := g } := by
    cases kind <;>
      simp [ActionServerEndpointImpl.readRequest, hrouting, hr, hvalid, hdecode,
        ActionServerEndpointImpl.validateRequestHeader, hg, RequestKind.code]
  have hkinds : requestKindGoal ≠ requestKindCancel := by decide
  by_cases hgg : g' = g
  · cases kind <;> simp [requestIn, hread, hgg, hkinds, RequestKind.code]
  · simp [requestIn, hread, hgg, Ne.symm hgg]

/-- A packet of the server arrives as what it announces. -/
theorem deliveries_of_carries {slot : ℕ} {g : GoalId}
    (hg : isValidGoalId g = true) {n : Notice} (hn : n.WellFormed)
    {key : PduResolvedKey} {data : PduData}
    (h : Carries R routing slot g n key data) (g' : GoalId) :
    (clientArrivals routing (key, data)).filterMap
        (deliveryIn R routing g') =
      if g' = g then [⟨slot, n, data⟩] else [] := by
  have arrives {kind : PendingPacketKind} (hdecode :
      ClientPendingPacket.decode R routing
        { slotIndex := slot, kind := kind, pdu := data } =
          some { slot := slot, goalId := g, notice := n }) :
      [({ slotIndex := slot, kind := kind, pdu := data } :
        ClientPendingPacket)].filterMap (deliveryIn R routing g') =
          if g' = g then [⟨slot, n, data⟩] else [] := by
    by_cases hgg : g' = g
    · simp [deliveryIn, hdecode, hgg]
    · simp [deliveryIn, hdecode, hgg, Ne.symm hgg]
  obtain ⟨r, hr, h⟩ := h
  have response {status : UInt8} {kind : UInt8}
      (hfields : n.responseFields = some (kind, status))
      (hkey : key = r.response)
      (henc : Encodes R R.responseHeader r.responsePacketBaseSize
        r.responseHeapCapacity
        { version := actionProtocolVersion
          responseKind := kind
          status := status
          goalId := g } data) :
      (clientArrivals routing (key, data)).filterMap
          (deliveryIn R routing g') =
        if g' = g then [⟨slot, n, data⟩] else [] := by
    have hread := readResponse_of_encodes hR (r := r) hg henc
    rw [hkey, clientArrivals_response hwf hr]
    refine arrives ?_
    simp [ClientPendingPacket.decode, hr, hread,
      responseNotice_responseFields hn hfields]
  cases n with
  | feedback sequence =>
      obtain ⟨rfl, henc⟩ := h
      have hread := readFeedback_of_encodes hR (r := r) hg henc
      rw [clientArrivals_feedback hwf hr]
      refine arrives ?_
      simp [ClientPendingPacket.decode, hr, hread]
  | goalResponse d =>
      obtain ⟨kind, status, hfields, hkey, henc⟩ := h
      exact response hfields hkey henc
  | cancelResponse d =>
      obtain ⟨kind, status, hfields, hkey, henc⟩ := h
      exact response hfields hkey henc
  | result s =>
      obtain ⟨kind, status, hfields, hkey, henc⟩ := h
      exact response hfields hkey henc

end Arrivals

/-! ## Views after a step -/

/-- The reported packets after one more entry of the log. -/
def recordReport (l : List (List (Notice × PduData))) (e : ClientEntry) :
    List (List (Notice × PduData)) :=
  match e with
  | .sent => [] :: l
  | .reported notice data => pushNewest (notice, data) l
  | _ => if l = [] then [[]] else l

/-- The sent packets after one more entry of the log. -/
def recordSent (l : List (List (Notice × PduData))) (e : ServerEntry) :
    List (List (Notice × PduData)) :=
  match e with
  | .requested _ => [] :: l
  | .sent _ notice data => pushNewest (notice, data) l
  | _ => if l = [] then [[]] else l

theorem reportedPackets_append (g : GoalId) (past obs : List ClientObs) :
    reportedPackets g (past ++ obs) =
      (clientLog g obs).foldl recordReport (reportedPackets g past) := by
  have henter (ss : List (Section Unit ClientEntry)) (e : ClientEntry) :
      (Section.enter ClientEntry.start ss e).map (fun s => reports s.entries) =
        recordReport (ss.map fun s => reports s.entries) e := by
    cases e <;> cases ss <;>
      simp [Section.enter, ClientEntry.start, recordReport, pushNewest, reports]
  rw [reportedPackets, clientIncarnations_append, reportedPackets]
  generalize clientIncarnations g past = ss
  induction clientLog g obs generalizing ss with
  | nil => rfl
  | cons e es ih => rw [List.foldl_cons, ih, henter, List.foldl_cons]

theorem sentPackets_append (R : PduRegistry) (routing : List SlotRouting)
    (g : GoalId) (past obs : List ServerObs) :
    sentPackets R routing g (past ++ obs) =
      (serverLog R routing g obs).foldl recordSent
        (sentPackets R routing g past) := by
  have henter (ss : List (Section ℕ ServerEntry)) (e : ServerEntry) :
      (Section.enter ServerEntry.start ss e).map (fun s => packets s.entries) =
        recordSent (ss.map fun s => packets s.entries) e := by
    cases e <;> cases ss <;>
      simp [Section.enter, ServerEntry.start, recordSent, pushNewest, packets]
  rw [sentPackets, ServerActionInstance.incarnations_append, sentPackets]
  generalize incarnations R routing g past = ss
  induction serverLog R routing g obs generalizing ss with
  | nil => rfl
  | cons e es ih => rw [List.foldl_cons, ih, henter, List.foldl_cons]

theorem requestIn_congr (R : PduRegistry) {ep ep' : ActionServerEndpointImpl}
    (h : ep'.slotRouting = ep.slotRouting) (g : GoalId) :
    requestIn R ep' g = requestIn R ep g := by
  funext packet
  simp only [requestIn, ActionServerEndpointImpl.readRequest, h]

namespace ActionPair

variable {R : PduRegistry} {p : ActionPair}
  {past : List (ClientObs ⊕ ServerObs)}

/-- The pair after a step of the client. -/
def movedLeft (p : ActionPair) (left : ClientActionInstance)
    (obs : List ClientObs) : ActionPair :=
  { p with left := left, toRight := p.toRight ++ obs.flatMap clientSends }

/-- The pair after a step of the server. -/
def movedRight (p : ActionPair) (right : ServerActionInstance)
    (obs : List ServerObs) : ActionPair :=
  { p with right := right, toLeft := p.toLeft ++ obs.flatMap serverSends }

/-- The requests for a Goal that a step of the client sends. -/
def newRequests (R : PduRegistry) (ep : ActionServerEndpointImpl) (g : GoalId)
    (obs : List ClientObs) : List Request :=
  ((obs.flatMap clientSends).flatMap
    (serverArrivals ep.slotRouting)).filterMap (requestIn R ep g)

/-- The packets for a Goal that a step of the server sends. -/
def newDeliveries (R : PduRegistry) (routing : List SlotRouting) (g : GoalId)
    (obs : List ServerObs) : List Delivery :=
  ((obs.flatMap serverSends).flatMap (clientArrivals routing)).filterMap
    (deliveryIn R routing g)

/-- The packets for a Goal in the queue of a client and on the way to it. -/
def deliveriesFrom (R : PduRegistry) (p : ActionPair) (g : GoalId)
    (pending : List ClientPendingPacket) : List Delivery :=
  (pending ++ p.toLeft.flatMap
    (clientArrivals p.left.endpoint.slotRouting)).filterMap
      (deliveryIn R p.left.endpoint.slotRouting g)

/-- The requests for a Goal in the queue of a server and on the way to it. -/
def requestsFrom (R : PduRegistry) (p : ActionPair) (g : GoalId)
    (pending : List ServerPendingPacket) : List Request :=
  (pending ++ p.toRight.flatMap
    (serverArrivals p.right.endpoint.slotRouting)).filterMap
      (requestIn R p.right.endpoint g)

theorem deliveries_eq (R : PduRegistry) (p : ActionPair) (g : GoalId) :
    deliveries R p g = deliveriesFrom R p g p.left.endpoint.pendingPackets :=
  rfl

theorem requests_eq (R : PduRegistry) (p : ActionPair) (g : GoalId) :
    requests R p g = requestsFrom R p g p.right.endpoint.pendingPackets :=
  rfl

theorem deliveriesFrom_cons (g : GoalId) (packet : ClientPendingPacket)
    (rest : List ClientPendingPacket) :
    deliveriesFrom R p g (packet :: rest) =
      (deliveryIn R p.left.endpoint.slotRouting g packet).toList ++
        deliveriesFrom R p g rest := by
  rw [deliveriesFrom, List.cons_append, List.filterMap_cons]
  cases deliveryIn R p.left.endpoint.slotRouting g packet <;> rfl

theorem requestsFrom_cons (g : GoalId) (packet : ServerPendingPacket)
    (rest : List ServerPendingPacket) :
    requestsFrom R p g (packet :: rest) =
      (requestIn R p.right.endpoint g packet).toList ++
        requestsFrom R p g rest := by
  rw [requestsFrom, List.cons_append, List.filterMap_cons]
  cases requestIn R p.right.endpoint g packet <;> rfl

theorem goalView_movedLeft (past : List (ClientObs ⊕ ServerObs))
    (left : ClientActionInstance) (obs : List ClientObs)
    (hrouting : left.endpoint.slotRouting = p.left.endpoint.slotRouting)
    (g : GoalId) :
    goalView R (p.movedLeft left obs) (past ++ obs.map Sum.inl) g =
      { goalView R p past g with
        client := left.binding g
        requests := requests R p g ++ newRequests R p.right.endpoint g obs
        deliveries := deliveriesFrom R p g left.endpoint.pendingPackets
        reported := (clientLog g obs).foldl recordReport
          (reportedPackets g (Duplex.lefts past))
        asked := requestKinds (clientLog g (Duplex.lefts past)) ++
          requestKinds (clientLog g obs) } := by
  simp only [goalView, movedLeft, Duplex.lefts_append, Duplex.lefts_inl,
    Duplex.rights_append, Duplex.rights_inl, List.append_nil,
    reportedPackets_append, clientLog_append, requestKinds_append, requests,
    serverQueue, deliveries, clientQueue, deliveriesFrom, newRequests,
    List.flatMap_append, List.filterMap_append, hrouting,
    List.append_assoc]

theorem goalView_movedRight (past : List (ClientObs ⊕ ServerObs))
    (right : ServerActionInstance) (obs : List ServerObs)
    (hrouting : right.endpoint.slotRouting = p.right.endpoint.slotRouting)
    (g : GoalId) :
    goalView R (p.movedRight right obs) (past ++ obs.map Sum.inr) g =
      { goalView R p past g with
        server := right.binding g
        requests := requestsFrom R p g right.endpoint.pendingPackets
        deliveries := deliveries R p g ++
          newDeliveries R p.left.endpoint.slotRouting g obs
        sent := (serverLog R p.right.endpoint.slotRouting g obs).foldl
          recordSent (sentPackets R p.right.endpoint.slotRouting g
            (Duplex.rights past)) } := by
  simp only [goalView, movedRight, Duplex.lefts_append, Duplex.lefts_inr,
    Duplex.rights_append, Duplex.rights_inr, List.append_nil,
    sentPackets_append, requests, serverQueue, deliveries, clientQueue,
    requestsFrom, newDeliveries, List.flatMap_append, List.filterMap_append,
    hrouting, requestIn_congr R hrouting, List.append_assoc]

end ActionPair

end HakoPduRpc.Action
