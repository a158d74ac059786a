import HakoPduRpc.Action.ActionLink

/-!
# Runs of an Action between client and server

`Linked` is what holds of an Action at every moment: the invariants of its two
sides and, for each Goal, `GoalLink` of its view.  `Linked.step` says that every
regular step of an Action is, for each of its Goals, a `LinkStep` or no step at
all; `Linked.run` carries it through a run.
-/

namespace HakoPduRpc.Action

/-! ## Steps of the client -/

/-- The server rejects a Goal Request on its own. -/
def ServerObs.errorReply : ServerObs → Bool
  | .effect (.goalErrorReply ..) => true
  | .effect (.send errorReply ..) => errorReply
  | _ => false

/-- What holds of an Action at every moment of a regular run. -/
structure Linked (R : PduRegistry) (p : ActionPair)
    (past : List (ClientObs ⊕ ServerObs)) : Prop where
  client : p.left.Invariant
  server : ServerActionInstance.History R p.right.endpoint.slotRouting p.right
    (Duplex.rights past)
  slotRouting_eq : p.left.endpoint.slotRouting = p.right.endpoint.slotRouting
  goals : ∀ g, GoalLink (goalView R p past g)
  noErrorReply : ∀ o ∈ Duplex.rights past, o.errorReply = false

namespace Linked

open ActionPair

variable {R : PduRegistry} {p : ActionPair}
  {past : List (ClientObs ⊕ ServerObs)}

theorem movedLeft (h : Linked R p past) {left : ClientActionInstance}
    {obs : List ClientObs} (hinv : left.Invariant)
    (hrouting : left.endpoint.slotRouting = p.left.endpoint.slotRouting)
    (hgoals : ∀ g, GoalLink
      (goalView R (p.movedLeft left obs) (past ++ obs.map Sum.inl) g)) :
    Linked R (p.movedLeft left obs) (past ++ obs.map Sum.inl) where
  client := hinv
  server := by
    rw [Duplex.rights_append, Duplex.rights_inl, List.append_nil]
    exact h.server
  slotRouting_eq := hrouting.trans h.slotRouting_eq
  goals := hgoals
  noErrorReply := by
    rw [Duplex.rights_append, Duplex.rights_inl, List.append_nil]
    exact h.noErrorReply

/-- A bound Goal has an incarnation on the client. -/
theorem reported_ne_nil {v : GoalView} (h : GoalLink v)
    {b : ClientPacketBinding} (hb : v.client = some b) : v.reported ≠ [] := by
  cases h.matched with
  | never hnone => simp [hb] at hnone
  | requested _ _ hreported => simp [hreported]
  | opened _ hreported => simp [hreported]

/-- A step of the client that concerns no Goal. -/
theorem leftSilent (h : Linked R p past) {obs : List ClientObs}
    (hsends : obs.flatMap clientSends = [])
    (hlog : ∀ g, clientLog g obs = []) :
    Linked R (p.movedLeft p.left obs) (past ++ obs.map Sum.inl) := by
  refine h.movedLeft h.client rfl fun g => ?_
  rw [goalView_movedLeft past p.left obs rfl, newRequests, hsends, hlog]
  simp only [requestKinds_nil, List.flatMap_nil, List.filterMap_nil,
    List.append_nil, List.foldl_nil]
  exact h.goals g

/-- The client drops the packet in front of its queue. -/
theorem leftPopped (h : Linked R p past) {rest : List ClientPendingPacket}
    (hskip : ClientActionInstance.Skips R p.left rest) :
    Linked R (p.movedLeft (p.left.popped rest) []) past := by
  have hmoved : ∀ g, GoalLink
      (goalView R (p.movedLeft (p.left.popped rest) [])
        (past ++ ([] : List ClientObs).map Sum.inl) g) := by
    intro g
    have hlink := h.goals g
    rw [goalView_movedLeft past (p.left.popped rest) [] rfl]
    simp only [newRequests, clientLog, requestKinds_nil, List.flatMap_nil,
      List.filterMap_nil, List.append_nil, List.foldl_nil]
    change GoalLink
      { goalView R p past g with deliveries := deliveriesFrom R p g rest }
    obtain ⟨hqueue, rfl⟩ | ⟨packet, hqueue, hdropped⟩ := hskip
    · rw [← hqueue]
      exact hlink
    · have hsplit := deliveriesFrom_cons (R := R) (p := p) g packet rest
      rw [← hqueue, ← deliveries_eq] at hsplit
      cases hin : deliveryIn R p.left.endpoint.slotRouting g packet with
      | none =>
          rw [hin] at hsplit
          rw [show deliveriesFrom R p g rest = deliveries R p g from
            hsplit.symm]
          exact hlink
      | some d =>
          rw [hin] at hsplit
          obtain ⟨q, hdecode, hq⟩ := Option.bind_eq_some_iff.mp hin
          split_ifs at hq with hgoal
          cases hq
          subst hgoal
          exact hlink.step (.drop hsplit fun b hb hslot =>
            hdropped q b hdecode hb hslot)
  simpa using h.movedLeft (h.client.popped rest) rfl hmoved

/-- A step of the client that changes the binding of one Goal. -/
theorem leftGoal (h : Linked R p past) {left : ClientActionInstance}
    (obs : List ClientObs) {g₀ : GoalId} {b : Option ClientPacketBinding}
    (hinv : left.Invariant)
    (hupdate : ClientActionInstance.GoalUpdate p.left left g₀ b)
    (hother : ∀ g, g ≠ g₀ → clientLog g obs = [] ∧
      newRequests R p.right.endpoint g obs = [])
    (hstep : LinkStep (goalView R p past g₀)
      { goalView R p past g₀ with
        client := b
        requests := requests R p g₀ ++ newRequests R p.right.endpoint g₀ obs
        reported := (clientLog g₀ obs).foldl recordReport
          (reportedPackets g₀ (Duplex.lefts past))
        asked := requestKinds (clientLog g₀ (Duplex.lefts past)) ++
          requestKinds (clientLog g₀ obs) }) :
    Linked R (p.movedLeft left obs) (past ++ obs.map Sum.inl) := by
  have hrouting := hupdate.endpoint.slotRouting_eq
  refine h.movedLeft hinv hrouting fun g => ?_
  rw [goalView_movedLeft past left _ hrouting, hupdate.binding_eq,
    hupdate.endpoint.pendingPackets_eq, ← deliveries_eq]
  by_cases hg : g = g₀
  · subst hg
    rw [if_pos rfl]
    exact (h.goals g).step hstep
  · obtain ⟨hlog, hnew⟩ := hother g hg
    rw [if_neg hg, hlog, hnew]
    simp only [requestKinds_nil, List.append_nil, List.foldl_nil]
    exact h.goals g

/-- The client reports the packet in front of its queue. -/
theorem leftReported (h : Linked R p past) {left : ClientActionInstance}
    {packet : ClientPendingPacket} {rest : List ClientPendingPacket}
    {q : Packet} {b : ClientPacketBinding} {b' : Option ClientPacketBinding}
    (hinv : left.Invariant)
    (hqueue : p.left.endpoint.pendingPackets = packet :: rest)
    (hdecode : packet.decode R p.left.endpoint.slotRouting = some q)
    (hb : p.left.binding q.goalId = some b) (hslot : b.slotIndex = q.slot)
    (hadvance : b.advance q.notice = some b')
    (hupdate : ClientActionInstance.GoalUpdate (p.left.popped rest) left
      q.goalId b') (name : String) :
    Linked R
      (p.movedLeft left
        [.event (noticeEvent name q.goalId q.notice packet.pdu)])
      (past ++ [ClientObs.event
        (noticeEvent name q.goalId q.notice packet.pdu)].map Sum.inl) := by
  have hrouting : left.endpoint.slotRouting = p.left.endpoint.slotRouting :=
    hupdate.endpoint.slotRouting_eq
  refine h.movedLeft hinv hrouting fun g => ?_
  have hlog : clientLog g
      [.event (noticeEvent name q.goalId q.notice packet.pdu)] =
        if q.goalId = g then [.reported q.notice packet.pdu] else [] := by
    rw [clientLog, List.flatMap_singleton, clientEntry_noticeEvent]
  have hsplit := deliveriesFrom_cons (R := R) (p := p) g packet rest
  rw [← hqueue, ← deliveries_eq, deliveryIn, hdecode, Option.bind_some]
    at hsplit
  have hrest : left.endpoint.pendingPackets = rest :=
    hupdate.endpoint.pendingPackets_eq
  rw [goalView_movedLeft past left _ hrouting, hupdate.binding_eq, hrest, hlog]
  by_cases hg : q.goalId = g
  · subst hg
    rw [if_pos rfl, Option.toList_some, List.singleton_append] at hsplit
    simp only [if_true, newRequests, List.flatMap_singleton, clientSends,
      List.flatMap_nil, List.filterMap_nil, List.append_nil,
      requestKinds_reported, List.foldl_cons, List.foldl_nil]
    have hstep := LinkStep.report (v := goalView R p past q.goalId) hb hsplit
      hslot hadvance
    exact (h.goals q.goalId).step hstep
  · rw [if_neg hg, Option.toList_none, List.nil_append] at hsplit
    simp only [if_neg hg, if_neg (Ne.symm hg), newRequests, requestKinds_nil,
      List.flatMap_singleton, clientSends, List.flatMap_nil,
      List.filterMap_nil, List.append_nil, List.foldl_nil]
    rw [← hsplit]
    exact h.goals g

/-- The client gives up waiting for a Goal Response. -/
theorem leftTimedOut (h : Linked R p past) {left : ClientActionInstance}
    {rest : List ClientPendingPacket} {g₀ : GoalId} {b : ClientPacketBinding}
    (hinv : left.Invariant)
    (hskip : ClientActionInstance.Skips R p.left rest)
    (hb : p.left.binding g₀ = some b) (hstate : b.state = .awaitingGoalResponse)
    (hupdate : ClientActionInstance.GoalUpdate (p.left.popped rest) left g₀
      (some { b with state := .goalResponseTimedOut })) (name : String) :
    Linked R (p.movedLeft left [.event (timeoutEvent name g₀)])
      (past ++ [ClientObs.event (timeoutEvent name g₀)].map Sum.inl) := by
  have hpopped := h.leftPopped hskip
  have hlog : ∀ g, clientLog g [.event (timeoutEvent name g₀)] =
      if g₀ = g then [.timedOut] else [] := fun g => by
    simp [clientLog, clientEntry, timeoutEvent]
  have hne : reportedPackets g₀ (Duplex.lefts past) ≠ [] :=
    reported_ne_nil (hpopped.goals g₀) hb
  have hstep := hpopped.leftGoal [.event (timeoutEvent name g₀)] hinv hupdate
    (fun g hg => ⟨by rw [hlog, if_neg (Ne.symm hg)], rfl⟩) (by
      rw [hlog, if_pos rfl]
      simp only [newRequests, List.flatMap_singleton, clientSends,
        List.flatMap_nil, List.filterMap_nil, List.append_nil,
        requestKinds_timedOut, List.foldl_cons, List.foldl_nil, recordReport,
        if_neg hne]
      exact .timeout hb hstate)
  simpa [ActionPair.movedLeft] using hstep

/-- A step of the client that sends a request. -/
theorem leftRequest (hR : R.Lawful) (h : Linked R p past)
    {left : ClientActionInstance} {slot : ℕ} {g₀ : GoalId} (kind : RequestKind)
    {b : Option ClientPacketBinding} {key : PduResolvedKey} {data : PduData}
    {obs : ClientObs} (hinv : left.Invariant)
    (hg : isValidGoalId g₀ = true)
    (hsent : RequestCarries R p.left.endpoint.slotRouting slot g₀ kind.code key
      data)
    (hupdate : ClientActionInstance.GoalUpdate p.left left g₀ b)
    (hsends : clientSends obs = [])
    (hother : ∀ g, g ≠ g₀ → clientEntry g obs = [])
    (hstep : LinkStep (goalView R p past g₀)
      { goalView R p past g₀ with
        client := b
        requests := requests R p g₀ ++ [⟨slot, kind⟩]
        reported := (clientEntry g₀ obs).foldl recordReport
          (reportedPackets g₀ (Duplex.lefts past))
        asked := requestKinds (clientLog g₀ (Duplex.lefts past)) ++
          requestKinds (clientEntry g₀ obs) }) :
    Linked R (p.movedLeft left [.effect (.send key data true), obs])
      (past ++ [ClientObs.effect (.send key data true), obs].map Sum.inl) := by
  have hwf := h.client.routing
  have hlog : ∀ g, clientLog g [.effect (.send key data true), obs] =
      clientEntry g obs := fun g => by
    simp [clientLog, clientEntry]
  have hnew : ∀ g, newRequests R p.right.endpoint g
      [.effect (.send key data true), obs] =
        if g = g₀ then [⟨slot, kind⟩] else [] := by
    intro g
    have harrives := requests_of_carries hR hwf h.slotRouting_eq.symm hg hsent g
    rw [h.slotRouting_eq] at harrives
    have hone : clientSends (.effect (.send key data true)) = [(key, data)] :=
      rfl
    simpa [newRequests, hone, hsends] using harrives
  refine h.leftGoal _ hinv hupdate (fun g hne => ?_) ?_
  · rw [hlog, hnew, if_neg hne]
    exact ⟨hother g hne, rfl⟩
  · rw [hlog, hnew, if_pos rfl]
    exact hstep

theorem leftPoll (h : Linked R p past) (now : UInt64) :
    Linked R ((actionMachine R).step p (.left (.poll now))).1
      (past ++ ((actionMachine R).step p (.left (.poll now))).2) := by
  have hcase := ClientActionInstance.poll_cases (R := R) h.client now
  have hinv := h.client.pollCase hcase
  change Linked R
    (p.movedLeft (p.left.pollEndpoint R now).1
      ((p.left.pollEndpoint R now).2.toList.map .event))
    (past ++ (((p.left.pollEndpoint R now).2.toList.map
      ClientObs.event).map Sum.inl))
  generalize (p.left.pollEndpoint R now).1 = left at hcase hinv ⊢
  generalize (p.left.pollEndpoint R now).2 = result at hcase ⊢
  cases hcase with
  | reported hqueue hdecode hb hslot hadvance hupdate =>
      exact h.leftReported hinv hqueue hdecode hb hslot hadvance hupdate _
  | idle hskip hinst =>
      rw [hinst]
      simpa using h.leftPopped hskip
  | timedOut hskip hb htimeout hupdate =>
      have hstate :=
        (ActionClientEndpointImpl.responseTimedOut_iff.mp htimeout).1
      exact h.leftTimedOut hinv hskip hb hstate hupdate _

/-- A refused call of the client. -/
theorem leftRefused (h : Linked R p past) (effects : List ClientEffect)
    {obs : ClientObs}
    (hfailed : ∀ e ∈ effects, ∃ key data, e = .send key data false)
    (hsends : clientSends obs = [])
    (hlog : ∀ g, clientEntry g obs = []) :
    Linked R (p.movedLeft p.left (effects.map .effect ++ [obs]))
      (past ++ (effects.map ClientObs.effect ++ [obs]).map Sum.inl) := by
  refine h.leftSilent ?_ fun g => ?_
  · simp only [List.flatMap_append, List.flatMap_singleton, hsends,
      List.append_nil, List.flatMap_eq_nil_iff, List.mem_map,
      forall_exists_index, and_imp, forall_apply_eq_imp_iff₂]
    intro e he
    obtain ⟨key, data, rfl⟩ := hfailed e he
    rfl
  · rw [clientLog, List.flatMap_append, List.flatMap_singleton, hlog,
      List.append_nil, List.flatMap_map]
    exact List.flatMap_eq_nil_iff.mpr fun _ _ => rfl

theorem leftSendGoal (hR : R.Lawful) (h : Linked R p past) (net : SendOracle)
    (now : UInt64) (pdu : PduData) (g : GoalId) (timeoutUsec : UInt64) :
    Linked R
      ((actionMachine R).step p
        (.left (.sendGoal net now pdu g timeoutUsec))).1
      (past ++ ((actionMachine R).step p
        (.left (.sendGoal net now pdu g timeoutUsec))).2) := by
  have hinv := h.client.step (R := R) (.sendGoal net now pdu g timeoutUsec)
  change Linked R
    (p.movedLeft
      ((clientInstanceMachine R).step p.left
        (.sendGoal net now pdu g timeoutUsec)).1
      ((clientInstanceMachine R).step p.left
        (.sendGoal net now pdu g timeoutUsec)).2)
    (past ++ ((clientInstanceMachine R).step p.left
      (.sendGoal net now pdu g timeoutUsec)).2.map Sum.inl)
  simp only [clientInstanceMachine] at hinv ⊢
  split_ifs at hinv ⊢ with hvalid
  · generalize hsend :
      p.left.sendGoalWithResult R net now pdu g timeoutUsec = o at hinv ⊢
    obtain ⟨hresult, hstate, hfailed⟩ | ⟨slot, key, data, hresult, heffects,
        hunbound, hsent, hupdate⟩ :=
      ClientActionInstance.sendGoalWithResult_cases h.client hsend
    · rw [hstate]
      exact h.leftRefused o.effects hfailed rfl fun g' => by
        simp [clientEntry, hresult]
    · simp only [goalArgumentsValid, decide_eq_true_eq] at hvalid
      simp only [heffects, hresult]
      refine h.leftRequest hR .goal hinv hvalid.2 hsent hupdate rfl
        (fun g' hne => by simp [clientEntry, Ne.symm hne]) ?_
      simp only [clientEntry, and_self, if_true, List.foldl_cons,
        List.foldl_nil, recordReport, requestKinds_sent]
      exact .sendGoal hunbound rfl rfl
  · exact h.leftRefused [] (by simp) rfl fun g' => by
      simp [clientEntry]

theorem leftSendCancel (hR : R.Lawful) (h : Linked R p past) (net : SendOracle)
    (goal : ClientGoalHandle) :
    Linked R ((actionMachine R).step p (.left (.sendCancel net goal))).1
      (past ++
        ((actionMachine R).step p (.left (.sendCancel net goal))).2) := by
  have hinv := h.client.step (R := R) (.sendCancel net goal)
  change Linked R
    (p.movedLeft
      ((clientInstanceMachine R).step p.left (.sendCancel net goal)).1
      ((clientInstanceMachine R).step p.left (.sendCancel net goal)).2)
    (past ++ ((clientInstanceMachine R).step p.left
      (.sendCancel net goal)).2.map Sum.inl)
  simp only [clientInstanceMachine] at hinv ⊢
  split_ifs at hinv ⊢ with hvalid
  · generalize hsend : p.left.sendCancel R net goal = o at hinv ⊢
    obtain ⟨hresult, hstate, hfailed⟩ | ⟨b, key, data, hresult, heffects, hb,
        haccepted, hsent, hupdate⟩ :=
      ClientActionInstance.sendCancel_cases h.client hsend
    · rw [hstate]
      exact h.leftRefused o.effects hfailed rfl fun g' => by
        simp [clientEntry, hresult]
    · simp only [heffects, hresult]
      refine h.leftRequest hR .cancel hinv (h.client.valid hb) hsent
        hupdate rfl (fun g' hne => by simp [clientEntry, Ne.symm hne]) ?_
      have hne : reportedPackets goal.goalId (Duplex.lefts past) ≠ [] :=
        reported_ne_nil (h.goals goal.goalId) hb
      simp only [clientEntry, and_self, if_true, List.foldl_cons,
        List.foldl_nil, recordReport, if_neg hne, requestKinds_cancelSent]
      exact .sendCancel hb haccepted
  · exact h.leftRefused [] (by simp) rfl fun g' => by
      simp [clientEntry]

end Linked

/-! ## Steps of the server -/

/-- The packets that a log records. -/
def sentDeliveries (entries : List ServerEntry) : List Delivery :=
  entries.filterMap fun
    | .sent slot notice data => some ⟨slot, notice, data⟩
    | _ => none

/-- What a step of a Goal sends is under way to that Goal. -/
theorem ServerGoalStep.newDeliveries_eq {R : PduRegistry} (hR : R.Lawful)
    {actionName : String} {routing : List SlotRouting}
    (hwf : RoutingWellFormed actionName routing) {g : GoalId}
    (hg : isValidGoalId g = true) {b b' : Option ActionPacketBinding}
    {c c' : Option ServerGoalContext} {obs : List ServerObs}
    {es : List ServerEntry} (h : ServerGoalStep R routing g b c obs es b' c')
    (g' : GoalId) :
    ActionPair.newDeliveries R routing g' obs =
      if g' = g then sentDeliveries es else [] := by
  have arrives {slot : ℕ} {n : Notice} (hn : n.WellFormed)
      {key : PduResolvedKey} {data : PduData}
      (hsent : Carries R routing slot g n key data) :=
    deliveries_of_carries hR hwf hg hn hsent g'
  cases h with
  | acceptGoal _ hsent | rejectGoal _ hsent | acceptCancel _ _ hsent
  | rejectCancel _ _ hsent | feedback _ hsent =>
      simpa [ActionPair.newDeliveries, serverSends, sentDeliveries] using
        arrives (by simp [Notice.WellFormed]) hsent
  | @complete _ _ status _ _ _ hmay hsent =>
      simpa [ActionPair.newDeliveries, serverSends, sentDeliveries] using
        arrives (n := .result status) (mayComplete_ne_unspecified hmay) hsent
  | commitOnly _ hfailed =>
      obtain rfl | ⟨key, data, rfl⟩ := hfailed <;>
        simp [ActionPair.newDeliveries, serverSends, sentDeliveries]
  | request | discard | cancelRequest | cancelSwallowed | runtimeCancel
  | runtimeReclassify | acceptCancelLocally | rejectRuntimeCancel
  | completeLocally =>
      simp [ActionPair.newDeliveries, serverSends, sentDeliveries]

theorem ServerGoalStep.noErrorReply {R : PduRegistry}
    {routing : List SlotRouting} {g : GoalId}
    {b b' : Option ActionPacketBinding} {c c' : Option ServerGoalContext}
    {obs : List ServerObs} {es : List ServerEntry}
    (h : ServerGoalStep R routing g b c obs es b' c') :
    ∀ o ∈ obs, o.errorReply = false := by
  cases h with
  | commitOnly _ hfailed =>
      obtain rfl | ⟨key, data, rfl⟩ := hfailed <;> simp [ServerObs.errorReply]
  | _ => simp [ServerObs.errorReply]

/-- A call of the server for a Goal is a step of the protocol. -/
theorem ServerGoalStep.linkStep {R : PduRegistry} {routing : List SlotRouting}
    {g : GoalId} {b' : Option ActionPacketBinding}
    {c c' : Option ServerGoalContext} {obs : List ServerObs}
    {es : List ServerEntry} {v : GoalView}
    (h : ServerGoalStep R routing g v.server c obs es b' c')
    (hcorr : GoalCorr v.server c) (hclient : c ≠ some runtimePending)
    (hsent : v.server ≠ none → v.sent ≠ []) {call : ServerCall} {result : Bool}
    (hcall : call.Remote) (hobs : obs.getLast? = some (.returned call result)) :
    LinkStep v
      { v with
        server := b'
        deliveries := v.deliveries ++ sentDeliveries es
        sent := es.foldl recordSent v.sent } := by
  have hpush (l : List (List (Notice × PduData))) (a : Notice × PduData) :
      pushNewest a l ≠ [] := by
    cases l <;> simp [pushNewest]
  generalize hserver : v.server = b at h hcorr hsent
  have hopen {x : ActionPacketBinding} (hb : b = some x) : v.sent ≠ [] :=
    hsent (by simp [hb])
  cases h with
  | acceptGoal hstate =>
      cases hcorr with
      | undecided _ hpending => exact .send hserver (.accept hstate hpending)
  | rejectGoal hstate =>
      simpa [recordSent, hpush, sentDeliveries] using
        LinkStep.send hserver (.reject hstate)
  | acceptCancel hstate hpending =>
      simpa [recordSent, hpush, sentDeliveries] using
        LinkStep.send hserver (.acceptCancel hstate hpending)
  | rejectCancel hstate hpending =>
      exact .send hserver (.rejectCancel hstate hpending)
  | feedback hstate => exact .send hserver (.feedback hstate)
  | complete hmay =>
      simpa [recordSent, hpush, hopen rfl, sentDeliveries] using
        LinkStep.send hserver (.result hmay)
  | commitOnly hmay =>
      simpa [recordSent, hopen rfl, sentDeliveries] using
        LinkStep.commit hserver hmay
  | request | cancelRequest | runtimeCancel | runtimeReclassify
  | cancelSwallowed => simp at hobs
  | discard | completeLocally =>
      simp at hobs
      simp [← hobs.1, ServerCall.Remote] at hcall
  | acceptCancelLocally | rejectRuntimeCancel => exact absurd rfl hclient

namespace Linked

open ActionPair

variable {R : PduRegistry} {p : ActionPair}
  {past : List (ClientObs ⊕ ServerObs)}

theorem movedRight (h : Linked R p past) (right : ServerActionInstance)
    (obs : List ServerObs)
    (hserver : ServerActionInstance.History R p.right.endpoint.slotRouting right
      (Duplex.rights past ++ obs))
    (hno : ∀ o ∈ obs, o.errorReply = false)
    (hgoals : ∀ g, GoalLink
      (goalView R (p.movedRight right obs) (past ++ obs.map Sum.inr) g)) :
    Linked R (p.movedRight right obs) (past ++ obs.map Sum.inr) where
  client := h.client
  server := by
    rw [Duplex.rights_append, Duplex.rights_inr]
    change ServerActionInstance.History R right.endpoint.slotRouting right _
    rw [hserver.slotRouting_eq]
    exact hserver
  slotRouting_eq := h.slotRouting_eq.trans hserver.slotRouting_eq.symm
  goals := hgoals
  noErrorReply := by
    intro o ho
    rw [Duplex.rights_append, Duplex.rights_inr] at ho
    rcases List.mem_append.mp ho with ho | ho
    · exact h.noErrorReply o ho
    · exact hno o ho

/-- A bound Goal has an incarnation on the server. -/
theorem sent_ne_nil {v : GoalView} (h : GoalLink v)
    (hserver : v.server ≠ none) : v.sent ≠ [] := by
  obtain ⟨fut, -, hexpects⟩ := h.expects
  obtain ⟨x, hx⟩ := Option.ne_none_iff_exists'.mp hserver
  rw [hx] at hexpects
  cases h.matched with
  | never hclient =>
      obtain ⟨b, hb, -⟩ := h.client_of_server hx
      simp [hclient] at hb
  | requested hgoal =>
      obtain ⟨r, hr, hkind⟩ := hgoal
      exact absurd hkind (hexpects.no_goal_of_server r hr)
  | opened _ _ hsent => simp [hsent]

/-- A step of the server that changes no binding and takes a packet from the
queue, for which only the protocol of its own Goal may take a step. -/
theorem rightPopped (h : Linked R p past)
    {packet : ServerPendingPacket} {rest : List ServerPendingPacket}
    (hqueue : p.right.endpoint.pendingPackets = packet :: rest)
    (hserver : ServerActionInstance.History R p.right.endpoint.slotRouting
      (p.right.popped rest) (Duplex.rights past))
    (hstep : ∀ g r, requestIn R p.right.endpoint g packet = some r →
      r.kind = .cancel ∧ ¬Dispatches (p.right.binding g) r.slot) :
    Linked R (p.movedRight (p.right.popped rest) []) past := by
  have hgoals : ∀ g, GoalLink
      (goalView R (p.movedRight (p.right.popped rest) [])
        (past ++ ([] : List ServerObs).map Sum.inr) g) := by
    intro g
    have hlink := h.goals g
    rw [goalView_movedRight past (p.right.popped rest) [] rfl]
    simp only [newDeliveries, serverLog, List.flatMap_nil, List.filterMap_nil,
      List.append_nil, List.foldl_nil]
    change GoalLink
      { goalView R p past g with requests := requestsFrom R p g rest }
    have hsplit := requestsFrom_cons (R := R) (p := p) g packet rest
    rw [← hqueue, ← requests_eq] at hsplit
    cases hin : requestIn R p.right.endpoint g packet with
    | none =>
        rw [hin] at hsplit
        rw [show requestsFrom R p g rest = requests R p g from hsplit.symm]
        exact hlink
    | some r =>
        rw [hin] at hsplit
        obtain ⟨hkind, hignored⟩ := hstep g r hin
        exact hlink.step (.ignoreCancel hsplit hkind hignored)
  simpa using h.movedRight (p.right.popped rest) []
    (by simpa using hserver) (by simp) hgoals

/-- A step of the server that is a step of one Goal. -/
theorem rightGoal (hR : R.Lawful) (h : Linked R p past)
    {right : ServerActionInstance} {obs : List ServerObs} {g₀ : GoalId}
    (es : List ServerEntry) {b : Option ActionPacketBinding}
    {c : Option ServerGoalContext}
    (hserver : ServerActionInstance.History R p.right.endpoint.slotRouting right
      (Duplex.rights past ++ obs))
    (hg₀ : isValidGoalId g₀ = true)
    (hgoal : ServerGoalStep R p.right.endpoint.slotRouting g₀
      (p.right.binding g₀) (p.right.context g₀) obs es b c)
    (hupdate : ServerActionInstance.GoalUpdate p.right right g₀ b c)
    (hother : ∀ g, g ≠ g₀ →
      requestsFrom R p g right.endpoint.pendingPackets = requests R p g)
    (hstep : LinkStep (goalView R p past g₀)
      { goalView R p past g₀ with
        server := b
        requests := requestsFrom R p g₀ right.endpoint.pendingPackets
        deliveries := deliveries R p g₀ ++ sentDeliveries es
        sent := es.foldl recordSent (sentPackets R
          p.right.endpoint.slotRouting g₀ (Duplex.rights past)) }) :
    Linked R (p.movedRight right obs) (past ++ obs.map Sum.inr) := by
  have hwf := h.server.invariant.routing
  have hrouting := hupdate.endpoint.slotRouting_eq
  refine h.movedRight _ _ hserver hgoal.noErrorReply fun g => ?_
  rw [goalView_movedRight past right obs hrouting, hupdate.binding_eq, h.slotRouting_eq,
    hgoal.newDeliveries_eq hR hwf hg₀, hgoal.serverLog_eq hR hwf hg₀]
  by_cases hg : g = g₀
  · subst hg
    simp only [if_true]
    exact (h.goals g).step hstep
  · simp only [if_neg hg, if_neg (Ne.symm hg), hother g hg, List.append_nil,
      List.foldl_nil]
    exact h.goals g

theorem requestIn_of_read {ep : ActionServerEndpointImpl}
    {packet : ServerPendingPacket} {header : ActionRequestHeader}
    (hread : ep.readRequest R packet = some header) (g : GoalId) :
    requestIn R ep g packet =
      if header.goalId = g then
        some ⟨packet.slotIndex,
          if header.requestKind = requestKindCancel then .cancel else .goal⟩
      else none := by
  rw [requestIn, hread]
  rfl

/-- The queue of a Goal after its first request was taken. -/
theorem requests_of_read {packet : ServerPendingPacket}
    {rest : List ServerPendingPacket} {header : ActionRequestHeader}
    (hqueue : p.right.endpoint.pendingPackets = packet :: rest)
    (hread : p.right.endpoint.readRequest R packet = some header) (g : GoalId) :
    requests R p g =
      (if header.goalId = g then
        [⟨packet.slotIndex,
          if header.requestKind = requestKindCancel then .cancel else .goal⟩]
      else []) ++ requestsFrom R p g rest := by
  rw [requests_eq, hqueue, requestsFrom_cons, requestIn_of_read hread]
  split_ifs <;> rfl

/-- A Goal Request finds its Goal unknown and its slot free. -/
theorem goalErrorReason_eq_none (h : Linked R p past)
    {packet : ServerPendingPacket} {rest : List ServerPendingPacket}
    {header : ActionRequestHeader}
    (hqueue : p.right.endpoint.pendingPackets = packet :: rest)
    (hread : p.right.endpoint.readRequest R packet = some header)
    (hkind : header.requestKind ≠ requestKindCancel) :
    p.right.endpoint.goalErrorReason header.goalId packet.slotIndex = none := by
  have hrequests := requests_of_read hqueue hread header.goalId
  rw [if_pos rfl, if_neg hkind, List.singleton_append] at hrequests
  obtain ⟨hunknown, b, hb, hslot⟩ :=
    (h.goals header.goalId).goal_head hrequests rfl
  refine ServerActionInstance.goalErrorReason_eq_none.mpr ⟨hunknown, ?_⟩
  cases howner : p.right.endpoint.slotOwner packet.slotIndex with
  | none => rfl
  | some g =>
      -- the owner of the slot would own it on the client as well
      obtain ⟨x, hx, hxslot⟩ :=
        (h.server.invariant.store.consistent packet.slotIndex g).mp howner
      obtain ⟨b', hb', hslot'⟩ := (h.goals g).client_of_server hx
      have hsame : g = header.goalId :=
        h.client.store.consistent.slot_injective hb' hb
          (hslot'.trans (hxslot.trans hslot.symm))
      rw [hsame] at hx
      exact absurd (hunknown.symm.trans hx) (by simp)

/-- The server takes a packet, or it finds no packet. -/
theorem rightPoll (hR : R.Lawful) (h : Linked R p past) (net : SendOracle) :
    Linked R ((actionMachine R).step p (.right (.poll net))).1
      (past ++ ((actionMachine R).step p (.right (.poll net))).2) := by
  have hcase := ServerActionInstance.poll_cases (R := R)
    h.server.invariant net
  have hserver := h.server.step hR (i := .poll net) trivial
  change ServerActionInstance.History R _ (p.right.pollEndpoint R net).state
    (Duplex.rights past ++ p.right.pollObs R net) at hserver
  change Linked R
    (p.movedRight (p.right.pollEndpoint R net).state (p.right.pollObs R net))
    (past ++ (p.right.pollObs R net).map Sum.inr)
  generalize (p.right.pollEndpoint R net).state = right at hcase hserver ⊢
  generalize (p.right.pollEndpoint R net).result = result at hcase
  generalize p.right.pollObs R net = obs at hcase hserver ⊢
  cases hcase with
  | idle hempty => simpa [ActionPair.movedRight] using h
  | invalid hqueue hread =>
      simpa using h.rightPopped hqueue (by simpa using hserver)
        fun g r hr => by simp [requestIn, hread] at hr
  | @cancelIgnored packet rest header reason hqueue hread hkind hreason =>
      have hignored : ∀ g r, requestIn R p.right.endpoint g packet = some r →
          r.kind = .cancel ∧ ¬Dispatches (p.right.binding g) r.slot := by
        intro g r hr
        rw [requestIn_of_read hread, if_pos hkind] at hr
        split_ifs at hr with hg
        cases hr
        subst hg
        refine ⟨rfl, fun hdispatch => ?_⟩
        have hnone := ServerActionInstance.ignoredCancelReason_eq_none.mpr
          hdispatch
        simp [hnone] at hreason
      simpa using h.rightPopped hqueue (by simpa using hserver) hignored
  | goalError hqueue hread hkind hreason =>
      have hnone := h.goalErrorReason_eq_none hqueue hread hkind
      simp [hnone] at hreason
  | @goalRequest packet rest header _ hqueue hread hkind hreason hrest
      hupdate =>
      obtain ⟨hslot, hg⟩ := ServerActionInstance.readRequest_slot hread
      have hsplit := requests_of_read hqueue hread
      have hunknown : p.right.binding header.goalId = none :=
        (ServerActionInstance.goalErrorReason_eq_none.mp hreason).1
      have hcontext : p.right.context header.goalId = none := by
        have hcorr := h.server.invariant.corr header.goalId
        rw [hunknown] at hcorr
        generalize p.right.context header.goalId = c at hcorr
        cases hcorr
        rfl
      refine h.rightGoal hR [.requested packet.slotIndex] hserver hg
        ?_ hupdate ?_ ?_
      · rw [hunknown, hcontext]
        exact .request hslot rfl rfl
      · intro g hne
        rw [hrest, hsplit, if_neg (Ne.symm hne), List.nil_append]
      · have hhead := hsplit header.goalId
        rw [if_pos rfl, if_neg hkind, List.singleton_append] at hhead
        rw [hrest]
        simp only [sentDeliveries, List.filterMap_cons, List.filterMap_nil,
          List.append_nil, List.foldl_cons, List.foldl_nil, recordSent]
        exact .takeGoal hhead rfl hunknown rfl rfl rfl rfl
  | @cancelRequest packet rest header b _ hqueue hread hkind hb hslot hstate
      hpending hcontext hrest hupdate =>
      obtain ⟨-, hg⟩ := ServerActionInstance.readRequest_slot hread
      have hsplit := requests_of_read hqueue hread
      refine h.rightGoal hR [.cancelRequested] hserver hg ?_ hupdate
        ?_ ?_
      · rw [hb, hcontext, ← hslot]
        exact .cancelRequest hstate hpending rfl rfl
      · intro g hne
        rw [hrest, hsplit, if_neg (Ne.symm hne), List.nil_append]
      · have hhead := hsplit header.goalId
        rw [if_pos rfl, if_pos hkind, List.singleton_append] at hhead
        have hne : sentPackets R p.right.endpoint.slotRouting header.goalId
            (Duplex.rights past) ≠ [] :=
          sent_ne_nil (h.goals header.goalId) (by simp [goalView, hb])
        rw [hrest]
        simp only [sentDeliveries, List.filterMap_cons, List.filterMap_nil,
          List.append_nil, List.foldl_cons, List.foldl_nil, recordSent,
          if_neg hne]
        exact .dispatchCancel hhead rfl hb hslot hstate hpending
  | cancelSwallowed hqueue hread hkind hb hslot hstate hpending hcontext =>
      exact absurd hcontext (h.server.client _)

/-- A call of the server application. -/
theorem rightCall (hR : R.Lawful) (h : Linked R p past) (net : SendOracle)
    {call : ServerCall} (hcall : call.Remote) :
    Linked R ((actionMachine R).step p (.right (.call net call))).1
      (past ++ ((actionMachine R).step p (.right (.call net call))).2) := by
  have hserver := h.server.step hR (i := .call net call) trivial
  change Linked R
    (p.movedRight ((instanceMachine R).step p.right (.call net call)).1
      ((instanceMachine R).step p.right (.call net call)).2)
    (past ++ ((instanceMachine R).step p.right
      (.call net call)).2.map Sum.inr)
  have quiet {obs : List ServerObs} (hquiet : ServerActionInstance.Quiet obs)
      (hserver : ServerActionInstance.History R p.right.endpoint.slotRouting
        p.right (Duplex.rights past ++ obs)) :
      Linked R (p.movedRight p.right obs) (past ++ obs.map Sum.inr) := by
    refine h.movedRight _ _ hserver ?_ fun g => ?_
    · intro o ho
      obtain ⟨_, rfl⟩ | ⟨_, _, rfl⟩ := hquiet o ho <;> rfl
    · have hsends : obs.flatMap serverSends = [] := by
        rw [List.flatMap_eq_nil_iff]
        intro o ho
        obtain ⟨_, rfl⟩ | ⟨_, _, rfl⟩ := hquiet o ho <;> rfl
      rw [goalView_movedRight past p.right obs rfl, newDeliveries, hsends,
        hquiet.silent.serverLog_eq]
      simp only [List.flatMap_nil, List.filterMap_nil, List.append_nil,
        List.foldl_nil]
      exact h.goals g
  simp only [instanceMachine] at hserver ⊢
  split_ifs at hserver ⊢ with hvalid
  · obtain ⟨hstate, hquiet⟩ | ⟨⟨es, b, c, hgoal, hupdate⟩, hqueue⟩ :=
      ServerActionInstance.call_cases (R := R) h.server.invariant net call
    · rw [hstate] at hserver ⊢
      exact quiet hquiet hserver
    · refine h.rightGoal hR _ hserver
        (call.valid_of_argumentsValid hvalid) hgoal hupdate ?_ ?_
      · intro g _
        rw [hqueue, ← requests_eq]
      · rw [hqueue, ← requests_eq]
        exact hgoal.linkStep (h.server.invariant.corr _) (h.server.client _)
          (fun hbound => sent_ne_nil (h.goals _) hbound) hcall
          List.getLast?_concat
  · exact quiet (by simp [ServerActionInstance.Quiet]) hserver

/-! ## Deliveries -/

theorem clientQueue_deliver {m : Transmission} {rest : List Transmission}
    (hqueue : p.toLeft = m :: rest) :
    clientQueue
        { p with
          left := p.left.withEndpoint (p.left.endpoint.receive m.1 m.2)
          toLeft := rest } =
      clientQueue p := by
  simp [clientQueue, hqueue, ClientActionInstance.withEndpoint,
    ActionClientEndpointImpl.receive, clientArrivals, List.append_assoc]

theorem serverQueue_deliver {m : Transmission} {rest : List Transmission}
    (hqueue : p.toRight = m :: rest) :
    serverQueue
        { p with
          right := p.right.withEndpoint (p.right.endpoint.receive m.1 m.2)
          toRight := rest } =
      serverQueue p := by
  simp [serverQueue, hqueue, ServerActionInstance.withEndpoint,
    ActionServerEndpointImpl.receive, serverArrivals, List.append_assoc]

/-- A delivery moves a packet from the transport to the queue of the endpoint;
it stays under way. -/
theorem delivered {q : ActionPair} (h : Linked R p past)
    (hclient : q.left.Invariant)
    (hserver : ServerActionInstance.History R p.right.endpoint.slotRouting
      q.right (Duplex.rights past))
    (hrouting : q.left.endpoint.slotRouting = p.left.endpoint.slotRouting)
    (hleft : q.left.binding = p.left.binding)
    (hright : q.right.binding = p.right.binding)
    (hclientQueue : clientQueue q = clientQueue p)
    (hserverQueue : serverQueue q = serverQueue p) : Linked R q past := by
  have hrouting' := hserver.slotRouting_eq
  have hview : ∀ g, goalView R q past g = goalView R p past g := by
    intro g
    simp only [goalView, hleft, hright, requests, deliveries, hclientQueue,
      hserverQueue, hrouting, hrouting', requestIn_congr R hrouting']
  exact
    { client := hclient
      server := by
        rw [hrouting']
        exact hserver
      slotRouting_eq := by rw [hrouting, hrouting', h.slotRouting_eq]
      goals := fun g => by
        rw [hview]
        exact h.goals g
      noErrorReply := h.noErrorReply }

theorem deliverLeft (h : Linked R p past) :
    Linked R ((actionMachine R).step p .deliverLeft).1
      (past ++ ((actionMachine R).step p .deliverLeft).2) := by
  cases hqueue : p.toLeft with
  | nil => simpa [actionMachine, Duplex.machine, hqueue] using h
  | cons m rest =>
      have hclient := h.client.step (R := R) (.receive m.1 m.2)
      have hdelivered : Linked R
          { p with
            left := p.left.withEndpoint (p.left.endpoint.receive m.1 m.2)
            toLeft := rest } past :=
        h.delivered hclient h.server rfl rfl rfl (clientQueue_deliver hqueue)
          rfl
      simpa [actionMachine, Duplex.machine, hqueue, Duplex.stepLeft,
        clientInstanceMachine, actionWiring] using hdelivered

theorem deliverRight (hR : R.Lawful) (h : Linked R p past) :
    Linked R ((actionMachine R).step p .deliverRight).1
      (past ++ ((actionMachine R).step p .deliverRight).2) := by
  cases hqueue : p.toRight with
  | nil => simpa [actionMachine, Duplex.machine, hqueue] using h
  | cons m rest =>
      have hserver := h.server.step hR (i := .receive m.1 m.2) trivial
      have hdelivered : Linked R
          { p with
            right := p.right.withEndpoint (p.right.endpoint.receive m.1 m.2)
            toRight := rest } past :=
        h.delivered h.client (by simpa [instanceMachine] using hserver) rfl rfl
          rfl rfl (serverQueue_deliver hqueue)
      simpa [actionMachine, Duplex.machine, hqueue, Duplex.stepRight,
        instanceMachine, actionWiring] using hdelivered

/-! ## Runs -/

/-- Every regular step keeps the two sides linked. -/
theorem step (hR : R.Lawful) (h : Linked R p past) {i : PairInput}
    (hi : RegularPairInput i) :
    Linked R ((actionMachine R).step p i).1
      (past ++ ((actionMachine R).step p i).2) := by
  cases i with
  | left i =>
      cases i with
      | poll now => exact h.leftPoll now
      | sendGoal net now pdu g timeoutUsec =>
          exact h.leftSendGoal hR net now pdu g timeoutUsec
      | sendCancel net goal => exact h.leftSendCancel hR net goal
      | receive | stop | clear => exact hi.elim
  | right i =>
      cases i with
      | poll net => exact h.rightPoll hR net
      | call net call => exact h.rightCall hR net hi
      | receive | runtimeCancel | stop | clear => exact hi.elim
  | deliverLeft => exact h.deliverLeft
  | deliverRight => exact h.deliverRight hR

theorem slotRouting_step (hR : R.Lawful) (h : Linked R p past) {i : PairInput}
    (hi : RegularPairInput i) :
    ((actionMachine R).step p i).1.right.endpoint.slotRouting =
      p.right.endpoint.slotRouting := by
  cases i with
  | left i => rfl
  | right i =>
      have hclient : i.ClientOnly := by
        cases i <;> trivial
      exact (h.server.step hR hclient).slotRouting_eq
  | deliverLeft =>
      simp only [actionMachine, Duplex.machine]
      split <;> rfl
  | deliverRight =>
      simp only [actionMachine, Duplex.machine]
      split <;> rfl

/-- Two fresh sides with an empty transport. -/
theorem of_fresh {left : ClientActionInstance} {right : ServerActionInstance}
    (hleft : ActionServicesClient.Fresh left)
    (hright : ActionServicesServer.Fresh right)
    (hrouting : left.endpoint.slotRouting = right.endpoint.slotRouting) :
    Linked R
      { left := left
        right := right
        toLeft := []
        toRight := [] } [] where
  client := ClientActionInstance.invariant_of_fresh hleft
  server := .of_fresh hright
  slotRouting_eq := hrouting
  goals := by
    intro g
    have hview : goalView R
        { left := left
          right := right
          toLeft := []
          toRight := [] } [] g = ⟨none, none, [], [], [], [], []⟩ := by
      have hbinding : left.binding g = none := by
        rw [ClientActionInstance.binding, hleft.endpoint_eq]
        rfl
      have hbinding' : right.binding g = none := by
        rw [ServerActionInstance.binding, hright.endpoint_eq]
        rfl
      have hpending : left.endpoint.pendingPackets = [] := by
        rw [hleft.endpoint_eq]
      have hpending' : right.endpoint.pendingPackets = [] := by
        rw [hright.endpoint_eq]
      simp only [goalView, requests, serverQueue, deliveries, clientQueue,
        hbinding, hbinding', hpending, hpending', List.flatMap_nil,
        List.append_nil, List.filterMap_nil]
      rfl
    rw [hview]
    exact GoalLink.initial
  noErrorReply := by simp [Duplex.rights]

/-- A regular run keeps the two sides linked. -/
theorem run (hR : R.Lawful) (h : Linked R p []) {is : List PairInput}
    (his : (actionMachine R).Along (fun _ i => RegularPairInput i) p is) :
    Linked R ((actionMachine R).run p is) ((actionMachine R).trace p is) ∧
      ((actionMachine R).run p is).right.endpoint.slotRouting =
        p.right.endpoint.slotRouting :=
  (actionMachine R).trace_invariant
    (I := fun q past => Linked R q past ∧
      q.right.endpoint.slotRouting = p.right.endpoint.slotRouting)
    (fun _ _ _ hi hI => ⟨hI.1.step hR hi,
      (hI.1.slotRouting_step hR hi).trans hI.2⟩) ⟨h, rfl⟩ his

end Linked

end HakoPduRpc.Action
