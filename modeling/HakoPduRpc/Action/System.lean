import HakoPduRpc.Action.ClientCorrespondence
import HakoPduRpc.Action.ServerHistory
import HakoPduRpc.Lib.Duplex

/-!
# Client and server over a transport

The transport hands every packet whose send succeeded to the other side exactly
once and in the order of the sends.  `systemMachine` joins the two services,
`actionMachine` the two sides of a single Action.

All channels of an Action carry its name, so the packets of different Actions do
not mix: `projection` says that a run of the whole system is, for each Action, a
run of that Action over its share of the transport.
-/

namespace HakoPduRpc.Action

/-- A packet on its way. -/
abbrev Transmission := PduResolvedKey × PduData

/-- The packets that an observation of the client hands to the transport. -/
def clientSends : ClientObs → List Transmission
  | .effect (.send key data true) => [(key, data)]
  | _ => []

/-- The packets that an observation of the server hands to the transport. -/
def serverSends : ServerObs → List Transmission
  | .effect (.send _ key data true) => [(key, data)]
  | _ => []

/-- The transport between the two sides of one Action. -/
def actionWiring : Duplex.Wiring ClientInstanceInput InstanceInput ClientObs
    ServerObs Transmission where
  sendLeft := clientSends
  sendRight := serverSends
  receiveLeft m := .receive m.1 m.2
  receiveRight m := .receive m.1 m.2

/-- The transport between the two services. -/
def systemWiring : Duplex.Wiring ClientInput ServerInput (String × ClientObs)
    (String × ServerObs) Transmission where
  sendLeft o := clientSends o.2
  sendRight o := serverSends o.2
  receiveLeft m := .receive m.1 m.2
  receiveRight m := .receive m.1 m.2

/-- The two sides of one Action. -/
abbrev ActionPair :=
  Duplex ClientActionInstance ServerActionInstance Transmission

/-- The two services. -/
abbrev ActionSystem :=
  Duplex ActionServicesClient ActionServicesServer Transmission

abbrev SystemInput := Duplex.Input ClientInput ServerInput

abbrev PairInput := Duplex.Input ClientInstanceInput InstanceInput

/-- One Action over its transport. -/
def actionMachine (R : PduRegistry) :
    Machine ActionPair PairInput (ClientObs ⊕ ServerObs) :=
  Duplex.machine (clientInstanceMachine R) (instanceMachine R) actionWiring

/-- The services over the transport. -/
def systemMachine (R : PduRegistry) :
    Machine ActionSystem SystemInput
      ((String × ClientObs) ⊕ (String × ServerObs)) :=
  Duplex.machine (clientMachine R) (serverMachine R) systemWiring

/-! ## Packets stay with their Action -/

section Robots

variable {R : PduRegistry} {actionName : String} {routing : List SlotRouting}
  {slot : ℕ} {g : GoalId} {key : PduResolvedKey} {data : PduData}

theorem Carries.robot (hwf : RoutingWellFormed actionName routing)
    {notice : Notice} (h : Carries R routing slot g notice key data) :
    key.robot = actionName := by
  obtain ⟨r, hr, h⟩ := h
  cases notice with
  | feedback n =>
      obtain ⟨rfl, -⟩ := h
      exact hwf.robot_eq hr .feedback
  | goalResponse d =>
      obtain ⟨_, _, -, rfl, -⟩ := h
      exact hwf.robot_eq hr .response
  | cancelResponse d =>
      obtain ⟨_, _, -, rfl, -⟩ := h
      exact hwf.robot_eq hr .response
  | result s =>
      obtain ⟨_, _, -, rfl, -⟩ := h
      exact hwf.robot_eq hr .response

theorem RequestCarries.robot (hwf : RoutingWellFormed actionName routing)
    {kind : UInt8} (h : RequestCarries R routing slot g kind key data) :
    key.robot = actionName := by
  obtain ⟨r, hr, rfl, -⟩ := h
  exact hwf.robot_eq hr .request

end Robots

namespace ClientActionInstance

variable {R : PduRegistry} {inst : ClientActionInstance}

/-- A call shows its effects and then what it was. -/
theorem mem_effects_of_mem {effects : List ClientEffect} {e : ClientEffect}
    {call : ClientObs} (hcall : ∀ e, call ≠ .effect e)
    (h : .effect e ∈ effects.map .effect ++ [call]) : e ∈ effects := by
  rcases List.mem_append.mp h with h | h
  · obtain ⟨e', he', heq⟩ := List.mem_map.mp h
    obtain rfl := ClientObs.effect.inj heq
    exact he'
  · exact absurd (List.mem_singleton.mp h).symm (hcall e)

theorem send_robot (hinv : inst.Invariant) {i : ClientInstanceInput}
    {key : PduResolvedKey} {data : PduData}
    (h : .effect (.send key data true) ∈
      ((clientInstanceMachine R).step inst i).2) :
    key.robot = inst.actionName := by
  cases i with
  | receive key' data' => simp [clientInstanceMachine] at h
  | poll now => simp [clientInstanceMachine] at h
  | sendGoal net now pdu g timeoutUsec =>
      simp only [clientInstanceMachine] at h
      split_ifs at h
      · have hmem := mem_effects_of_mem (by simp) h
        obtain ⟨-, -, hfailed⟩ | ⟨slot, key', data', -, heffects, -, hsent, -⟩ :=
          sendGoalWithResult_cases hinv rfl
        · obtain ⟨_, _, heq⟩ := hfailed _ hmem
          cases heq
        · rw [heffects, List.mem_singleton] at hmem
          obtain ⟨rfl, -, -⟩ := ClientEffect.send.inj hmem
          exact hsent.robot hinv.routing
      · simp at h
  | sendCancel net goal =>
      simp only [clientInstanceMachine] at h
      split_ifs at h
      · have hmem := mem_effects_of_mem (by simp) h
        obtain ⟨-, -, hfailed⟩ | ⟨b, key', data', -, heffects, -, -, hsent, -⟩ :=
          sendCancel_cases hinv rfl
        · obtain ⟨_, _, heq⟩ := hfailed _ hmem
          cases heq
        · rw [heffects, List.mem_singleton] at hmem
          obtain ⟨rfl, -, -⟩ := ClientEffect.send.inj hmem
          exact hsent.robot hinv.routing
      · simp at h
  | stop => simp [clientInstanceMachine] at h
  | clear => simp [clientInstanceMachine] at h

end ClientActionInstance

/-- Every packet of a step of a Goal is on a channel of its Action. -/
theorem ServerGoalStep.robot {R : PduRegistry} {actionName : String}
    {routing : List SlotRouting} (hwf : RoutingWellFormed actionName routing)
    {g : GoalId} {b b' : Option ActionPacketBinding}
    {c c' : Option ServerGoalContext} {obs : List ServerObs}
    {es : List ServerEntry} (h : ServerGoalStep R routing g b c obs es b' c')
    {errorReply : Bool} {key : PduResolvedKey} {data : PduData}
    (hmem : .effect (.send errorReply key data true) ∈ obs) :
    key.robot = actionName := by
  cases h with
  | acceptGoal _ hsent | rejectGoal _ hsent | acceptCancel _ _ hsent
  | rejectCancel _ _ hsent | feedback _ hsent | complete _ hsent =>
      simp at hmem
      rw [hmem.2.1]
      exact hsent.robot hwf
  | commitOnly _ hfailed =>
      rcases hfailed with rfl | ⟨_, _, rfl⟩ <;> simp at hmem
  | request | discard | cancelRequest | cancelSwallowed | runtimeCancel
  | runtimeReclassify | acceptCancelLocally | rejectRuntimeCancel
  | completeLocally =>
      simp at hmem

namespace ServerActionInstance

variable {R : PduRegistry} {inst : ServerActionInstance}

/-- An automatic rejection is sent on a channel of the Action. -/
theorem sendGoalErrorReply_robot {net : SendOracle}
    {ep : ActionServerEndpointImpl} {actionName : String}
    (hwf : RoutingWellFormed actionName ep.slotRouting) {g : GoalId} {slot : ℕ}
    {reason : String} {errorReply : Bool} {key : PduResolvedKey}
    {data : PduData} {ok : Bool}
    (h : .send errorReply key data ok ∈
      ep.sendGoalErrorReply R net g slot reason) :
    key.robot = actionName := by
  unfold ActionServerEndpointImpl.sendGoalErrorReply at h
  simp only [List.mem_cons, reduceCtorEq, false_or] at h
  split at h
  · simp at h
  · split at h
    · simp at h
    · next key' data' hpacket =>
        simp only [List.mem_singleton, ServerEffect.send.injEq] at h
        have hcarries := ActionServerEndpointImpl.responsePacket_carries
          (.goalResponse .rejected) rfl hpacket
        rw [h.2.1]
        exact hcarries.robot hwf

theorem send_robot (hinv : inst.Invariant) {i : InstanceInput}
    {errorReply : Bool} {key : PduResolvedKey} {data : PduData}
    (h : .effect (.send errorReply key data true) ∈
      ((instanceMachine R).step inst i).2) :
    key.robot = inst.actionName := by
  cases i with
  | poll net =>
      have hcase := poll_cases (R := R) hinv net
      simp only [instanceMachine] at h
      generalize inst.pollObs R net = obs at h hcase
      generalize (inst.pollEndpoint R net).state = inst' at hcase
      generalize (inst.pollEndpoint R net).result = result at hcase
      cases hcase with
      | goalError =>
          obtain ⟨e, he, heq⟩ := List.mem_map.mp h
          cases heq
          exact sendGoalErrorReply_robot hinv.routing he
      | idle | invalid | cancelIgnored | goalRequest | cancelRequest
      | cancelSwallowed => simp at h
  | call net call =>
      simp only [instanceMachine] at h
      split_ifs at h
      · obtain ⟨-, hquiet⟩ | ⟨⟨es, b, c', hstep, -⟩, -⟩ :=
          call_cases (R := R) hinv net call
        · obtain ⟨_, heq⟩ | ⟨_, _, heq⟩ := hquiet _ h <;> cases heq
        · exact hstep.robot hinv.routing h
      · simp at h
  | receive key data => simp [instanceMachine] at h
  | runtimeCancel event => simp [instanceMachine] at h
  | stop => simp [instanceMachine] at h
  | clear => simp [instanceMachine] at h

end ServerActionInstance

/-! ## The share of an Action -/

/-- The packet belongs to the Action. -/
def belongsTo (name : String) (m : Transmission) : Bool := m.1.robot = name

/-- A packet of another Action is not received. -/
theorem ActionClientEndpointImpl.receive_other {ep : ActionClientEndpointImpl}
    {name : String} (hwf : RoutingWellFormed name ep.slotRouting)
    {key : PduResolvedKey} (hkey : key.robot ≠ name) (data : PduData) :
    ep.receive key data = ep := by
  have hnone : (ep.slotRouting.flatMap fun routing =>
      (if routing.response = key then
        [({ slotIndex := routing.slotIndex, kind := .response, pdu := data } :
          ClientPendingPacket)]
      else []) ++
      (if routing.feedback = key then
        [{ slotIndex := routing.slotIndex, kind := .feedback, pdu := data }]
      else [])) = [] := by
    rw [List.flatMap_eq_nil_iff]
    intro r hr
    obtain ⟨i, hi⟩ := List.getElem?_of_mem hr
    have hresponse : r.response ≠ key := by
      rintro rfl
      exact hkey (hwf.robot_eq hi .response)
    have hfeedback : r.feedback ≠ key := by
      rintro rfl
      exact hkey (hwf.robot_eq hi .feedback)
    simp [hresponse, hfeedback]
  simp [receive, hnone]

theorem ActionServerEndpointImpl.receive_other {ep : ActionServerEndpointImpl}
    {name : String} (hwf : RoutingWellFormed name ep.slotRouting)
    {key : PduResolvedKey} (hkey : key.robot ≠ name) (data : PduData) :
    ep.receive key data = ep := by
  have hnone : (ep.slotRouting.filter fun r => r.request = key) = [] := by
    rw [List.filter_eq_nil_iff]
    intro r hr
    obtain ⟨i, hi⟩ := List.getElem?_of_mem hr
    simp only [decide_eq_true_eq]
    rintro rfl
    exact hkey (hwf.robot_eq hi .request)
  simp [receive, hnone]

namespace ActionServicesClient

variable {R : PduRegistry} {name : String}

theorem send_robot {s : ActionServicesClient} (hs : s.Invariant)
    {i : ClientInput} {o : String × ClientObs}
    (ho : o ∈ ((clientMachine R).step s i).2) :
    ∀ m ∈ clientSends o.2, m.1.robot = o.1 := by
  have hstep {inst : ClientActionInstance} (hinst : inst ∈ s.actions)
      {j : ClientInstanceInput} {o : ClientObs}
      (ho : o ∈ ((clientInstanceMachine R).step inst j).2) :
      ∀ m ∈ clientSends o, m.1.robot = inst.actionName := by
    intro m hm
    unfold clientSends at hm
    split at hm
    · rw [List.mem_singleton.mp hm]
      exact ClientActionInstance.send_robot (hs.actions inst hinst) ho
    · simp at hm
  have haction {actionName : String} {j : ClientInstanceInput}
      (ho : o ∈ (s.stepAction R actionName j).2) :
      ∀ m ∈ clientSends o.2, m.1.robot = o.1 := by
    unfold stepAction at ho
    split at ho
    · simp at ho
    · next inst hinst =>
        obtain ⟨o', ho', rfl⟩ := List.mem_map.mp ho
        have hname : inst.actionName = actionName := KeyedList.lookup_key hinst
        rw [← hname]
        exact hstep (KeyedList.lookup_mem hinst) ho'
  cases i with
  | receive key data => simp [clientMachine] at ho
  | poll clock =>
      have hscan := pollActions_eq_scan (R := R) clock s.actions
      have heffects := congrArg Prod.snd hscan
      dsimp only at heffects
      have ho' : o ∈ (pollActions R clock s.actions).effects := ho
      rw [heffects] at ho'
      obtain ⟨inst, hinst, hname, hobs⟩ := Fleet.mem_scan ho'
      rw [hname]
      exact hstep hinst hobs
  | sendGoal net now actionName pdu g timeoutUsec =>
      simp only [clientMachine, sendGoalWithResult] at ho
      split at ho
      · simp at ho
      · split at ho
        · simp at ho
        · exact haction ho
  | sendCancel net actionName goal =>
      simp only [clientMachine, sendCancel] at ho
      split at ho
      · simp at ho
      · split at ho
        · simp at ho
        · exact haction ho
  | stopAllServices => simp [clientMachine] at ho
  | clearAllInstances => simp [clientMachine] at ho

/-- The projection to an Action, with the invariant of the services. -/
def invariantProjection (R : PduRegistry) (name : String) :
    Machine.Projection (clientMachine R) (clientInstanceMachine R)
      (fun _ _ => True) :=
  (projection R name).restrict (fun _ _ _ => trivial) Invariant
    (fun _ i _ hs => hs.step i)

theorem share (R : PduRegistry) (name : String) :
    Duplex.Share (invariantProjection R name) systemWiring.sendLeft
      actionWiring.sendLeft systemWiring.receiveLeft actionWiring.receiveLeft
      (belongsTo name) where
  admits _ _ := trivial
  sends s i _ hs := Fleet.filter_sends fun _ ho => send_robot hs.2 ho
  receives _ _ _ := rfl
  ignores := by
    rintro s ⟨key, data⟩ ⟨⟨hnodup, inst, hinst⟩, hinv⟩ hother
    have hname : inst.actionName = name := KeyedList.lookup_key hinst
    have hsame : inst.endpoint.receive key data = inst.endpoint := by
      refine ActionClientEndpointImpl.receive_other
        (hinv.actions inst (KeyedList.lookup_mem hinst)).routing ?_ data
      rw [hname]
      simpa [belongsTo] using hother
    obtain ⟨hview, hobs⟩ := step_project (R := R) hnodup hinst
      (.receive key data)
    refine ⟨?_, hobs⟩
    change viewAction name _ = viewAction name s
    rw [viewAction, viewAction, hinst]
    change (((clientMachine R).step s (.receive key data)).1.getAction
      name).getD _ = _
    rw [hview]
    simp [instanceInputs, clientInstanceMachine,
      ClientActionInstance.withEndpoint, hsame]

end ActionServicesClient

namespace ActionServicesServer

variable {R : PduRegistry} {name : String}

theorem send_robot {s : ActionServicesServer} (hs : s.Invariant)
    (hempty : s.pendingRuntimeEvents = []) {i : ServerInput}
    {o : String × ServerObs} (ho : o ∈ ((serverMachine R).step s i).2) :
    ∀ m ∈ serverSends o.2, m.1.robot = o.1 := by
  have hstep {inst : ServerActionInstance} (hinst : inst ∈ s.actions)
      {j : InstanceInput} {o : ServerObs}
      (ho : o ∈ ((instanceMachine R).step inst j).2) :
      ∀ m ∈ serverSends o, m.1.robot = inst.actionName := by
    intro m hm
    unfold serverSends at hm
    split at hm
    · rw [List.mem_singleton.mp hm]
      exact ServerActionInstance.send_robot (hs.actions inst hinst) ho
    · simp at hm
  cases i with
  | receive key data => simp [serverMachine] at ho
  | poll net =>
      have hscan := pollActions_eq_scan (R := R) net s.actions
      have heffects := congrArg Prod.snd hscan
      dsimp only at heffects
      have ho' : o ∈ (pollActions R net s.actions).effects := by
        simpa [serverMachine, poll, hempty, pollRuntimeEvents] using ho
      rw [heffects] at ho'
      obtain ⟨inst, hinst, hname, hobs⟩ := Fleet.mem_scan ho'
      rw [hname]
      exact hstep hinst hobs
  | call net actionName call =>
      simp only [serverMachine, ActionServicesServer.call] at ho
      split at ho
      · simp at ho
      · split at ho
        · simp at ho
        · next inst hinst =>
            obtain ⟨o', ho', rfl⟩ := List.mem_map.mp ho
            have hname : inst.actionName = actionName :=
              KeyedList.lookup_key hinst
            rw [← hname]
            exact hstep (KeyedList.lookup_mem hinst) ho'
  | stopAllServices => simp [serverMachine] at ho
  | clearAllInstances => simp [serverMachine] at ho
  | notifyTransportDisconnected => simp [serverMachine] at ho

/-- The projection to an Action, with the invariant of the services. -/
def invariantProjection (R : PduRegistry) (name : String) :
    Machine.Projection (serverMachine R) (instanceMachine R) ClientOnly :=
  (clientProjection R name).restrict (fun _ _ h => h) Invariant
    (fun _ i _ hs => hs.step i)

theorem share (R : PduRegistry) (name : String) :
    Duplex.Share (invariantProjection R name) systemWiring.sendRight
      actionWiring.sendRight systemWiring.receiveRight actionWiring.receiveRight
      (belongsTo name) where
  admits _ _ := ⟨by simp [systemWiring], by simp [systemWiring]⟩
  sends s i _ hs := Fleet.filter_sends fun _ ho => send_robot hs.2 hs.1.2 ho
  receives _ _ _ := rfl
  ignores := by
    rintro s ⟨key, data⟩ ⟨⟨⟨hnodup, inst, hinst⟩, -⟩, hinv⟩ hother
    have hname : inst.actionName = name := KeyedList.lookup_key hinst
    have hsame : inst.endpoint.receive key data = inst.endpoint := by
      refine ActionServerEndpointImpl.receive_other
        (hinv.actions inst (KeyedList.lookup_mem hinst)).routing ?_ data
      rw [hname]
      simpa [belongsTo] using hother
    obtain ⟨hview, hobs⟩ := step_project (R := R) hnodup hinst
      (.receive key data)
    refine ⟨?_, hobs⟩
    change viewAction name _ = viewAction name s
    rw [viewAction, viewAction, hinst]
    change (((serverMachine R).step s (.receive key data)).1.getAction
      name).getD _ = _
    rw [hview]
    simp [instanceInputs, instanceMachine, ServerActionInstance.withEndpoint,
      hsame]

end ActionServicesServer

/-! ## Runs of the system are runs of its Actions -/

/-- The calls whose effect the other side is told about. -/
def ServerCall.Remote : ServerCall → Prop
  | .discardPendingGoal _ => False
  | .completeLocally _ _ _ => False
  | _ => True

/-- The steps of the system: calls of both applications, polls and deliveries,
without stop, reset or disconnect. -/
def RegularInput : SystemInput → Prop
  | .left (.poll _) => True
  | .left (.sendGoal ..) => True
  | .left (.sendCancel ..) => True
  | .left _ => False
  | .right (.poll _) => True
  | .right (.call _ _ call) => call.Remote
  | .right _ => False
  | .deliverLeft => True
  | .deliverRight => True

/-- The same steps, seen by one Action. -/
def RegularPairInput : PairInput → Prop
  | .left (.poll _) => True
  | .left (.sendGoal ..) => True
  | .left (.sendCancel ..) => True
  | .left _ => False
  | .right (.poll _) => True
  | .right (.call _ call) => call.Remote
  | .right _ => False
  | .deliverLeft => True
  | .deliverRight => True

theorem admitted_of_regular {s : ActionSystem} {i : SystemInput}
    (hi : RegularInput i) :
    Duplex.Admitted (fun _ _ => True) ActionServicesServer.ClientOnly s i := by
  cases i with
  | left i => trivial
  | right i =>
      cases i with
      | poll net => exact ⟨by simp, by simp⟩
      | call net name call => exact ⟨by simp, by simp⟩
      | receive key data => exact hi.elim
      | stopAllServices => exact hi.elim
      | clearAllInstances => exact hi.elim
      | notifyTransportDisconnected => exact hi.elim
  | deliverLeft => trivial
  | deliverRight => trivial

namespace ActionSystem

/-- A regular run of the system is, for every Action, a run of that Action over
its share of the transport. -/
def projection (R : PduRegistry) (name : String) :
    Machine.Projection (systemMachine R) (actionMachine R)
      (fun _ i => RegularInput i) :=
  (Duplex.projection (ActionServicesClient.invariantProjection R name)
    (ActionServicesServer.invariantProjection R name)
    (ActionServicesClient.share R name)
    (ActionServicesServer.share R name)).restrict
      (fun _ _ hi => admitted_of_regular hi) (fun _ => True)
      (fun _ _ _ _ => trivial)

/-- An Action sees only regular steps. -/
theorem regular_inputs {R : PduRegistry} {name : String} {s : ActionSystem}
    {i : SystemInput} (hi : RegularInput i)
    (hs : (projection R name).Good s) :
    ∀ j ∈ (projection R name).inputs s i, RegularPairInput j := by
  cases i with
  | left i =>
      intro j hj
      obtain ⟨k, hk, rfl⟩ := List.mem_map.mp hj
      change k ∈ ActionServicesClient.instanceInputs R name s.left i at hk
      cases ActionServicesClient.ForAction.of_mem hk with
      | poll | sendGoal | sendCancel => trivial
      | receive | stop | clear => exact hi.elim
  | right i =>
      intro j hj
      obtain ⟨k, hk, rfl⟩ := List.mem_map.mp hj
      change k ∈ ActionServicesServer.instanceInputs R name s.right i at hk
      cases i with
      | poll net =>
          have hempty : s.right.pendingRuntimeEvents = [] := hs.1.2.1.2
          simp only [ActionServicesServer.instanceInputs, hempty,
            ActionServicesServer.runtimeInputs,
            ActionServicesServer.pollRuntimeEvents, Option.isSome_none,
            Bool.false_eq_true, if_false, List.nil_append] at hk
          obtain ⟨_, rfl⟩ := Fleet.mem_scanInputs hk
          trivial
      | call net actionName call =>
          cases ActionServicesServer.ForAction.of_mem hk
          exact hi
      | receive key data => exact hi.elim
      | stopAllServices => exact hi.elim
      | clearAllInstances => exact hi.elim
      | notifyTransportDisconnected => exact hi.elim
  | deliverLeft =>
      intro j hj
      have hj' : j ∈ if s.toLeft.head?.any (belongsTo name) then
          [Duplex.Input.deliverLeft] else [] := hj
      split_ifs at hj'
      · rw [List.mem_singleton.mp hj']
        trivial
      · simp at hj'
  | deliverRight =>
      intro j hj
      have hj' : j ∈ if s.toRight.head?.any (belongsTo name) then
          [Duplex.Input.deliverRight] else [] := hj
      split_ifs at hj'
      · rw [List.mem_singleton.mp hj']
        trivial
      · simp at hj'

end ActionSystem

end HakoPduRpc.Action
