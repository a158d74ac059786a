import HakoPduRpc.Action.ServerHistory
import HakoPduRpc.Action.ClientHistory

/-!
# Failed operations change nothing

Several operations of the services prepare their change before they send: a Goal
is pushed, a slot is reserved, a binding is moved on.  When the operation fails
all of it is taken back.  So a failed operation can be repeated: the second call
does what the first one would have done, with the same bytes on the wire.

`complete` is not among these operations, since it commits before it sends.
-/

namespace HakoPduRpc.Action

open KeyedList

/-! ## Operations that can be repeated -/

section Retry

variable {σ ε α ω : Type}

/-- The call of `op` in `s` left no trace.  `ω` is what the surroundings decide,
such as the answer of the transport: the services are as before, a second call
does what the first one would have done in its place, and it hands the same
packets to the transport. -/
structure LeavesNoTrace (packets : List ε → List (PduResolvedKey × PduData))
    (op : ω → σ → Outcome σ ε α) (w : ω) (s : σ) : Prop where
  state_eq : (op w s).state = s
  retry_eq : ∀ w', op w' (op w s).state = op w' s
  packets_eq : ∀ w',
    packets (op w' (op w s).state).effects = packets (op w s).effects

theorem LeavesNoTrace.intro
    {packets : List ε → List (PduResolvedKey × PduData)}
    {op : ω → σ → Outcome σ ε α} {w : ω} {s : σ} (hstate : (op w s).state = s)
    (hpackets : ∀ w', packets (op w' s).effects = packets (op w s).effects) :
    LeavesNoTrace packets op w s where
  state_eq := hstate
  retry_eq := by
    intro w'
    rw [hstate]
  packets_eq := by
    intro w'
    rw [hstate]
    exact hpackets w'

/-- What is handed to the transport does not depend on the surroundings. -/
def SendsAlike (packet : ε → Option (PduResolvedKey × PduData))
    (op : ω → Outcome σ ε α) : Prop :=
  ∀ w w', (op w).effects.filterMap packet = (op w').effects.filterMap packet

end Retry

/-! ## The server -/

/-- The operations that change nothing when they fail. -/
def ServerCall.retryable : ServerCall → Bool
  | .acceptGoal _ | .rejectGoal _ | .acceptCancel _ | .rejectCancel _
  | .sendFeedback _ _ => true
  | .discardPendingGoal _ | .complete _ _ _ | .completeLocally _ _ _ => false

/-- The packet that was handed to the transport, whether it took it or not. -/
def ServerEffect.packet : ServerEffect → Option (PduResolvedKey × PduData)
  | .send _ key data _ => some (key, data)
  | .commit _ _ | .goalErrorReply _ _ _ => none

/-- The packets that a call handed to the transport. -/
def serverPackets (seen : List (String × ServerObs)) :
    List (PduResolvedKey × PduData) :=
  seen.filterMap fun o =>
    match o.2 with
    | .effect e => e.packet
    | .event _ _ | .returned _ _ => none

namespace ActionServerEndpointImpl

variable {R : PduRegistry} {ep : ActionServerEndpointImpl}

theorem respond_sendsAlike (goal : ServerGoalHandle)
    (allowed : ActionPacketBinding → Bool) (kind : UInt8) (d : Decision)
    (commit : ActionPacketBinding → ActionServerEndpointImpl) :
    SendsAlike ServerEffect.packet fun net =>
      respond R net ep goal allowed kind d commit := by
  intro net net'
  simp only [respond]
  split
  · rfl
  · split
    · rfl
    · split
      · rfl
      · split
        · rfl
        · split <;> rfl

theorem sendFeedback_sendsAlike (goal : ServerGoalHandle) (pdu : PduData) :
    SendsAlike ServerEffect.packet fun net => sendFeedback R net ep goal pdu := by
  intro net net'
  simp only [sendFeedback]
  split
  · rfl
  · split
    · rfl
    · split
      · rfl
      · split <;> rfl

end ActionServerEndpointImpl

namespace ServerActionInstance

variable {R : PduRegistry} {inst : ServerActionInstance}

theorem call_sendsAlike {c : ServerCall} (hc : c.retryable = true) :
    SendsAlike ServerEffect.packet fun net => inst.call R net c := by
  intro net net'
  cases c with
  | acceptGoal goal =>
      simp only [call, acceptGoal]
      split
      · rfl
      · exact ActionServerEndpointImpl.respond_sendsAlike _ _ _ _ _ net net'
  | rejectGoal goal =>
      simp only [call, rejectGoal]
      split
      · rfl
      · exact ActionServerEndpointImpl.respond_sendsAlike _ _ _ _ _ net net'
  | acceptCancel goal =>
      simp only [call, acceptCancel]
      split
      · rfl
      · split
        · rfl
        · dsimp only
          split
          · exact
              ActionServerEndpointImpl.respond_sendsAlike _ _ _ _ _ net net'
          · rfl
  | rejectCancel goal =>
      simp only [call, rejectCancel]
      split
      · rfl
      · split
        · rfl
        · split
          · exact
              ActionServerEndpointImpl.respond_sendsAlike _ _ _ _ _ net net'
          · rfl
  | sendFeedback goal pdu =>
      simp only [call, sendFeedback]
      split
      · rfl
      · split
        · rfl
        · exact ActionServerEndpointImpl.sendFeedback_sendsAlike _ _ net net'
  | discardPendingGoal goal => simp [ServerCall.retryable] at hc
  | complete goal status pdu => simp [ServerCall.retryable] at hc
  | completeLocally goal status pdu => simp [ServerCall.retryable] at hc

/-- An operation that fails leaves the Action as it was. -/
theorem call_state_of_failed (hinv : inst.Invariant) (net : SendOracle)
    {c : ServerCall} (hc : c.retryable = true)
    (hfailed : (inst.call R net c).result = false) :
    (inst.call R net c).state = inst := by
  obtain ⟨hstate, -⟩ | ⟨⟨es, b, context, hstep, -⟩, -⟩ :=
    call_cases (R := R) hinv net c
  · exact hstate
  · -- Every step of a Goal that a call makes has a result, and only the
    -- commit of a Result that could not be sent is a failure.
    have hmem := mem_callObs c (inst.call R net c)
    rw [hfailed] at hmem
    generalize callObs c (inst.call R net c) = obs at hstep hmem
    generalize inst.binding c.goal.goalId = b₀ at hstep
    generalize inst.context c.goal.goalId = c₀ at hstep
    cases hstep with
    | commitOnly hmay hsent =>
        rcases hsent with rfl | ⟨key, data, rfl⟩
        all_goals
          simp only [List.append_nil, List.cons_append, List.nil_append,
            List.mem_cons, reduceCtorEq, ServerObs.returned.injEq, and_true,
            List.not_mem_nil, or_false, false_or] at hmem
          rw [hmem] at hc
          simp [ServerCall.retryable] at hc
    | _ => simp at hmem

end ServerActionInstance

namespace ActionServicesServer

variable {R : PduRegistry} {s : ActionServicesServer}

theorem serverPackets_call (name : String) (c : ServerCall) (result : Bool)
    (effects : List ServerEffect) :
    serverPackets ((effects.map ServerObs.effect ++
        [ServerObs.returned c result]).map (Prod.mk name)) =
      effects.filterMap ServerEffect.packet := by
  simp [serverPackets, List.filterMap_append, List.filterMap_map,
    Function.comp_def]

/-- What a call of the services hands to the transport. -/
theorem call_packets (s : ActionServicesServer) {name : String}
    {c : ServerCall} (hc : c.retryable = true) (net net' : SendOracle) :
    serverPackets (s.call R net name c).effects =
      serverPackets (s.call R net' name c).effects := by
  unfold call
  split_ifs
  · rfl
  · split
    · rfl
    · next inst _ =>
        simp only [instanceMachine]
        split_ifs
        · rw [serverPackets_call, serverPackets_call]
          exact ServerActionInstance.call_sendsAlike hc net net'
        · rfl

theorem call_state_of_failed (hinv : s.Invariant) (net : SendOracle)
    {name : String} {c : ServerCall} (hc : c.retryable = true)
    (hfailed : (s.call R net name c).result = false) :
    (s.call R net name c).state = s := by
  unfold call at hfailed ⊢
  split_ifs at hfailed ⊢
  · rfl
  · cases hget : s.getAction name with
    | none => rfl
    | some inst =>
        simp only [hget, Bool.and_eq_false_iff] at hfailed
        have hsame :
            ((instanceMachine R).step inst (.call net c)).1 = inst := by
          simp only [instanceMachine]
          split_ifs with hvalid
          · exact ServerActionInstance.call_state_of_failed
              (hinv.actions inst (lookup_mem hget)) net hc
              (hfailed.resolve_left (by simp [hvalid]))
          · rfl
        simp only [hsame]
        rw [modifyFirst_eq_self hget]

theorem call_leavesNoTrace (hinv : s.Invariant) (net : SendOracle)
    {name : String} {c : ServerCall} (hc : c.retryable = true)
    (hfailed : (s.call R net name c).result = false) :
    LeavesNoTrace serverPackets (fun net s => s.call R net name c) net s :=
  LeavesNoTrace.intro (call_state_of_failed hinv net hc hfailed)
    fun net' => call_packets s hc net' net

end ActionServicesServer

/-! ## The client -/

/-- The packet that was handed to the transport, whether it took it or not. -/
def ClientEffect.packet : ClientEffect → Option (PduResolvedKey × PduData)
  | .send key data _ => some (key, data)

/-- The packets that a call handed to the transport. -/
def clientPackets (seen : List (String × ClientObs)) :
    List (PduResolvedKey × PduData) :=
  seen.filterMap fun o =>
    match o.2 with
    | .effect e => e.packet
    | .event _ | .sentGoal _ _ _ _ | .sentCancel _ _ => none

namespace ActionClientEndpointImpl

variable {R : PduRegistry} {ep : ActionClientEndpointImpl}

theorem sendGoalWithResult_sendsAlike (pdu : PduData) (g : GoalId)
    (timeoutUsec : UInt64) :
    SendsAlike ClientEffect.packet fun w : SendOracle × UInt64 =>
      ep.sendGoalWithResult R w.1 w.2 pdu g timeoutUsec := by
  intro w w'
  simp only [sendGoalWithResult]
  split
  · rfl
  · split
    · rfl
    · split
      · rfl
      · split
        · rfl
        · dsimp only [requestPacket]
          split
          · rfl
          · split
            · rfl
            · split <;> rfl

theorem sendCancel_sendsAlike (goal : ClientGoalHandle) :
    SendsAlike ClientEffect.packet fun net => ep.sendCancel R net goal := by
  intro net net'
  simp only [sendCancel]
  split
  · rfl
  · split
    · rfl
    · split
      · rfl
      · split
        · rfl
        · split
          · rfl
          · split <;> rfl

end ActionClientEndpointImpl

namespace ClientActionInstance

variable {R : PduRegistry} {inst : ClientActionInstance}

theorem sendGoalWithResult_sendsAlike (pdu : PduData) (g : GoalId)
    (timeoutUsec : UInt64) :
    SendsAlike ClientEffect.packet fun w : SendOracle × UInt64 =>
      inst.sendGoalWithResult R w.1 w.2 pdu g timeoutUsec := by
  intro w w'
  simp only [sendGoalWithResult]
  split
  · rfl
  · exact ActionClientEndpointImpl.sendGoalWithResult_sendsAlike pdu g
      timeoutUsec w w'

theorem sendCancel_sendsAlike (goal : ClientGoalHandle) :
    SendsAlike ClientEffect.packet fun net => inst.sendCancel R net goal := by
  intro net net'
  simp only [sendCancel]
  split
  · rfl
  · split
    · rfl
    · split
      · rfl
      · exact ActionClientEndpointImpl.sendCancel_sendsAlike goal net net'

end ClientActionInstance

namespace ActionServicesClient

variable {R : PduRegistry} {s : ActionServicesClient}

theorem clientPackets_call (name : String) {last : ClientObs}
    (hlast : ∀ e, last ≠ .effect e) (effects : List ClientEffect) :
    clientPackets ((effects.map ClientObs.effect ++ [last]).map
        (Prod.mk name)) =
      effects.filterMap ClientEffect.packet := by
  cases last with
  | effect e => exact absurd rfl (hlast e)
  | event event =>
      simp [clientPackets, List.filterMap_append, List.filterMap_map,
        Function.comp_def]
  | sentGoal g timeoutUsec result handle =>
      simp [clientPackets, List.filterMap_append, List.filterMap_map,
        Function.comp_def]
  | sentCancel goal result =>
      simp [clientPackets, List.filterMap_append, List.filterMap_map,
        Function.comp_def]

/-- What the operations of the services hand to the transport. -/
theorem sendGoalWithResult_packets (s : ActionServicesClient) {name : String}
    {pdu : PduData} {g : GoalId} {timeoutUsec : UInt64}
    (w w' : SendOracle × UInt64) :
    clientPackets
        (s.sendGoalWithResult R w.1 w.2 name pdu g timeoutUsec).effects =
      clientPackets
        (s.sendGoalWithResult R w'.1 w'.2 name pdu g timeoutUsec).effects := by
  unfold sendGoalWithResult
  split
  · rfl
  · split
    · rfl
    · next inst hget =>
        simp only [stepAction, hget, clientInstanceMachine]
        split_ifs
        · rw [clientPackets_call name (by simp),
            clientPackets_call name (by simp)]
          exact ClientActionInstance.sendGoalWithResult_sendsAlike pdu g
            timeoutUsec w w'
        · rfl

theorem sendCancel_packets (s : ActionServicesClient) {name : String}
    {goal : ClientGoalHandle} (net net' : SendOracle) :
    clientPackets (s.sendCancel R net name goal).effects =
      clientPackets (s.sendCancel R net' name goal).effects := by
  unfold sendCancel
  split
  · rfl
  · split
    · rfl
    · next inst hget =>
        simp only [stepAction, hget, clientInstanceMachine]
        split_ifs
        · rw [clientPackets_call name (by simp),
            clientPackets_call name (by simp)]
          exact ClientActionInstance.sendCancel_sendsAlike goal net net'
        · rfl

/-- A step that leaves an Action as it was leaves the services as they were. -/
theorem stepAction_eq_self {name : String} {inst : ClientActionInstance}
    {i : ClientInstanceInput} (hget : s.getAction name = some inst)
    (hsame : ((clientInstanceMachine R).step inst i).1 = inst) :
    (s.stepAction R name i).1 = s := by
  simp only [stepAction, hget, hsame]
  rw [modifyFirst_eq_self hget]

theorem sendGoalWithResult_leavesNoTrace (hinv : s.Invariant)
    (net : SendOracle) {now : UInt64} {name : String} {pdu : PduData}
    {g : GoalId} {timeoutUsec : UInt64}
    (hfailed : (s.sendGoalWithResult R net now name pdu g timeoutUsec).result ≠
      .success) :
    LeavesNoTrace clientPackets
      (fun (w : SendOracle × UInt64) s =>
        s.sendGoalWithResult R w.1 w.2 name pdu g timeoutUsec)
      (net, now) s := by
  refine LeavesNoTrace.intro ?_
    fun w' => sendGoalWithResult_packets s w' (net, now)
  dsimp only
  unfold sendGoalWithResult at hfailed ⊢
  split_ifs at hfailed ⊢ with hvalid
  · rfl
  · cases hget : s.getAction name with
    | none => rfl
    | some inst =>
        simp only [hget] at hfailed
        refine stepAction_eq_self hget ?_
        simp only [clientInstanceMachine]
        split_ifs
        · obtain ⟨-, hsame, -⟩ | ⟨_, _, _, hsuccess, -⟩ :=
            ClientActionInstance.sendGoalWithResult_cases
              (hinv.actions inst (lookup_mem hget)) (R := R) rfl
          · exact hsame
          · exact absurd hsuccess hfailed
        · rfl

theorem sendCancel_leavesNoTrace (hinv : s.Invariant) (net : SendOracle)
    {name : String} {goal : ClientGoalHandle}
    (hfailed : (s.sendCancel R net name goal).result = false) :
    LeavesNoTrace clientPackets
      (fun net s => s.sendCancel R net name goal) net s := by
  refine LeavesNoTrace.intro ?_ fun net' => sendCancel_packets s net' net
  unfold sendCancel at hfailed ⊢
  split_ifs at hfailed ⊢ with hvalid
  · rfl
  · cases hget : s.getAction name with
    | none => rfl
    | some inst =>
        simp only [hget] at hfailed
        refine stepAction_eq_self hget ?_
        simp only [clientInstanceMachine]
        split_ifs
        · obtain ⟨-, hsame, -⟩ | ⟨_, _, _, hsuccess, -⟩ :=
            ClientActionInstance.sendCancel_cases
              (hinv.actions inst (lookup_mem hget)) (R := R) rfl
          · exact hsame
          · rw [hsuccess] at hfailed
            exact absurd hfailed (by simp)
        · rfl

end ActionServicesClient

/-- In every reachable state of the services, an operation that reports failure
leaves no trace: `accept_goal`, `reject_goal`, `accept_cancel`, `reject_cancel`
and `send_feedback` of the server, `send_goal_with_result` and `send_cancel` of
the client. -/
theorem failed_operations_leave_no_trace (R : PduRegistry)
    (nodeId implType : String) (endpointExists : String → Bool) (root : Json) :
    (∀ is net name c,
      let s := (serverMachine R).run
        (startedServer R nodeId implType endpointExists root) is
      c.retryable = true → (s.call R net name c).result = false →
        LeavesNoTrace serverPackets (fun net s => s.call R net name c) net s) ∧
    (∀ is net now name pdu g timeoutUsec,
      let s := (clientMachine R).run
        (startedClient R nodeId implType endpointExists root) is
      (s.sendGoalWithResult R net now name pdu g timeoutUsec).result ≠
          .success →
        LeavesNoTrace clientPackets
          (fun (w : SendOracle × UInt64) s =>
            s.sendGoalWithResult R w.1 w.2 name pdu g timeoutUsec)
          (net, now) s) ∧
    ∀ is net name goal,
      let s := (clientMachine R).run
        (startedClient R nodeId implType endpointExists root) is
      (s.sendCancel R net name goal).result = false →
        LeavesNoTrace clientPackets
          (fun net s => s.sendCancel R net name goal) net s := by
  refine ⟨?_, ?_, ?_⟩
  · intro is net name c s hc hfailed
    apply ActionServicesServer.call_leavesNoTrace _ net hc hfailed
    exact ActionServicesServer.invariant_run nodeId implType endpointExists
      root is
  · intro is net now name pdu g timeoutUsec s hfailed
    apply ActionServicesClient.sendGoalWithResult_leavesNoTrace _ net hfailed
    exact ActionServicesClient.invariant_run nodeId implType endpointExists
      root is
  · intro is net name goal s hfailed
    apply ActionServicesClient.sendCancel_leavesNoTrace _ net hfailed
    exact ActionServicesClient.invariant_run nodeId implType endpointExists
      root is

/-- The second Feedback of a Goal is refused by the transport and sent again:
the second try carries the number 1. -/
theorem refusedFeedback_sent_again :
    let s := (serverMachine sampleRegistry).run sampleServer
      (canceledGoal.take 4)
    let feedback : ServerCall := .sendFeedback ⟨sampleGoalId⟩ samplePacket
    let refuse : SendOracle := fun _ _ => false
    let accept : SendOracle := fun _ _ => true
    let routing := (sampleServer.actions.head
      sampleServer_actions_ne_nil).endpoint.slotRouting
    let refused := s.call sampleRegistry refuse "fibonacci" feedback
    let again := refused.state.call sampleRegistry accept "fibonacci" feedback
    refused.result = false ∧ again.result = true ∧
    (serverPackets again.effects).filterMap
        (fun p => (decodePacket sampleRegistry routing p.1 p.2).map (·.notice)) =
      [.feedback 1] ∧
    LeavesNoTrace serverPackets
      (fun net s => s.call sampleRegistry net "fibonacci" feedback) refuse s :=
  ⟨by decide +kernel, by decide +kernel, by decide +kernel,
    (failed_operations_leave_no_trace sampleRegistry "fibonacci-server"
      "ActionServerEndpointImpl" (fun _ => true)
      (fibonacciConfiguration 1)).1 (canceledGoal.take 4) (fun _ _ => false)
      "fibonacci" (.sendFeedback ⟨sampleGoalId⟩ samplePacket) rfl
      (by decide +kernel)⟩

end HakoPduRpc.Action
