import HakoPduRpc.Action.ServerEndpoint
import HakoPduRpc.Lib.Fleet

/-!
# The server services

`ActionServicesServer`: one endpoint and one list of accepted Goals for each
Action, and the queue of Runtime Cancel events.  The operations on one Action
are in the namespace `ServerActionInstance`; the services look the Action up
and apply them.

Both levels are machines.  `ServerInput` lists everything that can happen to
the services, `InstanceInput` everything that can happen to one Action, and
`ActionServicesServer.projection` says that a run of the services is, for each
Action, a run of that Action.
-/

namespace HakoPduRpc.Action

open KeyedList

/-- `ActionServicesServer::GoalInstance`. -/
structure ServerGoalInstance where
  goal : ServerGoalHandle
  context : ServerGoalContext := {}
deriving DecidableEq

/-- `ActionServicesServer::ActionInstance`. -/
structure ServerActionInstance where
  actionName : String
  endpoint : ActionServerEndpointImpl
  goals : List ServerGoalInstance := []

/-- The calls of the application that name a Goal. -/
inductive ServerCall
  | acceptGoal (goal : ServerGoalHandle)
  | rejectGoal (goal : ServerGoalHandle)
  | discardPendingGoal (goal : ServerGoalHandle)
  | acceptCancel (goal : ServerGoalHandle)
  | rejectCancel (goal : ServerGoalHandle)
  | sendFeedback (goal : ServerGoalHandle) (feedbackPdu : PduData)
  | complete (goal : ServerGoalHandle) (status : TerminalStatus)
      (resultPdu : PduData)
  | completeLocally (goal : ServerGoalHandle) (status : TerminalStatus)
      (resultPdu : PduData)
deriving DecidableEq

/-- The argument checks before the Action is looked up. -/
def ServerCall.argumentsValid : ServerCall → Bool
  | .acceptGoal goal => goal.valid
  | .rejectGoal goal => goal.valid
  | .discardPendingGoal goal => goal.valid
  | .acceptCancel goal => goal.valid
  | .rejectCancel goal => goal.valid
  | .sendFeedback goal feedbackPdu => goal.valid && !feedbackPdu.isEmpty
  | .complete goal _ resultPdu => goal.valid && !resultPdu.isEmpty
  | .completeLocally goal _ resultPdu => goal.valid && !resultPdu.isEmpty

/-- The Goal that a call names. -/
def ServerCall.goal : ServerCall → ServerGoalHandle
  | .acceptGoal goal => goal
  | .rejectGoal goal => goal
  | .discardPendingGoal goal => goal
  | .acceptCancel goal => goal
  | .rejectCancel goal => goal
  | .sendFeedback goal _ => goal
  | .complete goal _ _ => goal
  | .completeLocally goal _ _ => goal

/-- What can be seen of one Action: an event handed to the application (with
the slot of the packet that caused it), a call with its result, or an effect. -/
inductive ServerObs
  | event (slot : Option ℕ) (event : ServerEvent)
  | returned (call : ServerCall) (result : Bool)
  | effect (effect : ServerEffect)
deriving DecidableEq

namespace ServerActionInstance

variable (R : PduRegistry) (net : SendOracle) (inst : ServerActionInstance)

/-- `get_goal_locked`. -/
def getGoal (goalId : GoalId) : Option ServerGoalInstance :=
  lookup (·.goal.goalId) goalId inst.goals

/-- `has_goal_locked`. -/
def hasGoal (goalId : GoalId) : Bool := (inst.getGoal goalId).isSome

/-- `remove_goal_locked`. -/
def removeGoal (goalId : GoalId) : ServerActionInstance :=
  { inst with goals := removeFirst (·.goal.goalId) goalId inst.goals }

/-- `goal_instance->context = …`. -/
def setContext (goalId : GoalId) (context : ServerGoalContext) :
    ServerActionInstance :=
  { inst with
    goals := modifyFirst (·.goal.goalId) goalId
      (fun goal => { goal with context := context }) inst.goals }

/-- The instance with another state of its endpoint. -/
def withEndpoint (endpoint : ActionServerEndpointImpl) :
    ServerActionInstance :=
  { inst with endpoint := endpoint }

/-! ## Application calls -/

/-- `discard_pending_goal`. -/
def discardPendingGoal (goal : ServerGoalHandle) :
    Outcome ServerActionInstance ServerEffect Bool :=
  if inst.hasGoal goal.goalId then { state := inst, result := false }
  else (inst.endpoint.discardPendingGoal goal).embed inst.withEndpoint

/-- `accept_goal`: the Goal is staged before the send and taken back when the
send fails. -/
def acceptGoal (goal : ServerGoalHandle) :
    Outcome ServerActionInstance ServerEffect Bool :=
  if inst.hasGoal goal.goalId then { state := inst, result := false }
  else
    let staged := inst.goals ++ [{ goal := goal }]
    let sent := inst.endpoint.acceptGoal R net goal
    { state :=
        { inst with
          endpoint := sent.state
          goals := if sent.result then staged else staged.dropLast }
      result := sent.result
      effects := sent.effects }

/-- `reject_goal`. -/
def rejectGoal (goal : ServerGoalHandle) :
    Outcome ServerActionInstance ServerEffect Bool :=
  if inst.hasGoal goal.goalId then { state := inst, result := false }
  else (inst.endpoint.rejectGoal R net goal).embed inst.withEndpoint

/-- `accept_cancel`. -/
def acceptCancel (goal : ServerGoalHandle) :
    Outcome ServerActionInstance ServerEffect Bool :=
  match inst.getGoal goal.goalId with
  | none => { state := inst, result := false }
  | some goalInstance =>
      let transition := transitionServerGoal goalInstance.context .acceptCancel
      if transition.kind ≠ .transitioned then { state := inst, result := false }
      else
        let committed :=
          if goalInstance.context.cancelOrigin = .client then
            inst.endpoint.acceptCancel R net goal
          else inst.endpoint.acceptCancelLocally goal
        { state :=
            if committed.result then
              (inst.withEndpoint committed.state).setContext goal.goalId
                transition.next
            else inst.withEndpoint committed.state
          result := committed.result
          effects := committed.effects }

/-- `reject_cancel`: a Runtime-origin decision is not told to the endpoint. -/
def rejectCancel (goal : ServerGoalHandle) :
    Outcome ServerActionInstance ServerEffect Bool :=
  match inst.getGoal goal.goalId with
  | none => { state := inst, result := false }
  | some goalInstance =>
      let transition := transitionServerGoal goalInstance.context .rejectCancel
      if transition.kind ≠ .transitioned then { state := inst, result := false }
      else if goalInstance.context.cancelOrigin = .client then
        let sent := inst.endpoint.rejectCancel R net goal
        { state :=
            if sent.result then
              (inst.withEndpoint sent.state).setContext goal.goalId
                transition.next
            else inst.withEndpoint sent.state
          result := sent.result
          effects := sent.effects }
      else
        { state := inst.setContext goal.goalId transition.next
          result := true }

/-- `send_feedback`. -/
def sendFeedback (goal : ServerGoalHandle) (feedbackPdu : PduData) :
    Outcome ServerActionInstance ServerEffect Bool :=
  match inst.getGoal goal.goalId with
  | none => { state := inst, result := false }
  | some goalInstance =>
      let transition :=
        transitionServerGoal goalInstance.context .publishFeedback
      if transition.kind ≠ .nop then { state := inst, result := false }
      else
        (inst.endpoint.sendFeedback R net goal feedbackPdu).embed
          inst.withEndpoint

/-- `complete_goal_locked`. -/
def completeGoal (goalInstance : ServerGoalInstance) (status : TerminalStatus)
    (resultPdu : PduData) (localOnly : Bool) :
    Outcome ServerActionInstance ServerEffect Bool :=
  let transition :=
    transitionServerGoal goalInstance.context (completionEvent status)
  if transition.kind ≠ .transitioned then { state := inst, result := false }
  else if localOnly then
    let done :=
      inst.endpoint.completeLocally R goalInstance.goal status resultPdu
    { state :=
        if done.result then
          (inst.withEndpoint done.state).removeGoal goalInstance.goal.goalId
        else inst.withEndpoint done.state
      result := done.result
      effects := done.effects }
  else
    let done := inst.endpoint.complete R net goalInstance.goal status resultPdu
    { state :=
        match done.result with
        | .notCommitted => inst.withEndpoint done.state
        | .sent =>
            (inst.withEndpoint done.state).removeGoal goalInstance.goal.goalId
        | .sendFailedAfterCommit =>
            (inst.withEndpoint done.state).setContext goalInstance.goal.goalId
              transition.next
      result := done.result = .sent
      effects := done.effects }

/-- `complete` and `complete_locally`. -/
def complete (goal : ServerGoalHandle) (status : TerminalStatus)
    (resultPdu : PduData) (localOnly : Bool) :
    Outcome ServerActionInstance ServerEffect Bool :=
  match inst.getGoal goal.goalId with
  | none => { state := inst, result := false }
  | some goalInstance =>
      inst.completeGoal R net goalInstance status resultPdu localOnly

/-- One call of the application, after its argument checks. -/
def call : ServerCall → Outcome ServerActionInstance ServerEffect Bool
  | .acceptGoal goal => inst.acceptGoal R net goal
  | .rejectGoal goal => inst.rejectGoal R net goal
  | .discardPendingGoal goal => inst.discardPendingGoal goal
  | .acceptCancel goal => inst.acceptCancel R net goal
  | .rejectCancel goal => inst.rejectCancel R net goal
  | .sendFeedback goal feedbackPdu => inst.sendFeedback R net goal feedbackPdu
  | .complete goal status resultPdu =>
      inst.complete R net goal status resultPdu false
  | .completeLocally goal status resultPdu =>
      inst.complete R net goal status resultPdu true

/-! ## Events -/

/-- `handle_cancel_event_locked`; `none` is `ServerEventType::NONE`. -/
def handleCancelEvent (eventType : ServerEventType) (event : ServerEvent) :
    ServerActionInstance × Option ServerEvent :=
  match inst.getGoal event.goal.goalId with
  | none => (inst, some { event with type := .error })
  | some goalInstance =>
      let transition := transitionServerGoal goalInstance.context
        (if eventType = .cancelRequest then .cancelRequestReceived
          else .runtimeCancelRequested)
      match transition.kind with
      | .error => (inst, some { event with type := .error })
      | .nop => (inst, none)
      | .transitioned =>
          (inst.setContext event.goal.goalId transition.next, some event)

/-- The body of the endpoint loop of `poll()`. -/
def pollEndpoint :
    Outcome ServerActionInstance ServerEffect (Option ServerEvent) :=
  let polled := inst.endpoint.poll R net
  let inst := inst.withEndpoint polled.state
  match polled.result with
  | none => { state := inst, result := none, effects := polled.effects }
  | some event =>
      let event := { event with actionName := inst.actionName }
      match event.type with
      | .none => { state := inst, result := none, effects := polled.effects }
      | .goalRequest | .error =>
          { state := inst, result := some event, effects := polled.effects }
      | .cancelRequest | .runtimeCancelRequest =>
          let handled := inst.handleCancelEvent event.type event
          { state := handled.1
            result := handled.2
            effects := polled.effects }

/-- The slot of the packet that the next `poll()` takes from the queue. -/
def headSlot : Option ℕ :=
  inst.endpoint.pendingPackets.head?.map (·.slotIndex)

end ServerActionInstance

/-- What is seen of one iteration of the endpoint loop. -/
def ServerActionInstance.pollObs (R : PduRegistry) (net : SendOracle)
    (inst : ServerActionInstance) : List ServerObs :=
  (inst.pollEndpoint R net).effects.map .effect ++
    (inst.pollEndpoint R net).result.toList.map (.event inst.headSlot)

/-! ## One Action as a machine -/

/-- What can happen to one Action of the services. -/
inductive InstanceInput
  | receive (key : PduResolvedKey) (data : PduData)
  | poll (net : SendOracle)
  | runtimeCancel (event : ServerEvent)
  | call (net : SendOracle) (call : ServerCall)
  | stop
  | clear

/-- One Action of the services as a machine. -/
def instanceMachine (R : PduRegistry) :
    Machine ServerActionInstance InstanceInput ServerObs where
  step inst
    | .receive key data =>
        (inst.withEndpoint (inst.endpoint.receive key data), [])
    | .poll net => ((inst.pollEndpoint R net).state, inst.pollObs R net)
    | .runtimeCancel event =>
        let handled := inst.handleCancelEvent .runtimeCancelRequest event
        (handled.1, handled.2.toList.map (.event none))
    | .call net call =>
        if call.argumentsValid then
          let done := inst.call R net call
          (done.state, done.effects.map .effect ++ [.returned call done.result])
        else (inst, [.returned call false])
    | .stop => (inst.withEndpoint inst.endpoint.clearPendingEvents, [])
    | .clear =>
        ({ inst with
            endpoint := inst.endpoint.resetContexts
            goals := [] }, [])

/-! ## The services -/

/-- The state of `ActionServicesServer`. -/
structure ActionServicesServer where
  nodeId : String
  implType : String
  actions : List ServerActionInstance := []
  pendingRuntimeEvents : List ServerEvent := []

namespace ActionServicesServer

variable (R : PduRegistry) (net : SendOracle) (s : ActionServicesServer)

/-- `get_action_locked`. -/
def getAction (actionName : String) : Option ServerActionInstance :=
  lookup (·.actionName) actionName s.actions

/-- The loop of `initialize_services_impl` over the configured Actions;
`endpointExists` says for which endpoint ids a PDU endpoint is found. -/
def initializeActions (endpointExists : String → Bool) :
    List (ActionDefinition × Json) → Option (List ServerActionInstance)
  | [] => some []
  | (definition, entry) :: rest =>
      if definition.serverEndpoint.nodeId ≠ s.nodeId then
        initializeActions endpointExists rest
      else if ¬endpointExists definition.serverEndpoint.lookupId then none
      else if s.implType ≠ "ActionServerEndpointImpl" then none
      else
        match ActionServerEndpointImpl.initializeEndpoint R
            { actionName := definition.name } entry with
        | none => none
        | some endpoint =>
            match initializeActions endpointExists rest with
            | none => none
            | some actions =>
                some ({ actionName := definition.name, endpoint := endpoint }
                  :: actions)

/-- `initialize_services`; on failure the services stay as they are. -/
def initializeServices (endpointExists : String → Bool) (root : Json) :
    Outcome ActionServicesServer (String × ServerObs) Bool :=
  match parse root with
  | .error _ => { state := s, result := false }
  | .ok definitions =>
      if ¬s.actions.isEmpty then { state := s, result := false }
      else
        match root.find "actions" with
        | some (.array entries) =>
            match initializeActions R s endpointExists
                (definitions.zip entries) with
            | none => { state := s, result := false }
            | some actions =>
                { state := { s with actions := actions }, result := true }
        | _ => { state := s, result := false }

/-- `stop_all_services`. -/
def stopAllServices : ActionServicesServer :=
  { s with
    pendingRuntimeEvents := []
    actions := s.actions.map fun inst =>
      inst.withEndpoint inst.endpoint.clearPendingEvents }

/-- `clear_all_instances`. -/
def clearAllInstances : ActionServicesServer :=
  { s with
    pendingRuntimeEvents := []
    actions := s.actions.map fun inst =>
      { inst with endpoint := inst.endpoint.resetContexts, goals := [] } }

/-- The body of the inner loop of `notify_transport_disconnected`. -/
def notifyGoal (actionName : String) (pending : List ServerEvent)
    (goal : ServerGoalInstance) : List ServerEvent :=
  if pending.any fun event =>
      event.type = .runtimeCancelRequest ∧ event.actionName = actionName ∧
        event.goal.goalId = goal.goal.goalId then pending
  else
    pending ++
      [{ type := .runtimeCancelRequest
         actionName := actionName
         goal := goal.goal
         runtimeCancelCause := .transportDisconnected }]

/-- `notify_transport_disconnected`. -/
def notifyTransportDisconnected : ActionServicesServer :=
  { s with
    pendingRuntimeEvents := s.actions.foldl
      (fun pending inst => inst.goals.foldl (notifyGoal inst.actionName) pending)
      s.pendingRuntimeEvents }

/-- The receive callbacks of all endpoints. -/
def receive (key : PduResolvedKey) (data : PduData) : ActionServicesServer :=
  { s with
    actions := s.actions.map fun inst =>
      inst.withEndpoint (inst.endpoint.receive key data) }

/-- The Runtime Cancel loop of `poll()`: events are taken from the queue until
one of them is reported. -/
def pollRuntimeEvents (actions : List ServerActionInstance) :
    List ServerEvent →
      Outcome (List ServerActionInstance × List ServerEvent)
        (String × ServerObs) (Option (String × ServerEvent))
  | [] => { state := (actions, []), result := none }
  | event :: rest =>
      match lookup (·.actionName) event.actionName actions with
      | none => pollRuntimeEvents actions rest
      | some inst =>
          match inst.handleCancelEvent .runtimeCancelRequest event with
          | (_, none) => pollRuntimeEvents actions rest
          | (handled, some reported) =>
              { state :=
                  (modifyFirst (·.actionName) event.actionName
                    (fun _ => handled) actions, rest)
                result := some (inst.actionName, reported)
                effects := [(inst.actionName, .event none reported)] }

/-- The endpoint loop of `poll()`: the Actions are polled in order until one of
them reports an event. -/
def pollActions :
    List ServerActionInstance →
      Outcome (List ServerActionInstance) (String × ServerObs)
        (Option (String × ServerEvent))
  | [] => { state := [], result := none }
  | inst :: rest =>
      let polled := inst.pollEndpoint R net
      let seen := (inst.pollObs R net).map (Prod.mk inst.actionName)
      match polled.result with
      | some event =>
          { state := polled.state :: rest
            result := some (inst.actionName, event)
            effects := seen }
      | none =>
          let later := pollActions rest
          { state := polled.state :: later.state
            result := later.result
            effects := seen ++ later.effects }

/-- `poll`. -/
def poll :
    Outcome ActionServicesServer (String × ServerObs)
      (Option (String × ServerEvent)) :=
  let runtime := pollRuntimeEvents s.actions s.pendingRuntimeEvents
  match runtime.result with
  | some reported =>
      { state :=
          { s with
            actions := runtime.state.1
            pendingRuntimeEvents := runtime.state.2 }
        result := some reported
        effects := runtime.effects }
  | none =>
      let polled := pollActions R net s.actions
      { state := { s with actions := polled.state, pendingRuntimeEvents := [] }
        result := polled.result
        effects := polled.effects }

/-- A call of the application: look the Action up and apply the operation. -/
def call (actionName : String) (call : ServerCall) :
    Outcome ActionServicesServer (String × ServerObs) Bool :=
  if actionName = "" then { state := s, result := false }
  else
    match s.getAction actionName with
    | none => { state := s, result := false }
    | some inst =>
        let next := (instanceMachine R).step inst (.call net call)
        { state :=
            { s with
              actions := modifyFirst (·.actionName) actionName
                (fun _ => next.1) s.actions }
          result := call.argumentsValid && (inst.call R net call).result
          effects := next.2.map (Prod.mk actionName) }

end ActionServicesServer

/-- What can happen to the services. -/
inductive ServerInput
  | receive (key : PduResolvedKey) (data : PduData)
  | poll (net : SendOracle)
  | call (net : SendOracle) (actionName : String) (call : ServerCall)
  | stopAllServices
  | clearAllInstances
  | notifyTransportDisconnected

/-- The services as a machine. -/
def serverMachine (R : PduRegistry) :
    Machine ActionServicesServer ServerInput (String × ServerObs) where
  step s
    | .receive key data => (s.receive key data, [])
    | .poll net => ((s.poll R net).state, (s.poll R net).effects)
    | .call net actionName call =>
        ((s.call R net actionName call).state,
          (s.call R net actionName call).effects)
    | .stopAllServices => (s.stopAllServices, [])
    | .clearAllInstances => (s.clearAllInstances, [])
    | .notifyTransportDisconnected => (s.notifyTransportDisconnected, [])

/-- The services after construction and `initialize_services` with a
configuration document; whether it succeeded or not. -/
def startedServer (R : PduRegistry) (nodeId implType : String)
    (endpointExists : String → Bool) (root : Json) : ActionServicesServer :=
  (ActionServicesServer.initializeServices R
    { nodeId := nodeId, implType := implType } endpointExists root).state

/-! ## Runs of the services are runs of their Actions -/

namespace ServerActionInstance

variable {R : PduRegistry} {net : SendOracle} (inst : ServerActionInstance)

@[simp] theorem actionName_withEndpoint (ep : ActionServerEndpointImpl) :
    (inst.withEndpoint ep).actionName = inst.actionName := rfl

@[simp] theorem actionName_setContext (g : GoalId) (c : ServerGoalContext) :
    (inst.setContext g c).actionName = inst.actionName := rfl

@[simp] theorem actionName_removeGoal (g : GoalId) :
    (inst.removeGoal g).actionName = inst.actionName := rfl

@[simp] theorem actionName_call (c : ServerCall) :
    (inst.call R net c).state.actionName = inst.actionName := by
  cases c <;>
    simp only [call, acceptGoal, rejectGoal, discardPendingGoal, acceptCancel,
      rejectCancel, sendFeedback, complete, completeGoal] <;>
    repeat' (first | rfl | split)

@[simp] theorem actionName_handleCancelEvent (t : ServerEventType)
    (e : ServerEvent) :
    (inst.handleCancelEvent t e).1.actionName = inst.actionName := by
  unfold handleCancelEvent
  split
  · rfl
  · dsimp only
    split <;> rfl

@[simp] theorem actionName_pollEndpoint :
    (inst.pollEndpoint R net).state.actionName = inst.actionName := by
  unfold pollEndpoint
  dsimp only
  split
  · rfl
  · split <;> simp

theorem actionName_step (inst : ServerActionInstance) (i : InstanceInput) :
    ((instanceMachine R).step inst i).1.actionName = inst.actionName := by
  cases i with
  | receive key data => rfl
  | poll net => simp [instanceMachine]
  | runtimeCancel event => simp [instanceMachine]
  | call net call =>
      simp only [instanceMachine]
      split_ifs <;> simp
  | stop => rfl
  | clear => rfl

/-- A Runtime Cancel event that is not reported changes nothing. -/
theorem handleCancelEvent_eq_self {t : ServerEventType} {e : ServerEvent}
    (h : (inst.handleCancelEvent t e).2 = none) :
    (inst.handleCancelEvent t e).1 = inst := by
  revert h
  unfold handleCancelEvent
  split
  · simp
  · dsimp only
    split <;> simp

end ServerActionInstance

namespace ActionServicesServer

variable {R : PduRegistry} {net : SendOracle} {name : String}

/-- The inputs that one Action sees of the Runtime Cancel loop. -/
def runtimeInputs (name : String) (actions : List ServerActionInstance) :
    List ServerEvent → List InstanceInput
  | [] => []
  | event :: rest =>
      match lookup (·.actionName) event.actionName actions with
      | none => runtimeInputs name actions rest
      | some inst =>
          let here :=
            if event.actionName = name then [.runtimeCancel event] else []
          match (inst.handleCancelEvent .runtimeCancelRequest event).2 with
          | none => here ++ runtimeInputs name actions rest
          | some _ => here

/-- The Action reports an event when it is polled. -/
def reports (R : PduRegistry) (net : SendOracle)
    (inst : ServerActionInstance) : Bool :=
  (inst.pollEndpoint R net).result.isSome

/-- The inputs that one Action sees of the endpoint loop: it is polled when no
Action before it reported an event. -/
def pollInputs (R : PduRegistry) (net : SendOracle) (name : String)
    (actions : List ServerActionInstance) : List InstanceInput :=
  Fleet.scanInputs (·.actionName) (fun _ => .poll net) (reports R net) name
    actions

/-- The inputs that one Action sees of a step of the services. -/
def instanceInputs (R : PduRegistry) (name : String)
    (s : ActionServicesServer) : ServerInput → List InstanceInput
  | .receive key data => [.receive key data]
  | .poll net =>
      runtimeInputs name s.actions s.pendingRuntimeEvents ++
        if (pollRuntimeEvents s.actions s.pendingRuntimeEvents).result.isSome
        then [] else pollInputs R net name s.actions
  | .call net actionName call =>
      if actionName = name ∧ actionName ≠ "" then [.call net call] else []
  | .stopAllServices => [.stop]
  | .clearAllInstances => [.clear]
  | .notifyTransportDisconnected => []

/-- The endpoint loop polls the Actions in order until one of them reports. -/
theorem pollActions_eq_scan (net : SendOracle)
    (actions : List ServerActionInstance) :
    ((pollActions R net actions).state, (pollActions R net actions).effects) =
      Fleet.scan (·.actionName) (instanceMachine R) (fun _ => .poll net)
        (reports R net) actions := by
  induction actions with
  | nil => rfl
  | cons inst rest ih =>
      rw [Fleet.scan, ← ih, pollActions]
      dsimp only [reports]
      split
      · next hevent => simp [hevent, instanceMachine]
      · next hevent => simp [hevent, instanceMachine]

theorem map_actionName_pollActions (actions : List ServerActionInstance) :
    (pollActions R net actions).state.map (·.actionName) =
      actions.map (·.actionName) := by
  have hscan := congrArg Prod.fst (pollActions_eq_scan (R := R) net actions)
  dsimp only at hscan
  rw [hscan]
  exact Fleet.map_key_scan ServerActionInstance.actionName_step actions

/-- The endpoint loop, seen from one Action. -/
theorem pollActions_project (net : SendOracle)
    {actions : List ServerActionInstance}
    (hnodup : (actions.map (·.actionName)).Nodup)
    {inst : ServerActionInstance}
    (hinst : lookup (·.actionName) name actions = some inst) :
    lookup (·.actionName) name (pollActions R net actions).state =
        some ((instanceMachine R).run inst (pollInputs R net name actions)) ∧
      (pollActions R net actions).effects.flatMap (Fleet.observe name) =
        (instanceMachine R).trace inst (pollInputs R net name actions) := by
  have hscan := pollActions_eq_scan (R := R) net actions
  have hproject := Fleet.scan_project (M := instanceMachine R)
    ServerActionInstance.actionName_step (fun _ => .poll net) (reports R net)
    hnodup hinst
  rw [← hscan] at hproject
  exact hproject

/-- The Runtime Cancel loop, one event at a time. -/
theorem pollRuntimeEvents_cons (actions : List ServerActionInstance)
    (event : ServerEvent) (rest : List ServerEvent) :
    pollRuntimeEvents actions (event :: rest) =
      match lookup (·.actionName) event.actionName actions with
      | none => pollRuntimeEvents actions rest
      | some inst =>
          match (inst.handleCancelEvent .runtimeCancelRequest event).2 with
          | none => pollRuntimeEvents actions rest
          | some reported =>
              { state :=
                  (modifyFirst (·.actionName) event.actionName
                    (fun _ =>
                      (inst.handleCancelEvent .runtimeCancelRequest event).1)
                    actions, rest)
                result := some (inst.actionName, reported)
                effects := [(inst.actionName, .event none reported)] } := by
  rw [pollRuntimeEvents]
  split
  · rfl
  · next inst _ =>
      generalize inst.handleCancelEvent .runtimeCancelRequest event = handled
      obtain ⟨handled, _ | reported⟩ := handled <;> rfl

theorem map_actionName_pollRuntimeEvents
    (actions : List ServerActionInstance) (events : List ServerEvent) :
    (pollRuntimeEvents actions events).state.1.map (·.actionName) =
      actions.map (·.actionName) := by
  induction events with
  | nil => rfl
  | cons event rest ih =>
      rw [pollRuntimeEvents_cons]
      split
      · exact ih
      · next inst hinst =>
          split
          · exact ih
          · refine map_key_modifyFirst (fun _ _ => ?_) actions
            rw [ServerActionInstance.actionName_handleCancelEvent]
            exact lookup_key hinst

/-- Without a reported event the Runtime Cancel loop changes no Action. -/
theorem pollRuntimeEvents_of_none {actions : List ServerActionInstance}
    {events : List ServerEvent}
    (h : (pollRuntimeEvents actions events).result = none) :
    (pollRuntimeEvents actions events).state.1 = actions ∧
      (pollRuntimeEvents actions events).effects = [] := by
  induction events with
  | nil => exact ⟨rfl, rfl⟩
  | cons event rest ih =>
      rw [pollRuntimeEvents_cons] at h ⊢
      cases hinst : lookup (·.actionName) event.actionName actions with
      | none =>
          simp only [hinst] at h ⊢
          exact ih h
      | some inst =>
          simp only [hinst] at h ⊢
          cases hhandled :
              (inst.handleCancelEvent .runtimeCancelRequest event).2 with
          | none =>
              simp only [hhandled] at h ⊢
              exact ih h
          | some reported => simp [hhandled] at h

/-- The Runtime Cancel loop, seen from one Action. -/
theorem pollRuntimeEvents_project {actions : List ServerActionInstance}
    {inst : ServerActionInstance}
    (hinst : lookup (·.actionName) name actions = some inst)
    (events : List ServerEvent) :
    lookup (·.actionName) name (pollRuntimeEvents actions events).state.1 =
        some ((instanceMachine R).run inst
          (runtimeInputs name actions events)) ∧
      (pollRuntimeEvents actions events).effects.flatMap
          (Fleet.observe name) =
        (instanceMachine R).trace inst (runtimeInputs name actions events) := by
  induction events with
  | nil => simpa [pollRuntimeEvents, runtimeInputs] using hinst
  | cons event rest ih =>
      rw [pollRuntimeEvents_cons, runtimeInputs]
      cases hfound : lookup (·.actionName) event.actionName actions with
      | none => exact ih
      | some found =>
          have hkey : found.actionName = event.actionName := lookup_key hfound
          have hself := found.handleCancelEvent_eq_self
            (t := .runtimeCancelRequest) (e := event)
          dsimp only
          by_cases hname : event.actionName = name
          · obtain rfl : found = inst := by
              rw [hname, hinst] at hfound
              exact (Option.some.inj hfound).symm
            cases hhandled :
                (found.handleCancelEvent .runtimeCancelRequest event).2 with
            | none =>
                simpa [hname, instanceMachine, hhandled, hself hhandled]
                  using ih
            | some reported =>
                simp [hname, instanceMachine, hhandled, Fleet.observe, hkey,
                  lookup_modifyFirst, hinst]
          · cases hhandled :
                (found.handleCancelEvent .runtimeCancelRequest event).2 with
            | none => simpa [hname] using ih
            | some reported =>
                simp [hname, Fleet.observe, hkey, lookup_modifyFirst, hinst,
                  Ne.symm hname]

theorem map_actionName_step (s : ActionServicesServer) (i : ServerInput) :
    ((serverMachine R).step s i).1.actions.map (·.actionName) =
      s.actions.map (·.actionName) := by
  cases i with
  | receive key data => simp [serverMachine, receive]
  | poll net =>
      simp only [serverMachine, poll]
      split
      · exact map_actionName_pollRuntimeEvents _ _
      · exact map_actionName_pollActions _
  | call net actionName call =>
      simp only [serverMachine, ActionServicesServer.call]
      split_ifs
      · rfl
      · split
        · rfl
        · next inst hinst =>
            refine map_key_modifyFirst (fun _ _ => ?_) s.actions
            rw [ServerActionInstance.actionName_step]
            exact lookup_key hinst
  | stopAllServices => simp [serverMachine, stopAllServices]
  | clearAllInstances => simp [serverMachine, clearAllInstances]
  | notifyTransportDisconnected => rfl

/-- The Action of a name. -/
def viewAction (name : String) (s : ActionServicesServer) :
    ServerActionInstance :=
  (s.getAction name).getD
    { actionName := name, endpoint := { actionName := name } }

/-- A step of the services, seen from one Action. -/
theorem step_project {s : ActionServicesServer}
    (hnodup : (s.actions.map (·.actionName)).Nodup)
    {inst : ServerActionInstance} (hinst : s.getAction name = some inst)
    (i : ServerInput) :
    ((serverMachine R).step s i).1.getAction name =
        some ((instanceMachine R).run inst (instanceInputs R name s i)) ∧
      ((serverMachine R).step s i).2.flatMap (Fleet.observe name) =
        (instanceMachine R).trace inst (instanceInputs R name s i) := by
  unfold getAction at hinst ⊢
  cases i with
  | receive key data =>
      simp only [serverMachine, receive, instanceInputs]
      rw [lookup_map, hinst]
      · simp [instanceMachine]
      · intro inst
        rfl
  | poll net =>
      have hruntime := pollRuntimeEvents_project (R := R) hinst
        s.pendingRuntimeEvents
      simp only [serverMachine, poll, instanceInputs]
      cases hreported :
          (pollRuntimeEvents s.actions s.pendingRuntimeEvents).result with
      | some reported => simpa using hruntime
      | none =>
          obtain ⟨hsame, hquiet⟩ := pollRuntimeEvents_of_none hreported
          rw [hsame, hinst, hquiet] at hruntime
          have hrun := (Option.some.inj hruntime.1).symm
          have htrace := hruntime.2.symm
          have hpoll := pollActions_project (R := R) net hnodup hinst
          simp only [Option.isSome_none, Bool.false_eq_true, if_false,
            Machine.run_append, Machine.trace_append, hrun, htrace]
          exact hpoll
  | call net actionName call =>
      simp only [serverMachine, ActionServicesServer.call, instanceInputs]
      by_cases hempty : actionName = ""
      · simp [hempty, hinst]
      · by_cases hname : actionName = name
        · subst hname
          simp [getAction, hinst, hempty, lookup_modifyFirst,
            ServerActionInstance.actionName_step, lookup_key hinst,
            Fleet.observe_tagged]
        · simp only [hempty, hname, if_false, false_and]
          split
          · simp [hinst]
          · next other hother =>
              simp [lookup_modifyFirst, ServerActionInstance.actionName_step,
                lookup_key hother, Ne.symm hname, hinst, Fleet.observe_tagged,
                hname]
  | stopAllServices =>
      simp only [serverMachine, stopAllServices, instanceInputs]
      rw [lookup_map, hinst]
      · simp [instanceMachine]
      · intro inst
        rfl
  | clearAllInstances =>
      simp only [serverMachine, clearAllInstances, instanceInputs]
      rw [lookup_map, hinst]
      · simp [instanceMachine]
      · intro inst
        rfl
  | notifyTransportDisconnected =>
      simpa [serverMachine, notifyTransportDisconnected, instanceInputs] using
        hinst

/-- A run of the services is, for every Action, a run of that Action. -/
def projection (R : PduRegistry) (name : String) :
    Machine.Projection (serverMachine R) (instanceMachine R)
      (fun _ _ => True) where
  Good s := (s.actions.map (·.actionName)).Nodup ∧
    ∃ inst, s.getAction name = some inst
  view := viewAction name
  inputs := instanceInputs R name
  observe := Fleet.observe name
  good_step := by
    rintro s i - ⟨hnodup, inst, hinst⟩
    rw [map_actionName_step]
    exact ⟨hnodup, _, (step_project hnodup hinst i).1⟩
  view_step := by
    rintro s i - ⟨hnodup, inst, hinst⟩
    simp [viewAction, (step_project (R := R) hnodup hinst i).1, hinst]
  trace_step := by
    rintro s i - ⟨hnodup, inst, hinst⟩
    simp [viewAction, (step_project (R := R) hnodup hinst i).2, hinst]

/-! ## The started services -/

/-- A fresh Action: its endpoint has a well-formed routing table, no binding
and nothing to report. -/
structure Fresh (inst : ServerActionInstance) : Prop where
  routing : RoutingWellFormed inst.actionName inst.endpoint.slotRouting
  endpoint_eq : inst.endpoint =
    { actionName := inst.actionName
      initialized := true
      slotRouting := inst.endpoint.slotRouting
      slotOwners := List.replicate inst.endpoint.slotRouting.length none }
  goals_eq : inst.goals = []

theorem fresh_of_initializeEndpoint {entry : Json}
    {endpoint : ActionServerEndpointImpl}
    (h : ActionServerEndpointImpl.initializeEndpoint R { actionName := name }
      entry = some endpoint) :
    Fresh { actionName := name, endpoint := endpoint } ∧
      ∃ d, parseAction entry = .ok d ∧
        parseRouting R name d = some endpoint.slotRouting := by
  obtain ⟨d, routing, hd, -, hrouting, -, rfl⟩ :=
    ActionServerEndpointImpl.initializeEndpoint_ok h
  exact ⟨⟨parseRouting_wellFormed hrouting, rfl, rfl⟩, d, hd, hrouting⟩

theorem initializeActions_ok {s : ActionServicesServer}
    {endpointExists : String → Bool} {l : List (ActionDefinition × Json)}
    {actions : List ServerActionInstance}
    (h : initializeActions R s endpointExists l = some actions) :
    (actions.map (·.actionName)).Sublist (l.map (·.1.name)) ∧
      ∀ inst ∈ actions, Fresh inst ∧
        ∃ x ∈ l, x.1.name = inst.actionName ∧
          ∃ d, parseAction x.2 = .ok d ∧
            parseRouting R x.1.name d = some inst.endpoint.slotRouting := by
  induction l generalizing actions with
  | nil =>
      simp only [initializeActions, Option.some.injEq] at h
      simp [← h]
  | cons entry rest ih =>
      obtain ⟨definition, entry⟩ := entry
      simp only [initializeActions] at h
      split_ifs at h with hnode hexists himpl
      · obtain ⟨hsub, hfresh⟩ := ih h
        refine ⟨hsub.cons _, ?_⟩
        intro inst hinst
        obtain ⟨hinit, x, hx, hrest⟩ := hfresh inst hinst
        exact ⟨hinit, x, List.mem_cons_of_mem _ hx, hrest⟩
      · split at h
        · simp at h
        · next endpoint hendpoint =>
            split at h
            · simp at h
            · next later hlater =>
                simp only [Option.some.injEq] at h
                subst h
                obtain ⟨hsub, hfresh⟩ := ih hlater
                refine ⟨by simpa using hsub.cons_cons definition.name, ?_⟩
                intro inst hinst
                rcases List.mem_cons.mp hinst with rfl | hinst
                · obtain ⟨hinit, hrouting⟩ :=
                    fresh_of_initializeEndpoint hendpoint
                  exact ⟨hinit, _, List.mem_cons_self, rfl, hrouting⟩
                · obtain ⟨hinit, x, hx, hrest⟩ := hfresh inst hinst
                  exact ⟨hinit, x, List.mem_cons_of_mem _ hx, hrest⟩

/-- The started services have fresh Actions with pairwise distinct names and
the configured routing tables. -/
theorem startedServer_configured (R : PduRegistry) (nodeId implType : String)
    (endpointExists : String → Bool) (root : Json) :
    ((startedServer R nodeId implType endpointExists root).actions.map
        (·.actionName)).Nodup ∧
      ∀ inst ∈ (startedServer R nodeId implType endpointExists root).actions,
        Fresh inst ∧ configuredRouting R root inst.actionName =
          some inst.endpoint.slotRouting := by
  unfold startedServer initializeServices
  split
  · simp
  · next definitions hparse =>
      obtain ⟨entries, hentries, -⟩ := parse_ok hparse
      simp only [hentries]
      split
      · simp
      · split
        · simp
        · next actions hactions =>
            obtain ⟨hsub, hfresh⟩ := initializeActions_ok hactions
            refine ⟨hsub.nodup (nodup_names_zip hparse hentries), ?_⟩
            intro inst hinst
            obtain ⟨hinit, x, hx, hname, d, hd, hrouting⟩ := hfresh inst hinst
            rw [← hname]
            exact ⟨hinit,
              configuredRouting_of_entry hparse hentries hx hd hrouting⟩

theorem startedServer_ok (R : PduRegistry) (nodeId implType : String)
    (endpointExists : String → Bool) (root : Json) :
    ((startedServer R nodeId implType endpointExists root).actions.map
        (·.actionName)).Nodup ∧
      ∀ inst ∈ (startedServer R nodeId implType endpointExists root).actions,
        Fresh inst := by
  obtain ⟨hnodup, hfresh⟩ :=
    startedServer_configured R nodeId implType endpointExists root
  exact ⟨hnodup, fun inst hinst => (hfresh inst hinst).1⟩

end ActionServicesServer

end HakoPduRpc.Action
