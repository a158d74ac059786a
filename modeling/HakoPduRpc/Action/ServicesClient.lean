import HakoPduRpc.Action.ClientEndpoint
import HakoPduRpc.Action.ClientStateMachine
import HakoPduRpc.Lib.Fleet

/-!
# The client services

`ActionServicesClient`: one endpoint and one list of accepted Goals for each
Action.  The operations on one Action are in the namespace
`ClientActionInstance`; the services look the Action up and apply them.

As on the server side both levels are machines, and a run of the services is,
for each Action, a run of that Action.
-/

namespace HakoPduRpc.Action

open KeyedList

/-- `ActionServicesClient::GoalInstance`. -/
structure ClientGoalInstance where
  goal : ClientGoalHandle
  context : ClientGoalContext := {}
deriving DecidableEq

/-- `ActionServicesClient::ActionInstance`. -/
structure ClientActionInstance where
  actionName : String
  endpoint : ActionClientEndpointImpl
  goals : List ClientGoalInstance := []

/-- What can be seen of one Action: an event handed to the application, a call
with its result, or an effect. -/
inductive ClientObs
  | event (event : ClientEvent)
  | sentGoal (goalId : GoalId) (timeoutUsec : UInt64) (result : GoalSendResult)
      (handle : ClientGoalHandle)
  | sentCancel (goal : ClientGoalHandle) (result : Bool)
  | effect (effect : ClientEffect)
deriving DecidableEq

namespace ClientActionInstance

variable (R : PduRegistry) (net : SendOracle) (inst : ClientActionInstance)

/-- `get_goal_locked`. -/
def getGoal (goalId : GoalId) : Option ClientGoalInstance :=
  lookup (·.goal.goalId) goalId inst.goals

/-- `has_goal_locked`. -/
def hasGoal (goalId : GoalId) : Bool := (inst.getGoal goalId).isSome

/-- `remove_goal_locked`. -/
def removeGoal (goalId : GoalId) : ClientActionInstance :=
  { inst with goals := removeFirst (·.goal.goalId) goalId inst.goals }

/-- `goal_instance->context = …`. -/
def setContext (goalId : GoalId) (context : ClientGoalContext) :
    ClientActionInstance :=
  { inst with
    goals := modifyFirst (·.goal.goalId) goalId
      (fun goal => { goal with context := context }) inst.goals }

/-- The instance with another state of its endpoint. -/
def withEndpoint (endpoint : ActionClientEndpointImpl) :
    ClientActionInstance :=
  { inst with endpoint := endpoint }

/-! ## Application calls -/

/-- `send_goal_with_result`, after its argument checks. -/
def sendGoalWithResult (now : UInt64) (goalPdu : PduData) (goalId : GoalId)
    (timeoutUsec : UInt64) :
    Outcome ClientActionInstance ClientEffect GoalSendResult :=
  if inst.hasGoal goalId then { state := inst, result := .duplicateGoal }
  else
    (inst.endpoint.sendGoalWithResult R net now goalPdu goalId
      timeoutUsec).embed inst.withEndpoint

/-- `send_cancel`, after its argument checks. -/
def sendCancel (goal : ClientGoalHandle) :
    Outcome ClientActionInstance ClientEffect Bool :=
  match inst.getGoal goal.goalId with
  | none => { state := inst, result := false }
  | some goalInstance =>
      let transition := transitionClientGoal goalInstance.context
        { type := .requestCancel }
      if transition.kind = .error then { state := inst, result := false }
      else if transition.kind ≠ .transitioned then
        { state := inst, result := false }
      else
        let sent := inst.endpoint.sendCancel R net goal
        { state :=
            if sent.result then
              (inst.withEndpoint sent.state).setContext goal.goalId
                transition.next
            else inst.withEndpoint sent.state
          result := sent.result
          effects := sent.effects }

/-! ## Events -/

/-- The end of `handle_feedback_locked` and `handle_cancel_response_locked`:
an error is reported, a `NOP` is swallowed, and a transition is stored. -/
def handleTransition (event : ClientEvent) (transition : ClientTransition)
    (transitioned : ClientActionInstance) :
    ClientActionInstance × Option ClientEvent :=
  match transition.kind with
  | .error => (inst, some { event with type := .error })
  | .nop => (inst, none)
  | .transitioned => (transitioned, some event)

/-- `handle_goal_response_locked`. -/
def handleGoalResponse (event : ClientEvent) :
    ClientActionInstance × Option ClientEvent :=
  if ¬event.goal.valid ∨
      (event.decision ≠ .accepted ∧ event.decision ≠ .rejected) then
    (inst, some { event with type := .error })
  else if event.decision = .accepted then
    if inst.hasGoal event.goal.goalId then
      (inst, some { event with type := .error })
    else
      ({ inst with goals := inst.goals ++ [{ goal := event.goal }] },
        some event)
  else (inst, some event)

/-- `handle_feedback_locked`. -/
def handleFeedback (event : ClientEvent) :
    ClientActionInstance × Option ClientEvent :=
  if ¬event.goal.valid then (inst, some { event with type := .error })
  else
    match inst.getGoal event.goal.goalId with
    | none => (inst, some { event with type := .error })
    | some goalInstance =>
        let transition := transitionClientGoal goalInstance.context
          { type := .feedbackReceived
            feedbackSequence := event.feedbackSequence }
        inst.handleTransition event transition
          (inst.setContext event.goal.goalId transition.next)

/-- `handle_cancel_response_locked`. -/
def handleCancelResponse (event : ClientEvent) :
    ClientActionInstance × Option ClientEvent :=
  if ¬event.goal.valid ∨
      (event.decision ≠ .accepted ∧ event.decision ≠ .rejected) then
    (inst, some { event with type := .error })
  else
    match inst.getGoal event.goal.goalId with
    | none => (inst, some { event with type := .error })
    | some goalInstance =>
        let transition := transitionClientGoal goalInstance.context
          { type :=
              if event.decision = .accepted then .cancelResponseAccepted
              else .cancelResponseRejected }
        inst.handleTransition event transition
          (inst.setContext event.goal.goalId transition.next)

/-- `handle_result_locked`. -/
def handleResult (event : ClientEvent) :
    ClientActionInstance × Option ClientEvent :=
  if ¬event.goal.valid then (inst, some { event with type := .error })
  else
    match inst.getGoal event.goal.goalId with
    | none => (inst, some { event with type := .error })
    | some goalInstance =>
        let transition := transitionClientGoal goalInstance.context
          { type := .resultReceived
            terminalStatus := event.terminalStatus }
        inst.handleTransition event transition
          (inst.removeGoal event.goal.goalId)

/-- The body of the loop of `poll()`; `now` is what the time source returns when
the endpoint of the Action is polled. -/
def pollEndpoint (now : UInt64) :
    ClientActionInstance × Option ClientEvent :=
  let polled := inst.endpoint.poll R now
  let inst := inst.withEndpoint polled.1
  match polled.2 with
  | none => (inst, none)
  | some event =>
      let event := { event with actionName := inst.actionName }
      match event.type with
      | .none => (inst, none)
      | .error | .timeout => (inst, some event)
      | .goalResponse => inst.handleGoalResponse event
      | .feedback => inst.handleFeedback event
      | .cancelResponse => inst.handleCancelResponse event
      | .result => inst.handleResult event

end ClientActionInstance

/-! ## One Action as a machine -/

/-- What can happen to one Action of the services. -/
inductive ClientInstanceInput
  | receive (key : PduResolvedKey) (data : PduData)
  | poll (now : UInt64)
  | sendGoal (net : SendOracle) (now : UInt64) (goalPdu : PduData)
      (goalId : GoalId) (timeoutUsec : UInt64)
  | sendCancel (net : SendOracle) (goal : ClientGoalHandle)
  | stop
  | clear

/-- The argument checks of `send_goal_with_result`. -/
def goalArgumentsValid (goalPdu : PduData) (goalId : GoalId) : Bool :=
  ¬goalPdu.isEmpty ∧ isValidGoalId goalId = true

/-- One Action of the services as a machine. -/
def clientInstanceMachine (R : PduRegistry) :
    Machine ClientActionInstance ClientInstanceInput ClientObs where
  step inst
    | .receive key data =>
        (inst.withEndpoint (inst.endpoint.receive key data), [])
    | .poll now =>
        ((inst.pollEndpoint R now).1,
          (inst.pollEndpoint R now).2.toList.map .event)
    | .sendGoal net now goalPdu goalId timeoutUsec =>
        if goalArgumentsValid goalPdu goalId then
          let done :=
            inst.sendGoalWithResult R net now goalPdu goalId timeoutUsec
          (done.state, done.effects.map .effect ++
            [.sentGoal goalId timeoutUsec done.result
              (ActionClientEndpointImpl.goalHandleOut done.result goalId)])
        else
          (inst, [.sentGoal goalId timeoutUsec .invalidArgument
            (ActionClientEndpointImpl.goalHandleOut .invalidArgument goalId)])
    | .sendCancel net goal =>
        if goal.valid then
          let done := inst.sendCancel R net goal
          (done.state,
            done.effects.map .effect ++ [.sentCancel goal done.result])
        else (inst, [.sentCancel goal false])
    | .stop => (inst.withEndpoint inst.endpoint.clearPendingEvents, [])
    | .clear =>
        ({ inst with
            endpoint := inst.endpoint.resetContexts
            goals := [] }, [])

/-! ## The services -/

/-- The state of `ActionServicesClient`. -/
structure ActionServicesClient where
  nodeId : String
  implType : String
  actions : List ClientActionInstance := []

namespace ActionServicesClient

variable (R : PduRegistry) (net : SendOracle) (s : ActionServicesClient)

/-- `get_action_locked`. -/
def getAction (actionName : String) : Option ClientActionInstance :=
  lookup (·.actionName) actionName s.actions

/-- The loop of `initialize_services` over the configured Actions;
`endpointExists` says for which endpoint ids a PDU endpoint is found. -/
def initializeActions (endpointExists : String → Bool) :
    List (ActionDefinition × Json) → Option (List ClientActionInstance)
  | [] => some []
  | (definition, entry) :: rest =>
      if definition.clientEndpoint.nodeId ≠ s.nodeId then
        initializeActions endpointExists rest
      else if ¬endpointExists definition.clientEndpoint.lookupId then none
      else if s.implType ≠ "ActionClientEndpointImpl" then none
      else
        match ActionClientEndpointImpl.initializeEndpoint R
            { actionName := definition.name } entry with
        | none => none
        | some endpoint =>
            match initializeActions endpointExists rest with
            | none => none
            | some actions =>
                some ({ actionName := definition.name, endpoint := endpoint }
                  :: actions)

/-- `initialize_services`; on failure the services stay as they are. -/
def initializeServices (endpointExists : String → Bool) (root : Json) :
    Outcome ActionServicesClient (String × ClientObs) Bool :=
  match parse root with
  | .error _ => { state := s, result := false }
  | .ok definitions =>
      if ¬s.actions.isEmpty then { state := s, result := false }
      else
        match root.find "actions" with
        | some (.array entries) =>
            match initializeActions R s endpointExists
                (definitions.zip entries) with
            | none => { state := s, result := false }
            | some actions =>
                { state := { s with actions := actions }, result := true }
        | _ => { state := s, result := false }

/-- `stop_all_services`. -/
def stopAllServices : ActionServicesClient :=
  { s with
    actions := s.actions.map fun inst =>
      inst.withEndpoint inst.endpoint.clearPendingEvents }

/-- `clear_all_instances`. -/
def clearAllInstances : ActionServicesClient :=
  { s with
    actions := s.actions.map fun inst =>
      { inst with endpoint := inst.endpoint.resetContexts, goals := [] } }

/-- The receive callbacks of all endpoints. -/
def receive (key : PduResolvedKey) (data : PduData) : ActionServicesClient :=
  { s with
    actions := s.actions.map fun inst =>
      inst.withEndpoint (inst.endpoint.receive key data) }

/-- The loop of `poll()`: the Actions are polled in order until one of them
reports an event.  `clock` gives the reading of the time source for each of
them. -/
def pollActions (clock : String → UInt64) :
    List ClientActionInstance →
      Outcome (List ClientActionInstance) (String × ClientObs)
        (Option (String × ClientEvent))
  | [] => { state := [], result := none }
  | inst :: rest =>
      let polled := inst.pollEndpoint R (clock inst.actionName)
      match polled.2 with
      | some event =>
          { state := polled.1 :: rest
            result := some (inst.actionName, event)
            effects := [(inst.actionName, .event event)] }
      | none =>
          let later := pollActions clock rest
          { state := polled.1 :: later.state
            result := later.result
            effects := later.effects }

/-- `poll`. -/
def poll (clock : String → UInt64) :
    Outcome ActionServicesClient (String × ClientObs)
      (Option (String × ClientEvent)) :=
  (pollActions R clock s.actions).embed fun actions =>
    { s with actions := actions }

/-- Apply a step to the Action of a name. -/
def stepAction (actionName : String) (i : ClientInstanceInput) :
    ActionServicesClient × List (String × ClientObs) :=
  match s.getAction actionName with
  | none => (s, [])
  | some inst =>
      let next := (clientInstanceMachine R).step inst i
      ({ s with
          actions := modifyFirst (·.actionName) actionName (fun _ => next.1)
            s.actions },
        next.2.map (Prod.mk actionName))

/-- `send_goal_with_result`. -/
def sendGoalWithResult (now : UInt64) (actionName : String)
    (goalPdu : PduData) (goalId : GoalId) (timeoutUsec : UInt64) :
    Outcome ActionServicesClient (String × ClientObs) GoalSendResult :=
  if actionName = "" ∨ ¬goalArgumentsValid goalPdu goalId then
    { state := s, result := .invalidArgument }
  else
    match s.getAction actionName with
    | none => { state := s, result := .actionNotFound }
    | some inst =>
        let next := s.stepAction R actionName
          (.sendGoal net now goalPdu goalId timeoutUsec)
        { state := next.1
          result := (inst.sendGoalWithResult R net now goalPdu goalId
            timeoutUsec).result
          effects := next.2 }

/-- `send_cancel`. -/
def sendCancel (actionName : String) (goal : ClientGoalHandle) :
    Outcome ActionServicesClient (String × ClientObs) Bool :=
  if actionName = "" ∨ ¬goal.valid then { state := s, result := false }
  else
    match s.getAction actionName with
    | none => { state := s, result := false }
    | some inst =>
        let next := s.stepAction R actionName (.sendCancel net goal)
        { state := next.1
          result := (inst.sendCancel R net goal).result
          effects := next.2 }

end ActionServicesClient

/-- What can happen to the services. -/
inductive ClientInput
  | receive (key : PduResolvedKey) (data : PduData)
  | poll (clock : String → UInt64)
  | sendGoal (net : SendOracle) (now : UInt64) (actionName : String)
      (goalPdu : PduData) (goalId : GoalId) (timeoutUsec : UInt64)
  | sendCancel (net : SendOracle) (actionName : String)
      (goal : ClientGoalHandle)
  | stopAllServices
  | clearAllInstances

/-- The services as a machine. -/
def clientMachine (R : PduRegistry) :
    Machine ActionServicesClient ClientInput (String × ClientObs) where
  step s
    | .receive key data => (s.receive key data, [])
    | .poll clock => ((s.poll R clock).state, (s.poll R clock).effects)
    | .sendGoal net now actionName goalPdu goalId timeoutUsec =>
        let done :=
          s.sendGoalWithResult R net now actionName goalPdu goalId timeoutUsec
        (done.state, done.effects)
    | .sendCancel net actionName goal =>
        let done := s.sendCancel R net actionName goal
        (done.state, done.effects)
    | .stopAllServices => (s.stopAllServices, [])
    | .clearAllInstances => (s.clearAllInstances, [])

/-- The services after construction and `initialize_services` with a
configuration document; whether it succeeded or not. -/
def startedClient (R : PduRegistry) (nodeId implType : String)
    (endpointExists : String → Bool) (root : Json) : ActionServicesClient :=
  (ActionServicesClient.initializeServices R
    { nodeId := nodeId, implType := implType } endpointExists root).state

/-! ## Runs of the services are runs of their Actions -/

namespace ClientActionInstance

variable {R : PduRegistry} {net : SendOracle} (inst : ClientActionInstance)

@[simp] theorem actionName_withEndpoint (ep : ActionClientEndpointImpl) :
    (inst.withEndpoint ep).actionName = inst.actionName := rfl

@[simp] theorem actionName_setContext (g : GoalId) (c : ClientGoalContext) :
    (inst.setContext g c).actionName = inst.actionName := rfl

@[simp] theorem actionName_removeGoal (g : GoalId) :
    (inst.removeGoal g).actionName = inst.actionName := rfl

theorem actionName_handleTransition (event : ClientEvent)
    (transition : ClientTransition) {transitioned : ClientActionInstance}
    (h : transitioned.actionName = inst.actionName) :
    (inst.handleTransition event transition transitioned).1.actionName =
      inst.actionName := by
  unfold handleTransition
  split <;> simp [h]

@[simp] theorem actionName_pollEndpoint (now : UInt64) :
    (inst.pollEndpoint R now).1.actionName = inst.actionName := by
  have hresponse (i : ClientActionInstance) (e : ClientEvent) :
      (i.handleGoalResponse e).1.actionName = i.actionName := by
    unfold handleGoalResponse
    split_ifs <;> rfl
  have hfeedback (i : ClientActionInstance) (e : ClientEvent) :
      (i.handleFeedback e).1.actionName = i.actionName := by
    unfold handleFeedback
    split_ifs
    · split
      · rfl
      · exact i.actionName_handleTransition e _ rfl
    · rfl
  have hcancel (i : ClientActionInstance) (e : ClientEvent) :
      (i.handleCancelResponse e).1.actionName = i.actionName := by
    unfold handleCancelResponse
    split
    · rfl
    · split
      · rfl
      · exact i.actionName_handleTransition e _ rfl
  have hresult (i : ClientActionInstance) (e : ClientEvent) :
      (i.handleResult e).1.actionName = i.actionName := by
    unfold handleResult
    split_ifs
    · split
      · rfl
      · exact i.actionName_handleTransition e _ rfl
    · rfl
  unfold pollEndpoint
  dsimp only
  split
  · rfl
  · split <;> simp [hresponse, hfeedback, hcancel, hresult]

theorem actionName_step (inst : ClientActionInstance)
    (i : ClientInstanceInput) :
    ((clientInstanceMachine R).step inst i).1.actionName =
      inst.actionName := by
  cases i with
  | receive key data => rfl
  | poll now => exact inst.actionName_pollEndpoint now
  | sendGoal net now goalPdu goalId timeoutUsec =>
      simp only [clientInstanceMachine, sendGoalWithResult]
      split_ifs <;> rfl
  | sendCancel net goal =>
      simp only [clientInstanceMachine, sendCancel]
      repeat' (first | rfl | split)
  | stop => rfl
  | clear => rfl

end ClientActionInstance

namespace ActionServicesClient

variable {R : PduRegistry} {name : String}

/-- The Action reports an event when it is polled. -/
def reports (R : PduRegistry) (clock : String → UInt64)
    (inst : ClientActionInstance) : Bool :=
  (inst.pollEndpoint R (clock inst.actionName)).2.isSome

/-- The inputs that one Action sees of a step of the services. -/
def instanceInputs (R : PduRegistry) (name : String)
    (s : ActionServicesClient) : ClientInput → List ClientInstanceInput
  | .receive key data => [.receive key data]
  | .poll clock =>
      Fleet.scanInputs (·.actionName) (fun inst => .poll (clock inst.actionName))
        (reports R clock) name s.actions
  | .sendGoal net now actionName goalPdu goalId timeoutUsec =>
      if actionName = name ∧ actionName ≠ "" ∧
          goalArgumentsValid goalPdu goalId = true then
        [.sendGoal net now goalPdu goalId timeoutUsec]
      else []
  | .sendCancel net actionName goal =>
      if actionName = name ∧ actionName ≠ "" ∧ goal.valid = true then
        [.sendCancel net goal]
      else []
  | .stopAllServices => [.stop]
  | .clearAllInstances => [.clear]

/-- What an input of the services can be to the Action of a name. -/
inductive ForAction (name : String) : ClientInput → ClientInstanceInput → Prop
  | receive (key : PduResolvedKey) (data : PduData) :
      ForAction name (.receive key data) (.receive key data)
  | poll (clock : String → UInt64) (now : UInt64) :
      ForAction name (.poll clock) (.poll now)
  | sendGoal (net : SendOracle) (now : UInt64) (goalPdu : PduData)
      (goalId : GoalId) (timeoutUsec : UInt64) :
      ForAction name (.sendGoal net now name goalPdu goalId timeoutUsec)
        (.sendGoal net now goalPdu goalId timeoutUsec)
  | sendCancel (net : SendOracle) (goal : ClientGoalHandle) :
      ForAction name (.sendCancel net name goal) (.sendCancel net goal)
  | stop : ForAction name .stopAllServices .stop
  | clear : ForAction name .clearAllInstances .clear

theorem ForAction.of_mem {name : String} {s : ActionServicesClient}
    {i : ClientInput} {j : ClientInstanceInput}
    (h : j ∈ instanceInputs R name s i) : ForAction name i j := by
  cases i with
  | receive key data =>
      obtain rfl := List.mem_singleton.mp h
      exact .receive key data
  | poll clock =>
      obtain ⟨inst, rfl⟩ := Fleet.mem_scanInputs h
      exact .poll clock _
  | sendGoal net now actionName goalPdu goalId timeoutUsec =>
      rw [instanceInputs] at h
      split_ifs at h with hname
      · obtain rfl := List.mem_singleton.mp h
        obtain ⟨rfl, -⟩ := hname
        exact .sendGoal net now goalPdu goalId timeoutUsec
      · cases h
  | sendCancel net actionName goal =>
      rw [instanceInputs] at h
      split_ifs at h with hname
      · obtain rfl := List.mem_singleton.mp h
        obtain ⟨rfl, -⟩ := hname
        exact .sendCancel net goal
      · cases h
  | stopAllServices =>
      obtain rfl := List.mem_singleton.mp h
      exact .stop
  | clearAllInstances =>
      obtain rfl := List.mem_singleton.mp h
      exact .clear

/-- The loop of `poll()` polls the Actions in order until one of them
reports. -/
theorem pollActions_eq_scan (clock : String → UInt64)
    (actions : List ClientActionInstance) :
    ((pollActions R clock actions).state,
        (pollActions R clock actions).effects) =
      Fleet.scan (·.actionName) (clientInstanceMachine R)
        (fun inst => .poll (clock inst.actionName)) (reports R clock)
        actions := by
  induction actions with
  | nil => rfl
  | cons inst rest ih =>
      rw [Fleet.scan, ← ih, pollActions]
      dsimp only [reports]
      split
      · next hevent => simp [hevent, clientInstanceMachine]
      · next hevent => simp [hevent, clientInstanceMachine]

theorem map_actionName_stepAction (s : ActionServicesClient)
    (actionName : String) (i : ClientInstanceInput) :
    (s.stepAction R actionName i).1.actions.map (·.actionName) =
      s.actions.map (·.actionName) := by
  unfold stepAction
  split
  · rfl
  · next inst hinst =>
      refine map_key_modifyFirst (fun _ _ => ?_) s.actions
      rw [ClientActionInstance.actionName_step]
      exact lookup_key hinst

theorem map_actionName_step (s : ActionServicesClient) (i : ClientInput) :
    ((clientMachine R).step s i).1.actions.map (·.actionName) =
      s.actions.map (·.actionName) := by
  cases i with
  | receive key data => simp [clientMachine, receive]
  | poll clock =>
      have hscan := congrArg Prod.fst (pollActions_eq_scan (R := R) clock
        s.actions)
      simp only [clientMachine, poll, Outcome.embed_state]
      dsimp only at hscan
      rw [hscan]
      exact Fleet.map_key_scan ClientActionInstance.actionName_step s.actions
  | sendGoal net now actionName goalPdu goalId timeoutUsec =>
      simp only [clientMachine, sendGoalWithResult]
      split_ifs
      · rfl
      · split
        · rfl
        · exact map_actionName_stepAction s actionName _
  | sendCancel net actionName goal =>
      simp only [clientMachine, sendCancel]
      split_ifs
      · rfl
      · split
        · rfl
        · exact map_actionName_stepAction s actionName _
  | stopAllServices => simp [clientMachine, stopAllServices]
  | clearAllInstances => simp [clientMachine, clearAllInstances]

/-- A step applied to one Action, seen from an Action. -/
theorem stepAction_project {s : ActionServicesClient}
    {inst : ClientActionInstance} (hinst : s.getAction name = some inst)
    (actionName : String) (i : ClientInstanceInput) :
    (s.stepAction R actionName i).1.getAction name =
        some ((clientInstanceMachine R).run inst
          (if actionName = name then [i] else [])) ∧
      (s.stepAction R actionName i).2.flatMap (Fleet.observe name) =
        (clientInstanceMachine R).trace inst
          (if actionName = name then [i] else []) := by
  unfold stepAction getAction
  by_cases hname : actionName = name
  · subst hname
    rw [getAction] at hinst
    simp [hinst, lookup_modifyFirst, ClientActionInstance.actionName_step,
      lookup_key hinst, Fleet.observe_tagged]
  · rw [getAction] at hinst
    split
    · simpa [hname] using hinst
    · next other hother =>
        simp [lookup_modifyFirst, ClientActionInstance.actionName_step,
          lookup_key hother, Ne.symm hname, hinst, Fleet.observe_tagged, hname]

theorem step_sendGoal (s : ActionServicesClient) (net : SendOracle)
    (now : UInt64) (actionName : String) (goalPdu : PduData) (goalId : GoalId)
    (timeoutUsec : UInt64) :
    (clientMachine R).step s
        (.sendGoal net now actionName goalPdu goalId timeoutUsec) =
      if actionName = "" ∨ ¬goalArgumentsValid goalPdu goalId then (s, [])
      else s.stepAction R actionName
        (.sendGoal net now goalPdu goalId timeoutUsec) := by
  simp only [clientMachine, sendGoalWithResult]
  split_ifs
  · rfl
  · unfold stepAction
    cases s.getAction actionName <;> rfl

theorem step_sendCancel (s : ActionServicesClient) (net : SendOracle)
    (actionName : String) (goal : ClientGoalHandle) :
    (clientMachine R).step s (.sendCancel net actionName goal) =
      if actionName = "" ∨ ¬goal.valid then (s, [])
      else s.stepAction R actionName (.sendCancel net goal) := by
  simp only [clientMachine, sendCancel]
  split_ifs
  · rfl
  · unfold stepAction
    cases s.getAction actionName <;> rfl

/-- A call with checked arguments, seen from one Action. -/
theorem checked_project {s : ActionServicesClient}
    {inst : ClientActionInstance} (hinst : s.getAction name = some inst)
    {actionName : String} {valid : Bool} {i : ClientInstanceInput}
    {next : ActionServicesClient × List (String × ClientObs)}
    (hnext : next = if actionName = "" ∨ ¬valid then (s, [])
      else s.stepAction R actionName i) :
    next.1.getAction name =
        some ((clientInstanceMachine R).run inst
          (if actionName = name ∧ actionName ≠ "" ∧ valid = true then [i]
            else [])) ∧
      next.2.flatMap (Fleet.observe name) =
        (clientInstanceMachine R).trace inst
          (if actionName = name ∧ actionName ≠ "" ∧ valid = true then [i]
            else []) := by
  have hproject := stepAction_project (R := R) hinst actionName i
  by_cases hbad : actionName = "" ∨ ¬valid
  · rw [if_pos hbad] at hnext
    rw [hnext, if_neg (by tauto)]
    exact ⟨hinst, rfl⟩
  · rw [if_neg hbad] at hnext
    rw [not_or, not_not] at hbad
    simpa only [hnext, hbad, and_true, ne_eq, not_false_eq_true] using hproject

/-- A step of the services, seen from one Action. -/
theorem step_project {s : ActionServicesClient}
    (hnodup : (s.actions.map (·.actionName)).Nodup)
    {inst : ClientActionInstance} (hinst : s.getAction name = some inst)
    (i : ClientInput) :
    ((clientMachine R).step s i).1.getAction name =
        some ((clientInstanceMachine R).run inst
          (instanceInputs R name s i)) ∧
      ((clientMachine R).step s i).2.flatMap (Fleet.observe name) =
        (clientInstanceMachine R).trace inst (instanceInputs R name s i) := by
  cases i with
  | receive key data =>
      rw [getAction] at hinst
      simp only [clientMachine, receive, instanceInputs, getAction]
      rw [lookup_map, hinst]
      · simp [clientInstanceMachine]
      · intro inst
        rfl
  | poll clock =>
      have hscan := pollActions_eq_scan (R := R) clock s.actions
      have hproject := Fleet.scan_project (M := clientInstanceMachine R)
        ClientActionInstance.actionName_step
        (fun inst => .poll (clock inst.actionName)) (reports R clock) hnodup
        hinst
      rw [← hscan] at hproject
      exact hproject
  | sendGoal net now actionName goalPdu goalId timeoutUsec =>
      exact checked_project hinst
        (step_sendGoal s net now actionName goalPdu goalId timeoutUsec)
  | sendCancel net actionName goal =>
      exact checked_project hinst (step_sendCancel s net actionName goal)
  | stopAllServices =>
      rw [getAction] at hinst
      simp only [clientMachine, stopAllServices, instanceInputs, getAction]
      rw [lookup_map, hinst]
      · simp [clientInstanceMachine]
      · intro inst
        rfl
  | clearAllInstances =>
      rw [getAction] at hinst
      simp only [clientMachine, clearAllInstances, instanceInputs, getAction]
      rw [lookup_map, hinst]
      · simp [clientInstanceMachine]
      · intro inst
        rfl

/-- The Action of a name. -/
def viewAction (name : String) (s : ActionServicesClient) :
    ClientActionInstance :=
  (s.getAction name).getD
    { actionName := name, endpoint := { actionName := name } }

/-- A run of the services is, for every Action, a run of that Action. -/
def projection (R : PduRegistry) (name : String) :
    Machine.Projection (clientMachine R) (clientInstanceMachine R)
      (fun _ _ => True) where
  Good s := (s.actions.map (·.actionName)).Nodup ∧
    ∃ inst, s.getAction name = some inst
  view := viewAction name
  inputs := instanceInputs R name
  observe := Fleet.observe name
  good_step := by
    rintro s i - ⟨hnodup, inst, hinst⟩
    rw [map_actionName_step]
    exact ⟨hnodup, _, (step_project hnodup hinst i).1⟩
  view_step := by
    rintro s i - ⟨hnodup, inst, hinst⟩
    simp [viewAction, (step_project (R := R) hnodup hinst i).1, hinst]
  trace_step := by
    rintro s i - ⟨hnodup, inst, hinst⟩
    simp [viewAction, (step_project (R := R) hnodup hinst i).2, hinst]

/-! ## The started services -/

/-- A fresh Action: its endpoint has a well-formed routing table and no
binding. -/
structure Fresh (inst : ClientActionInstance) : Prop where
  routing : RoutingWellFormed inst.actionName inst.endpoint.slotRouting
  endpoint_eq : inst.endpoint =
    { actionName := inst.actionName
      initialized := true
      slotRouting := inst.endpoint.slotRouting
      slotOwners := List.replicate inst.endpoint.slotRouting.length none }
  goals_eq : inst.goals = []

theorem fresh_of_initializeEndpoint {entry : Json}
    {endpoint : ActionClientEndpointImpl}
    (h : ActionClientEndpointImpl.initializeEndpoint R { actionName := name }
      entry = some endpoint) :
    Fresh { actionName := name, endpoint := endpoint } ∧
      ∃ d, parseAction entry = .ok d ∧
        parseRouting R name d = some endpoint.slotRouting := by
  obtain ⟨d, routing, hd, -, hrouting, -, rfl⟩ :=
    ActionClientEndpointImpl.initializeEndpoint_ok h
  exact ⟨⟨parseRouting_wellFormed hrouting, rfl, rfl⟩, d, hd, hrouting⟩

theorem initializeActions_ok {s : ActionServicesClient}
    {endpointExists : String → Bool} {l : List (ActionDefinition × Json)}
    {actions : List ClientActionInstance}
    (h : initializeActions R s endpointExists l = some actions) :
    (actions.map (·.actionName)).Sublist (l.map (·.1.name)) ∧
      ∀ inst ∈ actions, Fresh inst ∧
        ∃ x ∈ l, x.1.name = inst.actionName ∧
          ∃ d, parseAction x.2 = .ok d ∧
            parseRouting R x.1.name d = some inst.endpoint.slotRouting := by
  induction l generalizing actions with
  | nil =>
      simp only [initializeActions, Option.some.injEq] at h
      simp [← h]
  | cons entry rest ih =>
      obtain ⟨definition, entry⟩ := entry
      simp only [initializeActions] at h
      split_ifs at h with hnode hexists himpl
      · obtain ⟨hsub, hfresh⟩ := ih h
        refine ⟨hsub.cons _, ?_⟩
        intro inst hinst
        obtain ⟨hinit, x, hx, hrest⟩ := hfresh inst hinst
        exact ⟨hinit, x, List.mem_cons_of_mem _ hx, hrest⟩
      · split at h
        · simp at h
        · next endpoint hendpoint =>
            split at h
            · simp at h
            · next later hlater =>
                simp only [Option.some.injEq] at h
                subst h
                obtain ⟨hsub, hfresh⟩ := ih hlater
                refine ⟨by simpa using hsub.cons_cons definition.name, ?_⟩
                intro inst hinst
                rcases List.mem_cons.mp hinst with rfl | hinst
                · obtain ⟨hinit, hrouting⟩ :=
                    fresh_of_initializeEndpoint hendpoint
                  exact ⟨hinit, _, List.mem_cons_self, rfl, hrouting⟩
                · obtain ⟨hinit, x, hx, hrest⟩ := hfresh inst hinst
                  exact ⟨hinit, x, List.mem_cons_of_mem _ hx, hrest⟩

/-- The started services have fresh Actions with pairwise distinct names and
the configured routing tables. -/
theorem startedClient_configured (R : PduRegistry) (nodeId implType : String)
    (endpointExists : String → Bool) (root : Json) :
    ((startedClient R nodeId implType endpointExists root).actions.map
        (·.actionName)).Nodup ∧
      ∀ inst ∈ (startedClient R nodeId implType endpointExists root).actions,
        Fresh inst ∧ configuredRouting R root inst.actionName =
          some inst.endpoint.slotRouting := by
  unfold startedClient initializeServices
  split
  · simp
  · next definitions hparse =>
      obtain ⟨entries, hentries, -⟩ := parse_ok hparse
      simp only [hentries]
      split
      · simp
      · split
        · simp
        · next actions hactions =>
            obtain ⟨hsub, hfresh⟩ := initializeActions_ok hactions
            refine ⟨hsub.nodup (nodup_names_zip hparse hentries), ?_⟩
            intro inst hinst
            obtain ⟨hinit, x, hx, hname, d, hd, hrouting⟩ := hfresh inst hinst
            rw [← hname]
            exact ⟨hinit,
              configuredRouting_of_entry hparse hentries hx hd hrouting⟩

theorem startedClient_ok (R : PduRegistry) (nodeId implType : String)
    (endpointExists : String → Bool) (root : Json) :
    ((startedClient R nodeId implType endpointExists root).actions.map
        (·.actionName)).Nodup ∧
      ∀ inst ∈ (startedClient R nodeId implType endpointExists root).actions,
        Fresh inst := by
  obtain ⟨hnodup, hfresh⟩ :=
    startedClient_configured R nodeId implType endpointExists root
  exact ⟨hnodup, fun inst hinst => (hfresh inst hinst).1⟩

end ActionServicesClient

end HakoPduRpc.Action
