import HakoPduRpc.Lib.Tickets
import HakoPduRpc.Action.ServicesServer

/-!
# The multiplexing server

`ActionServicesMuxServer`: one `ActionServicesServer` for each connection, and
an index of the connections that own the Goals shown to the application.

The threads of the transport enqueue packets and set the disconnected flag of a
connection by themselves, also while `poll()` runs; `TransportEvent` lists what
they do and `PollEnv` says what they do where in `poll()`.  `MuxStep` cuts
`poll()` at these places: `runs_steps` says that every input is a run of such
steps, and `exists_steps` that a run of the server is one.

The counter of connection ids has 64 bits and goes round.  A connection also has
a number that the code does not have, the number of ids that were handed out
before its own: observations, packets and the loops over the slots say with it
which slot they mean, also when two slots have the same id.
-/

namespace HakoPduRpc.Action

open KeyedList Tickets

inductive GoalOwnerState
  | pending
  | active
deriving DecidableEq, Repr

/-- `GoalOwner`. -/
structure GoalOwner where
  actionName : String
  goalId : GoalId
  connectionId : UInt64
  state : GoalOwnerState := .pending
deriving DecidableEq

/-- What an owner is looked up by. -/
def GoalOwner.key (owner : GoalOwner) : String × GoalId :=
  (owner.actionName, owner.goalId)

/-- `ConnectionSlot`; a slot in the list always has its server.  Its `number` is
not in the code, which has the slot itself. -/
structure ConnectionSlot where
  number : ℕ
  connectionId : UInt64
  server : ActionServicesServer
  disconnected : Bool := false
  orphaned : Bool := false
  disconnectProcessed : Bool := false
  retired : Bool := false
  id_eq : connectionId = ticket number

/-- The state of `ActionServicesMuxServer::Impl`; `mux` is the expected count of
the multiplexer while it is open, and `issued` counts the ids that were handed
out. -/
structure ActionServicesMuxServer where
  nodeId : String
  actionConfigPath : String
  endpointMuxConfigPath : String
  implType : String
  deltaTimeUsec : UInt64
  mux : Option ℕ := none
  slots : List ConnectionSlot := []
  owners : List GoalOwner := []
  nextConnectionId : UInt64 := 1
  started : Bool := false
  issued : ℕ := 0
  next_eq : nextConnectionId = ticket issued

/-- The calls of the application that name a Goal. -/
inductive MuxCall
  | acceptGoal (goal : ServerGoalHandle)
  | rejectGoal (goal : ServerGoalHandle)
  | acceptCancel (goal : ServerGoalHandle)
  | rejectCancel (goal : ServerGoalHandle)
  | sendFeedback (goal : ServerGoalHandle) (feedbackPdu : PduData)
  | complete (goal : ServerGoalHandle) (status : TerminalStatus)
      (resultPdu : PduData)
deriving DecidableEq

/-- The Goal that a call names. -/
def MuxCall.goal : MuxCall → ServerGoalHandle
  | .acceptGoal goal => goal
  | .rejectGoal goal => goal
  | .acceptCancel goal => goal
  | .rejectCancel goal => goal
  | .sendFeedback goal _ => goal
  | .complete goal _ _ => goal

/-- What can be seen of the server: connections that come and whose disconnect
is handled, what the services of a connection do, events with the connection
that reported them, calls with their results, and `stop()`. -/
inductive MuxObs
  | connected (number : ℕ) (connectionId : UInt64)
  | processed (number : ℕ)
  | connection (number : ℕ) (actionName : String) (obs : ServerObs)
  | event (number : ℕ) (actionName : String) (event : ServerEvent)
  | returned (actionName : String) (call : MuxCall) (result : Bool)
  | stopped
deriving DecidableEq

/-- What the threads of the transport do. -/
inductive TransportEvent
  | receive (number : ℕ) (key : PduResolvedKey) (data : PduData)
  | disconnect (number : ℕ)

/-- An entry of `take_endpoints()`: what the transport does before it is looked
at, whether it is an endpoint, and the configuration document that is read for
it when there is one. -/
structure Arrival where
  before : List TransportEvent := []
  present : Bool := true
  document : Option Json

/-- The polling of one connection: what the transport does before, and the
outcomes of the sends of its `poll()` and of an automatic rejection. -/
structure SlotEnv where
  before : List TransportEvent := []
  poll : SendOracle
  reject : SendOracle

/-- What `poll()` meets. -/
structure PollEnv where
  arrivals : List Arrival := []
  beforeFirstPass : List TransportEvent := []
  slot : ℕ → SlotEnv
  beforeLastPass : List TransportEvent := []

namespace ActionServicesMuxServer

variable (R : PduRegistry) (s : ActionServicesMuxServer)

/-! ## Tables -/

/-- `find_slot_`: the first slot with the id. -/
def findSlot (connectionId : UInt64) : Option ConnectionSlot :=
  lookup (·.connectionId) connectionId s.slots

/-- The slot of a connection. -/
def slotAt (number : ℕ) : Option ConnectionSlot :=
  lookup (·.number) number s.slots

/-- Rewrite the slot of a connection. -/
def modifySlot (number : ℕ) (f : ConnectionSlot → ConnectionSlot) :
    ActionServicesMuxServer :=
  { s with slots := modifyFirst (·.number) number f s.slots }

/-- The slot of a connection with another state of its services. -/
def withServer (number : ℕ) (server : ActionServicesServer) :
    ActionServicesMuxServer :=
  s.modifySlot number fun slot => { slot with server := server }

/-- `find_owner_`. -/
def findOwner (actionName : String) (goalId : GoalId) : Option GoalOwner :=
  lookup GoalOwner.key (actionName, goalId) s.owners

/-- `find_active_owner_`. -/
def findActiveOwner (actionName : String) (goalId : GoalId) :
    Option GoalOwner :=
  match s.findOwner actionName goalId with
  | some owner => if owner.state = .active then some owner else none
  | none => none

/-- `remove_owner_`. -/
def removeOwner (actionName : String) (goalId : GoalId) :
    ActionServicesMuxServer :=
  { s with owners := removeFirst GoalOwner.key (actionName, goalId) s.owners }

/-- `owner->state = …`. -/
def setOwnerState (actionName : String) (goalId : GoalId)
    (state : GoalOwnerState) : ActionServicesMuxServer :=
  { s with
    owners := modifyFirst GoalOwner.key (actionName, goalId)
      (fun owner => { owner with state := state }) s.owners }

/-- `connected_slot_count_`. -/
def connectedSlotCount : ℕ :=
  s.slots.countP fun slot => ¬slot.disconnected

/-! ## The transport -/

/-- The receive callbacks and the disconnected callback of a connection. -/
def transport : TransportEvent → ActionServicesMuxServer
  | .receive number key data =>
      s.modifySlot number fun slot =>
        { slot with server := slot.server.receive key data }
  | .disconnect number =>
      s.modifySlot number fun slot => { slot with disconnected := true }

/-- `next_connection_id_++`. -/
def takeConnectionId : ActionServicesMuxServer :=
  { s with
    nextConnectionId := s.nextConnectionId + 1
    issued := s.issued + 1
    next_eq := succ_eq_ticket s.next_eq }

/-- The slot of the next connection. -/
def newSlot (server : ActionServicesServer) : ConnectionSlot where
  number := s.issued
  connectionId := s.nextConnectionId
  server := server
  id_eq := s.next_eq

/-- The iteration of `accept_new_connections_` for one endpoint. -/
def acceptConnection (capacity : ℕ) (document : Option Json) :
    Outcome ActionServicesMuxServer MuxObs Unit :=
  if capacity ≤ s.connectedSlotCount then { state := s, result := () }
  else
    match document with
    | none => { state := s.takeConnectionId, result := () }
    | some root =>
        let initialized := ActionServicesServer.initializeServices R
          { nodeId := s.nodeId, implType := s.implType } (fun _ => true) root
        if initialized.result then
          { state :=
              { s.takeConnectionId with
                slots := s.slots ++ [s.newSlot initialized.state] }
            result := ()
            effects := [.connected s.issued s.nextConnectionId] }
        else { state := s.takeConnectionId, result := () }

/-! ## Disconnects -/

/-- The owners that `process_disconnected_` discards with a connection. -/
def pendingOwners (connectionId : UInt64) : List GoalOwner :=
  s.owners.filter fun owner =>
    owner.connectionId = connectionId ∧ owner.state = .pending

/-- A connection has an accepted Goal. -/
def hasActiveOwner (connectionId : UInt64) : Bool :=
  s.owners.any fun owner =>
    owner.connectionId = connectionId ∧ owner.state = .active

/-- `discard_pending_goal` for a list of owners; its result is only logged. -/
def discardOwners (owners : List GoalOwner) (server : ActionServicesServer) :
    ActionServicesServer :=
  owners.foldl (fun server owner =>
    (server.call R (fun _ _ => false) owner.actionName
      (.discardPendingGoal ⟨owner.goalId⟩)).state) server

/-- The iteration of `process_disconnected_` for one slot. -/
def processSlot (number : ℕ) :
    Outcome ActionServicesMuxServer MuxObs Unit :=
  match s.slotAt number with
  | none => { state := s, result := () }
  | some slot =>
      if ¬slot.disconnected ∨ slot.disconnectProcessed then
        { state := s, result := () }
      else
        let server := discardOwners R (s.pendingOwners slot.connectionId)
          slot.server
        let slot :=
          { slot with
            disconnectProcessed := true
            server := server.stopAllServices }
        let slot :=
          if s.hasActiveOwner slot.connectionId then
            { slot with
              orphaned := true
              server := slot.server.notifyTransportDisconnected }
          else
            { slot with
              retired := true
              server := slot.server.clearAllInstances }
        { state :=
            { s.modifySlot number fun _ => slot with
              owners := s.owners.filter fun owner =>
                ¬(owner.connectionId = slot.connectionId ∧
                  owner.state = .pending) }
          result := ()
          effects := [.processed number] }

/-- `reclaim_orphaned_slot_`. -/
def reclaimOrphanedSlot (connectionId : UInt64) : ActionServicesMuxServer :=
  if s.owners.any fun owner => owner.connectionId = connectionId then s
  else
    { s with
      slots := modifyFirst (fun slot => (slot.connectionId, slot.orphaned))
        (connectionId, true)
        (fun slot =>
          { slot with
            server := slot.server.clearAllInstances
            retired := true }) s.slots }

/-! ## Application calls -/

/-- Call the services of a connection. -/
def callServer (net : SendOracle) (slot : ConnectionSlot) (actionName : String)
    (call : ServerCall) : Outcome ActionServicesMuxServer MuxObs Bool :=
  let done := slot.server.call R net actionName call
  { state := s.withServer slot.number done.state
    result := done.result
    effects := done.effects.map fun seen =>
      .connection slot.number seen.1 seen.2 }

/-- `accept_goal` up to the call of the services, and the same part of
`reject_goal`: the owner is pending and its connection is there. -/
def pendingSlot (actionName : String) (goalId : GoalId) :
    Option ConnectionSlot :=
  match s.findOwner actionName goalId with
  | none => none
  | some owner =>
      if owner.state ≠ .pending then none
      else
        match s.findSlot owner.connectionId with
        | none => none
        | some slot => if slot.disconnected then none else some slot

/-- The connection of an accepted Goal. -/
def activeSlot (actionName : String) (goalId : GoalId) :
    Option ConnectionSlot :=
  match s.findActiveOwner actionName goalId with
  | none => none
  | some owner => s.findSlot owner.connectionId

/-- `accept_goal`. -/
def acceptGoal (net : SendOracle) (actionName : String)
    (goal : ServerGoalHandle) : Outcome ActionServicesMuxServer MuxObs Bool :=
  match s.pendingSlot actionName goal.goalId with
  | none => { state := s, result := false }
  | some slot =>
      let done := callServer R s net slot actionName (.acceptGoal goal)
      { done with
        state :=
          if done.result then
            done.state.setOwnerState actionName goal.goalId .active
          else done.state }

/-- `reject_goal`. -/
def rejectGoal (net : SendOracle) (actionName : String)
    (goal : ServerGoalHandle) : Outcome ActionServicesMuxServer MuxObs Bool :=
  match s.pendingSlot actionName goal.goalId with
  | none => { state := s, result := false }
  | some slot =>
      let done := callServer R s net slot actionName (.rejectGoal goal)
      { done with
        state :=
          if done.result then done.state.removeOwner actionName goal.goalId
          else done.state }

/-- `route_active_goal_`, the body of `accept_cancel` and `reject_cancel`: the
disconnected flag of the connection is not looked at. -/
def routeActiveGoal (net : SendOracle) (actionName : String) (goalId : GoalId)
    (call : ServerCall) : Outcome ActionServicesMuxServer MuxObs Bool :=
  match s.activeSlot actionName goalId with
  | none => { state := s, result := false }
  | some slot => callServer R s net slot actionName call

/-- `send_feedback`. -/
def sendFeedback (net : SendOracle) (actionName : String)
    (goal : ServerGoalHandle) (feedbackPdu : PduData) :
    Outcome ActionServicesMuxServer MuxObs Bool :=
  match s.activeSlot actionName goal.goalId with
  | none => { state := s, result := false }
  | some slot =>
      if slot.disconnected then { state := s, result := false }
      else callServer R s net slot actionName (.sendFeedback goal feedbackPdu)

/-- `complete`. -/
def complete (net : SendOracle) (actionName : String)
    (goal : ServerGoalHandle) (status : TerminalStatus)
    (resultPdu : PduData) : Outcome ActionServicesMuxServer MuxObs Bool :=
  match s.activeSlot actionName goal.goalId with
  | none => { state := s, result := false }
  | some slot =>
      let done := callServer R s net slot actionName
        (if slot.disconnected then .completeLocally goal status resultPdu
        else .complete goal status resultPdu)
      { done with
        state :=
          if done.result then
            (done.state.removeOwner actionName goal.goalId).reclaimOrphanedSlot
              slot.connectionId
          else done.state }

/-- One call of the application. -/
def call (net : SendOracle) (actionName : String) :
    MuxCall → Outcome ActionServicesMuxServer MuxObs Bool
  | .acceptGoal goal => acceptGoal R s net actionName goal
  | .rejectGoal goal => rejectGoal R s net actionName goal
  | .acceptCancel goal =>
      routeActiveGoal R s net actionName goal.goalId (.acceptCancel goal)
  | .rejectCancel goal =>
      routeActiveGoal R s net actionName goal.goalId (.rejectCancel goal)
  | .sendFeedback goal feedbackPdu =>
      sendFeedback R s net actionName goal feedbackPdu
  | .complete goal status resultPdu =>
      complete R s net actionName goal status resultPdu

/-! ## Polling -/

/-- The iteration of the loop of `poll()` for one slot: `none` when the loop goes
on. -/
def pollSlot (number : ℕ) (poll reject : SendOracle) :
    Outcome ActionServicesMuxServer MuxObs (Option (String × ServerEvent)) :=
  match s.slotAt number with
  | none => { state := s, result := none }
  | some slot =>
      if slot.retired then { state := s, result := none }
      else
        let polled := slot.server.poll R poll
        let s := s.withServer number polled.state
        let seen := polled.effects.map fun seen =>
          MuxObs.connection number seen.1 seen.2
        match polled.result with
        | none => { state := s, result := none, effects := seen }
        | some (actionName, event) =>
            if event.type ≠ .goalRequest then
              { state := s
                result := some (actionName, event)
                effects := seen ++ [.event number actionName event] }
            else if (s.findOwner actionName event.goal.goalId).isSome then
              -- the duplicate is rejected here; a failure is only logged
              let rejected := polled.state.call R reject actionName
                (.rejectGoal event.goal)
              { state := s.withServer number rejected.state
                result := none
                effects := seen ++ rejected.effects.map fun seen =>
                  .connection number seen.1 seen.2 }
            else
              { state :=
                  { s with
                    owners := s.owners ++
                      [{ actionName := actionName
                         goalId := event.goal.goalId
                         connectionId := slot.connectionId }] }
                result := some (actionName, event)
                effects := seen ++ [.event number actionName event] }

end ActionServicesMuxServer

/-! ## The steps of the server -/

/-- What the server does under its mutex without being interrupted by the
transport. -/
inductive MuxStep
  | transport (event : TransportEvent)
  | acceptConnection (capacity : ℕ) (document : Option Json)
  | processSlot (number : ℕ)
  | pollSlot (number : ℕ) (poll reject : SendOracle)
  | call (net : SendOracle) (actionName : String) (call : MuxCall)
  | opened (expectedCount : Option ℕ)
  | started (ok : Bool)
  | stop

namespace ActionServicesMuxServer

variable (R : PduRegistry) (s : ActionServicesMuxServer)

/-- `initialize`: `expectedCount` is what the multiplexer says when it could be
opened. -/
def initializeMux (expectedCount : Option ℕ) :
    Outcome ActionServicesMuxServer MuxObs Bool :=
  if s.mux.isSome then { state := s, result := true }
  else if s.nodeId = "" ∨ s.actionConfigPath = "" ∨
      s.endpointMuxConfigPath = "" ∨ s.implType = "" ∨ s.deltaTimeUsec = 0 then
    { state := s, result := false }
  else
    match expectedCount with
    | none => { state := s, result := false }
    | some 0 => { state := s, result := false }
    | some count => { state := { s with mux := some count }, result := true }

/-- The server after construction. -/
def constructed (nodeId actionConfigPath endpointMuxConfigPath implType : String)
    (deltaTimeUsec : UInt64) : ActionServicesMuxServer :=
  { nodeId := nodeId
    actionConfigPath := actionConfigPath
    endpointMuxConfigPath := endpointMuxConfigPath
    implType := implType
    deltaTimeUsec := deltaTimeUsec
    next_eq := one_eq_ticket }

/-- `start`: `ok` is the result of the multiplexer. -/
def startMux (ok : Bool) : Outcome ActionServicesMuxServer MuxObs Bool :=
  if s.started then { state := s, result := true }
  else if s.mux.isNone ∨ ¬ok then { state := s, result := false }
  else { state := { s with started := true }, result := true }

/-- `stop`. -/
def stop : ActionServicesMuxServer :=
  { s with owners := [], slots := [], mux := none, started := false }

end ActionServicesMuxServer

/-- The server as a machine of small steps. -/
def muxStepMachine (R : PduRegistry) :
    Machine ActionServicesMuxServer MuxStep MuxObs where
  step s
    | .transport event => (s.transport event, [])
    | .acceptConnection capacity document =>
        let done := s.acceptConnection R capacity document
        (done.state, done.effects)
    | .processSlot number =>
        let done := s.processSlot R number
        (done.state, done.effects)
    | .pollSlot number poll reject =>
        let done := s.pollSlot R number poll reject
        (done.state, done.effects)
    | .call net actionName call =>
        let done := s.call R net actionName call
        (done.state, done.effects ++ [.returned actionName call done.result])
    | .opened expectedCount => ((s.initializeMux expectedCount).state, [])
    | .started ok => ((s.startMux ok).state, [])
    | .stop => (s.stop, [.stopped])

/-! ## `poll()` -/

namespace ActionServicesMuxServer

variable (R : PduRegistry)

/-- What the transport does at one place of `poll()`. -/
def transportAll (s : ActionServicesMuxServer) (events : List TransportEvent) :
    ActionServicesMuxServer :=
  events.foldl transport s

/-- `accept_new_connections_`. -/
def acceptNewConnections (capacity : ℕ) (s : ActionServicesMuxServer) :
    List Arrival → Outcome ActionServicesMuxServer MuxObs Unit
  | [] => { state := s, result := () }
  | arrival :: rest =>
      let s := s.transportAll arrival.before
      if ¬arrival.present then acceptNewConnections capacity s rest
      else
        let done := s.acceptConnection R capacity arrival.document
        let later := acceptNewConnections capacity done.state rest
        { later with effects := done.effects ++ later.effects }

/-- The loop of `process_disconnected_`. -/
def processSlots (s : ActionServicesMuxServer) :
    List ℕ → Outcome ActionServicesMuxServer MuxObs Unit
  | [] => { state := s, result := () }
  | number :: rest =>
      let done := s.processSlot R number
      let later := processSlots done.state rest
      { later with effects := done.effects ++ later.effects }

/-- `process_disconnected_`. -/
def processDisconnected (s : ActionServicesMuxServer) :
    Outcome ActionServicesMuxServer MuxObs Unit :=
  processSlots R s (s.slots.map (·.number))

/-- The loop of `poll()` over the slots. -/
def pollSlots (env : ℕ → SlotEnv) (s : ActionServicesMuxServer) :
    List ℕ →
      Outcome ActionServicesMuxServer MuxObs (Option (String × ServerEvent))
  | [] => { state := s, result := none }
  | number :: rest =>
      let s := s.transportAll (env number).before
      let done := s.pollSlot R number (env number).poll
        (env number).reject
      match done.result with
      | some reported =>
          { state := done.state
            result := some reported
            effects := done.effects }
      | none =>
          let later := pollSlots env done.state rest
          { later with effects := done.effects ++ later.effects }

/-- `poll`. -/
def poll (s : ActionServicesMuxServer) (env : PollEnv) :
    Outcome ActionServicesMuxServer MuxObs (Option (String × ServerEvent)) :=
  match s.mux with
  | none => { state := s, result := none }
  | some capacity =>
      if ¬s.started then { state := s, result := none }
      else
        let accepted := acceptNewConnections R capacity s env.arrivals
        let first := processDisconnected R
          (accepted.state.transportAll env.beforeFirstPass)
        let polled := pollSlots R env.slot first.state
          (first.state.slots.map (·.number))
        match polled.result with
        | some reported =>
            { state := polled.state
              result := some reported
              effects := accepted.effects ++ first.effects ++ polled.effects }
        | none =>
            let last := processDisconnected R
              (polled.state.transportAll env.beforeLastPass)
            { state := last.state
              result := none
              effects := accepted.effects ++ first.effects ++ polled.effects ++
                last.effects }

end ActionServicesMuxServer

/-- What can happen to the server. -/
inductive MuxInput
  | transport (event : TransportEvent)
  | poll (env : PollEnv)
  | call (net : SendOracle) (actionName : String) (call : MuxCall)
  | opened (expectedCount : Option ℕ)
  | started (ok : Bool)
  | stop

/-- The server as a machine. -/
def muxMachine (R : PduRegistry) :
    Machine ActionServicesMuxServer MuxInput MuxObs where
  step s
    | .transport event => (s.transport event, [])
    | .poll env =>
        let done := s.poll R env
        (done.state, done.effects)
    | .call net actionName call =>
        let done := s.call R net actionName call
        (done.state, done.effects ++ [.returned actionName call done.result])
    | .opened expectedCount => ((s.initializeMux expectedCount).state, [])
    | .started ok => ((s.startMux ok).state, [])
    | .stop => (s.stop, [.stopped])

/-! ## Runs of the server are runs of small steps -/

namespace ActionServicesMuxServer

variable (R : PduRegistry)

/-- The steps of `accept_new_connections_`. -/
def acceptSteps (capacity : ℕ) (arrivals : List Arrival) : List MuxStep :=
  arrivals.flatMap fun arrival =>
    arrival.before.map .transport ++
      if arrival.present then
        [.acceptConnection capacity arrival.document] else []

/-- The steps of the loop over the slots. -/
def pollSteps (env : ℕ → SlotEnv) (s : ActionServicesMuxServer) :
    List ℕ → List MuxStep
  | [] => []
  | number :: rest =>
      let here : List MuxStep := (env number).before.map .transport ++
        [.pollSlot number (env number).poll
          (env number).reject]
      let done := (s.transportAll (env number).before).pollSlot R
        number (env number).poll (env number).reject
      match done.result with
      | some _ => here
      | none => here ++ pollSteps env done.state rest

/-- The steps of `process_disconnected_`, after what the transport does. -/
def passSteps (s : ActionServicesMuxServer) (events : List TransportEvent) :
    List MuxStep :=
  events.map .transport ++
    ((s.transportAll events).slots.map (·.number)).map .processSlot

/-- The steps that an input of the server consists of. -/
def steps (s : ActionServicesMuxServer) : MuxInput → List MuxStep
  | .transport event => [.transport event]
  | .poll env =>
      match s.mux with
      | none => []
      | some capacity =>
          if ¬s.started then []
          else
            let accepted := acceptNewConnections R capacity s env.arrivals
            let first := processDisconnected R
              (accepted.state.transportAll env.beforeFirstPass)
            let slots := first.state.slots.map (·.number)
            let polled := pollSlots R env.slot first.state slots
            acceptSteps capacity env.arrivals ++
              passSteps accepted.state env.beforeFirstPass ++
              pollSteps R env.slot first.state slots ++
              match polled.result with
              | some _ => []
              | none => passSteps polled.state env.beforeLastPass
  | .call net actionName call => [.call net actionName call]
  | .opened expectedCount => [.opened expectedCount]
  | .started ok => [.started ok]
  | .stop => [.stop]

variable {R} {s : ActionServicesMuxServer}

theorem runs_transport (s : ActionServicesMuxServer)
    (events : List TransportEvent) :
    (muxStepMachine R).Runs s (events.map .transport) (s.transportAll events)
      [] := by
  induction events generalizing s with
  | nil => exact .nil _ s
  | cons event rest ih => exact (Machine.Runs.single _ s _).append _ (ih _)

theorem runs_acceptSteps (capacity : ℕ) (s : ActionServicesMuxServer)
    (arrivals : List Arrival) :
    (muxStepMachine R).Runs s (acceptSteps capacity arrivals)
      (acceptNewConnections R capacity s arrivals).state
      (acceptNewConnections R capacity s arrivals).effects := by
  induction arrivals generalizing s with
  | nil => exact .nil _ s
  | cons arrival rest ih =>
      have hbefore := runs_transport (R := R) s arrival.before
      rw [acceptNewConnections]
      simp only [acceptSteps, List.flatMap_cons]
      by_cases hpresent : arrival.present = true
      · rw [if_pos hpresent, if_neg (not_not.mpr hpresent)]
        exact (hbefore.append _ (.single _ _ _)).append _ (ih _)
      · rw [if_neg hpresent, if_pos hpresent, List.append_nil]
        exact hbefore.append _ (ih _)

theorem runs_processSlots (s : ActionServicesMuxServer) (numbers : List ℕ) :
    (muxStepMachine R).Runs s (numbers.map .processSlot)
      (processSlots R s numbers).state (processSlots R s numbers).effects := by
  induction numbers generalizing s with
  | nil => exact .nil _ s
  | cons number rest ih =>
      exact (Machine.Runs.single _ s (.processSlot number)).append _
        (ih _)

theorem runs_passSteps (s : ActionServicesMuxServer)
    (events : List TransportEvent) :
    (muxStepMachine R).Runs s (passSteps s events)
      (processDisconnected R (s.transportAll events)).state
      (processDisconnected R (s.transportAll events)).effects :=
  (runs_transport s events).append _ (runs_processSlots _ _)

theorem runs_pollSteps (env : ℕ → SlotEnv) (s : ActionServicesMuxServer)
    (numbers : List ℕ) :
    (muxStepMachine R).Runs s (pollSteps R env s numbers)
      (pollSlots R env s numbers).state (pollSlots R env s numbers).effects := by
  induction numbers generalizing s with
  | nil => exact .nil _ s
  | cons number rest ih =>
      have hhere := (runs_transport (R := R) s
        (env number).before).append _
        (.single _ _ (.pollSlot number (env number).poll
          (env number).reject))
      rw [pollSteps, pollSlots]
      dsimp only
      split
      · exact hhere
      · exact hhere.append _ (ih _)

/-- An input of the server is a run of small steps. -/
theorem runs_steps (s : ActionServicesMuxServer) (i : MuxInput) :
    (muxStepMachine R).Runs s (steps R s i) ((muxMachine R).step s i).1
      ((muxMachine R).step s i).2 := by
  cases i with
  | transport event =>
      exact Machine.Runs.single (muxStepMachine R) s (.transport event)
  | poll env =>
      simp only [steps, muxMachine, poll]
      cases s.mux with
      | none => exact .nil _ s
      | some capacity =>
          dsimp only
          by_cases hstarted : s.started = true
          · rw [if_neg (not_not.mpr hstarted), if_neg (not_not.mpr hstarted)]
            have hfirst := ((runs_acceptSteps (R := R) capacity s
              env.arrivals).append _ (runs_passSteps _ env.beforeFirstPass))
            have hpolled := hfirst.append _ (runs_pollSteps env.slot _
              ((processDisconnected R
                ((acceptNewConnections R capacity s
                  env.arrivals).state.transportAll
                    env.beforeFirstPass)).state.slots.map (·.number)))
            split
            · rw [List.append_nil]
              exact hpolled
            · exact hpolled.append _ (runs_passSteps _ env.beforeLastPass)
          · rw [if_pos hstarted, if_pos hstarted]
            exact .nil _ s
  | call net actionName call =>
      exact Machine.Runs.single (muxStepMachine R) s
        (.call net actionName call)
  | opened expectedCount =>
      exact Machine.Runs.single (muxStepMachine R) s (.opened expectedCount)
  | started ok => exact Machine.Runs.single (muxStepMachine R) s (.started ok)
  | stop => exact Machine.Runs.single (muxStepMachine R) s .stop

/-- Every small step of an input satisfies a condition. -/
def StepsSatisfy (R : PduRegistry)
    (C : ActionServicesMuxServer → MuxStep → Prop)
    (s : ActionServicesMuxServer) (i : MuxInput) : Prop :=
  (muxStepMachine R).Along C s (steps R s i)

instance decidableStepsSatisfy (R : PduRegistry)
    (C : ActionServicesMuxServer → MuxStep → Prop)
    [∀ s i, Decidable (C s i)] (s : ActionServicesMuxServer) (i : MuxInput) :
    Decidable (StepsSatisfy R C s i) :=
  inferInstanceAs (Decidable ((muxStepMachine R).Along C s (steps R s i)))

/-- A run of the server is a run of small steps, with the same observations, and
satisfies what its small steps satisfy. -/
theorem exists_steps (R : PduRegistry)
    {C : ActionServicesMuxServer → MuxStep → Prop}
    {s : ActionServicesMuxServer} {is : List MuxInput}
    (hrun : (muxMachine R).Along (StepsSatisfy R C) s is) :
    ∃ js, (muxStepMachine R).Along C s js ∧
      (muxMachine R).run s is = (muxStepMachine R).run s js ∧
      (muxMachine R).trace s is = (muxStepMachine R).trace s js := by
  induction is generalizing s with
  | nil => exact ⟨[], trivial, rfl, rfl⟩
  | cons i is ih =>
      obtain ⟨js, halong, hstate, htrace⟩ := ih hrun.2
      have hhead := runs_steps (R := R) s i
      rw [← hhead.run_eq] at halong hstate htrace
      refine ⟨steps R s i ++ js, Machine.Along.append _ hrun.1 halong, ?_, ?_⟩
      · rw [Machine.run_cons, Machine.run_append, ← hhead.run_eq, hstate]
      · rw [Machine.trace_cons, Machine.trace_append, ← hhead.run_eq,
          ← hhead.trace_eq, htrace]

/-- What the admitted small steps keep holds before each of them. -/
theorem stepsSatisfy_before {C : ActionServicesMuxServer → MuxStep → Prop}
    {I : ActionServicesMuxServer → Prop}
    (hstep : ∀ s j, C s j → I s → I ((muxStepMachine R).step s j).1)
    {s : ActionServicesMuxServer} (hs : I s) {is : List MuxInput}
    (hrun : (muxMachine R).Along (StepsSatisfy R C) s is) :
    (muxMachine R).Along (StepsSatisfy R fun s j => I s ∧ C s j) s is := by
  induction is generalizing s with
  | nil => trivial
  | cons i is ih =>
      refine ⟨Machine.Along.before _ hstep hs hrun.1, ih ?_ hrun.2⟩
      rw [← (runs_steps (R := R) s i).run_eq]
      exact (muxStepMachine R).invariant hstep hs hrun.1

/-- The server and what was seen in the course of a run, between two inputs or
between two small steps of `poll()`. -/
def Reaches (R : PduRegistry) (start s : ActionServicesMuxServer)
    (seen : List MuxObs) : Prop :=
  ∃ is i past future,
    steps R ((muxMachine R).run start is) i = past ++ future ∧
    s = (muxStepMachine R).run ((muxMachine R).run start is) past ∧
    seen = (muxMachine R).trace start is ++
      (muxStepMachine R).trace ((muxMachine R).run start is) past

/-- The end of a run is reached. -/
theorem reaches_run (R : PduRegistry) (start : ActionServicesMuxServer)
    (is : List MuxInput) :
    Reaches R start ((muxMachine R).run start is)
      ((muxMachine R).trace start is) :=
  ⟨is, .stop, [], [.stop], rfl, rfl, (List.append_nil _).symm⟩

/-- In the course of a run the server has made small steps. -/
theorem Reaches.exists_steps {R : PduRegistry}
    {start s : ActionServicesMuxServer} {seen : List MuxObs}
    (h : Reaches R start s seen) :
    ∃ js, s = (muxStepMachine R).run start js ∧
      seen = (muxStepMachine R).trace start js := by
  obtain ⟨is, i, past, future, -, rfl, rfl⟩ := h
  have hrun : (muxMachine R).Along (StepsSatisfy R fun _ _ => True) start is :=
    (muxMachine R).along_of_forall (fun _ _ _ =>
      (muxStepMachine R).along_of_forall (fun _ _ _ => trivial) _) start
  obtain ⟨js, -, hstate, htrace⟩ := ActionServicesMuxServer.exists_steps R hrun
  refine ⟨js ++ past, ?_, ?_⟩
  · rw [Machine.run_append, hstate]
  · rw [Machine.trace_append, hstate, htrace]

end ActionServicesMuxServer

end HakoPduRpc.Action
