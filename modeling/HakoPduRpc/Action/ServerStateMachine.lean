import HakoPduRpc.Action.Types

/-!
# The server Goal state machine

`action_server_state_machine.cpp`: the context of one accepted Goal and its
transition function.  Every transition keeps the context valid, and a
transition that is not `TRANSITIONED` keeps it unchanged; the two facts are all
the services layer needs to know about events it does not name.
-/

namespace HakoPduRpc.Action

inductive CancelOrigin
  | none
  | client
  | runtime
deriving DecidableEq, Repr

inductive ServerGoalEvent
  | publishFeedback
  | completeSucceeded
  | completeCanceled
  | completeAborted
  | completeUnspecified
  | acceptCancel
  | rejectCancel
  | cancelRequestReceived
  | duplicateCancelRequestReceived
  | duplicateGoalRequestReceived
  | feedbackSendCompleted
  | feedbackSendFailed
  | resultSendCompleted
  | resultSendFailed
  | transportDisconnected
  | runtimeCancelRequested
  | applicationResponseTimeout
  | serverShutdownRequested
deriving DecidableEq, Repr

/-- `ServerGoalContext`. -/
structure ServerGoalContext where
  state : GoalState := .executing
  cancelDecisionPending : Bool := false
  cancelOrigin : CancelOrigin := .none
  terminalStatus : TerminalStatus := .unspecified
deriving DecidableEq, Repr

inductive ServerTransitionKind
  | transitioned
  | nop
  | error
deriving DecidableEq, Repr

inductive ServerTransitionError
  | none
  | invalidContext
  | eventNotAllowed
  | cancelDecisionNotPending
  | invalidTerminalStatus
  | unknownEvent
deriving DecidableEq, Repr

/-- `ServerTransition`. -/
structure ServerTransition where
  kind : ServerTransitionKind
  next : ServerGoalContext
  error : ServerTransitionError := .none
deriving DecidableEq, Repr

/-- `is_valid_server_context`. -/
def isValidServerContext (context : ServerGoalContext) : Bool :=
  if context.state ≠ .executing ∧ context.state ≠ .canceling ∧
      context.state ≠ .finishing then false
  else if context.cancelDecisionPending ≠
      decide (context.cancelOrigin ≠ .none) then false
  else if context.cancelDecisionPending = true ∧
      context.state ≠ .executing then false
  else if context.state = .finishing then
    context.terminalStatus = .succeeded ∨
      context.terminalStatus = .canceled ∨
      context.terminalStatus = .aborted
  else context.terminalStatus = .unspecified

/-- The states and statuses of `complete_server_goal` and
`validate_terminal_packet_locked`: an executing Goal may succeed or abort, a
canceling one may be canceled or abort. -/
def terminalAllowed (executing canceling : Bool) (status : TerminalStatus) :
    Bool :=
  (executing = true ∧ (status = .succeeded ∨ status = .aborted)) ∨
    (canceling = true ∧ (status = .canceled ∨ status = .aborted))

/-- `complete_server_goal`. -/
def completeServerGoal (current : ServerGoalContext)
    (status : TerminalStatus) : ServerTransition :=
  if ¬terminalAllowed (current.state = .executing)
      (current.state = .canceling) status then
    { kind := .error
      next := current
      error :=
        if status = .unspecified then .invalidTerminalStatus
        else .eventNotAllowed }
  else
    { kind := .transitioned
      next :=
        { state := .finishing
          cancelDecisionPending := false
          cancelOrigin := .none
          terminalStatus := status } }

/-- `transition_server_goal`. -/
def transitionServerGoal (current : ServerGoalContext)
    (event : ServerGoalEvent) : ServerTransition :=
  let nop : ServerTransition := { kind := .nop, next := current }
  let fail (error : ServerTransitionError) : ServerTransition :=
    { kind := .error, next := current, error := error }
  if ¬isValidServerContext current then fail .invalidContext
  else
    match event with
    | .publishFeedback =>
        if current.state = .executing ∨ current.state = .canceling then nop
        else fail .eventNotAllowed
    | .completeSucceeded => completeServerGoal current .succeeded
    | .completeCanceled => completeServerGoal current .canceled
    | .completeAborted => completeServerGoal current .aborted
    | .completeUnspecified => fail .invalidTerminalStatus
    | .acceptCancel | .rejectCancel =>
        if current.state ≠ .executing then fail .eventNotAllowed
        else if current.cancelDecisionPending = false ∨
            current.cancelOrigin = .none then fail .cancelDecisionNotPending
        else
          { kind := .transitioned
            next :=
              { current with
                state :=
                  if event = .acceptCancel then .canceling else .executing
                cancelDecisionPending := false
                cancelOrigin := .none } }
    | .cancelRequestReceived =>
        if current.state ≠ .executing ∨
            current.cancelDecisionPending = true then nop
        else
          { kind := .transitioned
            next :=
              { current with
                cancelDecisionPending := true
                cancelOrigin := .client } }
    | .duplicateCancelRequestReceived => nop
    | .duplicateGoalRequestReceived => nop
    | .feedbackSendCompleted => nop
    | .feedbackSendFailed => nop
    | .resultSendCompleted =>
        if current.state = .finishing then nop else fail .eventNotAllowed
    | .resultSendFailed =>
        if current.state = .finishing then nop else fail .eventNotAllowed
    | .transportDisconnected => nop
    | .applicationResponseTimeout => nop
    | .serverShutdownRequested => nop
    | .runtimeCancelRequested =>
        if current.state = .canceling then nop
        else if current.state = .finishing then nop
        else if current.cancelDecisionPending = true then
          if current.cancelOrigin = .runtime then nop
          else
            -- a pending Client decision is reclassified, not answered
            { kind := .transitioned
              next := { current with cancelOrigin := .runtime } }
        else
          { kind := .transitioned
            next :=
              { current with
                cancelDecisionPending := true
                cancelOrigin := .runtime } }

/-- The completion event that `complete_goal_locked` derives from a status. -/
def completionEvent : TerminalStatus → ServerGoalEvent
  | .succeeded => .completeSucceeded
  | .canceled => .completeCanceled
  | .aborted => .completeAborted
  | .unspecified => .completeUnspecified

end HakoPduRpc.Action
