import HakoPduRpc.Action.Types

/-!
# The client Goal state machine

`action_client_state_machine.cpp`: the context of one accepted Goal on the
client side and its transition function.
-/

namespace HakoPduRpc.Action

inductive ClientGoalEventType
  | requestCancel
  | feedbackReceived
  | cancelResponseAccepted
  | cancelResponseRejected
  | resultReceived
  | cancelRequestSendFailed
  | cancelResponseTimeout
  | resultTimeout
  | transportDisconnected
  | clientShutdownRequested
deriving DecidableEq, Repr

/-- `ClientGoalEvent`. -/
structure ClientGoalEvent where
  type : ClientGoalEventType
  terminalStatus : TerminalStatus := .unspecified
  feedbackSequence : UInt32 := 0
deriving DecidableEq, Repr

/-- `ClientGoalContext`. -/
structure ClientGoalContext where
  state : GoalState := .executing
  cancelResponsePending : Bool := false
  resultPending : Bool := true
  nextFeedbackSequence : UInt32 := 0
  terminalStatus : TerminalStatus := .unspecified
deriving DecidableEq, Repr

inductive ClientTransitionKind
  | transitioned
  | nop
  | error
deriving DecidableEq, Repr

inductive ClientTransitionError
  | none
  | invalidContext
  | eventNotAllowed
  | cancelRequestAlreadyPending
  | unknownEvent
deriving DecidableEq, Repr

/-- `ClientTransition`. -/
structure ClientTransition where
  kind : ClientTransitionKind
  next : ClientGoalContext
  error : ClientTransitionError := .none
deriving DecidableEq, Repr

/-- `is_valid_client_context`. -/
def isValidClientContext (context : ClientGoalContext) : Bool :=
  if context.state ≠ .executing ∧ context.state ≠ .canceling ∧
      context.state ≠ .finishing then false
  else if context.cancelResponsePending = true ∧
      context.state ≠ .executing then false
  else if context.state = .finishing then
    context.resultPending = false ∧
      (context.terminalStatus = .succeeded ∨
        context.terminalStatus = .canceled ∨
        context.terminalStatus = .aborted)
  else
    context.resultPending = true ∧ context.terminalStatus = .unspecified

/-- `receive_client_result`. -/
def receiveClientResult (current : ClientGoalContext)
    (status : TerminalStatus) : ClientTransition :=
  if current.state = .finishing then { kind := .nop, next := current }
  else if ¬((current.state = .executing ∧
        (status = .succeeded ∨ status = .aborted)) ∨
      (current.state = .canceling ∧
        (status = .canceled ∨ status = .aborted))) then
    { kind := .nop, next := current }
  else
    { kind := .transitioned
      next :=
        { current with
          state := .finishing
          cancelResponsePending := false
          resultPending := false
          terminalStatus := status } }

/-- `transition_client_goal`. -/
def transitionClientGoal (current : ClientGoalContext)
    (event : ClientGoalEvent) : ClientTransition :=
  let nop : ClientTransition := { kind := .nop, next := current }
  let fail (error : ClientTransitionError) : ClientTransition :=
    { kind := .error, next := current, error := error }
  if ¬isValidClientContext current then fail .invalidContext
  else
    match event.type with
    | .requestCancel =>
        if current.state ≠ .executing then fail .eventNotAllowed
        else if current.cancelResponsePending = true then
          fail .cancelRequestAlreadyPending
        else
          { kind := .transitioned
            next := { current with cancelResponsePending := true } }
    | .feedbackReceived =>
        if current.state = .finishing ∨
            event.feedbackSequence ≠ current.nextFeedbackSequence then nop
        else
          { kind := .transitioned
            next :=
              { current with
                nextFeedbackSequence := current.nextFeedbackSequence + 1 } }
    | .cancelResponseAccepted =>
        if current.state = .canceling then nop
        else if current.state ≠ .executing ∨
            current.cancelResponsePending = false then nop
        else
          { kind := .transitioned
            next :=
              { current with
                state := .canceling
                cancelResponsePending := false } }
    | .cancelResponseRejected =>
        if current.state ≠ .executing ∨
            current.cancelResponsePending = false then nop
        else
          { kind := .transitioned
            next := { current with cancelResponsePending := false } }
    | .resultReceived => receiveClientResult current event.terminalStatus
    | .cancelRequestSendFailed =>
        if current.state = .executing ∧
            current.cancelResponsePending = true then
          { kind := .transitioned
            next := { current with cancelResponsePending := false } }
        else fail .eventNotAllowed
    | .cancelResponseTimeout => nop
    | .resultTimeout => nop
    | .transportDisconnected => nop
    | .clientShutdownRequested => nop

end HakoPduRpc.Action
