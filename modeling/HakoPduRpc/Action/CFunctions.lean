import HakoPduRpc.Action.CInterface

/-!
# The calls of the C interface

The functions of `c_action.cpp` that an application calls besides polling.  The
functions that name a Goal check in one order: the pointers, texts and sizes,
then that the handle is started, then the Goal ID.  Only a call that passes the
three reaches the services.  The functions that create a packet check the same
without a Goal ID.

A pointer of the C interface is an `Option`, `none` for null; bytes with their
size are a list, empty for the size `0`.
-/

namespace HakoPduRpc
namespace Action
namespace CInterface

/-- `hako_pdu_action_error_t`, of all functions. -/
inductive ErrorCode
  | ok
  | invalidArgument
  | initializeError
  | start
  | notRunning
  | send
  | bufferTooSmall
  | notFound
  | invalidState
  | duplicateGoal
  | noFreeSlot
  | invalidPacket
  | internal
deriving DecidableEq, Repr

/-- The code of an error of the polling functions. -/
def ActionError.code : ActionError → ErrorCode
  | .ok => .ok
  | .invalidArgument => .invalidArgument
  | .notRunning => .notRunning
  | .bufferTooSmall => .bufferTooSmall
  | .internal => .internal

/-- `map_goal_send_result`. -/
def mapGoalSendResult : GoalSendResult → ErrorCode
  | .success => .ok
  | .invalidArgument => .invalidArgument
  | .actionNotFound => .notFound
  | .notInitialized => .initializeError
  | .duplicateGoal => .duplicateGoal
  | .noFreeSlot => .noFreeSlot
  | .invalidPacket => .invalidPacket
  | .transportError => .send

/-- `hako_pdu_action_terminal_status_t`; a C caller can pass any number. -/
abbrev RawStatus := ℕ

/-- `to_cpp_status`. -/
def toCppStatus : RawStatus → TerminalStatus
  | 1 => .succeeded
  | 2 => .canceled
  | 3 => .aborted
  | _ => .unspecified

/-- `valid_text`. -/
def validText (value : Option String) : Bool := value.any (· ≠ "")

/-- `pdu != nullptr && pdu_size != 0`. -/
def validPdu (pdu : Option PduData) : Bool := pdu.any fun p => !p.isEmpty

/-- What a function gives its caller: its code, `out_goal` where it has one, and
the size and the bytes of the packet that it has written out. -/
structure Returned where
  code : ErrorCode
  outGoal : Option GoalId := none
  outSize : ℕ := 0
  pdu : Option PduData := none
deriving DecidableEq

section Bodies

variable {σ ε ω : Type} (h : Handle σ ε)

/-- The body of the functions that name a Goal; `arguments` are the checks of
their other arguments, and `call` is the call of the services. -/
def goalFunction (actionName : Option String) (goal : Option GoalId)
    (arguments : Bool) (call : String → GoalId → Outcome σ ω Returned) :
    Outcome (Handle σ ε) ω Returned :=
  match actionName, goal with
  | some actionName, some goalId =>
      if ¬validText (some actionName) ∨ ¬arguments then
        { state := h, result := { code := .invalidArgument } }
      else if ¬h.started then
        { state := h, result := { code := .notRunning } }
      else if ¬isValidGoalId goalId then
        { state := h, result := { code := .invalidArgument } }
      else
        (call actionName goalId).embed fun services =>
          { h with services := services }
  | _, _ => { state := h, result := { code := .invalidArgument } }

/-- The body of the functions that create a packet, with a buffer of the caller
and with one that they allocate. -/
def bufferFunction (actionName : Option String) (delivery : Delivery)
    (create : String → Option PduData) : Outcome (Handle σ ε) ω Returned :=
  match actionName, delivery with
  | none, _ => { state := h, result := { code := .invalidArgument } }
  | _, .invalid => { state := h, result := { code := .invalidArgument } }
  | some actionName, delivery =>
      if ¬validText (some actionName) then
        { state := h, result := { code := .invalidArgument } }
      else if ¬h.started then
        { state := h, result := { code := .notRunning } }
      else
        match create actionName with
        | none => { state := h, result := { code := .notFound } }
        | some pdu =>
            { state := h
              result :=
                { code := (delivery.deliver pdu).code
                  outSize := delivery.outSize pdu
                  pdu := if delivery.deliver pdu = .ok then some pdu else none } }

end Bodies

end CInterface

/-! ## The packets that the services create -/

/-- `ActionServicesClient::create_goal_buffer`. -/
def ActionServicesClient.createGoalBuffer (R : PduRegistry)
    (s : ActionServicesClient) (actionName : String) : Option PduData :=
  if actionName = "" then none
  else (s.getAction actionName).bind fun inst => inst.endpoint.createGoalBuffer R

/-- `ActionServicesServer::create_feedback_buffer`. -/
def ActionServicesServer.createFeedbackBuffer (R : PduRegistry)
    (s : ActionServicesServer) (actionName : String) : Option PduData :=
  if actionName = "" then none
  else
    (s.getAction actionName).bind fun inst =>
      inst.endpoint.createFeedbackBuffer R

/-- `ActionServicesServer::create_result_buffer`. -/
def ActionServicesServer.createResultBuffer (R : PduRegistry)
    (s : ActionServicesServer) (actionName : String) : Option PduData :=
  if actionName = "" then none
  else
    (s.getAction actionName).bind fun inst =>
      inst.endpoint.createResultBuffer R

namespace CInterface

variable (R : PduRegistry) (net : SendOracle)

/-! ## The functions of the client -/

section Client

variable (h : Handle ActionServicesClient ClientEvent)

/-- `hako_pdu_action_client_send_goal`; `outGoal` says whether the caller gives a
place for the Goal, which is zero unless the Goal has been sent. -/
def clientSendGoal (now : UInt64) (actionName : Option String)
    (pdu : Option PduData) (goalId : Option GoalId) (outGoal : Bool)
    (timeoutUsec : UInt64) :
    Outcome (Handle ActionServicesClient ClientEvent) (String × ClientObs)
      Returned :=
  goalFunction h actionName goalId (validPdu pdu && outGoal)
    fun actionName goalId =>
      let sent := h.services.sendGoalWithResult R net now actionName
        (pdu.getD []) goalId timeoutUsec
      { state := sent.state
        result :=
          { code := mapGoalSendResult sent.result
            outGoal := if sent.result = .success then some goalId else none }
        effects := sent.effects }

/-- `hako_pdu_action_client_cancel_goal`. -/
def clientCancelGoal (actionName : Option String) (goal : Option GoalId) :
    Outcome (Handle ActionServicesClient ClientEvent) (String × ClientObs)
      Returned :=
  goalFunction h actionName goal true fun actionName goalId =>
    let sent := h.services.sendCancel R net actionName ⟨goalId⟩
    { state := sent.state
      result := { code := if sent.result then .ok else .invalidState }
      effects := sent.effects }

/-- `hako_pdu_action_client_create_goal_buffer` and
`hako_pdu_action_client_create_goal_buffer_alloc`. -/
def clientCreateGoalBuffer (actionName : Option String) (delivery : Delivery) :
    Outcome (Handle ActionServicesClient ClientEvent) (String × ClientObs)
      Returned :=
  bufferFunction h actionName delivery (h.services.createGoalBuffer R)

end Client

/-! ## The functions of the server -/

section Server

variable (h : Handle ActionServicesServer ServerEvent)

/-- The functions of the server that name a Goal. -/
def serverGoalFunction (actionName : Option String) (goal : Option GoalId)
    (arguments : Bool) (call : ServerGoalHandle → ServerCall) :
    Outcome (Handle ActionServicesServer ServerEvent) (String × ServerObs)
      Returned :=
  goalFunction h actionName goal arguments fun actionName goalId =>
    let done := h.services.call R net actionName (call ⟨goalId⟩)
    { state := done.state
      result := { code := if done.result then .ok else .invalidState }
      effects := done.effects }

/-- `hako_pdu_action_server_accept_goal`. -/
def serverAcceptGoal (actionName : Option String) (goal : Option GoalId) :=
  serverGoalFunction R net h actionName goal true .acceptGoal

/-- `hako_pdu_action_server_reject_goal`. -/
def serverRejectGoal (actionName : Option String) (goal : Option GoalId) :=
  serverGoalFunction R net h actionName goal true .rejectGoal

/-- `hako_pdu_action_server_accept_cancel`. -/
def serverAcceptCancel (actionName : Option String) (goal : Option GoalId) :=
  serverGoalFunction R net h actionName goal true .acceptCancel

/-- `hako_pdu_action_server_reject_cancel`. -/
def serverRejectCancel (actionName : Option String) (goal : Option GoalId) :=
  serverGoalFunction R net h actionName goal true .rejectCancel

/-- `hako_pdu_action_server_send_feedback`. -/
def serverSendFeedback (actionName : Option String) (goal : Option GoalId)
    (pdu : Option PduData) :=
  serverGoalFunction R net h actionName goal (validPdu pdu) fun goal =>
    .sendFeedback goal (pdu.getD [])

/-- `valid_status` of `hako_pdu_action_server_complete`. -/
def validStatus (status : RawStatus) : Bool :=
  status = 1 ∨ status = 2 ∨ status = 3

/-- `hako_pdu_action_server_complete`. -/
def serverComplete (actionName : Option String) (goal : Option GoalId)
    (status : RawStatus) (pdu : Option PduData) :=
  serverGoalFunction R net h actionName goal (validPdu pdu && validStatus status)
    fun goal => .complete goal (toCppStatus status) (pdu.getD [])

/-- `hako_pdu_action_server_create_feedback_buffer` and
`hako_pdu_action_server_create_feedback_buffer_alloc`. -/
def serverCreateFeedbackBuffer (actionName : Option String)
    (delivery : Delivery) :
    Outcome (Handle ActionServicesServer ServerEvent) (String × ServerObs)
      Returned :=
  bufferFunction h actionName delivery (h.services.createFeedbackBuffer R)

/-- `hako_pdu_action_server_create_result_buffer` and
`hako_pdu_action_server_create_result_buffer_alloc`. -/
def serverCreateResultBuffer (actionName : Option String)
    (delivery : Delivery) :
    Outcome (Handle ActionServicesServer ServerEvent) (String × ServerObs)
      Returned :=
  bufferFunction h actionName delivery (h.services.createResultBuffer R)

end Server

end CInterface
end Action
end HakoPduRpc
