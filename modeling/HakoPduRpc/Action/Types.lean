import Mathlib.Data.List.Lex
import Mathlib.Data.Nat.Basic
import Mathlib.Order.Lattice

/-!
# Action values shared by client and server

Goal identities, the enumerations of `action_types.hpp` and the events that the
two services hand to the application.
-/

namespace HakoPduRpc

/-- The bytes of one packet. -/
abbrev PduData := List UInt8

/-- `hakoniwa::pdu::PduResolvedKey`: a robot name and a channel. -/
structure PduResolvedKey where
  robot : String
  channelId : UInt32
deriving DecidableEq, Repr

namespace Action

/-! ## Goal identities -/

/-- `GoalId`: sixteen bytes. -/
structure GoalId where
  bytes : List UInt8
  length_bytes : bytes.length = 16
deriving Repr

namespace GoalId

/-- The bytes as numbers, which is the order `std::array` compares in. -/
def digits (g : GoalId) : List ℕ := g.bytes.map UInt8.toNat

theorem digits_injective : Function.Injective digits := by
  intro g h heq
  have hbytes : g.bytes = h.bytes :=
    List.map_injective_iff.mpr (fun a b hab => UInt8.toNat_inj.mp hab) heq
  cases g
  cases h
  simpa using hbytes

instance : LinearOrder GoalId := LinearOrder.lift' digits digits_injective

end GoalId

/-- `is_valid_goal_id`: some byte is not zero. -/
def isValidGoalId (g : GoalId) : Bool := g.bytes.any (· ≠ 0)

/-- `ClientGoalHandle`. -/
structure ClientGoalHandle where
  goalId : GoalId
deriving DecidableEq

def ClientGoalHandle.valid (h : ClientGoalHandle) : Bool :=
  isValidGoalId h.goalId

/-- `ServerGoalHandle`. -/
structure ServerGoalHandle where
  goalId : GoalId
deriving DecidableEq

def ServerGoalHandle.valid (h : ServerGoalHandle) : Bool :=
  isValidGoalId h.goalId

/-! ## Enumerations -/

/-- Synchronous result of submitting a new Goal. -/
inductive GoalSendResult
  | success
  | invalidArgument
  | actionNotFound
  | notInitialized
  | duplicateGoal
  | noFreeSlot
  | invalidPacket
  | transportError
deriving DecidableEq, Repr

/-- `Decision`; `UNSPECIFIED` and `NONE` of the source share the value `0`. -/
inductive Decision
  | unspecified
  | accepted
  | rejected
deriving DecidableEq, Repr

inductive TerminalStatus
  | unspecified
  | succeeded
  | canceled
  | aborted
deriving DecidableEq, Repr

inductive GoalState
  | unspecified
  | executing
  | canceling
  | finishing
deriving DecidableEq, Repr

inductive RuntimeCancelCause
  | unspecified
  | transportDisconnected
  | serverShutdown
  | internalPolicy
deriving DecidableEq, Repr

/-- `static_cast<std::uint8_t>(Decision)`. -/
def Decision.code : Decision → UInt8
  | .unspecified => 0
  | .accepted => 1
  | .rejected => 2

/-- `static_cast<std::uint8_t>(TerminalStatus)`. -/
def TerminalStatus.code : TerminalStatus → UInt8
  | .unspecified => 0
  | .succeeded => 1
  | .canceled => 2
  | .aborted => 3

/-- `static_cast<Decision>(std::uint8_t)` on the values the enumeration has. -/
def Decision.ofCode (code : UInt8) : Decision :=
  if code = 1 then .accepted else if code = 2 then .rejected else .unspecified

/-- `static_cast<TerminalStatus>(std::uint8_t)` on the values the enumeration
has. -/
def TerminalStatus.ofCode (code : UInt8) : TerminalStatus :=
  if code = 1 then .succeeded
  else if code = 2 then .canceled
  else if code = 3 then .aborted
  else .unspecified

@[simp] theorem Decision.ofCode_code (d : Decision) :
    Decision.ofCode d.code = d := by
  cases d <;> decide

@[simp] theorem TerminalStatus.ofCode_code (s : TerminalStatus) :
    TerminalStatus.ofCode s.code = s := by
  cases s <;> decide

theorem TerminalStatus.code_injective : Function.Injective TerminalStatus.code :=
  Function.LeftInverse.injective TerminalStatus.ofCode_code

/-! ## Events -/

inductive ClientEventType
  | none
  | goalResponse
  | feedback
  | cancelResponse
  | result
  | timeout
  | error
deriving DecidableEq, Repr

inductive ServerEventType
  | none
  | goalRequest
  | cancelRequest
  | runtimeCancelRequest
  | error
deriving DecidableEq, Repr

/-- `ClientEvent`, as it leaves `poll()` with an event type other than `NONE`. -/
structure ClientEvent where
  type : ClientEventType
  actionName : String
  goal : ClientGoalHandle
  decision : Decision := .unspecified
  terminalStatus : TerminalStatus := .unspecified
  feedbackSequence : UInt32 := 0
  pdu : PduData := []
deriving DecidableEq

/-- `ServerEvent`, as it leaves `poll()` with an event type other than `NONE`. -/
structure ServerEvent where
  type : ServerEventType
  goal : ServerGoalHandle
  runtimeCancelCause : RuntimeCancelCause := .unspecified
  actionName : String
  pdu : PduData := []
deriving DecidableEq

end Action

end HakoPduRpc
