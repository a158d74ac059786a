import HakoPduRpc.Action.ServerStateMachine
import HakoPduRpc.Action.Wire
import HakoPduRpc.Lib.SlotTable
import HakoPduRpc.Pdu.Outcome

/-!
# The server packet endpoint

`ActionServerEndpointImpl`: bindings between Goals and slots, the queue of
received packets, and the wire operations.  The four decision operations of the
source share one body (`respond`); `complete` and `sendFeedback` keep their own.

`goalErrorReason` and `ignoredCancelReason` are the branch conditions of
`poll()` with the reason texts the source attaches to them.
-/

namespace HakoPduRpc.Action

/-- `PacketBindingState`. -/
inductive PacketBindingState
  | awaitingGoalDecision
  | goalAccepted
  | cancelAccepted
  | resultCommitted
deriving DecidableEq, Repr

/-- `ActionPacketBinding`. -/
structure ActionPacketBinding where
  goalId : GoalId
  slotIndex : ℕ
  state : PacketBindingState := .awaitingGoalDecision
  nextFeedbackSequence : UInt32 := 0
  cancelDecisionPending : Bool := false
deriving DecidableEq

/-- `PendingPacket` of the server endpoint. -/
structure ServerPendingPacket where
  slotIndex : ℕ
  pdu : PduData
deriving DecidableEq

inductive CompleteResult
  | notCommitted
  | sent
  | sendFailedAfterCommit
deriving DecidableEq, Repr

/-- What the server does outside its own state: it calls `Endpoint::send`
(`errorReply` marks the automatic rejections of `send_goal_error_reply`), it
takes an automatic rejection branch, or it commits a terminal status. -/
inductive ServerEffect
  | send (errorReply : Bool) (key : PduResolvedKey) (data : PduData)
      (ok : Bool)
  | goalErrorReply (goalId : GoalId) (slotIndex : ℕ) (reason : String)
  | commit (goalId : GoalId) (status : TerminalStatus)
deriving DecidableEq

/-- The state of `ActionServerEndpointImpl`. -/
structure ActionServerEndpointImpl where
  actionName : String
  initialized : Bool := false
  slotRouting : List SlotRouting := []
  slotOwners : List (Option GoalId) := []
  packetBindings : OrdMap GoalId ActionPacketBinding := OrdMap.empty
  pendingEvents : List ServerEvent := []
  pendingPackets : List ServerPendingPacket := []

namespace ActionServerEndpointImpl

variable (R : PduRegistry) (net : SendOracle) (ep : ActionServerEndpointImpl)

/-! ## Packets -/

/-- `validate_request_header`. -/
def validateRequestHeader (header : ActionRequestHeader) : Bool :=
  header.version = actionProtocolVersion ∧
    (header.requestKind = requestKindGoal ∨
      header.requestKind = requestKindCancel) ∧
    isValidGoalId header.goalId = true

/-- `create_control_response_packet`. -/
def createControlResponsePacket : Option PduData :=
  match ep.slotRouting with
  | [] => none
  | routing :: _ => R.createPacketBuffer routing.responsePacketBaseSize 0

/-- The key and the bytes that `send_response_packet` hands to
`Endpoint::send`; `none` when it returns before the send. -/
def responsePacket (binding : ActionPacketBinding) (responseKind status : UInt8)
    (packet : PduData) : Option (PduResolvedKey × PduData) :=
  match ep.slotRouting[binding.slotIndex]? with
  | none => none
  | some routing =>
      if packet.isEmpty then none
      else
        match R.validatePacketCapacity packet routing.responsePacketBaseSize
            routing.responseHeapCapacity false with
        | none => none
        | some wireSize =>
            let header : ActionResponseHeader :=
              { version := actionProtocolVersion
                responseKind := responseKind
                status := status
                reserved := 0
                goalId := binding.goalId }
            match R.writeHeader R.responseHeader packet header with
            | none => none
            | some packet =>
                some (routing.response, packet.take wireSize.toNat)

/-- The checks of `poll()` on a packet taken from the queue. -/
def readRequest (packet : ServerPendingPacket) : Option ActionRequestHeader :=
  match ep.slotRouting[packet.slotIndex]? with
  | none => none
  | some routing =>
      match R.validatePacketCapacity packet.pdu routing.requestPacketBaseSize
          routing.requestHeapCapacity true with
      | none => none
      | some _ =>
          match R.decodeHeader R.requestHeader packet.pdu with
          | none => none
          | some header =>
              if validateRequestHeader header then some header else none

/-! ## Bindings -/

/-- `release_binding_locked`. -/
def releaseBinding (goalId : GoalId) (binding : ActionPacketBinding) :
    ActionServerEndpointImpl :=
  { ep with
    slotOwners :=
      if ep.slotOwners[binding.slotIndex]? = some (some goalId) then
        ep.slotOwners.set binding.slotIndex none
      else ep.slotOwners
    packetBindings := ep.packetBindings.erase goalId }

/-- Rewrite the binding of a Goal. -/
def modifyBinding (goalId : GoalId)
    (f : ActionPacketBinding → ActionPacketBinding) :
    ActionServerEndpointImpl :=
  { ep with packetBindings := ep.packetBindings.modify goalId f }

/-- The owner of a slot. -/
def slotOwner (slot : ℕ) : Option GoalId :=
  SlotTable.owner ep.slotOwners slot

/-! ## Receiving -/

/-- The receive callback subscribed for every request channel. -/
def receive (key : PduResolvedKey) (data : PduData) :
    ActionServerEndpointImpl :=
  { ep with
    pendingPackets := ep.pendingPackets ++
      (ep.slotRouting.filter fun routing => routing.request = key).map
        fun routing => { slotIndex := routing.slotIndex, pdu := data } }

/-- The reason for which `poll()` ignores a valid Cancel Request. -/
def ignoredCancelReason (goalId : GoalId) (slot : ℕ) : Option String :=
  match ep.packetBindings.find? goalId with
  | none => some "Goal is unknown or already completed"
  | some binding =>
      if binding.slotIndex ≠ slot then
        some "Goal is owned by a different slot"
      else
        match binding.state with
        | .awaitingGoalDecision => some "Goal acceptance has not completed"
        | .cancelAccepted => some "Cancel was already accepted"
        | .resultCommitted => some "terminal Result is already committed"
        | .goalAccepted =>
            if binding.cancelDecisionPending then
              some "a Cancel decision is already pending"
            else none

/-- The reason for which `poll()` rejects a valid Goal Request by itself. -/
def goalErrorReason (goalId : GoalId) (slot : ℕ) : Option String :=
  if ep.packetBindings.contains goalId then some "duplicate Goal ID"
  else if (ep.slotOwner slot).isSome then
    some "slot is already owned by another Goal"
  else none

/-- `send_goal_error_reply`. -/
def sendGoalErrorReply (goalId : GoalId) (slot : ℕ) (reason : String) :
    List ServerEffect :=
  .goalErrorReply goalId slot reason ::
    match createControlResponsePacket R ep with
    | none => []
    | some packet =>
        match responsePacket R ep { goalId := goalId, slotIndex := slot }
            responseKindGoal Decision.rejected.code packet with
        | none => []
        | some (key, data) => [.send true key data (net key data)]

/-- The part of `poll()` that handles a valid Cancel Request. -/
def handleCancelRequest (packet : ServerPendingPacket) (goalId : GoalId) :
    Outcome ActionServerEndpointImpl ServerEffect (Option ServerEvent) :=
  match ep.ignoredCancelReason goalId packet.slotIndex with
  | some _ => { state := ep, result := none }
  | none =>
      { state := ep.modifyBinding goalId fun binding =>
          { binding with cancelDecisionPending := true }
        result := some
          { type := .cancelRequest
            goal := ⟨goalId⟩
            actionName := ep.actionName
            pdu := packet.pdu } }

/-- The part of `poll()` that handles a valid Goal Request. -/
def handleGoalRequest (packet : ServerPendingPacket) (goalId : GoalId) :
    Outcome ActionServerEndpointImpl ServerEffect (Option ServerEvent) :=
  match ep.goalErrorReason goalId packet.slotIndex with
  | some reason =>
      { state := ep
        result := none
        effects := sendGoalErrorReply R net ep goalId packet.slotIndex reason }
  | none =>
      { state :=
          { ep with
            slotOwners := ep.slotOwners.set packet.slotIndex (some goalId)
            packetBindings := ep.packetBindings.emplace goalId
              { goalId := goalId, slotIndex := packet.slotIndex } }
        result := some
          { type := .goalRequest
            goal := ⟨goalId⟩
            actionName := ep.actionName
            pdu := packet.pdu } }

/-- `poll`; `none` is `ServerEventType::NONE`. -/
def poll :
    Outcome ActionServerEndpointImpl ServerEffect (Option ServerEvent) :=
  if ¬ep.initialized then { state := ep, result := none }
  else
    match ep.pendingEvents with
    | event :: rest =>
        { state := { ep with pendingEvents := rest }, result := some event }
    | [] =>
        match ep.pendingPackets with
        | [] => { state := ep, result := none }
        | packet :: rest =>
            let ep := { ep with pendingPackets := rest }
            match readRequest R ep packet with
            | none => { state := ep, result := none }
            | some header =>
                if header.requestKind = requestKindCancel then
                  ep.handleCancelRequest packet header.goalId
                else handleGoalRequest R net ep packet header.goalId

/-! ## Decisions -/

/-- The body shared by `accept_goal`, `reject_goal`, `accept_cancel` and
`reject_cancel`: find the binding, check it, send a control response and, when
it was sent, commit the decision. -/
def respond (goal : ServerGoalHandle)
    (allowed : ActionPacketBinding → Bool) (responseKind : UInt8)
    (decision : Decision)
    (commit : ActionPacketBinding → ActionServerEndpointImpl) :
    Outcome ActionServerEndpointImpl ServerEffect Bool :=
  if ¬goal.valid ∨ ¬ep.initialized then { state := ep, result := false }
  else
    match ep.packetBindings.find? goal.goalId with
    | none => { state := ep, result := false }
    | some binding =>
        if ¬allowed binding then { state := ep, result := false }
        else
          match createControlResponsePacket R ep with
          | none => { state := ep, result := false }
          | some packet =>
              match responsePacket R ep binding responseKind decision.code
                  packet with
              | none => { state := ep, result := false }
              | some (key, data) =>
                  { state := if net key data then commit binding else ep
                    result := net key data
                    effects := [.send false key data (net key data)] }

/-- `accept_goal`. -/
def acceptGoal (goal : ServerGoalHandle) :
    Outcome ActionServerEndpointImpl ServerEffect Bool :=
  respond R net ep goal (fun binding => binding.state = .awaitingGoalDecision)
    responseKindGoal .accepted fun _ =>
      ep.modifyBinding goal.goalId fun binding =>
        { binding with state := .goalAccepted }

/-- `reject_goal`. -/
def rejectGoal (goal : ServerGoalHandle) :
    Outcome ActionServerEndpointImpl ServerEffect Bool :=
  respond R net ep goal (fun binding => binding.state = .awaitingGoalDecision)
    responseKindGoal .rejected fun binding =>
      ep.releaseBinding goal.goalId binding

/-- The binding may answer a Client Cancel Request. -/
def mayAnswerCancel (binding : ActionPacketBinding) : Bool :=
  binding.state = .goalAccepted ∧ binding.cancelDecisionPending = true

/-- `accept_cancel`. -/
def acceptCancel (goal : ServerGoalHandle) :
    Outcome ActionServerEndpointImpl ServerEffect Bool :=
  respond R net ep goal mayAnswerCancel responseKindCancel .accepted fun _ =>
    ep.modifyBinding goal.goalId fun binding =>
      { binding with state := .cancelAccepted, cancelDecisionPending := false }

/-- `reject_cancel`. -/
def rejectCancel (goal : ServerGoalHandle) :
    Outcome ActionServerEndpointImpl ServerEffect Bool :=
  respond R net ep goal mayAnswerCancel responseKindCancel .rejected fun _ =>
    ep.modifyBinding goal.goalId fun binding =>
      { binding with cancelDecisionPending := false }

/-- `accept_cancel_locally`. -/
def acceptCancelLocally (goal : ServerGoalHandle) :
    Outcome ActionServerEndpointImpl ServerEffect Bool :=
  if ¬goal.valid ∨ ¬ep.initialized then { state := ep, result := false }
  else
    match ep.packetBindings.find? goal.goalId with
    | none => { state := ep, result := false }
    | some binding =>
        if binding.state ≠ .goalAccepted then { state := ep, result := false }
        else
          { state := ep.modifyBinding goal.goalId fun binding =>
              { binding with
                state := .cancelAccepted
                cancelDecisionPending := false }
            result := true }

/-! ## Feedback and Result -/

/-- `create_result_buffer`. -/
def createResultBuffer : Option PduData :=
  match ep.slotRouting with
  | routing :: _ =>
      if ep.initialized then
        R.createPacketBuffer routing.responsePacketBaseSize
          routing.responseHeapCapacity
      else none
  | [] => none

/-- `create_feedback_buffer`. -/
def createFeedbackBuffer : Option PduData :=
  match ep.slotRouting with
  | routing :: _ =>
      if ep.initialized then
        R.createPacketBuffer routing.feedbackPacketBaseSize
          routing.feedbackHeapCapacity
      else none
  | [] => none

/-- The key and the bytes that `send_feedback` hands to `Endpoint::send`. -/
def feedbackPacket (binding : ActionPacketBinding) (goalId : GoalId)
    (feedbackPdu : PduData) : Option (PduResolvedKey × PduData) :=
  match ep.slotRouting[binding.slotIndex]? with
  | none => none
  | some routing =>
      match R.validatePacketCapacity feedbackPdu routing.feedbackPacketBaseSize
          routing.feedbackHeapCapacity false with
      | none => none
      | some wireSize =>
          let header : ActionFeedbackHeader :=
            { version := actionProtocolVersion
              reserved := (0, 0, 0)
              goalId := goalId
              sequenceNo := binding.nextFeedbackSequence }
          match R.writeHeader R.feedbackHeader feedbackPdu header with
          | none => none
          | some packet => some (routing.feedback, packet.take wireSize.toNat)

/-- `send_feedback`. -/
def sendFeedback (goal : ServerGoalHandle) (feedbackPdu : PduData) :
    Outcome ActionServerEndpointImpl ServerEffect Bool :=
  if ¬goal.valid ∨ ¬ep.initialized then { state := ep, result := false }
  else
    match ep.packetBindings.find? goal.goalId with
    | none => { state := ep, result := false }
    | some binding =>
        if binding.state ≠ .goalAccepted ∧
            binding.state ≠ .cancelAccepted then
          { state := ep, result := false }
        else
          match feedbackPacket R ep binding goal.goalId feedbackPdu with
          | none => { state := ep, result := false }
          | some (key, data) =>
              { state :=
                  if net key data then
                    ep.modifyBinding goal.goalId fun binding =>
                      { binding with
                        nextFeedbackSequence :=
                          binding.nextFeedbackSequence + 1 }
                  else ep
                result := net key data
                effects := [.send false key data (net key data)] }

/-- `validate_terminal_packet_locked`. -/
def validateTerminalPacket (binding : ActionPacketBinding)
    (status : TerminalStatus) (resultPdu : PduData) : Bool :=
  if ¬terminalAllowed (binding.state = .goalAccepted)
      (binding.state = .cancelAccepted) status then false
  else
    match ep.slotRouting[binding.slotIndex]? with
    | none => false
    | some routing =>
        (R.validatePacketCapacity resultPdu routing.responsePacketBaseSize
          routing.responseHeapCapacity false).isSome

/-- The binding after `complete` has committed a terminal status. -/
def committed (binding : ActionPacketBinding) : ActionPacketBinding :=
  { binding with state := .resultCommitted, cancelDecisionPending := false }

/-- `complete`. -/
def complete (goal : ServerGoalHandle) (status : TerminalStatus)
    (resultPdu : PduData) :
    Outcome ActionServerEndpointImpl ServerEffect CompleteResult :=
  if ¬goal.valid ∨ ¬ep.initialized then
    { state := ep, result := .notCommitted }
  else
    match ep.packetBindings.find? goal.goalId with
    | none => { state := ep, result := .notCommitted }
    | some binding =>
        if ¬validateTerminalPacket R ep binding status resultPdu then
          { state := ep, result := .notCommitted }
        else
          let ep := ep.modifyBinding goal.goalId committed
          match responsePacket R ep (committed binding) responseKindResult
              status.code resultPdu with
          | none =>
              { state := ep
                result := .sendFailedAfterCommit
                effects := [.commit goal.goalId status] }
          | some (key, data) =>
              { state :=
                  if net key data then
                    ep.releaseBinding goal.goalId (committed binding)
                  else ep
                result :=
                  if net key data then .sent else .sendFailedAfterCommit
                effects :=
                  [.commit goal.goalId status,
                    .send false key data (net key data)] }

/-- `complete_locally`. -/
def completeLocally (goal : ServerGoalHandle) (status : TerminalStatus)
    (resultPdu : PduData) :
    Outcome ActionServerEndpointImpl ServerEffect Bool :=
  if ¬goal.valid ∨ ¬ep.initialized then { state := ep, result := false }
  else
    match ep.packetBindings.find? goal.goalId with
    | none => { state := ep, result := false }
    | some binding =>
        if ¬validateTerminalPacket R ep binding status resultPdu then
          { state := ep, result := false }
        else
          { state := (ep.modifyBinding goal.goalId committed).releaseBinding
              goal.goalId (committed binding)
            result := true
            effects := [.commit goal.goalId status] }

/-- `discard_pending_goal`. -/
def discardPendingGoal (goal : ServerGoalHandle) :
    Outcome ActionServerEndpointImpl ServerEffect Bool :=
  if ¬goal.valid then { state := ep, result := false }
  else
    match ep.packetBindings.find? goal.goalId with
    | none => { state := ep, result := false }
    | some binding =>
        if binding.state ≠ .awaitingGoalDecision then
          { state := ep, result := false }
        else
          { state := ep.releaseBinding goal.goalId binding, result := true }

/-! ## Lifecycle -/

/-- `clear_pending_events`. -/
def clearPendingEvents : ActionServerEndpointImpl :=
  { ep with pendingEvents := [], pendingPackets := [] }

/-- `reset_contexts`. -/
def resetContexts : ActionServerEndpointImpl :=
  { ep with
    pendingEvents := []
    packetBindings := OrdMap.empty
    slotOwners := ep.slotOwners.map fun _ => none
    pendingPackets := [] }

/-- `initialize`; `none` when it returns `false`. -/
def initializeEndpoint (actionConfig : Json) : Option ActionServerEndpointImpl :=
  match parseAction actionConfig with
  | .error _ => none
  | .ok definition =>
      if definition.name ≠ ep.actionName then none
      else
        match parseRouting R ep.actionName definition with
        | none => none
        | some routing =>
            if ep.initialized then none
            else
              some
                { ep with
                  slotRouting := routing
                  -- `resize` on the empty vector of a fresh endpoint
                  slotOwners := List.replicate routing.length none
                  initialized := true }

/-! ## Reading the primitive updates -/

variable {R} {ep}

/-- What `initialize` makes of the endpoint when it succeeds. -/
theorem initializeEndpoint_ok {actionConfig : Json}
    {ep' : ActionServerEndpointImpl}
    (h : initializeEndpoint R ep actionConfig = some ep') :
    ∃ definition routing, parseAction actionConfig = .ok definition ∧
      definition.name = ep.actionName ∧
      parseRouting R ep.actionName definition = some routing ∧
      ep.initialized = false ∧
      ep' =
        { ep with
          slotRouting := routing
          slotOwners := List.replicate routing.length none
          initialized := true } := by
  unfold initializeEndpoint at h
  split at h
  · simp at h
  · next definition hparse =>
      split at h
      · simp at h
      · next hname =>
          split at h
          · simp at h
          · next routing hrouting =>
              split at h
              · simp at h
              · next hinit =>
                  exact ⟨definition, routing, hparse, not_not.mp hname,
                    hrouting, by simpa using hinit, (Option.some.inj h).symm⟩

/-- An endpoint is initialized only once. -/
theorem initializeEndpoint_again (hinit : ep.initialized = true)
    (actionConfig : Json) : initializeEndpoint R ep actionConfig = none := by
  cases h : initializeEndpoint R ep actionConfig with
  | none => rfl
  | some ep' =>
      obtain ⟨-, -, -, -, -, hfresh, -⟩ := initializeEndpoint_ok h
      rw [hinit] at hfresh
      cases hfresh

@[simp] theorem find?_modifyBinding (g g' : GoalId)
    (f : ActionPacketBinding → ActionPacketBinding) :
    (ep.modifyBinding g f).packetBindings.find? g' =
      if g' = g then (ep.packetBindings.find? g).map f
      else ep.packetBindings.find? g' :=
  OrdMap.find?_modify _ _ _ _

@[simp] theorem find?_releaseBinding (g g' : GoalId)
    (b : ActionPacketBinding) :
    (ep.releaseBinding g b).packetBindings.find? g' =
      if g' = g then none else ep.packetBindings.find? g' :=
  OrdMap.find?_erase _ _ _

/-! ## The slot store -/

/-- Owners and bindings describe the same relation between slots and Goals. -/
structure SlotStore (ep : ActionServerEndpointImpl) : Prop where
  consistent : SlotTable.Consistent ActionPacketBinding.slotIndex
    ep.slotOwners ep.packetBindings
  goalId_eq : ∀ {g b}, ep.packetBindings.find? g = some b → b.goalId = g
  length_eq : ep.slotOwners.length = ep.slotRouting.length

theorem SlotStore.modifyBinding (h : ep.SlotStore) (g : GoalId)
    {f : ActionPacketBinding → ActionPacketBinding}
    (hslot : ∀ b, (f b).slotIndex = b.slotIndex)
    (hgoal : ∀ b, (f b).goalId = b.goalId) :
    (ep.modifyBinding g f).SlotStore where
  consistent := h.consistent.modify g hslot
  goalId_eq := by
    intro g' b hb
    rw [find?_modifyBinding] at hb
    split_ifs at hb with hg
    · obtain ⟨b₀, hb₀, rfl⟩ := Option.map_eq_some_iff.mp hb
      rw [hgoal, hg]
      exact h.goalId_eq hb₀
    · exact h.goalId_eq hb
  length_eq := h.length_eq

theorem SlotStore.releaseBinding (h : ep.SlotStore) {g : GoalId}
    {b : ActionPacketBinding} (hb : ep.packetBindings.find? g = some b) :
    (ep.releaseBinding g b).SlotStore := by
  -- the owner of the slot is the Goal that is released
  have howner := (h.consistent b.slotIndex g).mpr ⟨b, hb, rfl⟩
  have hset : ep.releaseBinding g b =
      { ep with
        slotOwners := ep.slotOwners.set b.slotIndex none
        packetBindings := ep.packetBindings.erase g } := by
    rw [ActionServerEndpointImpl.releaseBinding, if_pos]
    simpa [SlotTable.owner, Option.join_eq_some_iff] using howner
  rw [hset]
  refine ⟨h.consistent.release hb, ?_, by simp [h.length_eq]⟩
  intro g' b' hb'
  simp only [OrdMap.find?_erase] at hb'
  split_ifs at hb' with hg
  exact h.goalId_eq hb'

theorem SlotStore.bind (h : ep.SlotStore) {g : GoalId}
    {b : ActionPacketBinding} (hlt : b.slotIndex < ep.slotOwners.length)
    (hfree : ep.slotOwner b.slotIndex = none)
    (hnew : ep.packetBindings.find? g = none) (hgoal : b.goalId = g) :
    ({ ep with
        slotOwners := ep.slotOwners.set b.slotIndex (some g)
        packetBindings := ep.packetBindings.emplace g b } :
      ActionServerEndpointImpl).SlotStore where
  consistent := h.consistent.emplace hlt hfree hnew
  goalId_eq := by
    intro g' b' hb'
    simp only [OrdMap.find?_emplace hnew] at hb'
    split_ifs at hb' with hg
    · rw [← Option.some.inj hb', hgoal, hg]
    · exact h.goalId_eq hb'
  length_eq := by simp [h.length_eq]

/-! ## What the operations send -/

variable {net}

/-- A response is the PDU of the caller with the header written into it. -/
theorem responsePacket_ok {b : ActionPacketBinding} {kind status : UInt8}
    {pdu : PduData} {key : PduResolvedKey} {data : PduData}
    (h : responsePacket R ep b kind status pdu = some (key, data)) :
    ∃ r wireSize packet, ep.slotRouting[b.slotIndex]? = some r ∧
      key = r.response ∧
      R.validatePacketCapacity pdu r.responsePacketBaseSize
        r.responseHeapCapacity false = some wireSize ∧
      R.writeHeader R.responseHeader pdu
        { version := actionProtocolVersion
          responseKind := kind
          status := status
          goalId := b.goalId } = some packet ∧
      data = packet.take wireSize.toNat := by
  unfold responsePacket at h
  split at h
  · simp at h
  · next r hr =>
      split_ifs at h
      split at h
      · simp at h
      · next wireSize hsize =>
          dsimp only at h
          split at h
          · simp at h
          · next packet hpacket =>
              simp only [Option.some.injEq, Prod.mk.injEq] at h
              exact ⟨r, wireSize, packet, hr, h.1.symm, hsize, hpacket,
                h.2.symm⟩

/-- A feedback packet is the PDU of the caller with the header written into
it. -/
theorem feedbackPacket_ok {b : ActionPacketBinding} {g : GoalId}
    {pdu : PduData} {key : PduResolvedKey} {data : PduData}
    (h : feedbackPacket R ep b g pdu = some (key, data)) :
    ∃ r wireSize packet, ep.slotRouting[b.slotIndex]? = some r ∧
      key = r.feedback ∧
      R.validatePacketCapacity pdu r.feedbackPacketBaseSize
        r.feedbackHeapCapacity false = some wireSize ∧
      R.writeHeader R.feedbackHeader pdu
        { version := actionProtocolVersion
          goalId := g
          sequenceNo := b.nextFeedbackSequence } = some packet ∧
      data = packet.take wireSize.toNat := by
  unfold feedbackPacket at h
  split at h
  · simp at h
  · next r hr =>
      split at h
      · simp at h
      · next wireSize hsize =>
          dsimp only at h
          split at h
          · simp at h
          · next packet hpacket =>
              simp only [Option.some.injEq, Prod.mk.injEq] at h
              exact ⟨r, wireSize, packet, hr, h.1.symm, hsize, hpacket,
                h.2.symm⟩

theorem responsePacket_carries (notice : Notice) {b : ActionPacketBinding}
    {kind status : UInt8}
    (hfields : notice.responseFields = some (kind, status)) {pdu : PduData}
    {key : PduResolvedKey} {data : PduData}
    (h : responsePacket R ep b kind status pdu = some (key, data)) :
    Carries R ep.slotRouting b.slotIndex b.goalId notice key data := by
  obtain ⟨r, wireSize, packet, hr, rfl, hsize, hpacket, rfl⟩ :=
    responsePacket_ok h
  refine ⟨r, hr, ?_⟩
  have hresponse : ∃ k s, notice.responseFields = some (k, s) ∧
      r.response = r.response ∧
      Encodes R R.responseHeader r.responsePacketBaseSize
        r.responseHeapCapacity
        { version := actionProtocolVersion
          responseKind := k
          status := s
          goalId := b.goalId } (packet.take wireSize.toNat) :=
    ⟨kind, status, hfields, rfl, pdu, wireSize, packet, hsize, hpacket, rfl⟩
  cases notice with
  | feedback n => simp [Notice.responseFields] at hfields
  | goalResponse d => exact hresponse
  | cancelResponse d => exact hresponse
  | result s => exact hresponse

theorem feedbackPacket_carries {b : ActionPacketBinding} {g : GoalId}
    {pdu : PduData} {key : PduResolvedKey} {data : PduData}
    (h : feedbackPacket R ep b g pdu = some (key, data)) :
    Carries R ep.slotRouting b.slotIndex g (.feedback b.nextFeedbackSequence)
      key data := by
  obtain ⟨r, wireSize, packet, hr, rfl, hsize, hpacket, rfl⟩ :=
    feedbackPacket_ok h
  exact ⟨r, hr, rfl, pdu, wireSize, packet, hsize, hpacket, rfl⟩

/-- What a decision sends was built from a fresh control packet. -/
theorem send_of_respond {goal : ServerGoalHandle}
    {allowed : ActionPacketBinding → Bool} {kind : UInt8}
    {decision : Decision}
    {commit : ActionPacketBinding → ActionServerEndpointImpl}
    {errorReply ok : Bool} {key : PduResolvedKey} {data : PduData}
    (h : .send errorReply key data ok ∈
      (ep.respond R net goal allowed kind decision commit).effects) :
    errorReply = false ∧ isValidGoalId goal.goalId = true ∧
      ∃ b p, ep.packetBindings.find? goal.goalId = some b ∧
        ep.createControlResponsePacket R = some p ∧
        responsePacket R ep b kind decision.code p = some (key, data) := by
  unfold respond at h
  split_ifs at h with hguard
  · simp at h
  · split at h
    · simp at h
    · next b hb =>
        split_ifs at h
        · split at h
          · simp at h
          · next p hcreate =>
              split at h
              · simp at h
              · next key' data' hpacket =>
                  obtain ⟨rfl, rfl, rfl, -⟩ : errorReply = false ∧ key = key' ∧
                      data = data' ∧ ok = net key' data' := by simpa using h
                  obtain ⟨hvalid, -⟩ := not_or.mp hguard
                  exact ⟨rfl, not_not.mp hvalid, b, p, hb, hcreate, hpacket⟩
        · simp at h

/-- What `send_feedback` sends was built from its PDU. -/
theorem send_of_sendFeedback {goal : ServerGoalHandle} {p data : PduData}
    {errorReply ok : Bool} {key : PduResolvedKey}
    (h : .send errorReply key data ok ∈
      (ep.sendFeedback R net goal p).effects) :
    errorReply = false ∧ isValidGoalId goal.goalId = true ∧
      ∃ b, ep.packetBindings.find? goal.goalId = some b ∧
        feedbackPacket R ep b goal.goalId p = some (key, data) := by
  unfold sendFeedback at h
  split_ifs at h with hguard
  · simp at h
  · split at h
    · simp at h
    · next b hb =>
        split_ifs at h
        · simp at h
        · split at h
          · simp at h
          · next key' data' hpacket =>
              obtain ⟨rfl, rfl, rfl, -⟩ : errorReply = false ∧ key = key' ∧
                  data = data' ∧ ok = net key' data' := by simpa using h
              obtain ⟨hvalid, -⟩ := not_or.mp hguard
              exact ⟨rfl, not_not.mp hvalid, b, hb, hpacket⟩

/-- What `complete` sends was built from its PDU. -/
theorem send_of_complete {goal : ServerGoalHandle} {status : TerminalStatus}
    {p data : PduData} {errorReply ok : Bool} {key : PduResolvedKey}
    (h : .send errorReply key data ok ∈
      (ep.complete R net goal status p).effects) :
    errorReply = false ∧ isValidGoalId goal.goalId = true ∧
      ∃ b, ep.packetBindings.find? goal.goalId = some b ∧
        responsePacket R ep b responseKindResult status.code p =
          some (key, data) := by
  unfold complete at h
  split_ifs at h with hguard
  · simp at h
  · split at h
    · simp at h
    · next b hb =>
        split_ifs at h
        · dsimp only at h
          split at h
          · simp at h
          · next key' data' hpacket =>
              obtain ⟨rfl, rfl, rfl, -⟩ : errorReply = false ∧ key = key' ∧
                  data = data' ∧ ok = net key' data' := by simpa using h
              obtain ⟨hvalid, -⟩ := not_or.mp hguard
              exact ⟨rfl, not_not.mp hvalid, b, hb, hpacket⟩
        · simp at h

/-- An operation that failed: nothing changed and nothing was sent. -/
def Failed {α : Type} (ep : ActionServerEndpointImpl)
    (o : Outcome ActionServerEndpointImpl ServerEffect α) : Prop :=
  o.state = ep ∧ ∀ e ∈ o.effects, ∃ key data, e = .send false key data false

/-- What the four decision operations can do. -/
theorem respond_cases {goal : ServerGoalHandle}
    {allowed : ActionPacketBinding → Bool} (notice : Notice) {kind : UInt8}
    {decision : Decision}
    (hfields : notice.responseFields = some (kind, decision.code))
    {commit : ActionPacketBinding → ActionServerEndpointImpl}
    {o : Outcome ActionServerEndpointImpl ServerEffect Bool}
    (ho : respond R net ep goal allowed kind decision commit = o) :
    (o.result = false ∧ Failed ep o) ∨
      ∃ b key data, ep.packetBindings.find? goal.goalId = some b ∧
        allowed b = true ∧
        Carries R ep.slotRouting b.slotIndex b.goalId notice key data ∧
        o = { state := commit b
              result := true
              effects := [.send false key data true] } := by
  subst ho
  unfold respond
  split_ifs
  · exact Or.inl ⟨rfl, rfl, by simp⟩
  · split
    · exact Or.inl ⟨rfl, rfl, by simp⟩
    · next b hb =>
        split_ifs with hallowed
        · split
          · exact Or.inl ⟨rfl, rfl, by simp⟩
          · split
            · exact Or.inl ⟨rfl, rfl, by simp⟩
            · next key data hpacket =>
                have hcarries := responsePacket_carries notice hfields hpacket
                cases hnet : net key data with
                | false => exact Or.inl ⟨rfl, rfl, by simp⟩
                | true =>
                    exact Or.inr ⟨b, key, data, hb, hallowed, hcarries,
                      by simp⟩
        · exact Or.inl ⟨rfl, rfl, by simp⟩

/-- What `send_feedback` can do. -/
theorem sendFeedback_cases {goal : ServerGoalHandle} {pdu : PduData}
    {o : Outcome ActionServerEndpointImpl ServerEffect Bool}
    (ho : sendFeedback R net ep goal pdu = o) :
    (o.result = false ∧ Failed ep o) ∨
      ∃ b key data, ep.packetBindings.find? goal.goalId = some b ∧
        (b.state = .goalAccepted ∨ b.state = .cancelAccepted) ∧
        Carries R ep.slotRouting b.slotIndex goal.goalId
          (.feedback b.nextFeedbackSequence) key data ∧
        o = { state := ep.modifyBinding goal.goalId fun b =>
                { b with nextFeedbackSequence := b.nextFeedbackSequence + 1 }
              result := true
              effects := [.send false key data true] } := by
  subst ho
  unfold sendFeedback
  split_ifs
  · exact Or.inl ⟨rfl, rfl, by simp⟩
  · split
    · exact Or.inl ⟨rfl, rfl, by simp⟩
    · next b hb =>
        split_ifs with hstate
        · exact Or.inl ⟨rfl, rfl, by simp⟩
        · split
          · exact Or.inl ⟨rfl, rfl, by simp⟩
          · next key data hpacket =>
              have hcarries := feedbackPacket_carries hpacket
              cases hnet : net key data with
              | false => exact Or.inl ⟨rfl, rfl, by simp⟩
              | true =>
                  refine Or.inr ⟨b, key, data, hb, ?_, hcarries, by simp⟩
                  by_contra hnot
                  exact hstate (not_or.mp hnot)

/-- The status may be committed in the state of the binding. -/
def mayComplete (b : ActionPacketBinding) (status : TerminalStatus) : Bool :=
  terminalAllowed (b.state = .goalAccepted) (b.state = .cancelAccepted) status

theorem mayComplete_of_validate {b : ActionPacketBinding}
    {status : TerminalStatus} {pdu : PduData}
    (h : validateTerminalPacket R ep b status pdu = true) :
    mayComplete b status = true := by
  unfold validateTerminalPacket at h
  split_ifs at h with hallowed
  simpa [mayComplete] using hallowed

/-- What `complete` can do: nothing, commit without a successful send, or commit
and send. -/
theorem complete_cases {goal : ServerGoalHandle} {status : TerminalStatus}
    {pdu : PduData}
    {o : Outcome ActionServerEndpointImpl ServerEffect CompleteResult}
    (ho : complete R net ep goal status pdu = o) :
    (o.result = .notCommitted ∧ o.state = ep ∧ o.effects = []) ∨
      ∃ b, ep.packetBindings.find? goal.goalId = some b ∧
        mayComplete b status = true ∧
        ((o.result = .sendFailedAfterCommit ∧
            o.state = ep.modifyBinding goal.goalId committed ∧
            (o.effects = [.commit goal.goalId status] ∨
              ∃ key data, o.effects =
                [.commit goal.goalId status, .send false key data false])) ∨
          ∃ key data,
            Carries R ep.slotRouting b.slotIndex b.goalId (.result status) key
              data ∧
            o = { state := (ep.modifyBinding goal.goalId committed).releaseBinding
                    goal.goalId (committed b)
                  result := .sent
                  effects :=
                    [.commit goal.goalId status,
                      .send false key data true] }) := by
  subst ho
  unfold complete
  split_ifs
  · exact Or.inl ⟨rfl, rfl, rfl⟩
  · split
    · exact Or.inl ⟨rfl, rfl, rfl⟩
    · next b hb =>
        split_ifs with hvalid
        · refine Or.inr ⟨b, hb, mayComplete_of_validate hvalid, ?_⟩
          dsimp only
          split
          · exact Or.inl ⟨rfl, rfl, Or.inl rfl⟩
          · next key data hpacket =>
              have hcarries :=
                responsePacket_carries (.result status) rfl hpacket
              cases hnet : net key data with
              | false =>
                  exact Or.inl ⟨by simp, by simp,
                    Or.inr ⟨key, data, by simp⟩⟩
              | true => exact Or.inr ⟨key, data, hcarries, by simp⟩
        · exact Or.inl ⟨rfl, rfl, rfl⟩

/-- What `accept_cancel_locally` can do. -/
theorem acceptCancelLocally_cases {goal : ServerGoalHandle}
    {o : Outcome ActionServerEndpointImpl ServerEffect Bool}
    (ho : ep.acceptCancelLocally goal = o) :
    o = { state := ep, result := false } ∨
      ∃ b, ep.packetBindings.find? goal.goalId = some b ∧
        b.state = .goalAccepted ∧
        o = { state := ep.modifyBinding goal.goalId fun b =>
                { b with
                  state := .cancelAccepted
                  cancelDecisionPending := false }
              result := true } := by
  subst ho
  unfold acceptCancelLocally
  split_ifs
  · exact Or.inl rfl
  · split
    · exact Or.inl rfl
    · next b hb =>
        split_ifs with hstate
        · exact Or.inl rfl
        · exact Or.inr ⟨b, hb, not_not.mp hstate, rfl⟩

/-- What `complete_locally` can do. -/
theorem completeLocally_cases {goal : ServerGoalHandle}
    {status : TerminalStatus} {pdu : PduData}
    {o : Outcome ActionServerEndpointImpl ServerEffect Bool}
    (ho : completeLocally R ep goal status pdu = o) :
    o = { state := ep, result := false } ∨
      ∃ b, ep.packetBindings.find? goal.goalId = some b ∧
        mayComplete b status = true ∧
        o = { state := (ep.modifyBinding goal.goalId committed).releaseBinding
                goal.goalId (committed b)
              result := true
              effects := [.commit goal.goalId status] } := by
  subst ho
  unfold completeLocally
  split_ifs
  · exact Or.inl rfl
  · split
    · exact Or.inl rfl
    · next b hb =>
        split_ifs with hvalid
        · exact Or.inr ⟨b, hb, mayComplete_of_validate hvalid, rfl⟩
        · exact Or.inl rfl

/-- What `discard_pending_goal` can do. -/
theorem discardPendingGoal_cases {goal : ServerGoalHandle}
    {o : Outcome ActionServerEndpointImpl ServerEffect Bool}
    (ho : ep.discardPendingGoal goal = o) :
    o = { state := ep, result := false } ∨
      ∃ b, ep.packetBindings.find? goal.goalId = some b ∧
        b.state = .awaitingGoalDecision ∧
        o = { state := ep.releaseBinding goal.goalId b, result := true } := by
  subst ho
  unfold discardPendingGoal
  split_ifs
  · split
    · exact Or.inl rfl
    · next b hb =>
        split_ifs with hstate
        · exact Or.inl rfl
        · exact Or.inr ⟨b, hb, not_not.mp hstate, rfl⟩
  · exact Or.inl rfl

end ActionServerEndpointImpl

end HakoPduRpc.Action
