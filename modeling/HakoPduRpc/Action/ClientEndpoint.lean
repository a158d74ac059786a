import HakoPduRpc.Action.Wire
import HakoPduRpc.Lib.SlotTable
import HakoPduRpc.Pdu.Outcome

/-!
# The client packet endpoint

`ActionClientEndpointImpl`: bindings between Goals and slots, the queue of
received packets, and the wire operations.  `poll()` takes one packet from the
queue and, when that packet reports nothing, looks for a Goal Response timeout.
-/

namespace HakoPduRpc.Action

/-- `BindingState`. -/
inductive ClientBindingState
  | awaitingGoalResponse
  | goalResponseTimedOut
  | accepted
  | awaitingCancelResponse
  | canceling
deriving DecidableEq, Repr

/-- `ClientPacketBinding`. -/
structure ClientPacketBinding where
  goalId : GoalId
  slotIndex : ℕ
  state : ClientBindingState := .awaitingGoalResponse
  sentAtUsec : UInt64 := 0
  timeoutUsec : UInt64 := 0
  nextFeedbackSequence : UInt32 := 0
deriving DecidableEq

inductive PendingPacketKind
  | response
  | feedback
deriving DecidableEq, Repr

/-- `PendingPacket` of the client endpoint. -/
structure ClientPendingPacket where
  slotIndex : ℕ
  kind : PendingPacketKind
  pdu : PduData
deriving DecidableEq

/-- What the client does outside its own state: it calls `Endpoint::send`. -/
inductive ClientEffect
  | send (key : PduResolvedKey) (data : PduData) (ok : Bool)
deriving DecidableEq

/-- The state of `ActionClientEndpointImpl`. -/
structure ActionClientEndpointImpl where
  actionName : String
  initialized : Bool := false
  slotRouting : List SlotRouting := []
  slotOwners : List (Option GoalId) := []
  packetBindings : OrdMap GoalId ClientPacketBinding := OrdMap.empty
  pendingPackets : List ClientPendingPacket := []

namespace ActionClientEndpointImpl

variable (R : PduRegistry) (net : SendOracle) (ep : ActionClientEndpointImpl)

/-! ## Bindings -/

/-- `release_binding_locked`. -/
def releaseBinding (goalId : GoalId) (binding : ClientPacketBinding) :
    ActionClientEndpointImpl :=
  { ep with
    slotOwners := ep.slotOwners.set binding.slotIndex none
    packetBindings := ep.packetBindings.erase goalId }

/-- Rewrite the binding of a Goal. -/
def modifyBinding (goalId : GoalId)
    (f : ClientPacketBinding → ClientPacketBinding) :
    ActionClientEndpointImpl :=
  { ep with packetBindings := ep.packetBindings.modify goalId f }

/-! ## Requests -/

/-- `create_control_request_packet`. -/
def createControlRequestPacket : Option PduData :=
  match ep.slotRouting with
  | [] => none
  | routing :: _ => R.createPacketBuffer routing.requestPacketBaseSize 0

/-- `create_goal_buffer`. -/
def createGoalBuffer : Option PduData :=
  match ep.slotRouting with
  | routing :: _ =>
      if ep.initialized then
        R.createPacketBuffer routing.requestPacketBaseSize
          routing.requestHeapCapacity
      else none
  | [] => none

/-- The key and the bytes that a request hands to `Endpoint::send`: the capacity
check, `write_request_header` and the cut at `wire_size`. -/
def requestPacket (slot : ℕ) (goalId : GoalId) (requestKind : UInt8)
    (packet : PduData) : Option (PduResolvedKey × PduData) :=
  match ep.slotRouting[slot]? with
  | none => none
  | some routing =>
      match R.validatePacketCapacity packet routing.requestPacketBaseSize
          routing.requestHeapCapacity false with
      | none => none
      | some wireSize =>
          let header : ActionRequestHeader :=
            { version := actionProtocolVersion
              requestKind := requestKind
              reserved := (0, 0)
              goalId := goalId }
          match R.writeHeader R.requestHeader packet header with
          | none => none
          | some packet => some (routing.request, packet.take wireSize.toNat)

/-- `send_goal_with_result`; `now` is what the time source returns. -/
def sendGoalWithResult (now : UInt64) (goalPdu : PduData) (goalId : GoalId)
    (timeoutUsec : UInt64) :
    Outcome ActionClientEndpointImpl ClientEffect GoalSendResult :=
  if ¬isValidGoalId goalId then { state := ep, result := .invalidArgument }
  else if ¬ep.initialized then { state := ep, result := .notInitialized }
  else if ep.packetBindings.contains goalId then
    { state := ep, result := .duplicateGoal }
  else
    match ep.slotOwners.findIdx? Option.isNone with
    | none => { state := ep, result := .noFreeSlot }
    | some slot =>
        let binding : ClientPacketBinding :=
          { goalId := goalId
            slotIndex := slot
            sentAtUsec := now
            timeoutUsec := timeoutUsec }
        let bound : ActionClientEndpointImpl :=
          { ep with
            slotOwners := ep.slotOwners.set slot (some goalId)
            packetBindings := ep.packetBindings.emplace goalId binding }
        match requestPacket R bound slot goalId requestKindGoal goalPdu with
        | none =>
            { state := bound.releaseBinding goalId binding
              result := .invalidPacket }
        | some (key, data) =>
            { state :=
                if net key data then bound
                else bound.releaseBinding goalId binding
              result := if net key data then .success else .transportError
              effects := [.send key data (net key data)] }

/-- `goal_handle_out` of `send_goal_with_result`: the Goal on success, and a
handle that is not valid otherwise. -/
def goalHandleOut (result : GoalSendResult) (goalId : GoalId) :
    ClientGoalHandle :=
  if result = .success then ⟨goalId⟩ else ⟨⟨List.replicate 16 0, rfl⟩⟩

/-- The rollback of `send_cancel`. -/
def revertCancel (goalId : GoalId) : ActionClientEndpointImpl :=
  ep.modifyBinding goalId fun binding =>
    if binding.state = .awaitingCancelResponse then
      { binding with state := .accepted }
    else binding

/-- `send_cancel`: the binding is committed before the send and rolled back when
the send fails. -/
def sendCancel (goal : ClientGoalHandle) :
    Outcome ActionClientEndpointImpl ClientEffect Bool :=
  if ¬goal.valid ∨ ¬ep.initialized then { state := ep, result := false }
  else
    match ep.packetBindings.find? goal.goalId with
    | none => { state := ep, result := false }
    | some binding =>
        if binding.state ≠ .accepted then { state := ep, result := false }
        else
          let committed := ep.modifyBinding goal.goalId fun binding =>
            { binding with state := .awaitingCancelResponse }
          match createControlRequestPacket R committed with
          | none =>
              { state := committed.revertCancel goal.goalId, result := false }
          | some packet =>
              match requestPacket R committed binding.slotIndex goal.goalId
                  requestKindCancel packet with
              | none =>
                  { state := committed.revertCancel goal.goalId
                    result := false }
              | some (key, data) =>
                  { state :=
                      if net key data then committed
                      else committed.revertCancel goal.goalId
                    result := net key data
                    effects := [.send key data (net key data)] }

/-! ## Receiving -/

/-- The receive callbacks subscribed for every response and feedback channel. -/
def receive (key : PduResolvedKey) (data : PduData) :
    ActionClientEndpointImpl :=
  { ep with
    pendingPackets := ep.pendingPackets ++
      ep.slotRouting.flatMap fun routing =>
        (if routing.response = key then
          [{ slotIndex := routing.slotIndex, kind := .response, pdu := data }]
        else []) ++
        (if routing.feedback = key then
          [{ slotIndex := routing.slotIndex, kind := .feedback, pdu := data }]
        else []) }

/-- The part of `poll()` that handles a valid response packet; `none` when it
reports nothing. -/
def handleResponse (packet : ClientPendingPacket)
    (header : ActionResponseHeader) :
    Option (ActionClientEndpointImpl × ClientEvent) :=
  match ep.packetBindings.find? header.goalId with
  | none => none
  | some binding =>
      let event : ClientEvent :=
        { type := .none
          actionName := ep.actionName
          goal := ⟨header.goalId⟩
          pdu := packet.pdu }
      if header.responseKind = responseKindGoal ∧
          binding.slotIndex = packet.slotIndex ∧
          binding.state = .awaitingGoalResponse ∧
          (header.status = Decision.accepted.code ∨
            header.status = Decision.rejected.code) then
        some
          (if Decision.ofCode header.status = .accepted then
            ep.modifyBinding header.goalId fun binding =>
              { binding with state := .accepted }
          else ep.releaseBinding header.goalId binding,
          { event with
            type := .goalResponse
            decision := Decision.ofCode header.status })
      else if header.responseKind = responseKindResult ∧
          binding.slotIndex = packet.slotIndex ∧
          (((binding.state = .accepted ∨
                binding.state = .awaitingCancelResponse) ∧
              (header.status = TerminalStatus.succeeded.code ∨
                header.status = TerminalStatus.aborted.code)) ∨
            (binding.state = .canceling ∧
              (header.status = TerminalStatus.canceled.code ∨
                header.status = TerminalStatus.aborted.code))) then
        some
          (ep.releaseBinding header.goalId binding,
          { event with
            type := .result
            terminalStatus := TerminalStatus.ofCode header.status })
      else if header.responseKind = responseKindCancel ∧
          binding.slotIndex = packet.slotIndex ∧
          binding.state = .awaitingCancelResponse ∧
          (header.status = Decision.accepted.code ∨
            header.status = Decision.rejected.code) then
        some
          (ep.modifyBinding header.goalId fun binding =>
            { binding with
              state :=
                if Decision.ofCode header.status = .accepted then .canceling
                else .accepted },
          { event with
            type := .cancelResponse
            decision := Decision.ofCode header.status })
      else none

/-- The part of `poll()` that handles a valid feedback packet; `none` when it
reports nothing. -/
def handleFeedback (packet : ClientPendingPacket)
    (header : ActionFeedbackHeader) :
    Option (ActionClientEndpointImpl × ClientEvent) :=
  match ep.packetBindings.find? header.goalId with
  | none => none
  | some binding =>
      if binding.slotIndex = packet.slotIndex ∧
          (binding.state = .accepted ∨
            binding.state = .awaitingCancelResponse ∨
            binding.state = .canceling) then
        if header.sequenceNo ≠ binding.nextFeedbackSequence then none
        else
          some
            (ep.modifyBinding header.goalId fun binding =>
              { binding with
                nextFeedbackSequence := binding.nextFeedbackSequence + 1 },
            { type := .feedback
              actionName := ep.actionName
              goal := ⟨header.goalId⟩
              feedbackSequence := header.sequenceNo
              pdu := packet.pdu })
      else none

/-- The part of `poll()` that handles the packet taken from the queue. -/
def handlePacket (packet : ClientPendingPacket) :
    Option (ActionClientEndpointImpl × ClientEvent) :=
  match ep.slotRouting[packet.slotIndex]? with
  | none => none
  | some routing =>
      match packet.kind with
      | .response =>
          (readResponse R routing packet.pdu).bind (ep.handleResponse packet)
      | .feedback =>
          (readFeedback R routing packet.pdu).bind (ep.handleFeedback packet)

/-- The condition of the timeout scan. -/
def responseTimedOut (now : UInt64) (binding : ClientPacketBinding) : Bool :=
  binding.state = .awaitingGoalResponse ∧ binding.timeoutUsec ≠ 0 ∧
    binding.sentAtUsec ≤ now ∧
    binding.timeoutUsec ≤ now - binding.sentAtUsec

/-- The timeout scan of `poll()`, in key order. -/
def pollTimeout (now : UInt64) :
    ActionClientEndpointImpl × Option ClientEvent :=
  if ¬ep.initialized then (ep, none)
  else
    match ep.packetBindings.entries.find? fun entry =>
        responseTimedOut now entry.2 with
    | none => (ep, none)
    | some (goalId, _) =>
        (ep.modifyBinding goalId fun binding =>
          { binding with state := .goalResponseTimedOut },
        some
          { type := .timeout
            actionName := ep.actionName
            goal := ⟨goalId⟩ })

/-- `poll`; `none` is `ClientEventType::NONE`. -/
def poll (now : UInt64) : ActionClientEndpointImpl × Option ClientEvent :=
  match ep.pendingPackets with
  | [] => ep.pollTimeout now
  | packet :: rest =>
      let ep := { ep with pendingPackets := rest }
      match handlePacket R ep packet with
      | some (ep, event) => (ep, some event)
      | none => ep.pollTimeout now

/-! ## Lifecycle -/

/-- `clear_pending_events`. -/
def clearPendingEvents : ActionClientEndpointImpl :=
  { ep with pendingPackets := [] }

/-- `reset_contexts`. -/
def resetContexts : ActionClientEndpointImpl :=
  { ep with
    pendingPackets := []
    packetBindings := OrdMap.empty
    slotOwners := ep.slotOwners.map fun _ => none }

/-- `initialize`; `none` when it returns `false`. -/
def initializeEndpoint (actionConfig : Json) :
    Option ActionClientEndpointImpl :=
  match parseAction actionConfig with
  | .error _ => none
  | .ok definition =>
      if definition.name ≠ ep.actionName then none
      else
        match parseRouting R ep.actionName definition with
        | none => none
        | some routing =>
            if ep.initialized then none
            else
              some
                { ep with
                  slotRouting := routing
                  -- `resize` on the empty vector of a fresh endpoint
                  slotOwners := List.replicate routing.length none
                  initialized := true }

end ActionClientEndpointImpl

/-! ## What a packet means to the client -/

/-- The packet that an entry of the queue stands for. -/
def ClientPendingPacket.decode (R : PduRegistry) (routing : List SlotRouting)
    (packet : ClientPendingPacket) : Option Packet :=
  match routing[packet.slotIndex]? with
  | none => none
  | some r =>
      match packet.kind with
      | .response =>
          (readResponse R r packet.pdu).bind fun header =>
            (responseNotice header.responseKind header.status).map fun n =>
              { slot := packet.slotIndex
                goalId := header.goalId
                notice := n }
      | .feedback =>
          (readFeedback R r packet.pdu).map fun header =>
            { slot := packet.slotIndex
              goalId := header.goalId
              notice := .feedback header.sequenceNo }

/-- A packet that can be read has a valid Goal ID and a meaning. -/
theorem ClientPendingPacket.decode_wellFormed {R : PduRegistry}
    {routing : List SlotRouting} {packet : ClientPendingPacket} {p : Packet}
    (h : packet.decode R routing = some p) :
    isValidGoalId p.goalId = true ∧ p.notice.WellFormed := by
  unfold ClientPendingPacket.decode at h
  split at h
  · simp at h
  · split at h
    · obtain ⟨header, hread, hnotice⟩ := Option.bind_eq_some_iff.mp h
      obtain ⟨n, hn, rfl⟩ := Option.map_eq_some_iff.mp hnotice
      exact ⟨readResponse_valid hread, responseNotice_wellFormed hn⟩
    · obtain ⟨header, hread, rfl⟩ := Option.map_eq_some_iff.mp h
      exact ⟨readFeedback_valid hread, trivial⟩

/-- What a packet for a bound Goal does to its binding: nothing (`none`), or it
is reported and the binding is released or rewritten. -/
def ClientPacketBinding.advance (b : ClientPacketBinding) :
    Notice → Option (Option ClientPacketBinding)
  | .goalResponse decision =>
      if b.state = .awaitingGoalResponse then
        if decision = .accepted then some (some { b with state := .accepted })
        else some none
      else none
  | .feedback sequence =>
      if (b.state = .accepted ∨ b.state = .awaitingCancelResponse ∨
            b.state = .canceling) ∧
          sequence = b.nextFeedbackSequence then
        some (some
          { b with nextFeedbackSequence := b.nextFeedbackSequence + 1 })
      else none
  | .cancelResponse decision =>
      if b.state = .awaitingCancelResponse then
        some (some
          { b with
            state := if decision = .accepted then .canceling else .accepted })
      else none
  | .result status =>
      if ((b.state = .accepted ∨ b.state = .awaitingCancelResponse) ∧
            (status = .succeeded ∨ status = .aborted)) ∨
          (b.state = .canceling ∧ (status = .canceled ∨ status = .aborted)) then
        some none
      else none

/-- The event that reports a packet. -/
def noticeEvent (actionName : String) (g : GoalId) (notice : Notice)
    (pdu : PduData) : ClientEvent :=
  match notice with
  | .goalResponse decision =>
      { type := .goalResponse
        actionName := actionName
        goal := ⟨g⟩
        decision := decision
        pdu := pdu }
  | .feedback sequence =>
      { type := .feedback
        actionName := actionName
        goal := ⟨g⟩
        feedbackSequence := sequence
        pdu := pdu }
  | .cancelResponse decision =>
      { type := .cancelResponse
        actionName := actionName
        goal := ⟨g⟩
        decision := decision
        pdu := pdu }
  | .result status =>
      { type := .result
        actionName := actionName
        goal := ⟨g⟩
        terminalStatus := status
        pdu := pdu }

namespace ActionClientEndpointImpl

variable {R : PduRegistry} {net : SendOracle} {ep : ActionClientEndpointImpl}

/-- What `initialize` makes of the endpoint when it succeeds. -/
theorem initializeEndpoint_ok {actionConfig : Json}
    {ep' : ActionClientEndpointImpl}
    (h : initializeEndpoint R ep actionConfig = some ep') :
    ∃ definition routing, parseAction actionConfig = .ok definition ∧
      definition.name = ep.actionName ∧
      parseRouting R ep.actionName definition = some routing ∧
      ep.initialized = false ∧
      ep' =
        { ep with
          slotRouting := routing
          slotOwners := List.replicate routing.length none
          initialized := true } := by
  unfold initializeEndpoint at h
  split at h
  · simp at h
  · next definition hparse =>
      split at h
      · simp at h
      · next hname =>
          split at h
          · simp at h
          · next routing hrouting =>
              split at h
              · simp at h
              · next hinit =>
                  exact ⟨definition, routing, hparse, not_not.mp hname,
                    hrouting, by simpa using hinit, (Option.some.inj h).symm⟩

/-- An endpoint is initialized only once. -/
theorem initializeEndpoint_again (hinit : ep.initialized = true)
    (actionConfig : Json) : initializeEndpoint R ep actionConfig = none := by
  cases h : initializeEndpoint R ep actionConfig with
  | none => rfl
  | some ep' =>
      obtain ⟨-, -, -, -, -, hfresh, -⟩ := initializeEndpoint_ok h
      rw [hinit] at hfresh
      cases hfresh

/-- The endpoint after the binding of a Goal has been released or rewritten. -/
def replaceBinding (ep : ActionClientEndpointImpl) (g : GoalId)
    (b : ClientPacketBinding) :
    Option ClientPacketBinding → ActionClientEndpointImpl
  | none => ep.releaseBinding g b
  | some b' => ep.modifyBinding g fun _ => b'

/-- A packet that is reported advances the binding of its Goal. -/
def applyPacket (ep : ActionClientEndpointImpl) (p : Packet) (pdu : PduData) :
    Option (ActionClientEndpointImpl × ClientEvent) :=
  (ep.packetBindings.find? p.goalId).bind fun b =>
    if b.slotIndex = p.slot then
      (b.advance p.notice).map fun b' =>
        (ep.replaceBinding p.goalId b b',
          noticeEvent ep.actionName p.goalId p.notice pdu)
    else none

theorem modifyBinding_eq {g : GoalId} {b : ClientPacketBinding}
    (hb : ep.packetBindings.find? g = some b)
    (f : ClientPacketBinding → ClientPacketBinding) :
    ep.modifyBinding g f = ep.modifyBinding g fun _ => f b := by
  have hsame : ep.packetBindings.modify g f =
      ep.packetBindings.modify g fun _ => f b := by
    apply OrdMap.ext_find?
    intro g'
    rw [OrdMap.find?_modify, OrdMap.find?_modify, hb]
    rfl
  simp only [modifyBinding, hsame]

theorem handleFeedback_eq (packet : ClientPendingPacket)
    (header : ActionFeedbackHeader) :
    ep.handleFeedback packet header =
      ep.applyPacket
        { slot := packet.slotIndex
          goalId := header.goalId
          notice := .feedback header.sequenceNo } packet.pdu := by
  unfold handleFeedback applyPacket
  cases hb : ep.packetBindings.find? header.goalId with
  | none => rfl
  | some b =>
      simp only [Option.bind_some, ClientPacketBinding.advance]
      by_cases hslot : b.slotIndex = packet.slotIndex
      · by_cases hstate : b.state = .accepted ∨
            b.state = .awaitingCancelResponse ∨ b.state = .canceling
        · by_cases hseq : header.sequenceNo = b.nextFeedbackSequence
          · simp [hslot, hstate, hseq, modifyBinding_eq hb, replaceBinding,
              noticeEvent]
          · simp [hslot, hstate, hseq]
        · simp [hslot, hstate]
      · simp [hslot]

theorem handleResponse_eq (packet : ClientPendingPacket)
    (header : ActionResponseHeader) :
    ep.handleResponse packet header =
      (responseNotice header.responseKind header.status).bind fun n =>
        ep.applyPacket
          { slot := packet.slotIndex
            goalId := header.goalId
            notice := n } packet.pdu := by
  have hkinds : responseKindGoal ≠ responseKindResult ∧
      responseKindGoal ≠ responseKindCancel ∧
      responseKindResult ≠ responseKindCancel := by decide
  unfold handleResponse applyPacket
  cases hb : ep.packetBindings.find? header.goalId with
  | none =>
      cases responseNotice header.responseKind header.status <;> simp [hb]
  | some b =>
      by_cases hslot : b.slotIndex = packet.slotIndex
      · by_cases hgoal : header.responseKind = responseKindGoal
        · by_cases hstatus : header.status = Decision.accepted.code ∨
              header.status = Decision.rejected.code
          · rcases hstatus with hstatus | hstatus <;>
              by_cases hstate : b.state = .awaitingGoalResponse <;>
              simp [responseNotice, hgoal, hstatus, hstate, hslot, hb, hkinds,
                modifyBinding_eq hb, replaceBinding, noticeEvent,
                ClientPacketBinding.advance]
          · simp [responseNotice, hgoal, hstatus, hkinds]
        · by_cases hresult : header.responseKind = responseKindResult
          · by_cases hstatus : header.status = TerminalStatus.succeeded.code ∨
                header.status = TerminalStatus.canceled.code ∨
                header.status = TerminalStatus.aborted.code
            · rcases hstatus with hstatus | hstatus | hstatus <;>
                cases hstate : b.state <;>
                simp [responseNotice, hresult, hstatus, hstate, hslot, hb,
                  hkinds.1.symm, hkinds.2.2, replaceBinding, noticeEvent,
                  ClientPacketBinding.advance,
                  TerminalStatus.code_injective.eq_iff]
            · simp only [not_or] at hstatus
              simp [responseNotice, hresult, hstatus, hkinds.1.symm, hkinds.2.2]
          · by_cases hcancel : header.responseKind = responseKindCancel
            · by_cases hstatus : header.status = Decision.accepted.code ∨
                  header.status = Decision.rejected.code
              · rcases hstatus with hstatus | hstatus <;>
                  by_cases hstate : b.state = .awaitingCancelResponse <;>
                  simp [responseNotice, hcancel, hstatus, hstate, hslot, hb,
                    hkinds.2.1.symm, hkinds.2.2.symm, modifyBinding_eq hb,
                    replaceBinding, noticeEvent, ClientPacketBinding.advance]
              · simp [responseNotice, hcancel, hstatus, hkinds.2.1.symm,
                  hkinds.2.2.symm]
            · simp [responseNotice, hgoal, hresult, hcancel]
      · cases responseNotice header.responseKind header.status <;>
          simp [hb, hslot]

/-- `poll()` reports a packet exactly when the packet means something to the
binding of its Goal. -/
theorem handlePacket_eq (packet : ClientPendingPacket) :
    handlePacket R ep packet =
      (packet.decode R ep.slotRouting).bind fun p =>
        ep.applyPacket p packet.pdu := by
  unfold handlePacket ClientPendingPacket.decode
  cases ep.slotRouting[packet.slotIndex]? with
  | none => rfl
  | some r =>
      cases packet.kind with
      | response =>
          cases hread : readResponse R r packet.pdu with
          | none => simp [hread]
          | some header =>
              simp only [hread, Option.bind_some, handleResponse_eq]
              cases responseNotice header.responseKind header.status <;> rfl
      | feedback =>
          cases hread : readFeedback R r packet.pdu with
          | none => simp [hread]
          | some header =>
              simp only [hread, Option.bind_some, Option.map_some,
                handleFeedback_eq]

/-! ## The slot store -/

/-- Owners and bindings describe the same relation between slots and Goals. -/
structure SlotStore (ep : ActionClientEndpointImpl) : Prop where
  consistent : SlotTable.Consistent ClientPacketBinding.slotIndex
    ep.slotOwners ep.packetBindings
  goalId_eq : ∀ {g b}, ep.packetBindings.find? g = some b → b.goalId = g
  length_eq : ep.slotOwners.length = ep.slotRouting.length

/-- The endpoint changed the binding of one Goal and nothing else that is
remembered across packets. -/
structure Update (ep ep' : ActionClientEndpointImpl) (g : GoalId)
    (b : Option ClientPacketBinding) : Prop where
  find?_eq : ∀ g', ep'.packetBindings.find? g' =
    if g' = g then b else ep.packetBindings.find? g'
  store : ep'.SlotStore
  slotRouting_eq : ep'.slotRouting = ep.slotRouting
  initialized_eq : ep'.initialized = ep.initialized
  pendingPackets_eq : ep'.pendingPackets = ep.pendingPackets

theorem Update.modifyBinding (hstore : ep.SlotStore) {g : GoalId}
    {b : ClientPacketBinding} (hb : ep.packetBindings.find? g = some b)
    {f : ClientPacketBinding → ClientPacketBinding}
    (hslot : (f b).slotIndex = b.slotIndex) (hgoal : (f b).goalId = b.goalId) :
    Update ep (ep.modifyBinding g f) g (some (f b)) := by
  have hfind : ∀ g', (ep.modifyBinding g f).packetBindings.find? g' =
      if g' = g then some (f b) else ep.packetBindings.find? g' := by
    intro g'
    rw [ActionClientEndpointImpl.modifyBinding, OrdMap.find?_modify, hb]
    rfl
  refine ⟨hfind, ⟨?_, ?_, hstore.length_eq⟩, rfl, rfl, rfl⟩
  · intro slot g'
    rw [hfind]
    refine (hstore.consistent slot g').trans ?_
    split_ifs with hg
    · simp [hg, hb, hslot]
    · rfl
  · intro g' b' hb'
    rw [hfind] at hb'
    split_ifs at hb' with hg
    · rw [← Option.some.inj hb', hgoal, hg]
      exact hstore.goalId_eq hb
    · exact hstore.goalId_eq hb'

theorem Update.releaseBinding (hstore : ep.SlotStore) {g : GoalId}
    {b : ClientPacketBinding} (hb : ep.packetBindings.find? g = some b) :
    Update ep (ep.releaseBinding g b) g none := by
  have hfind := OrdMap.find?_erase ep.packetBindings g
  refine ⟨hfind, ⟨hstore.consistent.release hb, ?_, ?_⟩, rfl, rfl, rfl⟩
  · intro g' b' hb'
    rw [ActionClientEndpointImpl.releaseBinding, hfind] at hb'
    split_ifs at hb' with hg
    exact hstore.goalId_eq hb'
  · simp [ActionClientEndpointImpl.releaseBinding, hstore.length_eq]

/-- Binding a new Goal to a free slot. -/
theorem Update.bind (hstore : ep.SlotStore) {g : GoalId}
    {b : ClientPacketBinding} (hlt : b.slotIndex < ep.slotOwners.length)
    (hfree : SlotTable.owner ep.slotOwners b.slotIndex = none)
    (hnew : ep.packetBindings.find? g = none) (hgoal : b.goalId = g) :
    Update ep
      { ep with
        slotOwners := ep.slotOwners.set b.slotIndex (some g)
        packetBindings := ep.packetBindings.emplace g b } g (some b) := by
  have hfind := OrdMap.find?_emplace hnew (v := b)
  refine ⟨hfind, ⟨hstore.consistent.emplace hlt hfree hnew, ?_, ?_⟩, rfl, rfl,
    rfl⟩
  · intro g' b' hb'
    simp only [hfind] at hb'
    split_ifs at hb' with hg
    · rw [← Option.some.inj hb', hgoal, hg]
    · exact hstore.goalId_eq hb'
  · simp [hstore.length_eq]

theorem advance_same {b b' : ClientPacketBinding} {n : Notice}
    (h : b.advance n = some (some b')) :
    b'.slotIndex = b.slotIndex ∧ b'.goalId = b.goalId := by
  cases n <;> simp only [ClientPacketBinding.advance] at h <;>
    split_ifs at h <;> cases h <;> exact ⟨rfl, rfl⟩

/-- A reported packet changes the binding of its Goal. -/
theorem Update.replaceBinding (hstore : ep.SlotStore) {g : GoalId}
    {b : ClientPacketBinding} (hb : ep.packetBindings.find? g = some b)
    {n : Notice} {b' : Option ClientPacketBinding}
    (hadvance : b.advance n = some b') :
    Update ep (ep.replaceBinding g b b') g b' := by
  cases b' with
  | none => exact Update.releaseBinding hstore hb
  | some b' =>
      obtain ⟨hslot, hgoal⟩ := advance_same hadvance
      exact Update.modifyBinding hstore hb (f := fun _ => b') hslot hgoal

/-! ## What the calls do -/

/-- A request is the PDU of the caller with the header written into it. -/
theorem requestPacket_ok {slot : ℕ} {g : GoalId} {requestKind : UInt8}
    {pdu : PduData} {key : PduResolvedKey} {data : PduData}
    (h : requestPacket R ep slot g requestKind pdu = some (key, data)) :
    ∃ r wireSize packet, ep.slotRouting[slot]? = some r ∧ key = r.request ∧
      R.validatePacketCapacity pdu r.requestPacketBaseSize
        r.requestHeapCapacity false = some wireSize ∧
      R.writeHeader R.requestHeader pdu
        { version := actionProtocolVersion
          requestKind := requestKind
          goalId := g } = some packet ∧
      data = packet.take wireSize.toNat := by
  unfold requestPacket at h
  split at h
  · simp at h
  · next r hr =>
      split at h
      · simp at h
      · next wireSize hsize =>
          dsimp only at h
          split at h
          · simp at h
          · next packet hpacket =>
              simp only [Option.some.injEq, Prod.mk.injEq] at h
              exact ⟨r, wireSize, packet, hr, h.1.symm, hsize, hpacket,
                h.2.symm⟩

theorem requestPacket_carries {slot : ℕ} {g : GoalId} {requestKind : UInt8}
    {pdu : PduData} {key : PduResolvedKey} {data : PduData}
    (h : requestPacket R ep slot g requestKind pdu = some (key, data)) :
    RequestCarries R ep.slotRouting slot g requestKind key data := by
  obtain ⟨r, wireSize, packet, hr, rfl, hsize, hpacket, rfl⟩ :=
    requestPacket_ok h
  exact ⟨r, hr, rfl, pdu, wireSize, packet, hsize, hpacket, rfl⟩

/-- What `send_goal_with_result` sends was built from its Goal and its PDU. -/
theorem send_of_sendGoal {now timeoutUsec : UInt64} {p data : PduData}
    {g : GoalId} {key : PduResolvedKey} {ok : Bool}
    (h : .send key data ok ∈
      (ep.sendGoalWithResult R net now p g timeoutUsec).effects) :
    isValidGoalId g = true ∧
      ∃ slot, ep.slotOwners.findIdx? Option.isNone = some slot ∧
        requestPacket R ep slot g requestKindGoal p = some (key, data) := by
  unfold sendGoalWithResult at h
  split_ifs at h with hvalid hinit hcontains
  · simp at h
  · split at h
    · simp at h
    · next slot hslot =>
        dsimp only at h
        split at h
        · simp at h
        · next key' data' hpacket =>
            obtain ⟨rfl, rfl, -⟩ : key = key' ∧ data = data' ∧
                ok = net key' data' := by simpa using h
            exact ⟨hvalid, slot, hslot, hpacket⟩
  · simp at h
  · simp at h

/-- What `send_cancel` sends was built from a fresh control packet. -/
theorem send_of_sendCancel {goal : ClientGoalHandle} {data : PduData}
    {key : PduResolvedKey} {ok : Bool}
    (h : .send key data ok ∈ (ep.sendCancel R net goal).effects) :
    isValidGoalId goal.goalId = true ∧
      ∃ b p, ep.packetBindings.find? goal.goalId = some b ∧
        ep.createControlRequestPacket R = some p ∧
        requestPacket R ep b.slotIndex goal.goalId requestKindCancel p =
          some (key, data) := by
  unfold sendCancel at h
  split_ifs at h with hguard
  · simp at h
  · split at h
    · simp at h
    · next b hb =>
        split_ifs at h
        · simp at h
        · dsimp only at h
          split at h
          · simp at h
          · next p hcreate =>
              split at h
              · simp at h
              · next key' data' hpacket =>
                  obtain ⟨rfl, rfl, -⟩ : key = key' ∧ data = data' ∧
                      ok = net key' data' := by simpa using h
                  obtain ⟨hvalid, -⟩ := not_or.mp hguard
                  exact ⟨not_not.mp hvalid, b, p, hb, hcreate, hpacket⟩

/-- A failed operation: the state is as before, and no send succeeded. -/
def Failed {α : Type} (ep : ActionClientEndpointImpl)
    (o : Outcome ActionClientEndpointImpl ClientEffect α) : Prop :=
  o.state = ep ∧ ∀ e ∈ o.effects, ∃ key data, e = .send key data false

/-- The binding of a Goal that was just sent. -/
def sentBinding (g : GoalId) (slot : ℕ) (now timeoutUsec : UInt64) :
    ClientPacketBinding :=
  { goalId := g
    slotIndex := slot
    sentAtUsec := now
    timeoutUsec := timeoutUsec }

theorem release_bound {g : GoalId} {b : ClientPacketBinding}
    (hnew : ep.packetBindings.find? g = none)
    (hfree : ep.slotOwners[b.slotIndex]? = some none) :
    ActionClientEndpointImpl.releaseBinding
      { ep with
        slotOwners := ep.slotOwners.set b.slotIndex (some g)
        packetBindings := ep.packetBindings.emplace g b } g b = ep := by
  obtain ⟨hlt, hnone⟩ := List.getElem?_eq_some_iff.mp hfree
  have howners : (ep.slotOwners.set b.slotIndex (some g)).set b.slotIndex
      none = ep.slotOwners := by
    rw [List.set_set, ← hnone]
    exact List.set_getElem_self hlt
  simp only [ActionClientEndpointImpl.releaseBinding, howners,
    OrdMap.erase_emplace hnew]

/-- `send_goal_with_result` fails, or it binds the Goal to a free slot and sends
the Goal Request on it. -/
theorem sendGoalWithResult_cases {now timeoutUsec : UInt64} {pdu : PduData}
    {g : GoalId}
    {o : Outcome ActionClientEndpointImpl ClientEffect GoalSendResult}
    (h : sendGoalWithResult R net ep now pdu g timeoutUsec = o) :
    (o.result ≠ .success ∧ Failed ep o) ∨
      ∃ slot key data, isValidGoalId g = true ∧
        ep.packetBindings.find? g = none ∧ slot < ep.slotOwners.length ∧
        SlotTable.owner ep.slotOwners slot = none ∧
        RequestCarries R ep.slotRouting slot g requestKindGoal key data ∧
        o =
          { state :=
              { ep with
                slotOwners := ep.slotOwners.set slot (some g)
                packetBindings := ep.packetBindings.emplace g
                  (sentBinding g slot now timeoutUsec) }
            result := .success
            effects := [.send key data true] } := by
  subst h
  unfold sendGoalWithResult
  split_ifs with hvalid hinit hcontains
  · exact Or.inl ⟨by simp, rfl, by simp⟩
  · split
    · exact Or.inl ⟨by simp, rfl, by simp⟩
    · next slot hslot =>
        have hnew : ep.packetBindings.find? g = none :=
          OrdMap.not_contains_iff.mp (by simpa using hcontains)
        obtain ⟨hlt, hnone, -⟩ := List.findIdx?_eq_some_iff_getElem.mp hslot
        have hfree : ep.slotOwners[slot]? = some none := by
          rw [List.getElem?_eq_getElem hlt, Option.isNone_iff_eq_none.mp hnone]
        have hrelease := release_bound
          (b := sentBinding g slot now timeoutUsec) hnew hfree
        dsimp only
        split
        · exact Or.inl ⟨by simp, hrelease, by simp⟩
        · next key data hpacket =>
            cases hnet : net key data with
            | false => exact Or.inl ⟨by simp, hrelease, by simp⟩
            | true =>
                have hcarries := requestPacket_carries hpacket
                exact Or.inr ⟨slot, key, data, by simpa using hvalid, hnew,
                  hlt, by simp [SlotTable.owner, hfree], hcarries, rfl⟩
  · exact Or.inl ⟨by simp, rfl, by simp⟩
  · exact Or.inl ⟨by simp, rfl, by simp⟩

theorem revert_committed {g : GoalId} {b : ClientPacketBinding}
    (hb : ep.packetBindings.find? g = some b) (hstate : b.state = .accepted) :
    (ep.modifyBinding g fun b =>
      { b with state := .awaitingCancelResponse }).revertCancel g = ep := by
  have hsame := OrdMap.modify_modify_eq_self
    (f := fun b : ClientPacketBinding =>
      { b with state := .awaitingCancelResponse })
    (g := fun b : ClientPacketBinding =>
      if b.state = .awaitingCancelResponse then { b with state := .accepted }
      else b) hb (by rw [if_pos rfl, ← hstate])
  simp only [revertCancel, modifyBinding, hsame]

/-- `send_cancel` fails, or it sends the Cancel Request on the slot of the
Goal. -/
theorem sendCancel_cases {goal : ClientGoalHandle}
    {o : Outcome ActionClientEndpointImpl ClientEffect Bool}
    (h : sendCancel R net ep goal = o) :
    (o.result = false ∧ Failed ep o) ∨
      ∃ b key data, ep.packetBindings.find? goal.goalId = some b ∧
        b.state = .accepted ∧
        RequestCarries R ep.slotRouting b.slotIndex goal.goalId
          requestKindCancel key data ∧
        o =
          { state := ep.modifyBinding goal.goalId fun b =>
              { b with state := .awaitingCancelResponse }
            result := true
            effects := [.send key data true] } := by
  subst h
  unfold sendCancel
  split_ifs
  · exact Or.inl ⟨rfl, rfl, by simp⟩
  · split
    · exact Or.inl ⟨rfl, rfl, by simp⟩
    · next b hb =>
        split_ifs with hstate
        · exact Or.inl ⟨rfl, rfl, by simp⟩
        · have hrevert := revert_committed hb (not_not.mp hstate)
          dsimp only
          split
          · exact Or.inl ⟨rfl, hrevert, by simp⟩
          · next packet _ =>
              split
              · exact Or.inl ⟨rfl, hrevert, by simp⟩
              · next key data hpacket =>
                  cases hnet : net key data with
                  | false => exact Or.inl ⟨rfl, hrevert, by simp⟩
                  | true =>
                      have hcarries := requestPacket_carries hpacket
                      exact Or.inr ⟨b, key, data, hb, not_not.mp hstate,
                        hcarries, rfl⟩

/-- The timeout scan finds nothing, or it quarantines the binding of a Goal that
waited too long for its Goal Response. -/
theorem pollTimeout_cases (ep : ActionClientEndpointImpl) (now : UInt64) :
    ep.pollTimeout now = (ep, none) ∨
      ∃ g b, ep.packetBindings.find? g = some b ∧
        responseTimedOut now b = true ∧
        ep.pollTimeout now =
          (ep.modifyBinding g fun b =>
            { b with state := .goalResponseTimedOut },
          some
            { type := .timeout
              actionName := ep.actionName
              goal := ⟨g⟩ }) := by
  unfold pollTimeout
  split_ifs
  · split
    · exact Or.inl rfl
    · next g b hfind =>
        have hmem := List.mem_of_find?_eq_some hfind
        have hcond := List.find?_some hfind
        exact Or.inr ⟨g, b, OrdMap.mem_entries_iff.mp hmem, hcond, rfl⟩
  · exact Or.inl rfl

theorem responseTimedOut_iff {now : UInt64} {b : ClientPacketBinding} :
    responseTimedOut now b = true ↔
      b.state = .awaitingGoalResponse ∧ b.timeoutUsec ≠ 0 ∧
        b.sentAtUsec ≤ now ∧ b.timeoutUsec ≤ now - b.sentAtUsec := by
  simp [responseTimedOut]

end ActionClientEndpointImpl

end HakoPduRpc.Action
