import HakoPduRpc.Action.Routing

/-!
# What a packet of the server announces

The wire constants of the Action protocol and, for the direction from server to
client, the meaning of a packet: a Goal Response, a Feedback, a Cancel Response
or a Result for one Goal on one slot.

`Carries` says how the server builds such a packet, `decodePacket` how it is
read from its bytes; `decodePacket_of_carries` joins the two.
-/

namespace HakoPduRpc.Action

def actionProtocolVersion : UInt8 := 1
def requestKindGoal : UInt8 := 1
def requestKindCancel : UInt8 := 2
def responseKindGoal : UInt8 := 1
def responseKindCancel : UInt8 := 2
def responseKindResult : UInt8 := 3

/-- The content of a packet from the server. -/
inductive Notice
  | goalResponse (decision : Decision)
  | feedback (sequence : UInt32)
  | cancelResponse (decision : Decision)
  | result (status : TerminalStatus)
deriving DecidableEq, Repr

namespace Notice

/-- The values that the protocol gives a meaning. -/
def WellFormed : Notice → Prop
  | goalResponse decision => decision ≠ .unspecified
  | feedback _ => True
  | cancelResponse decision => decision ≠ .unspecified
  | result status => status ≠ .unspecified

/-- Kind and status of the response header; Feedback has its own header. -/
def responseFields : Notice → Option (UInt8 × UInt8)
  | goalResponse decision => some (responseKindGoal, decision.code)
  | feedback _ => none
  | cancelResponse decision => some (responseKindCancel, decision.code)
  | result status => some (responseKindResult, status.code)

end Notice

/-! ## Building packets -/

/-- The bytes of a packet that passed the sender's capacity check and got the
header written into it. -/
def Encodes {H : Type} (R : PduRegistry) (codec : HeaderCodec H)
    (baseSize : UInt32) (heapCapacity : UInt64) (header : H)
    (data : PduData) : Prop :=
  ∃ pdu wireSize packet,
    R.validatePacketCapacity pdu baseSize heapCapacity false = some wireSize ∧
      R.writeHeader codec pdu header = some packet ∧
      data = packet.take wireSize.toNat

/-- Key and bytes of a packet that announces `notice` for a Goal on a slot. -/
def Carries (R : PduRegistry) (routing : List SlotRouting) (slot : ℕ)
    (goalId : GoalId) (notice : Notice) (key : PduResolvedKey)
    (data : PduData) : Prop :=
  ∃ r, routing[slot]? = some r ∧
    match notice with
    | .feedback sequence =>
        key = r.feedback ∧
          Encodes R R.feedbackHeader r.feedbackPacketBaseSize
            r.feedbackHeapCapacity
            { version := actionProtocolVersion
              goalId := goalId
              sequenceNo := sequence } data
    | _ =>
        ∃ kind status, notice.responseFields = some (kind, status) ∧
          key = r.response ∧
          Encodes R R.responseHeader r.responsePacketBaseSize
            r.responseHeapCapacity
            { version := actionProtocolVersion
              responseKind := kind
              status := status
              goalId := goalId } data

/-- Key and bytes of a request packet for a Goal on a slot. -/
def RequestCarries (R : PduRegistry) (routing : List SlotRouting) (slot : ℕ)
    (goalId : GoalId) (requestKind : UInt8) (key : PduResolvedKey)
    (data : PduData) : Prop :=
  ∃ r, routing[slot]? = some r ∧ key = r.request ∧
    Encodes R R.requestHeader r.requestPacketBaseSize r.requestHeapCapacity
      { version := actionProtocolVersion
        requestKind := requestKind
        goalId := goalId } data

/-! ## Reading packets -/

/-- The checks on the bytes of a packet on a response channel. -/
def readResponse (R : PduRegistry) (r : SlotRouting) (data : PduData) :
    Option ActionResponseHeader :=
  match R.validatePacketCapacity data r.responsePacketBaseSize
      r.responseHeapCapacity true with
  | none => none
  | some _ =>
      (R.decodeHeader R.responseHeader data).filter fun header =>
        header.version = actionProtocolVersion ∧
          isValidGoalId header.goalId = true

/-- The checks on the bytes of a packet on a feedback channel. -/
def readFeedback (R : PduRegistry) (r : SlotRouting) (data : PduData) :
    Option ActionFeedbackHeader :=
  match R.validatePacketCapacity data r.feedbackPacketBaseSize
      r.feedbackHeapCapacity true with
  | none => none
  | some _ =>
      (R.decodeHeader R.feedbackHeader data).filter fun header =>
        header.version = actionProtocolVersion ∧
          isValidGoalId header.goalId = true

/-- The meaning of kind and status of a response header. -/
def responseNotice (kind status : UInt8) : Option Notice :=
  if kind = responseKindGoal ∧
      (status = Decision.accepted.code ∨ status = Decision.rejected.code) then
    some (.goalResponse (Decision.ofCode status))
  else if kind = responseKindResult ∧
      (status = TerminalStatus.succeeded.code ∨
        status = TerminalStatus.canceled.code ∨
        status = TerminalStatus.aborted.code) then
    some (.result (TerminalStatus.ofCode status))
  else if kind = responseKindCancel ∧
      (status = Decision.accepted.code ∨ status = Decision.rejected.code) then
    some (.cancelResponse (Decision.ofCode status))
  else none

/-- A packet with its slot, its Goal and its content. -/
structure Packet where
  slot : ℕ
  goalId : GoalId
  notice : Notice
deriving DecidableEq

/-- The packet that the bytes received under a key stand for. -/
def decodePacket (R : PduRegistry) (routing : List SlotRouting)
    (key : PduResolvedKey) (data : PduData) : Option Packet :=
  match routing.find? (·.response = key) with
  | some r =>
      (readResponse R r data).bind fun header =>
        (responseNotice header.responseKind header.status).map fun notice =>
          { slot := r.slotIndex, goalId := header.goalId, notice := notice }
  | none =>
      match routing.find? (·.feedback = key) with
      | some r =>
          (readFeedback R r data).map fun header =>
            { slot := r.slotIndex
              goalId := header.goalId
              notice := .feedback header.sequenceNo }
      | none => none

theorem responseNotice_wellFormed {kind status : UInt8} {notice : Notice}
    (h : responseNotice kind status = some notice) : notice.WellFormed := by
  unfold responseNotice at h
  split_ifs at h with hgoal hresult hcancel
  · rcases hgoal.2 with rfl | rfl <;> cases h <;> simp [Notice.WellFormed]
  · rcases hresult.2 with rfl | rfl | rfl <;> cases h <;>
      simp [Notice.WellFormed]
  · rcases hcancel.2 with rfl | rfl <;> cases h <;> simp [Notice.WellFormed]

theorem readResponse_valid {R : PduRegistry} {r : SlotRouting} {data : PduData}
    {header : ActionResponseHeader}
    (h : readResponse R r data = some header) :
    isValidGoalId header.goalId = true := by
  unfold readResponse at h
  split at h
  · simp at h
  · have hchecks := (Option.filter_eq_some_iff.mp h).2
    simp only [decide_eq_true_eq] at hchecks
    exact hchecks.2

theorem readFeedback_valid {R : PduRegistry} {r : SlotRouting} {data : PduData}
    {header : ActionFeedbackHeader}
    (h : readFeedback R r data = some header) :
    isValidGoalId header.goalId = true := by
  unfold readFeedback at h
  split at h
  · simp at h
  · have hchecks := (Option.filter_eq_some_iff.mp h).2
    simp only [decide_eq_true_eq] at hchecks
    exact hchecks.2

theorem responseNotice_responseFields {notice : Notice} {kind status : UInt8}
    (hwf : notice.WellFormed)
    (h : notice.responseFields = some (kind, status)) :
    responseNotice kind status = some notice := by
  cases notice with
  | goalResponse d =>
      obtain ⟨rfl, rfl⟩ : responseKindGoal = kind ∧ d.code = status := by
        simpa [Notice.responseFields] using h
      cases d
      · exact absurd rfl hwf
      · decide
      · decide
  | feedback n => simp [Notice.responseFields] at h
  | cancelResponse d =>
      obtain ⟨rfl, rfl⟩ : responseKindCancel = kind ∧ d.code = status := by
        simpa [Notice.responseFields] using h
      cases d
      · exact absurd rfl hwf
      · decide
      · decide
  | result s =>
      obtain ⟨rfl, rfl⟩ : responseKindResult = kind ∧ s.code = status := by
        simpa [Notice.responseFields] using h
      cases s
      · exact absurd rfl hwf
      · decide
      · decide
      · decide

section Decoding

variable {R : PduRegistry} (hR : R.Lawful) {routing : List SlotRouting}
  {slot : ℕ} {r : SlotRouting} {g : GoalId} {notice : Notice}
  {key : PduResolvedKey} {data : PduData}

include hR

theorem readResponse_of_encodes {kind status : UInt8}
    (hg : isValidGoalId g = true)
    (h : Encodes R R.responseHeader r.responsePacketBaseSize
      r.responseHeapCapacity
      { version := actionProtocolVersion
        responseKind := kind
        status := status
        goalId := g } data) :
    readResponse R r data = some
      { version := actionProtocolVersion
        responseKind := kind
        status := status
        goalId := g } := by
  obtain ⟨pdu, w, packet, hcheck, hwrite, rfl⟩ := h
  obtain ⟨hvalid, hdecode⟩ := PduRegistry.transmit hR hR.response hcheck hwrite
  simp [readResponse, hvalid, hdecode, hg]

theorem readFeedback_of_encodes {sequence : UInt32}
    (hg : isValidGoalId g = true)
    (h : Encodes R R.feedbackHeader r.feedbackPacketBaseSize
      r.feedbackHeapCapacity
      { version := actionProtocolVersion
        goalId := g
        sequenceNo := sequence } data) :
    readFeedback R r data = some
      { version := actionProtocolVersion
        goalId := g
        sequenceNo := sequence } := by
  obtain ⟨pdu, w, packet, hcheck, hwrite, rfl⟩ := h
  obtain ⟨hvalid, hdecode⟩ := PduRegistry.transmit hR hR.feedback hcheck hwrite
  simp [readFeedback, hvalid, hdecode, hg]

end Decoding

/-- In a well-formed table the slot of a key is found by searching for it. -/
theorem find?_key {actionName : String} {routing : List SlotRouting}
    (hwf : RoutingWellFormed actionName routing) {slot : ℕ} {r : SlotRouting}
    (hr : routing[slot]? = some r) (kind kind' : ActionChannelKind) :
    routing.find? (fun x => x.key kind' = r.key kind) =
      if kind' = kind then some r else none := by
  split_ifs with hkind
  · subst hkind
    have hmem : r ∈ routing := List.mem_of_getElem? hr
    cases hfind : routing.find? fun x => x.key kind' = r.key kind' with
    | none =>
        have := List.find?_eq_none.mp hfind r hmem
        simp at this
    | some r' =>
        obtain ⟨j, hj⟩ := List.getElem?_of_mem (List.mem_of_find?_eq_some hfind)
        have heq : r'.key kind' = r.key kind' := by
          simpa using List.find?_some hfind
        obtain ⟨rfl, -⟩ := hwf.key_injective hj hr heq
        rw [hj] at hr
        exact hr
  · rw [List.find?_eq_none]
    intro x hx heq
    obtain ⟨j, hj⟩ := List.getElem?_of_mem hx
    exact hkind (hwf.key_injective hj hr (by simpa using heq)).2

/-- A packet that the server builds is read back as what it announces. -/
theorem decodePacket_of_carries {R : PduRegistry} (hR : R.Lawful)
    {actionName : String} {routing : List SlotRouting}
    (hwf : RoutingWellFormed actionName routing) {slot : ℕ} {g : GoalId}
    {notice : Notice} {key : PduResolvedKey} {data : PduData}
    (hg : isValidGoalId g = true) (hnotice : notice.WellFormed)
    (h : Carries R routing slot g notice key data) :
    decodePacket R routing key data =
      some { slot := slot, goalId := g, notice := notice } := by
  obtain ⟨r, hr, h⟩ := h
  have hslot := hwf.slotIndex_eq hr
  have hresponse : routing.find? (·.response = r.response) = some r :=
    find?_key hwf hr .response .response
  have hnone : routing.find? (·.response = r.feedback) = none :=
    find?_key hwf hr .feedback .response
  have hfeedback : routing.find? (·.feedback = r.feedback) = some r :=
    find?_key hwf hr .feedback .feedback
  cases notice with
  | feedback n =>
      obtain ⟨rfl, henc⟩ := h
      have hread := readFeedback_of_encodes hR (r := r) hg henc
      simp [decodePacket, hnone, hfeedback, hread, hslot]
  | goalResponse d =>
      obtain ⟨kind, status, hfields, rfl, henc⟩ := h
      have hread := readResponse_of_encodes hR (r := r) hg henc
      simp [decodePacket, hresponse, hread, hslot,
        responseNotice_responseFields hnotice hfields]
  | cancelResponse d =>
      obtain ⟨kind, status, hfields, rfl, henc⟩ := h
      have hread := readResponse_of_encodes hR (r := r) hg henc
      simp [decodePacket, hresponse, hread, hslot,
        responseNotice_responseFields hnotice hfields]
  | result s =>
      obtain ⟨kind, status, hfields, rfl, henc⟩ := h
      have hread := readResponse_of_encodes hR (r := r) hg henc
      simp [decodePacket, hresponse, hread, hslot,
        responseNotice_responseFields hnotice hfields]

end HakoPduRpc.Action
