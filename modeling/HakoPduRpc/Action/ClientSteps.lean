import HakoPduRpc.Action.ServicesClient

/-!
# What a step of the client does to one Goal

On the client the services keep nothing that the endpoint does not know: the
context of a Goal is a function of its packet binding,
`ClientPacketBinding.context`.  The invariant of an Action says so for all its
Goals.

The inversion lemmas of this module, one for each call and one for `poll()`, say
that a step changes nothing about any Goal, or that it changes the binding of
one Goal in one of four ways: a new binding, a Cancel that was sent, a packet
that was reported, or a Goal Response timeout.
-/

namespace HakoPduRpc.Action

open KeyedList

/-! ## The two layers -/

/-- The context that the services keep for the Goal of a binding. -/
def ClientPacketBinding.context (b : ClientPacketBinding) :
    Option ClientGoalContext :=
  match b.state with
  | .awaitingGoalResponse => none
  | .goalResponseTimedOut => none
  | .accepted => some { nextFeedbackSequence := b.nextFeedbackSequence }
  | .awaitingCancelResponse =>
      some
        { cancelResponsePending := true
          nextFeedbackSequence := b.nextFeedbackSequence }
  | .canceling =>
      some
        { state := .canceling
          nextFeedbackSequence := b.nextFeedbackSequence }

/-- The event that reports a Goal Response timeout. -/
def timeoutEvent (actionName : String) (g : GoalId) : ClientEvent :=
  { type := .timeout
    actionName := actionName
    goal := ⟨g⟩ }

/-- A Goal without a context has not reported any Feedback. -/
def ClientPacketBinding.Fresh (b : ClientPacketBinding) : Prop :=
  b.context = none → b.nextFeedbackSequence = 0

/-- A reported packet leaves no binding that waits for the Goal Response. -/
theorem ClientPacketBinding.state_of_advance {b b' : ClientPacketBinding}
    {n : Notice} (h : b.advance n = some (some b')) :
    b'.state ≠ .awaitingGoalResponse ∧ b'.state ≠ .goalResponseTimedOut := by
  cases n with
  | goalResponse d =>
      simp only [ClientPacketBinding.advance] at h
      split_ifs at h <;> cases h
      simp
  | feedback sequence =>
      simp only [ClientPacketBinding.advance] at h
      split_ifs at h with hstate
      cases h
      rcases hstate with ⟨hstate | hstate | hstate, -⟩ <;> simp [hstate]
  | cancelResponse d =>
      simp only [ClientPacketBinding.advance] at h
      split_ifs at h <;> cases h <;> simp
  | result status =>
      simp only [ClientPacketBinding.advance] at h
      split_ifs at h
      cases h

theorem ClientPacketBinding.fresh_of_advance {b b' : ClientPacketBinding}
    {n : Notice} (h : b.advance n = some (some b')) : b'.Fresh := by
  obtain ⟨hne, hne'⟩ := state_of_advance h
  intro hnone
  cases hstate : b'.state <;>
    simp_all [ClientPacketBinding.context]

/-! ## The invariant of one Action -/

namespace ClientActionInstance

/-- The binding of a Goal in the endpoint. -/
def binding (inst : ClientActionInstance) (g : GoalId) :
    Option ClientPacketBinding :=
  inst.endpoint.packetBindings.find? g

/-- The context of a Goal in the services. -/
def context (inst : ClientActionInstance) (g : GoalId) :
    Option ClientGoalContext :=
  (inst.getGoal g).map (·.context)

/-- What holds of an Action in every reachable state. -/
structure Invariant (inst : ClientActionInstance) : Prop where
  routing : RoutingWellFormed inst.actionName inst.endpoint.slotRouting
  initialized : inst.endpoint.initialized = true
  store : inst.endpoint.SlotStore
  valid : ∀ {g b}, inst.binding g = some b → isValidGoalId g = true
  nodup : (inst.goals.map (·.goal.goalId)).Nodup
  corr : ∀ g, inst.context g =
    (inst.binding g).bind ClientPacketBinding.context
  fresh : ∀ g, ∀ b ∈ inst.binding g, b.Fresh

/-- `inst'` differs from `inst` at one Goal. -/
structure GoalUpdate (inst inst' : ClientActionInstance) (g : GoalId)
    (b : Option ClientPacketBinding) : Prop where
  actionName_eq : inst'.actionName = inst.actionName
  endpoint : ActionClientEndpointImpl.Update inst.endpoint inst'.endpoint g b
  goals : KeyedList.Update (·.goal.goalId) (·.context) inst.goals inst'.goals g
    (b.bind ClientPacketBinding.context)

/-- The instance with another queue of packets. -/
def popped (inst : ClientActionInstance)
    (packets : List ClientPendingPacket) : ClientActionInstance :=
  inst.withEndpoint { inst.endpoint with pendingPackets := packets }

theorem GoalUpdate.binding_eq {inst inst' : ClientActionInstance} {g : GoalId}
    {b : Option ClientPacketBinding} (h : GoalUpdate inst inst' g b)
    (g' : GoalId) :
    inst'.binding g' = if g' = g then b else inst.binding g' :=
  h.endpoint.find?_eq g'

theorem GoalUpdate.context_eq {inst inst' : ClientActionInstance} {g : GoalId}
    {b : Option ClientPacketBinding} (h : GoalUpdate inst inst' g b)
    (g' : GoalId) :
    inst'.context g' =
      if g' = g then b.bind ClientPacketBinding.context
      else inst.context g' :=
  h.goals.lookup_eq g'

theorem Invariant.update {inst inst' : ClientActionInstance} {g : GoalId}
    {b : Option ClientPacketBinding} (hinv : inst.Invariant)
    (h : GoalUpdate inst inst' g b) (hg : isValidGoalId g = true)
    (hfresh : ∀ x ∈ b, x.Fresh) : inst'.Invariant where
  routing := by
    rw [h.actionName_eq, h.endpoint.slotRouting_eq]
    exact hinv.routing
  initialized := h.endpoint.initialized_eq.trans hinv.initialized
  store := h.endpoint.store
  valid := by
    intro g' b' hb'
    rw [h.binding_eq] at hb'
    split_ifs at hb' with hg'
    · rw [hg']
      exact hg
    · exact hinv.valid hb'
  nodup := h.goals.nodup
  corr := by
    intro g'
    rw [h.binding_eq, h.context_eq]
    split_ifs
    · rfl
    · exact hinv.corr g'
  fresh := by
    intro g'
    rw [h.binding_eq]
    split_ifs
    · exact hfresh
    · exact hinv.fresh g'

theorem Invariant.popped {inst : ClientActionInstance} (hinv : inst.Invariant)
    (packets : List ClientPendingPacket) : (inst.popped packets).Invariant where
  routing := hinv.routing
  initialized := hinv.initialized
  store := ⟨hinv.store.consistent, hinv.store.goalId_eq, hinv.store.length_eq⟩
  valid := hinv.valid
  nodup := hinv.nodup
  corr := hinv.corr
  fresh := hinv.fresh

theorem invariant_of_fresh {inst : ClientActionInstance}
    (h : ActionServicesClient.Fresh inst) : inst.Invariant := by
  have hep := h.endpoint_eq
  have hfind : ∀ g, inst.endpoint.packetBindings.find? g = none := by
    intro g
    rw [hep]
    rfl
  refine ⟨h.routing, by rw [hep], ⟨?_, ?_, ?_⟩, ?_, ?_, ?_, ?_⟩
  · rw [hep]
    exact SlotTable.Consistent.empty (by simp)
  · intro g b hb
    simp [hfind] at hb
  · rw [hep]
    simp
  · intro g b hb
    simp [binding, hfind] at hb
  · simp [h.goals_eq]
  · intro g
    simp [context, getGoal, h.goals_eq, binding, hfind]
  · intro g
    simp [binding, hfind]

/-! ## What a call does -/

/-- A call that fails: only refused sends. -/
def Failed {α : Type} (inst : ClientActionInstance)
    (o : Outcome ClientActionInstance ClientEffect α) : Prop :=
  o.state = inst ∧ ∀ e ∈ o.effects, ∃ key data, e = .send key data false

section Calls

variable {R : PduRegistry} {net : SendOracle} {inst : ClientActionInstance}

theorem setContext_update (hnodup : (inst.goals.map (·.goal.goalId)).Nodup)
    {g : GoalId} {goal : ClientGoalInstance}
    (hget : inst.getGoal g = some goal) (c : ClientGoalContext) :
    KeyedList.Update (·.goal.goalId) (·.context) inst.goals
      (inst.setContext g c).goals g (some c) :=
  Update.modifyFirst hnodup hget fun _ => rfl

/-- A Goal is known to the services exactly when it has a context. -/
theorem getGoal_of_context {g : GoalId} {c : ClientGoalContext}
    (h : inst.context g = some c) :
    inst.getGoal g = some { goal := ⟨g⟩, context := c } := by
  obtain ⟨⟨⟨g'⟩, c'⟩, hget, rfl⟩ := Option.map_eq_some_iff.mp h
  have hkey := lookup_key hget
  change g' = g at hkey
  rw [← hkey] at hget ⊢
  exact hget

theorem getGoal_eq_none {g : GoalId} (h : inst.context g = none) :
    inst.getGoal g = none :=
  Option.map_eq_none_iff.mp h

variable (hinv : inst.Invariant)

include hinv

/-- `send_goal_with_result` fails, or it is a step of its Goal. -/
theorem sendGoalWithResult_cases {now timeoutUsec : UInt64} {pdu : PduData}
    {g : GoalId} {o : Outcome ClientActionInstance ClientEffect GoalSendResult}
    (h : inst.sendGoalWithResult R net now pdu g timeoutUsec = o) :
    (o.result ≠ .success ∧ Failed inst o) ∨
      ∃ slot key data, o.result = .success ∧
        o.effects = [.send key data true] ∧ inst.binding g = none ∧
        RequestCarries R inst.endpoint.slotRouting slot g requestKindGoal key
          data ∧
        GoalUpdate inst o.state g
          (some (ActionClientEndpointImpl.sentBinding g slot now
            timeoutUsec)) := by
  subst h
  unfold sendGoalWithResult
  split_ifs with hhas
  · exact Or.inl ⟨by simp, rfl, by simp⟩
  · generalize hsend :
      inst.endpoint.sendGoalWithResult R net now pdu g timeoutUsec = o
    have hcontext : inst.context g = none := by
      rw [context, Option.map_eq_none_iff]
      simpa [hasGoal] using hhas
    obtain ⟨hresult, hstate, heffects⟩ |
        ⟨slot, key, data, hvalid, hnew, hlt, hfree, hsent, rfl⟩ :=
      ActionClientEndpointImpl.sendGoalWithResult_cases hsend
    · refine Or.inl ⟨hresult, ?_, heffects⟩
      simp [hstate, withEndpoint]
    · have hbind := ActionClientEndpointImpl.Update.bind hinv.store
        (b := ActionClientEndpointImpl.sentBinding g slot now timeoutUsec)
        hlt hfree hnew rfl
      exact Or.inr ⟨slot, key, data, rfl, rfl, hnew, hsent, rfl, hbind,
        Update.refl hinv.nodup hcontext⟩

/-- `send_cancel` fails, or it is a step of its Goal. -/
theorem sendCancel_cases {goal : ClientGoalHandle}
    {o : Outcome ClientActionInstance ClientEffect Bool}
    (h : inst.sendCancel R net goal = o) :
    (o.result = false ∧ Failed inst o) ∨
      ∃ b key data, o.result = true ∧ o.effects = [.send key data true] ∧
        inst.binding goal.goalId = some b ∧ b.state = .accepted ∧
        RequestCarries R inst.endpoint.slotRouting b.slotIndex goal.goalId
          requestKindCancel key data ∧
        GoalUpdate inst o.state goal.goalId
          (some { b with state := .awaitingCancelResponse }) := by
  subst h
  unfold sendCancel
  split
  · exact Or.inl ⟨rfl, rfl, by simp⟩
  · next goalInstance hget =>
      dsimp only
      split
      · exact Or.inl ⟨rfl, rfl, by simp⟩
      · split
        · exact Or.inl ⟨rfl, rfl, by simp⟩
        · generalize hsend : inst.endpoint.sendCancel R net goal = o
          obtain ⟨hresult, hstate, heffects⟩ |
              ⟨b, key, data, hb, hbstate, hsent, rfl⟩ :=
            ActionClientEndpointImpl.sendCancel_cases hsend
          · refine Or.inl ⟨hresult, ?_, heffects⟩
            simp [hresult, hstate, withEndpoint]
          · have hcorr := hinv.corr goal.goalId
            rw [show inst.binding goal.goalId = some b from hb, context, hget]
              at hcorr
            simp only [Option.map_some, Option.bind_some,
              ClientPacketBinding.context, hbstate, Option.some.injEq] at hcorr
            refine Or.inr ⟨b, key, data, rfl, rfl, hb, hbstate, hsent, rfl,
              ActionClientEndpointImpl.Update.modifyBinding hinv.store hb rfl
                rfl, ?_⟩
            rw [hcorr]
            exact setContext_update hinv.nodup hget _

end Calls

/-! ## What a poll does -/

/-- The services take an event over: their list of Goals changes at the Goal of
the event, and the event is passed on as it is. -/
def Handled (inst : ClientActionInstance) (event : ClientEvent) (g : GoalId)
    (b : Option ClientPacketBinding)
    (o : ClientActionInstance × Option ClientEvent) : Prop :=
  ∃ goals, o = ({ inst with goals := goals }, some event) ∧
    KeyedList.Update (·.goal.goalId) (·.context) inst.goals goals g
      (b.bind ClientPacketBinding.context)

section Events

variable {inst : ClientActionInstance} {g : GoalId} {b : ClientPacketBinding}
  {b' : Option ClientPacketBinding} {name : String} {data : PduData}
  (hnodup : (inst.goals.map (·.goal.goalId)).Nodup)
  (hg : isValidGoalId g = true) (hcontext : inst.context g = b.context)

include hnodup hg hcontext

theorem handleGoalResponse_handled {d : Decision} (hd : d ≠ .unspecified)
    (hfresh : b.Fresh) (hadvance : b.advance (.goalResponse d) = some b') :
    Handled inst (noticeEvent name g (.goalResponse d) data) g b'
      (inst.handleGoalResponse
        (noticeEvent name g (.goalResponse d) data)) := by
  simp only [ClientPacketBinding.advance] at hadvance
  split_ifs at hadvance with hstate hdecision
  · cases hadvance
    have hnone : b.context = none := by
      simp [ClientPacketBinding.context, hstate]
    rw [hnone] at hcontext
    have hget := getGoal_eq_none hcontext
    refine ⟨inst.goals ++ [{ goal := ⟨g⟩ }], ?_, ?_⟩
    · simp [handleGoalResponse, noticeEvent, ClientGoalHandle.valid, hg,
        hdecision, hasGoal, hget]
    · have happend : KeyedList.Update (·.goal.goalId)
          ClientGoalInstance.context inst.goals
          (inst.goals ++ [{ goal := ⟨g⟩ }]) g
          (some ({ goal := ⟨g⟩ } : ClientGoalInstance).context) :=
        Update.append hnodup hget rfl
      simpa [ClientPacketBinding.context, hfresh hnone] using happend
  · cases hadvance
    refine ⟨inst.goals, ?_, Update.refl hnodup ?_⟩
    · have hrejected : d = .rejected := by
        cases d <;> simp_all
      simp [handleGoalResponse, noticeEvent, ClientGoalHandle.valid, hg,
        hrejected]
    · exact hcontext.trans (by simp [ClientPacketBinding.context, hstate])

theorem handleFeedback_handled {sequence : UInt32}
    (hadvance : b.advance (.feedback sequence) = some b') :
    Handled inst (noticeEvent name g (.feedback sequence) data) g b'
      (inst.handleFeedback (noticeEvent name g (.feedback sequence) data)) := by
  simp only [ClientPacketBinding.advance] at hadvance
  split_ifs at hadvance with hstate
  cases hadvance
  obtain ⟨hstate, rfl⟩ := hstate
  rcases hstate with hstate | hstate | hstate
  all_goals
    simp only [ClientPacketBinding.context, hstate] at hcontext
    have hget := getGoal_of_context hcontext
    have hset := setContext_update hnodup hget
    refine ⟨_, ?_, by
      simpa only [Option.bind_some, ClientPacketBinding.context, hstate]
        using hset _⟩
    simp [handleFeedback, noticeEvent, ClientGoalHandle.valid, hg, hget,
      handleTransition, transitionClientGoal, isValidClientContext, setContext]

theorem handleCancelResponse_handled {d : Decision} (hd : d ≠ .unspecified)
    (hadvance : b.advance (.cancelResponse d) = some b') :
    Handled inst (noticeEvent name g (.cancelResponse d) data) g b'
      (inst.handleCancelResponse
        (noticeEvent name g (.cancelResponse d) data)) := by
  simp only [ClientPacketBinding.advance] at hadvance
  split_ifs at hadvance with hstate
  all_goals
    cases hadvance
    simp only [ClientPacketBinding.context, hstate] at hcontext
    have hget := getGoal_of_context hcontext
    have hset := setContext_update hnodup hget
    refine ⟨_, ?_, by
      simpa only [Option.bind_some, ClientPacketBinding.context]
        using hset _⟩
    cases d <;>
      simp_all [handleCancelResponse, noticeEvent, ClientGoalHandle.valid,
        handleTransition, transitionClientGoal, isValidClientContext,
        setContext]

theorem handleResult_handled {status : TerminalStatus}
    (hadvance : b.advance (.result status) = some b') :
    Handled inst (noticeEvent name g (.result status) data) g b'
      (inst.handleResult (noticeEvent name g (.result status) data)) := by
  simp only [ClientPacketBinding.advance] at hadvance
  split_ifs at hadvance with hstate
  cases hadvance
  refine ⟨_, ?_, Update.removeFirst hnodup⟩
  rcases hstate with ⟨hstate | hstate, hstatus⟩ | ⟨hstate, hstatus⟩
  all_goals
    simp only [ClientPacketBinding.context, hstate] at hcontext
    have hget := getGoal_of_context hcontext
    simp [handleResult, noticeEvent, ClientGoalHandle.valid, hg, hget,
      handleTransition, transitionClientGoal, isValidClientContext,
      receiveClientResult, hstatus, removeGoal]

end Events

/-- A packet that the endpoint drops: it cannot be read, its Goal is not bound to
its slot, or it means nothing to the binding. -/
def Dropped (R : PduRegistry) (inst : ClientActionInstance)
    (packet : ClientPendingPacket) : Prop :=
  ∀ p b, packet.decode R inst.endpoint.slotRouting = some p →
    inst.binding p.goalId = some b → b.slotIndex = p.slot →
      b.advance p.notice = none

/-- The queue after a poll that reported no packet. -/
def Skips (R : PduRegistry) (inst : ClientActionInstance)
    (rest : List ClientPendingPacket) : Prop :=
  (inst.endpoint.pendingPackets = [] ∧ rest = []) ∨
    ∃ packet, inst.endpoint.pendingPackets = packet :: rest ∧
      Dropped R inst packet

/-- What `poll()` can do to one Action. -/
inductive PollCase (R : PduRegistry) (now : UInt64)
    (inst inst' : ClientActionInstance) : Option ClientEvent → Prop
  | reported {packet : ClientPendingPacket} {rest : List ClientPendingPacket}
      {p : Packet} {b : ClientPacketBinding}
      {b' : Option ClientPacketBinding}
      (hqueue : inst.endpoint.pendingPackets = packet :: rest)
      (hdecode : packet.decode R inst.endpoint.slotRouting = some p)
      (hb : inst.binding p.goalId = some b) (hslot : b.slotIndex = p.slot)
      (hadvance : b.advance p.notice = some b')
      (hupdate : GoalUpdate (inst.popped rest) inst' p.goalId b') :
      PollCase R now inst inst'
        (some (noticeEvent inst.actionName p.goalId p.notice packet.pdu))
  | idle {rest : List ClientPendingPacket} (hskip : Skips R inst rest)
      (hinst : inst' = inst.popped rest) : PollCase R now inst inst' none
  | timedOut {rest : List ClientPendingPacket} {g : GoalId}
      {b : ClientPacketBinding} (hskip : Skips R inst rest)
      (hb : inst.binding g = some b)
      (htimeout : ActionClientEndpointImpl.responseTimedOut now b = true)
      (hupdate : GoalUpdate (inst.popped rest) inst' g
        (some { b with state := .goalResponseTimedOut })) :
      PollCase R now inst inst' (some (timeoutEvent inst.actionName g))

section Polls

variable {R : PduRegistry} {inst : ClientActionInstance}

theorem applyPacket_eq_none {p : Packet} {pdu : PduData}
    {rest : List ClientPendingPacket} :
    ActionClientEndpointImpl.applyPacket
        { inst.endpoint with pendingPackets := rest } p pdu = none ↔
      ∀ b, inst.binding p.goalId = some b → b.slotIndex = p.slot →
        b.advance p.notice = none := by
  simp only [ActionClientEndpointImpl.applyPacket, binding]
  cases inst.endpoint.packetBindings.find? p.goalId with
  | none => simp
  | some b =>
      simp only [Option.bind_some, Option.some.injEq, forall_eq']
      split_ifs with hslot <;> simp [hslot]

/-- The endpoint reports the packet in front of its queue, or it drops it and
looks for a timeout. -/
theorem endpoint_poll_cases (inst : ClientActionInstance) (now : UInt64) :
    (∃ packet rest p b b', inst.endpoint.pendingPackets = packet :: rest ∧
        packet.decode R inst.endpoint.slotRouting = some p ∧
        inst.binding p.goalId = some b ∧ b.slotIndex = p.slot ∧
        b.advance p.notice = some b' ∧
        inst.endpoint.poll R now =
          (ActionClientEndpointImpl.replaceBinding
            { inst.endpoint with pendingPackets := rest } p.goalId b b',
          some (noticeEvent inst.endpoint.actionName p.goalId p.notice
            packet.pdu))) ∨
      ∃ rest, Skips R inst rest ∧
        inst.endpoint.poll R now =
          ActionClientEndpointImpl.pollTimeout
            { inst.endpoint with pendingPackets := rest } now := by
  unfold ActionClientEndpointImpl.poll
  cases hqueue : inst.endpoint.pendingPackets with
  | nil =>
      refine Or.inr ⟨[], Or.inl ⟨hqueue, rfl⟩, ?_⟩
      simp [← hqueue]
  | cons packet rest =>
      dsimp only
      rw [ActionClientEndpointImpl.handlePacket_eq]
      cases hdecode : packet.decode R inst.endpoint.slotRouting with
      | none =>
          refine Or.inr ⟨rest, Or.inr ⟨packet, hqueue, ?_⟩, rfl⟩
          intro p b hp
          simp [hdecode] at hp
      | some p =>
          simp only [Option.bind_some]
          cases happly : ActionClientEndpointImpl.applyPacket
              { inst.endpoint with pendingPackets := rest } p packet.pdu with
          | none =>
              refine Or.inr ⟨rest, Or.inr ⟨packet, hqueue, ?_⟩, rfl⟩
              intro p' b hp'
              obtain rfl : p = p' := by simpa [hdecode] using hp'
              exact applyPacket_eq_none.mp happly b
          | some done =>
              obtain ⟨b, hb, happly⟩ := Option.bind_eq_some_iff.mp happly
              split_ifs at happly with hslot
              obtain ⟨b', hadvance, rfl⟩ := Option.map_eq_some_iff.mp happly
              exact Or.inl ⟨packet, rest, p, b, b', rfl, hdecode, hb, hslot,
                hadvance, rfl⟩

variable (hinv : inst.Invariant)

include hinv

/-- The services pass a packet event of the endpoint on. -/
theorem pollEndpoint_reported {now : UInt64} {packet : ClientPendingPacket}
    {rest : List ClientPendingPacket} {p : Packet} {b : ClientPacketBinding}
    {b' : Option ClientPacketBinding}
    (hdecode : packet.decode R inst.endpoint.slotRouting = some p)
    (hb : inst.binding p.goalId = some b)
    (hadvance : b.advance p.notice = some b')
    (hpoll : inst.endpoint.poll R now =
      (ActionClientEndpointImpl.replaceBinding
        { inst.endpoint with pendingPackets := rest } p.goalId b b',
      some (noticeEvent inst.endpoint.actionName p.goalId p.notice
        packet.pdu))) :
    Handled
      (inst.withEndpoint (ActionClientEndpointImpl.replaceBinding
        { inst.endpoint with pendingPackets := rest } p.goalId b b'))
      (noticeEvent inst.actionName p.goalId p.notice packet.pdu) p.goalId b'
      (inst.pollEndpoint R now) := by
  obtain ⟨hg, hwf⟩ := ClientPendingPacket.decode_wellFormed hdecode
  have hfresh := hinv.fresh p.goalId b hb
  generalize ActionClientEndpointImpl.replaceBinding
    { inst.endpoint with pendingPackets := rest } p.goalId b b' = ep at hpoll ⊢
  have hcontext : (inst.withEndpoint ep).context p.goalId = b.context := by
    have hcorr := hinv.corr p.goalId
    rwa [hb] at hcorr
  have hnodup : ((inst.withEndpoint ep).goals.map (·.goal.goalId)).Nodup :=
    hinv.nodup
  simp only [pollEndpoint, hpoll]
  generalize p.goalId = g at *
  generalize p.notice = n at *
  cases n with
  | goalResponse d =>
      exact handleGoalResponse_handled hnodup hg hcontext hwf hfresh hadvance
  | feedback sequence =>
      exact handleFeedback_handled hnodup hg hcontext hadvance
  | cancelResponse d =>
      exact handleCancelResponse_handled hnodup hg hcontext hwf hadvance
  | result status =>
      exact handleResult_handled hnodup hg hcontext hadvance

/-- What one poll of an Action can do. -/
theorem poll_cases (now : UInt64) :
    PollCase R now inst (inst.pollEndpoint R now).1
      (inst.pollEndpoint R now).2 := by
  obtain ⟨packet, rest, p, b, b', hqueue, hdecode, hb, hslot, hadvance,
      hpoll⟩ | ⟨rest, hskip, hpoll⟩ :=
    endpoint_poll_cases (R := R) inst now
  · obtain ⟨goals, hdone, hgoals⟩ :=
      pollEndpoint_reported hinv hdecode hb hadvance hpoll
    rw [hdone]
    exact .reported hqueue hdecode hb hslot hadvance
      ⟨rfl, ActionClientEndpointImpl.Update.replaceBinding
        (hinv.popped rest).store hb hadvance, hgoals⟩
  · obtain hidle | ⟨g, b, hb, htimeout, hidle⟩ :=
      ActionClientEndpointImpl.pollTimeout_cases
        { inst.endpoint with pendingPackets := rest } now
    · simp only [pollEndpoint, hpoll, hidle]
      exact .idle hskip rfl
    · simp only [pollEndpoint, hpoll, hidle]
      have hstate :=
        (ActionClientEndpointImpl.responseTimedOut_iff.mp htimeout).1
      have hcontext : inst.context g = none := by
        rw [hinv.corr, show inst.binding g = some b from hb]
        simp [ClientPacketBinding.context, hstate]
      exact .timedOut hskip hb htimeout
        ⟨rfl, ActionClientEndpointImpl.Update.modifyBinding
          (hinv.popped rest).store hb rfl rfl,
          Update.refl hinv.nodup hcontext⟩

/-- The services pass every event of the endpoint on, with the name of the
Action. -/
theorem pollEndpoint_passes (now : UInt64) :
    (inst.pollEndpoint R now).2 =
      (inst.endpoint.poll R now).2.map fun event =>
        { event with actionName := inst.actionName } := by
  obtain ⟨packet, rest, p, b, b', hqueue, hdecode, hb, hslot, hadvance,
      hpoll⟩ | ⟨rest, hskip, hpoll⟩ :=
    endpoint_poll_cases (R := R) inst now
  · obtain ⟨goals, hdone, -⟩ :=
      pollEndpoint_reported hinv hdecode hb hadvance hpoll
    rw [hdone, hpoll]
    cases p.notice <;> rfl
  · obtain hidle | ⟨g, b, -, -, hidle⟩ :=
      ActionClientEndpointImpl.pollTimeout_cases
        { inst.endpoint with pendingPackets := rest } now
    · simp [pollEndpoint, hpoll, hidle]
    · simp [pollEndpoint, hpoll, hidle]

end Polls

/-! ## The invariant is kept -/

section Preservation

variable {R : PduRegistry} {inst inst' : ClientActionInstance}

theorem Invariant.pollCase (hinv : inst.Invariant) {now : UInt64}
    {result : Option ClientEvent} (h : PollCase R now inst inst' result) :
    inst'.Invariant := by
  cases h with
  | @reported packet rest p b b' hqueue hdecode hb hslot hadvance hupdate =>
      refine (hinv.popped rest).update hupdate
        (ClientPendingPacket.decode_wellFormed hdecode).1 ?_
      rintro b' rfl
      exact ClientPacketBinding.fresh_of_advance hadvance
  | idle hskip hinst =>
      rw [hinst]
      exact hinv.popped _
  | @timedOut rest g b hskip hb htimeout hupdate =>
      refine (hinv.popped rest).update hupdate (hinv.valid hb) ?_
      have hstate :=
        (ActionClientEndpointImpl.responseTimedOut_iff.mp htimeout).1
      have hfresh := hinv.fresh g b hb
      simp only [ClientPacketBinding.Fresh, ClientPacketBinding.context,
        hstate, forall_const] at hfresh
      simp [ClientPacketBinding.Fresh, hfresh]

theorem Invariant.step (hinv : inst.Invariant) (i : ClientInstanceInput) :
    ((clientInstanceMachine R).step inst i).1.Invariant := by
  cases i with
  | receive key data => exact hinv.popped _
  | poll now => exact hinv.pollCase (poll_cases hinv now)
  | sendGoal net now pdu g timeoutUsec =>
      simp only [clientInstanceMachine]
      split_ifs with hvalid
      · generalize hsend :
          inst.sendGoalWithResult R net now pdu g timeoutUsec = o
        obtain ⟨-, hstate, -⟩ | ⟨slot, key, data, -, -, -, -, hupdate⟩ :=
          sendGoalWithResult_cases hinv hsend
        · rw [hstate]
          exact hinv
        · refine hinv.update hupdate ?_ ?_
          · simp only [goalArgumentsValid, decide_eq_true_eq] at hvalid
            exact hvalid.2
          · simp [ClientPacketBinding.Fresh,
              ActionClientEndpointImpl.sentBinding]
      · exact hinv
  | sendCancel net goal =>
      simp only [clientInstanceMachine]
      split_ifs with hvalid
      · generalize hsend : inst.sendCancel R net goal = o
        obtain ⟨-, hstate, -⟩ | ⟨b, key, data, -, -, hb, -, -, hupdate⟩ :=
          sendCancel_cases hinv hsend
        · rw [hstate]
          exact hinv
        · exact hinv.update hupdate (hinv.valid hb) (by
            simp [ClientPacketBinding.Fresh, ClientPacketBinding.context])
      · exact hinv
  | stop => exact hinv.popped _
  | clear =>
      refine ⟨hinv.routing, hinv.initialized, ⟨?_, ?_, ?_⟩, ?_,
        List.nodup_nil, ?_, ?_⟩
      · refine SlotTable.Consistent.empty ?_
        intro o ho
        obtain ⟨_, -, rfl⟩ := List.mem_map.mp ho
        rfl
      · intro g b hb
        simp [clientInstanceMachine,
          ActionClientEndpointImpl.resetContexts] at hb
      · simp [clientInstanceMachine, ActionClientEndpointImpl.resetContexts,
          hinv.store.length_eq]
      · intro g b hb
        simp [clientInstanceMachine, ActionClientEndpointImpl.resetContexts,
          binding] at hb
      · intro g
        simp [clientInstanceMachine, ActionClientEndpointImpl.resetContexts,
          binding, context, getGoal]
      · intro g
        simp [clientInstanceMachine, ActionClientEndpointImpl.resetContexts,
          binding]

end Preservation

end ClientActionInstance

end HakoPduRpc.Action
