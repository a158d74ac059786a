import HakoPduRpc.Action.ServerSteps
import HakoPduRpc.Action.ClientSteps

/-!
# The slots of the endpoints

The server and the client endpoint as machines of their own, with every
operation of the class as an input and with any outcome of the sends.  The calls
of one endpoint come one after another: the services hold their lock while they
use it, and the receive callbacks touch nothing but the queue of packets.

`slot_owners_` and `packet_bindings_` describe the same relation in every
reachable state.  A server slot is free again as soon as its Goal is released;
the slot of a client Goal whose Goal Response timed out is kept until the
contexts are reset.
-/

namespace HakoPduRpc.Action

open KeyedList

/-! ## The server endpoint -/

/-- What can happen to a server endpoint. -/
inductive ServerEndpointInput
  | initializeEndpoint (actionConfig : Json)
  | receive (key : PduResolvedKey) (data : PduData)
  | poll (net : SendOracle)
  | acceptGoal (net : SendOracle) (goal : ServerGoalHandle)
  | rejectGoal (net : SendOracle) (goal : ServerGoalHandle)
  | acceptCancel (net : SendOracle) (goal : ServerGoalHandle)
  | acceptCancelLocally (goal : ServerGoalHandle)
  | rejectCancel (net : SendOracle) (goal : ServerGoalHandle)
  | sendFeedback (net : SendOracle) (goal : ServerGoalHandle)
      (feedbackPdu : PduData)
  | complete (net : SendOracle) (goal : ServerGoalHandle)
      (status : TerminalStatus) (resultPdu : PduData)
  | completeLocally (goal : ServerGoalHandle) (status : TerminalStatus)
      (resultPdu : PduData)
  | discardPendingGoal (goal : ServerGoalHandle)
  | clearPendingEvents
  | resetContexts

/-- The server endpoint as a machine. -/
def serverEndpointMachine (R : PduRegistry) :
    Machine ActionServerEndpointImpl ServerEndpointInput ServerEffect where
  step ep
    | .initializeEndpoint actionConfig =>
        ((ep.initializeEndpoint R actionConfig).getD ep, [])
    | .receive key data => (ep.receive key data, [])
    | .poll net => ((ep.poll R net).state, (ep.poll R net).effects)
    | .acceptGoal net goal =>
        ((ep.acceptGoal R net goal).state, (ep.acceptGoal R net goal).effects)
    | .rejectGoal net goal =>
        ((ep.rejectGoal R net goal).state, (ep.rejectGoal R net goal).effects)
    | .acceptCancel net goal =>
        ((ep.acceptCancel R net goal).state,
          (ep.acceptCancel R net goal).effects)
    | .acceptCancelLocally goal =>
        ((ep.acceptCancelLocally goal).state,
          (ep.acceptCancelLocally goal).effects)
    | .rejectCancel net goal =>
        ((ep.rejectCancel R net goal).state,
          (ep.rejectCancel R net goal).effects)
    | .sendFeedback net goal feedbackPdu =>
        ((ep.sendFeedback R net goal feedbackPdu).state,
          (ep.sendFeedback R net goal feedbackPdu).effects)
    | .complete net goal status resultPdu =>
        ((ep.complete R net goal status resultPdu).state,
          (ep.complete R net goal status resultPdu).effects)
    | .completeLocally goal status resultPdu =>
        ((ep.completeLocally R goal status resultPdu).state,
          (ep.completeLocally R goal status resultPdu).effects)
    | .discardPendingGoal goal =>
        ((ep.discardPendingGoal goal).state, (ep.discardPendingGoal goal).effects)
    | .clearPendingEvents => (ep.clearPendingEvents, [])
    | .resetContexts => (ep.resetContexts, [])

namespace ActionServerEndpointImpl

variable {R : PduRegistry} {ep ep' : ActionServerEndpointImpl}

/-- What holds of a server endpoint in every reachable state. -/
structure Stored (ep : ActionServerEndpointImpl) : Prop extends SlotStore ep where
  idle : ep.pendingEvents = []
  unused : ep.initialized = false → ep.packetBindings = OrdMap.empty

theorem Stored.initialized (h : ep.Stored) {g : GoalId}
    {b : ActionPacketBinding} (hb : ep.packetBindings.find? g = some b) :
    ep.initialized = true := by
  by_contra hinit
  rw [h.unused (by simpa using hinit)] at hb
  simp at hb

/-- The binding of a Goal changes, or the queue of packets. -/
theorem Stored.update (h : ep.Stored) {g : GoalId}
    {b : Option ActionPacketBinding} (hupdate : EndpointUpdate ep ep' g b)
    (hinit : ep.initialized = true) : ep'.Stored where
  toSlotStore := hupdate.store
  idle := hupdate.pendingEvents_eq.trans h.idle
  unused := by
    rw [hupdate.initialized_eq, hinit]
    simp

theorem Stored.modifyBinding (h : ep.Stored) {g : GoalId}
    {b : ActionPacketBinding} (hb : ep.packetBindings.find? g = some b)
    {f : ActionPacketBinding → ActionPacketBinding}
    (hslot : ∀ b, (f b).slotIndex = b.slotIndex)
    (hgoal : ∀ b, (f b).goalId = b.goalId) : (ep.modifyBinding g f).Stored :=
  h.update (.modifyBinding h.toSlotStore hb hslot hgoal) (h.initialized hb)

theorem Stored.releaseBinding (h : ep.Stored) {g : GoalId}
    {b : ActionPacketBinding} (hb : ep.packetBindings.find? g = some b) :
    (ep.releaseBinding g b).Stored :=
  h.update (.releaseBinding h.toSlotStore hb) (h.initialized hb)

theorem Stored.queue (h : ep.Stored) (packets : List ServerPendingPacket) :
    ({ ep with pendingPackets := packets } : ActionServerEndpointImpl).Stored :=
  ⟨⟨h.consistent, h.goalId_eq, h.length_eq⟩, h.idle, h.unused⟩

/-- A control response that is sent commits its decision. -/
theorem Stored.respond (h : ep.Stored) {net : SendOracle}
    {goal : ServerGoalHandle} {allowed : ActionPacketBinding → Bool}
    {kind : UInt8} {decision : Decision}
    {commit : ActionPacketBinding → ActionServerEndpointImpl}
    (hcommit : ∀ b, ep.packetBindings.find? goal.goalId = some b →
      (commit b).Stored) :
    (ep.respond R net goal allowed kind decision commit).state.Stored := by
  unfold ActionServerEndpointImpl.respond
  split_ifs
  · exact h
  · split
    · exact h
    · next b hb =>
        split_ifs
        · split
          · exact h
          · split
            · exact h
            · dsimp only
              split_ifs
              · exact hcommit b hb
              · exact h
        · exact h

theorem Stored.handleGoalRequest (h : ep.Stored) (net : SendOracle)
    {packet : ServerPendingPacket} {g : GoalId}
    (hslot : packet.slotIndex < ep.slotRouting.length)
    (hinit : ep.initialized = true) :
    (ep.handleGoalRequest R net packet g).state.Stored := by
  unfold ActionServerEndpointImpl.handleGoalRequest
  split
  · exact h
  · next hreason =>
      obtain ⟨hnew, hfree⟩ :=
        ServerActionInstance.goalErrorReason_eq_none.mp hreason
      have hstore := h.toSlotStore.bind
        (b := { goalId := g, slotIndex := packet.slotIndex })
        (by rw [h.length_eq]; exact hslot) hfree hnew rfl
      refine ⟨hstore, h.idle, ?_⟩
      intro hclosed
      dsimp only at hclosed
      rw [hinit] at hclosed
      simp at hclosed

theorem Stored.poll (h : ep.Stored) (net : SendOracle) :
    (ep.poll R net).state.Stored := by
  unfold ActionServerEndpointImpl.poll
  split_ifs with hinit
  · split
    · next event rest hevents => simp [h.idle] at hevents
    · split
      · exact h
      · next packet rest _ =>
          dsimp only
          split
          · exact h.queue rest
          · next header hread =>
              obtain ⟨hslot, -⟩ := ServerActionInstance.readRequest_slot hread
              split_ifs
              · unfold ActionServerEndpointImpl.handleCancelRequest
                split
                · exact h.queue rest
                · next hreason =>
                    obtain ⟨b, hb, -⟩ :=
                      ServerActionInstance.ignoredCancelReason_eq_none.mp
                        hreason
                    exact (h.queue rest).modifyBinding hb (fun _ => rfl)
                      (fun _ => rfl)
              · exact (h.queue rest).handleGoalRequest net hslot hinit
  · exact h

theorem Stored.initializeEndpoint (h : ep.Stored) (actionConfig : Json) :
    ((ep.initializeEndpoint R actionConfig).getD ep).Stored := by
  cases hsome : ep.initializeEndpoint R actionConfig with
  | none => exact h
  | some ep' =>
      obtain ⟨-, routing, -, -, -, hinit, rfl⟩ := initializeEndpoint_ok hsome
      have hempty := h.unused hinit
      refine ⟨⟨?_, ?_, ?_⟩, h.idle, ?_⟩
      · simp only [Option.getD_some]
        rw [hempty]
        exact .empty fun o ho => List.eq_of_mem_replicate ho
      · intro g b hb
        simp only [Option.getD_some] at hb
        rw [hempty] at hb
        simp at hb
      · simp
      · simp

theorem stored_reset (ep : ActionServerEndpointImpl) :
    ep.resetContexts.Stored ↔
      ep.slotOwners.length = ep.slotRouting.length := by
  constructor
  · intro h
    simpa [resetContexts] using h.length_eq
  · intro hlength
    refine ⟨⟨.empty ?_, ?_, ?_⟩, rfl, fun _ => rfl⟩
    · intro o ho
      simp only [resetContexts, List.mem_map] at ho
      obtain ⟨-, -, rfl⟩ := ho
      rfl
    · intro g b hb
      simp [resetContexts] at hb
    · simpa [resetContexts] using hlength

/-- Every operation keeps owners and bindings in order. -/
theorem Stored.step (h : ep.Stored) (i : ServerEndpointInput) :
    ((serverEndpointMachine R).step ep i).1.Stored := by
  cases i with
  | initializeEndpoint actionConfig => exact h.initializeEndpoint actionConfig
  | receive key data => exact h.queue _
  | poll net => exact h.poll net
  | acceptGoal net goal =>
      apply h.respond
      intro b hb
      exact h.modifyBinding hb (fun _ => rfl) (fun _ => rfl)
  | rejectGoal net goal =>
      apply h.respond
      intro b hb
      exact h.releaseBinding hb
  | acceptCancel net goal =>
      apply h.respond
      intro b hb
      exact h.modifyBinding hb (fun _ => rfl) (fun _ => rfl)
  | rejectCancel net goal =>
      apply h.respond
      intro b hb
      exact h.modifyBinding hb (fun _ => rfl) (fun _ => rfl)
  | acceptCancelLocally goal =>
      obtain hdone | ⟨b, hb, -, hdone⟩ := acceptCancelLocally_cases
        (rfl : ep.acceptCancelLocally goal = _)
      · simp only [serverEndpointMachine, hdone]
        exact h
      · simp only [serverEndpointMachine, hdone]
        exact h.modifyBinding hb (fun _ => rfl) (fun _ => rfl)
  | sendFeedback net goal feedbackPdu =>
      obtain ⟨-, hstate, -⟩ | ⟨b, key, data, hb, -, -, hdone⟩ :=
        sendFeedback_cases (rfl : ep.sendFeedback R net goal feedbackPdu = _)
      · simp only [serverEndpointMachine, hstate]
        exact h
      · simp only [serverEndpointMachine, hdone]
        exact h.modifyBinding hb (fun _ => rfl) (fun _ => rfl)
  | complete net goal status resultPdu =>
      obtain ⟨-, hstate, -⟩ | ⟨b, hb, -, ⟨-, hstate, -⟩ |
        ⟨key, data, -, hdone⟩⟩ :=
        complete_cases (rfl : ep.complete R net goal status resultPdu = _)
      · simp only [serverEndpointMachine, hstate]
        exact h
      · simp only [serverEndpointMachine, hstate]
        exact h.modifyBinding hb (fun _ => rfl) (fun _ => rfl)
      · simp only [serverEndpointMachine, hdone]
        exact h.update (.releaseCommitted h.toSlotStore hb)
          (h.initialized hb)
  | completeLocally goal status resultPdu =>
      obtain hdone | ⟨b, hb, -, hdone⟩ := completeLocally_cases
        (rfl : ep.completeLocally R goal status resultPdu = _)
      · simp only [serverEndpointMachine, hdone]
        exact h
      · simp only [serverEndpointMachine, hdone]
        exact h.update (.releaseCommitted h.toSlotStore hb)
          (h.initialized hb)
  | discardPendingGoal goal =>
      obtain hdone | ⟨b, hb, -, hdone⟩ := discardPendingGoal_cases
        (rfl : ep.discardPendingGoal goal = _)
      · simp only [serverEndpointMachine, hdone]
        exact h
      · simp only [serverEndpointMachine, hdone]
        exact h.releaseBinding hb
  | clearPendingEvents =>
      exact ⟨⟨h.consistent, h.goalId_eq, h.length_eq⟩, rfl, h.unused⟩
  | resetContexts => exact (stored_reset ep).mpr h.length_eq

/-- The endpoint after construction and any inputs. -/
theorem stored_run (R : PduRegistry) (actionName : String)
    (is : List ServerEndpointInput) :
    ((serverEndpointMachine R).run { actionName := actionName } is).Stored := by
  refine (serverEndpointMachine R).invariant (C := fun _ _ => True)
    (fun _ i _ hs => hs.step i) ⟨⟨?_, ?_, rfl⟩, rfl, fun _ => rfl⟩
    ((serverEndpointMachine R).along_of_forall (fun _ _ _ => trivial) _)
  · apply SlotTable.Consistent.empty
    simp
  · intro g b hb
    simp at hb

/-! ### Released Goals -/

/-- The Goal that an operation releases. -/
def released (R : PduRegistry) (ep : ActionServerEndpointImpl) :
    ServerEndpointInput → Option GoalId
  | .rejectGoal net goal =>
      if (ep.rejectGoal R net goal).result then some goal.goalId else none
  | .complete net goal status resultPdu =>
      if (ep.complete R net goal status resultPdu).result = .sent then
        some goal.goalId else none
  | .completeLocally goal status resultPdu =>
      if (ep.completeLocally R goal status resultPdu).result then
        some goal.goalId else none
  | .discardPendingGoal goal =>
      if (ep.discardPendingGoal goal).result then some goal.goalId else none
  | .initializeEndpoint _ | .receive _ _ | .poll _ | .acceptGoal _ _
  | .acceptCancel _ _ | .acceptCancelLocally _ | .rejectCancel _ _
  | .sendFeedback _ _ _ | .clearPendingEvents | .resetContexts => none

/-- A released Goal had a binding, and nothing but its binding is gone. -/
theorem Stored.released_update (h : ep.Stored) {i : ServerEndpointInput}
    {g : GoalId} (hi : ep.released R i = some g) :
    ∃ b, ep.packetBindings.find? g = some b ∧
      EndpointUpdate ep ((serverEndpointMachine R).step ep i).1 g none := by
  cases i with
  | rejectGoal net goal =>
      obtain ⟨hok, rfl⟩ : (ep.rejectGoal R net goal).result = true ∧
          goal.goalId = g := by
        simpa [released] using hi
      obtain ⟨hfalse, -⟩ | ⟨b, key, data, hb, -, -, hdone⟩ := respond_cases
        (.goalResponse .rejected) rfl (rfl : ep.rejectGoal R net goal = _)
      · simp [hfalse] at hok
      · refine ⟨b, hb, ?_⟩
        simp only [serverEndpointMachine, hdone]
        exact .releaseBinding h.toSlotStore hb
  | complete net goal status resultPdu =>
      obtain ⟨hok, rfl⟩ : (ep.complete R net goal status resultPdu).result =
          .sent ∧ goal.goalId = g := by
        simpa [released] using hi
      obtain ⟨hnot, -⟩ | ⟨b, hb, -, ⟨hnot, -⟩ | ⟨key, data, -, hdone⟩⟩ :=
        complete_cases (rfl : ep.complete R net goal status resultPdu = _)
      · simp [hnot] at hok
      · simp [hnot] at hok
      · refine ⟨b, hb, ?_⟩
        simp only [serverEndpointMachine, hdone]
        exact .releaseCommitted h.toSlotStore hb
  | completeLocally goal status resultPdu =>
      obtain ⟨hok, rfl⟩ : (ep.completeLocally R goal status resultPdu).result =
          true ∧ goal.goalId = g := by
        simpa [released] using hi
      obtain hdone | ⟨b, hb, -, hdone⟩ := completeLocally_cases
        (rfl : ep.completeLocally R goal status resultPdu = _)
      · simp [hdone] at hok
      · refine ⟨b, hb, ?_⟩
        simp only [serverEndpointMachine, hdone]
        exact .releaseCommitted h.toSlotStore hb
  | discardPendingGoal goal =>
      obtain ⟨hok, rfl⟩ : (ep.discardPendingGoal goal).result = true ∧
          goal.goalId = g := by
        simpa [released] using hi
      obtain hdone | ⟨b, hb, -, hdone⟩ := discardPendingGoal_cases
        (rfl : ep.discardPendingGoal goal = _)
      · simp [hdone] at hok
      · refine ⟨b, hb, ?_⟩
        simp only [serverEndpointMachine, hdone]
        exact .releaseBinding h.toSlotStore hb
  | initializeEndpoint | receive | poll | acceptGoal | acceptCancel
  | acceptCancelLocally | rejectCancel | sendFeedback | clearPendingEvents
  | resetContexts => simp [released] at hi

/-- A Goal Request for the Goal on the slot is reported to the application as
soon as it is at the head of the queue. -/
def Accepts (R : PduRegistry) (ep : ActionServerEndpointImpl) (g : GoalId)
    (slot : ℕ) : Prop :=
  ∀ net packet rest header, packet.slotIndex = slot → header.goalId = g →
    header.requestKind = requestKindGoal →
    ep.readRequest R packet = some header →
    (ActionServerEndpointImpl.poll R net
      { ep with pendingPackets := packet :: rest }).result =
        some
          { type := .goalRequest
            goal := ⟨g⟩
            actionName := ep.actionName
            pdu := packet.pdu }

theorem Stored.accepts (h : ep.Stored) (hinit : ep.initialized = true)
    {g : GoalId} {slot : ℕ} (hnew : ep.packetBindings.find? g = none)
    (hfree : ep.slotOwner slot = none) : ep.Accepts R g slot := by
  rintro net packet rest header rfl rfl hkind hread
  have hreason : ActionServerEndpointImpl.goalErrorReason
      { ep with pendingPackets := rest } header.goalId packet.slotIndex =
        none :=
    ServerActionInstance.goalErrorReason_eq_none.mpr ⟨hnew, hfree⟩
  have hrequest : ActionServerEndpointImpl.readRequest R
      { ep with pendingPackets := rest } packet = some header := hread
  have hgoal : header.requestKind ≠ requestKindCancel := by
    rw [hkind]
    decide
  unfold ActionServerEndpointImpl.poll
  split_ifs with hopen
  · split
    · next hevents => simp [h.idle] at hevents
    · dsimp only
      rw [hrequest]
      dsimp only
      rw [if_neg hgoal]
      unfold ActionServerEndpointImpl.handleGoalRequest
      rw [hreason]
  · exact absurd hinit hopen

/-- The slot of a bound Goal. -/
def slotOf (ep : ActionServerEndpointImpl) (g : GoalId) : ℕ :=
  ((ep.packetBindings.find? g).map (·.slotIndex)).getD 0

/-- Goals with a binding and slots with an owner correspond to each other. -/
theorem Stored.bijOn (h : ep.Stored) :
    Set.BijOn ep.slotOf {g | (ep.packetBindings.find? g).isSome = true}
      {slot | (ep.slotOwner slot).isSome = true} := by
  have hslot : ∀ {g b}, ep.packetBindings.find? g = some b →
      ep.slotOf g = b.slotIndex := by
    intro g b hb
    simp [slotOf, hb]
  refine ⟨?_, ?_, ?_⟩
  · intro g hg
    obtain ⟨b, hb⟩ := Option.isSome_iff_exists.mp hg
    have howner := (h.consistent b.slotIndex g).mpr ⟨b, hb, rfl⟩
    change (ep.slotOwner (ep.slotOf g)).isSome = true
    rw [hslot hb, slotOwner, howner]
    rfl
  · intro g hg g' hg' heq
    obtain ⟨b, hb⟩ := Option.isSome_iff_exists.mp hg
    obtain ⟨b', hb'⟩ := Option.isSome_iff_exists.mp hg'
    rw [hslot hb, hslot hb'] at heq
    exact h.consistent.slot_injective hb hb' heq
  · intro slot howned
    obtain ⟨g, howner⟩ := Option.isSome_iff_exists.mp howned
    obtain ⟨b, hb, rfl⟩ := (h.consistent slot g).mp howner
    exact ⟨g, Option.isSome_iff_exists.mpr ⟨b, hb⟩, hslot hb⟩

/-- The slot of a released Goal is free. -/
theorem Stored.slot_free (h : ep.Stored) {g : GoalId} {b : ActionPacketBinding}
    (hb : ep.packetBindings.find? g = some b)
    (hupdate : EndpointUpdate ep ep' g none) :
    ep'.slotOwner b.slotIndex = none := by
  by_contra howned
  obtain ⟨g', howner⟩ := Option.ne_none_iff_exists'.mp howned
  obtain ⟨b', hb', hslot⟩ :=
    (hupdate.store.consistent b.slotIndex g').mp howner
  rw [hupdate.find?_eq] at hb'
  split_ifs at hb' with hg
  exact hg (h.consistent.slot_injective hb' hb hslot)

end ActionServerEndpointImpl

/-- In every reachable state of a server endpoint a slot has an owner exactly
when the binding of the owner names the slot, so that Goals and owned slots
correspond to each other and there are no more Goals than slots; and when a Goal
is released its slot and its id can be used at once. -/
theorem server_slot_store (R : PduRegistry) (actionName : String)
    (is : List ServerEndpointInput) :
    let ep := (serverEndpointMachine R).run { actionName := actionName } is
    (∀ slot g, ep.slotOwner slot = some g ↔
      ∃ b, ep.packetBindings.find? g = some b ∧ b.slotIndex = slot ∧
        b.goalId = g) ∧
    Set.BijOn ep.slotOf {g | (ep.packetBindings.find? g).isSome = true}
      {slot | (ep.slotOwner slot).isSome = true} ∧
    ep.packetBindings.entries.length ≤ ep.slotRouting.length ∧
    ∀ i g, ep.released R i = some g →
      ∃ b, ep.packetBindings.find? g = some b ∧
        ∀ ep', ep' = ((serverEndpointMachine R).step ep i).1 →
          ep'.packetBindings.find? g = none ∧
          ep'.slotOwner b.slotIndex = none ∧
          (∀ g', ep'.packetBindings.find? g' = none →
            ep'.Accepts R g' b.slotIndex) ∧
          ∀ slot, ep'.slotOwner slot = none → ep'.Accepts R g slot := by
  intro ep
  have hstored : ep.Stored :=
    ActionServerEndpointImpl.stored_run R actionName is
  refine ⟨?_, hstored.bijOn, ?_, ?_⟩
  · intro slot g
    refine (hstored.consistent slot g).trans (exists_congr fun b => ?_)
    constructor
    · rintro ⟨hb, hslot⟩
      exact ⟨hb, hslot, hstored.goalId_eq hb⟩
    · rintro ⟨hb, hslot, -⟩
      exact ⟨hb, hslot⟩
  · rw [← hstored.length_eq]
    exact hstored.consistent.length_entries_le
  · intro i g hreleased
    obtain ⟨b, hb, hupdate⟩ := hstored.released_update hreleased
    refine ⟨b, hb, ?_⟩
    rintro ep' rfl
    have hnext := hstored.step (R := R) i
    have hinit : ((serverEndpointMachine R).step ep i).1.initialized = true :=
      hupdate.initialized_eq.trans (hstored.initialized hb)
    have hgone : ((serverEndpointMachine R).step ep i).1.packetBindings.find?
        g = none := by
      rw [hupdate.find?_eq, if_pos rfl]
    have hfree := hstored.slot_free hb hupdate
    refine ⟨hgone, hfree, ?_, ?_⟩
    · intro g' hnew
      exact hnext.accepts hinit hnew hfree
    · intro slot hslot
      exact hnext.accepts hinit hgone hslot


/-! ## The client endpoint -/

/-- What can happen to a client endpoint. -/
inductive ClientEndpointInput
  | initializeEndpoint (actionConfig : Json)
  | receive (key : PduResolvedKey) (data : PduData)
  | poll (now : UInt64)
  | sendGoalWithResult (net : SendOracle) (now : UInt64) (goalPdu : PduData)
      (goalId : GoalId) (timeoutUsec : UInt64)
  | sendCancel (net : SendOracle) (goal : ClientGoalHandle)
  | clearPendingEvents
  | resetContexts

/-- The client endpoint as a machine; its events are observed. -/
def clientEndpointMachine (R : PduRegistry) :
    Machine ActionClientEndpointImpl ClientEndpointInput ClientEvent where
  step ep
    | .initializeEndpoint actionConfig =>
        ((ep.initializeEndpoint R actionConfig).getD ep, [])
    | .receive key data => (ep.receive key data, [])
    | .poll now => ((ep.poll R now).1, (ep.poll R now).2.toList)
    | .sendGoalWithResult net now goalPdu goalId timeoutUsec =>
        ((ep.sendGoalWithResult R net now goalPdu goalId timeoutUsec).state, [])
    | .sendCancel net goal => ((ep.sendCancel R net goal).state, [])
    | .clearPendingEvents => (ep.clearPendingEvents, [])
    | .resetContexts => (ep.resetContexts, [])

namespace ActionClientEndpointImpl

variable {R : PduRegistry} {ep ep' : ActionClientEndpointImpl}

/-- What holds of a client endpoint in every reachable state. -/
structure Stored (ep : ActionClientEndpointImpl) : Prop extends SlotStore ep where
  valid : ∀ {g b}, ep.packetBindings.find? g = some b → isValidGoalId g = true
  unused : ep.initialized = false → ep.packetBindings = OrdMap.empty

theorem Stored.initialized (h : ep.Stored) {g : GoalId}
    {b : ClientPacketBinding} (hb : ep.packetBindings.find? g = some b) :
    ep.initialized = true := by
  by_contra hinit
  rw [h.unused (by simpa using hinit)] at hb
  simp at hb

theorem Stored.update (h : ep.Stored) {g : GoalId}
    {b : Option ClientPacketBinding} (hupdate : Update ep ep' g b)
    (hg : isValidGoalId g = true) (hinit : ep.initialized = true) :
    ep'.Stored where
  toSlotStore := hupdate.store
  valid := by
    intro g' b' hb'
    rw [hupdate.find?_eq] at hb'
    split_ifs at hb' with heq
    · rw [heq]
      exact hg
    · exact h.valid hb'
  unused := by
    rw [hupdate.initialized_eq, hinit]
    simp

theorem Stored.queue (h : ep.Stored) (packets : List ClientPendingPacket) :
    ({ ep with pendingPackets := packets } : ActionClientEndpointImpl).Stored :=
  ⟨⟨h.consistent, h.goalId_eq, h.length_eq⟩, h.valid, h.unused⟩

/-- What one `poll()` does: it takes at most one packet from the queue and then
changes at most one binding, by a packet that the binding waits for or because
its time is up. -/
inductive PollUpdate (R : PduRegistry) (ep : ActionClientEndpointImpl) :
    ActionClientEndpointImpl → Option ClientEvent → Prop
  | same (packets : List ClientPendingPacket) :
      PollUpdate R ep { ep with pendingPackets := packets } none
  | packet (packets : List ClientPendingPacket) {p : Packet} {pdu : PduData}
      {b : ClientPacketBinding} {b' : Option ClientPacketBinding}
      {ep' : ActionClientEndpointImpl}
      (hb : ep.packetBindings.find? p.goalId = some b)
      (hadvance : b.advance p.notice = some b')
      (hupdate : Update { ep with pendingPackets := packets } ep' p.goalId b') :
      PollUpdate R ep ep'
        (some (noticeEvent ep.actionName p.goalId p.notice pdu))
  | timeout (packets : List ClientPendingPacket) {g : GoalId} {now : UInt64}
      {b : ClientPacketBinding} {ep' : ActionClientEndpointImpl}
      (hb : ep.packetBindings.find? g = some b)
      (hdue : responseTimedOut now b = true)
      (hupdate : Update { ep with pendingPackets := packets } ep' g
        (some { b with state := .goalResponseTimedOut })) :
      PollUpdate R ep ep'
        (some { type := .timeout, actionName := ep.actionName, goal := ⟨g⟩ })

theorem Stored.pollTimeout (h : ep.Stored) (now : UInt64)
    (packets : List ClientPendingPacket) :
    PollUpdate R ep
      (ActionClientEndpointImpl.pollTimeout
        { ep with pendingPackets := packets } now).1
      (ActionClientEndpointImpl.pollTimeout
        { ep with pendingPackets := packets } now).2 := by
  obtain hnone | ⟨g, b, hb, hdue, hsome⟩ := pollTimeout_cases
    { ep with pendingPackets := packets } now
  · rw [hnone]
    exact .same packets
  · rw [hsome]
    refine .timeout packets hb hdue ?_
    exact Update.modifyBinding (h.queue packets).toSlotStore hb rfl rfl

theorem Stored.poll_update (h : ep.Stored) (now : UInt64) :
    PollUpdate R ep (ep.poll R now).1 (ep.poll R now).2 := by
  unfold ActionClientEndpointImpl.poll
  split
  · next hqueue =>
      have hsame := h.pollTimeout (R := R) now ep.pendingPackets
      exact hsame
  · next packet rest hqueue =>
      dsimp only
      split
      · next ep' event hpacket =>
          rw [handlePacket_eq] at hpacket
          obtain ⟨p, -, happly⟩ := Option.bind_eq_some_iff.mp hpacket
          obtain ⟨b, hb, hchange⟩ := Option.bind_eq_some_iff.mp happly
          split_ifs at hchange with hslot
          obtain ⟨b', hadvance, heq⟩ := Option.map_eq_some_iff.mp hchange
          simp only [Prod.mk.injEq] at heq
          obtain ⟨rfl, rfl⟩ := heq
          exact .packet rest hb hadvance
            (Update.replaceBinding (h.queue rest).toSlotStore hb hadvance)
      · exact h.pollTimeout now rest

theorem Stored.poll (h : ep.Stored) (now : UInt64) :
    (ep.poll R now).1.Stored := by
  have hpoll := h.poll_update (R := R) now
  generalize (ep.poll R now).1 = ep' at hpoll ⊢
  generalize (ep.poll R now).2 = event at hpoll
  cases hpoll with
  | same packets => exact h.queue packets
  | packet packets hb hadvance hupdate =>
      exact (h.queue packets).update hupdate (h.valid hb) (h.initialized hb)
  | timeout packets hb hdue hupdate =>
      exact (h.queue packets).update hupdate (h.valid hb) (h.initialized hb)

theorem Stored.initializeEndpoint (h : ep.Stored) (actionConfig : Json) :
    ((ep.initializeEndpoint R actionConfig).getD ep).Stored := by
  cases hsome : ep.initializeEndpoint R actionConfig with
  | none => exact h
  | some ep' =>
      obtain ⟨-, routing, -, -, -, hinit, rfl⟩ := initializeEndpoint_ok hsome
      have hempty := h.unused hinit
      refine ⟨⟨?_, ?_, ?_⟩, h.valid, ?_⟩
      · simp only [Option.getD_some]
        rw [hempty]
        exact .empty fun o ho => List.eq_of_mem_replicate ho
      · intro g b hb
        simp only [Option.getD_some] at hb
        rw [hempty] at hb
        simp at hb
      · simp
      · simp

/-- A Goal that is sent is bound to a slot that was free. -/
theorem Stored.sendGoal_update (h : ep.Stored) {net : SendOracle}
    {now timeoutUsec : UInt64} {pdu : PduData} {g : GoalId}
    (hok : (ep.sendGoalWithResult R net now pdu g timeoutUsec).result =
      .success) :
    ∃ slot, isValidGoalId g = true ∧ ep.packetBindings.find? g = none ∧
      SlotTable.owner ep.slotOwners slot = none ∧
      Update ep (ep.sendGoalWithResult R net now pdu g timeoutUsec).state g
        (some (sentBinding g slot now timeoutUsec)) := by
  obtain ⟨hfailed, -⟩ | ⟨slot, key, data, hg, hnew, hlt, hfree, -, hdone⟩ :=
    sendGoalWithResult_cases
      (rfl : ep.sendGoalWithResult R net now pdu g timeoutUsec = _)
  · exact absurd hok hfailed
  · refine ⟨slot, hg, hnew, hfree, ?_⟩
    rw [hdone]
    exact Update.bind h.toSlotStore (b := sentBinding g slot now timeoutUsec)
      hlt hfree hnew rfl

theorem sendGoal_failed {net : SendOracle} {now timeoutUsec : UInt64}
    {pdu : PduData} {g : GoalId}
    (hfailed : (ep.sendGoalWithResult R net now pdu g timeoutUsec).result ≠
      .success) :
    (ep.sendGoalWithResult R net now pdu g timeoutUsec).state = ep := by
  obtain ⟨-, hstate, -⟩ | ⟨slot, key, data, -, -, -, -, -, hdone⟩ :=
    sendGoalWithResult_cases
      (rfl : ep.sendGoalWithResult R net now pdu g timeoutUsec = _)
  · exact hstate
  · simp [hdone] at hfailed

theorem sendGoal_initialized {net : SendOracle} {now timeoutUsec : UInt64}
    {pdu : PduData} {g : GoalId}
    (hok : (ep.sendGoalWithResult R net now pdu g timeoutUsec).result =
      .success) : ep.initialized = true := by
  by_contra hinit
  unfold ActionClientEndpointImpl.sendGoalWithResult at hok
  split_ifs at hok

/-- Every operation keeps owners and bindings in order. -/
theorem Stored.step (h : ep.Stored) (i : ClientEndpointInput) :
    ((clientEndpointMachine R).step ep i).1.Stored := by
  cases i with
  | initializeEndpoint actionConfig => exact h.initializeEndpoint actionConfig
  | receive key data => exact h.queue _
  | poll now => exact h.poll now
  | sendGoalWithResult net now pdu g timeoutUsec =>
      by_cases hok : (ep.sendGoalWithResult R net now pdu g
          timeoutUsec).result = .success
      · obtain ⟨slot, hg, -, -, hupdate⟩ := h.sendGoal_update hok
        exact h.update hupdate hg (sendGoal_initialized hok)
      · simp only [clientEndpointMachine, sendGoal_failed hok]
        exact h
  | sendCancel net goal =>
      obtain ⟨-, hstate, -⟩ | ⟨b, key, data, hb, -, -, hdone⟩ :=
        sendCancel_cases (rfl : ep.sendCancel R net goal = _)
      · simp only [clientEndpointMachine, hstate]
        exact h
      · simp only [clientEndpointMachine, hdone]
        exact h.update (Update.modifyBinding h.toSlotStore hb rfl rfl)
          (h.valid hb) (h.initialized hb)
  | clearPendingEvents => exact h.queue []
  | resetContexts =>
      refine ⟨⟨.empty ?_, ?_, ?_⟩, ?_, fun _ => rfl⟩
      · intro o ho
        simp only [clientEndpointMachine, resetContexts, List.mem_map] at ho
        obtain ⟨-, -, rfl⟩ := ho
        rfl
      · intro g b hb
        simp [clientEndpointMachine, resetContexts] at hb
      · simpa [clientEndpointMachine, resetContexts] using h.length_eq
      · intro g b hb
        simp [clientEndpointMachine, resetContexts] at hb

theorem stored_run (R : PduRegistry) (actionName : String)
    (is : List ClientEndpointInput) :
    ((clientEndpointMachine R).run { actionName := actionName } is).Stored := by
  refine (clientEndpointMachine R).invariant (C := fun _ _ => True)
    (fun _ i _ hs => hs.step i) ⟨⟨?_, ?_, rfl⟩, ?_, fun _ => rfl⟩
    ((clientEndpointMachine R).along_of_forall (fun _ _ _ => trivial) _)
  · apply SlotTable.Consistent.empty
    simp
  · intro g b hb
    simp at hb
  · intro g b hb
    simp at hb

/-! ### Quarantine -/

/-- The Goal waited too long for its Goal Response and keeps its slot. -/
structure Quarantined (ep : ActionClientEndpointImpl) (g : GoalId)
    (slot : ℕ) : Prop extends Stored ep where
  bound : ∃ b, ep.packetBindings.find? g = some b ∧ b.slotIndex = slot ∧
    b.state = .goalResponseTimedOut

/-- Neither packets nor the clock change a quarantined binding. -/
theorem advance_timedOut {b : ClientPacketBinding}
    (h : b.state = .goalResponseTimedOut) (n : Notice) : b.advance n = none := by
  cases n <;> simp [ClientPacketBinding.advance, h]

theorem Quarantined.update {g : GoalId} {slot : ℕ} (h : ep.Quarantined g slot)
    (hstored : ep'.Stored) {g' : GoalId} {b : Option ClientPacketBinding}
    (hfind : ∀ k, ep'.packetBindings.find? k =
      if k = g' then b else ep.packetBindings.find? k) (hg : g' ≠ g) :
    ep'.Quarantined g slot := by
  refine ⟨hstored, ?_⟩
  rw [hfind, if_neg hg.symm]
  exact h.bound

theorem Quarantined.poll {g : GoalId} {slot : ℕ} (h : ep.Quarantined g slot)
    (now : UInt64) : (ep.poll R now).1.Quarantined g slot := by
  have hstored := h.toStored.poll (R := R) now
  have hpoll := h.poll_update (R := R) now
  obtain ⟨b, hb, hslot, hstate⟩ := h.bound
  generalize (ep.poll R now).1 = ep' at hpoll hstored ⊢
  generalize (ep.poll R now).2 = event at hpoll
  cases hpoll with
  | same packets => exact ⟨hstored, h.bound⟩
  | packet packets hb' hadvance hupdate =>
      refine h.update hstored hupdate.find?_eq ?_
      intro heq
      rw [heq, hb] at hb'
      rw [← Option.some.inj hb', advance_timedOut hstate] at hadvance
      simp at hadvance
  | timeout packets hb' hdue hupdate =>
      refine h.update hstored hupdate.find?_eq ?_
      intro heq
      rw [heq, hb] at hb'
      have hwaiting := (responseTimedOut_iff.mp hdue).1
      rw [← Option.some.inj hb', hstate] at hwaiting
      simp at hwaiting

/-- A quarantined Goal stays so until the contexts are reset. -/
theorem Quarantined.step {g : GoalId} {slot : ℕ} (h : ep.Quarantined g slot)
    {i : ClientEndpointInput} (hi : i ≠ .resetContexts) :
    ((clientEndpointMachine R).step ep i).1.Quarantined g slot := by
  have hstored := h.toStored.step (R := R) i
  obtain ⟨b, hb, hslot, hstate⟩ := h.bound
  cases i with
  | initializeEndpoint actionConfig =>
      simp only [clientEndpointMachine,
        initializeEndpoint_again (h.initialized hb)]
      exact h
  | receive key data => exact ⟨hstored, h.bound⟩
  | poll now => exact h.poll now
  | sendGoalWithResult net now pdu g' timeoutUsec =>
      by_cases hok : (ep.sendGoalWithResult R net now pdu g'
          timeoutUsec).result = .success
      · obtain ⟨slot', -, hnew, -, hupdate⟩ := h.sendGoal_update hok
        refine h.update hstored hupdate.find?_eq ?_
        rintro rfl
        simp [hb] at hnew
      · simp only [clientEndpointMachine, sendGoal_failed hok]
        exact h
  | sendCancel net goal =>
      obtain ⟨-, hsame, -⟩ | ⟨b', key, data, hb', haccepted, -, hdone⟩ :=
        sendCancel_cases (rfl : ep.sendCancel R net goal = _)
      · simp only [clientEndpointMachine, hsame]
        exact h
      · simp only [clientEndpointMachine, hdone] at hstored ⊢
        refine h.update hstored (Update.modifyBinding h.toSlotStore hb' rfl
          rfl).find?_eq ?_
        intro heq
        rw [heq, hb] at hb'
        rw [← Option.some.inj hb', hstate] at haccepted
        simp at haccepted
  | clearPendingEvents => exact ⟨hstored, h.bound⟩
  | resetContexts => exact absurd rfl hi

theorem Quarantined.run {g : GoalId} {slot : ℕ} (h : ep.Quarantined g slot)
    {later : List ClientEndpointInput} (hlater : ∀ i ∈ later, i ≠ .resetContexts) :
    ((clientEndpointMachine R).run ep later).Quarantined g slot :=
  (clientEndpointMachine R).invariant (C := fun _ i => i ≠ .resetContexts)
    (I := fun ep => ep.Quarantined g slot) (fun _ _ hi hs => hs.step hi) h
    ((clientEndpointMachine R).along_of_forall (fun i hi _ => hlater i hi) ep)

/-- A reported timeout puts the Goal into quarantine. -/
theorem Stored.quarantined (h : ep.Stored) {now : UInt64} {event : ClientEvent}
    (hevent : (ep.poll R now).2 = some event) (htype : event.type = .timeout) :
    ∃ b, ep.packetBindings.find? event.goal.goalId = some b ∧
      (ep.poll R now).1.Quarantined event.goal.goalId b.slotIndex := by
  have hstored := h.poll (R := R) now
  have hpoll := h.poll_update (R := R) now
  rw [hevent] at hpoll
  generalize (ep.poll R now).1 = ep' at hpoll hstored ⊢
  cases hpoll with
  | @packet packets p =>
      cases hnotice : p.notice <;> simp [noticeEvent, hnotice] at htype
  | @timeout packets g now b _ hb hdue hupdate =>
      refine ⟨b, hb, hstored, { b with state := .goalResponseTimedOut }, ?_,
        rfl, rfl⟩
      rw [hupdate.find?_eq, if_pos rfl]

/-- What a quarantined Goal keeps: its slot, its id and everybody else out. -/
structure KeepsSlot (R : PduRegistry) (ep : ActionClientEndpointImpl)
    (g : GoalId) (slot : ℕ) : Prop where
  bound : (ep.packetBindings.find? g).map (·.slotIndex) = some slot
  owned : SlotTable.owner ep.slotOwners slot = some g
  refused : ∀ net now pdu timeoutUsec,
    (ep.sendGoalWithResult R net now pdu g timeoutUsec).result =
      .duplicateGoal ∧
    (ep.sendGoalWithResult R net now pdu g timeoutUsec).state = ep
  avoided : ∀ net now pdu g' timeoutUsec,
    (ep.sendGoalWithResult R net now pdu g' timeoutUsec).result = .success →
    ((ep.sendGoalWithResult R net now pdu g'
      timeoutUsec).state.packetBindings.find? g').map (·.slotIndex) ≠ some slot

theorem Quarantined.keepsSlot {g : GoalId} {slot : ℕ}
    (h : ep.Quarantined g slot) : KeepsSlot R ep g slot := by
  obtain ⟨b, hb, hslot, -⟩ := h.bound
  have howner := (h.consistent slot g).mpr ⟨b, hb, hslot⟩
  refine ⟨by simp [hb, hslot], howner, ?_, ?_⟩
  · intro net now pdu timeoutUsec
    have hcontains : ep.packetBindings.contains g = true :=
      OrdMap.contains_iff.mpr ⟨b, hb⟩
    simp [ActionClientEndpointImpl.sendGoalWithResult, h.valid hb,
      h.initialized hb, hcontains]
  · intro net now pdu g' timeoutUsec hok
    obtain ⟨slot', -, -, hfree, hupdate⟩ := h.sendGoal_update hok
    rw [hupdate.find?_eq, if_pos rfl, Option.map_some]
    intro heq
    have hsame : slot' = slot := Option.some.inj heq
    rw [hsame, howner] at hfree
    simp at hfree

/-- There is no free slot exactly when there are as many Goals as slots. -/
theorem Stored.noFreeSlot_iff (h : ep.Stored) (net : SendOracle)
    (now : UInt64) (pdu : PduData) (g : GoalId) (timeoutUsec : UInt64) :
    (ep.sendGoalWithResult R net now pdu g timeoutUsec).result = .noFreeSlot ↔
      isValidGoalId g = true ∧ ep.initialized = true ∧
        ep.packetBindings.find? g = none ∧
        ep.packetBindings.entries.length = ep.slotRouting.length := by
  rw [← h.length_eq, h.consistent.length_entries_eq_iff]
  have hfull : (∀ o ∈ ep.slotOwners, o.isSome = true) ↔
      ep.slotOwners.findIdx? Option.isNone = none := by
    simp [List.findIdx?_eq_none_iff]
  rw [hfull]
  unfold ActionClientEndpointImpl.sendGoalWithResult
  by_cases hvalid : isValidGoalId g = true
  · by_cases hinit : ep.initialized = true
    · cases hb : ep.packetBindings.find? g with
      | some b => simp [hvalid, hinit, OrdMap.contains, hb]
      | none =>
          cases hslot : ep.slotOwners.findIdx? Option.isNone with
          | none => simp [hvalid, hinit, OrdMap.contains, hb]
          | some slot =>
              simp only [hvalid, hinit, OrdMap.contains, hb,
                Option.isSome_none, not_true_eq_false, if_false,
                Bool.false_eq_true, reduceCtorEq, and_false, iff_false]
              split
              · simp
              · dsimp only
                split_ifs <;> simp
    · simp [hvalid, hinit]
  · simp [hvalid]

end ActionClientEndpointImpl

/-- In every reachable state of a client endpoint a slot has an owner exactly when
the binding of the owner names the slot, so that no two Goals share one; a Goal
whose Goal Response timed out keeps its slot and its id until the contexts are
reset; and there is no free slot exactly when there are as many Goals as
slots. -/
theorem client_slot_store (R : PduRegistry) (actionName : String)
    (is : List ClientEndpointInput) :
    let ep := (clientEndpointMachine R).run { actionName := actionName } is
    (∀ slot g, SlotTable.owner ep.slotOwners slot = some g ↔
      ∃ b, ep.packetBindings.find? g = some b ∧ b.slotIndex = slot) ∧
    (∀ g g' b b', ep.packetBindings.find? g = some b →
      ep.packetBindings.find? g' = some b' → b.slotIndex = b'.slotIndex →
      g = g') ∧
    (∀ now event, (ep.poll R now).2 = some event → event.type = .timeout →
      ∃ b, ep.packetBindings.find? event.goal.goalId = some b ∧
        ∀ later : List ClientEndpointInput,
          (∀ i ∈ later, i ≠ .resetContexts) →
          ActionClientEndpointImpl.KeepsSlot R
            ((clientEndpointMachine R).run (ep.poll R now).1 later)
            event.goal.goalId b.slotIndex) ∧
    ∀ net now pdu g timeoutUsec,
      (ep.sendGoalWithResult R net now pdu g timeoutUsec).result =
          .noFreeSlot ↔
        isValidGoalId g = true ∧ ep.initialized = true ∧
          ep.packetBindings.find? g = none ∧
          ep.packetBindings.entries.length = ep.slotRouting.length := by
  intro ep
  have hstored : ep.Stored :=
    ActionClientEndpointImpl.stored_run R actionName is
  refine ⟨hstored.consistent, ?_, ?_, ?_⟩
  · intro g g' b b' hb hb' hslot
    exact hstored.consistent.slot_injective hb hb' hslot
  · intro now event hevent htype
    obtain ⟨b, hb, hquarantined⟩ := hstored.quarantined hevent htype
    refine ⟨b, hb, ?_⟩
    intro later hlater
    exact (hquarantined.run hlater).keepsSlot
  · intro net now pdu g timeoutUsec
    exact hstored.noFreeSlot_iff net now pdu g timeoutUsec

end HakoPduRpc.Action
