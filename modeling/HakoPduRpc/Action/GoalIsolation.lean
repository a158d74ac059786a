import HakoPduRpc.Action.ServerStanding
import HakoPduRpc.Action.ClientCorrespondence

/-!
# Goals do not disturb each other

A packet names a Goal in its header and arrives on a slot, and the two need not
belong together: a peer can send any Goal id on any slot.  The services find a
Goal by its id in one container and by its slot in another.  This module says
that nevertheless every call and every packet concerns one Goal only.

What the services keep for a Goal is its view: the `GoalInstance` with its
context, the packet binding with its feedback sequence, and the slots that the
Goal owns.  Calls and polls change no view but that of the Goal they are about,
and they send nothing on the channels of another Goal, apart from automatic
rejections on the slot of a Goal Request.
-/

namespace HakoPduRpc.Action

open KeyedList

/-! ## The channels of a Goal -/

/-- The channels of a slot. -/
def SlotRouting.keys (r : SlotRouting) : List PduResolvedKey :=
  [r.request, r.response, r.feedback]

/-- The channels of the slots that a Goal owns. -/
def goalKeys (routing : List SlotRouting) (owners : List (Option GoalId))
    (g : GoalId) : List PduResolvedKey :=
  (SlotTable.slotsOf owners g).flatMap fun slot =>
    routing[slot]?.toList.flatMap SlotRouting.keys

section Keys

variable {ν : Type} {slotOf : ν → ℕ} {routing routing' : List SlotRouting}
  {owners owners' : List (Option GoalId)} {records records' : OrdMap GoalId ν}
  {name name' : String} {g g' : GoalId} {key : PduResolvedKey}

theorem SlotRouting.mem_keys {r : SlotRouting} :
    key ∈ r.keys ↔ ∃ kind, key = r.key kind := by
  constructor
  · intro h
    simp only [keys, List.mem_cons, List.not_mem_nil, or_false] at h
    rcases h with h | h | h
    · exact ⟨.request, h⟩
    · exact ⟨.response, h⟩
    · exact ⟨.feedback, h⟩
  · rintro ⟨kind, rfl⟩
    cases kind <;> simp [keys, key]

/-- A channel of a Goal is a channel of the slot of its record. -/
theorem mem_goalKeys
    (h : SlotTable.Consistent slotOf owners records) :
    key ∈ goalKeys routing owners g ↔
      ∃ v r kind, records.find? g = some v ∧ routing[slotOf v]? = some r ∧
        key = r.key kind := by
  rw [goalKeys, h.slotsOf_eq]
  simp only [List.mem_flatMap, List.mem_map, Option.mem_toList,
    SlotRouting.mem_keys]
  constructor
  · rintro ⟨slot, ⟨v, hv, rfl⟩, r, hr, kind, hkey⟩
    exact ⟨v, r, kind, hv, hr, hkey⟩
  · rintro ⟨v, r, kind, hv, hr, hkey⟩
    exact ⟨slotOf v, ⟨v, hv, rfl⟩, r, hr, kind, hkey⟩

theorem robot_of_mem_goalKeys
    (h : SlotTable.Consistent slotOf owners records)
    (hrouting : RoutingWellFormed name routing)
    (hkey : key ∈ goalKeys routing owners g) : key.robot = name := by
  obtain ⟨v, r, kind, hv, hr, rfl⟩ := (mem_goalKeys h).mp hkey
  exact hrouting.robot_eq hr kind

/-- The channels of one slot belong to one Goal. -/
theorem goal_of_slotKey
    (h : SlotTable.Consistent slotOf owners records)
    (hrouting : RoutingWellFormed name routing) {slot : ℕ} {r : SlotRouting}
    (hr : routing[slot]? = some r) {kind : ActionChannelKind}
    (hkey : r.key kind ∈ goalKeys routing owners g) :
    SlotTable.owner owners slot = some g := by
  obtain ⟨v, r', kind', hv, hr', heq⟩ := (mem_goalKeys h).mp hkey
  obtain ⟨hslot, -⟩ := hrouting.key_injective hr hr' heq
  rw [hslot]
  exact (h (slotOf v) g).mpr ⟨v, hv, rfl⟩

end Keys

/-- What the services keep for a Goal: the `GoalInstance`, the packet binding
and the slots that the Goal owns. -/
structure KeptGoal (α β : Type) where
  goal : Option α
  binding : Option β
  slots : List ℕ
deriving DecidableEq

/-! ## The server: what is kept for a Goal -/

/-- What the server keeps for a Goal. -/
abbrev ServerKeptGoal := KeptGoal ServerGoalInstance ActionPacketBinding

namespace ServerActionInstance

/-- What an Action keeps for a Goal. -/
def keptGoal (inst : ServerActionInstance) (g : GoalId) : ServerKeptGoal where
  goal := inst.getGoal g
  binding := inst.binding g
  slots := SlotTable.slotsOf inst.endpoint.slotOwners g

/-- The channels of a Goal of an Action. -/
def goalKeys (inst : ServerActionInstance) (g : GoalId) :
    List PduResolvedKey :=
  Action.goalKeys inst.endpoint.slotRouting inst.endpoint.slotOwners g

variable {R : PduRegistry} {net : SendOracle}
  {inst inst' : ServerActionInstance} {g : GoalId}

theorem getGoal_eq (inst : ServerActionInstance) (g : GoalId) :
    inst.getGoal g = (inst.context g).map fun c => { goal := ⟨g⟩, context := c }
    := by
  cases hget : inst.getGoal g with
  | none => simp [context, hget]
  | some goal =>
      obtain ⟨hcontext, hgoal⟩ := context_eq_some hget
      rw [hcontext, Option.map_some, ← hgoal]

/-- The view of a Goal is determined by its binding and its context. -/
theorem keptGoal_eq (hstore : inst.endpoint.SlotStore)
    (hstore' : inst'.endpoint.SlotStore)
    (hbinding : inst'.binding g = inst.binding g)
    (hcontext : inst'.context g = inst.context g) :
    inst'.keptGoal g = inst.keptGoal g := by
  unfold keptGoal
  rw [getGoal_eq, getGoal_eq, hcontext, hstore.consistent.slotsOf_eq,
    hstore'.consistent.slotsOf_eq, hbinding]
  change KeptGoal.mk _ _ ((inst'.binding g).toList.map _) = _
  rw [hbinding]
  rfl

/-! ## The server: calls -/

/-- Everything that a call sends goes to a channel of its Goal. -/
def SendsOwn (inst : ServerActionInstance) (g : GoalId)
    (effects : List ServerEffect) : Prop :=
  ∀ errorReply key data ok, .send errorReply key data ok ∈ effects →
    errorReply = false ∧ key ∈ inst.goalKeys g

end ServerActionInstance

namespace ActionServerEndpointImpl

variable {R : PduRegistry} {net : SendOracle} {ep : ActionServerEndpointImpl}

/-- Everything in `effects` that is sent goes to a channel of the slot of the
binding of `g`. -/
def SendsBound (ep : ActionServerEndpointImpl) (g : GoalId)
    (effects : List ServerEffect) : Prop :=
  ∀ errorReply key data ok, .send errorReply key data ok ∈ effects →
    errorReply = false ∧ ∃ b r kind, ep.packetBindings.find? g = some b ∧
      ep.slotRouting[b.slotIndex]? = some r ∧ key = r.key kind

theorem responsePacket_key {b : ActionPacketBinding} {kind status : UInt8}
    {packet : PduData} {key : PduResolvedKey} {data : PduData}
    (h : responsePacket R ep b kind status packet = some (key, data)) :
    ∃ r, ep.slotRouting[b.slotIndex]? = some r ∧ key = r.key .response := by
  obtain ⟨r, -, -, hr, hkey, -⟩ := responsePacket_ok h
  exact ⟨r, hr, hkey⟩

theorem respond_sendsBound (goal : ServerGoalHandle)
    (allowed : ActionPacketBinding → Bool) (kind : UInt8) (d : Decision)
    (commit : ActionPacketBinding → ActionServerEndpointImpl) :
    ep.SendsBound goal.goalId
      (respond R net ep goal allowed kind d commit).effects := by
  intro errorReply key data ok hsend
  obtain ⟨hreply, -, b, p, hb, -, hpacket⟩ := send_of_respond hsend
  obtain ⟨r, hr, hkey⟩ := responsePacket_key hpacket
  exact ⟨hreply, b, r, .response, hb, hr, hkey⟩

theorem sendFeedback_sendsBound (goal : ServerGoalHandle) (pdu : PduData) :
    ep.SendsBound goal.goalId (sendFeedback R net ep goal pdu).effects := by
  intro errorReply key data ok hsend
  obtain ⟨hreply, -, b, hb, hpacket⟩ := send_of_sendFeedback hsend
  obtain ⟨r, -, -, hr, hkey, -⟩ := feedbackPacket_ok hpacket
  exact ⟨hreply, b, r, .feedback, hb, hr, hkey⟩

theorem complete_sendsBound (goal : ServerGoalHandle)
    (status : TerminalStatus) (pdu : PduData) :
    ep.SendsBound goal.goalId (complete R net ep goal status pdu).effects := by
  intro errorReply key data ok hsend
  obtain ⟨hreply, -, b, hb, hpacket⟩ := send_of_complete hsend
  obtain ⟨r, hr, hkey⟩ := responsePacket_key hpacket
  exact ⟨hreply, b, r, .response, hb, hr, hkey⟩

end ActionServerEndpointImpl

namespace ServerActionInstance

variable {R : PduRegistry} {net : SendOracle}
  {inst inst' : ServerActionInstance} {g : GoalId}

theorem sendsOwn_nil : inst.SendsOwn g [] := by
  intro errorReply key data ok hsend
  simp at hsend

theorem sendsOwn_of_bound (hinv : inst.Invariant)
    {effects : List ServerEffect} (h : inst.endpoint.SendsBound g effects) :
    inst.SendsOwn g effects := by
  intro errorReply key data ok hsend
  obtain ⟨hreply, b, r, kind, hb, hr, hkey⟩ := h errorReply key data ok hsend
  exact ⟨hreply, (mem_goalKeys hinv.store.consistent).mpr
    ⟨b, r, kind, hb, hr, hkey⟩⟩

/-- A call sends on the channels of its Goal only. -/
theorem call_sendsOwn (hinv : inst.Invariant) (net : SendOracle)
    (c : ServerCall) :
    inst.SendsOwn c.goal.goalId (inst.call R net c).effects := by
  cases c with
  | acceptGoal goal =>
      simp only [call, acceptGoal]
      split
      · exact sendsOwn_nil
      · exact sendsOwn_of_bound hinv
          (ActionServerEndpointImpl.respond_sendsBound _ _ _ _ _)
  | rejectGoal goal =>
      simp only [call, rejectGoal]
      split
      · exact sendsOwn_nil
      · exact sendsOwn_of_bound hinv
          (ActionServerEndpointImpl.respond_sendsBound _ _ _ _ _)
  | discardPendingGoal goal =>
      simp only [call, discardPendingGoal,
        ActionServerEndpointImpl.discardPendingGoal]
      split
      · exact sendsOwn_nil
      · split
        · exact sendsOwn_nil
        · split
          · exact sendsOwn_nil
          · split <;> exact sendsOwn_nil
  | acceptCancel goal =>
      simp only [call, acceptCancel]
      split
      · exact sendsOwn_nil
      · split
        · exact sendsOwn_nil
        · dsimp only
          split
          · exact sendsOwn_of_bound hinv
              (ActionServerEndpointImpl.respond_sendsBound _ _ _ _ _)
          · rw [ActionServerEndpointImpl.acceptCancelLocally]
            split
            · exact sendsOwn_nil
            · split
              · exact sendsOwn_nil
              · split <;> exact sendsOwn_nil
  | rejectCancel goal =>
      simp only [call, rejectCancel]
      split
      · exact sendsOwn_nil
      · split
        · exact sendsOwn_nil
        · split
          · exact sendsOwn_of_bound hinv
              (ActionServerEndpointImpl.respond_sendsBound _ _ _ _ _)
          · exact sendsOwn_nil
  | sendFeedback goal pdu =>
      simp only [call, sendFeedback]
      split
      · exact sendsOwn_nil
      · split
        · exact sendsOwn_nil
        · exact sendsOwn_of_bound hinv
            (ActionServerEndpointImpl.sendFeedback_sendsBound _ _)
  | complete goal status pdu =>
      simp only [call, complete]
      split
      · exact sendsOwn_nil
      · next goalInstance hget =>
          obtain ⟨-, hgoal⟩ := context_eq_some hget
          simp only [completeGoal]
          split
          · exact sendsOwn_nil
          · rw [if_neg (by simp)]
            have hbound : inst.endpoint.SendsBound goalInstance.goal.goalId
                (inst.endpoint.complete R net goalInstance.goal status
                  pdu).effects :=
              ActionServerEndpointImpl.complete_sendsBound _ _ _
            rw [hgoal] at hbound ⊢
            exact sendsOwn_of_bound hinv hbound
  | completeLocally goal status pdu =>
      simp only [call, complete]
      split
      · exact sendsOwn_nil
      · simp only [completeGoal, if_true]
        split
        · exact sendsOwn_nil
        · dsimp only [ActionServerEndpointImpl.completeLocally]
          intro errorReply key data ok hsend
          revert hsend
          split
          · simp
          · split
            · simp
            · split <;> simp

end ServerActionInstance

namespace ActionServicesServer

/-- What the services keep for a Goal of an Action. -/
def keptGoal (s : ActionServicesServer) (name : String) (g : GoalId) :
    Option ServerKeptGoal :=
  (s.getAction name).map (·.keptGoal g)

/-- The channels of a Goal of an Action. -/
def goalKeys (s : ActionServicesServer) (name : String) (g : GoalId) :
    List PduResolvedKey :=
  (s.getAction name).toList.flatMap (·.goalKeys g)

variable {R : PduRegistry} {net : SendOracle} {s : ActionServicesServer}

theorem mem_goalKeys {name : String} {g : GoalId} {key : PduResolvedKey} :
    key ∈ s.goalKeys name g ↔
      ∃ inst, s.getAction name = some inst ∧ key ∈ inst.goalKeys g := by
  simp [goalKeys]

/-- A channel belongs to one Goal of one Action. -/
theorem goal_of_key (hinv : s.Invariant) {name name' : String} {g g' : GoalId}
    {key : PduResolvedKey} (hkey : key ∈ s.goalKeys name g)
    (hkey' : key ∈ s.goalKeys name' g') : name' = name ∧ g' = g := by
  obtain ⟨inst, hget, hmem⟩ := mem_goalKeys.mp hkey
  obtain ⟨inst', hget', hmem'⟩ := mem_goalKeys.mp hkey'
  have hinst := hinv.actions inst (lookup_mem hget)
  have hinst' := hinv.actions inst' (lookup_mem hget')
  have hname : name' = name := by
    rw [← lookup_key hget, ← lookup_key hget',
      ← robot_of_mem_goalKeys hinst.store.consistent hinst.routing hmem,
      ← robot_of_mem_goalKeys hinst'.store.consistent hinst'.routing hmem']
  refine ⟨hname, ?_⟩
  rw [hname, hget, Option.some.injEq] at hget'
  subst hget'
  obtain ⟨b, r, kind, hb, hr, rfl⟩ :=
    (Action.mem_goalKeys hinst.store.consistent).mp hmem
  have howner :=
    goal_of_slotKey hinst.store.consistent hinst.routing hr hmem'
  rw [(hinst.store.consistent b.slotIndex g).mpr ⟨b, hb, rfl⟩] at howner
  exact (Option.some.inj howner).symm

/-- The view of a Goal, read from its binding and its context. -/
theorem keptGoal_congr {s' : ActionServicesServer} (hinv : s.Invariant)
    (hinv' : s'.Invariant)
    (hnames : s'.actions.map (·.actionName) = s.actions.map (·.actionName))
    {name : String} {g : GoalId}
    (hsame : ∀ inst, s.getAction name = some inst →
      ∃ inst', s'.getAction name = some inst' ∧
        inst'.binding g = inst.binding g ∧ inst'.context g = inst.context g) :
    s'.keptGoal name g = s.keptGoal name g := by
  unfold keptGoal
  cases hget : s.getAction name with
  | none =>
      have hget' : s'.getAction name = none := by
        apply lookup_eq_none_iff.mpr
        rw [hnames]
        exact lookup_eq_none_iff.mp hget
      rw [hget']
  | some inst =>
      obtain ⟨inst', hget', hbinding, hcontext⟩ := hsame inst hget
      rw [hget', Option.map_some, Option.map_some,
        ServerActionInstance.keptGoal_eq
          (hinv.actions inst (lookup_mem hget)).store
          (hinv'.actions inst' (lookup_mem hget')).store hbinding hcontext]

/-- A call changes no Goal but its own. -/
theorem call_keptGoal (hinv : s.Invariant) (net : SendOracle) (name : String)
    (c : ServerCall) {name' : String} {g : GoalId}
    (hne : ¬(name' = name ∧ g = c.goal.goalId)) :
    (s.call R net name c).state.keptGoal name' g = s.keptGoal name' g := by
  apply keptGoal_congr hinv (hinv.step (R := R) (.call net name c))
    (map_actionName_step (R := R) s (.call net name c))
  intro inst hget
  obtain ⟨inst', hget', -, hframe⟩ := call_frame (R := R) hinv net name c hget
  exact ⟨inst', hget', hframe g hne⟩

/-- A packet that arrives changes no Goal. -/
theorem receive_keptGoal (R : PduRegistry) (hinv : s.Invariant)
    (key : PduResolvedKey) (data : PduData) (name : String) (g : GoalId) :
    (s.receive key data).keptGoal name g = s.keptGoal name g := by
  apply keptGoal_congr hinv (hinv.step (R := R) (.receive key data))
    (map_actionName_step (R := R) s (.receive key data))
  intro inst hget
  exact ⟨_, (step_project (R := R) hinv.nodup hget (.receive key data)).1,
    rfl, rfl⟩

/-- A call sends on the channels of its Goal only. -/
theorem call_sends (hinv : s.Invariant) {name a : String} {c : ServerCall}
    {errorReply ok : Bool} {key : PduResolvedKey} {data : PduData}
    (hsend : (a, .effect (.send errorReply key data ok)) ∈
      (s.call R net name c).effects) :
    errorReply = false ∧ key ∈ s.goalKeys name c.goal.goalId := by
  unfold call at hsend
  split_ifs at hsend
  · simp at hsend
  · split at hsend
    · simp at hsend
    · next inst hget =>
        obtain ⟨seen, hseen, hpair⟩ := List.mem_map.mp hsend
        simp only [Prod.mk.injEq] at hpair
        rw [hpair.2] at hseen
        simp only [instanceMachine] at hseen
        split_ifs at hseen
        · simp only [List.mem_append, List.mem_map, ServerObs.effect.injEq,
            exists_eq_right, List.mem_singleton, reduceCtorEq, or_false]
            at hseen
          obtain ⟨hreply, hkey⟩ := ServerActionInstance.call_sendsOwn
            (hinv.actions inst (lookup_mem hget)) net c errorReply key data ok
            hseen
          exact ⟨hreply, mem_goalKeys.mpr ⟨inst, hget, hkey⟩⟩
        · simp at hseen

/-! ## The server: polls -/

/-- The packet in front of the queue of an Action, when it is a request. -/
def Head (R : PduRegistry) (s : ActionServicesServer) (name : String)
    (inst : ServerActionInstance) (packet : ServerPendingPacket)
    (header : ActionRequestHeader) : Prop :=
  s.getAction name = some inst ∧
    inst.endpoint.pendingPackets.head? = some packet ∧
    inst.endpoint.readRequest R packet = some header

/-- The Runtime Cancel loop reports one event and handles it. -/
theorem pollRuntimeEvents_of_some {actions : List ServerActionInstance}
    {events : List ServerEvent} {reported : String × ServerEvent}
    (h : (pollRuntimeEvents actions events).result = some reported) :
    ∃ event ∈ events, ∃ inst,
      lookup (·.actionName) event.actionName actions = some inst ∧
      (pollRuntimeEvents actions events).state.1 =
        modifyFirst (·.actionName) event.actionName
          (fun _ => (inst.handleCancelEvent .runtimeCancelRequest event).1)
          actions ∧
      (pollRuntimeEvents actions events).effects =
        [(inst.actionName, .event none reported.2)] := by
  induction events with
  | nil => simp [pollRuntimeEvents] at h
  | cons event rest ih =>
      rw [pollRuntimeEvents_cons] at h ⊢
      cases hinst : lookup (·.actionName) event.actionName actions with
      | none =>
          simp only [hinst] at h ⊢
          obtain ⟨event', hmem, hevent'⟩ := ih h
          exact ⟨event', List.mem_cons_of_mem event hmem, hevent'⟩
      | some inst =>
          simp only [hinst] at h ⊢
          cases hhandled :
              (inst.handleCancelEvent .runtimeCancelRequest event).2 with
          | none =>
              simp only [hhandled] at h ⊢
              obtain ⟨event', hmem, hevent'⟩ := ih h
              exact ⟨event', List.mem_cons_of_mem event hmem, hevent'⟩
          | some _ =>
              simp only [hhandled, Option.some.injEq] at h ⊢
              rw [← h]
              exact ⟨event, List.mem_cons_self, inst, hinst, rfl, rfl⟩

end ActionServicesServer

namespace ServerActionInstance

variable {R : PduRegistry} {net : SendOracle}
  {inst inst' : ServerActionInstance}

theorem kind_of_readRequest {packet : ServerPendingPacket}
    {header : ActionRequestHeader}
    (h : inst.endpoint.readRequest R packet = some header) :
    header.requestKind = requestKindGoal ∨
      header.requestKind = requestKindCancel := by
  unfold ActionServerEndpointImpl.readRequest at h
  split at h
  · simp at h
  · split at h
    · simp at h
    · split at h
      · simp at h
      · split_ifs at h with hvalid
        rw [← Option.some.inj h]
        simp only [ActionServerEndpointImpl.validateRequestHeader,
          decide_eq_true_eq] at hvalid
        exact hvalid.2.1

/-- A poll changes no Goal but the one that the packet in front names. -/
theorem PollCase.frame {result : Option ServerEvent} {obs : List ServerObs}
    (h : PollCase R net inst inst' result obs) {g : GoalId}
    (hne : ∀ packet header,
      inst.endpoint.pendingPackets.head? = some packet →
      inst.endpoint.readRequest R packet = some header → g ≠ header.goalId) :
    inst'.binding g = inst.binding g ∧ inst'.context g = inst.context g := by
  have hupdated {packet : ServerPendingPacket}
      {rest : List ServerPendingPacket} {header : ActionRequestHeader}
      {b : Option ActionPacketBinding} {c : Option ServerGoalContext}
      {inst' : ServerActionInstance}
      (hqueue : inst.endpoint.pendingPackets = packet :: rest)
      (hread : inst.endpoint.readRequest R packet = some header)
      (hupdate : GoalUpdate inst inst' header.goalId b c) :
      inst'.binding g = inst.binding g ∧
        inst'.context g = inst.context g := by
    have hg := hne packet header (by rw [hqueue]; rfl) hread
    rw [hupdate.binding_eq, hupdate.context_eq, if_neg hg, if_neg hg]
    exact ⟨rfl, rfl⟩
  cases h with
  | idle => exact ⟨rfl, rfl⟩
  | invalid => exact ⟨rfl, rfl⟩
  | cancelIgnored => exact ⟨rfl, rfl⟩
  | goalError => exact ⟨rfl, rfl⟩
  | goalRequest hqueue hread hkind hreason hrest hupdate =>
      exact hupdated hqueue hread hupdate
  | cancelRequest hqueue hread hkind hb hslot hstate hpending hcontext hrest
      hupdate =>
      exact hupdated hqueue hread hupdate
  | cancelSwallowed hqueue hread hkind hb hslot hstate hpending hcontext hrest
      hupdate =>
      exact hupdated hqueue hread hupdate

/-- A poll sends nothing but an automatic rejection on the slot of a Goal
Request. -/
theorem PollCase.sends {result : Option ServerEvent} {obs : List ServerObs}
    (h : PollCase R net inst inst' result obs) {errorReply ok : Bool}
    {key : PduResolvedKey} {data : PduData}
    (hsend : .effect (.send errorReply key data ok) ∈ obs) :
    errorReply = true ∧ ∃ packet header r,
      inst.endpoint.pendingPackets.head? = some packet ∧
      inst.endpoint.readRequest R packet = some header ∧
      header.requestKind = requestKindGoal ∧
      inst.endpoint.slotRouting[packet.slotIndex]? = some r ∧
      key = r.response := by
  cases h with
  | idle => simp at hsend
  | invalid => simp at hsend
  | cancelIgnored => simp at hsend
  | goalRequest => simp at hsend
  | cancelRequest => simp at hsend
  | cancelSwallowed => simp at hsend
  | @goalError packet rest header reason hqueue hread hkind hreason =>
      simp only [List.mem_map, ServerObs.effect.injEq, exists_eq_right]
        at hsend
      unfold ActionServerEndpointImpl.sendGoalErrorReply at hsend
      simp only [List.mem_cons, reduceCtorEq, false_or] at hsend
      split at hsend
      · simp at hsend
      · split at hsend
        · simp at hsend
        · next hpacket =>
            obtain ⟨r, hr, hkey⟩ :=
              ActionServerEndpointImpl.responsePacket_key hpacket
            simp only [List.mem_singleton, ServerEffect.send.injEq] at hsend
            obtain ⟨rfl, rfl, -, -⟩ := hsend
            exact ⟨rfl, packet, header, r, by rw [hqueue]; rfl, hread,
              (kind_of_readRequest hread).resolve_right hkind, hr, hkey⟩

end ServerActionInstance

namespace ActionServicesServer

variable {R : PduRegistry} {net : SendOracle} {s : ActionServicesServer}

/-- A poll that reports a Runtime Cancel. -/
theorem poll_runtime (hinv : s.Invariant) {reported : String × ServerEvent}
    (hreported :
      (pollRuntimeEvents s.actions s.pendingRuntimeEvents).result =
        some reported) :
    ∃ event ∈ s.pendingRuntimeEvents,
      (∀ name g, ¬(name = event.actionName ∧ g = event.goal.goalId) →
        (s.poll R net).state.keptGoal name g = s.keptGoal name g) ∧
      ∀ a effect, (a, .effect effect) ∉ (s.poll R net).effects := by
  obtain ⟨event, hmem, found, hfound, hstate, heffects⟩ :=
    pollRuntimeEvents_of_some hreported
  refine ⟨event, hmem, ?_, ?_⟩
  · intro name g hne
    apply keptGoal_congr hinv (hinv.step (R := R) (.poll net))
      (map_actionName_step (R := R) s (.poll net))
    intro inst hget
    have hkept : ∀ a : ServerActionInstance, a.actionName = event.actionName →
        (found.handleCancelEvent .runtimeCancelRequest event).1.actionName =
          event.actionName := by
      intro a _
      rw [ServerActionInstance.actionName_handleCancelEvent]
      exact lookup_key hfound
    have hget' : (s.poll R net).state.getAction name =
        if name = event.actionName then
          some (found.handleCancelEvent .runtimeCancelRequest event).1
        else some inst := by
      simp only [poll, hreported, getAction, hstate]
      rw [lookup_modifyFirst hkept, hfound, ← hget]
      rfl
    by_cases hname : name = event.actionName
    · rw [if_pos hname] at hget'
      refine ⟨_, hget', ?_⟩
      obtain rfl : found = inst := by
        rw [hname] at hget
        exact Option.some.inj (hfound.symm.trans hget)
      have hg : g ≠ event.goal.goalId := fun h => hne ⟨hname, h⟩
      generalize hresult :
        found.handleCancelEvent .runtimeCancelRequest event = result
      obtain rfl | ⟨-, rfl⟩ | ⟨-, -, ⟨es, b, c, -, hupdate⟩, -⟩ :=
        ServerActionInstance.runtimeCancel_cases (R := R)
          (hinv.actions found (lookup_mem hget)) event hresult
      · exact ⟨rfl, rfl⟩
      · exact ⟨rfl, rfl⟩
      · rw [hupdate.binding_eq, hupdate.context_eq, if_neg hg, if_neg hg]
        exact ⟨rfl, rfl⟩
    · rw [if_neg hname] at hget'
      exact ⟨inst, hget', rfl, rfl⟩
  · intro a effect hsend
    simp only [poll, hreported, heffects, List.mem_singleton, Prod.mk.injEq,
      reduceCtorEq, and_false] at hsend

/-- A poll that reports no Runtime Cancel changes only Goals that are named by
the packets in front of the queues. -/
theorem poll_packets_frame (hinv : s.Invariant)
    (hnone : (pollRuntimeEvents s.actions s.pendingRuntimeEvents).result = none)
    {name : String} {g : GoalId}
    (hne : ∀ inst packet header, s.Head R name inst packet header →
      g ≠ header.goalId) :
    (s.poll R net).state.keptGoal name g = s.keptGoal name g := by
  apply keptGoal_congr hinv (hinv.step (R := R) (.poll net))
    (map_actionName_step (R := R) s (.poll net))
  intro inst hget
  have hget' : (s.poll R net).state.getAction name =
      some ((instanceMachine R).run inst (pollInputs R net name s.actions)) := by
    simp only [poll, hnone, getAction]
    exact (pollActions_project net hinv.nodup hget).1
  refine ⟨_, hget', ?_⟩
  obtain hidle | hpolled := pollInputs_cases R net name s.actions
  · rw [hidle]
    exact ⟨rfl, rfl⟩
  · rw [hpolled]
    apply (ServerActionInstance.poll_cases (R := R)
      (hinv.actions inst (lookup_mem hget)) net).frame
    intro packet header hhead hread
    exact hne inst packet header ⟨hget, hhead, hread⟩

theorem poll_packets_sends (hinv : s.Invariant)
    (hnone : (pollRuntimeEvents s.actions s.pendingRuntimeEvents).result = none)
    {a : String} {errorReply ok : Bool} {key : PduResolvedKey} {data : PduData}
    (hsend : (a, .effect (.send errorReply key data ok)) ∈
      (s.poll R net).effects) :
    errorReply = true ∧ ∃ inst packet header r, s.Head R a inst packet header ∧
      header.requestKind = requestKindGoal ∧
      inst.endpoint.slotRouting[packet.slotIndex]? = some r ∧
      key = r.response := by
  simp only [poll, hnone] at hsend
  have hscan := congrArg Prod.snd (pollActions_eq_scan (R := R) net s.actions)
  dsimp only at hscan
  rw [hscan] at hsend
  obtain ⟨inst, hinst, rfl, hobs⟩ := Fleet.mem_scan hsend
  obtain ⟨hreply, packet, header, r, hhead, hread, hkind, hr, hkey⟩ :=
    (ServerActionInstance.poll_cases (R := R) (hinv.actions inst hinst)
      net).sends hobs
  exact ⟨hreply, inst, packet, header, r,
    ⟨getAction_of_mem hinv.nodup hinst, hhead, hread⟩, hkind, hr, hkey⟩

end ActionServicesServer

/-! ## The client: what is kept for a Goal -/

/-- What the client keeps for a Goal. -/
abbrev ClientKeptGoal := KeptGoal ClientGoalInstance ClientPacketBinding

namespace ActionClientEndpointImpl

variable {R : PduRegistry} {net : SendOracle} {ep : ActionClientEndpointImpl}

/-- A Goal Request goes to the request channel of a free slot. -/
theorem sendGoalWithResult_sends {now timeoutUsec : UInt64} {pdu : PduData}
    {g : GoalId} {key : PduResolvedKey} {data : PduData} {ok : Bool}
    (hsend : .send key data ok ∈
      (ep.sendGoalWithResult R net now pdu g timeoutUsec).effects) :
    ∃ slot r, SlotTable.owner ep.slotOwners slot = none ∧
      ep.slotRouting[slot]? = some r ∧ key = r.key .request := by
  obtain ⟨-, slot, hslot, hpacket⟩ := send_of_sendGoal hsend
  obtain ⟨hlt, hfree, -⟩ := List.findIdx?_eq_some_iff_getElem.mp hslot
  obtain ⟨r, -, -, hr, hkey, -⟩ := requestPacket_ok hpacket
  refine ⟨slot, r, ?_, hr, hkey⟩
  rw [SlotTable.owner, List.getElem?_eq_getElem hlt]
  simpa using hfree

/-- A Cancel Request goes to the request channel of the slot of its Goal. -/
theorem sendCancel_sends {goal : ClientGoalHandle} {key : PduResolvedKey}
    {data : PduData} {ok : Bool}
    (hsend : .send key data ok ∈ (ep.sendCancel R net goal).effects) :
    ∃ b r, ep.packetBindings.find? goal.goalId = some b ∧
      ep.slotRouting[b.slotIndex]? = some r ∧ key = r.key .request := by
  obtain ⟨-, b, p, hb, -, hpacket⟩ := send_of_sendCancel hsend
  obtain ⟨r, -, -, hr, hkey, -⟩ := requestPacket_ok hpacket
  exact ⟨b, r, hb, hr, hkey⟩

end ActionClientEndpointImpl

namespace ClientActionInstance

/-- What an Action keeps for a Goal. -/
def keptGoal (inst : ClientActionInstance) (g : GoalId) : ClientKeptGoal where
  goal := inst.getGoal g
  binding := inst.binding g
  slots := SlotTable.slotsOf inst.endpoint.slotOwners g

/-- The channels of a Goal of an Action. -/
def goalKeys (inst : ClientActionInstance) (g : GoalId) :
    List PduResolvedKey :=
  Action.goalKeys inst.endpoint.slotRouting inst.endpoint.slotOwners g

variable {R : PduRegistry} {net : SendOracle}
  {inst inst' : ClientActionInstance} {g : GoalId}

/-- The view of a Goal is determined by its binding. -/
theorem keptGoal_eq (hinv : inst.Invariant) (hinv' : inst'.Invariant)
    (hbinding : inst'.binding g = inst.binding g) :
    inst'.keptGoal g = inst.keptGoal g := by
  have hgoal : inst'.getGoal g = inst.getGoal g := by
    have hcontext : inst'.context g = inst.context g := by
      rw [hinv.corr, hinv'.corr, hbinding]
    cases hc : inst.context g with
    | none =>
        rw [getGoal_eq_none hc, getGoal_eq_none (hcontext.trans hc)]
    | some c =>
        rw [getGoal_of_context hc, getGoal_of_context (hcontext.trans hc)]
  unfold keptGoal
  rw [hgoal, hinv.store.consistent.slotsOf_eq,
    hinv'.store.consistent.slotsOf_eq]
  change KeptGoal.mk _ _ ((inst'.binding g).toList.map _) = _
  rw [hbinding]
  rfl

/-- A call or a poll touches one Goal at most. -/
def Touches (inst inst' : ClientActionInstance) (touched : Option GoalId) :
    Prop :=
  ∀ g, touched ≠ some g → inst'.binding g = inst.binding g

theorem GoalUpdate.touches {b : Option ClientPacketBinding}
    (h : GoalUpdate inst inst' g b) : Touches inst inst' (some g) := by
  intro g' hne
  have hg : g' ≠ g := by
    rintro rfl
    exact hne rfl
  rw [h.binding_eq, if_neg hg]

theorem sendGoal_touches (hinv : inst.Invariant) (net : SendOracle)
    (now : UInt64) (pdu : PduData) (g : GoalId) (timeoutUsec : UInt64) :
    Touches inst ((clientInstanceMachine R).step inst
      (.sendGoal net now pdu g timeoutUsec)).1 (some g) := by
  simp only [clientInstanceMachine]
  split_ifs
  · generalize hsend :
      inst.sendGoalWithResult R net now pdu g timeoutUsec = o
    obtain ⟨-, hsame, -⟩ | ⟨_, _, _, -, -, -, -, hupdate⟩ :=
      sendGoalWithResult_cases hinv hsend
    · rw [hsame]
      exact fun _ _ => rfl
    · exact hupdate.touches
  · exact fun _ _ => rfl

theorem sendCancel_touches (hinv : inst.Invariant) (net : SendOracle)
    (goal : ClientGoalHandle) :
    Touches inst ((clientInstanceMachine R).step inst
      (.sendCancel net goal)).1 (some goal.goalId) := by
  simp only [clientInstanceMachine]
  split_ifs
  · generalize hsend : inst.sendCancel R net goal = o
    obtain ⟨-, hsame, -⟩ | ⟨_, _, _, -, -, -, -, -, hupdate⟩ :=
      sendCancel_cases hinv hsend
    · rw [hsame]
      exact fun _ _ => rfl
    · exact hupdate.touches
  · exact fun _ _ => rfl

/-- The Goal is named by the packet in front of the queue, or it has waited too
long for its Goal Response. -/
def Due (R : PduRegistry) (inst : ClientActionInstance) (now : UInt64)
    (g : GoalId) : Prop :=
  (∃ packet p, inst.endpoint.pendingPackets.head? = some packet ∧
    packet.decode R inst.endpoint.slotRouting = some p ∧ p.goalId = g) ∨
  ∃ b, inst.binding g = some b ∧
    ActionClientEndpointImpl.responseTimedOut now b = true

theorem PollCase.touches {now : UInt64} {result : Option ClientEvent}
    (h : PollCase R now inst inst' result) :
    ∃ touched, Touches inst inst' touched ∧
      ∀ g, touched = some g → inst.Due R now g := by
  cases h with
  | @reported packet rest p b b' hqueue hdecode hb hslot hadvance hupdate =>
      refine ⟨some p.goalId, hupdate.touches, ?_⟩
      intro g hg
      exact Or.inl ⟨packet, p, by rw [hqueue]; rfl, hdecode,
        Option.some.inj hg⟩
  | idle hskip hinst =>
      subst hinst
      exact ⟨none, fun _ _ => rfl, by simp⟩
  | @timedOut rest g b hskip hb htimeout hupdate =>
      refine ⟨some g, hupdate.touches, ?_⟩
      intro g' hg'
      obtain rfl := Option.some.inj hg'
      exact Or.inr ⟨b, hb, htimeout⟩

end ClientActionInstance

namespace ActionServicesClient

/-- What the services keep for a Goal of an Action. -/
def keptGoal (s : ActionServicesClient) (name : String) (g : GoalId) :
    Option ClientKeptGoal :=
  (s.getAction name).map (·.keptGoal g)

/-- The channels of a Goal of an Action. -/
def goalKeys (s : ActionServicesClient) (name : String) (g : GoalId) :
    List PduResolvedKey :=
  (s.getAction name).toList.flatMap (·.goalKeys g)

variable {R : PduRegistry} {s : ActionServicesClient}

theorem mem_goalKeys {name : String} {g : GoalId} {key : PduResolvedKey} :
    key ∈ s.goalKeys name g ↔
      ∃ inst, s.getAction name = some inst ∧ key ∈ inst.goalKeys g := by
  simp [goalKeys]

/-- A channel of a slot of an Action belongs to the owner of that slot. -/
theorem owner_of_key (hinv : s.Invariant) {name name' : String} {g : GoalId}
    {inst : ClientActionInstance} (hget : s.getAction name = some inst)
    {slot : ℕ} {r : SlotRouting}
    (hr : inst.endpoint.slotRouting[slot]? = some r) {kind : ActionChannelKind}
    (hkey : r.key kind ∈ s.goalKeys name' g) :
    name' = name ∧ SlotTable.owner inst.endpoint.slotOwners slot = some g := by
  obtain ⟨inst', hget', hmem⟩ := mem_goalKeys.mp hkey
  have hinst := hinv.actions inst (lookup_mem hget)
  have hinst' := hinv.actions inst' (lookup_mem hget')
  have hname : name' = name := by
    rw [← lookup_key hget, ← lookup_key hget',
      ← hinst.routing.robot_eq hr kind,
      ← robot_of_mem_goalKeys hinst'.store.consistent hinst'.routing hmem]
  refine ⟨hname, ?_⟩
  rw [hname, hget, Option.some.injEq] at hget'
  subst hget'
  exact goal_of_slotKey hinst.store.consistent hinst.routing hr hmem

/-- A step of the services changes a Goal only if it does so in its Action. -/
theorem step_keptGoal (hinv : s.Invariant) (i : ClientInput) {name : String}
    {g : GoalId}
    (hsame : ∀ inst, s.getAction name = some inst →
      ((clientInstanceMachine R).run inst
        (instanceInputs R name s i)).binding g = inst.binding g) :
    ((clientMachine R).step s i).1.keptGoal name g = s.keptGoal name g := by
  have hinv' := hinv.step (R := R) i
  unfold keptGoal
  cases hget : s.getAction name with
  | none =>
      have hget' : ((clientMachine R).step s i).1.getAction name = none := by
        apply lookup_eq_none_iff.mpr
        rw [map_actionName_step]
        exact lookup_eq_none_iff.mp hget
      rw [hget']
  | some inst =>
      have hget' := (step_project (R := R) hinv.nodup hget i).1
      rw [hget', Option.map_some, Option.map_some,
        ClientActionInstance.keptGoal_eq (hinv.actions inst (lookup_mem hget))
          (hinv'.actions _ (lookup_mem hget')) (hsame inst hget)]

theorem sendGoalWithResult_keptGoal (hinv : s.Invariant) (net : SendOracle)
    (now : UInt64) (name : String) (pdu : PduData) (g : GoalId)
    (timeoutUsec : UInt64) {name' : String} {g' : GoalId}
    (hne : ¬(name' = name ∧ g' = g)) :
    (s.sendGoalWithResult R net now name pdu g timeoutUsec).state.keptGoal
        name' g' = s.keptGoal name' g' := by
  apply step_keptGoal (R := R) hinv (.sendGoal net now name pdu g timeoutUsec)
  intro inst hget
  rw [instanceInputs]
  split_ifs with hname
  · apply ClientActionInstance.sendGoal_touches
      (hinv.actions inst (lookup_mem hget)) net now pdu g timeoutUsec
    intro hg
    exact hne ⟨hname.1.symm, (Option.some.inj hg).symm⟩
  · rfl

theorem sendCancel_keptGoal (hinv : s.Invariant) (net : SendOracle)
    (name : String) (goal : ClientGoalHandle) {name' : String} {g' : GoalId}
    (hne : ¬(name' = name ∧ g' = goal.goalId)) :
    (s.sendCancel R net name goal).state.keptGoal name' g' =
      s.keptGoal name' g' := by
  apply step_keptGoal (R := R) hinv (.sendCancel net name goal)
  intro inst hget
  rw [instanceInputs]
  split_ifs with hname
  · apply ClientActionInstance.sendCancel_touches
      (hinv.actions inst (lookup_mem hget)) net goal
    intro hg
    exact hne ⟨hname.1.symm, (Option.some.inj hg).symm⟩
  · rfl

/-- A packet that arrives changes no Goal. -/
theorem receive_keptGoal (R : PduRegistry) (hinv : s.Invariant)
    (key : PduResolvedKey) (data : PduData) (name : String) (g : GoalId) :
    (s.receive key data).keptGoal name g = s.keptGoal name g :=
  step_keptGoal (R := R) hinv (.receive key data) fun _ _ => rfl

/-- A poll changes at most one Goal of each Action: the one that the packet in
front names, or one that has waited too long. -/
theorem poll_keptGoal (hinv : s.Invariant) (clock : String → UInt64)
    {name : String} {inst : ClientActionInstance}
    (hget : s.getAction name = some inst) :
    ∃ touched,
      (∀ g, touched ≠ some g →
        (s.poll R clock).state.keptGoal name g = s.keptGoal name g) ∧
      ∀ g, touched = some g → inst.Due R (clock name) g := by
  have hinputs : instanceInputs R name s (.poll clock) = [] ∨
      ∃ inst ∈ s.actions, inst.actionName = name ∧
        instanceInputs R name s (.poll clock) =
          [.poll (clock inst.actionName)] :=
    Fleet.scanInputs_cases name s.actions
  obtain hidle | ⟨inst', hinst', hname, hpolled⟩ := hinputs
  · refine ⟨none, ?_, by simp⟩
    intro g _
    apply step_keptGoal (R := R) hinv (.poll clock)
    intro inst hget
    rw [hidle]
    rfl
  · rw [hname] at hpolled
    obtain ⟨touched, htouches, hdue⟩ :=
      (ClientActionInstance.poll_cases (R := R)
        (hinv.actions inst (lookup_mem hget)) (clock name)).touches
    refine ⟨touched, ?_, hdue⟩
    intro g hg
    apply step_keptGoal (R := R) hinv (.poll clock)
    intro inst' hget'
    rw [hpolled]
    obtain rfl := Option.some.inj (hget.symm.trans hget')
    exact htouches g hg

/-- A poll sends nothing. -/
theorem poll_sends (clock : String → UInt64) (a : String) (e : ClientEffect) :
    (a, .effect e) ∉ (s.poll R clock).effects := by
  intro hsend
  have hscan := congrArg Prod.snd (pollActions_eq_scan (R := R) clock s.actions)
  dsimp only at hscan
  simp only [poll, Outcome.embed_effects, hscan] at hsend
  obtain ⟨inst, -, -, hobs⟩ := Fleet.mem_scan hsend
  simp [clientInstanceMachine] at hobs

/-- What is sent in a step of an Action is an effect of its call. -/
theorem mem_effects_of_stepAction {name a : String} {i : ClientInstanceInput}
    {inst : ClientActionInstance} (hget : s.getAction name = some inst)
    {o : ClientObs} (h : (a, o) ∈ (s.stepAction R name i).2) :
    o ∈ ((clientInstanceMachine R).step inst i).2 := by
  simp only [stepAction, hget, List.mem_map, Prod.mk.injEq] at h
  obtain ⟨o', ho', -, rfl⟩ := h
  exact ho'

/-- A Goal Request is sent on a slot that no Goal owns. -/
theorem sendGoalWithResult_sends (hinv : s.Invariant) {net : SendOracle}
    {now : UInt64} {name a : String} {pdu : PduData} {g : GoalId}
    {timeoutUsec : UInt64} {key : PduResolvedKey} {data : PduData} {ok : Bool}
    (hsend : (a, .effect (.send key data ok)) ∈
      (s.sendGoalWithResult R net now name pdu g timeoutUsec).effects)
    (name' : String) (g' : GoalId) : key ∉ s.goalKeys name' g' := by
  intro hkey
  unfold sendGoalWithResult at hsend
  split at hsend
  · simp at hsend
  · split at hsend
    · simp at hsend
    · next inst hget =>
        have hstep := mem_effects_of_stepAction hget hsend
        simp only [clientInstanceMachine,
          ClientActionInstance.sendGoalWithResult] at hstep
        split_ifs at hstep
        · simp at hstep
        · simp only [Outcome.embed_effects, List.mem_append, List.mem_map,
            ClientObs.effect.injEq, exists_eq_right, List.mem_singleton,
            reduceCtorEq, or_false] at hstep
          obtain ⟨slot, r, hfree, hr, rfl⟩ :=
            ActionClientEndpointImpl.sendGoalWithResult_sends hstep
          obtain ⟨-, howner⟩ := owner_of_key hinv hget hr hkey
          rw [hfree] at howner
          simp at howner
        · simp at hstep

/-- A Cancel Request is sent on the slot of its Goal. -/
theorem sendCancel_sends (hinv : s.Invariant) {net : SendOracle}
    {name a : String} {goal : ClientGoalHandle} {key : PduResolvedKey}
    {data : PduData} {ok : Bool}
    (hsend : (a, .effect (.send key data ok)) ∈
      (s.sendCancel R net name goal).effects) (name' : String) (g' : GoalId)
    (hkey : key ∈ s.goalKeys name' g') :
    name' = name ∧ g' = goal.goalId := by
  unfold sendCancel at hsend
  split at hsend
  · simp at hsend
  · split at hsend
    · simp at hsend
    · next inst hget =>
        have hstep := mem_effects_of_stepAction hget hsend
        have heffect : .send key data ok ∈
            (inst.endpoint.sendCancel R net goal).effects := by
          simp only [clientInstanceMachine,
            ClientActionInstance.sendCancel] at hstep
          split at hstep
          · split at hstep
            · simp at hstep
            · dsimp only at hstep
              split at hstep
              · simp at hstep
              · split at hstep
                · simp at hstep
                · simpa using hstep
          · simp at hstep
        obtain ⟨b, r, hb, hr, rfl⟩ :=
          ActionClientEndpointImpl.sendCancel_sends heffect
        obtain ⟨hname, howner⟩ := owner_of_key hinv hget hr hkey
        have hown := ((hinv.actions inst
          (lookup_mem hget)).store.consistent b.slotIndex goal.goalId).mpr
            ⟨b, hb, rfl⟩
        rw [hown] at howner
        exact ⟨hname, (Option.some.inj howner).symm⟩

end ActionServicesClient

/-! ## Isolation -/

/-- What one poll of the server does to Goals.  When a Runtime Cancel is
reported, its Goal is the only one concerned.  Otherwise each Action handles at
most the packet in front of its queue: only the Goal that this packet names can
change, and all that is sent is an automatic rejection on the slot of a Goal
Request. -/
def ServerPollIsolated (R : PduRegistry) (net : SendOracle)
    (s : ActionServicesServer) : Prop :=
  (∃ event ∈ s.pendingRuntimeEvents,
    (∀ name g, ¬(name = event.actionName ∧ g = event.goal.goalId) →
      (s.poll R net).state.keptGoal name g = s.keptGoal name g) ∧
    ∀ a effect, (a, .effect effect) ∉ (s.poll R net).effects) ∨
  (∀ name g,
    (∀ inst packet header, s.Head R name inst packet header →
      g ≠ header.goalId) →
    (s.poll R net).state.keptGoal name g = s.keptGoal name g) ∧
  ∀ a errorReply key data ok,
    (a, .effect (.send errorReply key data ok)) ∈ (s.poll R net).effects →
    errorReply = true ∧ ∃ inst packet header r, s.Head R a inst packet header ∧
      header.requestKind = requestKindGoal ∧
      inst.endpoint.slotRouting[packet.slotIndex]? = some r ∧
      key = r.response

/-- The Goals of the server do not disturb each other. -/
structure ServerIsolation (R : PduRegistry) (s : ActionServicesServer) :
    Prop where
  call_frame : ∀ net name c name' g,
    ¬(name' = name ∧ g = c.goal.goalId) →
    (s.call R net name c).state.keptGoal name' g = s.keptGoal name' g
  call_sends : ∀ net name c a errorReply key data ok,
    (a, .effect (.send errorReply key data ok)) ∈
      (s.call R net name c).effects →
    key ∈ s.goalKeys name c.goal.goalId ∧
      ∀ name' g, key ∈ s.goalKeys name' g → name' = name ∧ g = c.goal.goalId
  receive_frame : ∀ key data name g,
    (s.receive key data).keptGoal name g = s.keptGoal name g
  poll : ∀ net, ServerPollIsolated R net s

/-- The Goals of the client do not disturb each other. -/
structure ClientIsolation (R : PduRegistry) (s : ActionServicesClient) :
    Prop where
  sendGoal_frame : ∀ net now name pdu g timeoutUsec name' g',
    ¬(name' = name ∧ g' = g) →
    (s.sendGoalWithResult R net now name pdu g timeoutUsec).state.keptGoal
      name' g' = s.keptGoal name' g'
  sendGoal_sends : ∀ net now name pdu g timeoutUsec a key data ok,
    (a, .effect (.send key data ok)) ∈
      (s.sendGoalWithResult R net now name pdu g timeoutUsec).effects →
    ∀ name' g', key ∉ s.goalKeys name' g'
  sendCancel_frame : ∀ net name goal name' g',
    ¬(name' = name ∧ g' = goal.goalId) →
    (s.sendCancel R net name goal).state.keptGoal name' g' =
      s.keptGoal name' g'
  sendCancel_sends : ∀ net name goal a key data ok,
    (a, .effect (.send key data ok)) ∈
      (s.sendCancel R net name goal).effects →
    ∀ name' g', key ∈ s.goalKeys name' g' →
      name' = name ∧ g' = goal.goalId
  receive_frame : ∀ key data name g,
    (s.receive key data).keptGoal name g = s.keptGoal name g
  poll_frame : ∀ clock name inst, s.getAction name = some inst →
    ∃ touched,
      (∀ g, touched ≠ some g →
        (s.poll R clock).state.keptGoal name g = s.keptGoal name g) ∧
      ∀ g, touched = some g → inst.Due R (clock name) g
  poll_sends : ∀ clock a e, (a, .effect e) ∉ (s.poll R clock).effects

/-- In every reachable state of the server and of the client, whatever the
packets hold and on whichever slots they arrive, a call or a packet changes only
the Goal it is about, and nothing is sent on the slots of other Goals but the
automatic rejection of a Goal Request. -/
theorem goal_isolation (R : PduRegistry) (nodeId implType : String)
    (endpointExists : String → Bool) (root : Json) :
    (∀ is, ServerIsolation R ((serverMachine R).run
      (startedServer R nodeId implType endpointExists root) is)) ∧
    ∀ is, ClientIsolation R ((clientMachine R).run
      (startedClient R nodeId implType endpointExists root) is) := by
  constructor
  · intro is
    have hinv := ActionServicesServer.invariant_run (R := R) nodeId implType
      endpointExists root is
    generalize (serverMachine R).run
      (startedServer R nodeId implType endpointExists root) is = s at hinv
    refine ⟨?_, ?_, ?_, ?_⟩
    · intro net name c name' g hne
      exact ActionServicesServer.call_keptGoal hinv net name c hne
    · intro net name c a errorReply key data ok hsend
      obtain ⟨-, hkey⟩ := ActionServicesServer.call_sends hinv hsend
      refine ⟨hkey, ?_⟩
      intro name' g hkey'
      exact ActionServicesServer.goal_of_key hinv hkey hkey'
    · exact ActionServicesServer.receive_keptGoal R hinv
    · intro net
      cases hruntime : (ActionServicesServer.pollRuntimeEvents s.actions
          s.pendingRuntimeEvents).result with
      | some reported =>
          exact Or.inl (ActionServicesServer.poll_runtime hinv hruntime)
      | none =>
          refine Or.inr ⟨?_, ?_⟩
          · intro name g hne
            exact ActionServicesServer.poll_packets_frame hinv hruntime hne
          · intro a errorReply key data ok hsend
            exact ActionServicesServer.poll_packets_sends hinv hruntime hsend
  · intro is
    have hinv := ActionServicesClient.invariant_run (R := R) nodeId implType
      endpointExists root is
    generalize (clientMachine R).run
      (startedClient R nodeId implType endpointExists root) is = s at hinv
    refine ⟨?_, ?_, ?_, ?_, ?_, ?_, ?_⟩
    · intro net now name pdu g timeoutUsec name' g' hne
      exact ActionServicesClient.sendGoalWithResult_keptGoal hinv net now name
        pdu g timeoutUsec hne
    · intro net now name pdu g timeoutUsec a key data ok hsend
      exact ActionServicesClient.sendGoalWithResult_sends hinv hsend
    · intro net name goal name' g' hne
      exact ActionServicesClient.sendCancel_keptGoal hinv net name goal hne
    · intro net name goal a key data ok hsend
      exact ActionServicesClient.sendCancel_sends hinv hsend
    · exact ActionServicesClient.receive_keptGoal R hinv
    · intro clock name inst hget
      exact ActionServicesClient.poll_keptGoal hinv clock hget
    · exact ActionServicesClient.poll_sends

end HakoPduRpc.Action
