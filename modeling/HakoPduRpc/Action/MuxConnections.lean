import HakoPduRpc.Action.MuxSlots

/-!
# Connections as servers of their own

The multiplexing server keeps one `ActionServicesServer` for each connection.
`connectionInputs` says what the services of a connection see of a small step,
and `step_connection` that the connection does exactly what a server by itself
would do with it: polls, routed calls, the rejection of a duplicate Goal and the
handling of a disconnect are inputs of the services, and everything that happens
to other connections is not.
-/

namespace HakoPduRpc.Action

open KeyedList

/-- The observation of a connection. -/
def connectionObs (k : ℕ) : MuxObs → List (String × ServerObs)
  | .connection k' name obs => if k' = k then [(name, obs)] else []
  | .connected _ _ | .processed _ | .event _ _ _ | .returned _ _ _ | .stopped =>
      []

/-- What the services of a connection showed. -/
def connectionTrace (k : ℕ) (trace : List MuxObs) : List (String × ServerObs) :=
  trace.flatMap (connectionObs k)

/-- The server logs the observation; only the Goals that are discarded with a
connection are not heard of. -/
def told (seen : String × ServerObs) : Bool :=
  match seen.2 with
  | .returned (.discardPendingGoal _) _ => false
  | _ => true

theorem connectionTrace_append (k : ℕ) (trace trace' : List MuxObs) :
    connectionTrace k (trace ++ trace') =
      connectionTrace k trace ++ connectionTrace k trace' :=
  List.flatMap_append

theorem connectionTrace_map (k k' : ℕ) (seen : List (String × ServerObs)) :
    connectionTrace k (seen.map fun seen => .connection k' seen.1 seen.2) =
      if k' = k then seen else [] := by
  unfold connectionTrace
  rw [List.flatMap_map]
  simp only [connectionObs]
  split_ifs
  · exact List.flatMap_singleton' seen
  · simp

/-! ## Routed calls -/

namespace MuxCall

/-- The call of the services that a call of the application is routed as. -/
def routed (disconnected : Bool) : MuxCall → ServerCall
  | .acceptGoal goal => .acceptGoal goal
  | .rejectGoal goal => .rejectGoal goal
  | .acceptCancel goal => .acceptCancel goal
  | .rejectCancel goal => .rejectCancel goal
  | .sendFeedback goal feedbackPdu => .sendFeedback goal feedbackPdu
  | .complete goal status resultPdu =>
      if disconnected then .completeLocally goal status resultPdu
      else .complete goal status resultPdu

/-- The call ends a Goal when it succeeds. -/
def completes : MuxCall → Bool
  | .complete _ _ _ => true
  | .acceptGoal _ | .rejectGoal _ | .acceptCancel _ | .rejectCancel _
  | .sendFeedback _ _ => false

end MuxCall

namespace ActionServicesMuxServer

variable (R : PduRegistry) (s : ActionServicesMuxServer)

/-- The connection that a call of the application is routed to. -/
def calledSlot (actionName : String) : MuxCall → Option ConnectionSlot
  | .acceptGoal goal => s.pendingSlot actionName goal.goalId
  | .rejectGoal goal => s.pendingSlot actionName goal.goalId
  | .acceptCancel goal => s.activeSlot actionName goal.goalId
  | .rejectCancel goal => s.activeSlot actionName goal.goalId
  | .sendFeedback goal _ =>
      (s.activeSlot actionName goal.goalId).filter fun slot =>
        ¬slot.disconnected
  | .complete goal _ _ => s.activeSlot actionName goal.goalId

/-! ## What a connection sees -/

/-- The inputs that discard the undecided Goals of a connection. -/
def discardInputs (owners : List GoalOwner) : List ServerInput :=
  owners.map fun owner =>
    .call (fun _ _ => false) owner.actionName
      (.discardPendingGoal ⟨owner.goalId⟩)

/-- The inputs by which the disconnect of a connection is handled. -/
def processInputs (slot : ConnectionSlot) : List ServerInput :=
  if ¬slot.disconnected ∨ slot.disconnectProcessed then []
  else
    discardInputs (s.pendingOwners slot.connectionId) ++
      [.stopAllServices,
        if s.hasActiveOwner slot.connectionId then .notifyTransportDisconnected
        else .clearAllInstances]

/-- The inputs by which a connection is polled: a Goal Request for a Goal that
has an owner is rejected at once. -/
def pollSlotInputs (slot : ConnectionSlot) (poll reject : SendOracle) :
    List ServerInput :=
  if slot.retired then []
  else
    .poll poll ::
      match (slot.server.poll R poll).result with
      | none => []
      | some (actionName, event) =>
          if event.type = .goalRequest ∧
              (s.findOwner actionName event.goal.goalId).isSome then
            [.call reject actionName (.rejectGoal event.goal)]
          else []

/-- The inputs of a connection with a call: the services of the called
connection are called, and those of the orphaned connection are reset with the
last Goal of its id. -/
def callInputs (net : SendOracle) (actionName : String) (call : MuxCall)
    (slot : ConnectionSlot) : List ServerInput :=
  match s.calledSlot actionName call with
  | none => []
  | some called =>
      let routed := call.routed called.disconnected
      (if called.number = slot.number then [.call net actionName routed]
        else []) ++
        if call.completes ∧
            (called.server.call R net actionName routed).result ∧
            (s.call R net actionName call).state.owners.any (fun owner =>
              owner.connectionId = called.connectionId) = false ∧
            (s.orphanedSlot called.connectionId).map (·.number) =
              some slot.number then
          [.clearAllInstances]
        else []

/-- What the services of a connection see of a small step. -/
def connectionInputs (slot : ConnectionSlot) : MuxStep → List ServerInput
  | .transport (.receive k key data) =>
      if k = slot.number then [.receive key data] else []
  | .transport (.disconnect _) => []
  | .acceptConnection _ _ => []
  | .processSlot k => if k = slot.number then s.processInputs slot else []
  | .pollSlot k poll reject =>
      if k = slot.number then s.pollSlotInputs R slot poll reject else []
  | .call net actionName call => s.callInputs R net actionName call slot
  | .opened _ => []
  | .started _ => []
  | .stop => []

end ActionServicesMuxServer

/-! ## Steps of a connection -/

namespace ActionServicesServer

variable {R : PduRegistry}

/-- Discarding the undecided Goals, as inputs. -/
theorem run_discardInputs (server : ActionServicesServer)
    (owners : List GoalOwner) :
    (serverMachine R).run server
        (ActionServicesMuxServer.discardInputs owners) =
      ActionServicesMuxServer.discardOwners R owners server := by
  induction owners generalizing server with
  | nil => rfl
  | cons owner rest ih => exact ih _

/-- A call shows itself and the effects of the services. -/
theorem told_call {server : ActionServicesServer} {net : SendOracle}
    {name : String} {c : ServerCall} {o : String × ServerObs}
    (ho : o ∈ (server.call R net name c).effects) :
    (∃ effect, o.2 = .effect effect) ∨ ∃ result, o.2 = .returned c result := by
  unfold ActionServicesServer.call at ho
  split at ho
  · simp at ho
  · split at ho
    · simp at ho
    · obtain ⟨o', ho', rfl⟩ := List.mem_map.mp ho
      simp only [instanceMachine] at ho'
      split at ho'
      · rcases List.mem_append.mp ho' with ho' | ho'
        · obtain ⟨effect, -, rfl⟩ := List.mem_map.mp ho'
          exact Or.inl ⟨effect, rfl⟩
        · exact Or.inr ⟨_, List.mem_singleton.mp ho'⟩
      · exact Or.inr ⟨_, List.mem_singleton.mp ho'⟩

/-- A discarded Goal is not heard of. -/
theorem filter_told_discard (server : ActionServicesServer) (net : SendOracle)
    (name : String) (goal : ServerGoalHandle) :
    (server.call R net name (.discardPendingGoal goal)).effects.filter told =
      [] := by
  have hsilent (inst : ServerActionInstance) :
      (inst.call R net (.discardPendingGoal goal)).effects = [] := by
    simp only [ServerActionInstance.call,
      ServerActionInstance.discardPendingGoal,
      ActionServerEndpointImpl.discardPendingGoal, Outcome.embed]
    repeat' (first | rfl | split)
  unfold ActionServicesServer.call
  split
  · rfl
  · split
    · rfl
    · simp only [instanceMachine, hsilent]
      split <;> simp [told]

theorem filter_told_discardInputs (server : ActionServicesServer)
    (owners : List GoalOwner) :
    ((serverMachine R).trace server
      (ActionServicesMuxServer.discardInputs owners)).filter told = [] := by
  induction owners generalizing server with
  | nil => rfl
  | cons owner rest ih =>
      simp only [ActionServicesMuxServer.discardInputs, List.map_cons,
        Machine.trace_cons, List.filter_append]
      rw [serverMachine]
      dsimp only
      rw [filter_told_discard, List.nil_append]
      exact ih _

theorem pollRuntimeEvents_effects (actions : List ServerActionInstance)
    (events : List ServerEvent) {o : String × ServerObs}
    (ho : o ∈ (pollRuntimeEvents actions events).effects) :
    ∃ event, o.2 = .event none event := by
  induction events with
  | nil => simp [pollRuntimeEvents] at ho
  | cons event rest ih =>
      rw [pollRuntimeEvents_cons] at ho
      split at ho
      · exact ih ho
      · split at ho
        · exact ih ho
        · next reported _ =>
            rw [List.mem_singleton] at ho
            exact ⟨reported, by rw [ho]⟩

/-- A poll shows events and effects. -/
theorem told_poll {server : ActionServicesServer} {net : SendOracle}
    {o : String × ServerObs} (ho : o ∈ (server.poll R net).effects) :
    told o = true := by
  have hevents {o : String × ServerObs}
      (ho : o ∈ (pollActions R net server.actions).effects) :
      told o = true := by
    have hscan := congrArg Prod.snd
      (pollActions_eq_scan (R := R) net server.actions)
    dsimp only at hscan
    rw [hscan] at ho
    obtain ⟨inst, -, -, ho⟩ := Fleet.mem_scan ho
    rcases List.mem_append.mp ho with ho | ho
    · obtain ⟨effect, -, heq⟩ := List.mem_map.mp ho
      simp [told, ← heq]
    · obtain ⟨event, -, heq⟩ := List.mem_map.mp ho
      simp [told, ← heq]
  unfold ActionServicesServer.poll at ho
  dsimp only at ho
  split at ho
  · obtain ⟨event, heq⟩ := pollRuntimeEvents_effects _ _ ho
    simp [told, heq]
  · exact hevents ho

end ActionServicesServer

/-- The input is not the discarding of a Goal. -/
def ServerInput.Told : ServerInput → Prop
  | .call _ _ (.discardPendingGoal _) => False
  | _ => True

/-- Everything that the services do with such inputs is told. -/
theorem ActionServicesServer.filter_told {R : PduRegistry}
    (server : ActionServicesServer) {is : List ServerInput}
    (his : ∀ i ∈ is, i.Told) :
    ((serverMachine R).trace server is).filter told =
      (serverMachine R).trace server is := by
  rw [List.filter_eq_self, (serverMachine R).forall_trace_iff]
  refine (serverMachine R).along_of_forall (fun i hi s o ho => ?_) server
  cases i with
  | poll net => exact told_poll ho
  | call net name c =>
      have hc := his _ hi
      obtain ⟨effect, heq⟩ | ⟨result, heq⟩ := told_call ho
      · simp [told, heq]
      · rw [told, heq]
        cases c <;> first | rfl | exact hc.elim
  | receive key data => simp [serverMachine] at ho
  | stopAllServices => simp [serverMachine] at ho
  | clearAllInstances => simp [serverMachine] at ho
  | notifyTransportDisconnected => simp [serverMachine] at ho

namespace ActionServicesMuxServer

variable {R : PduRegistry} {s : ActionServicesMuxServer}
  {slot : ConnectionSlot}

/-- What a step does to a connection is what its services do with their
inputs; when `kept` holds, its disconnected flag stays as it is. -/
structure Serves (R : PduRegistry) (kept : Prop) (s' : ActionServicesMuxServer)
    (slot : ConnectionSlot) (is : List ServerInput) (obs : List MuxObs) :
    Prop where
  server : ∃ slot', s'.slotAt slot.number = some slot' ∧
    slot'.server = (serverMachine R).run slot.server is ∧
    (kept → slot'.disconnected = slot.disconnected)
  trace : connectionTrace slot.number obs =
    ((serverMachine R).trace slot.server is).filter told

/-- A step that leaves a connection alone. -/
theorem Serves.idle {kept : Prop} {s' : ActionServicesMuxServer}
    (hfound : s'.slotAt slot.number = some slot) {obs : List MuxObs}
    (hobs : connectionTrace slot.number obs = []) :
    Serves R kept s' slot [] obs :=
  ⟨⟨slot, hfound, rfl, fun _ => rfl⟩, hobs⟩

theorem discard_told (call : MuxCall) (disconnected : Bool) (net : SendOracle)
    (name : String) :
    (ServerInput.call net name (call.routed disconnected)).Told := by
  cases call with
  | complete goal status pdu => cases disconnected <;> trivial
  | acceptGoal | rejectGoal | acceptCancel | rejectCancel | sendFeedback =>
      trivial

theorem calledSlot_found (hwf : s.WellFormed) {name : String} {call : MuxCall}
    (h : s.calledSlot name call = some slot) :
    s.slotAt slot.number = some slot := by
  have hpending {goal : ServerGoalHandle}
      (h : s.pendingSlot name goal.goalId = some slot) :
      s.slotAt slot.number = some slot :=
    (pendingSlot_eq_some h).1.slotAt_eq hwf
  have hactive {goal : ServerGoalHandle}
      (h : s.activeSlot name goal.goalId = some slot) :
      s.slotAt slot.number = some slot :=
    (activeSlot_eq_some h).slotAt_eq hwf
  cases call with
  | acceptGoal goal => exact hpending h
  | rejectGoal goal => exact hpending h
  | acceptCancel goal => exact hactive h
  | rejectCancel goal => exact hactive h
  | sendFeedback goal pdu => exact hactive (Option.filter_eq_some_iff.mp h).1
  | complete goal status pdu => exact hactive h

/-- A call that is not routed changes nothing. -/
theorem call_unrouted {name : String} {call : MuxCall}
    (h : s.calledSlot name call = none) (net : SendOracle) :
    (s.call R net name call).state = s ∧
      (s.call R net name call).effects = [] := by
  cases call with
  | sendFeedback goal pdu =>
      simp only [calledSlot] at h
      simp only [ActionServicesMuxServer.call, sendFeedback]
      cases hslot : s.activeSlot name goal.goalId with
      | none => exact ⟨rfl, rfl⟩
      | some called =>
          rw [hslot] at h
          have hdisconnected : called.disconnected = true := by
            simpa [Option.filter] using h
          simp [hdisconnected]
  | acceptGoal goal =>
      simp only [calledSlot] at h
      simp [ActionServicesMuxServer.call, acceptGoal, h]
  | rejectGoal goal =>
      simp only [calledSlot] at h
      simp [ActionServicesMuxServer.call, rejectGoal, h]
  | acceptCancel goal =>
      simp only [calledSlot] at h
      simp [ActionServicesMuxServer.call, routeActiveGoal, h]
  | rejectCancel goal =>
      simp only [calledSlot] at h
      simp [ActionServicesMuxServer.call, routeActiveGoal, h]
  | complete goal status pdu =>
      simp only [calledSlot] at h
      simp [ActionServicesMuxServer.call, complete, h]

/-- The inputs of a connection with a call that ends no Goal. -/
theorem callInputs_continues {net : SendOracle} {name : String}
    {call : MuxCall} {called : ConnectionSlot}
    (h : s.calledSlot name call = some called)
    (hcompletes : call.completes = false) :
    s.callInputs R net name call slot =
      if called.number = slot.number then
        [.call net name (call.routed called.disconnected)]
      else [] := by
  simp [callInputs, h, hcompletes]

/-- A connection when the services of one are called. -/
theorem slotAt_callServer {called : ConnectionSlot}
    (hcalled : s.slotAt called.number = some called)
    (hfound : s.slotAt slot.number = some slot) (net : SendOracle)
    (name : String) (c : ServerCall) :
    (callServer R s net called name c).state.slotAt slot.number =
      some
        { slot with
          server := (serverMachine R).run slot.server
            (if called.number = slot.number then [.call net name c]
              else []) } := by
  by_cases hk : called.number = slot.number
  · obtain rfl : called = slot := eq_of_number hfound hcalled hk
    rw [slotAt_callServer_self hcalled net name c, if_pos rfl]
    rfl
  · rw [slotAt_callServer_of_ne net called name c (Ne.symm hk), hfound,
      if_neg hk]
    rfl

/-- Calls do not change which connection is taken with an id. -/
theorem orphanedSlot_callServer (hwf : s.WellFormed) (net : SendOracle)
    (called : ConnectionSlot) (name : String) (c : ServerCall) (id : UInt64) :
    ((callServer R s net called name c).state.orphanedSlot id).map
        (·.number) = (s.orphanedSlot id).map (·.number) := by
  unfold orphanedSlot
  simp only [callServer, withServer, modifySlot]
  rw [modifyFirst_eq_map hwf.numbers, lookup_map]
  · rw [Option.map_map]
    refine congrArg (fun f => Option.map f _) (funext fun slot => ?_)
    dsimp only [Function.comp]
    split_ifs <;> rfl
  · intro slot
    split_ifs <;> rfl

/-- A connection when a Goal is ended. -/
theorem complete_routed (hwf : s.WellFormed) {called : ConnectionSlot}
    {name : String} {goal : ServerGoalHandle}
    (h : s.activeSlot name goal.goalId = some called)
    (hfound : s.slotAt slot.number = some slot) (net : SendOracle)
    (status : TerminalStatus) (pdu : PduData) :
    ∃ slot', (s.complete R net name goal status pdu).state.slotAt
        slot.number = some slot' ∧
      slot'.server = (serverMachine R).run slot.server
        (s.callInputs R net name (.complete goal status pdu) slot) ∧
      slot'.disconnected = slot.disconnected := by
  have hcalled := (activeSlot_eq_some h).slotAt_eq hwf
  have hrouted : s.calledSlot name (.complete goal status pdu) =
    some called := h
  simp only [callInputs, hrouted, MuxCall.routed, MuxCall.completes, true_and,
    ActionServicesMuxServer.call, complete, h]
  generalize (if called.disconnected = true then
      ServerCall.completeLocally goal status pdu
    else .complete goal status pdu) = c
  have hself := slotAt_callServer (R := R) hcalled hfound net name c
  have hresult : (callServer R s net called name c).result =
    (called.server.call R net name c).result := rfl
  cases hok : (called.server.call R net name c).result with
  | false =>
      rw [hok] at hresult
      simp only [hresult, Bool.false_eq_true, if_false, false_and,
        List.append_nil]
      exact ⟨_, hself, rfl, rfl⟩
  | true =>
      rw [hok] at hresult
      have hupdate : SlotUpdate s
          ((callServer R s net called name c).state.removeOwner name
            goal.goalId) called _ :=
        callServer_update hwf hcalled net name c rfl rfl
      have hself' : ((callServer R s net called name c).state.removeOwner name
          goal.goalId).slotAt slot.number = _ := hself
      have hlast : (((callServer R s net called name c).state.removeOwner name
          goal.goalId).orphanedSlot called.connectionId).map (·.number) = _ :=
        orphanedSlot_callServer hwf net called name c called.connectionId
      have hreclaimed := slotAt_reclaimOrphanedSlot (hupdate.wellFormed_of hwf
        ((map_key_removeFirst_sublist _ _).nodup hwf.keys))
        called.connectionId slot.number
      simp only [hself', Option.map_some, hlast] at hreclaimed
      simp only [hresult, if_true, true_and, owners_reclaimOrphanedSlot]
      refine ⟨_, hreclaimed, ?_, ?_⟩
      · rw [Machine.run_append]
        split_ifs <;> rfl
      · split_ifs <;> rfl

/-- What a connection makes of a call: only the called services are called, and
only an orphaned connection is reset. -/
theorem call_routed (hwf : s.WellFormed) {called : ConnectionSlot}
    {name : String} {call : MuxCall}
    (h : s.calledSlot name call = some called)
    (hfound : s.slotAt slot.number = some slot) (net : SendOracle) :
    ∃ slot', (s.call R net name call).state.slotAt slot.number =
        some slot' ∧
      slot'.server = (serverMachine R).run slot.server
        (s.callInputs R net name call slot) ∧
      slot'.disconnected = slot.disconnected := by
  have hself := slotAt_callServer (R := R) (calledSlot_found hwf h) hfound net
    name
  cases call with
  | acceptGoal goal =>
      rw [callInputs_continues h rfl]
      simp only [calledSlot] at h
      simp only [ActionServicesMuxServer.call, acceptGoal, h]
      refine ⟨_, Eq.trans ?_ (hself _), rfl, rfl⟩
      split_ifs <;> rfl
  | rejectGoal goal =>
      rw [callInputs_continues h rfl]
      simp only [calledSlot] at h
      simp only [ActionServicesMuxServer.call, rejectGoal, h]
      refine ⟨_, Eq.trans ?_ (hself _), rfl, rfl⟩
      split_ifs <;> rfl
  | acceptCancel goal =>
      rw [callInputs_continues h rfl]
      simp only [calledSlot] at h
      simp only [ActionServicesMuxServer.call, routeActiveGoal, h]
      exact ⟨_, hself _, rfl, rfl⟩
  | rejectCancel goal =>
      rw [callInputs_continues h rfl]
      simp only [calledSlot] at h
      simp only [ActionServicesMuxServer.call, routeActiveGoal, h]
      exact ⟨_, hself _, rfl, rfl⟩
  | sendFeedback goal pdu =>
      rw [callInputs_continues h rfl]
      obtain ⟨hactive, hconnected⟩ := Option.filter_eq_some_iff.mp h
      have hlive : ¬called.disconnected = true := by simpa using hconnected
      simp only [ActionServicesMuxServer.call, sendFeedback, hactive, if_neg
        hlive]
      exact ⟨_, hself _, rfl, rfl⟩
  | complete goal status pdu =>
      exact complete_routed hwf h hfound net status pdu

/-- A routed call shows what the called services show. -/
theorem call_effects {called : ConnectionSlot} {name : String}
    {call : MuxCall} (h : s.calledSlot name call = some called)
    (net : SendOracle) :
    (s.call R net name call).effects =
      (called.server.call R net name
        (call.routed called.disconnected)).effects.map (fun seen =>
          .connection called.number seen.1 seen.2) := by
  cases call with
  | acceptGoal goal =>
      simp only [calledSlot] at h
      simp only [ActionServicesMuxServer.call, acceptGoal, h]
      rfl
  | rejectGoal goal =>
      simp only [calledSlot] at h
      simp only [ActionServicesMuxServer.call, rejectGoal, h]
      rfl
  | acceptCancel goal =>
      simp only [calledSlot] at h
      simp only [ActionServicesMuxServer.call, routeActiveGoal, h]
      rfl
  | rejectCancel goal =>
      simp only [calledSlot] at h
      simp only [ActionServicesMuxServer.call, routeActiveGoal, h]
      rfl
  | sendFeedback goal pdu =>
      obtain ⟨hactive, hconnected⟩ := Option.filter_eq_some_iff.mp h
      have hlive : ¬called.disconnected = true := by simpa using hconnected
      simp only [ActionServicesMuxServer.call, sendFeedback, hactive, if_neg
        hlive]
      rfl
  | complete goal status pdu =>
      simp only [calledSlot] at h
      simp only [ActionServicesMuxServer.call, complete, h]
      rfl

/-- The inputs of a connection with a call. -/
theorem mem_callInputs {net : SendOracle} {name : String} {call : MuxCall}
    {i : ServerInput} (hi : i ∈ s.callInputs R net name call slot) :
    (∃ called, s.calledSlot name call = some called ∧
        called.number = slot.number ∧
        i = .call net name (call.routed called.disconnected)) ∨
      i = .clearAllInstances ∧
        ∃ c, (s.orphanedSlot c).map (·.number) = some slot.number := by
  unfold callInputs at hi
  split at hi
  · simp at hi
  · next called hcalled =>
      rcases List.mem_append.mp hi with hi | hi
      · split_ifs at hi with hk
        · exact Or.inl ⟨called, hcalled, hk, List.mem_singleton.mp hi⟩
        · simp at hi
      · split_ifs at hi with hcleared
        · exact Or.inr ⟨List.mem_singleton.mp hi, _, hcleared.2.2.2⟩
        · simp at hi

/-- The services of a connection that is not orphaned are only called. -/
theorem mem_callInputs_live (hwf : s.WellFormed)
    (hfound : s.slotAt slot.number = some slot)
    (horphaned : slot.orphaned = false) {net : SendOracle} {name : String}
    {call : MuxCall} {i : ServerInput}
    (hi : i ∈ s.callInputs R net name call slot) :
    i = .call net name (call.routed slot.disconnected) := by
  obtain ⟨called, hcalled, hk, rfl⟩ | ⟨-, c, hlast⟩ := mem_callInputs hi
  · rw [eq_of_number hfound (calledSlot_found hwf hcalled) hk]
  · rw [orphaned_of_orphanedSlot hwf hfound hlast] at horphaned
    simp at horphaned

/-- A connection whose slot is rewritten by the transport. -/
theorem slotAt_modifySlot_self (hfound : s.slotAt slot.number = some slot)
    {f : ConnectionSlot → ConnectionSlot}
    (hf : ∀ slot, (f slot).number = slot.number) (k : ℕ) :
    (s.modifySlot k f).slotAt slot.number =
      some (if k = slot.number then f slot else slot) := by
  rw [slotAt_modifySlot hf]
  by_cases hk : slot.number = k
  · subst hk
    rw [if_pos rfl, if_pos rfl, hfound]
    rfl
  · rw [if_neg hk, if_neg (Ne.symm hk)]
    exact hfound

theorem serves_transport (hfound : s.slotAt slot.number = some slot)
    (event : TransportEvent) :
    Serves R (event ≠ .disconnect slot.number) (s.transport event) slot
      (s.connectionInputs R slot (.transport event)) [] := by
  cases event with
  | receive k key data =>
      have hafter := slotAt_modifySlot_self hfound
        (f := fun slot => { slot with server := slot.server.receive key data })
        (by intro slot; rfl) k
      simp only [connectionInputs]
      by_cases hk : k = slot.number
      · rw [if_pos hk] at hafter ⊢
        exact ⟨⟨_, hafter, rfl, fun _ => rfl⟩, rfl⟩
      · rw [if_neg hk] at hafter ⊢
        exact .idle hafter rfl
  | disconnect k =>
      have hafter := slotAt_modifySlot_self hfound
        (f := fun slot => { slot with disconnected := true })
        (by intro slot; rfl) k
      refine ⟨⟨_, hafter, ?_, ?_⟩, rfl⟩
      · split_ifs <;> rfl
      · intro hkept
        rw [if_neg fun hk => hkept (by rw [hk])]

theorem serves_acceptConnection {kept : Prop}
    (hfound : s.slotAt slot.number = some slot) (capacity : ℕ)
    (document : Option Json) :
    Serves R kept (s.acceptConnection R capacity document).state slot []
      (s.acceptConnection R capacity document).effects := by
  have hquiet : connectionTrace slot.number
      (s.acceptConnection R capacity document).effects = [] := by
    unfold acceptConnection
    split
    · rfl
    · cases document with
      | none => rfl
      | some root =>
          dsimp only
          split <;> rfl
  refine .idle ?_ hquiet
  unfold acceptConnection
  split_ifs
  · exact hfound
  · cases document with
    | none => exact hfound
    | some root =>
        dsimp only
        split_ifs
        · unfold slotAt at hfound ⊢
          dsimp only
          rw [lookup_append_singleton, hfound]
          rfl
        · exact hfound

theorem serves_processSlot {kept : Prop}
    (hfound : s.slotAt slot.number = some slot) (k : ℕ) :
    Serves R kept (s.processSlot R k).state slot
      (s.connectionInputs R slot (.processSlot k))
      (s.processSlot R k).effects := by
  have hquiet : connectionTrace slot.number (s.processSlot R k).effects =
      [] := by
    unfold processSlot
    split
    · rfl
    · split_ifs <;> rfl
  simp only [connectionInputs]
  by_cases hk : k = slot.number
  · subst hk
    rw [if_pos rfl]
    unfold processInputs
    by_cases hskip : ¬slot.disconnected ∨ slot.disconnectProcessed
    · rw [if_pos hskip]
      refine .idle ?_ hquiet
      simp only [processSlot, hfound, if_pos hskip]
    · rw [if_neg hskip]
      refine ⟨⟨_, slotAt_processSlot_self hfound hskip, ?_, ?_⟩, ?_⟩
      · rw [Machine.run_append, ActionServicesServer.run_discardInputs]
        split_ifs <;> rfl
      · intro _
        split_ifs <;> rfl
      · rw [hquiet, Machine.trace_append, List.filter_append,
          ActionServicesServer.filter_told_discardInputs]
        split_ifs <;> rfl
  · rw [if_neg hk]
    exact .idle ((slotAt_processSlot_of_ne (Ne.symm hk)).trans hfound) hquiet

theorem slotAt_withServer {k : ℕ} (hfound : s.slotAt k = some slot)
    (server : ActionServicesServer) :
    (s.withServer k server).slotAt k =
      some { slot with server := server } := by
  refine (slotAt_modifySlot (by intro slot; rfl) _ _).trans ?_
  rw [if_pos rfl, hfound]
  rfl

theorem connectionTrace_pollSlot_of_ne {k k' : ℕ} (hk : k' ≠ k)
    (poll reject : SendOracle) :
    connectionTrace k' (s.pollSlot R k poll reject).effects = [] := by
  have hother (effects : List (String × ServerObs)) :
      connectionTrace k' (effects.map fun seen =>
        MuxObs.connection k seen.1 seen.2) = [] := by
    rw [connectionTrace_map, if_neg (Ne.symm hk)]
  unfold pollSlot
  split
  · rfl
  · split_ifs
    · rfl
    · dsimp only
      split
      · exact hother _
      · split_ifs
        · rw [connectionTrace_append, hother]
          rfl
        · rw [connectionTrace_append, hother, hother]
          rfl
        · rw [connectionTrace_append, hother]
          rfl

theorem serves_pollSlot {kept : Prop}
    (hfound : s.slotAt slot.number = some slot) (k : ℕ)
    (poll reject : SendOracle) :
    Serves R kept (s.pollSlot R k poll reject).state slot
      (s.connectionInputs R slot (.pollSlot k poll reject))
      (s.pollSlot R k poll reject).effects := by
  simp only [connectionInputs]
  by_cases hk : k = slot.number
  · subst hk
    rw [if_pos rfl]
    have hself (effects : List (String × ServerObs)) :
        connectionTrace slot.number (effects.map fun seen =>
          MuxObs.connection slot.number seen.1 seen.2) = effects := by
      rw [connectionTrace_map, if_pos rfl]
    have htold {is : List ServerInput} (his : ∀ i ∈ is, i.Told) :=
      (ActionServicesServer.filter_told (R := R) slot.server his).symm
    unfold pollSlot pollSlotInputs
    simp only [hfound]
    by_cases hretired : slot.retired = true
    · rw [if_pos hretired, if_pos hretired]
      exact .idle hfound rfl
    · rw [if_neg hretired, if_neg hretired]
      have hpolled := slotAt_withServer hfound
        (slot.server.poll R poll).state
      have hpollTold : ∀ i ∈ [ServerInput.poll poll], i.Told := by
        simp [ServerInput.Told]
      cases hresult : (slot.server.poll R poll).result with
      | none =>
          refine ⟨⟨_, hpolled, rfl, fun _ => rfl⟩, ?_⟩
          rw [← htold hpollTold, Machine.trace_cons, Machine.trace_nil,
            List.append_nil]
          exact hself _
      | some reported =>
          obtain ⟨name, event⟩ := reported
          dsimp only
          by_cases hother : event.type ≠ .goalRequest
          · rw [if_pos hother, if_neg (fun h => hother h.1)]
            refine ⟨⟨_, hpolled, rfl, fun _ => rfl⟩, ?_⟩
            rw [← htold hpollTold, Machine.trace_cons, Machine.trace_nil,
              List.append_nil, connectionTrace_append, hself]
            exact List.append_nil _
          · rw [if_neg hother]
            by_cases howned : (s.findOwner name event.goal.goalId).isSome = true
            · have hrequest := not_not.mp hother
              have howned' : ((s.withServer slot.number
                  (slot.server.poll R poll).state).findOwner name
                    event.goal.goalId).isSome = true := howned
              rw [if_pos howned', if_pos ⟨hrequest, howned⟩]
              refine ⟨⟨_, slotAt_withServer hpolled _, rfl, fun _ => rfl⟩, ?_⟩
              rw [← htold (by simp [ServerInput.Told])]
              simp only [connectionTrace_append, hself, Machine.trace_cons,
                Machine.trace_nil, List.append_nil]
              rfl
            · have howned' : ¬((s.withServer slot.number
                  (slot.server.poll R poll).state).findOwner name
                    event.goal.goalId).isSome = true := howned
              rw [if_neg howned', if_neg fun h => howned h.2]
              refine ⟨⟨_, hpolled, rfl, fun _ => rfl⟩, ?_⟩
              rw [← htold hpollTold, Machine.trace_cons, Machine.trace_nil,
                List.append_nil, connectionTrace_append, hself]
              exact List.append_nil _
  · rw [if_neg hk]
    exact .idle ((slotAt_pollSlot_of_ne (Ne.symm hk) poll reject).trans
      hfound) (connectionTrace_pollSlot_of_ne (Ne.symm hk) poll reject)

theorem serves_call {kept : Prop} (hwf : s.WellFormed)
    (hfound : s.slotAt slot.number = some slot) (net : SendOracle)
    (name : String) (call : MuxCall) :
    Serves R kept (s.call R net name call).state slot
      (s.connectionInputs R slot (.call net name call))
      ((s.call R net name call).effects ++
        [.returned name call (s.call R net name call).result]) := by
  simp only [connectionInputs]
  cases hcalled : s.calledSlot name call with
  | none =>
      obtain ⟨hstate, heffects⟩ := call_unrouted (R := R) hcalled net
      rw [hstate, heffects, callInputs, hcalled]
      exact .idle hfound rfl
  | some called =>
      obtain ⟨slot', hslot', hserver, hconnected⟩ :=
        call_routed (R := R) hwf hcalled hfound net
      refine ⟨⟨slot', hslot', hserver, fun _ => hconnected⟩, ?_⟩
      have htold : ∀ i ∈ s.callInputs R net name call slot, i.Told := by
        intro i hi
        obtain ⟨called, -, -, rfl⟩ | ⟨rfl, -⟩ := mem_callInputs hi
        · exact discard_told call _ net name
        · trivial
      rw [ActionServicesServer.filter_told _ htold, connectionTrace_append,
        call_effects hcalled, connectionTrace_map, callInputs, hcalled,
        Machine.trace_append]
      -- neither the reset nor the answer of the call is seen
      have hcleared (p : Prop) [Decidable p] (server : ActionServicesServer) :
          (serverMachine R).trace server
            (if p then [.clearAllInstances] else []) = [] := by
        split_ifs <;> rfl
      have hreturned : connectionTrace slot.number
          [.returned name call (s.call R net name call).result] = [] := rfl
      rw [hreturned, hcleared, List.append_nil, List.append_nil]
      by_cases hk : called.number = slot.number
      · obtain rfl : called = slot :=
          eq_of_number hfound (calledSlot_found hwf hcalled) hk
        rw [if_pos rfl, if_pos rfl]
        exact (List.append_nil _).symm
      · rw [if_neg hk, if_neg hk]
        rfl

/-- The services of a connection make, with every small step, the steps of a
server by itself, and show what it shows. -/
theorem step_connection (hwf : s.WellFormed)
    (hfound : s.slotAt slot.number = some slot) {j : MuxStep}
    (hj : j ≠ .stop) :
    Serves R (j ≠ .transport (.disconnect slot.number))
      ((muxStepMachine R).step s j).1 slot
      (s.connectionInputs R slot j) ((muxStepMachine R).step s j).2 := by
  cases j with
  | transport event =>
      obtain ⟨⟨slot', hslot', hserver, hkept⟩, htrace⟩ :=
        serves_transport (R := R) hfound event
      exact ⟨⟨slot', hslot', hserver, fun hj => hkept fun heq => hj
        (congrArg _ heq)⟩, htrace⟩
  | acceptConnection capacity document =>
      exact serves_acceptConnection hfound capacity document
  | processSlot k => exact serves_processSlot hfound k
  | pollSlot k poll reject => exact serves_pollSlot hfound k poll reject
  | call net name call => exact serves_call hwf hfound net name call
  | opened expectedCount =>
      refine .idle ?_ rfl
      simp only [muxStepMachine, initializeMux]
      repeat' (first | exact hfound | split)
  | started ok =>
      refine .idle ?_ rfl
      simp only [muxStepMachine, startMux]
      repeat' (first | exact hfound | split)
  | stop => exact absurd rfl hj

/-- Nothing is seen of a connection that is not there. -/
theorem connectionTrace_absent (hwf : s.WellFormed) {k : ℕ}
    (hnone : s.slotAt k = none) (j : MuxStep) :
    connectionTrace k ((muxStepMachine R).step s j).2 = [] := by
  cases j with
  | transport event => rfl
  | acceptConnection capacity document =>
      simp only [muxStepMachine, acceptConnection]
      split
      · rfl
      · cases document with
        | none => rfl
        | some root =>
            dsimp only
            split <;> rfl
  | processSlot k' =>
      simp only [muxStepMachine, processSlot]
      split
      · rfl
      · split_ifs <;> rfl
  | pollSlot k' poll reject =>
      by_cases hk : k = k'
      · subst hk
        simp only [muxStepMachine, pollSlot, hnone]
        rfl
      · exact connectionTrace_pollSlot_of_ne hk poll reject
  | call net name call =>
      simp only [muxStepMachine, connectionTrace_append]
      refine List.append_eq_nil_iff.mpr ⟨?_, rfl⟩
      cases hcalled : s.calledSlot name call with
      | none =>
          rw [(call_unrouted (R := R) hcalled net).2]
          rfl
      | some called =>
          have hfound := calledSlot_found hwf hcalled
          rw [call_effects hcalled, connectionTrace_map, if_neg]
          rintro rfl
          rw [hnone] at hfound
          cases hfound
  | opened expectedCount => rfl
  | started ok => rfl
  | stop => rfl

/-- The configuration of the server does not change. -/
theorem config_step (s : ActionServicesMuxServer) (j : MuxStep) :
    ((muxStepMachine R).step s j).1.nodeId = s.nodeId ∧
      ((muxStepMachine R).step s j).1.implType = s.implType := by
  have hcall (t : ActionServicesMuxServer) (c : UInt64) :
      (t.reclaimOrphanedSlot c).nodeId = t.nodeId ∧
        (t.reclaimOrphanedSlot c).implType = t.implType := by
    unfold reclaimOrphanedSlot
    split_ifs <;> exact ⟨rfl, rfl⟩
  cases j with
  | transport event => cases event <;> exact ⟨rfl, rfl⟩
  | acceptConnection capacity document =>
      simp only [muxStepMachine, acceptConnection]
      split
      · exact ⟨rfl, rfl⟩
      · cases document with
        | none => exact ⟨rfl, rfl⟩
        | some root =>
            dsimp only
            split <;> exact ⟨rfl, rfl⟩
  | processSlot k =>
      simp only [muxStepMachine, processSlot]
      split
      · exact ⟨rfl, rfl⟩
      · split <;> exact ⟨rfl, rfl⟩
  | pollSlot k poll reject =>
      simp only [muxStepMachine, pollSlot]
      repeat' (first | exact ⟨rfl, rfl⟩ | split)
  | call net name call =>
      cases call with
      | complete goal status pdu =>
          simp only [muxStepMachine, ActionServicesMuxServer.call, complete]
          repeat' (first | exact ⟨rfl, rfl⟩ | exact hcall _ _ | split)
      | acceptGoal | rejectGoal | acceptCancel | rejectCancel | sendFeedback =>
          simp only [muxStepMachine, ActionServicesMuxServer.call, acceptGoal,
            rejectGoal, routeActiveGoal, sendFeedback]
          repeat' (first | exact ⟨rfl, rfl⟩ | split)
  | opened expectedCount =>
      simp only [muxStepMachine, initializeMux]
      repeat' (first | exact ⟨rfl, rfl⟩ | split)
  | started ok =>
      simp only [muxStepMachine, startMux]
      repeat' (first | exact ⟨rfl, rfl⟩ | split)
  | stop => exact ⟨rfl, rfl⟩

end ActionServicesMuxServer

/-! ## Runs of a connection -/

/-- What the services see of a connection until its disconnect is handled:
packets, polls and calls. -/
def ServerInput.Serving : ServerInput → Prop
  | .receive _ _ => True
  | .poll _ => True
  | .call _ _ (.discardPendingGoal _) => False
  | .call _ _ _ => True
  | .stopAllServices => False
  | .clearAllInstances => False
  | .notifyTransportDisconnected => False

theorem ServerInput.Serving.told {i : ServerInput} (h : i.Serving) :
    i.Told := by
  cases i with
  | call net name c => cases c <;> trivial
  | receive | poll | stopAllServices | clearAllInstances
  | notifyTransportDisconnected => trivial

namespace ActionServicesMuxServer

variable {R : PduRegistry} {s : ActionServicesMuxServer}
  {slot : ConnectionSlot}

theorem serving_routed (call : MuxCall) (disconnected : Bool)
    (net : SendOracle) (name : String) :
    (ServerInput.call net name (call.routed disconnected)).Serving := by
  cases call with
  | complete goal status pdu => cases disconnected <;> trivial
  | acceptGoal | rejectGoal | acceptCancel | rejectCancel | sendFeedback =>
      trivial

/-- Only the handling of a disconnect does more than serve. -/
theorem serving_inputs (hs : s.Accounts)
    (hfound : s.slotAt slot.number = some slot)
    (hunprocessed : slot.disconnectProcessed = false) {j : MuxStep}
    (hj : j ≠ .processSlot slot.number ∨ slot.disconnected = false) :
    ∀ i ∈ s.connectionInputs R slot j, i.Serving := by
  intro i hi
  have horphaned := ((hs.accounted hfound).unprocessed hunprocessed).1
  cases j with
  | transport event =>
      cases event with
      | receive k key data =>
          simp only [connectionInputs] at hi
          split_ifs at hi
          · rw [List.mem_singleton.mp hi]
            trivial
          · simp at hi
      | disconnect k => simp [connectionInputs] at hi
  | processSlot k =>
      simp only [connectionInputs] at hi
      split_ifs at hi with hk
      · subst hk
        have hconnected : slot.disconnected = false := by
          simpa using hj
        simp [processInputs, hconnected] at hi
      · simp at hi
  | pollSlot k poll reject =>
      simp only [connectionInputs] at hi
      split_ifs at hi
      · unfold pollSlotInputs at hi
        split_ifs at hi
        · simp at hi
        · rcases List.mem_cons.mp hi with rfl | hi
          · trivial
          · split at hi
            · simp at hi
            · split_ifs at hi
              · rw [List.mem_singleton.mp hi]
                trivial
              · simp at hi
      · simp at hi
  | call net name call =>
      rw [mem_callInputs_live hs.toWellFormed hfound horphaned hi]
      exact serving_routed call _ net name
  | acceptConnection | opened | started | stop =>
      simp [connectionInputs] at hi

/-- A connection is there and has made the run `is` of a server that was started
with the document `root`. -/
structure Served (R : PduRegistry) (start s : ActionServicesMuxServer)
    (past : List MuxObs) (k : ℕ) (root : Json) (is : List ServerInput) :
    Prop where
  trace_eq : connectionTrace k past =
    ((serverMachine R).trace (startedServer R start.nodeId start.implType
      (fun _ => true) root) is).filter told
  known : k < s.issued
  server_eq : ∀ slot, s.slotAt k = some slot →
    slot.server = (serverMachine R).run (startedServer R start.nodeId
      start.implType (fun _ => true) root) is
  serving : ∀ slot, s.slotAt k = some slot →
    slot.disconnectProcessed = false → ∀ i ∈ is, i.Serving

/-- What holds of every connection in the course of a run; `D` holds of the
documents that are read. -/
structure Connections (R : PduRegistry) (D : Json → Prop)
    (start s : ActionServicesMuxServer) (past : List MuxObs) : Prop extends
    Accounts s where
  nodeId_eq : s.nodeId = start.nodeId
  implType_eq : s.implType = start.implType
  connection : ∀ k, (s.slotAt k = none ∧ connectionTrace k past = []) ∨
    ∃ root is, D root ∧ Served R start s past k root is

/-- The documents that a step reads satisfy `D`. -/
def Reads (D : Json → Prop) (_ : ActionServicesMuxServer) (j : MuxStep) :
    Prop :=
  ∀ capacity root, j = .acceptConnection capacity (some root) → D root

theorem processed_step (hs : s.Accounts) {j : MuxStep} {k : ℕ}
    {slot slot' : ConnectionSlot} (hfound : s.slotAt k = some slot)
    (hfound' : ((muxStepMachine R).step s j).1.slotAt k = some slot')
    (hunprocessed : slot'.disconnectProcessed = false) :
    slot.disconnectProcessed = false ∧
      (j ≠ .processSlot slot.number ∨ slot.disconnected = false) := by
  have hprocessed : slot.disconnectProcessed = false := by
    obtain ⟨slot₀, hslot₀, hstep⟩ | ⟨capacity, root, -, hk, -⟩ :=
      slotAt_step hs j hfound'
    · rw [hfound, Option.some.injEq] at hslot₀
      subst hslot₀
      cases hstep <;> first | exact hunprocessed | simp at hunprocessed
    · have hlt := hs.fresh hfound
      omega
  refine ⟨hprocessed, ?_⟩
  by_contra h
  rw [not_or, not_not, Bool.not_eq_false] at h
  obtain ⟨rfl, hdisconnected⟩ := h
  have hnumber := slotAt_number hfound
  subst hnumber
  have hafter := slotAt_processSlot_self (R := R) hfound
    (by simp [hdisconnected, hprocessed])
  have hsame : some slot' = _ := hfound'.symm.trans hafter
  rw [Option.some.injEq] at hsame
  rw [hsame] at hunprocessed
  split_ifs at hunprocessed

theorem connections_constructed (R : PduRegistry) (D : Json → Prop)
    (nodeId actionConfigPath endpointMuxConfigPath implType : String)
    (deltaTimeUsec : UInt64) :
    let start := constructed nodeId actionConfigPath endpointMuxConfigPath
      implType deltaTimeUsec
    Connections R D start start [] where
  toAccounts := accounts_constructed nodeId actionConfigPath
    endpointMuxConfigPath implType deltaTimeUsec
  nodeId_eq := rfl
  implType_eq := rfl
  connection k := Or.inl ⟨by simp [constructed, slotAt], rfl⟩

/-- A connection that made a run of a server goes on with it. -/
theorem Served.step {start : ActionServicesMuxServer} {past : List MuxObs}
    {k : ℕ} {root : Json} {is : List ServerInput} (hs : s.Accounts)
    (h : Served R start s past k root is) (j : MuxStep) :
    ∃ js, Served R start ((muxStepMachine R).step s j).1
      (past ++ ((muxStepMachine R).step s j).2) k root js := by
  have hnext : s.issued ≤
      ((muxStepMachine R).step s j).1.issued := by
    have hcase : StepCase False s ((muxStepMachine R).step s j).1
        ((muxStepMachine R).step s j).2 :=
      step_cases hs.toWellFormed j False.elim
    exact hcase.issued_le
  have hknown := h.known.trans_le hnext
  cases hfound : s.slotAt k with
  | none =>
      -- the server was stopped: the connection does not come back
      have hgone : ((muxStepMachine R).step s j).1.slotAt k = none := by
        by_contra hne
        obtain ⟨slot', hslot'⟩ := Option.ne_none_iff_exists'.mp hne
        obtain ⟨capacity, root, -, hk, -⟩ :=
          slotAt_of_new hs j hfound hslot'
        exact absurd h.known (hk ▸ lt_irrefl _)
      refine ⟨is, ?_, hknown, ?_, ?_⟩
      · rw [connectionTrace_append, connectionTrace_absent hs.toWellFormed
          hfound, List.append_nil]
        exact h.trace_eq
      · simp [hgone]
      · simp [hgone]
  | some slot =>
      have hid := slotAt_number hfound
      subst hid
      by_cases hj : j = .stop
      · subst hj
        refine ⟨is, ?_, hknown, ?_, ?_⟩
        · rw [connectionTrace_append]
          exact (List.append_nil _).trans h.trace_eq
        · intro slot' hslot'
          simp [muxStepMachine, stop, slotAt] at hslot'
        · intro slot' hslot'
          simp [muxStepMachine, stop, slotAt] at hslot'
      · obtain ⟨⟨slot', hslot', hserver', -⟩, htrace⟩ :=
          step_connection (R := R) hs.toWellFormed hfound hj
        have hserver := h.server_eq slot hfound
        refine ⟨is ++ s.connectionInputs R slot j, ?_, hknown, ?_, ?_⟩
        · rw [connectionTrace_append, h.trace_eq, htrace,
            Machine.trace_append, List.filter_append, hserver]
        · intro slot'' hslot''
          rw [hslot', Option.some.injEq] at hslot''
          rw [← hslot'', hserver', Machine.run_append, hserver]
        · intro slot'' hslot'' hunprocessed i hi
          obtain ⟨hbefore, hj'⟩ := processed_step hs hfound hslot''
            hunprocessed
          rcases List.mem_append.mp hi with hi | hi
          · exact h.serving slot hfound hbefore i hi
          · exact serving_inputs hs hfound hbefore hj' i hi

theorem Connections.step {D : Json → Prop} {start : ActionServicesMuxServer}
    {past : List MuxObs} (h : Connections R D start s past) {j : MuxStep}
    (hj : Reads D s j) :
    Connections R D start ((muxStepMachine R).step s j).1
      (past ++ ((muxStepMachine R).step s j).2) where
  toAccounts := h.toAccounts.step j
  nodeId_eq := (config_step s j).1.trans h.nodeId_eq
  implType_eq := (config_step s j).2.trans h.implType_eq
  connection k := by
    obtain ⟨hnone, htrace⟩ | ⟨root, is, hroot, hserved⟩ := h.connection k
    · have htrace' : connectionTrace k
          (past ++ ((muxStepMachine R).step s j).2) = [] := by
        rw [connectionTrace_append, htrace,
          connectionTrace_absent h.toWellFormed hnone, List.append_nil]
      cases hfound : ((muxStepMachine R).step s j).1.slotAt k with
      | none => exact Or.inl ⟨rfl, htrace'⟩
      | some slot =>
          obtain ⟨capacity, root, hread, -, hslot⟩ :=
            slotAt_of_new h.toAccounts j hnone hfound
          refine Or.inr ⟨root, [], hj capacity root hread, htrace', ?_, ?_, ?_⟩
          · exact (h.toAccounts.step j).fresh hfound
          · intro slot' hslot'
            rw [hfound, Option.some.injEq] at hslot'
            rw [← hslot', hslot, h.nodeId_eq, h.implType_eq]
            rfl
          · simp
    · obtain ⟨js, hjs⟩ := hserved.step h.toAccounts j
      exact Or.inr ⟨root, js, hroot, hjs⟩

theorem Connections.run {D : Json → Prop} {start : ActionServicesMuxServer}
    (h : Connections R D start start []) {js : List MuxStep}
    (hjs : (muxStepMachine R).Along (Reads D) start js) :
    Connections R D start ((muxStepMachine R).run start js)
      ((muxStepMachine R).trace start js) :=
  (muxStepMachine R).trace_invariant
    (I := fun s past => Connections R D start s past)
    (fun _ _ _ hj hs => hs.step hj) h hjs

end ActionServicesMuxServer

/-- The documents that are read for the connections that come with an input. -/
def MuxInput.documents : MuxInput → List Json
  | .poll env => env.arrivals.filterMap (·.document)
  | .transport _ | .call _ _ _ | .opened _ | .started _ | .stop => []

namespace ActionServicesMuxServer

variable {R : PduRegistry}

theorem reads_pollSteps {env : ℕ → SlotEnv} {s : ActionServicesMuxServer}
    {numbers : List ℕ} {capacity : ℕ} {root : Json} :
    .acceptConnection capacity (some root) ∉ pollSteps R env s numbers := by
  induction numbers generalizing s with
  | nil => simp [pollSteps]
  | cons k rest ih =>
      rw [pollSteps]
      split
      · simp
      · simpa using ih

theorem reads_steps {s : ActionServicesMuxServer} {i : MuxInput}
    {capacity : ℕ} {root : Json}
    (h : .acceptConnection capacity (some root) ∈ steps R s i) :
    root ∈ i.documents := by
  have hpass (t : ActionServicesMuxServer) (events : List TransportEvent) :
      .acceptConnection capacity (some root) ∉ passSteps t events := by
    simp [passSteps]
  cases i with
  | poll env =>
      simp only [steps] at h
      split at h
      · simp at h
      · split at h
        · simp at h
        · next expectedCount _ _ =>
            have hmem : .acceptConnection capacity (some root) ∈
                acceptSteps expectedCount env.arrivals := by
              rw [List.mem_append, List.mem_append, List.mem_append] at h
              obtain ((h | h) | h) | h := h
              · exact h
              · exact absurd h (hpass _ _)
              · exact absurd h reads_pollSteps
              · split at h
                · simp at h
                · exact absurd h (hpass _ _)
            simp only [acceptSteps, List.mem_flatMap, List.mem_append,
              List.mem_map, reduceCtorEq, and_false, exists_false,
              false_or] at hmem
            obtain ⟨arrival, harrival, hmem⟩ := hmem
            split_ifs at hmem
            · simp only [List.mem_singleton, MuxStep.acceptConnection.injEq]
                at hmem
              exact List.mem_filterMap.mpr
                ⟨arrival, harrival, hmem.2.symm⟩
            · simp at hmem
  | transport event => simp [steps] at h
  | call net name call => simp [steps] at h
  | opened expectedCount => simp [steps] at h
  | started ok => simp [steps] at h
  | stop => simp [steps] at h

/-- Every connection of a run is served by itself. -/
theorem connections_run (R : PduRegistry)
    (nodeId actionConfigPath endpointMuxConfigPath implType : String)
    (deltaTimeUsec : UInt64) (is : List MuxInput) :
    let start := constructed nodeId actionConfigPath endpointMuxConfigPath
      implType deltaTimeUsec
    Connections R (· ∈ is.flatMap MuxInput.documents) start
      ((muxMachine R).run start is) ((muxMachine R).trace start is) := by
  intro start
  have hreads : (muxMachine R).Along
      (StepsSatisfy R (Reads (· ∈ is.flatMap MuxInput.documents))) start is :=
    (muxMachine R).along_of_forall (fun i hi s =>
      (muxStepMachine R).along_of_forall (fun j hj _ capacity root hread =>
        List.mem_flatMap.mpr ⟨i, hi, reads_steps (hread ▸ hj)⟩) s) start
  obtain ⟨js, hjs, hstate, htrace⟩ := exists_steps R hreads
  rw [hstate, htrace]
  exact (connections_constructed R _ nodeId actionConfigPath
    endpointMuxConfigPath implType deltaTimeUsec).run hjs

end ActionServicesMuxServer

/-- A connection that was accepted is, from then on and whatever happens to the
others, a server of its own: the services of the connection are those that
`ActionServicesServer` reaches by itself from one of the documents read, and they
show what it shows.  As long as a disconnect of the connection has not been
handled, it only receives packets, is polled and is called. -/
theorem mux_connections_are_servers (R : PduRegistry)
    (nodeId actionConfigPath endpointMuxConfigPath implType : String)
    (deltaTimeUsec : UInt64) (is : List MuxInput) (k : ℕ) :
    let start := ActionServicesMuxServer.constructed nodeId actionConfigPath
      endpointMuxConfigPath implType deltaTimeUsec
    let s := (muxMachine R).run start is
    let trace := connectionTrace k ((muxMachine R).trace start is)
    (s.slotAt k = none ∧ trace = []) ∨
      ∃ root ∈ is.flatMap MuxInput.documents, ∃ js : List ServerInput,
        let server := startedServer R nodeId implType (fun _ => true) root
        trace = ((serverMachine R).trace server js).filter told ∧
        ∀ slot, s.slotAt k = some slot →
          slot.server = (serverMachine R).run server js ∧
          (slot.disconnectProcessed = false → ∀ i ∈ js, i.Serving) := by
  intro start s trace
  obtain ⟨hnone, htrace⟩ | ⟨root, js, hroot, hserved⟩ :=
    (ActionServicesMuxServer.connections_run R nodeId actionConfigPath
      endpointMuxConfigPath implType deltaTimeUsec is).connection k
  · exact Or.inl ⟨hnone, htrace⟩
  · exact Or.inr ⟨root, hroot, js, hserved.trace_eq, fun slot hslot =>
      ⟨hserved.server_eq slot hslot, hserved.serving slot hslot⟩⟩

end HakoPduRpc.Action
