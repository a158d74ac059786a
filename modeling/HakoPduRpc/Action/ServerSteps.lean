import HakoPduRpc.Action.ServicesServer

/-!
# What a step of the server does to one Goal

A Goal lives in two layers of the server: as a packet binding of the endpoint
and, once accepted, as a context of the services.  `ServerGoalStep` lists what a
step can do to the pair and what is seen of it; `GoalCorr` lists the pairs that
occur.

`step_cases` is the inversion lemma behind every statement about the server: a
step of an Action that satisfies the invariant changes nothing about any Goal,
or it makes one `ServerGoalStep` for one Goal and leaves all others alone.
-/

namespace HakoPduRpc.Action

open KeyedList

/-! ## The pair of layers -/

/-- The context of a Goal whose Client Cancel waits for the application. -/
def clientPending : ServerGoalContext :=
  { state := .executing, cancelDecisionPending := true,
    cancelOrigin := .client }

/-- The context of a Goal whose Runtime Cancel waits for the application. -/
def runtimePending : ServerGoalContext :=
  { state := .executing, cancelDecisionPending := true,
    cancelOrigin := .runtime }

/-- The context of a Goal that is being canceled. -/
def cancelingContext : ServerGoalContext := { state := .canceling }

/-- The context of a Goal whose Result could not be sent. -/
def finishingContext (status : TerminalStatus) : ServerGoalContext :=
  { state := .finishing, terminalStatus := status }

@[simp] theorem clientPending_cancelOrigin :
    clientPending.cancelOrigin = .client := rfl

@[simp] theorem runtimePending_cancelOrigin :
    runtimePending.cancelOrigin = .runtime := rfl

@[simp] theorem clientPending_acceptCancel :
    (transitionServerGoal clientPending .acceptCancel).next =
      cancelingContext := rfl

@[simp] theorem runtimePending_acceptCancel :
    (transitionServerGoal runtimePending .acceptCancel).next =
      cancelingContext := rfl

@[simp] theorem clientPending_rejectCancel :
    (transitionServerGoal clientPending .rejectCancel).next = {} := rfl

@[simp] theorem runtimePending_rejectCancel :
    (transitionServerGoal runtimePending .rejectCancel).next = {} := rfl

/-- The pairs of binding and context that occur. -/
inductive GoalCorr :
    Option ActionPacketBinding → Option ServerGoalContext → Prop
  | absent : GoalCorr none none
  | undecided {b : ActionPacketBinding}
      (hstate : b.state = .awaitingGoalDecision)
      (hpending : b.cancelDecisionPending = false) : GoalCorr (some b) none
  | executing {b : ActionPacketBinding} (hstate : b.state = .goalAccepted) :
      GoalCorr (some b) (some {})
  | clientPending {b : ActionPacketBinding} (hstate : b.state = .goalAccepted)
      (hpending : b.cancelDecisionPending = true) :
      GoalCorr (some b) (some clientPending)
  | runtimePending {b : ActionPacketBinding}
      (hstate : b.state = .goalAccepted) :
      GoalCorr (some b) (some runtimePending)
  | canceling {b : ActionPacketBinding} (hstate : b.state = .cancelAccepted)
      (hpending : b.cancelDecisionPending = false) :
      GoalCorr (some b) (some cancelingContext)
  | finishing {b : ActionPacketBinding} {status : TerminalStatus}
      (hstate : b.state = .resultCommitted)
      (hpending : b.cancelDecisionPending = false)
      (hstatus : status ≠ .unspecified) :
      GoalCorr (some b) (some (finishingContext status))

/-- What the log of a Goal records. -/
inductive ServerEntry
  | requested (slot : ℕ)
  | cancelRequested
  | sent (slot : ℕ) (notice : Notice) (data : PduData)
  | cancelAccepted
  | committed (status : TerminalStatus)
  | released
deriving DecidableEq

/-- The steps of one Goal on the server: binding and context before, what is
seen, what the log of the Goal records of it, binding and context after. -/
inductive ServerGoalStep (R : PduRegistry) (routing : List SlotRouting)
    (g : GoalId) :
    Option ActionPacketBinding → Option ServerGoalContext → List ServerObs →
      List ServerEntry → Option ActionPacketBinding →
      Option ServerGoalContext → Prop
  | request {slot : ℕ} {event : ServerEvent} (hslot : slot < routing.length)
      (htype : event.type = .goalRequest) (hgoal : event.goal = ⟨g⟩) :
      ServerGoalStep R routing g none none [.event (some slot) event]
        [.requested slot]
        (some { goalId := g, slotIndex := slot }) none
  | acceptGoal {b : ActionPacketBinding} {key : PduResolvedKey}
      {data : PduData} (hstate : b.state = .awaitingGoalDecision)
      (hsent : Carries R routing b.slotIndex g (.goalResponse .accepted) key
        data) :
      ServerGoalStep R routing g (some b) none
        [.effect (.send false key data true), .returned (.acceptGoal ⟨g⟩) true]
        [.sent b.slotIndex (.goalResponse .accepted) data]
        (some { b with state := .goalAccepted }) (some {})
  | rejectGoal {b : ActionPacketBinding} {key : PduResolvedKey}
      {data : PduData} (hstate : b.state = .awaitingGoalDecision)
      (hsent : Carries R routing b.slotIndex g (.goalResponse .rejected) key
        data) :
      ServerGoalStep R routing g (some b) none
        [.effect (.send false key data true), .returned (.rejectGoal ⟨g⟩) true]
        [.sent b.slotIndex (.goalResponse .rejected) data, .released]
        none none
  | discard {b : ActionPacketBinding}
      (hstate : b.state = .awaitingGoalDecision) :
      ServerGoalStep R routing g (some b) none
        [.returned (.discardPendingGoal ⟨g⟩) true] [.released] none none
  | cancelRequest {b : ActionPacketBinding} {event : ServerEvent}
      (hstate : b.state = .goalAccepted)
      (hpending : b.cancelDecisionPending = false)
      (htype : event.type = .cancelRequest) (hgoal : event.goal = ⟨g⟩) :
      ServerGoalStep R routing g (some b) (some {})
        [.event (some b.slotIndex) event] [.cancelRequested]
        (some { b with cancelDecisionPending := true }) (some clientPending)
  | cancelSwallowed {b : ActionPacketBinding}
      (hstate : b.state = .goalAccepted)
      (hpending : b.cancelDecisionPending = false) :
      ServerGoalStep R routing g (some b) (some runtimePending) [] []
        (some { b with cancelDecisionPending := true }) (some runtimePending)
  | runtimeCancel {b : ActionPacketBinding} {event : ServerEvent}
      (hgoal : event.goal = ⟨g⟩) :
      ServerGoalStep R routing g (some b) (some {}) [.event none event] []
        (some b) (some runtimePending)
  | runtimeReclassify {b : ActionPacketBinding} {event : ServerEvent}
      (hgoal : event.goal = ⟨g⟩) :
      ServerGoalStep R routing g (some b) (some clientPending)
        [.event none event] [] (some b) (some runtimePending)
  | acceptCancel {b : ActionPacketBinding} {key : PduResolvedKey}
      {data : PduData} (hstate : b.state = .goalAccepted)
      (hpending : b.cancelDecisionPending = true)
      (hsent : Carries R routing b.slotIndex g (.cancelResponse .accepted) key
        data) :
      ServerGoalStep R routing g (some b) (some clientPending)
        [.effect (.send false key data true),
          .returned (.acceptCancel ⟨g⟩) true]
        [.sent b.slotIndex (.cancelResponse .accepted) data, .cancelAccepted]
        (some { b with
          state := .cancelAccepted
          cancelDecisionPending := false })
        (some cancelingContext)
  | acceptCancelLocally {b : ActionPacketBinding}
      (hstate : b.state = .goalAccepted) :
      ServerGoalStep R routing g (some b) (some runtimePending)
        [.returned (.acceptCancel ⟨g⟩) true] [.cancelAccepted]
        (some { b with
          state := .cancelAccepted
          cancelDecisionPending := false })
        (some cancelingContext)
  | rejectCancel {b : ActionPacketBinding} {key : PduResolvedKey}
      {data : PduData} (hstate : b.state = .goalAccepted)
      (hpending : b.cancelDecisionPending = true)
      (hsent : Carries R routing b.slotIndex g (.cancelResponse .rejected) key
        data) :
      ServerGoalStep R routing g (some b) (some clientPending)
        [.effect (.send false key data true),
          .returned (.rejectCancel ⟨g⟩) true]
        [.sent b.slotIndex (.cancelResponse .rejected) data]
        (some { b with cancelDecisionPending := false }) (some {})
  | rejectRuntimeCancel {b : ActionPacketBinding} :
      ServerGoalStep R routing g (some b) (some runtimePending)
        [.returned (.rejectCancel ⟨g⟩) true] [] (some b) (some {})
  | feedback {b : ActionPacketBinding} {c : ServerGoalContext} {pdu : PduData}
      {key : PduResolvedKey} {data : PduData}
      (hstate : b.state = .goalAccepted ∨ b.state = .cancelAccepted)
      (hsent : Carries R routing b.slotIndex g
        (.feedback b.nextFeedbackSequence) key data) :
      ServerGoalStep R routing g (some b) (some c)
        [.effect (.send false key data true),
          .returned (.sendFeedback ⟨g⟩ pdu) true]
        [.sent b.slotIndex (.feedback b.nextFeedbackSequence) data]
        (some { b with nextFeedbackSequence := b.nextFeedbackSequence + 1 })
        (some c)
  | complete {b : ActionPacketBinding} {c : ServerGoalContext}
      {status : TerminalStatus} {pdu : PduData} {key : PduResolvedKey}
      {data : PduData}
      (hmay : ActionServerEndpointImpl.mayComplete b status = true)
      (hsent : Carries R routing b.slotIndex g (.result status) key data) :
      ServerGoalStep R routing g (some b) (some c)
        [.effect (.commit g status), .effect (.send false key data true),
          .returned (.complete ⟨g⟩ status pdu) true]
        [.committed status, .sent b.slotIndex (.result status) data, .released]
        none none
  | commitOnly {b : ActionPacketBinding} {c : ServerGoalContext}
      {status : TerminalStatus} {pdu : PduData} {failed : List ServerObs}
      (hmay : ActionServerEndpointImpl.mayComplete b status = true)
      (hfailed : failed = [] ∨
        ∃ key data, failed = [.effect (.send false key data false)]) :
      ServerGoalStep R routing g (some b) (some c)
        ([.effect (.commit g status)] ++ failed ++
          [.returned (.complete ⟨g⟩ status pdu) false])
        [.committed status]
        (some (ActionServerEndpointImpl.committed b))
        (some (finishingContext status))
  | completeLocally {b : ActionPacketBinding} {c : ServerGoalContext}
      {status : TerminalStatus} {pdu : PduData}
      (hmay : ActionServerEndpointImpl.mayComplete b status = true) :
      ServerGoalStep R routing g (some b) (some c)
        [.effect (.commit g status),
          .returned (.completeLocally ⟨g⟩ status pdu) true]
        [.committed status, .released]
        none none

theorem mayComplete_ne_unspecified {b : ActionPacketBinding}
    {status : TerminalStatus}
    (h : ActionServerEndpointImpl.mayComplete b status = true) :
    status ≠ .unspecified := by
  rintro rfl
  simp [ActionServerEndpointImpl.mayComplete, terminalAllowed] at h

/-- A step of a Goal leads to a pair that occurs. -/
theorem ServerGoalStep.corr {R : PduRegistry} {routing : List SlotRouting}
    {g : GoalId} {b b' : Option ActionPacketBinding}
    {c c' : Option ServerGoalContext} {obs : List ServerObs}
    {es : List ServerEntry}
    (h : ServerGoalStep R routing g b c obs es b' c') (hcorr : GoalCorr b c) :
    GoalCorr b' c' := by
  cases h with
  | request => exact .undecided rfl rfl
  | acceptGoal => exact .executing rfl
  | rejectGoal => exact .absent
  | discard => exact .absent
  | cancelRequest hstate => exact .clientPending hstate rfl
  | cancelSwallowed hstate => exact .runtimePending hstate
  | runtimeCancel =>
      cases hcorr with
      | executing hstate => exact .runtimePending hstate
  | runtimeReclassify =>
      cases hcorr with
      | clientPending hstate => exact .runtimePending hstate
  | acceptCancel => exact .canceling rfl rfl
  | acceptCancelLocally => exact .canceling rfl rfl
  | rejectCancel hstate => exact .executing hstate
  | rejectRuntimeCancel =>
      cases hcorr with
      | runtimePending hstate => exact .executing hstate
  | feedback hstate =>
      cases hcorr with
      | executing hstate => exact .executing hstate
      | clientPending hstate hpending => exact .clientPending hstate hpending
      | runtimePending hstate => exact .runtimePending hstate
      | canceling hstate hpending => exact .canceling hstate hpending
      | finishing hstate' => simp [hstate'] at hstate
  | complete => exact .absent
  | commitOnly hmay =>
      exact .finishing rfl rfl (mayComplete_ne_unspecified hmay)
  | completeLocally => exact .absent

/-! ## Updates at one Goal -/

/-- The endpoint changed the binding of one Goal and nothing else that is
remembered across packets. -/
structure EndpointUpdate (ep ep' : ActionServerEndpointImpl) (g : GoalId)
    (b : Option ActionPacketBinding) : Prop where
  find?_eq : ∀ g', ep'.packetBindings.find? g' =
    if g' = g then b else ep.packetBindings.find? g'
  store : ep'.SlotStore
  slotRouting_eq : ep'.slotRouting = ep.slotRouting
  initialized_eq : ep'.initialized = ep.initialized
  pendingEvents_eq : ep'.pendingEvents = ep.pendingEvents

/-- The services changed the context of one Goal. -/
abbrev GoalsUpdate (l l' : List ServerGoalInstance) (g : GoalId)
    (c : Option ServerGoalContext) : Prop :=
  KeyedList.Update (·.goal.goalId) (·.context) l l' g c

section Updates

variable {ep ep' ep'' : ActionServerEndpointImpl} {g : GoalId}
  {b : ActionPacketBinding}

theorem EndpointUpdate.refl (hstore : ep.SlotStore)
    {b : Option ActionPacketBinding} (hb : ep.packetBindings.find? g = b) :
    EndpointUpdate ep ep g b where
  find?_eq := by
    intro g'
    split_ifs with hg
    · rw [hg, hb]
    · rfl
  store := hstore
  slotRouting_eq := rfl
  initialized_eq := rfl
  pendingEvents_eq := rfl

theorem EndpointUpdate.trans {b b' : Option ActionPacketBinding}
    (h : EndpointUpdate ep ep' g b) (h' : EndpointUpdate ep' ep'' g b') :
    EndpointUpdate ep ep'' g b' where
  find?_eq := by
    intro g'
    rw [h'.find?_eq, h.find?_eq]
    split_ifs <;> rfl
  store := h'.store
  slotRouting_eq := h'.slotRouting_eq.trans h.slotRouting_eq
  initialized_eq := h'.initialized_eq.trans h.initialized_eq
  pendingEvents_eq := h'.pendingEvents_eq.trans h.pendingEvents_eq

theorem EndpointUpdate.modifyBinding (hstore : ep.SlotStore)
    (hb : ep.packetBindings.find? g = some b)
    {f : ActionPacketBinding → ActionPacketBinding}
    (hslot : ∀ b, (f b).slotIndex = b.slotIndex)
    (hgoal : ∀ b, (f b).goalId = b.goalId) :
    EndpointUpdate ep (ep.modifyBinding g f) g (some (f b)) where
  find?_eq := by
    intro g'
    rw [ActionServerEndpointImpl.find?_modifyBinding, hb]
    rfl
  store := hstore.modifyBinding g hslot hgoal
  slotRouting_eq := rfl
  initialized_eq := rfl
  pendingEvents_eq := rfl

theorem EndpointUpdate.releaseBinding (hstore : ep.SlotStore)
    (hb : ep.packetBindings.find? g = some b) :
    EndpointUpdate ep (ep.releaseBinding g b) g none where
  find?_eq := ActionServerEndpointImpl.find?_releaseBinding g (b := b)
  store := hstore.releaseBinding hb
  slotRouting_eq := rfl
  initialized_eq := rfl
  pendingEvents_eq := rfl

/-- Releasing the binding of a Goal after its terminal commit. -/
theorem EndpointUpdate.releaseCommitted (hstore : ep.SlotStore)
    (hb : ep.packetBindings.find? g = some b) :
    EndpointUpdate ep
      ((ep.modifyBinding g ActionServerEndpointImpl.committed).releaseBinding g
        (ActionServerEndpointImpl.committed b)) g none := by
  have hcommit := EndpointUpdate.modifyBinding hstore hb
    (f := ActionServerEndpointImpl.committed) (fun _ => rfl) (fun _ => rfl)
  refine hcommit.trans (EndpointUpdate.releaseBinding hcommit.store ?_)
  rw [hcommit.find?_eq, if_pos rfl]

end Updates

/-! ## The invariant of one Action -/

theorem ServerCall.valid_of_argumentsValid (c : ServerCall)
    (hc : c.argumentsValid = true) : isValidGoalId c.goal.goalId = true := by
  cases c <;> simp_all [ServerCall.argumentsValid, ServerCall.goal,
    ServerGoalHandle.valid]

namespace ServerActionInstance

/-- The binding of a Goal in the endpoint. -/
def binding (inst : ServerActionInstance) (g : GoalId) :
    Option ActionPacketBinding :=
  inst.endpoint.packetBindings.find? g

/-- The context of a Goal in the services. -/
def context (inst : ServerActionInstance) (g : GoalId) :
    Option ServerGoalContext :=
  (inst.getGoal g).map (·.context)

/-- What holds of an Action in every reachable state. -/
structure Invariant (inst : ServerActionInstance) : Prop where
  routing : RoutingWellFormed inst.actionName inst.endpoint.slotRouting
  initialized : inst.endpoint.initialized = true
  pendingEvents : inst.endpoint.pendingEvents = []
  store : inst.endpoint.SlotStore
  valid : ∀ {g b}, inst.binding g = some b → isValidGoalId g = true
  nodup : (inst.goals.map (·.goal.goalId)).Nodup
  corr : ∀ g, GoalCorr (inst.binding g) (inst.context g)

/-- `inst'` differs from `inst` at one Goal. -/
structure GoalUpdate (inst inst' : ServerActionInstance) (g : GoalId)
    (b : Option ActionPacketBinding) (c : Option ServerGoalContext) :
    Prop where
  actionName_eq : inst'.actionName = inst.actionName
  endpoint : EndpointUpdate inst.endpoint inst'.endpoint g b
  goals : GoalsUpdate inst.goals inst'.goals g c

theorem GoalUpdate.binding_eq {inst inst' : ServerActionInstance} {g : GoalId}
    {b : Option ActionPacketBinding} {c : Option ServerGoalContext}
    (h : GoalUpdate inst inst' g b c) (g' : GoalId) :
    inst'.binding g' = if g' = g then b else inst.binding g' :=
  h.endpoint.find?_eq g'

theorem GoalUpdate.context_eq {inst inst' : ServerActionInstance} {g : GoalId}
    {b : Option ActionPacketBinding} {c : Option ServerGoalContext}
    (h : GoalUpdate inst inst' g b c) (g' : GoalId) :
    inst'.context g' = if g' = g then c else inst.context g' :=
  h.goals.lookup_eq g'

theorem Invariant.update {inst inst' : ServerActionInstance} {g : GoalId}
    {b : Option ActionPacketBinding} {c : Option ServerGoalContext}
    (hinv : inst.Invariant) (h : GoalUpdate inst inst' g b c)
    (hg : isValidGoalId g = true) (hcorr : GoalCorr b c) :
    inst'.Invariant where
  routing := by
    rw [h.actionName_eq, h.endpoint.slotRouting_eq]
    exact hinv.routing
  initialized := h.endpoint.initialized_eq.trans hinv.initialized
  pendingEvents := h.endpoint.pendingEvents_eq.trans hinv.pendingEvents
  store := h.endpoint.store
  valid := by
    intro g' b' hb'
    rw [h.binding_eq] at hb'
    split_ifs at hb' with hg'
    · rw [hg']
      exact hg
    · exact hinv.valid hb'
  nodup := h.goals.nodup
  corr := by
    intro g'
    rw [h.binding_eq, h.context_eq]
    split_ifs
    · exact hcorr
    · exact hinv.corr g'

/-! ## What a call does -/

/-- A step that fails: only refused sends and calls that return `false`. -/
def Quiet (obs : List ServerObs) : Prop :=
  ∀ o ∈ obs, (∃ c, o = .returned c false) ∨
    ∃ key data, o = .effect (.send false key data false)

/-- The step from `inst` to `inst'` is a step of the Goal `g`. -/
def StepsGoal (R : PduRegistry) (inst inst' : ServerActionInstance)
    (obs : List ServerObs) (g : GoalId) : Prop :=
  ∃ es b c, ServerGoalStep R inst.endpoint.slotRouting g (inst.binding g)
      (inst.context g) obs es b c ∧
    GoalUpdate inst inst' g b c

/-- What is seen of a call. -/
def callObs (c : ServerCall)
    (o : Outcome ServerActionInstance ServerEffect Bool) : List ServerObs :=
  o.effects.map .effect ++ [.returned c o.result]

theorem mem_callObs (c : ServerCall)
    (o : Outcome ServerActionInstance ServerEffect Bool) :
    .returned c o.result ∈ callObs c o := by
  simp [callObs]

/-- The two ways in which a call can end. -/
def CallCases (R : PduRegistry) (inst : ServerActionInstance) (c : ServerCall)
    (o : Outcome ServerActionInstance ServerEffect Bool) : Prop :=
  (o.state = inst ∧ Quiet (callObs c o)) ∨
    (StepsGoal R inst o.state (callObs c o) c.goal.goalId ∧
      o.state.endpoint.pendingPackets = inst.endpoint.pendingPackets)

section Calls

variable {R : PduRegistry} {net : SendOracle} {inst : ServerActionInstance}

theorem CallCases.refused (c : ServerCall) :
    CallCases R inst c { state := inst, result := false } :=
  Or.inl ⟨rfl, by simp [Quiet, callObs]⟩

theorem CallCases.failed {c : ServerCall}
    {o : Outcome ServerActionInstance ServerEffect Bool}
    (hstate : o.state = inst) (hresult : o.result = false)
    (heffects : ∀ e ∈ o.effects, ∃ key data, e = .send false key data false) :
    CallCases R inst c o := by
  refine Or.inl ⟨hstate, ?_⟩
  intro obs hobs
  simp only [callObs, List.mem_append, List.mem_map, List.mem_singleton] at hobs
  rcases hobs with ⟨e, he, rfl⟩ | rfl
  · obtain ⟨key, data, rfl⟩ := heffects e he
    exact Or.inr ⟨key, data, rfl⟩
  · exact Or.inl ⟨c, by rw [hresult]⟩

theorem CallCases.step {c : ServerCall}
    {o : Outcome ServerActionInstance ServerEffect Bool}
    {b b' : Option ActionPacketBinding}
    {context context' : Option ServerGoalContext} {es : List ServerEntry}
    (hb : inst.endpoint.packetBindings.find? c.goal.goalId = b)
    (hcontext : inst.context c.goal.goalId = context)
    (hstep : ServerGoalStep R inst.endpoint.slotRouting c.goal.goalId b context
      (callObs c o) es b' context')
    (hname : o.state.actionName = inst.actionName)
    (hendpoint :
      EndpointUpdate inst.endpoint o.state.endpoint c.goal.goalId b')
    (hgoals : GoalsUpdate inst.goals o.state.goals c.goal.goalId context')
    (hpackets :
      o.state.endpoint.pendingPackets = inst.endpoint.pendingPackets) :
    CallCases R inst c o := by
  subst hb hcontext
  exact Or.inr
    ⟨⟨es, b', context', hstep, hname, hendpoint, hgoals⟩, hpackets⟩

theorem setContext_update (hnodup : (inst.goals.map (·.goal.goalId)).Nodup)
    {g : GoalId} {goal : ServerGoalInstance}
    (hget : inst.getGoal g = some goal) (c : ServerGoalContext) :
    GoalsUpdate inst.goals (inst.setContext g c).goals g (some c) :=
  Update.modifyFirst hnodup hget fun _ => rfl

theorem context_eq_none {g : GoalId} (h : ¬inst.hasGoal g = true) :
    inst.getGoal g = none ∧ inst.context g = none := by
  have hnone : inst.getGoal g = none := by
    simpa [hasGoal] using h
  exact ⟨hnone, by simp [context, hnone]⟩

theorem context_eq_some {g : GoalId} {goal : ServerGoalInstance}
    (h : inst.getGoal g = some goal) :
    inst.context g = some goal.context ∧ goal.goal = ⟨g⟩ := by
  refine ⟨by simp [context, h], ?_⟩
  have hkey := lookup_key h
  change goal.goal.goalId = g at hkey
  rw [← hkey]

variable (hinv : inst.Invariant)

include hinv

theorem acceptGoal_cases (goal : ServerGoalHandle) :
    CallCases R inst (.acceptGoal goal) (inst.acceptGoal R net goal) := by
  unfold acceptGoal
  split_ifs with hhas
  · exact CallCases.refused _
  · obtain ⟨hget, hcontext⟩ := context_eq_none hhas
    dsimp only
    generalize hsend : inst.endpoint.acceptGoal R net goal = o
    obtain ⟨hfalse, hstate, heffects⟩ |
        ⟨b, key, data, hb, hallowed, hsent, rfl⟩ :=
      ActionServerEndpointImpl.respond_cases (.goalResponse .accepted) rfl hsend
    · refine CallCases.failed ?_ hfalse heffects
      simp [hfalse, hstate]
    · have hbstate : b.state = .awaitingGoalDecision := by simpa using hallowed
      rw [hinv.store.goalId_eq hb] at hsent
      exact CallCases.step hb hcontext (.acceptGoal hbstate hsent) rfl
        (EndpointUpdate.modifyBinding hinv.store hb (fun _ => rfl)
          (fun _ => rfl))
        (Update.append hinv.nodup hget rfl) rfl

theorem rejectGoal_cases (goal : ServerGoalHandle) :
    CallCases R inst (.rejectGoal goal) (inst.rejectGoal R net goal) := by
  unfold rejectGoal
  split_ifs with hhas
  · exact CallCases.refused _
  · obtain ⟨hget, hcontext⟩ := context_eq_none hhas
    generalize hsend : inst.endpoint.rejectGoal R net goal = o
    obtain ⟨hfalse, hstate, heffects⟩ |
        ⟨b, key, data, hb, hallowed, hsent, rfl⟩ :=
      ActionServerEndpointImpl.respond_cases (.goalResponse .rejected) rfl hsend
    · refine CallCases.failed ?_ hfalse heffects
      simp [withEndpoint, hstate]
    · have hbstate : b.state = .awaitingGoalDecision := by simpa using hallowed
      rw [hinv.store.goalId_eq hb] at hsent
      exact CallCases.step hb hcontext (.rejectGoal hbstate hsent) rfl
        (EndpointUpdate.releaseBinding hinv.store hb)
        (Update.refl hinv.nodup hcontext) rfl

theorem discardPendingGoal_cases (goal : ServerGoalHandle) :
    CallCases R inst (.discardPendingGoal goal)
      (inst.discardPendingGoal goal) := by
  unfold discardPendingGoal
  split_ifs with hhas
  · exact CallCases.refused _
  · obtain ⟨hget, hcontext⟩ := context_eq_none hhas
    generalize hdone : inst.endpoint.discardPendingGoal goal = o
    obtain rfl | ⟨b, hb, hbstate, rfl⟩ :=
      ActionServerEndpointImpl.discardPendingGoal_cases hdone
    · exact CallCases.refused _
    · exact CallCases.step hb hcontext (.discard hbstate) rfl
        (EndpointUpdate.releaseBinding hinv.store hb)
        (Update.refl hinv.nodup hcontext) rfl

omit hinv in
/-- Only a pending decision can be decided. -/
theorem pending_of_decided {b : Option ActionPacketBinding}
    {c : ServerGoalContext} {e : ServerGoalEvent}
    (he : e = .acceptCancel ∨ e = .rejectCancel)
    (hcorr : GoalCorr b (some c))
    (hkind : (transitionServerGoal c e).kind = .transitioned) :
    c = clientPending ∨ c = runtimePending := by
  cases hcorr with
  | executing => rcases he with rfl | rfl <;> exact absurd hkind (by decide)
  | clientPending => exact Or.inl rfl
  | runtimePending => exact Or.inr rfl
  | canceling => rcases he with rfl | rfl <;> exact absurd hkind (by decide)
  | @finishing _ status =>
      rcases he with rfl | rfl <;> cases status <;>
        exact absurd hkind (by decide)

theorem acceptCancel_cases (goal : ServerGoalHandle) :
    CallCases R inst (.acceptCancel goal) (inst.acceptCancel R net goal) := by
  unfold acceptCancel
  split
  · exact CallCases.refused _
  · next goalInstance hget =>
      obtain ⟨hcontext, -⟩ := context_eq_some hget
      have hcorr := hinv.corr goal.goalId
      rw [hcontext] at hcorr
      dsimp only
      by_cases hkind : (transitionServerGoal goalInstance.context
          .acceptCancel).kind = .transitioned
      · rw [if_neg (not_not.mpr hkind)]
        have hset := setContext_update hinv.nodup hget cancelingContext
        obtain hc | hc := pending_of_decided (Or.inl rfl) hcorr hkind
        · rw [hc] at hcontext
          simp only [hc, clientPending_cancelOrigin, if_true,
            clientPending_acceptCancel]
          generalize hsend : inst.endpoint.acceptCancel R net goal = o
          obtain ⟨hfalse, hstate, heffects⟩ |
              ⟨b, key, data, hb, hallowed, hsent, rfl⟩ :=
            ActionServerEndpointImpl.respond_cases (.cancelResponse .accepted) rfl hsend
          · refine CallCases.failed ?_ hfalse heffects
            simp [withEndpoint, hfalse, hstate]
          · obtain ⟨hbstate, hpending⟩ : b.state = .goalAccepted ∧
                b.cancelDecisionPending = true := by
              simpa [ActionServerEndpointImpl.mayAnswerCancel] using hallowed
            rw [hinv.store.goalId_eq hb] at hsent
            exact CallCases.step hb hcontext
              (.acceptCancel hbstate hpending hsent) rfl
              (EndpointUpdate.modifyBinding hinv.store hb (fun _ => rfl)
                (fun _ => rfl)) hset rfl
        · rw [hc] at hcontext
          simp only [hc, runtimePending_cancelOrigin, reduceCtorEq, if_false,
            runtimePending_acceptCancel]
          generalize hdone : inst.endpoint.acceptCancelLocally goal = o
          obtain rfl | ⟨b, hb, hbstate, rfl⟩ :=
            ActionServerEndpointImpl.acceptCancelLocally_cases hdone
          · exact CallCases.refused _
          · exact CallCases.step hb hcontext (.acceptCancelLocally hbstate) rfl
              (EndpointUpdate.modifyBinding hinv.store hb (fun _ => rfl)
                (fun _ => rfl)) hset rfl
      · rw [if_pos hkind]
        exact CallCases.refused _

theorem rejectCancel_cases (net : SendOracle) (goal : ServerGoalHandle) :
    CallCases R inst (.rejectCancel goal) (inst.rejectCancel R net goal) := by
  unfold rejectCancel
  split
  · exact CallCases.refused _
  · next goalInstance hget =>
      obtain ⟨hcontext, -⟩ := context_eq_some hget
      have hcorr := hinv.corr goal.goalId
      rw [hcontext] at hcorr
      dsimp only
      by_cases hkind : (transitionServerGoal goalInstance.context
          .rejectCancel).kind = .transitioned
      · rw [if_neg (not_not.mpr hkind)]
        have hset := setContext_update hinv.nodup hget {}
        obtain hc | hc := pending_of_decided (Or.inr rfl) hcorr hkind
        · rw [hc] at hcontext
          simp only [hc, clientPending_cancelOrigin, if_true,
            clientPending_rejectCancel]
          generalize hsend : inst.endpoint.rejectCancel R net goal = o
          obtain ⟨hfalse, hstate, heffects⟩ |
              ⟨b, key, data, hb, hallowed, hsent, rfl⟩ :=
            ActionServerEndpointImpl.respond_cases (.cancelResponse .rejected) rfl hsend
          · refine CallCases.failed ?_ hfalse heffects
            simp [withEndpoint, hfalse, hstate]
          · obtain ⟨hbstate, hpending⟩ : b.state = .goalAccepted ∧
                b.cancelDecisionPending = true := by
              simpa [ActionServerEndpointImpl.mayAnswerCancel] using hallowed
            rw [hinv.store.goalId_eq hb] at hsent
            exact CallCases.step hb hcontext
              (.rejectCancel hbstate hpending hsent) rfl
              (EndpointUpdate.modifyBinding hinv.store hb (fun _ => rfl)
                (fun _ => rfl)) hset rfl
        · rw [hc] at hcontext hcorr
          simp only [hc, runtimePending_cancelOrigin, reduceCtorEq, if_false,
            runtimePending_rejectCancel]
          generalize hb : inst.binding goal.goalId = b at hcorr
          cases hcorr with
          | runtimePending hbstate =>
              exact CallCases.step hb hcontext .rejectRuntimeCancel rfl
                (EndpointUpdate.refl hinv.store hb) hset rfl
      · rw [if_pos hkind]
        exact CallCases.refused _

theorem sendFeedback_cases (goal : ServerGoalHandle) (pdu : PduData) :
    CallCases R inst (.sendFeedback goal pdu)
      (inst.sendFeedback R net goal pdu) := by
  unfold sendFeedback
  split
  · exact CallCases.refused _
  · next goalInstance hget =>
      obtain ⟨hcontext, -⟩ := context_eq_some hget
      dsimp only
      split_ifs
      · exact CallCases.refused _
      · generalize hsend : inst.endpoint.sendFeedback R net goal pdu = o
        obtain ⟨hfalse, hstate, heffects⟩ |
            ⟨b, key, data, hb, hbstate, hsent, rfl⟩ :=
          ActionServerEndpointImpl.sendFeedback_cases hsend
        · refine CallCases.failed ?_ hfalse heffects
          simp [withEndpoint, hstate]
        · exact CallCases.step hb hcontext (.feedback hbstate hsent) rfl
            (EndpointUpdate.modifyBinding hinv.store hb (fun _ => rfl)
              (fun _ => rfl))
            (Update.refl hinv.nodup hcontext) rfl

omit hinv in
/-- A completion that is allowed leads to the finishing context. -/
theorem completion_next {c : ServerGoalContext} {status : TerminalStatus}
    (h : (transitionServerGoal c (completionEvent status)).kind =
      .transitioned) :
    (transitionServerGoal c (completionEvent status)).next =
      finishingContext status := by
  revert h
  cases status <;>
    simp only [completionEvent, transitionServerGoal, completeServerGoal] <;>
    split_ifs <;> simp [finishingContext]

theorem complete_cases (goal : ServerGoalHandle) (status : TerminalStatus)
    (pdu : PduData) :
    CallCases R inst (.complete goal status pdu)
      (inst.complete R net goal status pdu false) := by
  unfold complete
  split
  · exact CallCases.refused _
  · next goalInstance hget =>
      obtain ⟨hcontext, hgoal⟩ := context_eq_some hget
      unfold completeGoal
      dsimp only
      by_cases hkind : (transitionServerGoal goalInstance.context
          (completionEvent status)).kind = .transitioned
      · rw [if_neg (not_not.mpr hkind), completion_next hkind, hgoal]
        simp only [Bool.false_eq_true, if_false]
        generalize hdone : inst.endpoint.complete R net ⟨goal.goalId⟩ status
          pdu = o
        obtain ⟨hnot, hstate, heffects⟩ | ⟨b, hb, hmay, hsent⟩ :=
          ActionServerEndpointImpl.complete_cases hdone
        · refine CallCases.failed ?_ ?_ ?_
          · simp [hnot, hstate, withEndpoint]
          · simp [hnot]
          · simp [heffects]
        · obtain ⟨hfailed, hstate, heffects⟩ | ⟨key, data, hsent, rfl⟩ := hsent
          · have hset := setContext_update hinv.nodup hget
              (finishingContext status)
            have hcommit := EndpointUpdate.modifyBinding hinv.store hb
              (f := ActionServerEndpointImpl.committed) (fun _ => rfl)
              (fun _ => rfl)
            obtain ⟨state, result, effects⟩ := o
            dsimp only at hfailed hstate heffects
            subst hfailed hstate
            obtain rfl | ⟨key, data, rfl⟩ := heffects
            · exact CallCases.step hb hcontext
                (.commitOnly hmay (Or.inl rfl)) rfl hcommit hset rfl
            · exact CallCases.step hb hcontext
                (.commitOnly hmay (Or.inr ⟨key, data, rfl⟩)) rfl hcommit hset
                rfl
          · rw [hinv.store.goalId_eq hb] at hsent
            exact CallCases.step hb hcontext (.complete hmay hsent) rfl
              (.releaseCommitted hinv.store hb)
              (Update.removeFirst hinv.nodup) rfl
      · rw [if_pos hkind]
        exact CallCases.refused _

theorem completeLocally_cases (goal : ServerGoalHandle)
    (status : TerminalStatus) (pdu : PduData) :
    CallCases R inst (.completeLocally goal status pdu)
      (inst.complete R net goal status pdu true) := by
  unfold complete
  split
  · exact CallCases.refused _
  · next goalInstance hget =>
      obtain ⟨hcontext, hgoal⟩ := context_eq_some hget
      unfold completeGoal
      dsimp only
      by_cases hkind : (transitionServerGoal goalInstance.context
          (completionEvent status)).kind = .transitioned
      · rw [if_neg (not_not.mpr hkind), hgoal]
        simp only [if_true]
        generalize hdone : inst.endpoint.completeLocally R ⟨goal.goalId⟩ status
          pdu = o
        obtain rfl | ⟨b, hb, hmay, rfl⟩ :=
          ActionServerEndpointImpl.completeLocally_cases hdone
        · exact CallCases.refused _
        · exact CallCases.step hb hcontext (.completeLocally hmay) rfl
            (.releaseCommitted hinv.store hb)
            (Update.removeFirst hinv.nodup) rfl
      · rw [if_pos hkind]
        exact CallCases.refused _

/-- A call fails without a trace, or it is a step of the Goal it names. -/
theorem call_cases (net : SendOracle) (c : ServerCall) :
    CallCases R inst c (inst.call R net c) := by
  cases c with
  | acceptGoal goal => exact acceptGoal_cases hinv goal
  | rejectGoal goal => exact rejectGoal_cases hinv goal
  | discardPendingGoal goal => exact discardPendingGoal_cases hinv goal
  | acceptCancel goal => exact acceptCancel_cases hinv goal
  | rejectCancel goal => exact rejectCancel_cases hinv net goal
  | sendFeedback goal pdu => exact sendFeedback_cases hinv goal pdu
  | complete goal status pdu => exact complete_cases hinv goal status pdu
  | completeLocally goal status pdu =>
      exact completeLocally_cases hinv goal status pdu

end Calls

/-! ## What a poll does -/

section Polls

variable {R : PduRegistry} {net : SendOracle} {inst : ServerActionInstance}
  (hinv : inst.Invariant)

include hinv

/-- A Runtime Cancel event is not reported, or is reported as an error for an
unknown Goal, or is a step of its Goal. -/
theorem runtimeCancel_cases (event : ServerEvent)
    {result : ServerActionInstance × Option ServerEvent}
    (hresult : inst.handleCancelEvent .runtimeCancelRequest event = result) :
    (result = (inst, none)) ∨
      (inst.context event.goal.goalId = none ∧
        result = (inst, some { event with type := .error })) ∨
      (result.2 = some event ∧
        (∃ b, inst.binding event.goal.goalId = some b) ∧
        StepsGoal R inst result.1 [.event none event] event.goal.goalId ∧
        result.1.endpoint = inst.endpoint) := by
  subst hresult
  unfold handleCancelEvent
  split
  · next hget => exact Or.inr (Or.inl ⟨by simp [context, hget], rfl⟩)
  · next goalInstance hget =>
      obtain ⟨hcontext, -⟩ := context_eq_some hget
      have hcorr := hinv.corr event.goal.goalId
      rw [hcontext] at hcorr
      simp only [reduceCtorEq, if_false]
      have hset := setContext_update hinv.nodup hget runtimePending
      obtain ⟨goal, c⟩ := goalInstance
      dsimp only at hcontext hcorr hset ⊢
      generalize hb : inst.binding event.goal.goalId = b at hcorr
      cases hcorr with
      | executing hstate =>
          refine Or.inr (Or.inr ⟨rfl, ⟨_, rfl⟩, ⟨[], _, _, ?_, rfl,
            EndpointUpdate.refl hinv.store hb, hset⟩, rfl⟩)
          rw [hb, hcontext]
          exact .runtimeCancel rfl
      | clientPending hstate hpending =>
          refine Or.inr (Or.inr ⟨rfl, ⟨_, rfl⟩, ⟨[], _, _, ?_, rfl,
            EndpointUpdate.refl hinv.store hb, hset⟩, rfl⟩)
          rw [hb, hcontext]
          exact .runtimeReclassify rfl
      | runtimePending hstate => exact Or.inl rfl
      | canceling hstate hpending => exact Or.inl rfl
      | @finishing b status hstate hpending hstatus =>
          cases status <;> first | exact absurd rfl hstatus | exact Or.inl rfl

omit hinv in
/-- The event that `poll()` reports for a packet. -/
def packetEvent (inst : ServerActionInstance) (type : ServerEventType)
    (g : GoalId) (packet : ServerPendingPacket) : ServerEvent :=
  { type := type
    goal := ⟨g⟩
    actionName := inst.actionName
    pdu := packet.pdu }

omit hinv in
/-- The instance after a packet has been taken from the queue. -/
def popped (inst : ServerActionInstance) (rest : List ServerPendingPacket) :
    ServerActionInstance :=
  inst.withEndpoint { inst.endpoint with pendingPackets := rest }

omit hinv in
/-- The ways in which one iteration of the endpoint loop can end: the state
after it, the event it reports and what is seen of it. -/
inductive PollCase (R : PduRegistry) (net : SendOracle)
    (inst : ServerActionInstance) :
    ServerActionInstance → Option ServerEvent → List ServerObs → Prop
  | idle (hempty : inst.endpoint.pendingPackets = []) :
      PollCase R net inst inst none []
  | invalid {packet : ServerPendingPacket} {rest : List ServerPendingPacket}
      (hqueue : inst.endpoint.pendingPackets = packet :: rest)
      (hread : inst.endpoint.readRequest R packet = none) :
      PollCase R net inst (inst.popped rest) none []
  | cancelIgnored {packet : ServerPendingPacket}
      {rest : List ServerPendingPacket} {header : ActionRequestHeader}
      {reason : String}
      (hqueue : inst.endpoint.pendingPackets = packet :: rest)
      (hread : inst.endpoint.readRequest R packet = some header)
      (hkind : header.requestKind = requestKindCancel)
      (hreason : inst.endpoint.ignoredCancelReason header.goalId
        packet.slotIndex = some reason) :
      PollCase R net inst (inst.popped rest) none []
  | goalError {packet : ServerPendingPacket} {rest : List ServerPendingPacket}
      {header : ActionRequestHeader} {reason : String}
      (hqueue : inst.endpoint.pendingPackets = packet :: rest)
      (hread : inst.endpoint.readRequest R packet = some header)
      (hkind : header.requestKind ≠ requestKindCancel)
      (hreason : inst.endpoint.goalErrorReason header.goalId
        packet.slotIndex = some reason) :
      PollCase R net inst (inst.popped rest) none
        ((inst.endpoint.sendGoalErrorReply R net header.goalId
          packet.slotIndex reason).map .effect)
  | goalRequest {packet : ServerPendingPacket}
      {rest : List ServerPendingPacket} {header : ActionRequestHeader}
      {inst' : ServerActionInstance}
      (hqueue : inst.endpoint.pendingPackets = packet :: rest)
      (hread : inst.endpoint.readRequest R packet = some header)
      (hkind : header.requestKind ≠ requestKindCancel)
      (hreason : inst.endpoint.goalErrorReason header.goalId
        packet.slotIndex = none)
      (hrest : inst'.endpoint.pendingPackets = rest)
      (hupdate : GoalUpdate inst inst' header.goalId
        (some { goalId := header.goalId, slotIndex := packet.slotIndex })
        none) :
      PollCase R net inst inst'
        (some (inst.packetEvent .goalRequest header.goalId packet))
        [.event (some packet.slotIndex)
          (inst.packetEvent .goalRequest header.goalId packet)]
  | cancelRequest {packet : ServerPendingPacket}
      {rest : List ServerPendingPacket} {header : ActionRequestHeader}
      {b : ActionPacketBinding} {inst' : ServerActionInstance}
      (hqueue : inst.endpoint.pendingPackets = packet :: rest)
      (hread : inst.endpoint.readRequest R packet = some header)
      (hkind : header.requestKind = requestKindCancel)
      (hb : inst.binding header.goalId = some b)
      (hslot : b.slotIndex = packet.slotIndex)
      (hstate : b.state = .goalAccepted)
      (hpending : b.cancelDecisionPending = false)
      (hcontext : inst.context header.goalId = some {})
      (hrest : inst'.endpoint.pendingPackets = rest)
      (hupdate : GoalUpdate inst inst' header.goalId
        (some { b with cancelDecisionPending := true })
        (some clientPending)) :
      PollCase R net inst inst'
        (some (inst.packetEvent .cancelRequest header.goalId packet))
        [.event (some packet.slotIndex)
          (inst.packetEvent .cancelRequest header.goalId packet)]
  | cancelSwallowed {packet : ServerPendingPacket}
      {rest : List ServerPendingPacket} {header : ActionRequestHeader}
      {b : ActionPacketBinding} {inst' : ServerActionInstance}
      (hqueue : inst.endpoint.pendingPackets = packet :: rest)
      (hread : inst.endpoint.readRequest R packet = some header)
      (hkind : header.requestKind = requestKindCancel)
      (hb : inst.binding header.goalId = some b)
      (hslot : b.slotIndex = packet.slotIndex)
      (hstate : b.state = .goalAccepted)
      (hpending : b.cancelDecisionPending = false)
      (hcontext : inst.context header.goalId = some runtimePending)
      (hrest : inst'.endpoint.pendingPackets = rest)
      (hupdate : GoalUpdate inst inst' header.goalId
        (some { b with cancelDecisionPending := true })
        (some runtimePending)) :
      PollCase R net inst inst' none []

omit hinv in
theorem PollCase.type_eq {inst' : ServerActionInstance}
    {result : Option ServerEvent} {obs : List ServerObs}
    (h : PollCase R net inst inst' result obs) {event : ServerEvent}
    (hevent : result = some event) :
    event.type = .goalRequest ∨ event.type = .cancelRequest := by
  cases h <;> simp at hevent <;> simp [← hevent, packetEvent]

omit hinv in
theorem ignoredCancelReason_eq_none {ep : ActionServerEndpointImpl}
    {g : GoalId} {slot : ℕ} :
    ep.ignoredCancelReason g slot = none ↔
      ∃ b, ep.packetBindings.find? g = some b ∧ b.slotIndex = slot ∧
        b.state = .goalAccepted ∧ b.cancelDecisionPending = false := by
  unfold ActionServerEndpointImpl.ignoredCancelReason
  split
  · next hnone => simp [hnone]
  · next b hb =>
      simp only [hb, Option.some.injEq, exists_eq_left']
      by_cases hslot : b.slotIndex = slot
      · cases hstate : b.state <;> simp [hslot]
      · simp [hslot]

omit hinv in
theorem goalErrorReason_eq_none {ep : ActionServerEndpointImpl}
    {g : GoalId} {slot : ℕ} :
    ep.goalErrorReason g slot = none ↔
      ep.packetBindings.find? g = none ∧ ep.slotOwner slot = none := by
  unfold ActionServerEndpointImpl.goalErrorReason
  cases hb : ep.packetBindings.find? g <;>
    cases ho : ep.slotOwner slot <;> simp [OrdMap.contains, hb]

omit hinv in
theorem readRequest_slot {ep : ActionServerEndpointImpl}
    {packet : ServerPendingPacket} {header : ActionRequestHeader}
    (h : ep.readRequest R packet = some header) :
    packet.slotIndex < ep.slotRouting.length ∧
      isValidGoalId header.goalId = true := by
  unfold ActionServerEndpointImpl.readRequest at h
  split at h
  · simp at h
  · next r hr =>
      refine ⟨(List.getElem?_eq_some_iff.mp hr).1, ?_⟩
      split at h
      · simp at h
      · split at h
        · simp at h
        · split_ifs at h with hvalid
          rw [← Option.some.inj h]
          simp only [ActionServerEndpointImpl.validateRequestHeader,
            decide_eq_true_eq] at hvalid
          exact hvalid.2.2

/-- Taking a packet from the queue changes no Goal. -/
theorem endpointUpdate_popped (rest : List ServerPendingPacket) {g : GoalId}
    {b : Option ActionPacketBinding}
    (hb : inst.endpoint.packetBindings.find? g = b) :
    EndpointUpdate inst.endpoint
      { inst.endpoint with pendingPackets := rest } g b :=
  ⟨(EndpointUpdate.refl hinv.store hb).find?_eq,
    ⟨hinv.store.consistent, hinv.store.goalId_eq, hinv.store.length_eq⟩,
    rfl, rfl, rfl⟩

/-- Polling a Goal Request that is not rejected binds the Goal to its slot. -/
theorem endpointUpdate_goalRequest {packet : ServerPendingPacket}
    {rest : List ServerPendingPacket} {header : ActionRequestHeader}
    (hread : inst.endpoint.readRequest R packet = some header)
    (hreason : inst.endpoint.goalErrorReason header.goalId
      packet.slotIndex = none) :
    EndpointUpdate inst.endpoint
      { inst.endpoint with
        pendingPackets := rest
        slotOwners :=
          inst.endpoint.slotOwners.set packet.slotIndex (some header.goalId)
        packetBindings := inst.endpoint.packetBindings.emplace header.goalId
          { goalId := header.goalId, slotIndex := packet.slotIndex } }
      header.goalId
      (some { goalId := header.goalId, slotIndex := packet.slotIndex }) := by
  obtain ⟨hnew, hfree⟩ := goalErrorReason_eq_none.mp hreason
  have hstore := hinv.store.bind
    (b := { goalId := header.goalId, slotIndex := packet.slotIndex })
    (by rw [hinv.store.length_eq]; exact (readRequest_slot hread).1) hfree hnew
    rfl
  exact ⟨OrdMap.find?_emplace hnew,
    ⟨hstore.consistent, hstore.goalId_eq, hstore.length_eq⟩, rfl, rfl, rfl⟩

/-- The polled endpoint, when a packet is taken from the queue. -/
theorem endpoint_poll_cons (net : SendOracle) {packet : ServerPendingPacket}
    {rest : List ServerPendingPacket}
    (hqueue : inst.endpoint.pendingPackets = packet :: rest) :
    inst.endpoint.poll R net =
      match inst.endpoint.readRequest R packet with
      | none =>
          { state := { inst.endpoint with pendingPackets := rest }
            result := none }
      | some header =>
          if header.requestKind = requestKindCancel then
            ActionServerEndpointImpl.handleCancelRequest
              { inst.endpoint with pendingPackets := rest } packet
              header.goalId
          else
            ActionServerEndpointImpl.handleGoalRequest R net
              { inst.endpoint with pendingPackets := rest } packet
              header.goalId := by
  unfold ActionServerEndpointImpl.poll
  simp only [hinv.initialized, hinv.pendingEvents, hqueue, not_true_eq_false,
    if_false]
  rfl

/-- An accepted Goal is known to the services. -/
theorem getGoal_of_accepted {g : GoalId} {b : ActionPacketBinding}
    (hb : inst.binding g = some b) (hstate : b.state = .goalAccepted) :
    ∃ goal, inst.getGoal g = some goal := by
  have hcorr := hinv.corr g
  rw [hb] at hcorr
  cases hget : inst.getGoal g with
  | some goal => exact ⟨goal, rfl⟩
  | none =>
      rw [context, hget] at hcorr
      cases hcorr with
      | undecided hundecided => simp [hundecided] at hstate

/-- The iteration of the endpoint loop that takes a valid Cancel Request. -/
theorem poll_cases_cancel {packet : ServerPendingPacket}
    {rest : List ServerPendingPacket} {header : ActionRequestHeader}
    (hqueue : inst.endpoint.pendingPackets = packet :: rest)
    (hread : inst.endpoint.readRequest R packet = some header)
    (hkind : header.requestKind = requestKindCancel) :
    PollCase R net inst (inst.pollEndpoint R net).state
      (inst.pollEndpoint R net).result (inst.pollObs R net) := by
  have hslot : inst.headSlot = some packet.slotIndex := by
    simp [headSlot, hqueue]
  have hpoll := endpoint_poll_cons (R := R) hinv net hqueue
  simp only [hread, if_pos hkind] at hpoll
  cases hreason : inst.endpoint.ignoredCancelReason header.goalId
      packet.slotIndex with
  | some reason =>
      have hsame : ActionServerEndpointImpl.ignoredCancelReason
          { inst.endpoint with pendingPackets := rest } header.goalId
          packet.slotIndex = some reason := hreason
      simp only [ActionServerEndpointImpl.handleCancelRequest, hsame] at hpoll
      simp only [pollObs, pollEndpoint, hpoll]
      exact .cancelIgnored hqueue hread hkind hreason
  | none =>
      have hsame : ActionServerEndpointImpl.ignoredCancelReason
          { inst.endpoint with pendingPackets := rest } header.goalId
          packet.slotIndex = none := hreason
      simp only [ActionServerEndpointImpl.handleCancelRequest, hsame] at hpoll
      obtain ⟨b, hb, hbslot, hbstate, hpending⟩ :=
        ignoredCancelReason_eq_none.mp hreason
      have hpopped := endpointUpdate_popped hinv rest hb
      have hmodify := hpopped.trans
        (EndpointUpdate.modifyBinding hpopped.store hb
          (f := fun b => { b with cancelDecisionPending := true })
          (fun _ => rfl) (fun _ => rfl))
      obtain ⟨⟨goal, c⟩, hget⟩ := getGoal_of_accepted hinv hb hbstate
      obtain ⟨hcontext, -⟩ := context_eq_some hget
      have hcorr := hinv.corr header.goalId
      rw [show inst.binding header.goalId = some b from hb, hcontext] at hcorr
      have hget' : (inst.withEndpoint
          (ActionServerEndpointImpl.modifyBinding
            { inst.endpoint with pendingPackets := rest } header.goalId
            fun b => { b with cancelDecisionPending := true })).getGoal
            header.goalId = some { goal := goal, context := c } := hget
      simp only [pollObs, pollEndpoint, hpoll, hslot, handleCancelEvent, hget',
        if_true]
      cases hcorr with
      | executing hstate =>
          exact .cancelRequest hqueue hread hkind hb hbslot hbstate hpending
            hcontext rfl ⟨rfl, hmodify,
              setContext_update hinv.nodup hget clientPending⟩
      | clientPending hstate hpending' => simp [hpending] at hpending'
      | runtimePending hstate =>
          exact .cancelSwallowed hqueue hread hkind hb hbslot hbstate hpending
            hcontext rfl ⟨rfl, hmodify,
              Update.refl hinv.nodup hcontext⟩
      | canceling hstate => simp [hstate] at hbstate
      | finishing hstate => simp [hstate] at hbstate

/-- The iteration of the endpoint loop that takes a valid Goal Request. -/
theorem poll_cases_goal {packet : ServerPendingPacket}
    {rest : List ServerPendingPacket} {header : ActionRequestHeader}
    (hqueue : inst.endpoint.pendingPackets = packet :: rest)
    (hread : inst.endpoint.readRequest R packet = some header)
    (hkind : header.requestKind ≠ requestKindCancel) :
    PollCase R net inst (inst.pollEndpoint R net).state
      (inst.pollEndpoint R net).result (inst.pollObs R net) := by
  have hslot : inst.headSlot = some packet.slotIndex := by
    simp [headSlot, hqueue]
  have hpoll := endpoint_poll_cons (R := R) hinv net hqueue
  simp only [hread, if_neg hkind] at hpoll
  cases hreason : inst.endpoint.goalErrorReason header.goalId
      packet.slotIndex with
  | some reason =>
      have hsame : ActionServerEndpointImpl.goalErrorReason
          { inst.endpoint with pendingPackets := rest } header.goalId
          packet.slotIndex = some reason := hreason
      simp only [ActionServerEndpointImpl.handleGoalRequest, hsame] at hpoll
      simp only [pollObs, pollEndpoint, hpoll, Option.toList_none,
        List.map_nil, List.append_nil]
      exact .goalError hqueue hread hkind hreason
  | none =>
      have hsame : ActionServerEndpointImpl.goalErrorReason
          { inst.endpoint with pendingPackets := rest } header.goalId
          packet.slotIndex = none := hreason
      simp only [ActionServerEndpointImpl.handleGoalRequest, hsame] at hpoll
      simp only [pollObs, pollEndpoint, hpoll, hslot]
      have hnew := (goalErrorReason_eq_none.mp hreason).1
      have hcorr := hinv.corr header.goalId
      rw [show inst.binding header.goalId = none from hnew] at hcorr
      generalize hcontext : inst.context header.goalId = c at hcorr
      cases hcorr with
      | absent =>
          exact .goalRequest hqueue hread hkind hreason rfl
            ⟨rfl, endpointUpdate_goalRequest hinv hread hreason,
              Update.refl hinv.nodup hcontext⟩

/-- The endpoint has nothing to poll. -/
theorem endpoint_poll_nil (hqueue : inst.endpoint.pendingPackets = []) :
    inst.endpoint.poll R net = { state := inst.endpoint, result := none } := by
  unfold ActionServerEndpointImpl.poll
  simp [hinv.initialized, hinv.pendingEvents, hqueue]

/-- What one iteration of the endpoint loop can do. -/
theorem poll_cases (net : SendOracle) :
    PollCase R net inst (inst.pollEndpoint R net).state
      (inst.pollEndpoint R net).result (inst.pollObs R net) := by
  cases hqueue : inst.endpoint.pendingPackets with
  | nil =>
      simp only [pollObs, pollEndpoint, endpoint_poll_nil hinv hqueue]
      exact .idle hqueue
  | cons packet rest =>
      cases hread : inst.endpoint.readRequest R packet with
      | none =>
          have hpoll := endpoint_poll_cons (R := R) hinv net hqueue
          simp only [hread] at hpoll
          simp only [pollObs, pollEndpoint, hpoll]
          exact .invalid hqueue hread
      | some header =>
          by_cases hkind : header.requestKind = requestKindCancel
          · exact poll_cases_cancel hinv hqueue hread hkind
          · exact poll_cases_goal hinv hqueue hread hkind

/-- A Cancel Request that the endpoint dispatches finds its Goal. -/
theorem getGoal_of_dispatched (net : SendOracle) {event : ServerEvent}
    (hevent : (inst.endpoint.poll R net).result = some event)
    (htype : event.type = .cancelRequest) :
    ∃ goal, inst.getGoal event.goal.goalId = some goal := by
  cases hqueue : inst.endpoint.pendingPackets with
  | nil => simp [endpoint_poll_nil hinv hqueue] at hevent
  | cons packet rest =>
      rw [endpoint_poll_cons hinv net hqueue] at hevent
      split at hevent
      · simp at hevent
      · next header hread =>
          split_ifs at hevent
          · unfold ActionServerEndpointImpl.handleCancelRequest at hevent
            split at hevent
            · simp at hevent
            · next hreason =>
                obtain ⟨b, hb, -, hstate, -⟩ :=
                  ignoredCancelReason_eq_none.mp hreason
                simp only [Option.some.injEq] at hevent
                subst hevent
                exact getGoal_of_accepted hinv hb hstate
          · unfold ActionServerEndpointImpl.handleGoalRequest at hevent
            split at hevent
            · simp at hevent
            · simp only [Option.some.injEq] at hevent
              subst hevent
              simp at htype

end Polls

/-! ## The invariant is kept -/

section Preservation

variable {R : PduRegistry} {net : SendOracle} {inst : ServerActionInstance}

theorem invariant_of_fresh (h : ActionServicesServer.Fresh inst) :
    inst.Invariant := by
  have hep := h.endpoint_eq
  have hfind : ∀ g, inst.endpoint.packetBindings.find? g = none := by
    intro g
    rw [hep]
    rfl
  refine ⟨h.routing, by rw [hep], by rw [hep], ⟨?_, ?_, ?_⟩, ?_, ?_, ?_⟩
  · rw [hep]
    exact SlotTable.Consistent.empty (by simp)
  · intro g b hb
    simp [hfind] at hb
  · rw [hep]
    simp
  · intro g b hb
    simp [binding, hfind] at hb
  · simp [h.goals_eq]
  · intro g
    have hcontext : inst.context g = none := by
      simp [context, getGoal, h.goals_eq]
    rw [binding, hfind, hcontext]
    exact .absent

theorem Invariant.withPackets (hinv : inst.Invariant)
    (packets : List ServerPendingPacket) : (inst.popped packets).Invariant where
  routing := hinv.routing
  initialized := hinv.initialized
  pendingEvents := hinv.pendingEvents
  store := ⟨hinv.store.consistent, hinv.store.goalId_eq, hinv.store.length_eq⟩
  valid := hinv.valid
  nodup := hinv.nodup
  corr := hinv.corr

theorem Invariant.stepsGoal (hinv : inst.Invariant)
    {inst' : ServerActionInstance} {obs : List ServerObs} {g : GoalId}
    (h : StepsGoal R inst inst' obs g) (hg : isValidGoalId g = true) :
    inst'.Invariant := by
  obtain ⟨es, b, c, hstep, hupdate⟩ := h
  exact hinv.update hupdate hg (hstep.corr (hinv.corr g))

theorem Invariant.call (hinv : inst.Invariant) {c : ServerCall}
    (hc : c.argumentsValid = true) : (inst.call R net c).state.Invariant := by
  have hg := c.valid_of_argumentsValid hc
  obtain ⟨hsame, -⟩ | ⟨hstep, -⟩ := call_cases (R := R) hinv net c
  · rw [hsame]
    exact hinv
  · exact hinv.stepsGoal hstep hg

theorem Invariant.pollCase (hinv : inst.Invariant)
    {inst' : ServerActionInstance} {result : Option ServerEvent}
    {obs : List ServerObs} (h : PollCase R net inst inst' result obs) :
    inst'.Invariant := by
  cases h with
  | idle => exact hinv
  | invalid => exact hinv.withPackets _
  | cancelIgnored => exact hinv.withPackets _
  | goalError => exact hinv.withPackets _
  | goalRequest hqueue hread _ _ _ hupdate =>
      exact hinv.update hupdate (readRequest_slot hread).2 (.undecided rfl rfl)
  | cancelRequest hqueue hread _ _ _ hstate _ _ _ hupdate =>
      exact hinv.update hupdate (readRequest_slot hread).2
        (.clientPending hstate rfl)
  | cancelSwallowed hqueue hread _ _ _ hstate _ _ _ hupdate =>
      exact hinv.update hupdate (readRequest_slot hread).2
        (.runtimePending hstate)

theorem Invariant.handleCancelEvent (R : PduRegistry)
    (hinv : inst.Invariant) (event : ServerEvent) :
    (inst.handleCancelEvent .runtimeCancelRequest event).1.Invariant := by
  obtain h | ⟨-, h⟩ | ⟨-, ⟨b, hb⟩, hstep, -⟩ :=
    runtimeCancel_cases (R := R) hinv event rfl
  · rw [h]
    exact hinv
  · rw [h]
    exact hinv
  · exact hinv.stepsGoal hstep (hinv.valid hb)

theorem Invariant.step (hinv : inst.Invariant) (i : InstanceInput) :
    ((instanceMachine R).step inst i).1.Invariant := by
  cases i with
  | receive key data => exact hinv.withPackets _
  | poll net => exact hinv.pollCase (poll_cases hinv net)
  | runtimeCancel event => exact hinv.handleCancelEvent R event
  | call net c =>
      simp only [instanceMachine]
      split_ifs with hc
      · exact hinv.call hc
      · exact hinv
  | stop =>
      exact ⟨hinv.routing, hinv.initialized, rfl,
        ⟨hinv.store.consistent, hinv.store.goalId_eq, hinv.store.length_eq⟩,
        hinv.valid, hinv.nodup, hinv.corr⟩
  | clear =>
      refine ⟨hinv.routing, hinv.initialized, rfl, ⟨?_, ?_, ?_⟩, ?_,
        List.nodup_nil, fun g => .absent⟩
      · refine SlotTable.Consistent.empty ?_
        intro o ho
        obtain ⟨_, -, rfl⟩ := List.mem_map.mp ho
        rfl
      · intro g b hb
        simp [instanceMachine, ActionServerEndpointImpl.resetContexts] at hb
      · simp [instanceMachine, ActionServerEndpointImpl.resetContexts,
          hinv.store.length_eq]
      · intro g b hb
        simp [instanceMachine, ActionServerEndpointImpl.resetContexts,
          binding] at hb

end Preservation

/-! ## What a step does -/

/-- No Goal is different after the step. -/
structure Unmoved (inst inst' : ServerActionInstance) : Prop where
  binding_eq : ∀ g, inst'.binding g = inst.binding g
  context_eq : ∀ g, inst'.context g = inst.context g
  slotRouting_eq : inst'.endpoint.slotRouting = inst.endpoint.slotRouting

/-- Nothing that concerns a known Goal is seen: calls and sends fail, packets
are rejected, events are errors. -/
def Silent (obs : List ServerObs) : Prop :=
  ∀ o ∈ obs, (∃ c, o = .returned c false) ∨
    (∃ errorReply key data ok, o = .effect (.send errorReply key data ok) ∧
      (errorReply = true ∨ ok = false)) ∨
    (∃ g slot reason, o = .effect (.goalErrorReply g slot reason)) ∨
    ∃ event, o = .event none event ∧ event.type = .error

section Steps

variable {R : PduRegistry} {net : SendOracle}
  {inst inst' : ServerActionInstance}

theorem Unmoved.refl (inst : ServerActionInstance) : Unmoved inst inst :=
  ⟨fun _ => rfl, fun _ => rfl, rfl⟩

/-- The packet queue does not matter. -/
theorem Unmoved.popped (inst : ServerActionInstance)
    (packets : List ServerPendingPacket) :
    Unmoved inst (inst.popped packets) :=
  ⟨fun _ => rfl, fun _ => rfl, rfl⟩

theorem Quiet.silent {obs : List ServerObs} (h : Quiet obs) : Silent obs := by
  intro o ho
  rcases h o ho with hreturned | ⟨key, data, hsend⟩
  · exact Or.inl hreturned
  · exact Or.inr (Or.inl ⟨false, key, data, false, hsend, Or.inr rfl⟩)

theorem silent_sendGoalErrorReply (ep : ActionServerEndpointImpl)
    (g : GoalId) (slot : ℕ) (reason : String) :
    Silent ((ep.sendGoalErrorReply R net g slot reason).map .effect) := by
  intro o ho
  obtain ⟨e, he, rfl⟩ := List.mem_map.mp ho
  unfold ActionServerEndpointImpl.sendGoalErrorReply at he
  rcases List.mem_cons.mp he with rfl | he
  · exact Or.inr (Or.inr (Or.inl ⟨g, slot, reason, rfl⟩))
  · split at he
    · simp at he
    · split at he
      · simp at he
      · rw [List.mem_singleton.mp he]
        exact Or.inr (Or.inl ⟨true, _, _, _, rfl, Or.inl rfl⟩)

/-- A poll changes no Goal, or it is a step of the Goal of the packet. -/
theorem PollCase.steps (hinv : inst.Invariant)
    {result : Option ServerEvent} {obs : List ServerObs}
    (h : PollCase R net inst inst' result obs) :
    (Unmoved inst inst' ∧ Silent obs) ∨
      ∃ g, isValidGoalId g = true ∧ StepsGoal R inst inst' obs g := by
  cases h with
  | idle => exact Or.inl ⟨Unmoved.refl inst, by simp [Silent]⟩
  | invalid => exact Or.inl ⟨Unmoved.popped inst _, by simp [Silent]⟩
  | cancelIgnored => exact Or.inl ⟨Unmoved.popped inst _, by simp [Silent]⟩
  | goalError =>
      exact Or.inl ⟨Unmoved.popped inst _, silent_sendGoalErrorReply _ _ _ _⟩
  | @goalRequest packet rest header _ hqueue hread hkind hreason hrest
      hupdate =>
      obtain ⟨hslot, hg⟩ := readRequest_slot hread
      refine Or.inr ⟨_, hg, [.requested packet.slotIndex], _, _, ?_, hupdate⟩
      have hcorr := hinv.corr header.goalId
      have hb : inst.binding header.goalId = none :=
        (goalErrorReason_eq_none.mp hreason).1
      rw [hb] at hcorr ⊢
      generalize inst.context header.goalId = c at hcorr
      cases hcorr with
      | absent => exact .request hslot rfl rfl
  | cancelRequest hqueue hread hkind hb hslot hstate hpending hcontext hrest
      hupdate =>
      refine Or.inr ⟨_, (readRequest_slot hread).2, [.cancelRequested], _, _,
        ?_, hupdate⟩
      rw [hb, hcontext, ← hslot]
      exact .cancelRequest hstate hpending rfl rfl
  | cancelSwallowed hqueue hread hkind hb hslot hstate hpending hcontext hrest
      hupdate =>
      refine Or.inr ⟨_, (readRequest_slot hread).2, [], _, _, ?_, hupdate⟩
      rw [hb, hcontext]
      exact .cancelSwallowed hstate hpending

/-- Every step other than a reset changes no Goal, or it is a step of one
Goal. -/
theorem step_cases (hinv : inst.Invariant) {i : InstanceInput}
    (hi : i ≠ .clear) :
    (Unmoved inst ((instanceMachine R).step inst i).1 ∧
        Silent ((instanceMachine R).step inst i).2) ∨
      ∃ g, isValidGoalId g = true ∧
        StepsGoal R inst ((instanceMachine R).step inst i).1
          ((instanceMachine R).step inst i).2 g := by
  cases i with
  | receive key data =>
      exact Or.inl ⟨Unmoved.popped inst _, by simp [instanceMachine, Silent]⟩
  | poll net => exact (poll_cases hinv net).steps hinv
  | runtimeCancel event =>
      simp only [instanceMachine]
      generalize hresult :
        inst.handleCancelEvent .runtimeCancelRequest event = result
      obtain rfl | ⟨-, rfl⟩ | ⟨hevent, ⟨b, hb⟩, hstep, -⟩ :=
        runtimeCancel_cases (R := R) hinv event hresult
      · exact Or.inl ⟨Unmoved.refl inst, by simp [Silent]⟩
      · refine Or.inl ⟨Unmoved.refl inst, ?_⟩
        simp [Silent]
      · refine Or.inr ⟨_, hinv.valid hb, ?_⟩
        rw [hevent]
        exact hstep
  | call net c =>
      simp only [instanceMachine]
      split_ifs with hc
      · obtain ⟨hsame, hquiet⟩ | ⟨hstep, -⟩ :=
          call_cases (R := R) hinv net c
        · rw [hsame]
          exact Or.inl ⟨Unmoved.refl inst, hquiet.silent⟩
        · exact Or.inr ⟨_, c.valid_of_argumentsValid hc, hstep⟩
      · exact Or.inl ⟨Unmoved.refl inst, by simp [Silent]⟩
  | stop =>
      exact Or.inl ⟨⟨fun _ => rfl, fun _ => rfl, rfl⟩, by
        simp [instanceMachine, Silent]⟩
  | clear => exact absurd rfl hi

end Steps

end ServerActionInstance

end HakoPduRpc.Action
