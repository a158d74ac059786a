import HakoPduRpc.Action.ServerCorrespondence
import HakoPduRpc.Pdu.Layout

/-!
# The cancel flags of the two layers of the server

The endpoint remembers that a Client Cancel waits for an answer
(`cancel_decision_pending` of the binding), and so does the services layer
(`cancel_decision_pending` of the context, with its origin).  The two agree as
long as the Client Cancel and the Runtime Cancel of one Goal do not overlap.

There are two overlaps.  A Runtime Cancel that meets a pending Client decision
changes the origin of the decision and leaves the flag of the binding alone; a
Client Cancel that meets a pending Runtime decision sets the flag of the binding
and is not reported.  In both cases `reject_cancel` of the Runtime decision
leaves the flag of the binding set, and later Cancel Requests are ignored.
-/

namespace HakoPduRpc.Action

open KeyedList

/-! ## Flags of one Goal -/

/-- The flag of a binding says that a Client decision is pending. -/
def GoalFlags (b : Option ActionPacketBinding)
    (c : Option ServerGoalContext) : Prop :=
  ∀ b', b = some b' →
    (b'.cancelDecisionPending = true ↔ c = some clientPending)

theorem goalFlags_none (c : Option ServerGoalContext) : GoalFlags none c := by
  intro b' hb'
  cases hb'

theorem goalFlags_some {b : ActionPacketBinding}
    {c : Option ServerGoalContext} :
    GoalFlags (some b) c ↔
      (b.cancelDecisionPending = true ↔ c = some clientPending) := by
  simp [GoalFlags]

@[simp] theorem executing_ne_clientPending :
    ({} : ServerGoalContext) ≠ clientPending := by decide

@[simp] theorem runtimePending_ne_clientPending :
    runtimePending ≠ clientPending := by decide

@[simp] theorem cancelingContext_ne_clientPending :
    cancelingContext ≠ clientPending := by decide

@[simp] theorem finishingContext_ne_clientPending (status : TerminalStatus) :
    finishingContext status ≠ clientPending := by
  cases status <;> decide

/-- A step seen through the return of a call keeps the flags of its Goal in
agreement. -/
theorem ServerGoalStep.flags_of_returned {R : PduRegistry}
    {routing : List SlotRouting} {g : GoalId}
    {b b' : Option ActionPacketBinding} {c c' : Option ServerGoalContext}
    {obs : List ServerObs} {es : List ServerEntry}
    (h : ServerGoalStep R routing g b c obs es b' c') (hflags : GoalFlags b c)
    {call : ServerCall} {result : Bool}
    (hobs : ServerObs.returned call result ∈ obs) : GoalFlags b' c' := by
  cases h with
  | request => simp at hobs
  | acceptGoal hstate =>
      rw [goalFlags_some] at hflags ⊢
      simpa using hflags
  | rejectGoal => exact goalFlags_none _
  | discard => exact goalFlags_none _
  | cancelRequest => simp at hobs
  | cancelSwallowed => simp at hobs
  | runtimeCancel => simp at hobs
  | runtimeReclassify => simp at hobs
  | acceptCancel =>
      simp [goalFlags_some]
  | acceptCancelLocally =>
      simp [goalFlags_some]
  | rejectCancel => simp [goalFlags_some]
  | rejectRuntimeCancel =>
      rw [goalFlags_some] at hflags ⊢
      simpa using hflags
  | feedback =>
      rw [goalFlags_some] at hflags ⊢
      exact hflags
  | complete => exact goalFlags_none _
  | commitOnly =>
      simp [goalFlags_some, ActionServerEndpointImpl.committed]
  | completeLocally => exact goalFlags_none _

/-! ## Flags of one Action -/

namespace ServerActionInstance

/-- The services wait for a decision on a Cancel of this origin. -/
def DecisionPending (inst : ServerActionInstance) (g : GoalId)
    (origin : CancelOrigin) : Prop :=
  ∃ c, inst.context g = some c ∧ c.cancelDecisionPending = true ∧
    c.cancelOrigin = origin

/-- The flag of every binding is set exactly while a Client decision of its
Goal is pending. -/
def FlagsAgree (inst : ServerActionInstance) : Prop :=
  ∀ g b, inst.binding g = some b →
    (b.cancelDecisionPending = true ↔ inst.DecisionPending g .client)

/-- The step brings no Client Cancel and Runtime Cancel of one Goal together:
a Runtime Cancel does not meet a pending Client decision, and the Cancel Request
that `poll()` takes from the queue does not meet a pending Runtime decision. -/
def CancelsSeparate (R : PduRegistry) (inst : ServerActionInstance) :
    InstanceInput → Prop
  | .runtimeCancel event => ¬inst.DecisionPending event.goal.goalId .client
  | .poll _ => ∀ packet ∈ inst.endpoint.pendingPackets.head?,
      ∀ header ∈ inst.endpoint.readRequest R packet,
      header.requestKind = requestKindCancel →
      inst.endpoint.ignoredCancelReason header.goalId packet.slotIndex =
        none →
      ¬inst.DecisionPending header.goalId .runtime
  | _ => True

section Step

variable {R : PduRegistry} {inst inst' : ServerActionInstance} {g : GoalId}

theorem decisionPending_client (hinv : inst.Invariant) (g : GoalId) :
    inst.DecisionPending g .client ↔ inst.context g = some clientPending := by
  have hcorr := hinv.corr g
  unfold DecisionPending
  constructor
  · rintro ⟨c, hc, hpending, horigin⟩
    rw [hc] at hcorr ⊢
    generalize inst.binding g = b at hcorr
    cases hcorr with
    | clientPending => rfl
    | executing => simp at hpending
    | runtimePending => simp at horigin
    | canceling => simp [cancelingContext] at hpending
    | finishing => simp [finishingContext] at hpending
  · exact fun hc => ⟨_, hc, rfl, rfl⟩

theorem decisionPending_runtime (hinv : inst.Invariant) (g : GoalId) :
    inst.DecisionPending g .runtime ↔
      inst.context g = some runtimePending := by
  have hcorr := hinv.corr g
  unfold DecisionPending
  constructor
  · rintro ⟨c, hc, hpending, horigin⟩
    rw [hc] at hcorr ⊢
    generalize inst.binding g = b at hcorr
    cases hcorr with
    | runtimePending => rfl
    | executing => simp at hpending
    | clientPending => simp at horigin
    | canceling => simp [cancelingContext] at hpending
    | finishing => simp [finishingContext] at hpending
  · exact fun hc => ⟨_, hc, rfl, rfl⟩

theorem flagsAgree_iff (hinv : inst.Invariant) :
    inst.FlagsAgree ↔ ∀ g, GoalFlags (inst.binding g) (inst.context g) := by
  simp only [FlagsAgree, decisionPending_client hinv]
  exact Iff.rfl

/-- A step of one Goal keeps the flags in agreement exactly when it does so for
that Goal. -/
theorem FlagsAgree.update {b : Option ActionPacketBinding}
    {c : Option ServerGoalContext} (hinv : inst.Invariant)
    (hinv' : inst'.Invariant) (hflags : inst.FlagsAgree)
    (h : GoalUpdate inst inst' g b c) :
    inst'.FlagsAgree ↔ GoalFlags b c := by
  rw [flagsAgree_iff hinv] at hflags
  rw [flagsAgree_iff hinv']
  constructor
  · intro h'
    have hg := h' g
    rwa [h.binding_eq, h.context_eq, if_pos rfl, if_pos rfl] at hg
  · intro hg g'
    rw [h.binding_eq, h.context_eq]
    split_ifs
    · exact hg
    · exact hflags g'

theorem flagsAgree_call (hinv : inst.Invariant) (hflags : inst.FlagsAgree)
    {net : SendOracle} {c : ServerCall} (hc : c.argumentsValid = true) :
    (inst.call R net c).state.FlagsAgree := by
  obtain ⟨hsame, -⟩ | ⟨⟨es, b, context, hstep, hupdate⟩, -⟩ :=
    call_cases (R := R) hinv net c
  · rw [hsame]
    exact hflags
  · have hgoal := (flagsAgree_iff hinv).mp hflags c.goal.goalId
    exact (hflags.update hinv (hinv.call hc) hupdate).mpr
      (hstep.flags_of_returned hgoal (mem_callObs _ _))

/-- The condition on a poll, for the packet at the head of the queue. -/
theorem cancelsSeparate_poll {packet : ServerPendingPacket}
    {rest : List ServerPendingPacket} {header : ActionRequestHeader}
    {net : SendOracle}
    (hqueue : inst.endpoint.pendingPackets = packet :: rest)
    (hread : inst.endpoint.readRequest R packet = some header) :
    inst.CancelsSeparate R (.poll net) ↔
      (header.requestKind = requestKindCancel →
        inst.endpoint.ignoredCancelReason header.goalId packet.slotIndex =
          none →
        ¬inst.DecisionPending header.goalId .runtime) := by
  simp [CancelsSeparate, hqueue, hread]

/-- Polling keeps the flags in agreement unless it swallows a Cancel Request. -/
theorem flagsAgree_poll (hinv : inst.Invariant) (hflags : inst.FlagsAgree)
    (net : SendOracle) :
    ((instanceMachine R).step inst (.poll net)).1.FlagsAgree ↔
      inst.CancelsSeparate R (.poll net) := by
  have hinv' := hinv.step (R := R) (.poll net)
  have hcase := poll_cases (R := R) hinv net
  change (inst.pollEndpoint R net).state.FlagsAgree ↔ _
  change (inst.pollEndpoint R net).state.Invariant at hinv'
  generalize (inst.pollEndpoint R net).state = inst' at hcase hinv' ⊢
  generalize (inst.pollEndpoint R net).result = result at hcase
  generalize inst.pollObs R net = obs at hcase
  cases hcase with
  | idle hempty => simpa [CancelsSeparate, hempty] using hflags
  | invalid hqueue hread =>
      refine iff_of_true hflags ?_
      simp [CancelsSeparate, hqueue, hread]
  | cancelIgnored hqueue hread hkind hreason =>
      rw [cancelsSeparate_poll hqueue hread]
      exact iff_of_true hflags fun _ hnone => by simp [hreason] at hnone
  | goalError hqueue hread hkind =>
      rw [cancelsSeparate_poll hqueue hread]
      exact iff_of_true hflags fun hkind' => absurd hkind' hkind
  | goalRequest hqueue hread hkind hreason hrest hupdate =>
      rw [cancelsSeparate_poll hqueue hread,
        hflags.update hinv hinv' hupdate]
      refine iff_of_true ?_ fun hkind' => absurd hkind' hkind
      simp [goalFlags_some]
  | cancelRequest hqueue hread hkind hb hslot hstate hpending hcontext hrest
      hupdate =>
      rw [cancelsSeparate_poll hqueue hread, decisionPending_runtime hinv,
        hcontext, hflags.update hinv hinv' hupdate]
      refine iff_of_true ?_ fun _ _ => by decide
      simp [goalFlags_some]
  | cancelSwallowed hqueue hread hkind hb hslot hstate hpending hcontext hrest
      hupdate =>
      rw [cancelsSeparate_poll hqueue hread, decisionPending_runtime hinv,
        hcontext, hflags.update hinv hinv' hupdate]
      refine iff_of_false ?_ ?_
      · simp [goalFlags_some]
      · intro hseparate
        exact hseparate hkind (ignoredCancelReason_eq_none.mpr
          ⟨_, hb, hslot, hstate, hpending⟩) rfl

/-- A Runtime Cancel keeps the flags in agreement unless it meets a Client
decision. -/
theorem flagsAgree_runtimeCancel (hinv : inst.Invariant)
    (hflags : inst.FlagsAgree) (event : ServerEvent) :
    ((instanceMachine R).step inst (.runtimeCancel event)).1.FlagsAgree ↔
      inst.CancelsSeparate R (.runtimeCancel event) := by
  have hinv' := hinv.handleCancelEvent R event
  change (inst.handleCancelEvent .runtimeCancelRequest event).1.FlagsAgree ↔
    ¬inst.DecisionPending event.goal.goalId .client
  rw [decisionPending_client hinv]
  generalize hresult :
    inst.handleCancelEvent .runtimeCancelRequest event = result at hinv'
  obtain rfl | ⟨hcontext, rfl⟩ | ⟨-, -, ⟨es, b, c, hstep, hupdate⟩, hsame⟩ :=
    runtimeCancel_cases (R := R) hinv event hresult
  · refine iff_of_true hflags ?_
    intro hcontext
    obtain ⟨goal, hget, hgoal⟩ := Option.map_eq_some_iff.mp hcontext
    simp only [handleCancelEvent, hget, hgoal] at hresult
    simp [clientPending, transitionServerGoal, isValidServerContext] at hresult
  · exact iff_of_true hflags (by simp [hcontext])
  · rw [hflags.update hinv hinv' hupdate]
    have hgoal := (flagsAgree_iff hinv).mp hflags event.goal.goalId
    generalize inst.binding event.goal.goalId = b₀ at hstep hgoal
    generalize inst.context event.goal.goalId = c₀ at hstep hgoal
    cases hstep with
    | runtimeCancel =>
        rw [goalFlags_some] at hgoal ⊢
        simpa using hgoal
    | runtimeReclassify =>
        rw [goalFlags_some] at hgoal ⊢
        simpa using hgoal

/-- A step keeps the flags in agreement exactly when it brings no two Cancels
of one Goal together. -/
theorem flagsAgree_step_iff (hinv : inst.Invariant)
    (hflags : inst.FlagsAgree) (i : InstanceInput) :
    ((instanceMachine R).step inst i).1.FlagsAgree ↔
      inst.CancelsSeparate R i := by
  cases i with
  | receive key data => exact iff_of_true hflags trivial
  | poll net => exact flagsAgree_poll hinv hflags net
  | runtimeCancel event => exact flagsAgree_runtimeCancel hinv hflags event
  | call net c =>
      refine iff_of_true ?_ trivial
      simp only [instanceMachine]
      split_ifs with hc
      · exact flagsAgree_call hinv hflags hc
      · exact hflags
  | stop => exact iff_of_true hflags trivial
  | clear =>
      refine iff_of_true ?_ trivial
      intro g b hb
      simp [instanceMachine, binding,
        ActionServerEndpointImpl.resetContexts] at hb

end Step

/-- A rejected Cancel leaves no decision pending in either layer. -/
theorem clear_of_rejectCancel {R : PduRegistry} {net : SendOracle}
    {inst : ServerActionInstance} (hinv : inst.Invariant)
    (hflags : inst.FlagsAgree) {goal : ServerGoalHandle}
    (hresult : (inst.rejectCancel R net goal).result = true) :
    ∃ b, (inst.rejectCancel R net goal).state.binding goal.goalId = some b ∧
      b.state = .goalAccepted ∧ b.cancelDecisionPending = false ∧
      (inst.rejectCancel R net goal).state.context goal.goalId = some {} := by
  have hgoal := (flagsAgree_iff hinv).mp hflags goal.goalId
  have hcorr := hinv.corr goal.goalId
  obtain ⟨-, hquiet⟩ | ⟨⟨es, b, c, hstep, hupdate⟩, -⟩ :=
    rejectCancel_cases (R := R) hinv net goal
  · have := hquiet (.returned (.rejectCancel goal) true)
      (by simp [callObs, hresult])
    simp at this
  · dsimp only [ServerCall.goal] at hstep hupdate
    rw [hupdate.binding_eq, hupdate.context_eq, if_pos rfl, if_pos rfl]
    generalize hobs : callObs (.rejectCancel goal)
      (inst.rejectCancel R net goal) = obs at hstep
    have hmem : ServerObs.returned (.rejectCancel goal) true ∈ obs := by
      simp [← hobs, callObs, hresult]
    generalize inst.binding goal.goalId = b₀ at hstep hgoal hcorr
    generalize inst.context goal.goalId = c₀ at hstep hgoal hcorr
    cases hstep with
    | rejectCancel hstate hpending => exact ⟨_, rfl, hstate, rfl, rfl⟩
    | rejectRuntimeCancel =>
        rw [goalFlags_some] at hgoal
        cases hcorr with
        | runtimePending hstate =>
            refine ⟨_, rfl, hstate, ?_, rfl⟩
            simpa using hgoal
    | commitOnly hmay hfailed =>
        obtain rfl | ⟨key, data, rfl⟩ := hfailed <;> simp at hmem
    | _ => simp at hmem

/-- A Cancel Request for a Goal without a pending decision is dispatched. -/
theorem dispatched_of_clear {R : PduRegistry} {inst : ServerActionInstance}
    (hinv : inst.Invariant) (hflags : inst.FlagsAgree)
    {packet : ServerPendingPacket} {rest : List ServerPendingPacket}
    {header : ActionRequestHeader} {b : ActionPacketBinding}
    (hqueue : inst.endpoint.pendingPackets = packet :: rest)
    (hread : inst.endpoint.readRequest R packet = some header)
    (hkind : header.requestKind = requestKindCancel)
    (hb : inst.binding header.goalId = some b)
    (hslot : b.slotIndex = packet.slotIndex)
    (hcontext : inst.context header.goalId = some {}) (net : SendOracle) :
    ∃ event, (inst.pollEndpoint R net).result = some event ∧
      event.type = .cancelRequest ∧ event.goal = ⟨header.goalId⟩ := by
  have hgoal := (flagsAgree_iff hinv).mp hflags header.goalId
  have hcorr := hinv.corr header.goalId
  rw [hb, hcontext, goalFlags_some] at hgoal
  rw [hb, hcontext] at hcorr
  have hstate : b.state = .goalAccepted := by
    cases hcorr with
    | executing hstate => exact hstate
  have hpending : b.cancelDecisionPending = false := by simpa using hgoal
  have hreason : inst.endpoint.ignoredCancelReason header.goalId
      packet.slotIndex = none :=
    ignoredCancelReason_eq_none.mpr ⟨b, hb, hslot, hstate, hpending⟩
  have hcase := poll_cases (R := R) hinv net
  generalize (inst.pollEndpoint R net).state = inst' at hcase
  generalize (inst.pollEndpoint R net).result = result at hcase ⊢
  generalize inst.pollObs R net = obs at hcase
  cases hcase with
  | idle hempty => simp [hempty] at hqueue
  | invalid hqueue' hread' => simp_all
  | cancelIgnored hqueue' hread' hkind' hreason' => simp_all
  | goalError hqueue' hread' hkind' => simp_all
  | goalRequest hqueue' hread' hkind' => simp_all
  | cancelRequest hqueue' hread' =>
      rw [hqueue, List.cons.injEq] at hqueue'
      rw [← hqueue'.1, hread, Option.some.injEq] at hread'
      exact ⟨_, rfl, rfl, by rw [hread']; rfl⟩
  | cancelSwallowed hqueue' hread' _ _ _ _ _ hcontext' =>
      rw [hqueue, List.cons.injEq] at hqueue'
      rw [← hqueue'.1, hread, Option.some.injEq] at hread'
      rw [← hread', hcontext] at hcontext'
      exact absurd hcontext' (by decide)

end ServerActionInstance

/-! ## Flags of the services -/

namespace ActionServicesServer

open ServerActionInstance

variable {R : PduRegistry}

/-- The step brings no Client Cancel and Runtime Cancel of one Goal together in
any Action. -/
def NoCancelOverlap (R : PduRegistry) (s : ActionServicesServer)
    (i : ServerInput) : Prop :=
  ∀ inst ∈ s.actions, (instanceMachine R).Along
    (fun inst j => inst.CancelsSeparate R j) inst
    (instanceInputs R inst.actionName s i)

/-- An input that does nothing to an Action. -/
def Idle (R : PduRegistry) (inst : ServerActionInstance)
    (j : InstanceInput) : Prop :=
  ((instanceMachine R).step inst j).1 = inst ∧ inst.CancelsSeparate R j

theorem idle_append {inst : ServerActionInstance} {is : List InstanceInput}
    (his : ∀ i ∈ is, Idle R inst i) (js : List InstanceInput) :
    (instanceMachine R).run inst (is ++ js) = (instanceMachine R).run inst js ∧
      ((instanceMachine R).Along (fun inst j => inst.CancelsSeparate R j) inst
          (is ++ js) ↔
        (instanceMachine R).Along (fun inst j => inst.CancelsSeparate R j) inst
          js) := by
  induction is with
  | nil => exact ⟨rfl, Iff.rfl⟩
  | cons i is ih =>
      obtain ⟨hsame, hseparate⟩ := his i (by simp)
      obtain ⟨hrun, halong⟩ := ih fun j hj => his j (by simp [hj])
      simp only [List.cons_append, Machine.run_cons, Machine.along_cons, hsame]
      exact ⟨hrun, by rw [halong]; exact and_iff_right hseparate⟩

theorem idle_of_unreported {inst : ServerActionInstance}
    (hinv : inst.Invariant) {event : ServerEvent}
    (h : (inst.handleCancelEvent .runtimeCancelRequest event).2 = none) :
    Idle R inst (.runtimeCancel event) := by
  have hsame := inst.handleCancelEvent_eq_self h
  refine ⟨hsame, ?_⟩
  change ¬inst.DecisionPending event.goal.goalId .client
  rw [decisionPending_client hinv]
  intro hcontext
  obtain ⟨goal, hget, hgoal⟩ := Option.map_eq_some_iff.mp hcontext
  simp only [handleCancelEvent, hget, hgoal] at h
  simp [clientPending, transitionServerGoal, isValidServerContext] at h

/-- The Runtime Cancel loop does something to an Action at most once, and then
`poll()` is over. -/
theorem runtimeInputs_split {name : String}
    {actions : List ServerActionInstance} {inst : ServerActionInstance}
    (hinv : inst.Invariant)
    (hinst : lookup (·.actionName) name actions = some inst)
    (events : List ServerEvent) :
    ∃ idle last, runtimeInputs name actions events = idle ++ last ∧
      (∀ i ∈ idle, Idle R inst i) ∧ last.length ≤ 1 ∧
      ((pollRuntimeEvents actions events).result = none → last = []) := by
  induction events with
  | nil => exact ⟨[], [], rfl, by simp, by simp, fun _ => rfl⟩
  | cons event rest ih =>
      obtain ⟨idle, last, heq, hidle, hlast, hnone⟩ := ih
      rw [runtimeInputs, pollRuntimeEvents_cons]
      cases hfound : lookup (·.actionName) event.actionName actions with
      | none => exact ⟨idle, last, heq, hidle, hlast, hnone⟩
      | some found =>
          dsimp only
          cases hhandled :
              (found.handleCancelEvent .runtimeCancelRequest event).2 with
          | none =>
              by_cases hname : event.actionName = name
              · obtain rfl : found = inst := by
                  rw [hname, hinst] at hfound
                  exact (Option.some.inj hfound).symm
                refine ⟨.runtimeCancel event :: idle, last, ?_, ?_, hlast,
                  hnone⟩
                · simp [hname, heq]
                · simpa using ⟨idle_of_unreported hinv hhandled, hidle⟩
              · exact ⟨idle, last, by simp [hname, heq], hidle, hlast, hnone⟩
          | some reported =>
              refine ⟨[], if event.actionName = name then
                [.runtimeCancel event] else [], rfl, by simp, ?_, by simp⟩
              split_ifs <;> simp

/-- A step of the services does something to an Action at most once. -/
theorem instanceInputs_split {s : ActionServicesServer} {name : String}
    {inst : ServerActionInstance} (hinv : inst.Invariant)
    (hinst : s.getAction name = some inst) (i : ServerInput) :
    ∃ idle last, instanceInputs R name s i = idle ++ last ∧
      (∀ i ∈ idle, Idle R inst i) ∧ last.length ≤ 1 := by
  cases i with
  | poll net =>
      obtain ⟨idle, last, heq, hidle, hlast, hnone⟩ :=
        runtimeInputs_split (R := R) hinv hinst s.pendingRuntimeEvents
      rw [instanceInputs, heq]
      cases hresult :
          (pollRuntimeEvents s.actions s.pendingRuntimeEvents).result with
      | none =>
          refine ⟨idle, pollInputs R net name s.actions, ?_, hidle,
            Fleet.length_scanInputs_le name s.actions⟩
          simp [hnone hresult]
      | some reported => exact ⟨idle, last, by simp, hidle, hlast⟩
  | receive key data => exact ⟨[], _, rfl, by simp, by simp⟩
  | call net actionName call =>
      refine ⟨[], if actionName = name ∧ actionName ≠ "" then
        [.call net call] else [], rfl, by simp, ?_⟩
      split_ifs <;> simp
  | stopAllServices => exact ⟨[], _, rfl, by simp, by simp⟩
  | clearAllInstances => exact ⟨[], _, rfl, by simp, by simp⟩
  | notifyTransportDisconnected => exact ⟨[], _, rfl, by simp, by simp⟩

/-- One step of the services, seen from one Action. -/
theorem flagsAgree_run_iff {s : ActionServicesServer} {name : String}
    {inst : ServerActionInstance} (hinv : inst.Invariant)
    (hflags : inst.FlagsAgree) (hinst : s.getAction name = some inst)
    (i : ServerInput) :
    ((instanceMachine R).run inst (instanceInputs R name s i)).FlagsAgree ↔
      (instanceMachine R).Along (fun inst j => inst.CancelsSeparate R j) inst
        (instanceInputs R name s i) := by
  obtain ⟨idle, last, heq, hidle, hlast⟩ :=
    instanceInputs_split (R := R) hinv hinst i
  obtain ⟨hrun, halong⟩ := idle_append hidle last
  rw [heq, hrun, halong]
  match last, hlast with
  | [], _ => exact iff_of_true hflags trivial
  | [j], _ => simpa using flagsAgree_step_iff hinv hflags j

/-- A step of the services keeps the flags of all Actions in agreement exactly
when it brings no two Cancels of one Goal together. -/
theorem flagsAgree_step_iff {s : ActionServicesServer} (hinv : s.Invariant)
    (hflags : ∀ inst ∈ s.actions, inst.FlagsAgree) (i : ServerInput) :
    (∀ inst ∈ ((serverMachine R).step s i).1.actions, inst.FlagsAgree) ↔
      s.NoCancelOverlap R i := by
  constructor
  · intro hafter inst hinst
    have hget := getAction_of_mem hinv.nodup hinst
    have hnext := (step_project (R := R) hinv.nodup hget i).1
    exact (flagsAgree_run_iff (hinv.actions inst hinst) (hflags inst hinst)
      hget i).mp (hafter _ (lookup_mem hnext))
  · intro hoverlap inst' hinst'
    obtain ⟨inst, hinst, hname, heq⟩ :=
      exists_run_of_mem_step hinv.nodup hinst'
    have hget := getAction_of_mem hinv.nodup hinst
    rw [heq, ← hname]
    exact (flagsAgree_run_iff (hinv.actions inst hinst) (hflags inst hinst)
      hget i).mpr (hoverlap inst hinst)

/-- The flags agree in all states of a run exactly when no step of it brings two
Cancels of one Goal together. -/
theorem flagsAgree_prefixes_iff {s : ActionServicesServer}
    (hinv : s.Invariant) (hflags : ∀ inst ∈ s.actions, inst.FlagsAgree)
    (is : List ServerInput) :
    (∀ js, js <+: is →
        ∀ inst ∈ ((serverMachine R).run s js).actions, inst.FlagsAgree) ↔
      (serverMachine R).Along (fun s i => s.NoCancelOverlap R i) s is := by
  induction is generalizing s with
  | nil => simpa using hflags
  | cons i is ih =>
      rw [Machine.along_cons]
      have hstep := flagsAgree_step_iff (R := R) hinv hflags i
      constructor
      · intro hall
        have hnext := hall [i] (by simp)
        refine ⟨hstep.mp hnext, (ih (hinv.step i) hnext).mp ?_⟩
        intro js hjs
        exact hall (i :: js) (by simpa using hjs)
      · rintro ⟨hhead, htail⟩ js hjs
        have hnext := hstep.mpr hhead
        cases js with
        | nil => simpa using hflags
        | cons j js =>
            obtain ⟨rfl, htail'⟩ := List.cons_prefix_cons.mp hjs
            exact (ih (hinv.step j) hnext).mpr htail js htail'

end ActionServicesServer

/-- The cancel flags of the two layers of one Action agree; after a successful
`reject_cancel` no decision is pending in either layer; and a valid Cancel
Request for an executing Goal without a pending decision is dispatched. -/
structure CancelLayersAgree (R : PduRegistry) (inst : ServerActionInstance) :
    Prop where
  flags : inst.FlagsAgree
  reject_clears : ∀ net goal, (inst.rejectCancel R net goal).result = true →
    ∃ b, (inst.rejectCancel R net goal).state.binding goal.goalId = some b ∧
      b.cancelDecisionPending = false ∧
      ∀ origin, ¬(inst.rejectCancel R net goal).state.DecisionPending
        goal.goalId origin
  dispatches : ∀ net packet rest header b c,
    inst.endpoint.pendingPackets = packet :: rest →
    inst.endpoint.readRequest R packet = some header →
    header.requestKind = requestKindCancel →
    inst.binding header.goalId = some b → b.slotIndex = packet.slotIndex →
    inst.context header.goalId = some c → c.state = .executing →
    c.cancelDecisionPending = false →
    ∃ event, (inst.pollEndpoint R net).result = some event ∧
      event.type = .cancelRequest ∧ event.goal = ⟨header.goalId⟩

theorem cancelLayersAgree_of_flagsAgree {R : PduRegistry}
    {inst : ServerActionInstance} (hinv : inst.Invariant)
    (hflags : inst.FlagsAgree) : CancelLayersAgree R inst where
  flags := hflags
  reject_clears := by
    intro net goal hresult
    obtain ⟨b, hb, -, hpending, hcontext⟩ :=
      ServerActionInstance.clear_of_rejectCancel hinv hflags hresult
    refine ⟨b, hb, hpending, ?_⟩
    rintro origin ⟨c, hc, hc', -⟩
    rw [hcontext, Option.some.injEq] at hc
    simp [← hc] at hc'
  dispatches := by
    intro net packet rest header b c hqueue hread hkind hb hslot hcontext
      hstate hpending
    have hcorr := hinv.corr header.goalId
    rw [hcontext] at hcorr
    have hc : c = {} := by
      generalize inst.binding header.goalId = b at hcorr
      cases hcorr with
      | executing => rfl
      | clientPending => simp [clientPending] at hpending
      | runtimePending => simp [runtimePending] at hpending
      | canceling => simp [cancelingContext] at hstate
      | finishing => simp [finishingContext] at hstate
    rw [hc] at hcontext
    exact ServerActionInstance.dispatched_of_clear hinv hflags hqueue hread
      hkind hb hslot hcontext net

/-- The cancel flags of the two layers agree in every state of a run exactly
when no step of the run brings a Client Cancel and a Runtime Cancel of one Goal
together. -/
theorem server_cancel_flags_agree_iff (R : PduRegistry)
    (nodeId implType : String) (endpointExists : String → Bool) (root : Json)
    (is : List ServerInput) :
    (∀ js, js <+: is →
        ∀ inst ∈
          (reachableServer R nodeId implType endpointExists root js).actions,
        CancelLayersAgree R inst) ↔
      (serverMachine R).Along (fun s i => s.NoCancelOverlap R i)
        (startedServer R nodeId implType endpointExists root) is := by
  have hinv := ActionServicesServer.invariant_started (R := R) nodeId implType
    endpointExists root
  have hfresh := (ActionServicesServer.startedServer_ok R nodeId implType
    endpointExists root).2
  have hflags : ∀ inst ∈
      (startedServer R nodeId implType endpointExists root).actions,
      inst.FlagsAgree := by
    intro inst hinst g b hb
    rw [ServerActionInstance.binding, (hfresh inst hinst).endpoint_eq] at hb
    simp at hb
  rw [← ActionServicesServer.flagsAgree_prefixes_iff hinv hflags is]
  constructor
  · intro h js hjs inst hinst
    exact (h js hjs inst hinst).flags
  · intro h js hjs inst hinst
    exact cancelLayersAgree_of_flagsAgree
      ((ActionServicesServer.invariant_run nodeId implType endpointExists root
        js).actions inst hinst) (h js hjs inst hinst)

/-- A Client Cancel whose decision is pending when the transport disconnects;
the application rejects the Runtime Cancel. -/
def overlappingCancels : List ServerInput :=
  let net : SendOracle := fun _ _ => true
  let request : PduResolvedKey := ⟨"fibonacci", 0⟩
  [.receive request (sampleRequest requestKindGoal), .poll net,
    .call net "fibonacci" (.acceptGoal ⟨sampleGoalId⟩),
    .receive request (sampleRequest requestKindCancel), .poll net,
    .notifyTransportDisconnected, .poll net,
    .call net "fibonacci" (.rejectCancel ⟨sampleGoalId⟩)]

/-- After the rejection the services know of no decision, but the flag of the
binding is still set. -/
theorem overlappingCancels_disagree :
    ¬∀ inst ∈ (reachableServer sampleRegistry "fibonacci-server"
        "ActionServerEndpointImpl" (fun _ => true) (fibonacciConfiguration 1)
        overlappingCancels).actions,
      CancelLayersAgree sampleRegistry inst := by
  intro h
  have hstate : (reachableServer sampleRegistry "fibonacci-server"
      "ActionServerEndpointImpl" (fun _ => true) (fibonacciConfiguration 1)
      overlappingCancels).actions.map
        (fun inst => ((inst.binding sampleGoalId).map
          (·.cancelDecisionPending), inst.context sampleGoalId)) =
      [(some true, some {})] := by
    decide +kernel
  obtain ⟨inst, hinst, hpair⟩ :=
    List.mem_map.mp (hstate ▸ List.mem_singleton_self _)
  simp only [Prod.mk.injEq] at hpair
  obtain ⟨b, hb, hpending⟩ := Option.map_eq_some_iff.mp hpair.1
  obtain ⟨c, hc, hc', -⟩ := ((h inst hinst).flags sampleGoalId b hb).mp hpending
  rw [hpair.2, Option.some.injEq] at hc
  simp [← hc] at hc'

end HakoPduRpc.Action
