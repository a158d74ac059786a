import HakoPduRpc.Action.ServerSteps

/-!
# The two layers of the server agree

In every reachable state of the services a Goal is in the list of accepted
Goals exactly when its packet binding is past the Goal decision, and the two
states belong together.  So a dispatched Cancel Request finds its Goal, and
without a transport disconnect `poll()` reports no error.
-/

namespace HakoPduRpc.Action

open KeyedList

/-! ## From Actions to services -/

namespace ActionServicesServer

variable {R : PduRegistry}

theorem getAction_of_mem {s : ActionServicesServer}
    (hnodup : (s.actions.map (·.actionName)).Nodup)
    {inst : ServerActionInstance} (hinst : inst ∈ s.actions) :
    s.getAction inst.actionName = some inst :=
  (mem_iff_lookup hnodup).mp hinst

/-- After a step every Action is some Action from before, run on the inputs that
it saw. -/
theorem exists_run_of_mem_step {s : ActionServicesServer} {i : ServerInput}
    (hnodup : (s.actions.map (·.actionName)).Nodup)
    {inst' : ServerActionInstance}
    (hinst' : inst' ∈ ((serverMachine R).step s i).1.actions) :
    ∃ inst ∈ s.actions, inst.actionName = inst'.actionName ∧
      inst' = (instanceMachine R).run inst
        (instanceInputs R inst'.actionName s i) := by
  have hmem : inst'.actionName ∈ s.actions.map (·.actionName) := by
    rw [← map_actionName_step (R := R) s i]
    exact List.mem_map_of_mem hinst'
  obtain ⟨inst, hinst, hname⟩ := List.mem_map.mp hmem
  have hget := getAction_of_mem hnodup hinst
  rw [hname] at hget
  have hnodup' : (((serverMachine R).step s i).1.actions.map
      (·.actionName)).Nodup := by
    rw [map_actionName_step]
    exact hnodup
  have hget' := getAction_of_mem hnodup' hinst'
  rw [(step_project (R := R) hnodup hget i).1] at hget'
  exact ⟨inst, hinst, hname, (Option.some.inj hget').symm⟩

theorem mem_runtimeInputs {name : String}
    {actions : List ServerActionInstance} {events : List ServerEvent}
    {j : InstanceInput} (hj : j ∈ runtimeInputs name actions events) :
    ∃ event, j = .runtimeCancel event := by
  induction events with
  | nil => simp [runtimeInputs] at hj
  | cons event rest ih =>
      rw [runtimeInputs] at hj
      split at hj
      · exact ih hj
      · dsimp only at hj
        split at hj
        · rcases List.mem_append.mp hj with hj | hj
          · split_ifs at hj
            · exact ⟨event, List.mem_singleton.mp hj⟩
            · simp at hj
          · exact ih hj
        · split_ifs at hj
          · exact ⟨event, List.mem_singleton.mp hj⟩
          · simp at hj

/-- What an input of the services can be to the Action of a name. -/
inductive ForAction (name : String) : ServerInput → InstanceInput → Prop
  | receive (key : PduResolvedKey) (data : PduData) :
      ForAction name (.receive key data) (.receive key data)
  | poll (net : SendOracle) : ForAction name (.poll net) (.poll net)
  | runtimeCancel (net : SendOracle) (event : ServerEvent) :
      ForAction name (.poll net) (.runtimeCancel event)
  | call (net : SendOracle) (c : ServerCall) :
      ForAction name (.call net name c) (.call net c)
  | stop : ForAction name .stopAllServices .stop
  | clear : ForAction name .clearAllInstances .clear

theorem ForAction.of_mem {s : ActionServicesServer} {name : String}
    {i : ServerInput} {j : InstanceInput}
    (h : j ∈ instanceInputs R name s i) : ForAction name i j := by
  cases i with
  | receive key data =>
      obtain rfl := List.mem_singleton.mp h
      exact .receive key data
  | poll net =>
      rw [instanceInputs, List.mem_append] at h
      rcases h with h | h
      · obtain ⟨event, rfl⟩ := mem_runtimeInputs h
        exact .runtimeCancel net event
      · split_ifs at h
        · cases h
        · obtain ⟨-, rfl⟩ := Fleet.mem_scanInputs h
          exact .poll net
  | call net actionName c =>
      rw [instanceInputs] at h
      split_ifs at h with hname
      · obtain rfl := List.mem_singleton.mp h
        obtain ⟨rfl, -⟩ := hname
        exact .call net c
      · cases h
  | stopAllServices =>
      obtain rfl := List.mem_singleton.mp h
      exact .stop
  | clearAllInstances =>
      obtain rfl := List.mem_singleton.mp h
      exact .clear
  | notifyTransportDisconnected => cases h

/-- What holds of the services in every reachable state. -/
structure Invariant (s : ActionServicesServer) : Prop where
  nodup : (s.actions.map (·.actionName)).Nodup
  actions : ∀ inst ∈ s.actions, inst.Invariant

theorem Invariant.step {s : ActionServicesServer} (h : s.Invariant)
    (i : ServerInput) : ((serverMachine R).step s i).1.Invariant where
  nodup := by
    rw [map_actionName_step]
    exact h.nodup
  actions := by
    intro inst' hinst'
    obtain ⟨inst, hinst, -, heq⟩ := exists_run_of_mem_step h.nodup hinst'
    rw [heq]
    exact (instanceMachine R).invariant (C := fun _ _ => True)
      (fun _ j _ hj => hj.step j) (h.actions inst hinst)
      ((instanceMachine R).along_of_forall (fun _ _ _ => trivial) inst)

theorem invariant_started (nodeId implType : String)
    (endpointExists : String → Bool) (root : Json) :
    (startedServer R nodeId implType endpointExists root).Invariant := by
  obtain ⟨hnodup, hfresh⟩ :=
    startedServer_ok R nodeId implType endpointExists root
  exact ⟨hnodup, fun inst hinst =>
    ServerActionInstance.invariant_of_fresh (hfresh inst hinst)⟩

theorem invariant_run (nodeId implType : String)
    (endpointExists : String → Bool) (root : Json) (is : List ServerInput) :
    ((serverMachine R).run
      (startedServer R nodeId implType endpointExists root) is).Invariant :=
  (serverMachine R).invariant (C := fun _ _ => True)
    (fun _ i _ hs => hs.step i)
    (invariant_started nodeId implType endpointExists root)
    ((serverMachine R).along_of_forall (fun _ _ _ => trivial) _)

/-- Only `notify_transport_disconnected` fills the Runtime Cancel queue. -/
theorem pendingRuntimeEvents_step {s : ActionServicesServer} {i : ServerInput}
    (hi : i ≠ .notifyTransportDisconnected)
    (hs : s.pendingRuntimeEvents = []) :
    ((serverMachine R).step s i).1.pendingRuntimeEvents = [] := by
  cases i with
  | receive key data => exact hs
  | poll net => simp [serverMachine, poll, hs, pollRuntimeEvents]
  | call net actionName call =>
      simp only [serverMachine, ActionServicesServer.call]
      split_ifs
      · exact hs
      · split
        · exact hs
        · exact hs
  | stopAllServices => rfl
  | clearAllInstances => rfl
  | notifyTransportDisconnected => exact absurd rfl hi

theorem pendingRuntimeEvents_run {s : ActionServicesServer}
    (hs : s.pendingRuntimeEvents = []) {is : List ServerInput}
    (his : .notifyTransportDisconnected ∉ is) :
    ((serverMachine R).run s is).pendingRuntimeEvents = [] := by
  refine (serverMachine R).invariant
    (C := fun _ i => i ≠ .notifyTransportDisconnected)
    (I := fun s => s.pendingRuntimeEvents = [])
    (fun _ _ hi h => pendingRuntimeEvents_step hi h) hs ?_
  refine (serverMachine R).along_of_forall (fun i hi _ => ?_) s
  rintro rfl
  exact his hi

theorem pendingRuntimeEvents_started (R : PduRegistry)
    (nodeId implType : String) (endpointExists : String → Bool)
    (root : Json) :
    (startedServer R nodeId implType endpointExists
      root).pendingRuntimeEvents = [] := by
  unfold startedServer initializeServices
  repeat' (first | rfl | split)

theorem pollActions_ne_error {net : SendOracle}
    {actions : List ServerActionInstance}
    (hactions : ∀ inst ∈ actions, inst.Invariant) {name : String}
    {event : ServerEvent}
    (h : (pollActions R net actions).result = some (name, event)) :
    event.type ≠ .error := by
  induction actions with
  | nil => simp [pollActions] at h
  | cons inst rest ih =>
      have hcase := ServerActionInstance.poll_cases (R := R)
        (hactions inst (by simp)) net
      unfold pollActions at h
      dsimp only at h
      split at h
      · next reported hreported =>
          simp only [Option.some.injEq, Prod.mk.injEq] at h
          obtain ⟨-, rfl⟩ := h
          rcases hcase.type_eq hreported with htype | htype <;> simp [htype]
      · exact ih (fun x hx => hactions x (by simp [hx])) h

end ActionServicesServer

/-! ## Two-layer correspondence -/

/-- The states of context and binding that belong together. -/
def StatesCorrespond (context : ServerGoalContext)
    (binding : ActionPacketBinding) : Prop :=
  (context.state = .executing ∧ binding.state = .goalAccepted) ∨
    (context.state = .canceling ∧ binding.state = .cancelAccepted) ∨
    (context.state = .finishing ∧ binding.state = .resultCommitted)

theorem GoalCorr.states {b : Option ActionPacketBinding}
    {c : ServerGoalContext} (h : GoalCorr b (some c)) :
    ∃ binding, b = some binding ∧ isValidServerContext c = true ∧
      StatesCorrespond c binding := by
  cases h with
  | executing hstate => exact ⟨_, rfl, rfl, Or.inl ⟨rfl, hstate⟩⟩
  | clientPending hstate => exact ⟨_, rfl, rfl, Or.inl ⟨rfl, hstate⟩⟩
  | runtimePending hstate => exact ⟨_, rfl, rfl, Or.inl ⟨rfl, hstate⟩⟩
  | canceling hstate => exact ⟨_, rfl, rfl, Or.inr (Or.inl ⟨rfl, hstate⟩)⟩
  | @finishing _ status hstate hpending hstatus =>
      refine ⟨_, rfl, ?_, Or.inr (Or.inr ⟨rfl, hstate⟩)⟩
      cases status
      · exact absurd rfl hstatus
      · rfl
      · rfl
      · rfl

theorem GoalCorr.isSome_iff {b : Option ActionPacketBinding}
    {c : Option ServerGoalContext} (h : GoalCorr b c) :
    c.isSome = true ↔
      ∃ binding, b = some binding ∧ binding.state ≠ .awaitingGoalDecision := by
  cases h <;> simp_all

/-- What the two layers of one Action have to do with each other. -/
structure LayersCorrespond (R : PduRegistry) (inst : ServerActionInstance) :
    Prop where
  /-- A Goal is accepted iff its binding is past the Goal decision. -/
  mem_goals_iff : ∀ g, g ∈ inst.goals.map (·.goal.goalId) ↔
    ∃ b, inst.endpoint.packetBindings.find? g = some b ∧
      b.state ≠ .awaitingGoalDecision
  /-- Goal IDs are pairwise distinct. -/
  nodup_goals : (inst.goals.map (·.goal.goalId)).Nodup
  /-- Stored contexts are valid and belong to the state of the binding. -/
  contexts : ∀ goal ∈ inst.goals, isValidServerContext goal.context = true ∧
    ∃ b, inst.endpoint.packetBindings.find? goal.goal.goalId = some b ∧
      StatesCorrespond goal.context b
  /-- A dispatched Cancel Request finds its Goal. -/
  cancel_found : ∀ net event, (inst.endpoint.poll R net).result = some event →
    event.type = .cancelRequest →
      ∃ goal, inst.getGoal event.goal.goalId = some goal

theorem layersCorrespond_of_invariant {R : PduRegistry}
    {inst : ServerActionInstance} (hinv : inst.Invariant) :
    LayersCorrespond R inst where
  mem_goals_iff := by
    intro g
    refine Iff.trans ?_ (hinv.corr g).isSome_iff
    rw [ServerActionInstance.context, Option.isSome_map,
      ← Option.ne_none_iff_isSome]
    simp [ServerActionInstance.getGoal, lookup_eq_none_iff]
  nodup_goals := hinv.nodup
  contexts := by
    intro goal hgoal
    have hget : inst.getGoal goal.goal.goalId = some goal :=
      (mem_iff_lookup hinv.nodup).mp hgoal
    have hcorr := hinv.corr goal.goal.goalId
    rw [(ServerActionInstance.context_eq_some hget).1] at hcorr
    obtain ⟨b, hb, hvalid, hstates⟩ := hcorr.states
    exact ⟨hvalid, b, hb, hstates⟩
  cancel_found := fun net event hevent htype =>
    ServerActionInstance.getGoal_of_dispatched hinv net hevent htype

/-- The services after start-up and a list of inputs. -/
def reachableServer (R : PduRegistry) (nodeId implType : String)
    (endpointExists : String → Bool) (root : Json) (is : List ServerInput) :
    ActionServicesServer :=
  (serverMachine R).run (startedServer R nodeId implType endpointExists root) is

/-- In every reachable state the layers of every Action correspond, and without
a transport disconnect `poll()` never reports an error. -/
theorem server_layers_correspond (R : PduRegistry) (nodeId implType : String)
    (endpointExists : String → Bool) (root : Json) (is : List ServerInput) :
    (∀ inst ∈
        (reachableServer R nodeId implType endpointExists root is).actions,
      LayersCorrespond R inst) ∧
    (.notifyTransportDisconnected ∉ is →
      ∀ net name event,
        ((reachableServer R nodeId implType endpointExists root is).poll R
          net).result = some (name, event) →
        event.type ≠ .error) := by
  have hinv := ActionServicesServer.invariant_run (R := R) nodeId implType
    endpointExists root is
  constructor
  · intro inst hinst
    exact layersCorrespond_of_invariant (hinv.actions inst hinst)
  · intro his net name event hpoll
    have hempty := ActionServicesServer.pendingRuntimeEvents_run (R := R)
      (ActionServicesServer.pendingRuntimeEvents_started R nodeId implType
        endpointExists root) his
    simp only [reachableServer, ActionServicesServer.poll, hempty,
      ActionServicesServer.pollRuntimeEvents] at hpoll
    exact ActionServicesServer.pollActions_ne_error hinv.actions hpoll

end HakoPduRpc.Action
