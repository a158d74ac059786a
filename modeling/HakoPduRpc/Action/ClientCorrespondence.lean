import HakoPduRpc.Action.ClientSteps

/-!
# The two layers of the client agree

In every reachable state of the services the context of a Goal is the one that
belongs to its packet binding.  Both layers therefore judge every packet alike:
`poll()` passes the first event of an endpoint on as it is.
-/

namespace HakoPduRpc.Action

open KeyedList

/-! ## From Actions to services -/

namespace ActionServicesClient

variable {R : PduRegistry}

theorem getAction_of_mem {s : ActionServicesClient}
    (hnodup : (s.actions.map (·.actionName)).Nodup)
    {inst : ClientActionInstance} (hinst : inst ∈ s.actions) :
    s.getAction inst.actionName = some inst :=
  (mem_iff_lookup hnodup).mp hinst

/-- After a step every Action is some Action from before, run on the inputs that
it saw. -/
theorem exists_run_of_mem_step {s : ActionServicesClient} {i : ClientInput}
    (hnodup : (s.actions.map (·.actionName)).Nodup)
    {inst' : ClientActionInstance}
    (hinst' : inst' ∈ ((clientMachine R).step s i).1.actions) :
    ∃ inst ∈ s.actions, inst.actionName = inst'.actionName ∧
      inst' = (clientInstanceMachine R).run inst
        (instanceInputs R inst'.actionName s i) := by
  have hmem : inst'.actionName ∈ s.actions.map (·.actionName) := by
    rw [← map_actionName_step (R := R) s i]
    exact List.mem_map_of_mem hinst'
  obtain ⟨inst, hinst, hname⟩ := List.mem_map.mp hmem
  have hget := getAction_of_mem hnodup hinst
  rw [hname] at hget
  have hnodup' : (((clientMachine R).step s i).1.actions.map
      (·.actionName)).Nodup := by
    rw [map_actionName_step]
    exact hnodup
  have hget' := getAction_of_mem hnodup' hinst'
  rw [(step_project (R := R) hnodup hget i).1] at hget'
  exact ⟨inst, hinst, hname, (Option.some.inj hget').symm⟩

/-- What holds of the services in every reachable state. -/
structure Invariant (s : ActionServicesClient) : Prop where
  nodup : (s.actions.map (·.actionName)).Nodup
  actions : ∀ inst ∈ s.actions, inst.Invariant

theorem Invariant.step {s : ActionServicesClient} (h : s.Invariant)
    (i : ClientInput) : ((clientMachine R).step s i).1.Invariant where
  nodup := by
    rw [map_actionName_step]
    exact h.nodup
  actions := by
    intro inst' hinst'
    obtain ⟨inst, hinst, -, heq⟩ := exists_run_of_mem_step h.nodup hinst'
    rw [heq]
    exact (clientInstanceMachine R).invariant (C := fun _ _ => True)
      (fun _ j _ hj => hj.step j) (h.actions inst hinst)
      ((clientInstanceMachine R).along_of_forall (fun _ _ _ => trivial) inst)

theorem invariant_started (nodeId implType : String)
    (endpointExists : String → Bool) (root : Json) :
    (startedClient R nodeId implType endpointExists root).Invariant := by
  obtain ⟨hnodup, hfresh⟩ :=
    startedClient_ok R nodeId implType endpointExists root
  exact ⟨hnodup, fun inst hinst =>
    ClientActionInstance.invariant_of_fresh (hfresh inst hinst)⟩

theorem invariant_run (nodeId implType : String)
    (endpointExists : String → Bool) (root : Json) (is : List ClientInput) :
    ((clientMachine R).run
      (startedClient R nodeId implType endpointExists root) is).Invariant :=
  (clientMachine R).invariant (C := fun _ _ => True)
    (fun _ i _ hs => hs.step i)
    (invariant_started nodeId implType endpointExists root)
    ((clientMachine R).along_of_forall (fun _ _ _ => trivial) _)

/-- `poll()` returns the first event that the endpoints have, in the order of
the Actions. -/
theorem pollActions_eq_findSome (clock : String → UInt64)
    {actions : List ClientActionInstance}
    (hactions : ∀ inst ∈ actions, inst.Invariant) :
    (pollActions R clock actions).result =
      actions.findSome? fun inst =>
        (inst.endpoint.poll R (clock inst.actionName)).2.map fun event =>
          (inst.actionName, { event with actionName := inst.actionName }) := by
  induction actions with
  | nil => rfl
  | cons inst rest ih =>
      have hpasses := ClientActionInstance.pollEndpoint_passes (R := R)
        (hactions inst (by simp)) (clock inst.actionName)
      have hrest := ih fun x hx => hactions x (by simp [hx])
      rw [pollActions]
      cases hevent : (inst.endpoint.poll R (clock inst.actionName)).2 with
      | none => simp [hpasses, hevent, hrest]
      | some event => simp [hpasses, hevent]

end ActionServicesClient

/-! ## Two-layer correspondence -/

/-- The endpoint reports packets and timeouts, never an error. -/
theorem ClientActionInstance.endpoint_poll_type (R : PduRegistry)
    (inst : ClientActionInstance) {now : UInt64} {event : ClientEvent}
    (h : (inst.endpoint.poll R now).2 = some event) :
    event.type ≠ .error ∧ event.type ≠ .none := by
  obtain ⟨packet, rest, p, b, b', -, -, -, -, -, hpoll⟩ | ⟨rest, -, hpoll⟩ :=
    ClientActionInstance.endpoint_poll_cases (R := R) inst now
  · simp only [hpoll, Option.some.injEq] at h
    subst h
    cases p.notice <;> simp [noticeEvent]
  · obtain hidle | ⟨g, b, -, -, hidle⟩ :=
      ActionClientEndpointImpl.pollTimeout_cases
        { inst.endpoint with pendingPackets := rest } now
    · simp [hpoll, hidle] at h
    · simp only [hpoll, hidle, Option.some.injEq] at h
      subst h
      simp

/-- What belongs in the services to a binding of the endpoint. -/
def BindingCorresponds (inst : ClientActionInstance) (g : GoalId)
    (binding : ClientPacketBinding) : Prop :=
  match binding.state with
  | .awaitingGoalResponse | .goalResponseTimedOut => inst.getGoal g = none
  | .accepted =>
      ∃ goal, inst.getGoal g = some goal ∧ goal.context.state = .executing ∧
        goal.context.cancelResponsePending = false
  | .awaitingCancelResponse =>
      ∃ goal, inst.getGoal g = some goal ∧ goal.context.state = .executing ∧
        goal.context.cancelResponsePending = true
  | .canceling =>
      ∃ goal, inst.getGoal g = some goal ∧ goal.context.state = .canceling

/-- What the two layers of one Action have to do with each other. -/
structure ClientLayersCorrespond (R : PduRegistry)
    (inst : ClientActionInstance) : Prop where
  bindings : ∀ g b, inst.endpoint.packetBindings.find? g = some b →
    BindingCorresponds inst g b
  /-- Every Goal has an accepted binding that counts Feedback as the services
  do. -/
  goals : ∀ goal ∈ inst.goals, ∃ b,
    inst.endpoint.packetBindings.find? goal.goal.goalId = some b ∧
      b.state ≠ .awaitingGoalResponse ∧ b.state ≠ .goalResponseTimedOut ∧
      b.nextFeedbackSequence = goal.context.nextFeedbackSequence
  /-- Goal IDs are pairwise distinct. -/
  nodup_goals : (inst.goals.map (·.goal.goalId)).Nodup

theorem clientLayersCorrespond_of_invariant {R : PduRegistry}
    {inst : ClientActionInstance} (hinv : inst.Invariant) :
    ClientLayersCorrespond R inst where
  bindings := by
    intro g b hb
    have hcorr := hinv.corr g
    rw [show inst.binding g = some b from hb, Option.bind_some] at hcorr
    unfold BindingCorresponds
    cases hstate : b.state <;>
      simp only [ClientPacketBinding.context, hstate] at hcorr ⊢
    · exact ClientActionInstance.getGoal_eq_none hcorr
    · exact ClientActionInstance.getGoal_eq_none hcorr
    · exact ⟨_, ClientActionInstance.getGoal_of_context hcorr, rfl, rfl⟩
    · exact ⟨_, ClientActionInstance.getGoal_of_context hcorr, rfl, rfl⟩
    · exact ⟨_, ClientActionInstance.getGoal_of_context hcorr, rfl⟩
  goals := by
    intro goal hgoal
    have hget : inst.getGoal goal.goal.goalId = some goal :=
      (mem_iff_lookup hinv.nodup).mp hgoal
    have hcorr := hinv.corr goal.goal.goalId
    rw [ClientActionInstance.context, hget, Option.map_some] at hcorr
    obtain ⟨b, hb, hcontext⟩ := Option.bind_eq_some_iff.mp hcorr.symm
    refine ⟨b, hb, ?_⟩
    cases hstate : b.state <;>
      simp only [ClientPacketBinding.context, hstate, reduceCtorEq,
        Option.some.injEq] at hcontext <;>
      simp [← hcontext]
  nodup_goals := hinv.nodup

/-- The services after start-up and a list of inputs. -/
def reachableClient (R : PduRegistry) (nodeId implType : String)
    (endpointExists : String → Bool) (root : Json) (is : List ClientInput) :
    ActionServicesClient :=
  (clientMachine R).run (startedClient R nodeId implType endpointExists root) is

/-- In every reachable state the layers of every Action correspond, and `poll()`
returns exactly the first event of an endpoint, which is never an error. -/
theorem client_layers_correspond (R : PduRegistry) (nodeId implType : String)
    (endpointExists : String → Bool) (root : Json) (is : List ClientInput) :
    let s := reachableClient R nodeId implType endpointExists root is
    (∀ inst ∈ s.actions, ClientLayersCorrespond R inst) ∧
    ∀ clock : String → UInt64,
      (s.poll R clock).result =
        (s.actions.findSome? fun inst =>
          (inst.endpoint.poll R (clock inst.actionName)).2.map fun event =>
            (inst.actionName,
              { event with actionName := inst.actionName })) ∧
      ∀ name event, (s.poll R clock).result = some (name, event) →
        event.type ≠ .error ∧ event.type ≠ .none := by
  intro s
  have hinv : s.Invariant := ActionServicesClient.invariant_run nodeId implType
    endpointExists root is
  refine ⟨fun inst hinst =>
    clientLayersCorrespond_of_invariant (hinv.actions inst hinst), ?_⟩
  intro clock
  have hpoll : (s.poll R clock).result = _ :=
    ActionServicesClient.pollActions_eq_findSome (R := R) clock hinv.actions
  refine ⟨hpoll, ?_⟩
  intro name event hevent
  rw [hpoll] at hevent
  obtain ⟨inst, -, hinst⟩ := List.exists_of_findSome?_eq_some hevent
  obtain ⟨e, he, heq⟩ := Option.map_eq_some_iff.mp hinst
  cases heq
  have htype := inst.endpoint_poll_type R he
  exact htype

end HakoPduRpc.Action
