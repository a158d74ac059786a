import HakoPduRpc.Action.CPrograms
import HakoPduRpc.Action.System

/-!
# Programs over the server handle

The functions of `hako_pdu_action_server_handle` besides polling, and that a
program over this handle runs on the services of the server.
-/

namespace HakoPduRpc
namespace Action
namespace CInterface

/-- A call of the server besides polling. -/
inductive ServerFunction
  | acceptGoal (actionName : Option String) (goal : Option GoalId)
  | rejectGoal (actionName : Option String) (goal : Option GoalId)
  | acceptCancel (actionName : Option String) (goal : Option GoalId)
  | rejectCancel (actionName : Option String) (goal : Option GoalId)
  | sendFeedback (actionName : Option String) (goal : Option GoalId)
      (pdu : Option PduData)
  | complete (actionName : Option String) (goal : Option GoalId)
      (status : RawStatus) (pdu : Option PduData)
  | createFeedbackBuffer (actionName : Option String) (delivery : Delivery)
  | createResultBuffer (actionName : Option String) (delivery : Delivery)

/-- `net` says which sends succeed. -/
def serverCall (R : PduRegistry) (net : SendOracle)
    (h : Handle ActionServicesServer ServerEvent) :
    ServerFunction →
      Outcome (Handle ActionServicesServer ServerEvent) (String × ServerObs)
        Returned
  | .acceptGoal actionName goal => serverAcceptGoal R net h actionName goal
  | .rejectGoal actionName goal => serverRejectGoal R net h actionName goal
  | .acceptCancel actionName goal => serverAcceptCancel R net h actionName goal
  | .rejectCancel actionName goal => serverRejectCancel R net h actionName goal
  | .sendFeedback actionName goal pdu =>
      serverSendFeedback R net h actionName goal pdu
  | .complete actionName goal status pdu =>
      serverComplete R net h actionName goal status pdu
  | .createFeedbackBuffer actionName delivery =>
      serverCreateFeedbackBuffer R h actionName delivery
  | .createResultBuffer actionName delivery =>
      serverCreateResultBuffer R h actionName delivery

/-- A program over the server handle. -/
abbrev serverProgram (R : PduRegistry) :
    Program ActionServicesServer SendOracle ServerRequest ServerEvent
      ServerEventType ServerEventInfo Transmission SendOracle ServerFunction
      (String × ServerObs) where
  services := serverServices R
  shown s net := (s.poll R net).effects
  receive s m := s.receive m.1 m.2
  call := serverCall R
  event
    | (name, .event _ event) => some (name, event)
    | _ => none

/-- The Goal, the checks of the other arguments and the call of the services of a
function that names a Goal. -/
def ServerFunction.request :
    ServerFunction →
      Option (Option String × Option GoalId × Bool ×
        (ServerGoalHandle → ServerCall))
  | .acceptGoal actionName goal => some (actionName, goal, true, .acceptGoal)
  | .rejectGoal actionName goal => some (actionName, goal, true, .rejectGoal)
  | .acceptCancel actionName goal => some (actionName, goal, true, .acceptCancel)
  | .rejectCancel actionName goal => some (actionName, goal, true, .rejectCancel)
  | .sendFeedback actionName goal pdu =>
      some (actionName, goal, validPdu pdu, fun goal =>
        .sendFeedback goal (pdu.getD []))
  | .complete actionName goal status pdu =>
      some (actionName, goal, validPdu pdu && validStatus status, fun goal =>
        .complete goal (toCppStatus status) (pdu.getD []))
  | .createFeedbackBuffer _ _ => none
  | .createResultBuffer _ _ => none

section Server

variable {R : PduRegistry}

/-- The functions that name a Goal have one body. -/
theorem serverCall_request {f : ServerFunction} {actionName : Option String}
    {goal : Option GoalId} {arguments : Bool}
    {call : ServerGoalHandle → ServerCall}
    (hf : f.request = some (actionName, goal, arguments, call))
    (net : SendOracle) (h : Handle ActionServicesServer ServerEvent) :
    serverCall R net h f =
      serverGoalFunction R net h actionName goal arguments call := by
  cases f with
  | acceptGoal | rejectGoal | acceptCancel | rejectCancel | sendFeedback
  | complete =>
      simp only [ServerFunction.request, Option.some.injEq, Prod.mk.injEq] at hf
      obtain ⟨rfl, rfl, rfl, rfl⟩ := hf
      rfl
  | createFeedbackBuffer | createResultBuffer => cases hf

theorem serverCall_quiet {f : ServerFunction} (hf : f.request = none)
    (net : SendOracle) (h : Handle ActionServicesServer ServerEvent) :
    (serverCall R net h f).state = h ∧ (serverCall R net h f).effects = [] := by
  cases f with
  | acceptGoal | rejectGoal | acceptCancel | rejectCancel | sendFeedback
  | complete => cases hf
  | createFeedbackBuffer | createResultBuffer => exact bufferFunction_quiet ..

/-- The steps of the services in a call. -/
def serverCallInputs (net : SendOracle)
    (h : Handle ActionServicesServer ServerEvent) (f : ServerFunction) :
    List ServerInput :=
  match f.request with
  | none => []
  | some (actionName, goal, arguments, call) =>
      (passes h actionName goal arguments).toList.map fun x =>
        .call net x.1 (call ⟨x.2⟩)

theorem serverCall_steps (net : SendOracle)
    (h : Handle ActionServicesServer ServerEvent) (f : ServerFunction) :
    (serverCall R net h f).state =
        { h with
          services := (serverMachine R).run h.services
            (serverCallInputs net h f) } ∧
      (serverCall R net h f).effects =
        (serverMachine R).trace h.services (serverCallInputs net h f) := by
  unfold serverCallInputs
  cases hf : f.request with
  | none => exact serverCall_quiet hf net h
  | some request =>
      obtain ⟨actionName, goal, arguments, call⟩ := request
      rw [serverCall_request hf]
      exact goalFunction_steps (serverMachine R) (fun name g =>
        ServerInput.call net name (call ⟨g⟩)) fun _ _ => rfl

/-- The call on an Action that a function makes, once it passes the checks. -/
def ServerFunction.call? (name : String) (f : ServerFunction) :
    Option ServerCall :=
  match f.request with
  | some (some actionName, some goalId, _, call) =>
      if actionName = name then some (call ⟨goalId⟩) else none
  | _ => none

/-- What becomes of a call on an Action, from what the services show. -/
def serverShown (name : String) :
    String × ServerObs → Option (ServerCall × ErrorCode)
  | (actionName, .returned call result) =>
      if actionName = name then
        some (call, if result then .ok else .invalidState)
      else none
  | _ => none

/-- The same, from what a function returns. -/
def ServerFunction.told (name : String) (f : ServerFunction) (r : Returned) :
    Option (ServerCall × ErrorCode) :=
  if r.code.Refuses then none else (f.call? name).map fun call => (call, r.code)

/-- What is looked for among what an Action shows of a call is the call
itself. -/
theorem filterMap_serverShown {χ : Type} {look : String × ServerObs → Option χ}
    (hlook : ∀ name effect, look (name, .effect effect) = none) (name : String)
    (sends : List ServerEffect) (os : List ServerObs) :
    ((sends.map ServerObs.effect ++ os).map (Prod.mk name)).filterMap look =
      os.filterMap fun o => look (name, o) := by
  rw [List.map_append, List.filterMap_append]
  simp [List.filterMap_map, Function.comp_def, hlook]

/-- What the services show of a call. -/
theorem call_shown (s : ActionServicesServer) (net : SendOracle) {name : String}
    (hname : name ≠ "") (call : ServerCall) :
    let done := s.call R net name call
    (s.getAction name = none ∧ done.effects = []) ∨
      ∃ sends : List ServerEffect, done.effects =
        (sends.map ServerObs.effect ++
          [ServerObs.returned call done.result]).map (Prod.mk name) := by
  intro done
  cases haction : s.getAction name with
  | none =>
      refine .inl ⟨rfl, ?_⟩
      simp [done, ActionServicesServer.call, hname, haction]
  | some inst =>
      cases hvalid : call.argumentsValid with
      | false =>
          refine .inr ⟨[], ?_⟩
          simp [done, ActionServicesServer.call, hname, haction, hvalid,
            instanceMachine]
      | true =>
          refine .inr ⟨(inst.call R net call).effects, ?_⟩
          simp [done, ActionServicesServer.call, hname, haction, hvalid,
            instanceMachine]

/-- What the services show of a call, and what the program is told of it. -/
inductive ServerCalled (s : ActionServicesServer) (f : ServerFunction)
    (r : Returned) : List (String × ServerObs) → Prop
  | refused : r.code.Refuses → ServerCalled s f r []
  | created : f.request = none → ServerCalled s f r []
  | unknown {name : String} :
      (∀ actionName, actionName ≠ name → f.call? actionName = none) →
      s.getAction name = none → ServerCalled s f r []
  | returned {name : String} {call : ServerCall} {result : Bool}
      {sends : List ServerEffect} :
      (∀ actionName, f.call? actionName =
        if name = actionName then some call else none) →
      r.code = (if result then .ok else .invalidState) →
      ServerCalled s f r
        ((sends.map ServerObs.effect ++ [ServerObs.returned call result]).map
          (Prod.mk name))

theorem serverCall_called (net : SendOracle)
    (h : Handle ActionServicesServer ServerEvent) (f : ServerFunction) :
    ServerCalled h.services f (serverCall R net h f).result
      (serverCall R net h f).effects := by
  cases hf : f.request with
  | none =>
      rw [(serverCall_quiet hf net h).2]
      exact .created hf
  | some request =>
      obtain ⟨actionName, goal, arguments, call⟩ := request
      rw [serverCall_request hf]
      unfold serverGoalFunction
      cases hpasses : passes h actionName goal arguments with
      | none =>
          obtain ⟨code, hcode, heq⟩ := goalFunction_refused _ hpasses
          rw [heq]
          exact .refused hcode
      | some x =>
          obtain ⟨rfl, rfl, hname, -, hvalid, heq⟩ :=
            goalFunction_passed _ hpasses
          have hcall (actionName : String) : f.call? actionName =
              if x.1 = actionName then some (call ⟨x.2⟩) else none := by
            simp [ServerFunction.call?, hf]
          rw [heq]
          obtain ⟨hunknown, heffects⟩ | ⟨sends, heffects⟩ :=
            call_shown (R := R) h.services net hname (call ⟨x.2⟩)
          · dsimp only [Outcome.embed]
            rw [heffects]
            refine .unknown (fun actionName hne => ?_) hunknown
            rw [hcall, if_neg hne.symm]
          · dsimp only [Outcome.embed]
            rw [heffects]
            exact .returned hcall rfl

/-- The events among what the services show while they are polled, and that no
call is among it. -/
theorem poll_shown (s : ActionServicesServer) (net : SendOracle) :
    (s.poll R net).effects.filterMap (serverProgram R).event =
        (s.poll R net).result.toList ∧
      ∀ name, (s.poll R net).effects.filterMap (serverShown name) = [] := by
  have hactions (actions : List ServerActionInstance) :
      (ActionServicesServer.pollActions R net actions).effects.filterMap
          (serverProgram R).event =
        (ActionServicesServer.pollActions R net actions).result.toList ∧
      ∀ name, (ActionServicesServer.pollActions R net actions).effects.filterMap
        (serverShown name) = [] := by
    induction actions with
    | nil => exact ⟨rfl, fun _ => rfl⟩
    | cons inst rest ih =>
        unfold ActionServicesServer.pollActions ServerActionInstance.pollObs
        dsimp only
        cases hresult : (inst.pollEndpoint R net).result with
        | some event =>
            dsimp only
            constructor
            · rw [filterMap_serverShown fun _ _ => rfl]
              rfl
            · intro name
              rw [filterMap_serverShown fun _ _ => rfl]
              rfl
        | none =>
            dsimp only
            constructor
            · rw [List.filterMap_append, filterMap_serverShown fun _ _ => rfl,
                ih.1]
              rfl
            · intro name
              rw [List.filterMap_append, filterMap_serverShown fun _ _ => rfl,
                ih.2]
              rfl
  have hruntime (actions : List ServerActionInstance)
      (events : List ServerEvent) :
      (ActionServicesServer.pollRuntimeEvents actions events).effects =
        (ActionServicesServer.pollRuntimeEvents actions
          events).result.toList.map fun reported =>
            (reported.1, .event none reported.2) := by
    fun_induction ActionServicesServer.pollRuntimeEvents with
    | case1 => rfl
    | case2 _ _ _ ih => exact ih
    | case3 _ _ _ _ _ _ ih => exact ih
    | case4 => rfl
  unfold ActionServicesServer.poll
  dsimp only
  cases hresult : (ActionServicesServer.pollRuntimeEvents s.actions
      s.pendingRuntimeEvents).result with
  | some reported =>
      dsimp only
      rw [hruntime, hresult]
      exact ⟨rfl, fun _ => rfl⟩
  | none => exact hactions s.actions

/-- The server program runs on the services of the server. -/
def serverRunsOn (R : PduRegistry) :
    (serverProgram R).RunsOn (serverMachine R) where
  receiveInput m := .receive m.1 m.2
  pollInput net := .poll net
  callInputs := serverCallInputs
  receive_eq _ _ := rfl
  poll_eq _ _ := rfl
  start_eq _ _ := rfl
  call_state net h f := (serverCall_steps net h f).1
  call_effects net h f := (serverCall_steps net h f).2
  shown_events s net := (poll_shown s net).1
  call_events net h f := by
    have hcalled := serverCall_called (R := R) net h f
    change (serverCall R net h f).effects.filterMap _ = []
    generalize (serverCall R net h f).effects = effects at hcalled ⊢
    cases hcalled with
    | refused | created | unknown => rfl
    | returned =>
        rw [filterMap_serverShown fun _ _ => rfl]
        rfl

/-- The calls on an Action that the server has. -/
def serverAnswers (R : PduRegistry) (name : String) :
    (serverProgram R).Answers (serverMachine R) (ServerCall × ErrorCode) where
  Known s := name ∈ s.actions.map (·.actionName)
  shown := serverShown name
  told f r := f.told name r
  known_step s i hs := by
    rwa [ActionServicesServer.map_actionName_step (R := R) s i]
  shown_poll s net := (poll_shown s net).2 name
  shown_call net h f hknown := by
    have hcalled := serverCall_called (R := R) net h f
    change (serverCall R net h f).effects.filterMap (serverShown name) =
      (f.told name (serverCall R net h f).result).toList
    generalize (serverCall R net h f).effects = effects at hcalled ⊢
    generalize (serverCall R net h f).result = r at hcalled ⊢
    unfold ServerFunction.told
    cases hcalled with
    | refused hcode => simp [hcode]
    | created hf =>
        have hcall : f.call? name = none := by simp [ServerFunction.call?, hf]
        simp [hcall]
    | unknown hcall hunknown =>
        have hlost := KeyedList.lookup_eq_none_iff.mp hunknown
        rw [hcall name (by rintro rfl; exact hlost hknown)]
        simp
    | @returned actionName call result _ hcall heq =>
        have hcode : ¬r.code.Refuses := by
          cases result <;> simp [heq, ErrorCode.Refuses]
        rw [filterMap_serverShown fun _ _ => rfl, if_neg hcode, hcall, heq]
        by_cases hname : actionName = name
        · simp [serverShown, hname]
        · simp [serverShown, hname]

end Server

end CInterface
end Action
end HakoPduRpc
