import HakoPduRpc.Action.CPrograms
import HakoPduRpc.Action.System

/-!
# Programs over the client handle

The functions of `hako_pdu_action_client_handle` besides polling, and that a
program over this handle runs on the services of the client.
-/

namespace HakoPduRpc
namespace Action
namespace CInterface

/-- A call of the client besides polling. -/
inductive ClientFunction
  | sendGoal (actionName : Option String) (pdu : Option PduData)
      (goalId : Option GoalId) (outGoal : Bool) (timeoutUsec : UInt64)
  | cancelGoal (actionName : Option String) (goal : Option GoalId)
  | createGoalBuffer (actionName : Option String) (delivery : Delivery)

/-- The Action that a call names. -/
def ClientFunction.actionName : ClientFunction → Option String
  | .sendGoal actionName _ _ _ _ => actionName
  | .cancelGoal actionName _ => actionName
  | .createGoalBuffer actionName _ => actionName

/-- `env` says which sends succeed and what the time source returns. -/
def clientCall (R : PduRegistry) (env : SendOracle × UInt64)
    (h : Handle ActionServicesClient ClientEvent) :
    ClientFunction →
      Outcome (Handle ActionServicesClient ClientEvent) (String × ClientObs)
        Returned
  | .sendGoal actionName pdu goalId outGoal timeoutUsec =>
      clientSendGoal R env.1 h env.2 actionName pdu goalId outGoal timeoutUsec
  | .cancelGoal actionName goal => clientCancelGoal R env.1 h actionName goal
  | .createGoalBuffer actionName delivery =>
      clientCreateGoalBuffer R h actionName delivery

/-- A program over the client handle. -/
abbrev clientProgram (R : PduRegistry) :
    Program ActionServicesClient (String → UInt64) ClientCall ClientEvent
      ClientEventType ClientEventInfo Transmission (SendOracle × UInt64)
      ClientFunction (String × ClientObs) where
  services := clientServices R
  shown s clock := (s.poll R clock).effects
  receive s m := s.receive m.1 m.2
  call := clientCall R
  event
    | (name, .event event) => some (name, event)
    | _ => none

section Client

variable {R : PduRegistry}

theorem pollActions_effects (clock : String → UInt64)
    (actions : List ClientActionInstance) :
    (ActionServicesClient.pollActions R clock actions).effects =
      (ActionServicesClient.pollActions R clock actions).result.toList.map
        fun reported => (reported.1, .event reported.2) := by
  induction actions with
  | nil => rfl
  | cons inst rest ih =>
      unfold ActionServicesClient.pollActions
      dsimp only
      split
      · rfl
      · exact ih

theorem sendGoalWithResult_ne_invalidArgument {inst : ClientActionInstance}
    {net : SendOracle} {now timeoutUsec : UInt64} {pdu : PduData} {g : GoalId}
    (hvalid : isValidGoalId g = true) :
    (inst.sendGoalWithResult R net now pdu g timeoutUsec).result ≠
      .invalidArgument := by
  unfold ClientActionInstance.sendGoalWithResult
  split_ifs
  · simp
  · rw [Outcome.embed_result]
    unfold ActionClientEndpointImpl.sendGoalWithResult
    rw [if_neg (not_not_intro hvalid)]
    split_ifs
    · simp
    · split
      · simp
      · dsimp only
        split
        · simp
        · dsimp only
          split_ifs <;> simp
    · simp

/-- What the services show of a Goal that they are asked to send. -/
theorem sendGoal_shown (s : ActionServicesClient) (net : SendOracle)
    (now timeoutUsec : UInt64) {name : String} (hname : name ≠ "")
    {pdu : PduData} {g : GoalId} (hvalid : goalArgumentsValid pdu g = true) :
    let sent := s.sendGoalWithResult R net now name pdu g timeoutUsec
    sent.result ≠ .invalidArgument ∧
      ((s.getAction name = none ∧ sent.effects = []) ∨
        ∃ sends : List ClientEffect, sent.effects =
          (sends.map ClientObs.effect ++ [ClientObs.sentGoal g timeoutUsec
            sent.result (ActionClientEndpointImpl.goalHandleOut sent.result
              g)]).map (Prod.mk name)) := by
  intro sent
  have hargs : ¬(name = "" ∨ ¬goalArgumentsValid pdu g) := by
    simp [hname, hvalid]
  cases haction : s.getAction name with
  | none =>
      have hsent : sent = { state := s, result := .actionNotFound } := by
        simp [sent, ActionServicesClient.sendGoalWithResult, hname, hvalid,
          haction]
      rw [hsent]
      exact ⟨by simp, .inl ⟨rfl, rfl⟩⟩
  | some inst =>
      have hgoal : isValidGoalId g = true := by
        simp_all [goalArgumentsValid]
      refine ⟨?_, .inr ⟨(inst.sendGoalWithResult R net now pdu g
        timeoutUsec).effects, ?_⟩⟩
      · simpa [sent, ActionServicesClient.sendGoalWithResult, hname, hvalid,
          haction] using sendGoalWithResult_ne_invalidArgument hgoal
      · simp [sent, ActionServicesClient.sendGoalWithResult, hname, hvalid,
          haction, ActionServicesClient.stepAction, clientInstanceMachine]

/-- What the services show of a Cancel that they are asked to send. -/
theorem sendCancel_shown (s : ActionServicesClient) (net : SendOracle)
    {name : String} (hname : name ≠ "") {goal : ClientGoalHandle}
    (hvalid : goal.valid = true) :
    let sent := s.sendCancel R net name goal
    (s.getAction name = none ∧ sent.effects = []) ∨
      ∃ sends : List ClientEffect, sent.effects =
        (sends.map ClientObs.effect ++
          [ClientObs.sentCancel goal sent.result]).map (Prod.mk name) := by
  intro sent
  cases haction : s.getAction name with
  | none =>
      refine .inl ⟨rfl, ?_⟩
      simp [sent, ActionServicesClient.sendCancel, hname, hvalid, haction]
  | some inst =>
      refine .inr ⟨(inst.sendCancel R net goal).effects, ?_⟩
      simp [sent, ActionServicesClient.sendCancel, hname, hvalid, haction,
        ActionServicesClient.stepAction, clientInstanceMachine]

/-- The steps of the services in a call. -/
def clientCallInputs (env : SendOracle × UInt64)
    (h : Handle ActionServicesClient ClientEvent) :
    ClientFunction → List ClientInput
  | .sendGoal actionName pdu goalId outGoal timeoutUsec =>
      (passes h actionName goalId (validPdu pdu && outGoal)).toList.map fun x =>
        .sendGoal env.1 env.2 x.1 (pdu.getD []) x.2 timeoutUsec
  | .cancelGoal actionName goal =>
      (passes h actionName goal true).toList.map fun x =>
        .sendCancel env.1 x.1 ⟨x.2⟩
  | .createGoalBuffer _ _ => []

theorem clientCall_steps (env : SendOracle × UInt64)
    (h : Handle ActionServicesClient ClientEvent) (f : ClientFunction) :
    (clientCall R env h f).state =
        { h with
          services := (clientMachine R).run h.services
            (clientCallInputs env h f) } ∧
      (clientCall R env h f).effects =
        (clientMachine R).trace h.services (clientCallInputs env h f) := by
  cases f with
  | sendGoal actionName pdu goalId outGoal timeoutUsec =>
      exact goalFunction_steps (clientMachine R) (fun name g =>
        ClientInput.sendGoal env.1 env.2 name (pdu.getD []) g timeoutUsec)
        fun _ _ => rfl
  | cancelGoal actionName goal =>
      exact goalFunction_steps (clientMachine R) (fun name g =>
        ClientInput.sendCancel env.1 name ⟨g⟩) fun _ _ => rfl
  | createGoalBuffer actionName delivery => exact bufferFunction_quiet ..

/-- What is looked for among what an Action shows of a call is the call
itself. -/
theorem filterMap_clientShown {χ : Type} {look : String × ClientObs → Option χ}
    (hlook : ∀ name effect, look (name, .effect effect) = none) (name : String)
    (sends : List ClientEffect) (o : ClientObs) :
    ((sends.map ClientObs.effect ++ [o]).map (Prod.mk name)).filterMap look =
      (look (name, o)).toList := by
  have hsends : ((sends.map ClientObs.effect).map (Prod.mk name)).filterMap
      look = [] := by
    simp [List.filterMap_map, Function.comp_def, hlook]
  rw [List.map_append, List.filterMap_append, hsends, List.nil_append]
  cases hlast : look (name, o) <;> simp [hlast]

/-- What the services show of a call, and what the program is told of it. -/
inductive ClientCalled (s : ActionServicesClient) :
    ClientFunction → Returned → List (String × ClientObs) → Prop
  | refused {f : ClientFunction} {r : Returned} :
      r.code.Refuses → ClientCalled s f r []
  | created {actionName : Option String} {delivery : Delivery} {r : Returned} :
      ClientCalled s (.createGoalBuffer actionName delivery) r []
  | unknown {f : ClientFunction} {r : Returned} {name : String} :
      f.actionName = some name → s.getAction name = none →
      ClientCalled s f r []
  | sentGoal {name : String} {pdu : Option PduData} {g : GoalId} {out : Bool}
      {t : UInt64} {r : Returned} {result : GoalSendResult}
      {sends : List ClientEffect} :
      ¬r.code.Refuses → r.code = mapGoalSendResult result →
      ClientCalled s (.sendGoal (some name) pdu (some g) out t) r
        ((sends.map ClientObs.effect ++ [ClientObs.sentGoal g t result
          (ActionClientEndpointImpl.goalHandleOut result g)]).map
            (Prod.mk name))
  | sentCancel {name : String} {g : GoalId} {r : Returned} {result : Bool}
      {sends : List ClientEffect} :
      r.code = (if result then .ok else .invalidState) →
      ClientCalled s (.cancelGoal (some name) (some g)) r
        ((sends.map ClientObs.effect ++ [ClientObs.sentCancel ⟨g⟩ result]).map
          (Prod.mk name))

theorem mapGoalSendResult_refuses {result : GoalSendResult}
    (hresult : result ≠ .invalidArgument) :
    ¬(mapGoalSendResult result).Refuses := by
  unfold ErrorCode.Refuses
  cases result with
  | invalidArgument => exact absurd rfl hresult
  | success | actionNotFound | notInitialized | duplicateGoal | noFreeSlot
  | invalidPacket | transportError => simp [mapGoalSendResult]

theorem clientCall_called (env : SendOracle × UInt64)
    (h : Handle ActionServicesClient ClientEvent) (f : ClientFunction) :
    ClientCalled h.services f (clientCall R env h f).result
      (clientCall R env h f).effects := by
  cases f with
  | sendGoal actionName pdu goalId outGoal timeoutUsec =>
      change ClientCalled h.services _
        (clientSendGoal R env.1 h env.2 actionName pdu goalId outGoal
          timeoutUsec).result
        (clientSendGoal R env.1 h env.2 actionName pdu goalId outGoal
          timeoutUsec).effects
      unfold clientSendGoal
      cases hpasses : passes h actionName goalId (validPdu pdu && outGoal) with
      | none =>
          obtain ⟨code, hcode, heq⟩ := goalFunction_refused _ hpasses
          rw [heq]
          exact .refused hcode
      | some x =>
          obtain ⟨rfl, rfl, hname, hargs, hvalid, heq⟩ :=
            goalFunction_passed _ hpasses
          rw [heq]
          have hpdu : goalArgumentsValid (pdu.getD []) x.2 = true := by
            cases pdu <;> simp_all [goalArgumentsValid, validPdu]
          obtain ⟨hresult, ⟨hunknown, heffects⟩ | ⟨sends, heffects⟩⟩ :=
            sendGoal_shown (R := R) h.services env.1 env.2 timeoutUsec hname
              hpdu
          · dsimp only [Outcome.embed]
            rw [heffects]
            exact .unknown rfl hunknown
          · dsimp only [Outcome.embed]
            rw [heffects]
            exact .sentGoal (mapGoalSendResult_refuses hresult) rfl
  | cancelGoal actionName goal =>
      change ClientCalled h.services _
        (clientCancelGoal R env.1 h actionName goal).result
        (clientCancelGoal R env.1 h actionName goal).effects
      unfold clientCancelGoal
      cases hpasses : passes h actionName goal true with
      | none =>
          obtain ⟨code, hcode, heq⟩ := goalFunction_refused _ hpasses
          rw [heq]
          exact .refused hcode
      | some x =>
          obtain ⟨rfl, rfl, hname, -, hvalid, heq⟩ :=
            goalFunction_passed _ hpasses
          rw [heq]
          obtain ⟨hunknown, heffects⟩ | ⟨sends, heffects⟩ :=
            sendCancel_shown (R := R) h.services env.1 hname
              (show ClientGoalHandle.valid ⟨x.2⟩ = true from hvalid)
          · dsimp only [Outcome.embed]
            rw [heffects]
            exact .unknown rfl hunknown
          · dsimp only [Outcome.embed]
            rw [heffects]
            exact .sentCancel rfl
  | createGoalBuffer actionName delivery =>
      have hquiet := bufferFunction_quiet (ω := String × ClientObs) h actionName
        delivery (h.services.createGoalBuffer R)
      exact hquiet.2 ▸ .created

/-- The client program runs on the services of the client. -/
def clientRunsOn (R : PduRegistry) : (clientProgram R).RunsOn (clientMachine R) where
  receiveInput m := .receive m.1 m.2
  pollInput clock := .poll clock
  callInputs := clientCallInputs
  receive_eq _ _ := rfl
  poll_eq _ _ := rfl
  start_eq _ _ := rfl
  call_state env h f := (clientCall_steps env h f).1
  call_effects env h f := (clientCall_steps env h f).2
  shown_events s clock := by
    change (ActionServicesClient.pollActions R clock s.actions).effects.filterMap
      _ = (ActionServicesClient.pollActions R clock s.actions).result.toList
    rw [pollActions_effects]
    cases (ActionServicesClient.pollActions R clock s.actions).result <;> rfl
  call_events env h f := by
    have hcalled := clientCall_called (R := R) env h f
    change (clientCall R env h f).effects.filterMap _ = []
    generalize (clientCall R env h f).effects = effects at hcalled ⊢
    cases hcalled with
    | refused | created | unknown => rfl
    | sentGoal | sentCancel =>
        exact filterMap_clientShown (fun _ _ => rfl) _ _ _

/-- What becomes of a call of the client that passes the checks. -/
inductive ClientTold
  | goal (goalId : GoalId) (timeoutUsec : UInt64) (code : ErrorCode)
  | cancel (goalId : GoalId) (code : ErrorCode)
deriving DecidableEq

/-- The same, from what the services show of an Action. -/
def clientShown (name : String) : String × ClientObs → Option ClientTold
  | (actionName, .sentGoal goalId timeoutUsec result _) =>
      if actionName = name then
        some (.goal goalId timeoutUsec (mapGoalSendResult result))
      else none
  | (actionName, .sentCancel goal result) =>
      if actionName = name then
        some (.cancel goal.goalId (if result then .ok else .invalidState))
      else none
  | _ => none

/-- The same, from what a function returns. -/
def ClientFunction.told (name : String) (f : ClientFunction) (r : Returned) :
    Option ClientTold :=
  if r.code.Refuses then none
  else
    match f with
    | .sendGoal (some actionName) _ (some goalId) _ timeoutUsec =>
        if actionName = name then some (.goal goalId timeoutUsec r.code)
        else none
    | .cancelGoal (some actionName) (some goalId) =>
        if actionName = name then some (.cancel goalId r.code) else none
    | _ => none

theorem told_of_ne {name actionName : String} (hname : actionName ≠ name)
    {f : ClientFunction} (hf : f.actionName = some actionName) (r : Returned) :
    f.told name r = none := by
  unfold ClientFunction.told
  split_ifs
  · rfl
  · cases f with
    | sendGoal actionName' pdu goalId outGoal timeoutUsec =>
        obtain rfl : actionName' = some actionName := hf
        cases goalId <;> simp [hname]
    | cancelGoal actionName' goal =>
        obtain rfl : actionName' = some actionName := hf
        cases goal <;> simp [hname]
    | createGoalBuffer actionName' delivery => rfl

/-- The calls on an Action that the client has. -/
def clientAnswers (R : PduRegistry) (name : String) :
    (clientProgram R).Answers (clientMachine R) ClientTold where
  Known s := name ∈ s.actions.map (·.actionName)
  shown := clientShown name
  told f r := f.told name r
  known_step s i hs := by
    rwa [ActionServicesClient.map_actionName_step (R := R) s i]
  shown_poll s clock := by
    change (ActionServicesClient.pollActions R clock s.actions).effects.filterMap
      (clientShown name) = []
    rw [pollActions_effects]
    cases (ActionServicesClient.pollActions R clock s.actions).result <;> rfl
  shown_call env h f hknown := by
    have hcalled := clientCall_called (R := R) env h f
    change (clientCall R env h f).effects.filterMap (clientShown name) =
      (f.told name (clientCall R env h f).result).toList
    generalize (clientCall R env h f).effects = effects at hcalled ⊢
    generalize (clientCall R env h f).result = r at hcalled ⊢
    cases hcalled with
    | refused hcode => simp [ClientFunction.told, hcode]
    | created =>
        unfold ClientFunction.told
        split_ifs <;> rfl
    | unknown hf hunknown =>
        have hlost := KeyedList.lookup_eq_none_iff.mp hunknown
        rw [told_of_ne (by rintro rfl; exact hlost hknown) hf]
        rfl
    | sentGoal hcode heq =>
        rw [filterMap_clientShown fun _ _ => rfl]
        unfold ClientFunction.told
        rw [if_neg hcode, heq]
        rfl
    | @sentCancel _ _ _ result _ heq =>
        have hcode : ¬r.code.Refuses := by
          cases result <;> simp [heq, ErrorCode.Refuses]
        rw [filterMap_clientShown fun _ _ => rfl]
        unfold ClientFunction.told
        rw [if_neg hcode, heq]
        rfl

end Client

end CInterface
end Action
end HakoPduRpc
