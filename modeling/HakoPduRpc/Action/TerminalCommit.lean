import HakoPduRpc.Action.ServerCorrespondence
import HakoPduRpc.Pdu.Layout

/-!
# When `complete()` commits a Result

`complete()` checks the Result packet, commits the terminal status and then
sends.  The check before the commit does not ask for room for the response
header, the send does.  So a packet whose base part is too small passes the
check and commits the Goal, although nothing is handed to `Endpoint::send`.

`terminal_commit_on_send_iff` says that this is the only way in which a commit
and the attempt to send can come apart.
-/

namespace HakoPduRpc.Action

open KeyedList

/-! ## Goals that are committed -/

/-- The pair of binding and context of a Goal whose Result is committed. -/
def FinishingPair (b : Option ActionPacketBinding)
    (c : Option ServerGoalContext) : Prop :=
  (∃ binding, b = some binding ∧ binding.state = .resultCommitted) ∨
    ∃ context, c = some context ∧ context.state = .finishing

/-- Only `complete` commits a Result and keeps the Goal. -/
theorem ServerGoalStep.finishing {R : PduRegistry} {routing : List SlotRouting}
    {g : GoalId} {b b' : Option ActionPacketBinding}
    {c c' : Option ServerGoalContext} {obs : List ServerObs}
    {es : List ServerEntry}
    (h : ServerGoalStep R routing g b c obs es b' c')
    (hfinishing : FinishingPair b' c') :
    FinishingPair b c ∨
      ∃ status pdu, .returned (.complete ⟨g⟩ status pdu) false ∈ obs := by
  cases h with
  | @commitOnly b c status pdu => exact Or.inr ⟨status, pdu, by simp⟩
  | _ =>
      left
      simp_all [FinishingPair, clientPending, runtimePending, cancelingContext]

namespace ServerActionInstance

variable {R : PduRegistry} {net : SendOracle} {inst : ServerActionInstance}

/-- The Result of the Goal is committed but the Goal is still there. -/
def Finishing (inst : ServerActionInstance) (g : GoalId) : Prop :=
  FinishingPair (inst.binding g) (inst.context g)

/-- A result of a call is seen only when the call is made. -/
theorem input_of_returned {i : InstanceInput} {c : ServerCall} {ok : Bool}
    (h : .returned c ok ∈ ((instanceMachine R).step inst i).2) :
    ∃ net, i = .call net c := by
  cases i with
  | receive key data => simp [instanceMachine] at h
  | poll net => simp [instanceMachine, pollObs] at h
  | runtimeCancel event => simp [instanceMachine] at h
  | call net call =>
      refine ⟨net, ?_⟩
      simp only [instanceMachine] at h
      split_ifs at h
      · simp only [List.mem_append, List.mem_map, reduceCtorEq, and_false,
          exists_false, List.mem_singleton, ServerObs.returned.injEq,
          false_or] at h
        rw [h.1]
      · simp only [List.mem_singleton, ServerObs.returned.injEq] at h
        rw [h.1]
  | stop => simp [instanceMachine] at h
  | clear => simp [instanceMachine] at h

/-- The input is a call of `complete`. -/
def Completes (i : InstanceInput) : Prop :=
  ∃ net goal status pdu, i = .call net (.complete goal status pdu)

theorem not_finishing_step (hinv : inst.Invariant) {i : InstanceInput}
    (hi : ¬Completes i) {g : GoalId} (h : ¬inst.Finishing g) :
    ¬((instanceMachine R).step inst i).1.Finishing g := by
  by_cases hclear : i = .clear
  · subst hclear
    simp [instanceMachine, Finishing, FinishingPair, binding, context, getGoal,
      ActionServerEndpointImpl.resetContexts]
  · intro hafter
    apply h
    obtain ⟨hsame, -⟩ | ⟨g', -, es, b, c, hstep, hupdate⟩ :=
      step_cases (R := R) hinv hclear
    · unfold Finishing at hafter
      rw [hsame.binding_eq, hsame.context_eq] at hafter
      exact hafter
    · unfold Finishing at hafter
      rw [hupdate.binding_eq, hupdate.context_eq] at hafter
      split_ifs at hafter with hg
      · subst hg
        obtain hbefore | ⟨status, pdu, hreturned⟩ := hstep.finishing hafter
        · exact hbefore
        · obtain ⟨net, rfl⟩ := input_of_returned hreturned
          exact absurd ⟨net, _, status, pdu, rfl⟩ hi
      · exact hafter

theorem not_finishing_run (hinv : inst.Invariant) {g : GoalId}
    (h : ¬inst.Finishing g) {is : List InstanceInput}
    (his : ∀ i ∈ is, ¬Completes i) :
    ¬((instanceMachine R).run inst is).Finishing g := by
  refine ((instanceMachine R).invariant (C := fun _ i => ¬Completes i)
    (I := fun inst => inst.Invariant ∧ ¬inst.Finishing g) ?_ ⟨hinv, h⟩ ?_).2
  · intro inst i hi hinst
    exact ⟨hinst.1.step i, not_finishing_step hinst.1 hi hinst.2⟩
  · exact (instanceMachine R).along_of_forall (fun i hi _ => his i hi) inst

/-! ## The two checks of the Result packet -/

/-- The header that `send_response_packet` writes into a Result. -/
def resultHeader (g : GoalId) (status : TerminalStatus) :
    ActionResponseHeader :=
  { version := actionProtocolVersion
    responseKind := responseKindResult
    status := status.code
    reserved := 0
    goalId := g }

/-- `write_response_header` succeeds on the packet. -/
def headerFits (R : PduRegistry) (goal : ServerGoalHandle)
    (status : TerminalStatus) (resultPdu : PduData) : Bool :=
  (R.writeHeader R.responseHeader resultPdu
    (resultHeader goal.goalId status)).isSome

/-- The checks that `complete` makes before it commits. -/
def mayCommit (R : PduRegistry) (inst : ServerActionInstance)
    (goal : ServerGoalHandle) (status : TerminalStatus)
    (resultPdu : PduData) : Bool :=
  match inst.getGoal goal.goalId, inst.binding goal.goalId with
  | some goalInstance, some binding =>
      (transitionServerGoal goalInstance.context
        (completionEvent status)).kind = .transitioned ∧
      inst.endpoint.validateTerminalPacket R binding status resultPdu = true
  | _, _ => false

theorem mayCommit_iff {goal : ServerGoalHandle} {status : TerminalStatus}
    {pdu : PduData} :
    inst.mayCommit R goal status pdu = true ↔
      ∃ goalInstance b, inst.getGoal goal.goalId = some goalInstance ∧
        inst.binding goal.goalId = some b ∧
        (transitionServerGoal goalInstance.context
          (completionEvent status)).kind = .transitioned ∧
        inst.endpoint.validateTerminalPacket R b status pdu = true := by
  unfold mayCommit
  split
  · next goalInstance b hgoal hb => simp [hgoal, hb]
  · next hnone =>
      simp only [Bool.false_eq_true, false_iff]
      rintro ⟨goalInstance, b, hgoal, hb, -⟩
      exact hnone goalInstance b hgoal hb

/-- A call leaves the other Goals as they are. -/
theorem finishing_call_of_ne (hinv : inst.Invariant) {c : ServerCall}
    {g : GoalId} (hg : g ≠ c.goal.goalId)
    (h : (inst.call R net c).state.Finishing g) : inst.Finishing g := by
  obtain ⟨hsame, -⟩ | ⟨⟨es, b, context, -, hupdate⟩, -⟩ :=
    call_cases (R := R) hinv net c
  · rw [hsame] at h
    exact h
  · unfold Finishing at h
    rw [hupdate.binding_eq, hupdate.context_eq, if_neg hg, if_neg hg] at h
    exact h

section Complete

variable {goal : ServerGoalHandle} {status : TerminalStatus} {pdu : PduData}

/-- Without a commit nothing happens. -/
theorem complete_of_not_mayCommit (net : SendOracle)
    (h : ¬inst.mayCommit R goal status pdu = true) :
    inst.complete R net goal status pdu false =
      { state := inst, result := false } := by
  rw [mayCommit_iff] at h
  unfold complete
  split
  · rfl
  · next goalInstance hget =>
      have hkey : goalInstance.goal.goalId = goal.goalId := by
        rw [(context_eq_some hget).2]
      unfold completeGoal
      dsimp only
      split
      · rfl
      · next hkind =>
          rw [not_not] at hkind
          have hdone : inst.endpoint.complete R net goalInstance.goal status
              pdu = { state := inst.endpoint, result := .notCommitted } := by
            unfold ActionServerEndpointImpl.complete
            split
            · rfl
            · rw [hkey]
              split
              · rfl
              · next b hb =>
                  refine if_pos ?_
                  intro hvalid
                  exact h ⟨goalInstance, b, hget, hb, hkind, hvalid⟩
          simp [hdone, withEndpoint]

/-- Whether a packet that was checked reaches `Endpoint::send` depends on the
room for its header alone. -/
theorem responsePacket_eq_none_iff (hstore : inst.endpoint.SlotStore)
    {b : ActionPacketBinding} (hb : inst.binding goal.goalId = some b)
    (hpacket : inst.endpoint.validateTerminalPacket R b status pdu = true)
    (hpdu : pdu.isEmpty = false) :
    ActionServerEndpointImpl.responsePacket R
        (inst.endpoint.modifyBinding goal.goalId
          ActionServerEndpointImpl.committed)
        (ActionServerEndpointImpl.committed b) responseKindResult status.code
        pdu = none ↔
      headerFits R goal status pdu = false := by
  have hgoal : b.goalId = goal.goalId := hstore.goalId_eq hb
  unfold ActionServerEndpointImpl.validateTerminalPacket at hpacket
  split at hpacket
  · simp at hpacket
  · split at hpacket
    · simp at hpacket
    · next routing hrouting =>
        obtain ⟨wireSize, hwire⟩ := Option.isSome_iff_exists.mp hpacket
        have hroute : (inst.endpoint.modifyBinding goal.goalId
            ActionServerEndpointImpl.committed).slotRouting[
              (ActionServerEndpointImpl.committed b).slotIndex]? =
            some routing := hrouting
        have hheader : (ActionServerEndpointImpl.committed b).goalId =
            goal.goalId := hgoal
        simp only [ActionServerEndpointImpl.responsePacket, hroute, hpdu,
          Bool.false_eq_true, if_false, hwire, hheader, headerFits,
          resultHeader]
        split <;> simp_all

/-- What `complete` does once the packet has passed the first check. -/
theorem complete_of_mayCommit (net : SendOracle) (hinv : inst.Invariant)
    (hvalid : goal.valid = true) (hpdu : pdu.isEmpty = false)
    (h : inst.mayCommit R goal status pdu = true) :
    ∃ b, inst.binding goal.goalId = some b ∧ b.state ≠ .resultCommitted ∧
      (headerFits R goal status pdu = false ∧
          (inst.complete R net goal status pdu false).effects =
            [.commit goal.goalId status] ∧
          (inst.complete R net goal status pdu false).state.endpoint =
            inst.endpoint.modifyBinding goal.goalId
              ActionServerEndpointImpl.committed ∨
        ∃ key data, headerFits R goal status pdu = true ∧
          Carries R inst.endpoint.slotRouting b.slotIndex goal.goalId
            (.result status) key data ∧
          (inst.complete R net goal status pdu false).effects =
            [.commit goal.goalId status,
              .send false key data (net key data)] ∧
          (inst.complete R net goal status pdu false).result =
            net key data ∧
          (net key data = true →
            ¬(inst.complete R net goal status pdu false).state.Finishing
              goal.goalId)) := by
  obtain ⟨goalInstance, b, hget, hb, hkind, hpacket⟩ := mayCommit_iff.mp h
  have hgoal : goalInstance.goal = goal := (context_eq_some hget).2
  have hstate : b.state ≠ .resultCommitted := by
    intro hcommitted
    have hmay := ActionServerEndpointImpl.mayComplete_of_validate hpacket
    simp [ActionServerEndpointImpl.mayComplete, hcommitted, terminalAllowed]
      at hmay
  refine ⟨b, hb, hstate, ?_⟩
  have hnone := responsePacket_eq_none_iff hinv.store hb hpacket hpdu
  have hfind : inst.endpoint.packetBindings.find? goal.goalId = some b := hb
  have hcomplete : inst.complete R net goal status pdu false =
      inst.completeGoal R net goalInstance status pdu false := by
    rw [complete, hget]
  rw [hcomplete]
  unfold completeGoal ActionServerEndpointImpl.complete
  simp only [hkind, hgoal, hvalid, hinv.initialized, hfind, hpacket,
    not_true_eq_false, or_self, if_false, Bool.false_eq_true, ne_eq]
  cases hresponse : ActionServerEndpointImpl.responsePacket R
      (inst.endpoint.modifyBinding goal.goalId
        ActionServerEndpointImpl.committed)
      (ActionServerEndpointImpl.committed b) responseKindResult status.code
      pdu with
  | none => exact Or.inl ⟨hnone.mp hresponse, rfl, rfl⟩
  | some sent =>
      obtain ⟨key, data⟩ := sent
      right
      have hfits : headerFits R goal status pdu = true := by
        rw [hresponse] at hnone
        simpa using hnone
      have hcarries := ActionServerEndpointImpl.responsePacket_carries
        (.result status) rfl hresponse
      refine ⟨key, data, hfits, ?_, rfl, ?_, ?_⟩
      · have hgoalId : b.goalId = goal.goalId := hinv.store.goalId_eq hb
        rw [← hgoalId]
        exact hcarries
      · cases hnet : net key data <;> simp [hnet]
      · intro hnet
        simp only [hnet, if_true]
        simp [Finishing, FinishingPair, binding, context, getGoal, removeGoal,
          withEndpoint, lookup_removeFirst hinv.nodup]

end Complete

end ServerActionInstance

/-! ## Steps of the services -/

open ServerActionInstance (headerFits)

namespace ActionServicesServer

variable {R : PduRegistry} {s : ActionServicesServer}

/-- The argument checks and the checks before the commit. -/
def mayCommit (R : PduRegistry) (s : ActionServicesServer)
    (actionName : String) (goal : ServerGoalHandle) (status : TerminalStatus)
    (resultPdu : PduData) : Prop :=
  actionName ≠ "" ∧ (goal.valid && !resultPdu.isEmpty) = true ∧
    ∃ inst, s.getAction actionName = some inst ∧
      inst.mayCommit R goal status resultPdu = true

/-- A Result packet that passes the checks before the commit has room for the
response header. -/
def ResultFits (R : PduRegistry) (s : ActionServicesServer) :
    ServerInput → Prop
  | .call _ actionName (.complete goal status resultPdu) =>
      s.mayCommit R actionName goal status resultPdu →
        headerFits R goal status resultPdu = true
  | _ => True

/-- `Endpoint::send` was called. -/
def TriesSend (obs : List (String × ServerObs)) : Prop :=
  ∃ name errorReply key data ok,
    (name, .effect (.send errorReply key data ok)) ∈ obs

/-- A terminal commit happens only when the send was tried: a `complete` that
does not reach `Endpoint::send` changes nothing, so that a later one can still
succeed, and a Goal that becomes finishing had its Result refused by
`Endpoint::send`. -/
structure CommitsOnSend (R : PduRegistry) (s : ActionServicesServer)
    (i : ServerInput) : Prop where
  untried : ∀ net name goal status pdu,
    i = .call net name (.complete goal status pdu) →
    ¬TriesSend ((serverMachine R).step s i).2 →
    (s.call R net name (.complete goal status pdu)).result = false ∧
      ((serverMachine R).step s i).1 = s ∧
      ∀ net' status' pdu', s.mayCommit R name goal status' pdu' →
        headerFits R goal status' pdu' = true →
        (∀ key data, net' key data = true) →
        (((serverMachine R).step s i).1.call R net' name
          (.complete goal status' pdu')).result = true
  tried : ∀ name inst inst' g, s.getAction name = some inst →
    ((serverMachine R).step s i).1.getAction name = some inst' →
    inst'.Finishing g → ¬inst.Finishing g →
    ∃ slot status key data,
      Carries R inst.endpoint.slotRouting slot g (.result status) key data ∧
      (name, .effect (.send false key data false)) ∈
        ((serverMachine R).step s i).2

theorem call_of_not_mayCommit (net : SendOracle) {name : String}
    {goal : ServerGoalHandle} {status : TerminalStatus} {pdu : PduData}
    (h : ¬s.mayCommit R name goal status pdu) :
    (s.call R net name (.complete goal status pdu)).result = false ∧
      (s.call R net name (.complete goal status pdu)).state = s := by
  unfold ActionServicesServer.call
  split_ifs with hname
  · exact ⟨rfl, rfl⟩
  · split
    · exact ⟨rfl, rfl⟩
    · next inst hinst =>
        by_cases hargs :
            (ServerCall.complete goal status pdu).argumentsValid = true
        · have hmay : ¬inst.mayCommit R goal status pdu = true := by
            intro hmay
            exact h ⟨hname, hargs, inst, hinst, hmay⟩
          have hcomplete :
              inst.call R net (.complete goal status pdu) =
                { state := inst, result := false } :=
            ServerActionInstance.complete_of_not_mayCommit net hmay
          simp only [instanceMachine, hargs, if_true, hcomplete, Bool.and_false,
            true_and]
          rw [modifyFirst_eq_self hinst]
        · simp only [instanceMachine, hargs, Bool.false_eq_true, if_false,
            Bool.false_and, true_and]
          rw [modifyFirst_eq_self hinst]

/-- A `complete` that may commit, seen from its Action. -/
theorem call_of_mayCommit (net : SendOracle) {name : String}
    {goal : ServerGoalHandle} {status : TerminalStatus} {pdu : PduData}
    (h : s.mayCommit R name goal status pdu) :
    ∃ inst, s.getAction name = some inst ∧
      inst.mayCommit R goal status pdu = true ∧
      (s.call R net name (.complete goal status pdu)).result =
        (inst.complete R net goal status pdu false).result ∧
      (s.call R net name (.complete goal status pdu)).effects =
        (ServerActionInstance.callObs (.complete goal status pdu)
          (inst.complete R net goal status pdu false)).map (Prod.mk name) ∧
      (s.call R net name (.complete goal status pdu)).state.getAction name =
        some (inst.complete R net goal status pdu false).state := by
  obtain ⟨hname, hargs, inst, hinst, hmay⟩ := h
  have hvalid : (ServerCall.complete goal status pdu).argumentsValid = true :=
    hargs
  refine ⟨inst, hinst, hmay, ?_⟩
  have hkey : (inst.call R net (.complete goal status pdu)).state.actionName =
      name :=
    (inst.actionName_call _).trans (lookup_key hinst)
  have hlookup : lookup (·.actionName) name s.actions = some inst := hinst
  simp only [ActionServicesServer.call, hname, if_false, hlookup,
    instanceMachine, hvalid, if_true, getAction]
  refine ⟨rfl, rfl, ?_⟩
  rw [lookup_modifyFirst (fun _ _ => hkey), if_pos rfl, hlookup]
  rfl

theorem argumentsValid_of_mayCommit {name : String} {goal : ServerGoalHandle}
    {status : TerminalStatus} {pdu : PduData}
    (h : s.mayCommit R name goal status pdu) :
    goal.valid = true ∧ pdu.isEmpty = false := by
  simpa using h.2.1

/-- With room for the header the send is tried, and the call succeeds when the
transport takes the packet. -/
theorem call_of_headerFits (hinv : s.Invariant) (net : SendOracle)
    {name : String} {goal : ServerGoalHandle} {status : TerminalStatus}
    {pdu : PduData} (h : s.mayCommit R name goal status pdu)
    (hfits : headerFits R goal status pdu = true) :
    TriesSend (s.call R net name (.complete goal status pdu)).effects ∧
      ((∀ key data, net key data = true) →
        (s.call R net name (.complete goal status pdu)).result = true) := by
  obtain ⟨hvalid, hpdu⟩ := argumentsValid_of_mayCommit h
  obtain ⟨inst, hinst, hmay, hresult, heffects, -⟩ :=
    call_of_mayCommit net h
  obtain ⟨b, -, -, ⟨hnot, -⟩ | ⟨key, data, -, -, hsend, hnet, -⟩⟩ :=
    ServerActionInstance.complete_of_mayCommit net
      (hinv.actions inst (lookup_mem hinst)) hvalid hpdu hmay
  · rw [hfits] at hnot
    simp at hnot
  · constructor
    · refine ⟨name, false, key, data, net key data, ?_⟩
      rw [heffects, ServerActionInstance.callObs, hsend]
      simp
    · intro haccepts
      rw [hresult, hnet, haccepts]

/-- Without room for the header nothing is sent, but the Goal is committed. -/
theorem call_of_not_headerFits (hinv : s.Invariant) (net : SendOracle)
    {name : String} {goal : ServerGoalHandle} {status : TerminalStatus}
    {pdu : PduData} (h : s.mayCommit R name goal status pdu)
    (hfits : headerFits R goal status pdu = false) :
    ¬TriesSend (s.call R net name (.complete goal status pdu)).effects ∧
      (s.call R net name (.complete goal status pdu)).state ≠ s := by
  obtain ⟨hvalid, hpdu⟩ := argumentsValid_of_mayCommit h
  obtain ⟨inst, hinst, hmay, -, heffects, hstate⟩ :=
    call_of_mayCommit net h
  obtain ⟨b, hb, hopen, ⟨-, hsend, hendpoint⟩ | ⟨key, data, hnot, -⟩⟩ :=
    ServerActionInstance.complete_of_mayCommit net
      (hinv.actions inst (lookup_mem hinst)) hvalid hpdu hmay
  · constructor
    · rintro ⟨name', errorReply, key, data, ok, hmem⟩
      rw [heffects, ServerActionInstance.callObs, hsend] at hmem
      simp at hmem
    · intro hsame
      rw [hsame, hinst, Option.some.injEq] at hstate
      rw [← hstate] at hendpoint
      unfold ServerActionInstance.binding at hb
      rw [hendpoint, ActionServerEndpointImpl.find?_modifyBinding, if_pos rfl]
        at hb
      obtain ⟨b₀, -, hcommitted⟩ := Option.map_eq_some_iff.mp hb
      apply hopen
      rw [← hcommitted]
      rfl
  · rw [hfits] at hnot
    simp at hnot

theorem tried_of_call (hinv : s.Invariant) {net : SendOracle} {name : String}
    {goal : ServerGoalHandle} {status : TerminalStatus} {pdu : PduData}
    (hfits : s.mayCommit R name goal status pdu →
      headerFits R goal status pdu = true)
    {inst inst' : ServerActionInstance} (hinst : s.getAction name = some inst)
    (hinst' : (s.call R net name (.complete goal status pdu)).state.getAction
      name = some inst')
    {g : GoalId} (hafter : inst'.Finishing g) (hbefore : ¬inst.Finishing g) :
    ∃ slot result key data,
      Carries R inst.endpoint.slotRouting slot g (.result result) key data ∧
      (name, .effect (.send false key data false)) ∈
        (s.call R net name (.complete goal status pdu)).effects := by
  have haction := hinv.actions inst (lookup_mem hinst)
  by_cases h : s.mayCommit R name goal status pdu
  · obtain ⟨hvalid, hpdu⟩ := argumentsValid_of_mayCommit h
    obtain ⟨inst₀, hinst₀, hmay, -, heffects, hstate⟩ :=
      call_of_mayCommit net h
    obtain rfl : inst = inst₀ := by
      rw [hinst] at hinst₀
      exact Option.some.inj hinst₀
    obtain rfl := Option.some.inj (hinst'.symm.trans hstate)
    obtain ⟨b, hb, -, ⟨hnot, -⟩ | ⟨key, data, -, hcarries, hsend, -, hgone⟩⟩ :=
      ServerActionInstance.complete_of_mayCommit net haction hvalid hpdu hmay
    · rw [hfits h] at hnot
      simp at hnot
    · by_cases hg : g = goal.goalId
      · subst hg
        refine ⟨b.slotIndex, status, key, data, hcarries, ?_⟩
        cases hnet : net key data with
        | true => exact absurd hafter (hgone hnet)
        | false =>
            rw [heffects, ServerActionInstance.callObs, hsend, hnet]
            simp
      · have hfinishing : (inst.call R net
            (.complete goal status pdu)).state.Finishing g := hafter
        exact absurd (ServerActionInstance.finishing_call_of_ne haction hg
          hfinishing) hbefore
  · rw [(call_of_not_mayCommit _ h).2, hinst, Option.some.injEq] at hinst'
    rw [hinst'] at hbefore
    exact absurd hafter hbefore

/-- A step commits a Goal only after a send was tried, exactly when the Result
packet of the step has room for its header. -/
theorem commitsOnSend_iff (hinv : s.Invariant) (i : ServerInput) :
    CommitsOnSend R s i ↔ ResultFits R s i := by
  constructor
  · intro h
    unfold ResultFits
    split
    · next net name goal status pdu =>
        intro hmay
        by_contra hfits
        rw [Bool.not_eq_true] at hfits
        obtain ⟨huntried, hchanged⟩ :=
          call_of_not_headerFits hinv net hmay hfits
        exact hchanged (h.untried net name goal status pdu rfl huntried).2.1
    · trivial
  · intro h
    constructor
    · rintro net name goal status pdu rfl huntried
      have hnot : ¬s.mayCommit R name goal status pdu := by
        intro hmay
        exact huntried (call_of_headerFits hinv net hmay (h hmay)).1
      obtain ⟨hresult, hsame⟩ := call_of_not_mayCommit net hnot
      have hstep : ((serverMachine R).step s
          (.call net name (.complete goal status pdu))).1 = s := hsame
      refine ⟨hresult, hstep, ?_⟩
      intro net' status' pdu' hmay' hfits' haccepts
      rw [hstep]
      exact (call_of_headerFits hinv net' hmay' hfits').2 haccepts
    · intro name inst inst' g hinst hinst' hafter hbefore
      by_cases hi : ∃ net goal status pdu,
          i = .call net name (.complete goal status pdu)
      · obtain ⟨net, goal, status, pdu, rfl⟩ := hi
        exact tried_of_call hinv h hinst hinst' hafter hbefore
      · rw [(step_project (R := R) hinv.nodup hinst i).1,
          Option.some.injEq] at hinst'
        subst hinst'
        refine absurd hafter (ServerActionInstance.not_finishing_run
          (hinv.actions inst (lookup_mem hinst)) hbefore ?_)
        rintro j hj ⟨net, goal, status, pdu, rfl⟩
        cases ForAction.of_mem hj
        exact hi ⟨net, goal, status, pdu, rfl⟩

end ActionServicesServer

/-- In every reachable state of the services, a step commits the Result of a
Goal only when `Endpoint::send` was tried, exactly when it is not a `complete`
whose packet passes the checks before the commit and has no room for the
response header. -/
theorem terminal_commit_on_send_iff (R : PduRegistry)
    (nodeId implType : String) (endpointExists : String → Bool) (root : Json)
    (is : List ServerInput) (i : ServerInput) :
    ActionServicesServer.CommitsOnSend R
        ((serverMachine R).run
          (startedServer R nodeId implType endpointExists root) is) i ↔
      ActionServicesServer.ResultFits R
        ((serverMachine R).run
          (startedServer R nodeId implType endpointExists root) is) i :=
  ActionServicesServer.commitsOnSend_iff
    (ActionServicesServer.invariant_run nodeId implType endpointExists root is)
    i

/-- A Result packet without a base part: valid metadata, nothing behind it. -/
def emptyBasePacket : PduData := Layout.encodeMetaData 24 24

/-- The services with a Goal that is accepted and waits for its Result. -/
def acceptedGoalServer : ActionServicesServer :=
  let net : SendOracle := fun _ _ => true
  (serverMachine sampleRegistry).run
    (startedServer sampleRegistry "fibonacci-server" "ActionServerEndpointImpl"
      (fun _ => true) (fibonacciConfiguration 1))
    [.receive ⟨"fibonacci", 0⟩ (sampleRequest requestKindGoal), .poll net,
      .call net "fibonacci" (.acceptGoal ⟨sampleGoalId⟩)]

/-- `complete` with this packet commits the Goal and sends nothing. -/
theorem emptyBasePacket_commits_unsent :
    ¬ActionServicesServer.CommitsOnSend sampleRegistry acceptedGoalServer
      (.call (fun _ _ => true) "fibonacci"
        (.complete ⟨sampleGoalId⟩ .succeeded emptyBasePacket)) := by
  intro h
  have hobs : ((serverMachine sampleRegistry).step acceptedGoalServer
      (.call (fun _ _ => true) "fibonacci"
        (.complete ⟨sampleGoalId⟩ .succeeded emptyBasePacket))).2 =
      [("fibonacci", .effect (.commit sampleGoalId .succeeded)),
        ("fibonacci", .returned
          (.complete ⟨sampleGoalId⟩ .succeeded emptyBasePacket) false)] := by
    decide +kernel
  have hstates : ((serverMachine sampleRegistry).step acceptedGoalServer
      (.call (fun _ _ => true) "fibonacci"
        (.complete ⟨sampleGoalId⟩ .succeeded emptyBasePacket))).1.actions.map
        (fun inst => (inst.binding sampleGoalId).map (·.state)) ≠
      acceptedGoalServer.actions.map
        (fun inst => (inst.binding sampleGoalId).map (·.state)) := by
    decide +kernel
  obtain ⟨-, hsame, -⟩ := h.untried _ _ _ _ _ rfl (by
    rintro ⟨name, errorReply, key, data, ok, hmem⟩
    rw [hobs] at hmem
    simp at hmem)
  exact hstates (by rw [hsame])

end HakoPduRpc.Action
