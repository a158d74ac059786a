import HakoPduRpc.Action.FinishedGoals

/-!
# Goals of dead connections

What the application can still do with the accepted Goals of a connection whose
disconnect was handled.

A Cancel decision of such a Goal is made locally once its origin is the runtime;
a Client Cancel is reclassified only when the queued Runtime Cancel is polled,
and is answered on the wire before.  A Goal completes locally unless an earlier
`complete` has committed its Result and could not send it: such a Goal is never
left by any call.
-/

namespace HakoPduRpc.Action

open KeyedList Tickets

/-- The calls that decide about a Cancel. -/
def ServerCall.DecidesCancel : ServerCall → Prop
  | .acceptCancel _ | .rejectCancel _ => True
  | .acceptGoal _ | .rejectGoal _ | .discardPendingGoal _ | .sendFeedback _ _
  | .complete _ _ _ | .completeLocally _ _ _ => False

/-- A packet is handed to `Endpoint::send`. -/
def ServerObs.IsSend : ServerObs → Prop
  | .effect (.send _ _ _ _) => True
  | .effect (.goalErrorReply _ _ _) | .effect (.commit _ _) | .event _ _
  | .returned _ _ => False

instance decidableIsSend : (o : ServerObs) → Decidable o.IsSend
  | .effect (.send _ _ _ _) => isTrue trivial
  | .effect (.goalErrorReply _ _ _) | .effect (.commit _ _) | .event _ _
  | .returned _ _ => isFalse id

/-- The calls of the multiplexing server that decide about a Cancel. -/
def MuxCall.DecidesCancel : MuxCall → Prop
  | .acceptCancel _ | .rejectCancel _ => True
  | .acceptGoal _ | .rejectGoal _ | .sendFeedback _ _ | .complete _ _ _ => False

instance decidableDecidesCancel : (c : MuxCall) → Decidable c.DecidesCancel
  | .acceptCancel _ | .rejectCancel _ => isTrue trivial
  | .acceptGoal _ | .rejectGoal _ | .sendFeedback _ _ | .complete _ _ _ =>
      isFalse id

/-- What the application does with the Goals of dead connections. -/
def MuxInput.Application : MuxInput → Prop
  | .poll _ => True
  | .call _ _ (.acceptCancel _) | .call _ _ (.rejectCancel _)
  | .call _ _ (.complete _ _ _) => True
  | .call _ _ (.acceptGoal _) | .call _ _ (.rejectGoal _)
  | .call _ _ (.sendFeedback _ _) => False
  | .transport _ | .opened _ | .started _ | .stop => False

/-- A packet is handed to `Endpoint::send` on a connection. -/
def MuxObs.SendsOn (k : ℕ) : MuxObs → Prop
  | .connection k' _ obs => k' = k ∧ obs.IsSend
  | .connected _ _ | .processed _ | .event _ _ _ | .returned _ _ _
  | .stopped => False

instance decidableSendsOn (k : ℕ) : (o : MuxObs) → Decidable (o.SendsOn k)
  | .connection k' _ obs => inferInstanceAs (Decidable (k' = k ∧ obs.IsSend))
  | .connected _ _ | .processed _ | .event _ _ _ | .returned _ _ _
  | .stopped => isFalse id

/-! ## Cancel decisions -/

namespace ServerActionInstance

variable {R : PduRegistry} {inst : ServerActionInstance}

theorem getGoal_of_context {g : GoalId} {context : ServerGoalContext}
    (h : inst.context g = some context) :
    ∃ goal, inst.getGoal g = some goal ∧ goal.context = context := by
  simpa [ServerActionInstance.context] using h

/-- A decision is made exactly when one is pending. -/
theorem decided_iff {b : Option ActionPacketBinding} {c : ServerGoalContext}
    {e : ServerGoalEvent} (he : e = .acceptCancel ∨ e = .rejectCancel)
    (hcorr : GoalCorr b (some c)) :
    (transitionServerGoal c e).kind = .transitioned ↔
      c.cancelDecisionPending = true := by
  cases hcorr with
  | executing => rcases he with rfl | rfl <;> decide
  | clientPending => rcases he with rfl | rfl <;> decide
  | runtimePending => rcases he with rfl | rfl <;> decide
  | canceling => rcases he with rfl | rfl <;> decide
  | @finishing _ status =>
      rcases he with rfl | rfl <;> cases status <;> decide

/-- A Goal with a context has a valid id and a binding. -/
theorem Invariant.bound (hinv : inst.Invariant) {g : GoalId}
    {context : ServerGoalContext} (h : inst.context g = some context) :
    ∃ b, inst.endpoint.packetBindings.find? g = some b ∧
      isValidGoalId g = true ∧ GoalCorr (some b) (some context) := by
  have hcorr := hinv.corr g
  rw [h] at hcorr
  obtain ⟨b, hb, -, -⟩ := hcorr.states
  refine ⟨b, hb, hinv.valid hb, ?_⟩
  rwa [hb] at hcorr

/-- A decision that is not about a Client Cancel sends nothing, and it is made
when it is pending. -/
theorem decide_locally (hinv : inst.Invariant) (net : SendOracle)
    {c : ServerCall} (hc : c.DecidesCancel) {context : ServerGoalContext}
    (hcontext : inst.context c.goal.goalId = some context)
    (horigin : context.cancelOrigin ≠ .client) :
    (inst.call R net c).effects = [] ∧
      (context.cancelDecisionPending = true →
        (inst.call R net c).result = true) := by
  obtain ⟨goal, hget, rfl⟩ := getGoal_of_context hcontext
  obtain ⟨b, hb, hvalid, hcorr⟩ := hinv.bound hcontext
  have hinit := hinv.initialized
  cases c with
  | acceptCancel handle =>
      have hkind := decided_iff (Or.inl rfl) hcorr
      simp only [ServerCall.goal] at hget hb hvalid
      simp only [call, acceptCancel, hget]
      by_cases hnot : (transitionServerGoal goal.context .acceptCancel).kind ≠
          .transitioned
      · rw [if_pos hnot]
        exact ⟨rfl, fun hpending => absurd (hkind.mpr hpending) hnot⟩
      · rw [if_neg hnot]
        obtain hc | hc := pending_of_decided (Or.inl rfl) hcorr
          (not_not.mp hnot)
        · exact absurd (by rw [hc]; rfl) horigin
        · have hstate : b.state = .goalAccepted := by
            rw [hc] at hcorr
            generalize hpending : runtimePending = context at hcorr
            cases hcorr with
            | runtimePending hstate => exact hstate
            | executing | clientPending | canceling | finishing =>
                simp [runtimePending, clientPending, cancelingContext,
                  finishingContext] at hpending
          have hgoal : handle.valid = true := hvalid
          simp [ActionServerEndpointImpl.acceptCancelLocally, hgoal, hinit, hb,
            hstate, horigin]
  | rejectCancel handle =>
      have hkind := decided_iff (Or.inr rfl) hcorr
      simp only [ServerCall.goal] at hget
      simp only [call, rejectCancel, hget, if_neg horigin]
      by_cases hnot : (transitionServerGoal goal.context .rejectCancel).kind ≠
          .transitioned
      · rw [if_pos hnot]
        exact ⟨rfl, fun hpending => absurd (hkind.mpr hpending) hnot⟩
      · rw [if_neg hnot]
        exact ⟨rfl, fun _ => rfl⟩
  | acceptGoal | rejectGoal | discardPendingGoal | sendFeedback | complete
  | completeLocally => exact hc.elim

/-- A decision about a Client Cancel that succeeds is sent. -/
theorem decide_sends (net : SendOracle) {c : ServerCall}
    (hc : c.DecidesCancel)
    (hcontext : inst.context c.goal.goalId = some clientPending)
    (hok : (inst.call R net c).result = true) :
    ∃ key data, (inst.call R net c).effects = [.send false key data true] := by
  obtain ⟨goal, hget, hgoal⟩ := getGoal_of_context hcontext
  cases c with
  | acceptCancel handle =>
      simp only [ServerCall.goal] at hget
      simp only [call, acceptCancel, hget, hgoal, clientPending_cancelOrigin,
        if_true] at hok ⊢
      rw [if_neg (by decide)] at hok ⊢
      obtain ⟨hfalse, -⟩ | ⟨b, key, data, -, -, -, hsent⟩ :=
        ActionServerEndpointImpl.respond_cases (.cancelResponse .accepted) rfl
          (rfl : inst.endpoint.acceptCancel R net handle = _)
      · exact absurd hok (by simp [hfalse])
      · exact ⟨key, data, by rw [hsent]⟩
  | rejectCancel handle =>
      simp only [ServerCall.goal] at hget
      simp only [call, rejectCancel, hget, hgoal, clientPending_cancelOrigin,
        if_true] at hok ⊢
      rw [if_neg (by decide)] at hok ⊢
      obtain ⟨hfalse, -⟩ | ⟨b, key, data, -, -, -, hsent⟩ :=
        ActionServerEndpointImpl.respond_cases (.cancelResponse .rejected) rfl
          (rfl : inst.endpoint.rejectCancel R net handle = _)
      · exact absurd hok (by simp [hfalse])
      · exact ⟨key, data, by rw [hsent]⟩
  | acceptGoal | rejectGoal | discardPendingGoal | sendFeedback | complete
  | completeLocally => exact hc.elim

end ServerActionInstance

namespace ActionServicesServer

variable {R : PduRegistry} {s : ActionServicesServer}

/-- The context of a Goal of the services. -/
def goalContext (s : ActionServicesServer) (name : String) (g : GoalId) :
    Option ServerGoalContext :=
  (s.getAction name).bind fun inst => inst.context g

theorem exists_goalContext {name : String} {g : GoalId}
    (h : s.standing name g = .accepted) :
    ∃ context, s.goalContext name g = some context := by
  unfold standing standingIn at h
  unfold goalContext getAction
  cases hget : lookup (·.actionName) name s.actions with
  | none => simp [hget] at h
  | some inst =>
      simp only [hget] at h
      have hsome := ServerActionInstance.standing_eq_accepted.mp h
      exact Option.ne_none_iff_exists'.mp hsome

/-- A call for an accepted Goal is made by its Action. -/
theorem call_of_context (hinv : s.Invariant) (hnamed : s.Named)
    (net : SendOracle) {name : String} {c : ServerCall}
    {context : ServerGoalContext}
    (hcontext : s.goalContext name c.goal.goalId = some context)
    (hvalid : c.argumentsValid = true) :
    ∃ inst, inst.Invariant ∧ inst.context c.goal.goalId = some context ∧
      s.getAction name = some inst ∧
      (s.call R net name c).result = (inst.call R net c).result ∧
      (s.call R net name c).effects =
        (ServerActionInstance.callObs c (inst.call R net c)).map
          (Prod.mk name) := by
  obtain ⟨inst, hget, hinst⟩ := Option.bind_eq_some_iff.mp hcontext
  have hempty : name ≠ "" := by
    rintro rfl
    exact hnamed (lookup_key hget ▸ List.mem_map_of_mem (lookup_mem hget))
  refine ⟨inst, hinv.actions inst (lookup_mem hget), hinst, hget, ?_, ?_⟩
  · simp [call, hempty, hget, hvalid]
  · simp [call, hempty, hget, hvalid, instanceMachine,
      ServerActionInstance.callObs]

theorem valid_of_context (hinv : s.Invariant) {name : String} {g : GoalId}
    {context : ServerGoalContext}
    (hcontext : s.goalContext name g = some context) :
    isValidGoalId g = true := by
  obtain ⟨inst, hget, hinst⟩ := Option.bind_eq_some_iff.mp hcontext
  obtain ⟨b, -, hvalid, -⟩ :=
    (hinv.actions inst (lookup_mem hget)).bound hinst
  exact hvalid

theorem decide_locally (hinv : s.Invariant) (hnamed : s.Named)
    (net : SendOracle) {name : String} {c : ServerCall}
    (hc : c.DecidesCancel) {context : ServerGoalContext}
    (hcontext : s.goalContext name c.goal.goalId = some context)
    (horigin : context.cancelOrigin ≠ .client) :
    (∀ o ∈ (s.call R net name c).effects, ¬o.2.IsSend) ∧
      (context.cancelDecisionPending = true →
        (s.call R net name c).result = true) := by
  have hvalid := valid_of_context hinv hcontext
  have hargs : c.argumentsValid = true := by
    cases c <;> first | exact hc.elim | exact hvalid
  obtain ⟨inst, hinst, hgoal, -, hresult, heffects⟩ :=
    call_of_context (R := R) hinv hnamed net hcontext hargs
  obtain ⟨hnone, hok⟩ :=
    ServerActionInstance.decide_locally (R := R) hinst net hc hgoal horigin
  rw [hresult, heffects]
  refine ⟨?_, hok⟩
  intro o ho
  simp only [ServerActionInstance.callObs, hnone, List.map_nil,
    List.nil_append, List.map_cons, List.mem_singleton] at ho
  rw [ho]
  exact id

theorem decide_sends (hinv : s.Invariant) (hnamed : s.Named)
    (net : SendOracle) {name : String} {c : ServerCall}
    (hc : c.DecidesCancel)
    (hcontext : s.goalContext name c.goal.goalId = some clientPending)
    (hok : (s.call R net name c).result = true) :
    ∃ o ∈ (s.call R net name c).effects, o.2.IsSend := by
  have hvalid := valid_of_context hinv hcontext
  have hargs : c.argumentsValid = true := by
    cases c <;> first | exact hc.elim | exact hvalid
  obtain ⟨inst, hinst, hgoal, -, hresult, heffects⟩ :=
    call_of_context (R := R) hinv hnamed net hcontext hargs
  rw [hresult] at hok
  obtain ⟨key, data, hsent⟩ :=
    ServerActionInstance.decide_sends (R := R) net hc hgoal hok
  refine ⟨(name, .effect (.send false key data true)), ?_, trivial⟩
  rw [heffects, ServerActionInstance.callObs, hsent]
  simp

/-- What is sent in a call is sent by its Action. -/
theorem exists_effect_of_send {net : SendOracle} {name : String}
    {c : ServerCall} {o : String × ServerObs}
    (ho : o ∈ (s.call R net name c).effects) (hsend : o.2.IsSend) :
    ∃ inst, s.getAction name = some inst ∧
      ∃ errorReply key data ok,
        .send errorReply key data ok ∈ (inst.call R net c).effects := by
  unfold call at ho
  split_ifs at ho
  · simp at ho
  · split at ho
    · simp at ho
    · next inst hget =>
        refine ⟨inst, hget, ?_⟩
        obtain ⟨seen, hseen, rfl⟩ := List.mem_map.mp ho
        simp only [instanceMachine] at hseen
        split_ifs at hseen
        · rcases List.mem_append.mp hseen with heffect | hreturned
          · obtain ⟨e, he, rfl⟩ := List.mem_map.mp heffect
            cases e with
            | send errorReply key data ok =>
                exact ⟨errorReply, key, data, ok, he⟩
            | goalErrorReply => exact hsend.elim
            | commit => exact hsend.elim
          · rw [List.mem_singleton.mp hreturned] at hsend
            exact hsend.elim
        · rw [List.mem_singleton.mp hseen] at hsend
          exact hsend.elim

/-- Local completions send nothing. -/
theorem completeLocally_effects (net : SendOracle) (name : String)
    (goal : ServerGoalHandle) (status : TerminalStatus) (pdu : PduData) :
    ∀ o ∈ (s.call R net name (.completeLocally goal status pdu)).effects,
      ¬o.2.IsSend := by
  intro o ho hsend
  obtain ⟨inst, -, errorReply, key, data, ok, hmem⟩ :=
    exists_effect_of_send ho hsend
  simp only [ServerActionInstance.call, ServerActionInstance.complete] at hmem
  split at hmem
  · simp at hmem
  · next goalInstance _ =>
      simp only [ServerActionInstance.completeGoal, if_true] at hmem
      by_cases hkind : (transitionServerGoal goalInstance.context
          (completionEvent status)).kind ≠ .transitioned
      · rw [if_pos hkind] at hmem
        simp at hmem
      rw [if_neg hkind] at hmem
      obtain hdone | ⟨b, -, -, hdone⟩ :=
        ActionServerEndpointImpl.completeLocally_cases
          (rfl : inst.endpoint.completeLocally R goalInstance.goal status
            pdu = _)
      · rw [hdone] at hmem
        simp at hmem
      · rw [hdone] at hmem
        simp at hmem

end ActionServicesServer

namespace ActionServicesMuxServer

variable {R : PduRegistry} {s : ActionServicesMuxServer}

/-- A call sends nothing on a connection whose disconnect was handled, and the
pending Cancel decisions of its Goals are made. -/
def SilentWhenDead (R : PduRegistry) (s : ActionServicesMuxServer) :
    MuxInput → Prop
  | .call net name c =>
      (∀ slot ∈ s.slots, slot.disconnectProcessed = true →
        ∀ o ∈ (s.call R net name c).effects, ¬o.SendsOn slot.number) ∧
      (c.DecidesCancel → ∀ slot ∈ s.activeSlot name c.goal.goalId,
        slot.disconnectProcessed = true →
        ∀ context ∈ slot.server.goalContext name c.goal.goalId,
          context.cancelDecisionPending = true →
          (s.call R net name c).result = true)
  | .transport _ | .poll _ | .opened _ | .started _ | .stop => True

/-- No Client Cancel is decided on a connection whose disconnect was handled
before it is reclassified. -/
def DecidesReclassified (s : ActionServicesMuxServer) : MuxInput → Prop
  | .call _ name c =>
      c.DecidesCancel → ∀ slot ∈ s.activeSlot name c.goal.goalId,
        slot.disconnectProcessed = true →
        slot.server.goalContext name c.goal.goalId ≠ some clientPending
  | .transport _ | .poll _ | .opened _ | .started _ | .stop => True

instance decidableSilentWhenDead (R : PduRegistry)
    (s : ActionServicesMuxServer) :
    (i : MuxInput) → Decidable (SilentWhenDead R s i)
  | .call net name c =>
      inferInstanceAs (Decidable ((∀ slot ∈ s.slots,
        slot.disconnectProcessed = true →
        ∀ o ∈ (s.call R net name c).effects, ¬o.SendsOn slot.number) ∧
      (c.DecidesCancel → ∀ slot ∈ s.activeSlot name c.goal.goalId,
        slot.disconnectProcessed = true →
        ∀ context ∈ slot.server.goalContext name c.goal.goalId,
          context.cancelDecisionPending = true →
          (s.call R net name c).result = true)))
  | .transport _ | .poll _ | .opened _ | .started _ | .stop => isTrue trivial

/-- The application calls the services of a connection. -/
theorem callServer_sendsOn {net : SendOracle} {slot : ConnectionSlot}
    {name : String} {c : ServerCall} {k : ℕ} {o : MuxObs}
    (ho : o ∈ (callServer R s net slot name c).effects) (hsend : o.SendsOn k) :
    slot.number = k ∧
      ∃ seen ∈ (slot.server.call R net name c).effects, seen.2.IsSend := by
  obtain ⟨seen, hseen, rfl⟩ := List.mem_map.mp ho
  exact ⟨hsend.1, seen, hseen, hsend.2⟩

section Dead

variable (h : s.Accounts)

include h

/-- Nothing is sent on a dead connection by a call of a live one. -/
theorem live_silent {live : ConnectionSlot}
    (hfound : s.slotAt live.number = some live)
    (hlive : live.disconnected = false) {net : SendOracle} {name : String}
    {c : ServerCall} {slot : ConnectionSlot} (hslot : slot ∈ s.slots)
    (hprocessed : slot.disconnectProcessed = true) {o : MuxObs}
    (ho : o ∈ (callServer R s net live name c).effects) :
    ¬o.SendsOn slot.number := by
  intro hsend
  obtain ⟨hnumber, -⟩ := callServer_sendsOn ho hsend
  have hsame := eq_of_number (h.slotAt_of_mem hslot) hfound hnumber
  have hdead := (h.slots hfound).processed (by rw [hsame]; exact hprocessed)
  rw [hlive] at hdead
  simp at hdead

/-- An accepted Goal has a context at its connection. -/
theorem context_of_active {name : String} {g : GoalId} {slot : ConnectionSlot}
    (hslot : s.activeSlot name g = some slot) :
    ∃ context, slot.server.goalContext name g = some context := by
  have hrouted := activeSlot_eq_some hslot
  obtain ⟨first, hfirst, haccepted⟩ := h.active hrouted.owner_eq
  rw [hrouted.first, Option.some.injEq] at hfirst
  exact ActionServicesServer.exists_goalContext (hfirst ▸ haccepted)

/-- A decision on a dead connection is local exactly when it is not about a
Client Cancel. -/
theorem decision_silent_iff (net : SendOracle) {name : String}
    {c : ServerCall} (hc : c.DecidesCancel) {slot : ConnectionSlot}
    (hslot : s.activeSlot name c.goal.goalId = some slot) :
    ((∀ seen ∈ (slot.server.call R net name c).effects, ¬seen.2.IsSend) ∧
        ∀ context ∈ slot.server.goalContext name c.goal.goalId,
          context.cancelDecisionPending = true →
          (slot.server.call R net name c).result = true) ↔
      slot.server.goalContext name c.goal.goalId ≠ some clientPending := by
  have hwf := h.slots ((activeSlot_eq_some hslot).slotAt_eq h.toWellFormed)
  obtain ⟨context, hcontext⟩ := context_of_active h hslot
  constructor
  · rintro ⟨hsilent, hresult⟩ hclient
    have hok := hresult clientPending hclient rfl
    obtain ⟨o, ho, hsend⟩ := ActionServicesServer.decide_sends (R := R)
      hwf.server hwf.named net hc hclient hok
    exact hsilent o ho hsend
  · intro hne
    have horigin : context.cancelOrigin ≠ .client := by
      obtain ⟨inst, hget, hinst⟩ := Option.bind_eq_some_iff.mp hcontext
      obtain ⟨b, -, -, hcorr⟩ :=
        (hwf.server.actions inst (lookup_mem hget)).bound hinst
      rw [hcontext] at hne
      intro horigin
      refine hne (congrArg some ?_)
      cases hcorr with
      | clientPending => rfl
      | executing | runtimePending | canceling | finishing =>
          simp [runtimePending, cancelingContext, finishingContext] at horigin
    obtain ⟨hsilent, hok⟩ := ActionServicesServer.decide_locally (R := R)
      hwf.server hwf.named net hc hcontext horigin
    refine ⟨hsilent, ?_⟩
    intro context' hcontext'
    obtain rfl : context = context' :=
      Option.some.inj (hcontext.symm.trans hcontext')
    exact hok

theorem routeActiveGoal_silent_iff (net : SendOracle) (name : String)
    {c : ServerCall} (hc : c.DecidesCancel) :
    ((∀ slot ∈ s.slots, slot.disconnectProcessed = true →
        ∀ o ∈ (s.routeActiveGoal R net name c.goal.goalId c).effects,
          ¬o.SendsOn slot.number) ∧
      ∀ slot ∈ s.activeSlot name c.goal.goalId,
        slot.disconnectProcessed = true →
        ∀ context ∈ slot.server.goalContext name c.goal.goalId,
          context.cancelDecisionPending = true →
          (s.routeActiveGoal R net name c.goal.goalId c).result = true) ↔
      ∀ slot ∈ s.activeSlot name c.goal.goalId,
        slot.disconnectProcessed = true →
        slot.server.goalContext name c.goal.goalId ≠ some clientPending := by
  unfold routeActiveGoal
  cases hactive : s.activeSlot name c.goal.goalId with
  | none => simp
  | some owner =>
      have hfound := (activeSlot_eq_some hactive).slotAt_eq h.toWellFormed
      have hdecision := decision_silent_iff (R := R) h net hc hactive
      simp only [Option.mem_def, Option.some.injEq, forall_eq']
      constructor
      · rintro ⟨hsilent, hok⟩ hprocessed
        refine hdecision.mp ⟨?_, hok hprocessed⟩
        intro seen hseen hsend
        exact hsilent owner (lookup_mem hfound) hprocessed
          (.connection owner.number seen.1 seen.2)
          (List.mem_map_of_mem hseen) ⟨rfl, hsend⟩
      · intro hne
        refine ⟨?_, fun hprocessed => (hdecision.mpr (hne hprocessed)).2⟩
        intro slot hslot hprocessed o ho hsend
        obtain ⟨hnumber, seen, hseen, hsent⟩ := callServer_sendsOn ho hsend
        obtain rfl := eq_of_number (h.slotAt_of_mem hslot) hfound hnumber
        exact (hdecision.mpr (hne hprocessed)).1 seen hseen hsent

omit h in
/-- A call that decides about no Cancel. -/
theorem silentWhenDead_iff_of_not_decides {net : SendOracle} {name : String}
    {c : MuxCall} (hc : ¬c.DecidesCancel)
    (hsilent : ∀ slot ∈ s.slots, slot.disconnectProcessed = true →
      ∀ o ∈ (s.call R net name c).effects, ¬o.SendsOn slot.number) :
    SilentWhenDead R s (.call net name c) ↔
      DecidesReclassified s (.call net name c) := by
  constructor
  · intro _ hdecides
    exact absurd hdecides hc
  · intro _
    exact ⟨hsilent, fun hdecides => absurd hdecides hc⟩

/-- A call is silent on dead connections exactly when it does not decide about a
Client Cancel there. -/
theorem silentWhenDead_iff (i : MuxInput) :
    SilentWhenDead R s i ↔ DecidesReclassified s i := by
  cases i with
  | transport | poll | opened | started | stop => exact Iff.rfl
  | call net name c =>
      cases c with
      | acceptCancel goal =>
          have hroute := routeActiveGoal_silent_iff (R := R) h net name
            (c := .acceptCancel goal) trivial
          constructor
          · intro hsilent _
            exact hroute.mp ⟨hsilent.1, hsilent.2 trivial⟩
          · intro hdecides
            obtain ⟨hsilent, hok⟩ := hroute.mpr (hdecides trivial)
            exact ⟨hsilent, fun _ => hok⟩
      | rejectCancel goal =>
          have hroute := routeActiveGoal_silent_iff (R := R) h net name
            (c := .rejectCancel goal) trivial
          constructor
          · intro hsilent _
            exact hroute.mp ⟨hsilent.1, hsilent.2 trivial⟩
          · intro hdecides
            obtain ⟨hsilent, hok⟩ := hroute.mpr (hdecides trivial)
            exact ⟨hsilent, fun _ => hok⟩
      | acceptGoal goal =>
          refine silentWhenDead_iff_of_not_decides id ?_
          intro slot hslot hprocessed o ho
          simp only [call, acceptGoal] at ho
          split at ho
          · simp at ho
          · next live hlive =>
              obtain ⟨hrouted, hconnected⟩ := pendingSlot_eq_some hlive
              exact live_silent h (hrouted.slotAt_eq h.toWellFormed) hconnected
                hslot hprocessed ho
      | rejectGoal goal =>
          refine silentWhenDead_iff_of_not_decides id ?_
          intro slot hslot hprocessed o ho
          simp only [call, rejectGoal] at ho
          split at ho
          · simp at ho
          · next live hlive =>
              obtain ⟨hrouted, hconnected⟩ := pendingSlot_eq_some hlive
              exact live_silent h (hrouted.slotAt_eq h.toWellFormed) hconnected
                hslot hprocessed ho
      | sendFeedback goal pdu =>
          refine silentWhenDead_iff_of_not_decides id ?_
          intro slot hslot hprocessed o ho
          simp only [call, sendFeedback] at ho
          split at ho
          · simp at ho
          · next live hlive =>
              have hfound :=
                (activeSlot_eq_some hlive).slotAt_eq h.toWellFormed
              split_ifs at ho with hconnected
              · simp at ho
              · exact live_silent h hfound (by simpa using hconnected) hslot
                  hprocessed ho
      | complete goal status pdu =>
          refine silentWhenDead_iff_of_not_decides id ?_
          intro slot hslot hprocessed o ho
          simp only [call, complete] at ho
          split at ho
          · simp at ho
          · next live hlive =>
              have hfound :=
                (activeSlot_eq_some hlive).slotAt_eq h.toWellFormed
              cases hconnected : live.disconnected with
              | false =>
                  exact live_silent h hfound hconnected hslot hprocessed ho
              | true =>
                  intro hsend
                  rw [hconnected, if_pos rfl] at ho
                  obtain ⟨-, seen, hseen, hsent⟩ :=
                    callServer_sendsOn (s := s) ho hsend
                  exact ActionServicesServer.completeLocally_effects net name
                    goal status pdu seen hseen hsent

end Dead

/-- The accounts are kept by every input. -/
theorem Accounts.input (h : s.Accounts) (i : MuxInput) :
    ((muxMachine R).step s i).1.Accounts := by
  rw [← (runs_steps (R := R) s i).run_eq]
  exact h.run _

/-- A run of the multiplexing server sends nothing on connections whose
disconnect was handled, and makes the pending Cancel decisions of their Goals,
exactly when no Client Cancel is decided there before it is reclassified. -/
theorem dead_connections_stay_silent (R : PduRegistry)
    (nodeId actionConfigPath endpointMuxConfigPath implType : String)
    (deltaTimeUsec : UInt64) (is : List MuxInput) :
    let start := constructed nodeId actionConfigPath endpointMuxConfigPath
      implType deltaTimeUsec
    (muxMachine R).Along (SilentWhenDead R) start is ↔
      (muxMachine R).Along DecidesReclassified start is := by
  intro start
  refine (muxMachine R).along_congr (I := Accounts)
    (fun s i hs => hs.input i) (fun s i hs => silentWhenDead_iff hs i) ?_
  exact accounts_constructed nodeId actionConfigPath endpointMuxConfigPath
    implType deltaTimeUsec

/-- The second of two accepted Goals has a pending Client Cancel when the
connection disconnects, and the Runtime Cancel of the first one is reported. -/
def canceledOrphan : List MuxInput :=
  twoGoals ++ [sampleAccept sampleGoalId, sampleAccept otherGoalId,
    .transport (.receive 0 ⟨"fibonacci", 3⟩ (otherRequest requestKindCancel)),
    samplePoll 0 2 true, .transport (.disconnect 0), samplePoll 0 2 true]

/-- The Cancel Response is sent on the dead connection. -/
theorem canceledOrphan_answered :
    ¬(muxMachine sampleRegistry).Along (SilentWhenDead sampleRegistry) sampleMux
      (canceledOrphan ++ [.call (fun _ _ => true) "fibonacci"
        (.acceptCancel ⟨otherGoalId⟩)]) := by
  decide +kernel

end ActionServicesMuxServer

/-! ## Committed Goals -/

/-- A Goal whose Result is committed makes no step. -/
theorem ServerGoalStep.not_finishing {R : PduRegistry}
    {routing : List SlotRouting} {g : GoalId}
    {b b' : Option ActionPacketBinding} {c c' : Option ServerGoalContext}
    {obs : List ServerObs} {es : List ServerEntry}
    (hstep : ServerGoalStep R routing g b c obs es b' c')
    (hcorr : GoalCorr b c) {status : TerminalStatus} :
    c ≠ some (finishingContext status) := by
  rintro rfl
  have hcommitted : ∃ binding, b = some binding ∧
      binding.state = .resultCommitted := by
    obtain ⟨binding, rfl, -, hstates⟩ := hcorr.states
    refine ⟨binding, rfl, ?_⟩
    simpa [StatesCorrespond, finishingContext] using hstates
  obtain ⟨binding, rfl, hcommitted⟩ := hcommitted
  generalize hcontext : some (finishingContext status) = context at hstep
  cases hstep with
  | acceptGoal hstate | rejectGoal hstate | discard hstate
  | cancelRequest hstate | cancelSwallowed hstate | acceptCancel hstate
  | acceptCancelLocally hstate | rejectCancel hstate =>
      simp [hcommitted] at hstate
  | runtimeCancel => simp [finishingContext] at hcontext
  | runtimeReclassify => simp [finishingContext, clientPending] at hcontext
  | rejectRuntimeCancel => simp [finishingContext, runtimePending] at hcontext
  | feedback hstate => simp [hcommitted] at hstate
  | complete hmay | commitOnly hmay | completeLocally hmay =>
      simp [ActionServerEndpointImpl.mayComplete, terminalAllowed, hcommitted]
        at hmay

namespace ServerActionInstance

variable {R : PduRegistry} {inst : ServerActionInstance}

theorem finishing_step (hinv : inst.Invariant) {g : GoalId}
    {status : TerminalStatus}
    (h : inst.context g = some (finishingContext status))
    {i : InstanceInput} (hi : i ≠ .clear) :
    ((instanceMachine R).step inst i).1.context g =
      some (finishingContext status) := by
  obtain ⟨hunmoved, -⟩ | ⟨g', -, es, b, c, hstep, hupdate⟩ :=
    step_cases (R := R) hinv hi
  · rw [hunmoved.context_eq]
    exact h
  · rw [hupdate.context_eq]
    split_ifs with hg
    · exact absurd (hg ▸ h) (hstep.not_finishing (hinv.corr g'))
    · exact h

/-- A committed Goal does not complete again. -/
theorem complete_finishing (net : SendOracle)
    {goal : ServerGoalHandle} {committed : TerminalStatus}
    (h : inst.context goal.goalId = some (finishingContext committed))
    (status : TerminalStatus) (pdu : PduData) (localOnly : Bool) :
    (inst.complete R net goal status pdu localOnly).result = false := by
  obtain ⟨goalInstance, hget, hcontext⟩ := getGoal_of_context h
  have hkind : (transitionServerGoal (finishingContext committed)
      (completionEvent status)).kind ≠ .transitioned := by
    cases committed <;> cases status <;> decide
  rw [complete, hget]
  simp only [completeGoal, hcontext]
  rw [if_pos hkind]

/-- A Goal that is not committed can be aborted locally. -/
theorem abort_locally (hinv : inst.Invariant) (net : SendOracle) {g : GoalId}
    {context : ServerGoalContext} (hcontext : inst.context g = some context)
    (hstate : context.state ≠ .finishing) {b : ActionPacketBinding}
    (hb : inst.binding g = some b) {routing : SlotRouting}
    (hrouting : inst.endpoint.slotRouting[b.slotIndex]? = some routing)
    {pdu : PduData}
    (hfits : (R.validatePacketCapacity pdu routing.responsePacketBaseSize
      routing.responseHeapCapacity false).isSome = true) :
    (inst.call R net (.completeLocally ⟨g⟩ .aborted pdu)).result = true := by
  obtain ⟨goalInstance, hget, hgoal⟩ := getGoal_of_context hcontext
  obtain ⟨-, hhandle⟩ := context_eq_some hget
  obtain ⟨b', hb', hvalid, hcorr⟩ := hinv.bound hcontext
  obtain rfl : b' = b := Option.some.inj (hb'.symm.trans hb)
  have hkind : (transitionServerGoal context .completeAborted).kind =
      .transitioned := by
    cases hcorr with
    | executing | clientPending | runtimePending | canceling => rfl
    | finishing => exact absurd rfl hstate
  have hallowed : terminalAllowed (b'.state = .goalAccepted)
      (b'.state = .cancelAccepted) .aborted = true := by
    cases hcorr with
    | executing hbound | clientPending hbound | runtimePending hbound
    | canceling hbound => simp [terminalAllowed, hbound]
    | finishing => exact absurd rfl hstate
  have hpacket : inst.endpoint.validateTerminalPacket R b' .aborted pdu =
      true := by
    simp [ActionServerEndpointImpl.validateTerminalPacket, hallowed, hrouting,
      hfits]
  have hgoalValid : (⟨g⟩ : ServerGoalHandle).valid = true := hvalid
  simp [call, complete, hget, completeGoal, hgoal, hhandle, completionEvent,
    hkind, ActionServerEndpointImpl.completeLocally, hgoalValid,
    hinv.initialized, hb', hpacket]

end ServerActionInstance

namespace ActionServicesServer

variable {R : PduRegistry} {s : ActionServicesServer}

theorem clear_notMem_instanceInputs {name : String} {i : ServerInput}
    (hi : i ≠ .clearAllInstances) : .clear ∉ instanceInputs R name s i := by
  intro h
  cases ForAction.of_mem h
  exact hi rfl

/-- A committed Goal stays as it is until the services are cleared. -/
theorem finishing_step (hinv : s.Invariant) {name : String} {g : GoalId}
    {status : TerminalStatus}
    (h : s.goalContext name g = some (finishingContext status))
    {i : ServerInput} (hi : i ≠ .clearAllInstances) :
    ((serverMachine R).step s i).1.goalContext name g =
      some (finishingContext status) := by
  obtain ⟨inst, hget, hinst⟩ := Option.bind_eq_some_iff.mp h
  have hkept : ((instanceMachine R).run inst
      (instanceInputs R name s i)).Invariant ∧
      ((instanceMachine R).run inst (instanceInputs R name s i)).context g =
        some (finishingContext status) := by
    refine (instanceMachine R).invariant (C := fun _ j => j ≠ .clear)
      (I := fun inst => inst.Invariant ∧
        inst.context g = some (finishingContext status)) ?_
      ⟨hinv.actions inst (lookup_mem hget), hinst⟩ ?_
    · intro inst j hj hs
      exact ⟨hs.1.step j, ServerActionInstance.finishing_step hs.1 hs.2 hj⟩
    · refine (instanceMachine R).along_of_forall ?_ inst
      rintro j hj - rfl
      exact clear_notMem_instanceInputs hi hj
  unfold goalContext
  rw [(step_project (R := R) hinv.nodup hget i).1]
  exact hkept.2

/-- The services do not complete a committed Goal. -/
theorem call_finishing (hinv : s.Invariant) (hnamed : s.Named)
    (net : SendOracle) {name : String} {c : ServerCall} (hc : c.Completes)
    {status : TerminalStatus}
    (h : s.goalContext name c.goal.goalId = some (finishingContext status)) :
    (s.call R net name c).result = false := by
  cases hargs : c.argumentsValid with
  | false =>
      unfold call
      split_ifs
      · rfl
      · split
        · rfl
        · simp [hargs]
  | true =>
      obtain ⟨inst, -, hinst, -, hresult, -⟩ :=
        call_of_context (R := R) hinv hnamed net h hargs
      rw [hresult]
      cases c with
      | complete goal status pdu =>
          exact ServerActionInstance.complete_finishing net hinst _ _ _
      | completeLocally goal status pdu =>
          exact ServerActionInstance.complete_finishing net hinst _ _ _
      | acceptGoal | rejectGoal | discardPendingGoal | sendFeedback
      | acceptCancel | rejectCancel => exact hc.elim

/-- A well-formed Result packet: it fits the response channel of the slot of the
Goal. -/
def WellFormedResult (R : PduRegistry) (s : ActionServicesServer) (name : String)
    (g : GoalId) (pdu : PduData) : Prop :=
  pdu ≠ [] ∧ ∃ inst ∈ s.getAction name, ∃ b ∈ inst.binding g,
    ∃ routing ∈ inst.endpoint.slotRouting[b.slotIndex]?,
      (R.validatePacketCapacity pdu routing.responsePacketBaseSize
        routing.responseHeapCapacity false).isSome = true

instance decidableWellFormedResult (R : PduRegistry) (s : ActionServicesServer)
    (name : String) (g : GoalId) (pdu : PduData) :
    Decidable (WellFormedResult R s name g pdu) :=
  inferInstanceAs (Decidable (pdu ≠ [] ∧ ∃ inst ∈ s.getAction name,
    ∃ b ∈ inst.binding g, ∃ routing ∈ inst.endpoint.slotRouting[b.slotIndex]?,
      (R.validatePacketCapacity pdu routing.responsePacketBaseSize
        routing.responseHeapCapacity false).isSome = true))

/-- A Goal that is not committed can be aborted locally. -/
theorem abort_locally (hinv : s.Invariant) (hnamed : s.Named)
    (net : SendOracle) {name : String} {g : GoalId}
    {context : ServerGoalContext}
    (hcontext : s.goalContext name g = some context)
    (hstate : context.state ≠ .finishing) {pdu : PduData}
    (hpdu : WellFormedResult R s name g pdu) :
    (s.call R net name (.completeLocally ⟨g⟩ .aborted pdu)).result = true := by
  obtain ⟨hne, inst', hget', b, hb, routing, hrouting, hfits⟩ := hpdu
  have hvalid := valid_of_context hinv hcontext
  have hargs : (ServerCall.completeLocally ⟨g⟩ .aborted pdu).argumentsValid =
      true := by
    simp [ServerCall.argumentsValid, ServerGoalHandle.valid, hvalid, hne]
  obtain ⟨inst, hinst, hgoal, hget, hresult, -⟩ :=
    call_of_context (R := R) (c := .completeLocally ⟨g⟩ .aborted pdu) hinv
      hnamed net hcontext hargs
  obtain rfl : inst = inst' := Option.some.inj (hget.symm.trans hget')
  rw [hresult]
  exact ServerActionInstance.abort_locally hinst net hgoal hstate hb hrouting
    hfits

end ActionServicesServer

namespace ActionServicesMuxServer

variable {R : PduRegistry} {s s' : ActionServicesMuxServer}

/-- The first connection with an id stays the first one. -/
theorem SlotUpdate.findSlot_kept {slot slot' first : ConnectionSlot}
    (h : SlotUpdate s s' slot slot') (hwf : s.WellFormed) {c : UInt64}
    (hfirst : s.findSlot c = some first) :
    ∃ first', s'.findSlot c = some first' ∧ first'.number = first.number := by
  by_cases hnumber : first.number = slot.number
  · obtain rfl := eq_of_number h.found (hwf.slotAt_of_findSlot hfirst) hnumber
    exact ⟨slot', h.findSlot_self hwf hfirst, h.number_eq⟩
  · exact ⟨first, h.findSlot_other hwf hfirst hnumber, rfl⟩

theorem StepCase.findSlot_kept {strict : Prop} {obs : List MuxObs}
    (hcase : StepCase strict s s' obs) (hwf : s.WellFormed)
    (hstopped : .stopped ∉ obs) {c : UInt64} {first : ConnectionSlot}
    (hfirst : s.findSlot c = some first) :
    ∃ first', s'.findSlot c = some first' ∧ first'.number = first.number := by
  cases hcase with
  | same hslots =>
      rw [findSlot_congr hslots]
      exact ⟨first, hfirst, rfl⟩
  | touched h => exact h.findSlot_kept hwf hfirst
  | called h => exact h.findSlot_kept hwf hfirst
  | canceled h => exact h.findSlot_kept hwf hfirst
  | runtimeCanceled h => exact h.findSlot_kept hwf hfirst
  | stale h => exact h.findSlot_kept hwf hfirst
  | exposed h => exact h.findSlot_kept hwf hfirst
  | duplicate h => exact h.findSlot_kept hwf hfirst
  | accepted h => exact h.findSlot_kept hwf hfirst
  | rejected h => exact h.findSlot_kept hwf hfirst
  | completed h => exact h.findSlot_kept hwf hfirst
  | reclaimed hmoved _ hslot =>
      obtain ⟨mid, hmid, hnumber⟩ := hmoved.findSlot_kept hwf hfirst
      obtain ⟨last, hlast, hnumber'⟩ := hslot.findSlot_kept
        (hmoved.wellFormed_of hwf hmoved.owners.nodup) hmid
      exact ⟨last, hlast, hnumber'.trans hnumber⟩
  | connected _ _ _ _ _ hslots =>
      refine ⟨first, ?_, rfl⟩
      unfold findSlot at hfirst ⊢
      rw [hslots, lookup_append_singleton, hfirst]
      rfl
  | orphaned hslot => exact hslot.findSlot_kept hwf hfirst
  | abandoned hslot => exact hslot.findSlot_kept hwf hfirst
  | stopped => exact absurd (by simp) hstopped

/-- The accepted Goal of a dead connection is committed. -/
structure Stuck (c : UInt64) (name : String) (g : GoalId)
    (s : ActionServicesMuxServer) : Prop extends s.Accounts where
  owner_eq : s.owner name g = some (c, .active)
  committed : ∃ slot, s.findSlot c = some slot ∧
    slot.disconnectProcessed = true ∧
    ∃ status, slot.server.goalContext name g = some (finishingContext status)

theorem Stuck.activeSlot {c : UInt64} {name : String} {g : GoalId}
    (h : Stuck c name g s) : ∃ slot, s.activeSlot name g = some slot ∧
      slot.WellFormed ∧
      ∃ status,
        slot.server.goalContext name g = some (finishingContext status) := by
  obtain ⟨slot, hfirst, -, hcontext⟩ := h.committed
  refine ⟨slot, ?_, h.slots (h.slotAt_of_findSlot hfirst), hcontext⟩
  rw [ActionServicesMuxServer.activeSlot, findActiveOwner,
    findOwner_of_owner h.owner_eq]
  simpa using hfirst

/-- A committed Goal does not complete. -/
theorem Stuck.complete {c : UInt64} {name : String} {g : GoalId}
    (h : Stuck c name g s) (net : SendOracle) (status : TerminalStatus)
    (pdu : PduData) : (s.complete R net name ⟨g⟩ status pdu).result = false := by
  obtain ⟨slot, hactive, hwf, committed, hcontext⟩ := h.activeSlot
  obtain ⟨c, rfl, hresult, -⟩ := slotAt_complete (R := R) h.toWellFormed net
    status pdu (hactive : s.activeSlot name (⟨g⟩ : ServerGoalHandle).goalId = _)
  rw [hresult]
  split_ifs
  · exact ActionServicesServer.call_finishing hwf.server hwf.named net
      (by trivial) hcontext
  · exact ActionServicesServer.call_finishing hwf.server hwf.named net
      (by trivial) hcontext

/-- Only `stop` stops the server. -/
theorem stop_notMem_steps {i : MuxInput} (hi : i ≠ .stop) :
    .stop ∉ steps R s i := by
  have hpass : ∀ (t : ActionServicesMuxServer) (events : List TransportEvent),
      .stop ∉ passSteps t events := by
    intro t events
    simp [passSteps]
  have hpoll : ∀ (env : ℕ → SlotEnv) (t : ActionServicesMuxServer)
      (numbers : List ℕ), .stop ∉ pollSteps R env t numbers := by
    intro env t numbers
    induction numbers generalizing t with
    | nil => simp [pollSteps]
    | cons k rest ih =>
        rw [pollSteps]
        split
        · simp
        · simp [ih]
  have haccept : ∀ (capacity : ℕ) (arrivals : List Arrival),
      .stop ∉ acceptSteps capacity arrivals := by
    intro capacity arrivals h
    obtain ⟨arrival, -, harrival⟩ := List.mem_flatMap.mp h
    rcases List.mem_append.mp harrival with h | h
    · simp at h
    · split_ifs at h <;> simp at h
  cases i with
  | stop => exact absurd rfl hi
  | poll env =>
      simp only [steps]
      split
      · simp
      · split_ifs
        · simp only [List.mem_append, haccept, hpass, hpoll, or_self,
            false_or]
          split
          · simp
          · exact hpass _ _
        · simp
  | transport | call | opened | started => simp [steps]

/-- A Goal that is committed stays so until the server stops. -/
theorem Stuck.step {c : UInt64} {name : String} {g : GoalId}
    (h : Stuck c name g s) {j : MuxStep} (hj : j ≠ .stop) :
    Stuck c name g ((muxStepMachine R).step s j).1 := by
  have hcase := step_case (R := R) h.toWellFormed j
  have howner : ((muxStepMachine R).step s j).1.owner name g =
      some (c, .active) := by
    obtain howner | ⟨o, ho, hcompletes⟩ := hcase.active_kept h.owner_eq
    · exact howner
    · rcases hcompletes with rfl | ⟨⟨g'⟩, status, pdu, rfl, rfl⟩
      · exact absurd (step_origin ho) hj
      · obtain ⟨net, rfl, hok⟩ := step_origin ho
        exact absurd hok (by
          simp [ActionServicesMuxServer.call, h.complete net status pdu])
  have hnext := h.toAccounts.step (R := R) j
  obtain ⟨slot, hfirst, hprocessed, status, hcontext⟩ := h.committed
  have hfound := h.slotAt_of_findSlot hfirst
  obtain ⟨slot', hfirst', hnumber⟩ := hcase.findSlot_kept h.toWellFormed
    (fun ho => hj (step_origin ho)) hfirst
  have hfound' := hnext.slotAt_of_findSlot hfirst'
  have hlive : slot'.retired = false := by
    have hrouted : Routed _ slot' name g .active :=
      ⟨findSlot_id hfirst' ▸ howner, findSlot_id hfirst' ▸ hfirst'⟩
    exact hnext.live_of_call ⟨hrouted, by simp⟩
  rw [hnumber] at hfound'
  refine ⟨hnext, howner, slot', hfirst', ?_⟩
  have hwf := h.slots hfound
  obtain ⟨before, hbefore, hstep⟩ | ⟨-, -, -, hnew, -⟩ :=
    slotAt_step (R := R) h.toAccounts j hfound'
  · obtain rfl : before = slot := Option.some.inj (hbefore.symm.trans hfound)
    cases hstep with
    | same => exact ⟨hprocessed, status, hcontext⟩
    | received key data =>
        exact ⟨hprocessed, status, ActionServicesServer.finishing_step (R := R)
          (i := .receive key data) hwf.server hcontext (by simp)⟩
    | disconnected => exact ⟨hprocessed, status, hcontext⟩
    | polled net =>
        exact ⟨hprocessed, status, ActionServicesServer.finishing_step (R := R)
          (i := .poll net) hwf.server hcontext (by simp)⟩
    | duplicate net reject a goal =>
        have hpolled := ActionServicesServer.finishing_step (R := R)
          (i := .poll net) hwf.server hcontext (by simp)
        exact ⟨hprocessed, status, ActionServicesServer.finishing_step (R := R)
          (i := .call reject a (.rejectGoal goal))
          (hwf.server.step (.poll net)) hpolled (by simp)⟩
    | called net a c =>
        exact ⟨hprocessed, status, ActionServicesServer.finishing_step (R := R)
          (i := .call net a c) hwf.server hcontext (by simp)⟩
    | orphaned owners hdisconnected hunprocessed =>
        simp [hprocessed] at hunprocessed
    | abandoned owners hdisconnected hunprocessed =>
        simp [hprocessed] at hunprocessed
    | reclaimed net a c => simp at hlive
    | cleared => simp at hlive
  · exact absurd (h.fresh hfound) (by
      rw [← hnew]
      exact lt_irrefl _)

/-! ## Releasing Goals -/

/-- `complete` succeeds, takes the owner away and, when no owner of the
connection is left, retires it. -/
structure Releases (R : PduRegistry) (s : ActionServicesMuxServer)
    (net : SendOracle) (name : String) (goal : ServerGoalHandle)
    (status : TerminalStatus) (pdu : PduData) (c : UInt64) : Prop where
  result : (s.complete R net name goal status pdu).result = true
  removed :
    (s.complete R net name goal status pdu).state.owner name goal.goalId = none
  retired : (∀ a g state, (s.complete R net name goal status pdu).state.owner a
      g ≠ some (c, state)) →
    ∃ slot, (s.complete R net name goal status pdu).state.findSlot c =
      some slot ∧ slot.retired = true

/-- A completed Goal has no owner. -/
theorem owner_complete (hwf : s.WellFormed) {net : SendOracle} {name : String}
    {goal : ServerGoalHandle} {status : TerminalStatus} {pdu : PduData}
    (h : (s.complete R net name goal status pdu).result = true) :
    (s.complete R net name goal status pdu).state.owner name goal.goalId =
      none := by
  unfold complete at h ⊢
  split at h
  · simp at h
  · next slot hactive =>
      dsimp only at h ⊢
      rw [if_pos h, owner_eq_none, findOwner, owners_reclaimOrphanedSlot]
      exact (lookup_removeFirst hwf.keys _ _).trans (if_pos rfl)

/-- A Goal of a dead connection that is not committed is released by one
call. -/
theorem releases_aborted (h : s.Accounts) (net : SendOracle) {c : UInt64}
    {slot : ConnectionSlot} {name : String} {g : GoalId} {pdu : PduData}
    (hfirst : s.findSlot c = some slot)
    (hprocessed : slot.disconnectProcessed = true)
    (howner : s.owner name g = some (c, .active))
    (hpdu : ActionServicesServer.WellFormedResult R slot.server name g pdu)
    (hopen : ∀ context ∈ slot.server.goalContext name g,
      context.state ≠ .finishing) :
    Releases R s net name ⟨g⟩ .aborted pdu c := by
  obtain rfl := findSlot_id hfirst
  have hrouted : Routed s slot name g .active := ⟨howner, hfirst⟩
  have hslot := hrouted.slotAt_eq h.toWellFormed
  have hwf := h.slots hslot
  have hlive : slot.retired = false := h.live_of_call ⟨hrouted, by simp⟩
  have hactive : s.activeSlot name (⟨g⟩ : ServerGoalHandle).goalId =
      some slot := hrouted.activeSlot_eq
  obtain ⟨context, hcontext⟩ := context_of_active h hactive
  have horphaned : slot.orphaned = true := by
    rcases (h.accounted hslot).handled hprocessed with horphaned | hretired
    · exact horphaned
    · simp [hlive] at hretired
  obtain ⟨call, rfl, hresult, -, hafter⟩ := slotAt_complete (R := R)
    h.toWellFormed net .aborted pdu hactive
  have hok := ActionServicesServer.abort_locally (R := R) hwf.server hwf.named
    net hcontext (hopen context hcontext) hpdu
  rw [if_pos (hwf.processed hprocessed)] at hresult hafter
  have hdone := hresult.trans hok
  refine ⟨hdone, owner_complete h.toWellFormed hdone, ?_⟩
  intro hlast
  have hnext := h.step (R := R) (.call net name (.complete ⟨g⟩ .aborted pdu))
  have hnone : (s.complete R net name ⟨g⟩ .aborted pdu).state.owners.any
      (fun owner => owner.connectionId = slot.connectionId) = false := by
    rw [List.any_eq_false]
    rintro ⟨a, g', c', state⟩ hmem hc'
    obtain rfl : c' = slot.connectionId := by simpa using hc'
    have hkeys : ((s.complete R net name ⟨g⟩ .aborted pdu).state.owners.map
        GoalOwner.key).Nodup := hnext.keys
    rw [mem_owners_iff hkeys] at hmem
    exact hlast a g' state hmem
  rw [if_pos ⟨hok, hnone, horphaned⟩] at hafter
  -- the connection is still the first one with its id
  obtain ⟨done, hfirst', hnumber⟩ := (step_case (R := R) h.toWellFormed
    (.call net name (.complete ⟨g⟩ .aborted pdu))).findSlot_kept h.toWellFormed
    (fun ho => by simpa [Origin] using step_origin ho) hfirst
  have hdone' := hnext.slotAt_of_findSlot hfirst'
  rw [hnumber] at hdone'
  refine ⟨done, hfirst', ?_⟩
  rw [← Option.some.inj (hafter.symm.trans hdone')]

/-- A Goal of a dead connection stays committed whatever the application
does. -/
theorem Stuck.run {c : UInt64} {name : String} {g : GoalId}
    (h : Stuck c name g s) {calls : List MuxInput}
    (hcalls : ∀ i ∈ calls, i ≠ .stop) :
    Stuck c name g ((muxMachine R).run s calls) := by
  refine (muxMachine R).invariant (C := fun _ i => i ≠ .stop) ?_ h
    ((muxMachine R).along_of_forall (fun i hi _ => hcalls i hi) s)
  intro s i hi hs
  rw [← (runs_steps (R := R) s i).run_eq]
  refine (muxStepMachine R).invariant (C := fun _ j => j ≠ .stop)
    (fun s j hj hs => hs.step hj) hs
    ((muxStepMachine R).along_of_forall ?_ s)
  rintro j hj - rfl
  exact stop_notMem_steps hi hj

theorem accounts_run (R : PduRegistry)
    (nodeId actionConfigPath endpointMuxConfigPath implType : String)
    (deltaTimeUsec : UInt64) (is : List MuxInput) :
    ((muxMachine R).run (constructed nodeId actionConfigPath
      endpointMuxConfigPath implType deltaTimeUsec) is).Accounts :=
  (muxMachine R).invariant (C := fun _ _ => True) (fun _ i _ hs => hs.input i)
    (accounts_constructed nodeId actionConfigPath endpointMuxConfigPath implType
      deltaTimeUsec)
    ((muxMachine R).along_of_forall (fun _ _ _ => trivial) _)

/-- The application can release an accepted Goal of a connection whose disconnect
was handled exactly when no Result of the Goal is committed. -/
theorem orphaned_goal_released_iff (R : PduRegistry)
    (nodeId actionConfigPath endpointMuxConfigPath implType : String)
    (deltaTimeUsec : UInt64) (is : List MuxInput) {s : ActionServicesMuxServer}
    (hs : s = (muxMachine R).run (constructed nodeId actionConfigPath
      endpointMuxConfigPath implType deltaTimeUsec) is)
    {c : UInt64} {slot : ConnectionSlot} (hslot : s.findSlot c = some slot)
    (hprocessed : slot.disconnectProcessed = true) {name : String} {g : GoalId}
    (howner : s.owner name g = some (c, .active)) {pdu : PduData}
    (hpdu : ActionServicesServer.WellFormedResult R slot.server name g pdu) :
    (∃ calls : List MuxInput, (∀ i ∈ calls, i.Application) ∧ ∃ net status,
        Releases R ((muxMachine R).run s calls) net name ⟨g⟩ status pdu c) ↔
      ∀ context ∈ slot.server.goalContext name g,
        context.state ≠ .finishing := by
  have haccounts : s.Accounts := by
    rw [hs]
    exact accounts_run R nodeId actionConfigPath endpointMuxConfigPath implType
      deltaTimeUsec is
  constructor
  · rintro ⟨calls, hcalls, net, status, hreleases⟩ context hcontext hfinishing
    have hstuck : Stuck c name g s := by
      refine ⟨haccounts, howner, slot, hslot, hprocessed, ?_⟩
      obtain ⟨inst, hget, hinst⟩ := Option.bind_eq_some_iff.mp hcontext
      obtain ⟨b, -, -, hcorr⟩ := ((haccounts.slots
        (haccounts.slotAt_of_findSlot hslot)).server.actions inst
        (lookup_mem hget)).bound hinst
      cases hcorr with
      | executing | clientPending | runtimePending | canceling =>
          simp [clientPending, runtimePending, cancelingContext] at hfinishing
      | finishing => exact ⟨_, hcontext⟩
    have hlater : Stuck c name g ((muxMachine R).run s calls) := by
      refine hstuck.run ?_
      rintro i hi rfl
      exact hcalls _ hi
    have hfalse := hlater.complete (R := R) net status pdu
    rw [hreleases.result] at hfalse
    simp at hfalse
  · intro hopen
    exact ⟨[], by simp, fun _ _ => true, .aborted,
      releases_aborted haccounts _ hslot hprocessed howner hpdu hopen⟩

/-- The Result of the first Goal is committed and not sent, and then its
connection disconnects. -/
def committedOrphan : List MuxInput :=
  twoGoals ++ [sampleAccept sampleGoalId,
    .call (fun _ _ => false) "fibonacci"
      (.complete ⟨sampleGoalId⟩ .succeeded samplePacket),
    .transport (.disconnect 0), samplePoll 0 2 true]

/-- A Goal with an unsent Result is never released. -/
theorem committedOrphan_stuck :
    let s := (muxMachine sampleRegistry).run sampleMux committedOrphan
    (∃ slot, s.findSlot 1 = some slot ∧ slot.disconnectProcessed = true) ∧
      s.owner "fibonacci" sampleGoalId = some (1, .active) ∧
      ¬∃ calls : List MuxInput, (∀ i ∈ calls, i.Application) ∧
        ∃ net status pdu, Releases sampleRegistry
          ((muxMachine sampleRegistry).run s calls) net "fibonacci"
          ⟨sampleGoalId⟩ status pdu 1 := by
  intro s
  have hslot : ∃ slot, s.findSlot 1 = some slot ∧
      slot.disconnectProcessed = true ∧ ∃ status,
        slot.server.goalContext "fibonacci" sampleGoalId =
          some (finishingContext status) := by
    have hmap : (s.findSlot 1).map (fun slot => (slot.disconnectProcessed,
        slot.server.goalContext "fibonacci" sampleGoalId)) =
          some (true, some (finishingContext .succeeded)) := by
      decide +kernel
    obtain ⟨slot, hfound, hslot⟩ := Option.map_eq_some_iff.mp hmap
    simp only [Prod.mk.injEq] at hslot
    exact ⟨slot, hfound, hslot.1, _, hslot.2⟩
  have howner : s.owner "fibonacci" sampleGoalId = some (1, .active) := by
    decide +kernel
  refine ⟨?_, howner, ?_⟩
  · obtain ⟨slot, hslot, hprocessed, -⟩ := hslot
    exact ⟨slot, hslot, hprocessed⟩
  · rintro ⟨calls, hcalls, net, status, pdu, hreleases⟩
    have hstuck : Stuck 1 "fibonacci" sampleGoalId s :=
      ⟨accounts_run sampleRegistry _ _ _ _ _ _, howner, hslot⟩
    have hlater : Stuck 1 "fibonacci" sampleGoalId
        ((muxMachine sampleRegistry).run s calls) := by
      refine hstuck.run ?_
      rintro i hi rfl
      exact hcalls _ hi
    have hfalse := hlater.complete (R := sampleRegistry) net status pdu
    rw [hreleases.result] at hfalse
    simp at hfalse

/-- A Goal of a dead connection is released. -/
theorem orphanedGoals_released :
    let s := (muxMachine sampleRegistry).run sampleMux orphanedGoals
    ∃ calls : List MuxInput, (∀ i ∈ calls, i.Application) ∧ ∃ net status,
      Releases sampleRegistry ((muxMachine sampleRegistry).run s calls) net
        "fibonacci" ⟨otherGoalId⟩ status samplePacket 1 := by
  intro s
  have hmap : (s.findSlot 1).map (fun slot =>
      decide (slot.disconnectProcessed = true ∧
        ActionServicesServer.WellFormedResult sampleRegistry slot.server
          "fibonacci" otherGoalId samplePacket ∧
        ∀ context ∈ slot.server.goalContext "fibonacci" otherGoalId,
          context.state ≠ .finishing)) = some true := by
    decide +kernel
  obtain ⟨slot, hslot, hdecided⟩ := Option.map_eq_some_iff.mp hmap
  obtain ⟨hprocessed, hpdu, hopen⟩ := of_decide_eq_true hdecided
  exact (orphaned_goal_released_iff sampleRegistry "fibonacci-server"
    "action.json" "mux.json" "ActionServerEndpointImpl" 1000 orphanedGoals rfl
    hslot hprocessed (by decide +kernel) hpdu).mpr hopen

end ActionServicesMuxServer

end HakoPduRpc.Action
