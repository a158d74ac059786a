import HakoPduRpc.Action.MuxSlots

/-!
# Events of finished Goals

After a Goal has completed, `poll()` reports nothing for it until it is
requested anew, as long as no Goal completes while its Runtime Cancel event
still waits in the queue: `complete` does not take such an event out, and
`poll()` reports it later as an error.

`finishedAfter` reads from the observations of the services whether a Goal has
completed and was not requested since; the multiplexing server follows the
owners of the Goals instead.
-/

namespace HakoPduRpc.Action

open KeyedList Tickets

/-! ## Finished Goals of the services -/

/-- The calls that end an accepted Goal. -/
def ServerCall.Completes : ServerCall → Prop
  | .complete _ _ _ | .completeLocally _ _ _ => True
  | .acceptGoal _ | .rejectGoal _ | .discardPendingGoal _ | .acceptCancel _
  | .rejectCancel _ | .sendFeedback _ _ => False

instance decidableCompletes : (c : ServerCall) → Decidable c.Completes
  | .complete _ _ _ | .completeLocally _ _ _ => isTrue trivial
  | .acceptGoal _ | .rejectGoal _ | .discardPendingGoal _ | .acceptCancel _
  | .rejectCancel _ | .sendFeedback _ _ => isFalse id

/-- The observation shows a Goal Request event for the Goal. -/
def Requests (name : String) (g : GoalId) (o : String × ServerObs) : Prop :=
  ∃ slot event, o = (name, .event slot event) ∧ event.goal.goalId = g ∧
    event.type = .goalRequest

/-- How an observation changes whether a Goal is finished. -/
def followFinished (name : String) (g : GoalId) (v : Bool) :
    String × ServerObs → Bool
  | (a, .event _ event) =>
      if a = name ∧ event.goal.goalId = g ∧ event.type = .goalRequest then false
      else v
  | (a, .returned c ok) =>
      if a = name ∧ c.goal.goalId = g ∧ ok = true ∧ c.Completes then true
      else v
  | (_, .effect _) => v

/-- A Goal has completed and was not requested since. -/
def finishedAfter (name : String) (g : GoalId)
    (seen : List (String × ServerObs)) : Bool :=
  seen.foldl (followFinished name g) false

theorem finishedAfter_append (name : String) (g : GoalId)
    (seen obs : List (String × ServerObs)) :
    finishedAfter name g (seen ++ obs) =
      obs.foldl (followFinished name g) (finishedAfter name g seen) :=
  List.foldl_append

/-- A finished Goal stays so until it is requested. -/
theorem finished_until_requested {name : String} {g : GoalId}
    {obs : List (String × ServerObs)} (h : ∀ o ∈ obs, ¬Requests name g o) :
    obs.foldl (followFinished name g) true = true := by
  induction obs with
  | nil => rfl
  | cons o obs ih =>
      have hstep : followFinished name g true o = true := by
        obtain ⟨a, obs⟩ := o
        cases obs with
        | event slot event =>
            rw [followFinished, if_neg]
            rintro ⟨rfl, hgoal, htype⟩
            exact h _ List.mem_cons_self ⟨slot, event, rfl, hgoal, htype⟩
        | returned c ok => simp [followFinished]
        | effect e => rfl
      rw [List.foldl_cons, hstep]
      exact ih fun o ho => h o (List.mem_cons_of_mem _ ho)

namespace ActionServicesServer

variable {R : PduRegistry} {s : ActionServicesServer}

/-- The observations are effects of endpoints. -/
def Effects (obs : List (String × ServerObs)) : Prop :=
  ∀ o ∈ obs, ∃ name e, o = (name, .effect e)

theorem Effects.follow {obs : List (String × ServerObs)} (h : Effects obs)
    (name : String) (g : GoalId) (v : Bool) :
    obs.foldl (followFinished name g) v = v := by
  induction obs with
  | nil => rfl
  | cons o obs ih =>
      obtain ⟨a, e, rfl⟩ := h o List.mem_cons_self
      exact ih fun o ho => h o (List.mem_cons_of_mem _ ho)

theorem effects_nil : Effects [] := by
  intro o ho
  simp at ho

/-- An event among effects and one event is that one. -/
theorem Effects.last_eq {effects pre post : List (String × ServerObs)}
    (h : Effects effects) {name name' : String} {slot slot' : Option ℕ}
    {event event' : ServerEvent}
    (hsplit : pre ++ (name, .event slot event) :: post =
      effects ++ [(name', .event slot' event')]) :
    pre = effects ∧ name = name' ∧ event = event' := by
  rcases List.append_eq_append_iff.mp hsplit with ⟨rest, rfl, hrest⟩ |
    ⟨rest, rfl, hrest⟩
  · cases rest with
    | nil =>
        simp only [List.nil_append, List.cons.injEq, Prod.mk.injEq,
          ServerObs.event.injEq] at hrest
        simp [hrest.1.1, hrest.1.2.2]
    | cons o rest =>
        simp only [List.cons_append, List.cons.injEq] at hrest
        obtain ⟨a, e, heq⟩ := h o (by simp)
        rw [← hrest.1] at heq
        simp at heq
  · cases rest with
    | nil =>
        simp only [List.nil_append, List.cons.injEq, Prod.mk.injEq,
          ServerObs.event.injEq] at hrest
        simp [hrest.1.1, hrest.1.2.2]
    | cons o rest => simp at hrest

/-- What is seen of a `poll()`: effects, and the event that it reports. -/
inductive PollSeen (obs : List (String × ServerObs)) :
    Option (String × ServerEvent) → Prop
  | idle (heffects : Effects obs) : PollSeen obs none
  | reported {effects : List (String × ServerObs)} {slot : Option ℕ}
      {name : String} {event : ServerEvent} (heffects : Effects effects)
      (hobs : obs = effects ++ [(name, .event slot event)]) :
      PollSeen obs (some (name, event))

theorem effects_map (name : String) (effects : List ServerEffect) :
    Effects ((effects.map .effect).map (Prod.mk name)) := by
  intro o ho
  rw [List.map_map] at ho
  obtain ⟨e, -, rfl⟩ := List.mem_map.mp ho
  exact ⟨name, e, rfl⟩

theorem Effects.append {obs obs' : List (String × ServerObs)}
    (h : Effects obs) (h' : Effects obs') : Effects (obs ++ obs') := by
  intro o ho
  rcases List.mem_append.mp ho with ho | ho
  · exact h o ho
  · exact h' o ho

theorem pollActions_seen (net : SendOracle)
    (actions : List ServerActionInstance) :
    PollSeen (pollActions R net actions).effects
      (pollActions R net actions).result := by
  induction actions with
  | nil => exact .idle (by simp [Effects, pollActions])
  | cons inst rest ih =>
      have heffects := effects_map inst.actionName
        (inst.pollEndpoint R net).effects
      rw [pollActions]
      dsimp only
      unfold ServerActionInstance.pollObs
      cases hresult : (inst.pollEndpoint R net).result with
      | some event =>
          refine .reported heffects (?_ : _ = _ ++
            [(inst.actionName, ServerObs.event inst.headSlot event)])
          simp
      | none =>
          simp only [Option.toList_none, List.map_nil, List.append_nil]
          generalize (pollActions R net rest).result = result at ih ⊢
          cases ih with
          | idle hlater => exact .idle (heffects.append hlater)
          | reported hlater hobs =>
              rw [hobs, ← List.append_assoc]
              exact .reported (heffects.append hlater) rfl

theorem pollRuntimeEvents_seen (actions : List ServerActionInstance)
    (events : List ServerEvent) :
    PollSeen (pollRuntimeEvents actions events).effects
      (pollRuntimeEvents actions events).result := by
  induction events with
  | nil => exact .idle (by simp [Effects, pollRuntimeEvents])
  | cons event rest ih =>
      rw [pollRuntimeEvents_cons]
      split
      · exact ih
      · split
        · exact ih
        · exact .reported effects_nil rfl

theorem poll_seen (s : ActionServicesServer) (net : SendOracle) :
    PollSeen (s.poll R net).effects (s.poll R net).result := by
  have hruntime := pollRuntimeEvents_seen s.actions s.pendingRuntimeEvents
  unfold poll
  cases hresult :
      (pollRuntimeEvents s.actions s.pendingRuntimeEvents).result with
  | some reported =>
      rw [hresult] at hruntime
      simp only [hresult]
      exact hruntime
  | none =>
      simp only [hresult]
      exact pollActions_seen net s.actions

/-- What is seen of a call: nothing, or effects and its result. -/
theorem call_seen (s : ActionServicesServer) (net : SendOracle) (name : String)
    (c : ServerCall) :
    ((s.call R net name c).effects = [] ∧
        (s.call R net name c).result = false) ∨
      ∃ effects, Effects effects ∧ (s.call R net name c).effects =
        effects ++ [(name, .returned c (s.call R net name c).result)] := by
  unfold call
  split_ifs
  · exact Or.inl ⟨rfl, rfl⟩
  · split
    · exact Or.inl ⟨rfl, rfl⟩
    · next inst _ =>
        refine Or.inr ?_
        simp only [instanceMachine]
        split_ifs with hvalid
        · refine ⟨_, effects_map name (inst.call R net c).effects, ?_⟩
          simp [hvalid]
        · refine ⟨[], by simp [Effects], ?_⟩
          simp [hvalid]

/-- No Goal completes while its Runtime Cancel event is queued. -/
def CompletesUnqueued (R : PduRegistry) (s : ActionServicesServer) :
    ServerInput → Prop
  | .call net name c =>
      c.Completes → (s.call R net name c).result = true →
        ∀ event ∈ s.pendingRuntimeEvents, event.key ≠ (name, c.goal.goalId)
  | .receive _ _ | .poll _ | .stopAllServices | .clearAllInstances
  | .notifyTransportDisconnected => True

instance decidableCompletesUnqueued (R : PduRegistry)
    (s : ActionServicesServer) :
    (i : ServerInput) → Decidable (CompletesUnqueued R s i)
  | .call net name c =>
      inferInstanceAs (Decidable (c.Completes →
        (s.call R net name c).result = true →
        ∀ event ∈ s.pendingRuntimeEvents, event.key ≠ (name, c.goal.goalId)))
  | .receive _ _ | .poll _ | .stopAllServices | .clearAllInstances
  | .notifyTransportDisconnected => isTrue trivial

/-- Queued events are for accepted Goals, and finished Goals are gone. -/
structure Finished (s : ActionServicesServer) (seen : List (String × ServerObs)) :
    Prop extends Invariant s where
  queued : s.QueueAccepted s.pendingRuntimeEvents
  finished : ∀ {name g}, finishedAfter name g seen = true →
    s.standing name g = .absent

section Finished

variable {seen : List (String × ServerObs)} (h : s.Finished seen)

include h

theorem Finished.queued_call (net : SendOracle) (name : String)
    (c : ServerCall) (hc : CompletesUnqueued R s (.call net name c)) :
    (s.call R net name c).state.QueueAccepted
      (s.call R net name c).state.pendingRuntimeEvents := by
  obtain ⟨hafter, hbefore⟩ := call_standing (R := R) h.toInvariant net name c
  rw [pendingRuntimeEvents_call]
  intro event hevent
  have haccepted := h.queued event hevent
  rw [hafter]
  split_ifs with hgoal
  · obtain ⟨hok, ha, hg⟩ := hgoal
    have hstanding := hbefore hok
    rw [← ha, ← hg, haccepted] at hstanding
    cases c with
    | acceptGoal goal => rfl
    | acceptCancel goal => rfl
    | rejectCancel goal => rfl
    | sendFeedback goal pdu => rfl
    | rejectGoal goal => simp [ServerCall.standingBefore] at hstanding
    | discardPendingGoal goal => simp [ServerCall.standingBefore] at hstanding
    | complete goal status pdu =>
        exact absurd (Prod.ext ha hg) (hc trivial hok event hevent)
    | completeLocally goal status pdu =>
        exact absurd (Prod.ext ha hg) (hc trivial hok event hevent)
  · exact haccepted

theorem Finished.finished_call (net : SendOracle) (name : String)
    (c : ServerCall) {a : String} {g : GoalId}
    (hfinished : finishedAfter a g
      (seen ++ (s.call R net name c).effects) = true) :
    (s.call R net name c).state.standing a g = .absent := by
  obtain ⟨hafter, hbefore⟩ := call_standing (R := R) h.toInvariant net name c
  rw [hafter]
  rw [finishedAfter_append] at hfinished
  obtain ⟨hnone, hresult⟩ | ⟨effects, heffects, hobs⟩ :=
    call_seen (R := R) s net name c
  · rw [hnone] at hfinished
    rw [if_neg (by simp [hresult])]
    exact h.finished hfinished
  · rw [hobs, List.foldl_append, heffects.follow] at hfinished
    simp only [List.foldl_cons, List.foldl_nil, followFinished] at hfinished
    by_cases hgoal : (s.call R net name c).result = true ∧ a = name ∧
        g = c.goal.goalId
    · obtain ⟨hok, rfl, rfl⟩ := hgoal
      rw [if_pos ⟨hok, rfl, rfl⟩]
      split_ifs at hfinished with hcompletes
      · obtain ⟨-, -, -, hc⟩ := hcompletes
        cases c <;> first | exact hc.elim | rfl
      · have habsent := h.finished hfinished
        rw [hbefore hok] at habsent
        cases c <;> first | rfl | simp [ServerCall.standingBefore] at habsent
    · rw [if_neg hgoal]
      split_ifs at hfinished with hcompletes
      · exact absurd ⟨hcompletes.2.2.1, hcompletes.1.symm,
          hcompletes.2.1.symm⟩ hgoal
      · exact h.finished hfinished

theorem Finished.poll (net : SendOracle) :
    (s.poll R net).state.Finished (seen ++ (s.poll R net).effects) := by
  have hinv : (s.poll R net).state.Invariant :=
    h.toInvariant.step (R := R) (.poll net)
  have hstanding := poll_standing (R := R) h.toInvariant net
  have hseen := poll_seen (R := R) s net
  generalize (s.poll R net).state = s' at hinv hstanding ⊢
  generalize (s.poll R net).effects = obs at hseen ⊢
  generalize (s.poll R net).result = result at hstanding hseen
  -- an event can only open a Goal
  have hopen : ∀ {name g}, finishedAfter name g (seen ++ obs) = true →
      s.standing name g = .absent ∧ ∀ event a, result = some (a, event) →
        ¬(a = name ∧ event.goal.goalId = g ∧ event.type = .goalRequest) := by
    intro name g hfinished
    rw [finishedAfter_append] at hfinished
    cases hseen with
    | idle heffects =>
        rw [heffects.follow] at hfinished
        exact ⟨h.finished hfinished, by simp⟩
    | reported heffects hobs =>
        rw [hobs, List.foldl_append, heffects.follow] at hfinished
        simp only [List.foldl_cons, List.foldl_nil, followFinished]
          at hfinished
        split_ifs at hfinished with hrequest
        refine ⟨h.finished hfinished, ?_⟩
        intro event a hresult
        simp only [Option.some.injEq, Prod.mk.injEq] at hresult
        rw [← hresult.1, ← hresult.2]
        exact hrequest
  have hkept : (∀ a g, s'.standing a g = s.standing a g) →
      ∀ {name g}, finishedAfter name g (seen ++ obs) = true →
        s'.standing name g = .absent := by
    intro hsame name g hfinished
    rw [hsame]
    exact (hopen hfinished).1
  have hrest : (∀ a g, s'.standing a g = s.standing a g) →
      s'.pendingRuntimeEvents ⊆ s.pendingRuntimeEvents →
      s'.QueueAccepted s'.pendingRuntimeEvents := by
    intro hsame hsub event hevent
    rw [hsame]
    exact h.queued event (hsub hevent)
  cases hstanding with
  | idle hqueue hsame => exact ⟨hinv, hrest hsame (by simp [hqueue]), hkept hsame⟩
  | cancelRequest hqueue hsame =>
      exact ⟨hinv, hrest hsame (by simp [hqueue]), hkept hsame⟩
  | @goalRequest name event hqueue htype hvalid habsent hnew =>
      refine ⟨hinv, ?_, ?_⟩
      · rw [hqueue]
        intro event hevent
        simp at hevent
      · intro a g hfinished
        obtain ⟨hgone, hrequest⟩ := hopen hfinished
        rw [hnew, if_neg]
        · exact hgone
        · rintro ⟨rfl, rfl⟩
          exact hrequest event a rfl ⟨rfl, rfl, htype⟩
  | runtimeCancel hsplit hqueue hsame =>
      exact ⟨hinv, hrest hsame (by simp [hsplit, hqueue]), hkept hsame⟩
  | stale hsplit hqueue hsame =>
      exact ⟨hinv, hrest hsame (by simp [hsplit, hqueue]), hkept hsame⟩

theorem Finished.step (i : ServerInput) (hi : CompletesUnqueued R s i) :
    ((serverMachine R).step s i).1.Finished
      (seen ++ ((serverMachine R).step s i).2) := by
  cases i with
  | poll net => exact h.poll net
  | call net name c =>
      exact ⟨h.toInvariant.step (R := R) (.call net name c),
        h.queued_call net name c hi, h.finished_call net name c⟩
  | receive key data =>
      have hinv := h.toInvariant.step (R := R) (.receive key data)
      simp only [serverMachine, List.append_nil] at hinv ⊢
      refine ⟨hinv, ?_, ?_⟩
      · intro event hevent
        rw [standing_receive]
        exact h.queued event hevent
      · intro name g hfinished
        rw [standing_receive]
        exact h.finished hfinished
  | stopAllServices =>
      have hinv := h.toInvariant.step (R := R) .stopAllServices
      simp only [serverMachine, List.append_nil] at hinv ⊢
      refine ⟨hinv, ?_, ?_⟩
      · intro event hevent
        simp [stopAllServices] at hevent
      · intro name g hfinished
        rw [standing_stopAllServices]
        exact h.finished hfinished
  | clearAllInstances =>
      refine ⟨h.toInvariant.step (R := R) .clearAllInstances, ?_, ?_⟩
      · intro event hevent
        simp [serverMachine, clearAllInstances] at hevent
      · intro name g _
        exact standing_clearAllInstances _ name g
  | notifyTransportDisconnected =>
      have hinv := h.toInvariant.step (R := R) .notifyTransportDisconnected
      simp only [serverMachine, List.append_nil] at hinv ⊢
      exact ⟨hinv, queueAccepted_notify h.toInvariant h.queued, h.finished⟩

/-- An event other than a Goal Request is reported for a Goal that is not
finished. -/
theorem Finished.reported {i : ServerInput}
    {pre post : List (String × ServerObs)} {name : String} {slot : Option ℕ}
    {event : ServerEvent}
    (hobs : ((serverMachine R).step s i).2 =
      pre ++ (name, .event slot event) :: post)
    (htype : event.type ≠ .goalRequest) :
    finishedAfter name event.goal.goalId (seen ++ pre) = false := by
  cases i with
  | poll net =>
      have hstanding := poll_standing (R := R) h.toInvariant net
      have hseen := poll_seen (R := R) s net
      simp only [serverMachine] at hobs
      rw [hobs] at hseen
      generalize (s.poll R net).state = s' at hstanding
      generalize (s.poll R net).result = result at hstanding hseen
      cases hseen with
      | idle heffects =>
          obtain ⟨a, e, heq⟩ := heffects (name, .event slot event) (by simp)
          simp at heq
      | @reported effects slot' a reported heffects hlast =>
          obtain ⟨rfl, rfl, rfl⟩ := heffects.last_eq hlast
          have haccepted : s.standing name event.goal.goalId = .accepted := by
            cases hstanding with
            | cancelRequest hqueue hsame hcancel haccepted => exact haccepted
            | goalRequest hqueue hrequest => exact absurd hrequest htype
            | runtimeCancel hsplit hqueue hsame haccepted => exact haccepted
            | @stale dropped rest queued hsplit hqueue hsame hnot =>
                exact absurd (h.queued queued (by simp [hsplit])) hnot
          rw [finishedAfter_append, heffects.follow]
          by_contra hfinished
          rw [h.finished (Bool.eq_true_of_not_eq_false hfinished)] at haccepted
          simp at haccepted
  | call net name' c =>
      obtain ⟨hnone, -⟩ | ⟨effects, heffects, hseen⟩ :=
        call_seen (R := R) s net name' c
      · simp only [serverMachine] at hobs
        rw [hnone] at hobs
        simp at hobs
      · have hmem : (name, .event slot event) ∈
            effects ++ [(name', .returned c (s.call R net name' c).result)] := by
          rw [← hseen]
          simp only [serverMachine] at hobs
          simp [hobs]
        rcases List.mem_append.mp hmem with hmem | hmem
        · obtain ⟨a, e, heq⟩ := heffects _ hmem
          simp at heq
        · simp at hmem
  | receive key data => simp [serverMachine] at hobs
  | stopAllServices => simp [serverMachine] at hobs
  | clearAllInstances => simp [serverMachine] at hobs
  | notifyTransportDisconnected => simp [serverMachine] at hobs

end Finished

theorem finished_started (R : PduRegistry) (nodeId implType : String)
    (endpointExists : String → Bool) (root : Json) :
    (startedServer R nodeId implType endpointExists root).Finished [] where
  toInvariant := invariant_started nodeId implType endpointExists root
  queued := by
    rw [pendingRuntimeEvents_started]
    intro event hevent
    simp at hevent
  finished := by simp [finishedAfter]

/-- After a Goal has completed, no event but a Goal Request is reported for it
before it is requested anew. -/
def FinishedStaysSilent (seen : List (String × ServerObs)) : Prop :=
  ∀ before mid after name c slot event, c.Completes →
    seen = before ++ (name, .returned c true) ::
      (mid ++ (name, .event slot event) :: after) →
    event.goal.goalId = c.goal.goalId → event.type ≠ .goalRequest →
    ∃ o ∈ mid, Requests name c.goal.goalId o

/-- The services report nothing for a finished Goal. -/
theorem Finished.silent (h : s.Finished []) {is : List ServerInput}
    (his : (serverMachine R).Along (CompletesUnqueued R) s is) :
    FinishedStaysSilent ((serverMachine R).trace s is) := by
  intro before mid after name c slot event hcompletes hsplit hgoal htype
  by_contra hunrequested
  have hevent : (serverMachine R).trace s is =
      (before ++ (name, .returned c true) :: mid) ++
        (name, .event slot event) :: after := by
    rw [hsplit]
    simp
  obtain ⟨past, i, future, pre, post, rfl, hobs, hbefore⟩ :=
    (serverMachine R).exists_step_of_trace hevent
  have hpast := (serverMachine R).trace_invariant
    (fun _ _ i hi hs => hs.step i hi) h (Machine.Along.of_append _ his).1
  have hopen := hpast.reported hobs htype
  rw [← hbefore, hgoal, finishedAfter_append, List.foldl_cons] at hopen
  have hdone : followFinished name c.goal.goalId
      (finishedAfter name c.goal.goalId before) (name, .returned c true) =
      true := by
    simp [followFinished, hcompletes]
  rw [hdone, finished_until_requested] at hopen
  · simp at hopen
  · intro o ho hrequests
    exact hunrequested ⟨o, ho, hrequests⟩

end ActionServicesServer

/-! ## Finished Goals of the multiplexing server -/

namespace ActionServicesMuxServer

variable {R : PduRegistry} {strict : Prop} {s s' : ActionServicesMuxServer}

/-- No Goal completes while its Runtime Cancel event is queued, unless it is the
last Goal of its connection. -/
def CompletesUnqueued (R : PduRegistry) (s : ActionServicesMuxServer) :
    MuxStep → Prop
  | .call net name (.complete goal status pdu) =>
      (s.call R net name (.complete goal status pdu)).result = true →
        ∀ slot ∈ s.activeSlot name goal.goalId,
          (∃ event ∈ slot.server.pendingRuntimeEvents,
            event.key = (name, goal.goalId)) →
          ∀ owner ∈ s.owners, owner.connectionId = slot.connectionId →
            owner.key = (name, goal.goalId)
  | _ => True

instance decidableCompletesUnqueued (R : PduRegistry)
    (s : ActionServicesMuxServer) :
    (j : MuxStep) → Decidable (CompletesUnqueued R s j)
  | .call net name (.complete goal status pdu) =>
      inferInstanceAs (Decidable (
        (s.call R net name (.complete goal status pdu)).result = true →
        ∀ slot ∈ s.activeSlot name goal.goalId,
          (∃ event ∈ slot.server.pendingRuntimeEvents,
            event.key = (name, goal.goalId)) →
          ∀ owner ∈ s.owners, owner.connectionId = slot.connectionId →
            owner.key = (name, goal.goalId)))
  | .call _ _ (.acceptGoal _) | .call _ _ (.rejectGoal _)
  | .call _ _ (.acceptCancel _) | .call _ _ (.rejectCancel _)
  | .call _ _ (.sendFeedback _ _) | .transport _ | .acceptConnection _ _
  | .processSlot _ | .pollSlot _ _ _ | .opened _ | .started _ | .stop =>
      isTrue trivial

/-- The queued events of every connection are for accepted Goals. -/
structure Fresh (s : ActionServicesMuxServer) : Prop extends Accounts s where
  queued : ∀ {k slot}, s.slotAt k = some slot →
    slot.server.QueueAccepted slot.server.pendingRuntimeEvents

/-- A completed Goal had no queued event, or its connection is retired with
it. -/
theorem Fresh.unqueued (h : s.Fresh) {j : MuxStep}
    (hj : CompletesUnqueued R s j) {slot : ConnectionSlot}
    {name : String} {goal : ServerGoalHandle} {status : TerminalStatus}
    {pdu : PduData}
    (howners : OwnersUpdate s ((muxStepMachine R).step s j).1 name goal.goalId
      none)
    (hrouted : Routed s slot name goal.goalId .active)
    (hreturned : .returned name (.complete goal status pdu) true ∈
      ((muxStepMachine R).step s j).2) :
    (∀ event ∈ slot.server.pendingRuntimeEvents,
        event.key ≠ (name, goal.goalId)) ∨
      ∃ done, ((muxStepMachine R).step s j).1.slotAt slot.number = some done ∧
        done.server.pendingRuntimeEvents = [] := by
  refine or_iff_not_imp_left.mpr fun hqueued => ?_
  push Not at hqueued
  obtain ⟨event, hevent, hkey⟩ := hqueued
  obtain ⟨net, rfl, hok⟩ := step_origin hreturned
  have hlast := hj hok slot hrouted.activeSlot_eq ⟨event, hevent, hkey⟩
  have hfound := hrouted.slotAt_eq h.toWellFormed
  have horphaned := (h.accounted hfound).queued (List.ne_nil_of_mem hevent)
  obtain ⟨c, -, hresult, -, hafter⟩ := slotAt_complete (R := R)
    h.toWellFormed net status pdu hrouted.activeSlot_eq
  have hnone : (s.complete R net name goal status pdu).state.owners.any
      (fun owner => owner.connectionId = slot.connectionId) = false := by
    rw [List.any_eq_false]
    rintro ⟨a, g, c, state⟩ hmem hc
    obtain rfl : c = slot.connectionId := by simpa using hc
    have howned := (mem_owners_iff howners.nodup a g _ state).mp hmem
    rcases owner_of_update howners howned with ⟨-, -, hv⟩ | hbefore
    · simp at hv
    · have hsame := hlast _ (lookup_mem (findOwner_of_owner hbefore)) rfl
      simp only [GoalOwner.key, Prod.mk.injEq] at hsame
      rw [howners.owner_eq, if_pos hsame] at howned
      simp at howned
  rw [if_pos ⟨hresult ▸ hok, hnone, horphaned⟩] at hafter
  exact ⟨_, hafter, rfl⟩

theorem queueAccepted_nil {server : ActionServicesServer}
    (h : server.pendingRuntimeEvents = []) :
    server.QueueAccepted server.pendingRuntimeEvents := by
  intro event hevent
  rw [h] at hevent
  simp at hevent

/-- A connection whose Goals do not move keeps or shortens its queue. -/
theorem Fresh.touched (h : s.Fresh) {slot slot' : ConnectionSlot}
    (htouched : Touched s s' slot slot')
    (hqueue : slot'.server.pendingRuntimeEvents ⊆
      slot.server.pendingRuntimeEvents) :
    slot'.server.QueueAccepted slot'.server.pendingRuntimeEvents := by
  intro event hevent
  rw [htouched.standing_eq]
  exact h.queued htouched.found event (hqueue hevent)

/-- A Goal moves that is accepted afterwards or has no queued event. -/
theorem Fresh.moved (h : s.Fresh) {slot slot' : ConnectionSlot}
    {name : String} {g : GoalId} {standing : GoalStanding}
    {v : Option (UInt64 × GoalOwnerState)}
    (hmoved : Moved s s' slot slot' name g standing v)
    (hqueue : slot'.server.pendingRuntimeEvents =
      slot.server.pendingRuntimeEvents)
    (hgoal : standing = .accepted ∨
      ∀ event ∈ slot.server.pendingRuntimeEvents, event.key ≠ (name, g)) :
    slot'.server.QueueAccepted slot'.server.pendingRuntimeEvents := by
  intro event hevent
  rw [hqueue] at hevent
  rw [hmoved.standing_eq]
  split_ifs with hkey
  · rcases hgoal with rfl | hgoal
    · rfl
    · exact absurd (Prod.ext hkey.1 hkey.2) (hgoal event hevent)
  · exact h.queued hmoved.found event hevent

/-- The connection that a step changes has only events for accepted Goals. -/
theorem Fresh.update (h : s.Fresh) {slot slot' : ConnectionSlot}
    (hslot : SlotUpdate s s' slot slot')
    (hnew : slot'.server.QueueAccepted slot'.server.pendingRuntimeEvents)
    {k : ℕ} {found : ConnectionSlot} (hfound : s'.slotAt k = some found) :
    found.server.QueueAccepted found.server.pendingRuntimeEvents := by
  rw [hslot.slotAt_eq] at hfound
  split_ifs at hfound
  · rw [← Option.some.inj hfound]
    exact hnew
  · exact h.queued hfound

theorem Fresh.queued_step (h : s.Fresh) {j : MuxStep}
    (hj : CompletesUnqueued R s j) {k : ℕ} {found : ConnectionSlot}
    (hfound : ((muxStepMachine R).step s j).1.slotAt k = some found) :
    found.server.QueueAccepted found.server.pendingRuntimeEvents := by
  have hcase := step_case (R := R) h.toWellFormed j
  -- what is seen decides whether a Goal completes
  have hunqueued := @Fresh.unqueued R s h j hj
  generalize ((muxStepMachine R).step s j).2 = obs at hcase hunqueued
  generalize ((muxStepMachine R).step s j).1 = s' at hcase hunqueued hfound
  cases hcase with
  | same hslots =>
      rw [slotAt_congr hslots] at hfound
      exact h.queued hfound
  | touched htouched hqueue =>
      refine h.update htouched.toSlotUpdate (h.touched htouched ?_) hfound
      rcases hqueue with hqueue | hqueue <;> simp [hqueue]
  | called htouched hqueue =>
      exact h.update htouched.toSlotUpdate
        (h.touched htouched (by simp [hqueue])) hfound
  | canceled htouched hqueue =>
      exact h.update htouched.toSlotUpdate (queueAccepted_nil hqueue) hfound
  | runtimeCanceled htouched hsplit hqueue =>
      exact h.update htouched.toSlotUpdate
        (h.touched htouched (by simp [hsplit, hqueue])) hfound
  | stale htouched hsplit hqueue =>
      exact h.update htouched.toSlotUpdate
        (h.touched htouched (by simp [hsplit, hqueue])) hfound
  | exposed hmoved hlive hqueue =>
      exact h.update hmoved.toSlotUpdate (queueAccepted_nil hqueue) hfound
  | duplicate hmoved hqueue =>
      exact h.update hmoved.toSlotUpdate (queueAccepted_nil hqueue) hfound
  | accepted hmoved hqueue =>
      exact h.update hmoved.toSlotUpdate
        (h.moved hmoved hqueue (Or.inl rfl)) hfound
  | rejected hmoved hqueue hrouted hundecided =>
      refine h.update hmoved.toSlotUpdate
        (h.moved hmoved hqueue (Or.inr ?_)) hfound
      intro event hevent hkey
      have haccepted := h.queued hmoved.found event hevent
      simp only [ServerEvent.key, Prod.mk.injEq] at hkey
      rw [hkey.1, hkey.2, hundecided] at haccepted
      simp at haccepted
  | completed hmoved hqueue hrouted =>
      refine h.update hmoved.toSlotUpdate ?_ hfound
      obtain hgoal | ⟨done, hdone, hempty⟩ := hunqueued hmoved.owners hrouted
        (List.mem_append_right _ List.mem_cons_self)
      · exact h.moved hmoved hqueue (Or.inr hgoal)
      · rw [hmoved.slotAt_eq, if_pos rfl, Option.some.injEq] at hdone
        exact queueAccepted_nil (hdone ▸ hempty)
  | @reclaimed t _ slot slot' last last' obs name goal status pdu hmoved hqueue
      hslot hretired hid hprocessed howners hlast hrouted =>
      have hupdate : OwnersUpdate s s' name goal.goalId none := by
        unfold OwnersUpdate
        rw [howners]
        exact hmoved.owners
      obtain hgoal | ⟨done, hdone, hempty⟩ := hunqueued hupdate hrouted
        (List.mem_append_right _ List.mem_cons_self)
      · rw [hslot.slotAt_eq] at hfound
        split_ifs at hfound
        · rw [← Option.some.inj hfound]
          exact queueAccepted_nil hretired.queue_eq
        · exact h.update hmoved.toSlotUpdate
            (h.moved hmoved hqueue (Or.inr hgoal)) hfound
      · by_cases hk : k = slot.number
        · rw [hk, hdone, Option.some.injEq] at hfound
          exact queueAccepted_nil (hfound ▸ hempty)
        · rw [hslot.slotAt_eq, hmoved.slotAt_eq, if_neg hk] at hfound
          split_ifs at hfound
          · rw [← Option.some.inj hfound]
            exact queueAccepted_nil hretired.queue_eq
          · exact h.queued hfound
  | connected hnumber hwf hunprocessed hstanding hqueue hslots =>
      unfold slotAt at hfound
      rw [hslots, lookup_append_singleton] at hfound
      rcases Option.or_eq_some_iff.mp hfound with hfound | ⟨-, hfound⟩
      · exact h.queued hfound
      · split_ifs at hfound
        rw [← Option.some.inj hfound]
        exact queueAccepted_nil hqueue
  | orphaned hslot hunprocessed hprocessed hretired hstanding hqueue =>
      exact h.update hslot hqueue hfound
  | abandoned hslot hretired =>
      exact h.update hslot (queueAccepted_nil hretired.queue_eq) hfound
  | stopped hslots =>
      rw [slotAt, hslots] at hfound
      simp at hfound

theorem Fresh.step (h : s.Fresh) (j : MuxStep)
    (hj : CompletesUnqueued R s j) : ((muxStepMachine R).step s j).1.Fresh where
  toAccounts := h.toAccounts.step j
  queued := h.queued_step hj

theorem fresh_constructed
    (nodeId actionConfigPath endpointMuxConfigPath implType : String)
    (deltaTimeUsec : UInt64) :
    (constructed nodeId actionConfigPath endpointMuxConfigPath implType
      deltaTimeUsec).Fresh where
  toAccounts := accounts_constructed nodeId actionConfigPath
    endpointMuxConfigPath implType deltaTimeUsec
  queued := by simp [constructed, slotAt]

/-- An event other than a Goal Request is reported for an accepted Goal. -/
theorem Fresh.reported (h : s.Fresh) {j : MuxStep} {pre post : List MuxObs}
    {k : ℕ} {name : String} {event : ServerEvent}
    (hobs : ((muxStepMachine R).step s j).2 =
      pre ++ .event k name event :: post)
    (htype : event.type ≠ .goalRequest) :
    Quiet pre ∧ s.owner name event.goal.goalId = some (ticket k, .active) := by
  have hcase := step_case (R := R) h.toWellFormed j
  obtain ⟨hquiet, hlawful⟩ := hcase.lawful h.toInvariant hobs
  refine ⟨hquiet, hlawful.2 ?_⟩
  obtain ⟨poll, reject, slot, -, hfound, -, hresult⟩ :
      Origin R s j (.event k name event) := step_origin (by simp [hobs])
  have hslot := h.slots hfound
  have hpoll := ActionServicesServer.poll_standing (R := R) hslot.server poll
  rw [hresult] at hpoll
  generalize (slot.server.poll R poll).state = server at hpoll
  cases hpoll with
  | cancelRequest hqueue hsame hcancel => exact Or.inl hcancel
  | goalRequest hqueue hrequest => exact absurd hrequest htype
  | runtimeCancel hsplit =>
      exact Or.inr (hslot.queue.type_eq event (by simp [hsplit]))
  | @stale dropped rest queued hsplit hqueue hsame hnot =>
      exact absurd (h.queued hfound queued (by simp [hsplit])) hnot

/-- A connection comes to own a Goal when one with its id exposes it. -/
theorem exposed_of_ownerAfter {name : String} {g : GoalId} {c : UInt64}
    {obs : List MuxObs} {v : Option (UInt64 × GoalOwnerState)}
    (hv : ∀ w, v = some w → w.1 ≠ c) {state : GoalOwnerState}
    (h : obs.foldl (followOwner name g) v = some (c, state)) :
    ∃ o ∈ obs, ∃ k, ticket k = c ∧ o.Exposes name g k := by
  induction obs generalizing v with
  | nil => exact absurd rfl (hv _ h)
  | cons o obs ih =>
      by_cases hexposes : ∃ k, ticket k = c ∧ o.Exposes name g k
      · exact ⟨o, List.mem_cons_self, hexposes⟩
      · have hnext : ∀ w, followOwner name g v o = some w → w.1 ≠ c := by
          intro w hw
          cases o with
          | event k' a event =>
              simp only [followOwner] at hw
              split_ifs at hw with hexposed
              · rw [← Option.some.inj hw]
                rintro hid
                obtain ⟨rfl, hgoal, htype⟩ := hexposed
                exact hexposes ⟨k', hid, event, rfl, hgoal, htype⟩
              · exact hv w hw
          | returned a call ok =>
              simp only [followOwner] at hw
              split_ifs at hw
              · cases call with
                | acceptGoal goal =>
                    obtain ⟨w', hw', rfl⟩ := Option.map_eq_some_iff.mp hw
                    exact hv w' hw'
                | rejectGoal goal => simp at hw
                | complete goal status pdu => simp at hw
                | acceptCancel goal => exact hv w hw
                | rejectCancel goal => exact hv w hw
                | sendFeedback goal pdu => exact hv w hw
              · exact hv w hw
          | processed k' =>
              simp only [followOwner] at hw
              split_ifs at hw
              exact hv w hw
          | stopped => simp [followOwner] at hw
          | connected k' id => exact hv w hw
          | connection k' a seen => exact hv w hw
        obtain ⟨o', ho', hexposed⟩ := ih hnext h
        exact ⟨o', List.mem_cons_of_mem _ ho', hexposed⟩

/-- Two connections have one id. -/
def SameId (k k' : ℕ) : Prop := ticket k = ticket k'

/-- After a Goal has completed, a connection reports no event but a Goal Request
for it before it is exposed anew, by this connection or by one that is the
`same` to the server. -/
def FinishedStaysSilent (same : ℕ → ℕ → Prop) (seen : List MuxObs) : Prop :=
  ∀ before mid after name goal status pdu k event,
    seen = before ++ .returned name (.complete goal status pdu) true ::
      (mid ++ .event k name event :: after) →
    event.goal.goalId = goal.goalId → event.type ≠ .goalRequest →
    ∃ o ∈ mid, ∃ k', same k' k ∧ o.Exposes name goal.goalId k'

/-- While no id is handed out twice, only the connection itself is. -/
theorem FinishedStaysSilent.of_unwrapped {seen : List MuxObs}
    (h : FinishedStaysSilent SameId seen) (hfollows : Follows strict s seen)
    (hu : s.Unwrapped) : FinishedStaysSilent Eq seen := by
  intro before mid after name goal status pdu k event hsplit hgoal htype
  obtain ⟨o, ho, k', hid, exposed, rfl, hexposed⟩ :=
    h before mid after name goal status pdu k event hsplit hgoal htype
  have hevent : .event k name event ∈ seen := by
    rw [hsplit]
    simp
  have hexposes : .event k' name exposed ∈ seen := by
    rw [hsplit]
    simp [ho]
  have hk := hfollows.numbered hevent
  have hk' := hfollows.numbered hexposes
  exact ⟨_, ho, k', ticket_inj hu hk' hk hid, exposed, rfl, hexposed⟩

/-- The server reports nothing for a finished Goal. -/
theorem Fresh.silent (h : s.Fresh) (hfollows : Follows False s [])
    {js : List MuxStep}
    (hjs : (muxStepMachine R).Along (CompletesUnqueued R) s js) :
    FinishedStaysSilent SameId ((muxStepMachine R).trace s js) := by
  intro before mid after name goal status pdu k event hsplit hgoal htype
  have hevent : (muxStepMachine R).trace s js =
      (before ++ .returned name (.complete goal status pdu) true :: mid) ++
        .event k name event :: after := by
    rw [hsplit]
    simp
  obtain ⟨past, j, future, pre, post, rfl, hobs, hbefore⟩ :=
    (muxStepMachine R).exists_step_of_trace hevent
  have hpast := (muxStepMachine R).invariant (fun _ j hj hs => hs.step j hj) h
    (Machine.Along.of_append _ hjs).1
  obtain ⟨hquiet, howner⟩ := hpast.reported hobs htype
  rw [hgoal, ← (hfollows.run (R := R) past).follow,
    ← hquiet.ownerAfter_append, ← hbefore, ownerAfter_append,
    List.foldl_cons] at howner
  refine exposed_of_ownerAfter ?_ howner
  simp [followOwner, MuxCall.goal]

end ActionServicesMuxServer

/-- In every run of the multiplexing server and of the services in which no Goal
completes while its Runtime Cancel event is queued, `poll()` reports nothing for
a Goal that has completed.  For the multiplexing server connections with one id
are the same; they are one connection as long as no id is handed out twice. -/
theorem finished_goals_stay_silent (R : PduRegistry) :
    (∀ nodeId actionConfigPath endpointMuxConfigPath implType deltaTimeUsec is,
      let start := ActionServicesMuxServer.constructed nodeId actionConfigPath
        endpointMuxConfigPath implType deltaTimeUsec
      (muxMachine R).Along (ActionServicesMuxServer.StepsSatisfy R
          (ActionServicesMuxServer.CompletesUnqueued R)) start is →
      ActionServicesMuxServer.FinishedStaysSilent
          ActionServicesMuxServer.SameId ((muxMachine R).trace start is) ∧
        (((muxMachine R).run start is).Unwrapped →
          ActionServicesMuxServer.FinishedStaysSilent Eq
            ((muxMachine R).trace start is))) ∧
    ∀ nodeId implType endpointExists root is,
      (serverMachine R).Along (ActionServicesServer.CompletesUnqueued R)
        (startedServer R nodeId implType endpointExists root) is →
      ActionServicesServer.FinishedStaysSilent ((serverMachine R).trace
        (startedServer R nodeId implType endpointExists root) is) := by
  constructor
  · intro nodeId actionConfigPath endpointMuxConfigPath implType deltaTimeUsec
      is start his
    obtain ⟨js, hjs, hstate, htrace⟩ :=
      ActionServicesMuxServer.exists_steps R his
    have hfollows := ActionServicesMuxServer.follows_constructed False nodeId
      actionConfigPath endpointMuxConfigPath implType deltaTimeUsec
    have hsilent := (ActionServicesMuxServer.fresh_constructed nodeId
      actionConfigPath endpointMuxConfigPath implType deltaTimeUsec).silent
      hfollows hjs
    rw [hstate, htrace]
    exact ⟨hsilent, hsilent.of_unwrapped (hfollows.run js)⟩
  · intro nodeId implType endpointExists root is his
    exact (ActionServicesServer.finished_started R nodeId implType
      endpointExists root).silent his

namespace ActionServicesMuxServer

/-- Both Goals are accepted when the connection disconnects, and the first
Runtime Cancel is reported. -/
def orphanedGoals : List MuxInput :=
  twoGoals ++ [sampleAccept sampleGoalId, sampleAccept otherGoalId,
    .transport (.disconnect 0), samplePoll 0 2 true]

/-- The second Goal completes before its Runtime Cancel is reported, and is
reported as an error later. -/
theorem staleCancel_reported :
    ¬FinishedStaysSilent SameId (sampleTrace (orphanedGoals ++
      [sampleComplete otherGoalId, samplePoll 0 2 true])) := by
  intro hsilent
  let seen := sampleTrace (orphanedGoals ++
    [sampleComplete otherGoalId, samplePoll 0 2 true])
  obtain ⟨o, hmid, k, -, event, rfl, hrequest⟩ := hsilent (seen.take 16)
    ((seen.drop 17).take 1) (seen.drop 19) "fibonacci" ⟨otherGoalId⟩ .aborted
    samplePacket 0 ⟨.error, ⟨otherGoalId⟩, .transportDisconnected, "fibonacci",
      []⟩ (by decide +kernel) rfl (by decide)
  have hnone : (seen.drop 17).take 1 = [.connection 0 "fibonacci"
      (.event none ⟨.error, ⟨otherGoalId⟩, .transportDisconnected,
        "fibonacci", []⟩)] := by
    decide +kernel
  rw [hnone] at hmid
  simp at hmid

/-- A connection of the services disconnects with one accepted Goal. -/
def canceledConnection : List ServerInput :=
  [.receive ⟨"fibonacci", 0⟩ (sampleRequest requestKindGoal),
    .poll fun _ _ => true,
    .call (fun _ _ => true) "fibonacci" (.acceptGoal ⟨sampleGoalId⟩),
    .notifyTransportDisconnected, .poll fun _ _ => true,
    .call (fun _ _ => true) "fibonacci"
      (.completeLocally ⟨sampleGoalId⟩ .aborted samplePacket),
    .poll fun _ _ => true]

/-- The Goals complete after their Runtime Cancels are reported. -/
theorem reportedCancels_silent :
    let is := orphanedGoals ++ [samplePoll 0 2 true,
      sampleComplete otherGoalId, sampleComplete sampleGoalId,
      samplePoll 0 2 true]
    let start := startedServer sampleRegistry "fibonacci-server"
      "ActionServerEndpointImpl" (fun _ => true) (fibonacciConfiguration 1)
    ((sampleTrace is).filter fun o => o matches .event _ _ _).length = 4 ∧
      FinishedStaysSilent Eq (sampleTrace is) ∧
      ActionServicesServer.FinishedStaysSilent
        ((serverMachine sampleRegistry).trace start canceledConnection) := by
  intro is start
  have hsilent := finished_goals_stay_silent sampleRegistry
  refine ⟨by decide +kernel, (hsilent.1 "fibonacci-server" "action.json"
    "mux.json" "ActionServerEndpointImpl" 1000 is (by decide +kernel)).2 ?_,
    hsilent.2 "fibonacci-server" "ActionServerEndpointImpl" (fun _ => true)
      (fibonacciConfiguration 1) canceledConnection (by decide +kernel)⟩
  unfold Unwrapped
  decide +kernel

end ActionServicesMuxServer

end HakoPduRpc.Action
