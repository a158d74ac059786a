import HakoPduRpc.Action.ServerCorrespondence

/-!
# Where a Goal stands with the services

Seen from outside, a Goal is absent, waits for the decision of the application,
or is accepted.  `call_standing` and `poll_cases` say what a call and a `poll()`
of the services do to the standing of every Goal, and what `poll()` does to the
queue of Runtime Cancel events.
-/

namespace HakoPduRpc.Action

open KeyedList

/-- Where a Goal stands. -/
inductive GoalStanding
  | absent
  | undecided
  | accepted
deriving DecidableEq, Repr

/-- The standing that belongs to a binding and a context. -/
def GoalStanding.ofPair (b : Option ActionPacketBinding)
    (c : Option ServerGoalContext) : GoalStanding :=
  if c.isSome then .accepted else if b.isSome then .undecided else .absent

/-- The standing that a call needs to succeed. -/
def ServerCall.standingBefore : ServerCall → GoalStanding
  | .acceptGoal _ | .rejectGoal _ | .discardPendingGoal _ => .undecided
  | _ => .accepted

/-- The standing after a call that succeeded. -/
def ServerCall.standingAfter : ServerCall → GoalStanding
  | .rejectGoal _ | .discardPendingGoal _ | .complete _ _ _
  | .completeLocally _ _ _ => .absent
  | _ => .accepted

/-- A call that succeeds changes the standing of its Goal as it should, and one
that fails does not. -/
theorem ServerGoalStep.standing {R : PduRegistry} {routing : List SlotRouting}
    {g : GoalId} {b b' : Option ActionPacketBinding}
    {c c' : Option ServerGoalContext} {obs : List ServerObs}
    {es : List ServerEntry}
    (h : ServerGoalStep R routing g b c obs es b' c') {call : ServerCall}
    {ok : Bool} (hreturned : .returned call ok ∈ obs) :
    (ok = true → GoalStanding.ofPair b c = call.standingBefore ∧
      GoalStanding.ofPair b' c' = call.standingAfter) ∧
      (ok = false → GoalStanding.ofPair b' c' = GoalStanding.ofPair b c) := by
  cases h with
  | commitOnly hmay hfailed =>
      obtain rfl | ⟨key, data, rfl⟩ := hfailed <;>
        simp_all [GoalStanding.ofPair]
  | _ =>
      simp_all [GoalStanding.ofPair, ServerCall.standingBefore,
        ServerCall.standingAfter]

namespace ServerActionInstance

variable {R : PduRegistry} {net : SendOracle} {inst inst' : ServerActionInstance}

/-- Where a Goal stands in an Action. -/
def standing (inst : ServerActionInstance) (g : GoalId) : GoalStanding :=
  .ofPair (inst.binding g) (inst.context g)

theorem standing_eq_accepted {g : GoalId} :
    inst.standing g = .accepted ↔ inst.context g ≠ none := by
  unfold standing GoalStanding.ofPair
  cases inst.context g <;> cases inst.binding g <;> simp

theorem standing_eq_absent (hinv : inst.Invariant) {g : GoalId} :
    inst.standing g = .absent ↔ inst.binding g = none := by
  have hcorr := hinv.corr g
  unfold standing
  generalize inst.binding g = b at hcorr ⊢
  generalize inst.context g = c at hcorr ⊢
  cases hcorr <;> simp [GoalStanding.ofPair]

theorem standing_eq_undecided (hinv : inst.Invariant) {g : GoalId} :
    inst.standing g = .undecided ↔
      ∃ b, inst.binding g = some b ∧ b.state = .awaitingGoalDecision := by
  have hcorr := hinv.corr g
  unfold standing
  generalize inst.binding g = b at hcorr ⊢
  generalize inst.context g = c at hcorr ⊢
  cases hcorr <;> simp_all [GoalStanding.ofPair]

theorem GoalUpdate.standing_eq {g : GoalId} {b : Option ActionPacketBinding}
    {c : Option ServerGoalContext} (h : GoalUpdate inst inst' g b c)
    (g' : GoalId) :
    inst'.standing g' =
      if g' = g then .ofPair b c else inst.standing g' := by
  unfold standing
  rw [h.binding_eq, h.context_eq]
  split_ifs <;> rfl

/-- What a call does to the standing of a Goal. -/
theorem call_standing (hinv : inst.Invariant) (net : SendOracle)
    (c : ServerCall) (g : GoalId) :
    (inst.call R net c).state.standing g =
        (if (inst.call R net c).result = true ∧ g = c.goal.goalId then
          c.standingAfter else inst.standing g) ∧
      ((inst.call R net c).result = true →
        inst.standing c.goal.goalId = c.standingBefore) := by
  obtain ⟨hsame, hquiet⟩ | ⟨⟨es, b, context, hstep, hupdate⟩, -⟩ :=
    call_cases (R := R) hinv net c
  · have hfalse : (inst.call R net c).result = false := by
      rcases hquiet _ (mem_callObs c _) with ⟨c', hc'⟩ | ⟨key, data, hsend⟩
      · simp only [ServerObs.returned.injEq] at hc'
        exact hc'.2
      · simp at hsend
    rw [hsame, hfalse]
    simp
  · obtain ⟨htrue, hfalse⟩ := hstep.standing (mem_callObs c _)
    rw [hupdate.standing_eq]
    cases hresult : (inst.call R net c).result with
    | false =>
        have hsame := hfalse hresult
        refine ⟨?_, by simp⟩
        simp only [Bool.false_eq_true, false_and, if_false]
        split_ifs with hg
        · rw [hg]
          exact hsame
        · rfl
    | true =>
        obtain ⟨hbefore, hafter⟩ := htrue hresult
        refine ⟨?_, fun _ => hbefore⟩
        simp only [true_and, hafter]

/-- What one iteration of the endpoint loop does: nothing, a Goal Request, or a
Cancel Request. -/
theorem pollEndpoint_standing (hinv : inst.Invariant) (net : SendOracle) :
    ((inst.pollEndpoint R net).result = none ∧
        ∀ g, (inst.pollEndpoint R net).state.standing g = inst.standing g) ∨
      ∃ event, (inst.pollEndpoint R net).result = some event ∧
        ((event.type = .cancelRequest ∧
            inst.standing event.goal.goalId = .accepted ∧
            ∀ g, (inst.pollEndpoint R net).state.standing g =
              inst.standing g) ∨
          (event.type = .goalRequest ∧ event.goal.valid = true ∧
            inst.standing event.goal.goalId = .absent ∧
            ∀ g, (inst.pollEndpoint R net).state.standing g =
              if g = event.goal.goalId then .undecided
              else inst.standing g)) := by
  have hcase := poll_cases (R := R) hinv net
  generalize (inst.pollEndpoint R net).state = inst' at hcase ⊢
  generalize (inst.pollEndpoint R net).result = result at hcase ⊢
  generalize inst.pollObs R net = obs at hcase
  cases hcase with
  | idle => exact Or.inl ⟨rfl, fun _ => rfl⟩
  | invalid => exact Or.inl ⟨rfl, fun _ => rfl⟩
  | cancelIgnored => exact Or.inl ⟨rfl, fun _ => rfl⟩
  | goalError => exact Or.inl ⟨rfl, fun _ => rfl⟩
  | @goalRequest packet rest header _ hqueue hread hkind hreason hrest
      hupdate =>
      refine Or.inr ⟨_, rfl, Or.inr ⟨rfl, (readRequest_slot hread).2, ?_, ?_⟩⟩
      · exact (standing_eq_absent hinv).mpr
          (goalErrorReason_eq_none.mp hreason).1
      · exact hupdate.standing_eq
  | @cancelRequest packet rest header b _ hqueue hread hkind hb hslot hstate
      hpending hcontext hrest hupdate =>
      have haccepted : inst.standing header.goalId = .accepted := by
        rw [standing_eq_accepted, hcontext]
        simp
      refine Or.inr ⟨_, rfl, Or.inl ⟨rfl, haccepted, ?_⟩⟩
      intro g
      rw [hupdate.standing_eq]
      split_ifs with hg
      · rw [hg, haccepted]
        rfl
      · rfl
  | @cancelSwallowed packet rest header b _ hqueue hread hkind hb hslot hstate
      hpending hcontext hrest hupdate =>
      refine Or.inl ⟨rfl, ?_⟩
      intro g
      rw [hupdate.standing_eq]
      split_ifs with hg
      · rw [hg, standing, hcontext]
        rfl
      · rfl

/-- A Runtime Cancel event moves no Goal; it is reported for an accepted Goal,
and as an error for any other. -/
theorem runtimeCancel_standing (R : PduRegistry) (hinv : inst.Invariant)
    (event : ServerEvent) :
    (∀ g, (inst.handleCancelEvent .runtimeCancelRequest event).1.standing g =
        inst.standing g) ∧
      ∀ reported,
        (inst.handleCancelEvent .runtimeCancelRequest event).2 =
            some reported →
          (reported = event ∧
              inst.standing event.goal.goalId = .accepted) ∨
            (reported = { event with type := .error } ∧
              inst.standing event.goal.goalId ≠ .accepted) := by
  generalize hresult :
    inst.handleCancelEvent .runtimeCancelRequest event = result
  obtain rfl | ⟨hcontext, rfl⟩ |
      ⟨hevent, ⟨b, hb⟩, ⟨es, b', c', hstep, hupdate⟩, -⟩ :=
    runtimeCancel_cases (R := R) hinv event hresult
  · exact ⟨fun _ => rfl, by simp⟩
  · refine ⟨fun _ => rfl, ?_⟩
    intro reported hreported
    refine Or.inr ⟨(Option.some.inj hreported).symm, ?_⟩
    rw [Ne, standing_eq_accepted, not_not]
    exact hcontext
  · have hmoved : inst.standing event.goal.goalId = .accepted ∧
        GoalStanding.ofPair b' c' = .accepted := by
      unfold standing
      generalize inst.binding event.goal.goalId = b₀ at hstep
      generalize inst.context event.goal.goalId = c₀ at hstep
      cases hstep <;> exact ⟨rfl, rfl⟩
    constructor
    · intro g
      rw [hupdate.standing_eq]
      split_ifs with hg
      · rw [hg, hmoved.1, hmoved.2]
      · rfl
    · intro reported hreported
      rw [hevent] at hreported
      exact Or.inl ⟨(Option.some.inj hreported).symm, hmoved.1⟩

end ServerActionInstance

/-! ## The services -/

/-- What Runtime Cancel events are told apart by. -/
def ServerEvent.key (event : ServerEvent) : String × GoalId :=
  (event.actionName, event.goal.goalId)

namespace ActionServicesServer

variable {R : PduRegistry} {net : SendOracle}

/-- Where a Goal stands in a list of Actions. -/
def standingIn (actions : List ServerActionInstance) (name : String)
    (g : GoalId) : GoalStanding :=
  match lookup (·.actionName) name actions with
  | none => .absent
  | some inst => inst.standing g

/-- Where a Goal stands with the services. -/
def standing (s : ActionServicesServer) (name : String) (g : GoalId) :
    GoalStanding :=
  standingIn s.actions name g

theorem standingIn_of_lookup {actions : List ServerActionInstance}
    {name : String} {inst : ServerActionInstance}
    (hinst : lookup (·.actionName) name actions = some inst) (g : GoalId) :
    standingIn actions name g = inst.standing g := by
  rw [standingIn, hinst]

theorem standingIn_cons (inst : ServerActionInstance)
    (rest : List ServerActionInstance) (name : String) (g : GoalId) :
    standingIn (inst :: rest) name g =
      if inst.actionName = name then inst.standing g
      else standingIn rest name g := by
  unfold standingIn
  rw [lookup_cons]
  split_ifs <;> rfl

theorem standingIn_map {f : ServerActionInstance → ServerActionInstance}
    (hname : ∀ inst, (f inst).actionName = inst.actionName)
    (hstanding : ∀ inst g, (f inst).standing g = inst.standing g)
    (actions : List ServerActionInstance) (name : String) (g : GoalId) :
    standingIn (actions.map f) name g = standingIn actions name g := by
  unfold standingIn
  rw [lookup_map hname]
  cases lookup (·.actionName) name actions with
  | none => rfl
  | some inst => exact hstanding inst g

theorem standingIn_modifyFirst {actions : List ServerActionInstance}
    {name : String} {inst inst' : ServerActionInstance}
    (hinst : lookup (·.actionName) name actions = some inst)
    (hname : inst'.actionName = name) (a : String) (g : GoalId) :
    standingIn (modifyFirst (·.actionName) name (fun _ => inst') actions) a g =
      if a = name then inst'.standing g else standingIn actions a g := by
  unfold standingIn
  rw [lookup_modifyFirst fun _ _ => hname]
  split_ifs with ha
  · rw [hinst]
    rfl
  · rfl

@[simp] theorem standing_receive (s : ActionServicesServer)
    (key : PduResolvedKey) (data : PduData) (a : String) (g : GoalId) :
    (s.receive key data).standing a g = s.standing a g := by
  apply standingIn_map
  · intro inst
    rfl
  · intro inst g
    rfl

@[simp] theorem standing_stopAllServices (s : ActionServicesServer)
    (a : String) (g : GoalId) :
    s.stopAllServices.standing a g = s.standing a g := by
  apply standingIn_map
  · intro inst
    rfl
  · intro inst g
    rfl

@[simp] theorem standing_notifyTransportDisconnected
    (s : ActionServicesServer) (a : String) (g : GoalId) :
    s.notifyTransportDisconnected.standing a g = s.standing a g := rfl

@[simp] theorem standing_clearAllInstances (s : ActionServicesServer)
    (a : String) (g : GoalId) :
    s.clearAllInstances.standing a g = .absent := by
  unfold standing standingIn clearAllInstances
  rw [lookup_map]
  · cases lookup (·.actionName) a s.actions <;> rfl
  · intro inst
    rfl

/-! ## Calls -/

/-- What a call of the services does to the standing of a Goal. -/
theorem call_standing {s : ActionServicesServer} (hinv : s.Invariant)
    (net : SendOracle) (name : String) (c : ServerCall) :
    (∀ a g, (s.call R net name c).state.standing a g =
        if (s.call R net name c).result = true ∧ a = name ∧
            g = c.goal.goalId then c.standingAfter else s.standing a g) ∧
      ((s.call R net name c).result = true →
        s.standing name c.goal.goalId = c.standingBefore) := by
  unfold call
  by_cases hempty : name = ""
  · simp [hempty]
  · rw [if_neg hempty]
    cases hget : s.getAction name with
    | none => simp
    | some inst =>
        have hinst := hinv.actions inst (lookup_mem hget)
        have hstanding : s.standing name c.goal.goalId =
            inst.standing c.goal.goalId := standingIn_of_lookup hget _
        dsimp only
        by_cases hargs : c.argumentsValid = true
        · obtain ⟨hafter, hbefore⟩ := And.intro
            (fun g => (ServerActionInstance.call_standing (R := R) hinst net c
              g).1)
            (ServerActionInstance.call_standing (R := R) hinst net c
              c.goal.goalId).2
          simp only [instanceMachine, hargs, Bool.true_and, if_true]
          refine ⟨?_, fun h => hstanding.trans (hbefore h)⟩
          intro a g
          have hname : (inst.call R net c).state.actionName = name := by
            rw [ServerActionInstance.actionName_call, lookup_key hget]
          refine (standingIn_modifyFirst hget hname a g).trans ?_
          by_cases ha : a = name
          · rw [if_pos ha, hafter, ha]
            simp only [true_and]
            split_ifs
            · rfl
            · exact (standingIn_of_lookup hget g).symm
          · simp only [ha, if_false, false_and, and_false]
            rfl
        · simp only [instanceMachine, hargs, Bool.false_and, if_false,
            Bool.false_eq_true, false_and, false_implies, and_true]
          intro a g
          rw [modifyFirst_eq_self hget]

@[simp] theorem pendingRuntimeEvents_call (s : ActionServicesServer)
    (net : SendOracle) (name : String) (c : ServerCall) :
    (s.call R net name c).state.pendingRuntimeEvents =
      s.pendingRuntimeEvents := by
  unfold call
  split_ifs
  · rfl
  · split <;> rfl

/-- A call leaves alone the packets of every Action and all Goals but its
own. -/
theorem call_frame {s : ActionServicesServer} (hinv : s.Invariant)
    (net : SendOracle) (name : String) (c : ServerCall) {a : String}
    {inst : ServerActionInstance} (hget : s.getAction a = some inst) :
    ∃ inst', (s.call R net name c).state.getAction a = some inst' ∧
      inst'.endpoint.pendingPackets = inst.endpoint.pendingPackets ∧
      ∀ g, ¬(a = name ∧ g = c.goal.goalId) →
        inst'.binding g = inst.binding g ∧
          inst'.context g = inst.context g := by
  refine ⟨_, (step_project (R := R) hinv.nodup hget (.call net name c)).1, ?_⟩
  rw [instanceInputs]
  split_ifs with hname
  · simp only [Machine.run_cons, Machine.run_nil, instanceMachine]
    split_ifs
    · obtain ⟨hsame, -⟩ | ⟨⟨es, b, context, -, hupdate⟩, hpackets⟩ :=
        ServerActionInstance.call_cases (R := R)
          (hinv.actions inst (lookup_mem hget)) net c
      · rw [hsame]
        exact ⟨rfl, fun _ _ => ⟨rfl, rfl⟩⟩
      · refine ⟨hpackets, ?_⟩
        intro g hg
        have hne : g ≠ c.goal.goalId := fun h => hg ⟨hname.1.symm, h⟩
        rw [hupdate.binding_eq, hupdate.context_eq, if_neg hne, if_neg hne]
        exact ⟨rfl, rfl⟩
    · exact ⟨rfl, fun _ _ => ⟨rfl, rfl⟩⟩
  · exact ⟨rfl, fun _ _ => ⟨rfl, rfl⟩⟩

/-! ## Polls -/

/-- What a `poll()` of the services does to the standing of the Goals and to the
queue of Runtime Cancel events, and what it reports. -/
inductive PollStanding (s s' : ActionServicesServer) :
    Option (String × ServerEvent) → Prop
  | idle (hqueue : s'.pendingRuntimeEvents = [])
      (hsame : ∀ a g, s'.standing a g = s.standing a g) :
      PollStanding s s' none
  | cancelRequest {name : String} {event : ServerEvent}
      (hqueue : s'.pendingRuntimeEvents = [])
      (hsame : ∀ a g, s'.standing a g = s.standing a g)
      (htype : event.type = .cancelRequest)
      (haccepted : s.standing name event.goal.goalId = .accepted) :
      PollStanding s s' (some (name, event))
  | goalRequest {name : String} {event : ServerEvent}
      (hqueue : s'.pendingRuntimeEvents = [])
      (htype : event.type = .goalRequest)
      (hvalid : event.goal.valid = true)
      (habsent : s.standing name event.goal.goalId = .absent)
      (hnew : ∀ a g, s'.standing a g =
        if a = name ∧ g = event.goal.goalId then .undecided
        else s.standing a g) :
      PollStanding s s' (some (name, event))
  | runtimeCancel {dropped rest : List ServerEvent} {event : ServerEvent}
      (hsplit : s.pendingRuntimeEvents = dropped ++ event :: rest)
      (hqueue : s'.pendingRuntimeEvents = rest)
      (hsame : ∀ a g, s'.standing a g = s.standing a g)
      (haccepted : s.standing event.actionName event.goal.goalId =
        .accepted) :
      PollStanding s s' (some (event.actionName, event))
  | stale {dropped rest : List ServerEvent} {event : ServerEvent}
      (hsplit : s.pendingRuntimeEvents = dropped ++ event :: rest)
      (hqueue : s'.pendingRuntimeEvents = rest)
      (hsame : ∀ a g, s'.standing a g = s.standing a g)
      (hstanding : s.standing event.actionName event.goal.goalId ≠
        .accepted) :
      PollStanding s s'
        (some (event.actionName, { event with type := .error }))

/-- The Runtime Cancel loop moves no Goal; it takes events from the queue up to
the one that it reports. -/
theorem pollRuntimeEvents_standing (R : PduRegistry)
    {actions : List ServerActionInstance}
    (hactions : ∀ inst ∈ actions, inst.Invariant) (events : List ServerEvent) :
    (pollRuntimeEvents actions events).result = none ∨
      ∃ dropped event rest reported,
        events = dropped ++ event :: rest ∧
        (pollRuntimeEvents actions events).state.2 = rest ∧
        (∀ a g, standingIn (pollRuntimeEvents actions events).state.1 a g =
          standingIn actions a g) ∧
        (pollRuntimeEvents actions events).result =
          some (event.actionName, reported) ∧
        ((reported = event ∧ standingIn actions event.actionName
            event.goal.goalId = .accepted) ∨
          (reported = { event with type := .error } ∧
            standingIn actions event.actionName event.goal.goalId ≠
              .accepted)) := by
  induction events with
  | nil => exact Or.inl rfl
  | cons event rest ih =>
      rw [pollRuntimeEvents_cons]
      split
      · rcases ih with hnone | ⟨dropped, e, later, reported, hsplit, hrest⟩
        · exact Or.inl hnone
        · exact Or.inr ⟨event :: dropped, e, later, reported,
            congrArg (List.cons event) hsplit, hrest⟩
      · next inst hget =>
          obtain ⟨hsame, hreport⟩ :=
            ServerActionInstance.runtimeCancel_standing R
              (hactions inst (lookup_mem hget)) event
          have hname : inst.actionName = event.actionName := lookup_key hget
          split
          · rcases ih with hnone | ⟨dropped, e, later, reported, hsplit, hrest⟩
            · exact Or.inl hnone
            · exact Or.inr ⟨event :: dropped, e, later, reported,
                congrArg (List.cons event) hsplit, hrest⟩
          · next reported hreported =>
              refine Or.inr ⟨[], event, rest, reported, rfl, rfl, ?_, ?_, ?_⟩
              · intro a g
                rw [standingIn_modifyFirst hget]
                · split_ifs with ha
                  · rw [hsame, ha, standingIn_of_lookup hget]
                  · rfl
                · rw [ServerActionInstance.actionName_handleCancelEvent]
                  exact hname
              · rw [hname]
              · rw [standingIn_of_lookup hget]
                exact hreport reported hreported

/-- The endpoint loop reports nothing, a Cancel Request for an accepted Goal, or
a Goal Request for a new one. -/
theorem pollActions_standing {actions : List ServerActionInstance}
    (hnodup : (actions.map (·.actionName)).Nodup)
    (hactions : ∀ inst ∈ actions, inst.Invariant) (net : SendOracle) :
    ((pollActions R net actions).result = none ∧
        ∀ a g, standingIn (pollActions R net actions).state a g =
          standingIn actions a g) ∨
      ∃ name event, name ∈ actions.map (·.actionName) ∧
        (pollActions R net actions).result = some (name, event) ∧
        ((event.type = .cancelRequest ∧
            standingIn actions name event.goal.goalId = .accepted ∧
            ∀ a g, standingIn (pollActions R net actions).state a g =
              standingIn actions a g) ∨
          (event.type = .goalRequest ∧ event.goal.valid = true ∧
            standingIn actions name event.goal.goalId = .absent ∧
            ∀ a g, standingIn (pollActions R net actions).state a g =
              if a = name ∧ g = event.goal.goalId then .undecided
              else standingIn actions a g)) := by
  induction actions with
  | nil => exact Or.inl ⟨rfl, fun _ _ => rfl⟩
  | cons inst rest ih =>
      simp only [List.map_cons, List.nodup_cons] at hnodup
      have hinst := ServerActionInstance.pollEndpoint_standing (R := R)
        (hactions inst (by simp)) net
      have hname : (inst.pollEndpoint R net).state.actionName =
          inst.actionName := inst.actionName_pollEndpoint
      rw [pollActions]
      dsimp only
      rcases hinst with ⟨hnone, hsame⟩ | ⟨event, hevent, hcase⟩
      · rw [hnone]
        dsimp only
        rcases ih hnodup.2 (fun x hx => hactions x (by simp [hx])) with
          ⟨hresult, hlater⟩ | ⟨name, event, hmem, hresult, hcase⟩
        · refine Or.inl ⟨hresult, ?_⟩
          intro a g
          rw [standingIn_cons, standingIn_cons, hname, hsame, hlater]
        · have hne : inst.actionName ≠ name := fun h => hnodup.1 (h ▸ hmem)
          refine Or.inr ⟨name, event, List.mem_cons_of_mem _ hmem, hresult, ?_⟩
          rcases hcase with ⟨htype, haccepted, hlater⟩ |
            ⟨htype, hvalid, habsent, hlater⟩
          · refine Or.inl ⟨htype, ?_, ?_⟩
            · rw [standingIn_cons, if_neg hne]
              exact haccepted
            · intro a g
              rw [standingIn_cons, standingIn_cons, hname, hsame, hlater]
          · refine Or.inr ⟨htype, hvalid, ?_, ?_⟩
            · rw [standingIn_cons, if_neg hne]
              exact habsent
            · intro a g
              rw [standingIn_cons, standingIn_cons, hname, hsame, hlater]
              by_cases ha : inst.actionName = a
              · have hother : a ≠ name := fun h => hne (ha.trans h)
                simp [ha, hother]
              · simp only [ha, if_false]
      · rw [hevent]
        dsimp only
        refine Or.inr ⟨inst.actionName, event, by simp, rfl, ?_⟩
        rcases hcase with ⟨htype, haccepted, hsame⟩ |
          ⟨htype, hvalid, habsent, hnew⟩
        · refine Or.inl ⟨htype, ?_, ?_⟩
          · rw [standingIn_cons, if_pos rfl]
            exact haccepted
          · intro a g
            rw [standingIn_cons, standingIn_cons, hname, hsame]
        · refine Or.inr ⟨htype, hvalid, ?_, ?_⟩
          · rw [standingIn_cons, if_pos rfl]
            exact habsent
          · intro a g
            rw [standingIn_cons, standingIn_cons, hname, hnew]
            by_cases ha : inst.actionName = a
            · simp [ha]
            · simp [ha, Ne.symm ha]

/-- What `poll()` does, seen through the standing of the Goals. -/
theorem poll_standing {s : ActionServicesServer} (hinv : s.Invariant)
    (net : SendOracle) :
    PollStanding s (s.poll R net).state (s.poll R net).result := by
  unfold poll
  rcases pollRuntimeEvents_standing R hinv.actions s.pendingRuntimeEvents with
    hnone | ⟨dropped, event, rest, reported, hsplit, hqueue, hsame, hresult,
      hcase⟩
  · simp only [hnone]
    rcases pollActions_standing (R := R) hinv.nodup hinv.actions net with
      ⟨hresult, hsame⟩ | ⟨name, event, hmem, hresult, hcase⟩
    · rw [hresult]
      exact .idle rfl hsame
    · rw [hresult]
      rcases hcase with ⟨htype, haccepted, hsame⟩ |
        ⟨htype, hvalid, habsent, hnew⟩
      · exact .cancelRequest rfl hsame htype haccepted
      · exact .goalRequest rfl htype hvalid habsent hnew
  · simp only [hresult]
    rcases hcase with ⟨rfl, haccepted⟩ | ⟨rfl, hstanding⟩
    · exact .runtimeCancel hsplit hqueue hsame haccepted
    · exact .stale hsplit hqueue hsame hstanding

/-! ## Requests for a Goal that is bound -/

theorem endpoint_run_runtimeCancel (R : PduRegistry)
    {inst : ServerActionInstance} {js : List InstanceInput}
    (hjs : ∀ j ∈ js, ∃ event, j = .runtimeCancel event) :
    ((instanceMachine R).run inst js).endpoint = inst.endpoint := by
  induction js generalizing inst with
  | nil => rfl
  | cons j js ih =>
      obtain ⟨event, rfl⟩ := hjs j List.mem_cons_self
      rw [Machine.run_cons, ih fun j hj => hjs j (List.mem_cons_of_mem _ hj)]
      simp only [instanceMachine, ServerActionInstance.handleCancelEvent]
      split
      · rfl
      · split <;> rfl

/-- An Action is polled once or not at all. -/
theorem pollInputs_cases (R : PduRegistry) (net : SendOracle) (name : String)
    (actions : List ServerActionInstance) :
    pollInputs R net name actions = [] ∨
      pollInputs R net name actions = [.poll net] := by
  obtain hnil | ⟨inst, -, -, hone⟩ :=
    Fleet.scanInputs_cases name actions
  · exact Or.inl hnil
  · exact Or.inr hone

/-- A Goal Request for a bound Goal is answered with an error and changes no
Goal of the Action; or `poll()` does not come to it. -/
theorem poll_bound_request {s : ActionServicesServer} (hinv : s.Invariant)
    (net : SendOracle) {name : String} {inst : ServerActionInstance}
    {packet : ServerPendingPacket} {rest : List ServerPendingPacket}
    {header : ActionRequestHeader} (hget : s.getAction name = some inst)
    (hqueue : inst.endpoint.pendingPackets = packet :: rest)
    (hread : inst.endpoint.readRequest R packet = some header)
    (hkind : header.requestKind ≠ requestKindCancel)
    (hbound : inst.binding header.goalId ≠ none) :
    ∃ inst', (s.poll R net).state.getAction name = some inst' ∧
      (inst'.endpoint.pendingPackets = inst.endpoint.pendingPackets ∨
        ServerActionInstance.Unmoved inst inst') := by
  refine ⟨_, (step_project (R := R) hinv.nodup hget (.poll net)).1, ?_⟩
  have hruntime : ∀ j ∈ runtimeInputs name s.actions s.pendingRuntimeEvents,
      ∃ event, j = .runtimeCancel event := fun j hj => mem_runtimeInputs hj
  rw [instanceInputs]
  cases hresult :
      (pollRuntimeEvents s.actions s.pendingRuntimeEvents).result with
  | some reported =>
      simp only [Option.isSome_some, if_true, List.append_nil]
      rw [endpoint_run_runtimeCancel R hruntime]
      exact Or.inl rfl
  | none =>
      have hidle := (pollRuntimeEvents_project (R := R) hget
        s.pendingRuntimeEvents).1
      rw [(pollRuntimeEvents_of_none hresult).1] at hidle
      have hidle := Option.some.inj (hget.symm.trans hidle)
      simp only [Option.isSome_none, Bool.false_eq_true, if_false,
        Machine.run_append]
      rw [← hidle]
      obtain hpoll | hpoll := pollInputs_cases R net name s.actions
      · rw [hpoll]
        exact Or.inl rfl
      · rw [hpoll]
        refine Or.inr ?_
        have hcase := ServerActionInstance.poll_cases (R := R)
          (hinv.actions inst (lookup_mem hget)) net
        simp only [Machine.run_cons, Machine.run_nil, instanceMachine]
        generalize (inst.pollEndpoint R net).state = inst' at hcase ⊢
        generalize (inst.pollEndpoint R net).result = result at hcase
        generalize inst.pollObs R net = obs at hcase
        cases hcase with
        | idle hempty => simp [hempty] at hqueue
        | invalid => exact .popped inst _
        | cancelIgnored => exact .popped inst _
        | goalError => exact .popped inst _
        | goalRequest hqueue' hread' _ hreason =>
            simp only [hqueue, List.cons.injEq] at hqueue'
            rw [← hqueue'.1, hread, Option.some.injEq] at hread'
            rw [← hread'] at hreason
            exact absurd
              (ServerActionInstance.goalErrorReason_eq_none.mp hreason).1
              hbound
        | cancelRequest hqueue' hread' hkind' =>
            simp only [hqueue, List.cons.injEq] at hqueue'
            rw [← hqueue'.1, hread, Option.some.injEq] at hread'
            exact absurd (hread' ▸ hkind') hkind
        | cancelSwallowed hqueue' hread' hkind' =>
            simp only [hqueue, List.cons.injEq] at hqueue'
            rw [← hqueue'.1, hread, Option.some.injEq] at hread'
            exact absurd (hread' ▸ hkind') hkind

/-! ## The queue of Runtime Cancel events -/

/-- What the queue holds: Runtime Cancel events, one for a Goal. -/
structure RuntimeQueue (queue : List ServerEvent) : Prop where
  type_eq : ∀ event ∈ queue, event.type = .runtimeCancelRequest
  nodup : (queue.map ServerEvent.key).Nodup

theorem RuntimeQueue.nil : RuntimeQueue [] where
  type_eq := by simp
  nodup := List.nodup_nil

theorem RuntimeQueue.sublist {queue queue' : List ServerEvent}
    (h : RuntimeQueue queue) (hsub : queue'.Sublist queue) :
    RuntimeQueue queue' where
  type_eq event hevent := h.type_eq event (hsub.subset hevent)
  nodup := (hsub.map ServerEvent.key).nodup h.nodup

/-- The queued events are for accepted Goals. -/
def QueueAccepted (s : ActionServicesServer) (queue : List ServerEvent) :
    Prop :=
  ∀ event ∈ queue, s.standing event.actionName event.goal.goalId = .accepted

/-- What holds of the queue and is kept by every Goal that is notified, holds
after `notify_transport_disconnected`. -/
theorem notify_induction {s : ActionServicesServer}
    {P : List ServerEvent → Prop} (hqueue : P s.pendingRuntimeEvents)
    (hgoal : ∀ pending inst goal, inst ∈ s.actions → goal ∈ inst.goals →
      P pending → P (notifyGoal inst.actionName pending goal)) :
    P s.notifyTransportDisconnected.pendingRuntimeEvents := by
  apply List.foldlRecOn _ _ hqueue
  intro pending hpending inst hinst
  apply List.foldlRecOn _ _ hpending
  intro pending hpending goal hmem
  exact hgoal pending inst goal hinst hmem hpending

theorem runtimeQueue_notify {s : ActionServicesServer}
    (h : RuntimeQueue s.pendingRuntimeEvents) :
    RuntimeQueue s.notifyTransportDisconnected.pendingRuntimeEvents := by
  apply notify_induction h
  intro pending inst goal _ _ hpending
  unfold notifyGoal
  split_ifs with hany
  · exact hpending
  · have hnew : (inst.actionName, goal.goal.goalId) ∉
        pending.map ServerEvent.key := by
      rw [List.mem_map]
      rintro ⟨event, hevent, hkey⟩
      apply hany
      simp only [ServerEvent.key, Prod.mk.injEq] at hkey
      simp only [List.any_eq_true, decide_eq_true_eq]
      exact ⟨event, hevent, hpending.type_eq event hevent, hkey⟩
    constructor
    · intro event hevent
      rcases List.mem_append.mp hevent with hevent | hevent
      · exact hpending.type_eq event hevent
      · rw [List.mem_singleton.mp hevent]
    · rw [List.map_append, List.map_singleton, List.nodup_append]
      refine ⟨hpending.nodup, List.nodup_singleton _, ?_⟩
      intro key hkey key' hkey' heq
      apply hnew
      rw [List.mem_singleton] at hkey'
      rw [heq, hkey'] at hkey
      exact hkey

theorem queueAccepted_notify {s : ActionServicesServer} (hinv : s.Invariant)
    (h : s.QueueAccepted s.pendingRuntimeEvents) :
    s.QueueAccepted s.notifyTransportDisconnected.pendingRuntimeEvents := by
  apply notify_induction h
  intro pending inst goal hinst hgoal hpending
  unfold notifyGoal
  split_ifs
  · exact hpending
  · intro event hevent
    rcases List.mem_append.mp hevent with hevent | hevent
    · exact hpending event hevent
    · have hstanding := standingIn_of_lookup
        (getAction_of_mem hinv.nodup hinst) goal.goal.goalId
      have hget : inst.getGoal goal.goal.goalId = some goal :=
        (mem_iff_lookup (hinv.actions inst hinst).nodup).mp hgoal
      rw [List.mem_singleton.mp hevent]
      refine hstanding.trans ?_
      rw [ServerActionInstance.standing_eq_accepted,
        ServerActionInstance.context, hget]
      simp

/-! ## Names -/

/-- Every Action has a name. -/
def Named (s : ActionServicesServer) : Prop :=
  "" ∉ s.actions.map (·.actionName)

theorem Named.step {s : ActionServicesServer} (h : s.Named) (i : ServerInput) :
    ((serverMachine R).step s i).1.Named := by
  unfold Named
  rw [map_actionName_step]
  exact h

theorem named_started (R : PduRegistry) (nodeId implType : String)
    (endpointExists : String → Bool) (root : Json) :
    (startedServer R nodeId implType endpointExists root).Named := by
  unfold startedServer initializeServices Named
  split
  · simp
  · next definitions hparse =>
      obtain ⟨entries, hentries, hparsed⟩ := parse_ok hparse
      have hnames := parseActions_name_ne hparsed
      simp only [hentries]
      split
      · simp
      · split
        · simp
        · next actions hactions =>
            intro hmem
            have hmem := (initializeActions_ok hactions).1.subset hmem
            obtain ⟨x, hx, hname⟩ := List.mem_map.mp hmem
            exact hnames (List.mem_map.mpr
              ⟨x.1, (List.of_mem_zip hx).1, hname⟩)

/-- A Goal that waits for its decision can be discarded. -/
theorem discard_of_undecided {s : ActionServicesServer} (hinv : s.Invariant)
    (hnamed : s.Named) (net : SendOracle) {name : String} {g : GoalId}
    (h : s.standing name g = .undecided) :
    (s.call R net name (.discardPendingGoal ⟨g⟩)).result = true := by
  unfold standing standingIn at h
  cases hget : lookup (·.actionName) name s.actions with
  | none => simp [hget] at h
  | some inst =>
      simp only [hget] at h
      have hinst := hinv.actions inst (lookup_mem hget)
      obtain ⟨b, hb, hstate⟩ :=
        (ServerActionInstance.standing_eq_undecided hinst).mp h
      have hcontext : inst.context g = none := by
        by_contra hne
        rw [ServerActionInstance.standing_eq_accepted.mpr hne] at h
        simp at h
      have hgoal : inst.hasGoal g = false := by
        simpa [ServerActionInstance.hasGoal, ServerActionInstance.context]
          using hcontext
      have hempty : name ≠ "" := by
        rintro rfl
        exact hnamed (lookup_key hget ▸ List.mem_map_of_mem (lookup_mem hget))
      have hvalid : (⟨g⟩ : ServerGoalHandle).valid = true := hinst.valid hb
      have hfind : inst.endpoint.packetBindings.find? g = some b := hb
      simp [call, hempty, getAction, hget, ServerCall.argumentsValid, hvalid,
        ServerActionInstance.call, ServerActionInstance.discardPendingGoal,
        hgoal, ActionServerEndpointImpl.discardPendingGoal, hfind, hstate,
        Outcome.embed]

/-! ## Nothing to poll -/

/-- No packet waits at an endpoint. -/
def Drained (s : ActionServicesServer) : Prop :=
  ∀ inst ∈ s.actions, inst.endpoint.pendingPackets = []

instance decidableDrained (s : ActionServicesServer) : Decidable s.Drained :=
  inferInstanceAs (Decidable
    (∀ inst ∈ s.actions, inst.endpoint.pendingPackets = []))

theorem pollActions_drained {actions : List ServerActionInstance}
    (hactions : ∀ inst ∈ actions, inst.Invariant)
    (hdrained : ∀ inst ∈ actions, inst.endpoint.pendingPackets = [])
    (net : SendOracle) :
    pollActions R net actions = { state := actions, result := none } := by
  induction actions with
  | nil => rfl
  | cons inst rest ih =>
      have hidle : inst.endpoint.poll R net = _ :=
        ServerActionInstance.endpoint_poll_nil
          (hactions inst List.mem_cons_self)
          (hdrained inst List.mem_cons_self)
      have hrest := ih (fun x hx => hactions x (List.mem_cons_of_mem _ hx))
        fun x hx => hdrained x (List.mem_cons_of_mem _ hx)
      simp only [pollActions, ServerActionInstance.pollEndpoint,
        ServerActionInstance.pollObs, hidle, hrest]
      rfl

/-- Without packets and events there is nothing to poll. -/
theorem Drained.poll_eq {s : ActionServicesServer} (hdrained : s.Drained)
    (hinv : s.Invariant) (hqueue : s.pendingRuntimeEvents = [])
    (net : SendOracle) :
    s.poll R net = { state := s, result := none } := by
  unfold poll
  rw [hqueue, pollRuntimeEvents]
  dsimp only
  rw [pollActions_drained hinv.actions hdrained, ← hqueue]

end ActionServicesServer

end HakoPduRpc.Action
