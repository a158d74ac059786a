import HakoPduRpc.Action.MuxOwnership
import Mathlib.Data.List.Induction

/-!
# Goal identities and routing

What the application sees of the server determines the owner of every Goal:
`ownerAfter` follows it along the observations, and `Follows` says that the
index of owners is what it computes.  So a call goes to the connection that
delivered the Goal Request of its Goal and leaves every other connection alone,
and a Goal that has an owner cannot be requested a second time.
-/

namespace HakoPduRpc.Action

open KeyedList Tickets

/-! ## Following the owner of a Goal -/

/-- The observation shows a Goal Request event for the Goal. -/
def MuxObs.Exposes (name : String) (g : GoalId) (k : ℕ) (o : MuxObs) : Prop :=
  ∃ event, o = .event k name event ∧ event.goal.goalId = g ∧
    event.type = .goalRequest

/-- How an observation changes the owner of a Goal. -/
def followOwner (name : String) (g : GoalId)
    (v : Option (UInt64 × GoalOwnerState)) :
    MuxObs → Option (UInt64 × GoalOwnerState)
  | .event k actionName event =>
      if actionName = name ∧ event.goal.goalId = g ∧
          event.type = .goalRequest then some (ticket k, .pending)
      else v
  | .returned actionName call result =>
      if actionName = name ∧ call.goal.goalId = g ∧ result = true then
        match call with
        | .acceptGoal _ => v.map fun v => (v.1, .active)
        | .rejectGoal _ | .complete _ _ _ => none
        | .acceptCancel _ | .rejectCancel _ | .sendFeedback _ _ => v
      else v
  | .processed k => if v = some (ticket k, .pending) then none else v
  | .stopped => none
  | .connected _ _ | .connection _ _ _ => v

/-- The owner of a Goal after a list of observations. -/
def ownerAfter (name : String) (g : GoalId) (trace : List MuxObs) :
    Option (UInt64 × GoalOwnerState) :=
  trace.foldl (followOwner name g) none

theorem ownerAfter_append (name : String) (g : GoalId)
    (trace obs : List MuxObs) :
    ownerAfter name g (trace ++ obs) =
      obs.foldl (followOwner name g) (ownerAfter name g trace) :=
  List.foldl_append

/-- The connection that delivered the last Goal Request event of a Goal. -/
def deliveredBy (name : String) (g : GoalId) (trace : List MuxObs) :
    Option ℕ :=
  trace.reverse.findSome? fun
    | .event k actionName event =>
        if actionName = name ∧ event.goal.goalId = g ∧
            event.type = .goalRequest then some k
        else none
    | _ => none

/-- A Goal is owned by the connection that delivered it last. -/
theorem deliveredBy_of_ownerAfter {name : String} {g : GoalId}
    {trace : List MuxObs} {v : UInt64 × GoalOwnerState}
    (h : ownerAfter name g trace = some v) :
    ∃ k, deliveredBy name g trace = some k ∧ ticket k = v.1 := by
  induction trace using List.reverseRecOn generalizing v with
  | nil => simp [ownerAfter] at h
  | append_singleton trace o ih =>
      rw [ownerAfter_append, List.foldl_cons, List.foldl_nil] at h
      simp only [deliveredBy, List.reverse_append, List.reverse_cons,
        List.reverse_nil, List.nil_append, List.singleton_append,
        List.findSome?_cons] at ih ⊢
      cases o with
      | event k actionName event =>
          simp only [followOwner] at h
          split_ifs at h with hexposed
          · refine ⟨k, by simp [hexposed], ?_⟩
            rw [← Option.some.inj h]
          · simpa [hexposed] using ih h
      | returned actionName call result =>
          simp only [followOwner] at h
          split_ifs at h
          · cases call with
            | acceptGoal goal =>
                obtain ⟨w, hw, rfl⟩ := Option.map_eq_some_iff.mp h
                have hdelivered := ih hw
                exact hdelivered
            | rejectGoal goal => simp at h
            | acceptCancel goal => exact ih h
            | rejectCancel goal => exact ih h
            | sendFeedback goal pdu => exact ih h
            | complete goal status pdu => simp at h
          · exact ih h
      | processed k =>
          simp only [followOwner] at h
          split_ifs at h
          exact ih h
      | stopped => simp [followOwner] at h
      | connected k id => exact ih h
      | connection k actionName obs => exact ih h

namespace ActionServicesMuxServer

variable {R : PduRegistry} {strict : Prop} {s s' : ActionServicesMuxServer}

/-! ## The index follows the observations -/

theorem Quiet.follow {obs : List MuxObs} (h : Quiet obs) (name : String)
    (g : GoalId) (v : Option (UInt64 × GoalOwnerState)) :
    obs.foldl (followOwner name g) v = v := by
  induction obs with
  | nil => rfl
  | cons o obs ih =>
      have hrest : Quiet obs := fun o' ho' => h o' (List.mem_cons_of_mem _ ho')
      rw [List.foldl_cons]
      rcases h o List.mem_cons_self with ⟨k, actionName, seen, rfl⟩ |
        ⟨actionName, call, rfl⟩
      · exact ih hrest
      · simpa [followOwner] using ih hrest

/-- A quiet step that ends with one observation. -/
theorem Quiet.follow_append {obs : List MuxObs} (h : Quiet obs) (o : MuxObs)
    (name : String) (g : GoalId) (v : Option (UInt64 × GoalOwnerState)) :
    (obs ++ [o]).foldl (followOwner name g) v = followOwner name g v o := by
  rw [List.foldl_append, h.follow]
  rfl

/-- What a step does to the owners can be read from what is seen of it. -/
theorem StepCase.follow (hwf : s.WellFormed) {obs : List MuxObs}
    (hcase : StepCase strict s s' obs) (name : String) (g : GoalId) :
    obs.foldl (followOwner name g) (s.owner name g) = s'.owner name g := by
  cases hcase with
  | same hslots howners hissued hquiet =>
      rw [hquiet.follow, owner_congr howners]
  | touched htouched hqueue hquiet =>
      rw [hquiet.follow, owner_congr htouched.owners_eq]
  | @called _ _ _ _ _ call htouched hqueue hcall hrouted hquiet =>
      rw [hquiet.follow_append, owner_congr htouched.owners_eq]
      cases call <;> first | exact hcall.elim | simp [followOwner]
  | canceled htouched hqueue htype haccepted hquiet =>
      rw [hquiet.follow_append, owner_congr htouched.owners_eq]
      simp [followOwner, htype]
  | @runtimeCanceled _ slot _ _ _ _ event htouched hsplit hqueue haccepted
      hquiet =>
      have htype : event.type = .runtimeCancelRequest :=
        (hwf.slots htouched.found).queue.type_eq event (by simp [hsplit])
      rw [hquiet.follow_append, owner_congr htouched.owners_eq]
      simp [followOwner, htype]
  | stale htouched hsplit hqueue hstanding hquiet =>
      rw [hquiet.follow_append, owner_congr htouched.owners_eq]
      simp [followOwner]
  | exposed hmoved hlive hqueue htype habsent hfree hquiet =>
      rw [hquiet.follow_append, hmoved.owners.owner_eq, followOwner]
      simp only [htype, and_true, eq_comm, ConnectionSlot.id_eq]
  | duplicate hmoved hqueue habsent howned hv hstrict hquiet =>
      rw [hquiet.follow, hmoved.owners.owner_eq]
      split_ifs with hgoal
      · rw [hgoal.1, hgoal.2, howned]
      · rfl
  | accepted hmoved hqueue hconnected hrouted hquiet =>
      rw [hquiet.follow_append, hmoved.owners.owner_eq, followOwner]
      simp only [MuxCall.goal, and_true, eq_comm]
      split_ifs with hgoal
      · rw [hgoal.1, hgoal.2, hrouted.owner_eq]
        rfl
      · rfl
  | rejected hmoved hqueue hrouted hundecided hquiet =>
      rw [hquiet.follow_append, hmoved.owners.owner_eq, followOwner]
      simp only [MuxCall.goal, and_true, eq_comm]
  | completed hmoved hqueue hrouted hquiet =>
      rw [hquiet.follow_append, hmoved.owners.owner_eq, followOwner]
      simp only [MuxCall.goal, and_true, eq_comm]
  | reclaimed hmoved hqueue hslot hretired hid hprocessed howners hlast hrouted
      hquiet =>
      rw [hquiet.follow_append, owner_congr howners, hmoved.owners.owner_eq,
        followOwner]
      simp only [MuxCall.goal, and_true, eq_comm]
  | connected hnumber hwf hunprocessed hstanding hqueue hslots howners hissued =>
      rw [owner_congr howners]
      rfl
  | orphaned hslot hunprocessed hprocessed hretired hstanding hqueue howner
      hkeys =>
      rw [howner, ConnectionSlot.id_eq]
      rfl
  | abandoned hslot hretired hunprocessed hprocessed hinactive howner hkeys =>
      rw [howner, ConnectionSlot.id_eq]
      rfl
  | stopped hslots howners hissued =>
      have hnone : s'.owner name g = none := by
        rw [owner, findOwner, howners]
        rfl
      rw [hnone]
      rfl

/-- Events are reported by connections that have come. -/
theorem StepCase.event_lt (hwf : s.WellFormed) {obs : List MuxObs}
    (hcase : StepCase strict s s' obs) {k : ℕ} {name : String}
    {event : ServerEvent} (hevent : .event k name event ∈ obs) :
    k < s.issued := by
  have hquiet : ∀ {obs}, Quiet obs → .event k name event ∉ obs := by
    intro obs hquiet hmem
    obtain ⟨k', a, seen, ho⟩ | ⟨a, call, ho⟩ := hquiet _ hmem <;> cases ho
  have hlast : ∀ {obs k' a event'}, Quiet obs →
      .event k name event ∈ obs ++ [.event k' a event'] → k = k' := by
    intro obs k' a event' hobs hmem
    rcases List.mem_append.mp hmem with hmem | hmem
    · exact absurd hmem (hquiet hobs)
    · simp only [List.mem_singleton, MuxObs.event.injEq] at hmem
      exact hmem.1
  have hcall : ∀ {obs a call ok}, Quiet obs →
      .event k name event ∉ obs ++ [.returned a call ok] := by
    intro obs a call ok hobs hmem
    rcases List.mem_append.mp hmem with hmem | hmem
    · exact hquiet hobs hmem
    · simp at hmem
  cases hcase with
  | same _ _ _ hobs => exact absurd hevent (hquiet hobs)
  | touched _ _ hobs => exact absurd hevent (hquiet hobs)
  | duplicate _ _ _ _ _ _ hobs => exact absurd hevent (hquiet hobs)
  | called _ _ _ _ hobs => exact absurd hevent (hcall hobs)
  | canceled htouched _ _ _ hobs =>
      rw [hlast hobs hevent]
      exact hwf.fresh htouched.found
  | runtimeCanceled htouched _ _ _ hobs =>
      rw [hlast hobs hevent]
      exact hwf.fresh htouched.found
  | stale htouched _ _ _ hobs =>
      rw [hlast hobs hevent]
      exact hwf.fresh htouched.found
  | exposed hmoved _ _ _ _ _ hobs =>
      rw [hlast hobs hevent]
      exact hwf.fresh hmoved.found
  | accepted _ _ _ _ hobs => exact absurd hevent (hcall hobs)
  | rejected _ _ _ _ hobs => exact absurd hevent (hcall hobs)
  | completed _ _ _ hobs => exact absurd hevent (hcall hobs)
  | reclaimed _ _ _ _ _ _ _ _ _ hobs => exact absurd hevent (hcall hobs)
  | connected => simp at hevent
  | orphaned => simp at hevent
  | abandoned => simp at hevent
  | stopped => simp at hevent

/-- The owners are what the observations say. -/
structure Follows (strict : Prop) (s : ActionServicesMuxServer)
    (seen : List MuxObs) : Prop extends Invariant strict s where
  follow : ∀ name g, ownerAfter name g seen = s.owner name g
  numbered : ∀ {k name event}, .event k name event ∈ seen → k < s.issued

/-- While no id is handed out twice, the owner of a Goal is the connection that
delivered it. -/
theorem Follows.delivered {seen : List MuxObs} (h : Follows strict s seen)
    (hu : s.Unwrapped) {name : String} {g : GoalId} {state : GoalOwnerState}
    {slot : ConnectionSlot} (hslot : s.slotAt slot.number = some slot)
    (howner : s.owner name g = some (slot.connectionId, state)) :
    deliveredBy name g seen = some slot.number := by
  obtain ⟨k, hk, hid⟩ := deliveredBy_of_ownerAfter
    ((h.follow name g).trans howner)
  obtain ⟨o, ho, hshown⟩ := List.exists_of_findSome?_eq_some hk
  have hlt : k < s.issued := by
    cases o with
    | event k' actionName event =>
        simp only at hshown
        split_ifs at hshown
        obtain rfl := Option.some.inj hshown
        exact h.numbered (List.mem_reverse.mp ho)
    | connected k' id => simp at hshown
    | processed k' => simp at hshown
    | connection k' actionName seen => simp at hshown
    | returned actionName call ok => simp at hshown
    | stopped => simp at hshown
  rw [hk]
  dsimp only at hid
  rw [slot.id_eq] at hid
  rw [ticket_inj hu hlt (h.fresh hslot) hid]

theorem Follows.step {seen obs : List MuxObs} (h : Follows strict s seen)
    (hcase : StepCase strict s s' obs) : Follows strict s' (seen ++ obs) where
  toInvariant := h.stepCase hcase
  follow := by
    intro name g
    rw [ownerAfter_append, h.follow]
    exact hcase.follow h.toWellFormed name g
  numbered := by
    intro k name event hevent
    refine lt_of_lt_of_le ?_ hcase.issued_le
    rcases List.mem_append.mp hevent with hevent | hevent
    · exact h.numbered hevent
    · exact hcase.event_lt h.toWellFormed hevent

theorem follows_constructed (strict : Prop)
    (nodeId actionConfigPath endpointMuxConfigPath implType : String)
    (deltaTimeUsec : UInt64) :
    Follows strict (constructed nodeId actionConfigPath endpointMuxConfigPath
      implType deltaTimeUsec) [] where
  toInvariant := invariant_constructed strict nodeId actionConfigPath
    endpointMuxConfigPath implType deltaTimeUsec
  follow _ _ := rfl
  numbered hevent := by simp at hevent

/-- The owners follow the observations along every run of small steps. -/
theorem Follows.run (h : Follows False s []) (js : List MuxStep) :
    Follows False ((muxStepMachine R).run s js)
      ((muxStepMachine R).trace s js) :=
  (muxStepMachine R).trace_invariant (C := fun _ _ => True)
    (fun _ _ j _ hfollows =>
      hfollows.step (step_cases hfollows.toWellFormed j False.elim)) h
    ((muxStepMachine R).along_of_forall (fun _ _ _ => trivial) s)

/-! ## Calls -/

theorem slotAt_callServer_of_ne (net : SendOracle) (slot : ConnectionSlot)
    (name : String) (c : ServerCall) {k : ℕ} (hk : k ≠ slot.number) :
    (callServer R s net slot name c).state.slotAt k = s.slotAt k := by
  refine (slotAt_modifySlot ?_ _ _).trans (if_neg hk)
  intro slot
  rfl

/-- Only a connection with the id is reclaimed. -/
theorem slotAt_reclaimOrphanedSlot_of_ne {c : UInt64} {k : ℕ}
    (hid : ∀ slot, s.slotAt k = some slot → slot.connectionId ≠ c) :
    (s.reclaimOrphanedSlot c).slotAt k = s.slotAt k := by
  unfold reclaimOrphanedSlot
  split_ifs
  · rfl
  · unfold slotAt at hid ⊢
    dsimp only
    generalize s.slots = slots at hid
    induction slots with
    | nil => rfl
    | cons slot rest ih =>
        rw [lookup_cons] at hid ⊢
        rw [modifyFirst]
        by_cases hk : slot.number = k
        · rw [if_pos hk] at hid ⊢
          have hkey : (slot.connectionId, slot.orphaned) ≠ (c, true) := by
            intro hkey
            exact hid slot rfl (Prod.mk.inj hkey).1
          rw [if_neg hkey, lookup_cons, if_pos hk]
        · rw [if_neg hk] at hid ⊢
          split_ifs
          · rw [lookup_cons, if_neg hk]
          · rw [lookup_cons, if_neg hk, ih hid]

/-- A call for a Goal goes on to the services of a connection. -/
structure CallReaches (s : ActionServicesMuxServer) (slot : ConnectionSlot)
    (name : String) (g : GoalId) (state : GoalOwnerState) : Prop
    extends Routed s slot name g state where
  connected : state = .pending → slot.disconnected = false

theorem callReaches_of_pendingSlot {name : String} {g : GoalId}
    {slot : ConnectionSlot} (h : s.pendingSlot name g = some slot) :
    CallReaches s slot name g .pending where
  toRouted := (pendingSlot_eq_some h).1
  connected _ := (pendingSlot_eq_some h).2

theorem callReaches_of_activeSlot {name : String} {g : GoalId}
    {slot : ConnectionSlot} (h : s.activeSlot name g = some slot) :
    CallReaches s slot name g .active where
  toRouted := activeSlot_eq_some h
  connected hpending := by simp at hpending

/-- A call does nothing, or it goes to the first connection with the id of the
owner and leaves those with other ids alone. -/
theorem call_at_owner (net : SendOracle) (name : String) (call : MuxCall) :
    ((s.call R net name call).state = s ∧
        (s.call R net name call).effects = []) ∨
      ∃ slot state, CallReaches s slot name call.goal.goalId state ∧
        (∀ k, k ≠ slot.number →
          (∀ found, s.slotAt k = some found →
            found.connectionId ≠ slot.connectionId) →
          (s.call R net name call).state.slotAt k = s.slotAt k) ∧
        ∀ o ∈ (s.call R net name call).effects,
          ∃ actionName seen, o = .connection slot.number actionName seen := by
  have htagged : ∀ (slot : ConnectionSlot) (c : ServerCall),
      ∀ o ∈ (callServer R s net slot name c).effects,
        ∃ actionName seen, o = .connection slot.number actionName seen := by
    intro slot c o ho
    obtain ⟨seen, -, rfl⟩ := List.mem_map.mp ho
    exact ⟨seen.1, seen.2, rfl⟩
  cases call with
  | acceptGoal goal =>
      simp only [ActionServicesMuxServer.call, acceptGoal]
      split
      · exact Or.inl ⟨rfl, rfl⟩
      · next slot hslot =>
          refine Or.inr ⟨_, _, callReaches_of_pendingSlot hslot, ?_,
            htagged slot _⟩
          intro k hk _
          dsimp only
          split_ifs <;> exact slotAt_callServer_of_ne net slot name _ hk
  | rejectGoal goal =>
      simp only [ActionServicesMuxServer.call, rejectGoal]
      split
      · exact Or.inl ⟨rfl, rfl⟩
      · next slot hslot =>
          refine Or.inr ⟨_, _, callReaches_of_pendingSlot hslot, ?_,
            htagged slot _⟩
          intro k hk _
          dsimp only
          split_ifs <;> exact slotAt_callServer_of_ne net slot name _ hk
  | acceptCancel goal =>
      simp only [ActionServicesMuxServer.call, routeActiveGoal]
      split
      · exact Or.inl ⟨rfl, rfl⟩
      · next slot hslot =>
          exact Or.inr ⟨_, _, callReaches_of_activeSlot hslot,
            fun k hk _ => slotAt_callServer_of_ne net slot name _ hk,
            htagged slot _⟩
  | rejectCancel goal =>
      simp only [ActionServicesMuxServer.call, routeActiveGoal]
      split
      · exact Or.inl ⟨rfl, rfl⟩
      · next slot hslot =>
          exact Or.inr ⟨_, _, callReaches_of_activeSlot hslot,
            fun k hk _ => slotAt_callServer_of_ne net slot name _ hk,
            htagged slot _⟩
  | sendFeedback goal pdu =>
      simp only [ActionServicesMuxServer.call, sendFeedback]
      split
      · exact Or.inl ⟨rfl, rfl⟩
      · next slot hslot =>
          split_ifs
          · exact Or.inl ⟨rfl, rfl⟩
          · exact Or.inr ⟨_, _, callReaches_of_activeSlot hslot,
              fun k hk _ => slotAt_callServer_of_ne net slot name _ hk,
              htagged slot _⟩
  | complete goal status pdu =>
      simp only [ActionServicesMuxServer.call, complete]
      split
      · exact Or.inl ⟨rfl, rfl⟩
      · next slot hslot =>
          refine Or.inr ⟨_, _, callReaches_of_activeSlot hslot, ?_,
            htagged slot _⟩
          intro k hk hid
          dsimp only
          generalize (if slot.disconnected = true then
            ServerCall.completeLocally goal status pdu
            else .complete goal status pdu) = c
          have hcall := slotAt_callServer_of_ne (R := R) (s := s) net slot
            name c hk
          split_ifs
          · refine (slotAt_reclaimOrphanedSlot_of_ne ?_).trans hcall
            intro found hfound
            exact hid found (hcall ▸ hfound)
          · exact hcall

/-! ## Polls -/

theorem findOwner_pollSlot {name : String} {g : GoalId} {o : GoalOwner}
    (h : s.findOwner name g = some o) (k : ℕ) (poll reject : SendOracle) :
    (s.pollSlot R k poll reject).state.findOwner name g = some o := by
  unfold pollSlot
  split
  · exact h
  · split_ifs
    · exact h
    · dsimp only
      split
      · exact h
      · split_ifs
        · exact h
        · exact h
        · exact (lookup_append_singleton _ _ _ _).trans
            (congrArg (Option.or · _) h)

theorem slotAt_pollSlot_of_ne {k k' : ℕ} (hk : k' ≠ k)
    (poll reject : SendOracle) :
    (s.pollSlot R k poll reject).state.slotAt k' = s.slotAt k' := by
  have hserver : ∀ (t : ActionServicesMuxServer) server,
      (t.withServer k server).slotAt k' = t.slotAt k' := by
    intro t server
    refine (slotAt_modifySlot ?_ _ _).trans (if_neg hk)
    intro slot
    rfl
  unfold pollSlot
  split
  · rfl
  · split_ifs
    · rfl
    · dsimp only
      split
      · exact hserver s _
      · split_ifs
        · exact hserver s _
        · exact (hserver _ _).trans (hserver s _)
        · exact hserver s _

/-- A Goal Request event is only reported for a Goal without an owner. -/
theorem unowned_of_exposed {name : String} {k k' : ℕ}
    {poll reject : SendOracle} {event : ServerEvent}
    (h : .event k' name event ∈ (s.pollSlot R k poll reject).effects)
    (htype : event.type = .goalRequest) :
    s.findOwner name event.goal.goalId = none := by
  have hseen : ∀ effects : List (String × ServerObs),
      MuxObs.event k' name event ∉
        effects.map fun seen => MuxObs.connection k seen.1 seen.2 := by
    intro effects hmem
    obtain ⟨seen, -, hseen⟩ := List.mem_map.mp hmem
    simp at hseen
  unfold pollSlot at h
  split at h
  · simp at h
  · split_ifs at h
    · simp at h
    · dsimp only at h
      split at h
      · exact absurd h (hseen _)
      · next actionName polled hpolled =>
          split_ifs at h with hother howned
          · rcases List.mem_append.mp h with h | h
            · exact absurd h (hseen _)
            · simp only [List.mem_singleton, MuxObs.event.injEq] at h
              rw [← h.2.2] at hother
              exact absurd htype hother
          · rcases List.mem_append.mp h with h | h
            · exact absurd h (hseen _)
            · exact absurd h (hseen _)
          · rcases List.mem_append.mp h with h | h
            · exact absurd h (hseen _)
            · simp only [List.mem_singleton, MuxObs.event.injEq] at h
              rw [h.2.1, h.2.2]
              exact Option.not_isSome_iff_eq_none.mp howned

/-- Binding and context of a Goal at a connection. -/
def goalAt (s : ActionServicesMuxServer) (k : ℕ) (name : String) (g : GoalId) :
    Option (Option ActionPacketBinding × Option ServerGoalContext) :=
  ((s.slotAt k).bind (·.server.getAction name)).map fun inst =>
    (inst.binding g, inst.context g)

/-- The packets that wait at an Action of a connection. -/
def packetsAt (s : ActionServicesMuxServer) (k : ℕ) (name : String) :
    Option (List ServerPendingPacket) :=
  ((s.slotAt k).bind (·.server.getAction name)).map
    (·.endpoint.pendingPackets)

/-- The next packet of an Action of a connection is a Goal Request. -/
def NextRequests (R : PduRegistry) (s : ActionServicesMuxServer) (k : ℕ)
    (name : String) (g : GoalId) : Prop :=
  ∃ slot inst packet rest header, s.slotAt k = some slot ∧
    slot.server.getAction name = some inst ∧
    inst.endpoint.pendingPackets = packet :: rest ∧
    inst.endpoint.readRequest R packet = some header ∧
    header.requestKind ≠ requestKindCancel ∧ header.goalId = g

/-- The services of the polled connection: as its `poll()` left them, after the
rejection of a duplicate if there was one. -/
theorem slotAt_pollSlot_self {k : ℕ} {slot : ConnectionSlot}
    (hfound : s.slotAt k = some slot) (hlive : slot.retired = false)
    (poll reject : SendOracle) :
    ∃ server, (s.pollSlot R k poll reject).state.slotAt k =
        some { slot with server := server } ∧
      (server = (slot.server.poll R poll).state ∨
        ∃ name event,
          (slot.server.poll R poll).result = some (name, event) ∧
          event.type = .goalRequest ∧
          s.owner name event.goal.goalId ≠ none ∧
          server = ((slot.server.poll R poll).state.call R reject name
            (.rejectGoal event.goal)).state) := by
  have hserver : ∀ {t : ActionServicesMuxServer} {found : ConnectionSlot}
      (server : ActionServicesServer), t.slotAt k = some found →
      (t.withServer k server).slotAt k =
        some { found with server := server } := by
    intro t found server ht
    refine (slotAt_modifySlot ?_ _ _).trans ?_
    · intro slot
      rfl
    · rw [if_pos rfl, ht]
      rfl
  have hpolled := hserver (slot.server.poll R poll).state hfound
  have hrejected := fun server => hserver server hpolled
  rw [pollSlot, hfound]
  dsimp only
  rw [if_neg (by simp [hlive])]
  split
  · exact ⟨_, hpolled, Or.inl rfl⟩
  · next name event hevent =>
      split_ifs with hother howned
      · exact ⟨_, hpolled, Or.inl rfl⟩
      · refine ⟨_, hrejected _, Or.inr ⟨name, event, hevent,
          not_not.mp hother, ?_, rfl⟩⟩
        rw [Ne, owner_eq_none]
        exact Option.isSome_iff_ne_none.mp howned
      · exact ⟨_, hpolled, Or.inl rfl⟩

theorem goalAt_of_getAction {k : ℕ} {slot : ConnectionSlot} {name : String}
    {inst : ServerActionInstance} (hfound : s.slotAt k = some slot)
    (hget : slot.server.getAction name = some inst) (g : GoalId) :
    s.goalAt k name g = some (inst.binding g, inst.context g) := by
  simp [goalAt, hfound, hget]

theorem packetsAt_of_getAction {k : ℕ} {slot : ConnectionSlot} {name : String}
    {inst : ServerActionInstance} (hfound : s.slotAt k = some slot)
    (hget : slot.server.getAction name = some inst) :
    s.packetsAt k name = some inst.endpoint.pendingPackets := by
  simp [packetsAt, hfound, hget]

/-- A Goal Request for a Goal with an owner does not change the Goal, or it is
still waiting. -/
theorem Invariant.goal_kept (h : s.Invariant strict) (hu : s.Unwrapped)
    {name : String} {g : GoalId} {state : GoalOwnerState}
    {owned : ConnectionSlot} (hrouted : Routed s owned name g state) {k : ℕ}
    (hnext : NextRequests R s k name g) (poll reject : SendOracle) :
    (s.pollSlot R k poll reject).state.packetsAt k name =
        s.packetsAt k name ∨
      (s.pollSlot R k poll reject).state.goalAt owned.number name g =
        s.goalAt owned.number name g := by
  have howned := hrouted.slotAt_eq h.toWellFormed
  by_cases hk : owned.number = k
  · subst hk
    obtain ⟨slot, inst, packet, rest, header, hfound, hget, hqueue, hread,
      hkind, rfl⟩ := hnext
    obtain rfl : owned = slot := Option.some.inj (howned.symm.trans hfound)
    have hserver := (h.slots hfound).server
    obtain ⟨hlive, hstanding⟩ :=
      ((h.agreement hu).agrees hfound).owned hrouted.owner_eq
    have hpresent : owned.server.standing name header.goalId ≠ .absent := by
      rw [hstanding]
      cases state <;> simp [GoalOwnerState.standing]
    have hbound : inst.binding header.goalId ≠ none := by
      rw [Ne, ← ServerActionInstance.standing_eq_absent
        (hserver.actions inst (lookup_mem hget))]
      intro habsent
      exact hpresent
        ((ActionServicesServer.standingIn_of_lookup hget _).trans habsent)
    obtain ⟨inst', hget', hcase⟩ := ActionServicesServer.poll_bound_request
      hserver poll hget hqueue hread hkind hbound
    -- what `poll()` leaves of the Goal is what is left in the end
    have hdone : ∃ inst'',
        ((s.pollSlot R owned.number poll reject).state.slotAt
            owned.number).bind
          (·.server.getAction name) = some inst'' ∧
        inst''.endpoint.pendingPackets = inst'.endpoint.pendingPackets ∧
        inst''.binding header.goalId = inst'.binding header.goalId ∧
        inst''.context header.goalId = inst'.context header.goalId := by
      obtain ⟨server, hslot', rfl | ⟨actionName, event, hevent, htype, howned,
        rfl⟩⟩ := slotAt_pollSlot_self (R := R) hfound hlive poll reject
      · exact ⟨inst', by rw [hslot']; exact hget', rfl, rfl, rfl⟩
      · have hpolled := ActionServicesServer.poll_standing (R := R) hserver
          poll
        have hne : ¬(name = actionName ∧
            header.goalId = event.goal.goalId) := by
          rintro ⟨rfl, hgoal⟩
          rw [hevent] at hpolled
          rw [hgoal] at hpresent
          generalize (owned.server.poll R poll).state = server at hpolled
          cases hpolled with
          | goalRequest _ _ _ habsent => exact hpresent habsent
          | cancelRequest _ _ htype' => simp [htype] at htype'
          | runtimeCancel hsplit =>
              have htype' := (h.slots hfound).queue.type_eq event
                (by simp [hsplit])
              simp [htype] at htype'
          | stale => simp at htype
        obtain ⟨inst'', hget'', hpackets, hgoals⟩ :=
          ActionServicesServer.call_frame (R := R)
            (hserver.step (R := R) (.poll poll)) reject actionName
            (.rejectGoal event.goal) hget'
        exact ⟨inst'', by rw [hslot']; exact hget'', hpackets,
          hgoals header.goalId hne⟩
    obtain ⟨inst'', hget'', hpackets, hbinding, hcontext⟩ := hdone
    rcases hcase with hsame | hunmoved
    · refine Or.inl ?_
      rw [packetsAt_of_getAction hfound hget, packetsAt, hget'',
        Option.map_some, hpackets, hsame]
    · refine Or.inr ?_
      rw [goalAt_of_getAction hfound hget, goalAt, hget'', Option.map_some,
        hbinding, hcontext, hunmoved.binding_eq, hunmoved.context_eq]
  · refine Or.inr ?_
    rw [goalAt, goalAt, slotAt_pollSlot_of_ne hk]

/-! ## Identity and routing -/

/-- In the course of every run a Goal has at most one owner, and a Goal Request
for a Goal with an owner is not reported and does not change the owner.  While
at most `2 ^ 64` connection ids have been handed out, a call goes to the
connection that delivered its Goal and changes no other connection, and such a
request does not change the Goal. -/
theorem mux_goal_identity (R : PduRegistry)
    (nodeId actionConfigPath endpointMuxConfigPath implType : String)
    (deltaTimeUsec : UInt64) {s : ActionServicesMuxServer}
    {seen : List MuxObs}
    (hreach : Reaches R (constructed nodeId actionConfigPath
      endpointMuxConfigPath implType deltaTimeUsec) s seen) :
    (s.owners.map GoalOwner.key).Nodup ∧
    (s.Unwrapped → ∀ net name call k,
      deliveredBy name call.goal.goalId seen ≠ some k →
      (∀ actionName obs,
        .connection k actionName obs ∉ (s.call R net name call).effects) ∧
      (s.call R net name call).state.slotAt k = s.slotAt k) ∧
    (∀ name g owner, s.findOwner name g = some owner → ∀ k poll reject,
      (∀ k' event,
        .event k' name event ∈ (s.pollSlot R k poll reject).effects →
        event.type = .goalRequest → event.goal.goalId ≠ g) ∧
      (s.pollSlot R k poll reject).state.findOwner name g = some owner ∧
      (s.Unwrapped → ∃ owned, s.findSlot owner.connectionId = some owned ∧
        (NextRequests R s k name g →
          (s.pollSlot R k poll reject).state.packetsAt k name =
              s.packetsAt k name ∨
            (s.pollSlot R k poll reject).state.goalAt owned.number name g =
              s.goalAt owned.number name g))) := by
  obtain ⟨js, rfl, rfl⟩ := hreach.exists_steps
  have hfollows := (follows_constructed False nodeId actionConfigPath
    endpointMuxConfigPath implType deltaTimeUsec).run (R := R) js
  refine ⟨hfollows.keys, ?_, ?_⟩
  · intro hunwrapped net name call k hk
    obtain ⟨hstate, heffects⟩ | ⟨owned, state, hrouted, hslots, htagged⟩ :=
      call_at_owner (R := R) net name call
    · rw [hstate, heffects]
      simp
    · have howned := hrouted.slotAt_eq hfollows.toWellFormed
      have hdelivered := hfollows.delivered hunwrapped howned hrouted.owner_eq
      have hne : k ≠ owned.number := by
        rintro rfl
        exact hk hdelivered
      refine ⟨?_, hslots k hne ?_⟩
      · intro actionName obs hobs
        obtain ⟨actionName', seen, hseen⟩ := htagged _ hobs
        simp only [MuxObs.connection.injEq] at hseen
        exact hne hseen.1
      · intro found hfound hid
        exact hne (hfollows.number_eq hunwrapped howned hfound hid)
  · intro name g owner howner k poll reject
    refine ⟨?_, findOwner_pollSlot howner k poll reject, ?_⟩
    · rintro k' event hevent htype rfl
      rw [unowned_of_exposed hevent htype] at howner
      simp at howner
    · intro hunwrapped
      have howned := owner_of_findOwner howner
      obtain ⟨owned, hfirst⟩ := (hfollows.agreement hunwrapped).found howned
      refine ⟨owned, hfirst, fun hnext => ?_⟩
      have hid := findSlot_id hfirst
      dsimp only at hid hfirst
      rw [← hid] at howned hfirst
      exact hfollows.goal_kept hunwrapped ⟨howned, hfirst⟩ hnext poll reject

/-- Two connections have requested the same Goal; it is accepted on the first
one, and the second one is left alone. -/
theorem duplicateGoal_routed :
    let s := (muxMachine sampleRegistry).run sampleMux (duplicateGoal true)
    let done := s.call sampleRegistry (fun _ _ => true) "fibonacci"
      (.acceptGoal ⟨sampleGoalId⟩)
    deliveredBy "fibonacci" sampleGoalId
        ((muxMachine sampleRegistry).trace sampleMux (duplicateGoal true)) =
      some 0 ∧
    done.result = true ∧ done.state.slotAt 1 = s.slotAt 1 := by
  have hdelivered : deliveredBy "fibonacci" sampleGoalId
      ((muxMachine sampleRegistry).trace sampleMux (duplicateGoal true)) =
      some 0 := by
    decide +kernel
  refine ⟨hdelivered, by decide +kernel, ?_⟩
  refine ((mux_goal_identity sampleRegistry "fibonacci-server" "action.json"
    "mux.json" "ActionServerEndpointImpl" 1000
    (reaches_run _ _ (duplicateGoal true))).2.1 ?_ _ _ _ 1 ?_).2
  · unfold Unwrapped
    decide +kernel
  · exact hdelivered ▸ by simp

/-! ### An id that is handed out again -/

/-- Two connections request the same Goal; the duplicate is not rejected, and
the application rejects the Goal. -/
def undecidedDuplicate : List MuxInput :=
  let request : PduResolvedKey := ⟨"fibonacci", 0⟩
  [.opened (some 3), .started true, samplePoll 2 1 false,
    .transport (.receive 0 request (sampleRequest requestKindGoal)),
    .transport (.receive 1 request (sampleRequest requestKindGoal)),
    samplePoll 0 1 false, samplePoll 0 1 false,
    .call (fun _ _ => true) "fibonacci" (.rejectGoal ⟨sampleGoalId⟩)]

/-- Then a third connection, with the id of the second one, requests it. -/
def requestedAgain : List MuxInput :=
  wrapped undecidedDuplicate
    [samplePoll 1 1 true,
      .transport (.receive (2 ^ 64 + 1) ⟨"fibonacci", 0⟩
        (sampleRequest requestKindGoal)),
      samplePoll 0 1 true]

/-- The Goal of the third connection is accepted on the second one. -/
theorem requestedAgain_misrouted :
    let s := (muxMachine sampleRegistry).run sampleMux requestedAgain
    let done := s.call sampleRegistry (fun _ _ => true) "fibonacci"
      (.acceptGoal ⟨sampleGoalId⟩)
    deliveredBy "fibonacci" sampleGoalId
        ((muxMachine sampleRegistry).trace sampleMux requestedAgain) =
      some (2 ^ 64 + 1) ∧
    ∃ actionName effect,
      .connection 1 actionName (.effect effect) ∈ done.effects := by
  have hidle : ((muxMachine sampleRegistry).run sampleMux
      undecidedDuplicate).Idle :=
    ⟨by decide +kernel, by decide +kernel, by decide +kernel⟩
  rw [requestedAgain, (run_wrapped hidle _).1, (run_wrapped hidle _).2]
  intro s done
  refine ⟨by decide +kernel, ?_⟩
  have hsent : done.effects.any (fun
      | .connection 1 _ (.effect _) => true
      | _ => false) = true := by
    decide +kernel
  obtain ⟨o, ho, hsent⟩ := List.any_eq_true.mp hsent
  split at hsent
  · exact ⟨_, _, ho⟩
  · simp at hsent

end ActionServicesMuxServer

end HakoPduRpc.Action
