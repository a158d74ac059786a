import HakoPduRpc.Action.MuxDisconnect

/-!
# The life of a connection

A connection is live until its disconnected flag is set.  When the disconnect
is handled, it is orphaned if it has an accepted Goal and retired otherwise; an
orphaned connection is retired when the last Goal with its id has ended.
`SlotStep` lists what a small step can do to a connection, and
`ConnectionSlot.Accounted` says which combinations of the flags occur.
-/

namespace HakoPduRpc.Action

open KeyedList Tickets

/-! ## Services without packets -/

/-- The input is a packet. -/
def ServerInput.Receives : ServerInput → Prop
  | .receive _ _ => True
  | .poll _ | .call _ _ _ | .stopAllServices | .clearAllInstances
  | .notifyTransportDisconnected => False

namespace ActionServicesServer

variable {R : PduRegistry} {s : ActionServicesServer}

theorem pendingPackets_step {inst : ServerActionInstance}
    (hinv : inst.Invariant) (hempty : inst.endpoint.pendingPackets = [])
    {i : InstanceInput} (hi : ∀ key data, i ≠ .receive key data) :
    ((instanceMachine R).step inst i).1.endpoint.pendingPackets = [] := by
  cases i with
  | receive key data => exact absurd rfl (hi key data)
  | poll net =>
      simp only [instanceMachine, ServerActionInstance.pollEndpoint,
        ServerActionInstance.endpoint_poll_nil hinv hempty]
      exact hempty
  | runtimeCancel event =>
      have hsame : ((instanceMachine R).run inst
          [.runtimeCancel event]).endpoint = inst.endpoint :=
        endpoint_run_runtimeCancel R (by simp)
      rw [Machine.run_cons, Machine.run_nil] at hsame
      rw [hsame]
      exact hempty
  | call net c =>
      simp only [instanceMachine]
      split_ifs
      · rcases ServerActionInstance.call_cases (R := R) hinv net c with
          ⟨hsame, -⟩ | ⟨-, hpackets⟩
        · rw [hsame]
          exact hempty
        · rw [hpackets]
          exact hempty
      · exact hempty
  | stop => rfl
  | clear => rfl

/-- Without packets from the transport the endpoints stay empty. -/
theorem Drained.step (hdrained : s.Drained) (hinv : s.Invariant)
    {i : ServerInput} (hi : ¬i.Receives) :
    ((serverMachine R).step s i).1.Drained := by
  intro inst' hinst'
  obtain ⟨inst, hinst, -, hrun⟩ := exists_run_of_mem_step hinv.nodup hinst'
  have hinputs : ∀ j ∈ instanceInputs R inst'.actionName s i,
      ∀ key data, j ≠ .receive key data := by
    rintro j hj key data rfl
    cases ForAction.of_mem hj
    exact hi trivial
  have hkept := (instanceMachine R).invariant
    (C := fun _ j => ∀ key data, j ≠ .receive key data)
    (I := fun inst => inst.Invariant ∧ inst.endpoint.pendingPackets = [])
    (fun _ j hj h => ⟨h.1.step j, pendingPackets_step h.1 h.2 hj⟩)
    ⟨hinv.actions inst hinst, hdrained inst hinst⟩
    ((instanceMachine R).along_of_forall (fun j hj _ => hinputs j hj) inst)
  rw [hrun]
  exact hkept.2

theorem drained_stopAllServices (s : ActionServicesServer) :
    s.stopAllServices.Drained := by
  intro inst hinst
  obtain ⟨inst, -, rfl⟩ := List.mem_map.mp hinst
  rfl

/-- Without packets `poll()` reports no Goal Request. -/
theorem Drained.poll_ne_goalRequest (hdrained : s.Drained)
    (hinv : s.Invariant) (hqueue : RuntimeQueue s.pendingRuntimeEvents)
    {net : SendOracle} {name : String} {event : ServerEvent}
    (hevent : (s.poll R net).result = some (name, event)) :
    event.type ≠ .goalRequest := by
  unfold poll at hevent
  rcases pollRuntimeEvents_standing R hinv.actions s.pendingRuntimeEvents with
    hnone | ⟨dropped, queued, rest, reported, hsplit, -, -, hresult, hcase⟩
  · simp only [hnone, pollActions_drained hinv.actions hdrained,
      reduceCtorEq] at hevent
  · simp only [hresult, Option.some.injEq, Prod.mk.injEq] at hevent
    rw [← hevent.2]
    have htype := hqueue.type_eq queued (by simp [hsplit])
    rcases hcase with ⟨rfl, -⟩ | ⟨rfl, -⟩
    · simp [htype]
    · simp

/-- A `poll()` only takes events from the queue. -/
theorem pendingRuntimeEvents_poll (hinv : s.Invariant) (net : SendOracle) :
    (s.poll R net).state.pendingRuntimeEvents.Sublist
      s.pendingRuntimeEvents := by
  have hcase := poll_standing (R := R) hinv net
  generalize (s.poll R net).state = s' at hcase ⊢
  generalize (s.poll R net).result = result at hcase
  cases hcase with
  | idle hqueue => simp [hqueue]
  | cancelRequest hqueue => simp [hqueue]
  | goalRequest hqueue => simp [hqueue]
  | runtimeCancel hsplit hqueue =>
      rw [hsplit, hqueue]
      exact (List.sublist_cons_self _ _).trans (List.sublist_append_right _ _)
  | stale hsplit hqueue =>
      rw [hsplit, hqueue]
      exact (List.sublist_cons_self _ _).trans (List.sublist_append_right _ _)

end ActionServicesServer

/-! ## What a step does to a connection -/

/-- The flags and services of a connection before and after a small step. -/
inductive SlotStep (R : PduRegistry) (j : MuxStep) (slot : ConnectionSlot) :
    ConnectionSlot → Prop
  | same : SlotStep R j slot slot
  | received (key : PduResolvedKey) (data : PduData)
      (hj : j = .transport (.receive slot.number key data)) :
      SlotStep R j slot { slot with server := slot.server.receive key data }
  | disconnected : SlotStep R j slot { slot with disconnected := true }
  | polled (net : SendOracle) (hlive : slot.retired = false) :
      SlotStep R j slot { slot with server := (slot.server.poll R net).state }
  /-- A Goal that has an owner was requested. -/
  | duplicate (net reject : SendOracle) (name : String)
      (goal : ServerGoalHandle) (hlive : slot.retired = false) :
      SlotStep R j slot
        { slot with
          server := ((slot.server.poll R net).state.call R reject name
            (.rejectGoal goal)).state }
  | called (net : SendOracle) (name : String) (c : ServerCall)
      (hlive : slot.retired = false) :
      SlotStep R j slot
        { slot with server := (slot.server.call R net name c).state }
  | orphaned (owners : List GoalOwner) (hdisconnected : slot.disconnected = true)
      (hunprocessed : slot.disconnectProcessed = false) :
      SlotStep R j slot
        { slot with
          disconnectProcessed := true
          orphaned := true
          server := (ActionServicesMuxServer.discardOwners R owners
            slot.server).stopAllServices.notifyTransportDisconnected }
  | abandoned (owners : List GoalOwner)
      (hdisconnected : slot.disconnected = true)
      (hunprocessed : slot.disconnectProcessed = false) :
      SlotStep R j slot
        { slot with
          disconnectProcessed := true
          retired := true
          server := (ActionServicesMuxServer.discardOwners R owners
            slot.server).stopAllServices.clearAllInstances }
  | reclaimed (net : SendOracle) (name : String) (c : ServerCall)
      (horphaned : slot.orphaned = true) :
      SlotStep R j slot
        { slot with
          retired := true
          server := (slot.server.call R net name c).state.clearAllInstances }
  /-- The last Goal with the id ended on another connection. -/
  | cleared (horphaned : slot.orphaned = true) :
      SlotStep R j slot
        { slot with
          retired := true
          server := slot.server.clearAllInstances }

/-! ## Flags -/

/-- Which flags, Goals and queued events a connection has together. -/
structure ConnectionSlot.Accounted (slot : ConnectionSlot) : Prop where
  unprocessed : slot.disconnectProcessed = false →
    slot.orphaned = false ∧ slot.retired = false
  handled : slot.disconnectProcessed = true →
    slot.orphaned = true ∨ slot.retired = true
  queued : slot.server.pendingRuntimeEvents ≠ [] → slot.orphaned = true
  cleared : slot.retired = true → ∀ a g, slot.server.standing a g = .absent

theorem queue_ne_nil_of_sublist {queue queue' : List ServerEvent}
    (hsub : queue'.Sublist queue) (h : queue' ≠ []) : queue ≠ [] := by
  rintro rfl
  exact h (List.sublist_nil.mp hsub)

/-- The services of a connection that is not retired make steps. -/
theorem ConnectionSlot.Accounted.served {slot : ConnectionSlot}
    (h : slot.Accounted) (hlive : slot.retired = false)
    {server : ActionServicesServer}
    (hqueue : server.pendingRuntimeEvents.Sublist
      slot.server.pendingRuntimeEvents) :
    ({ slot with server := server } : ConnectionSlot).Accounted where
  unprocessed := h.unprocessed
  handled := h.handled
  queued hne := h.queued (queue_ne_nil_of_sublist hqueue hne)
  cleared hretired := by
    dsimp only at hretired
    rw [hlive] at hretired
    simp at hretired

/-- An orphaned connection is retired. -/
theorem ConnectionSlot.Accounted.reclaimed {slot slot' : ConnectionSlot}
    (h : slot.Accounted) (horphaned : slot.orphaned = true)
    (hprocessed : slot'.disconnectProcessed = slot.disconnectProcessed)
    (hkept : slot'.orphaned = slot.orphaned ∧ slot'.retired = true)
    (habsent : ∀ a g, slot'.server.standing a g = .absent) :
    slot'.Accounted where
  unprocessed hunprocessed := by
    rw [hprocessed] at hunprocessed
    rw [(h.unprocessed hunprocessed).1] at horphaned
    simp at horphaned
  handled _ := Or.inr hkept.2
  queued _ := hkept.1.trans horphaned
  cleared _ := habsent

theorem SlotStep.accounted {R : PduRegistry} {j : MuxStep}
    {slot slot' : ConnectionSlot} (hstep : SlotStep R j slot slot')
    (hwf : slot.WellFormed) (h : slot.Accounted) : slot'.Accounted := by
  cases hstep with
  | same => exact h
  | received key data =>
      constructor
      · exact h.unprocessed
      · exact h.handled
      · exact h.queued
      · intro hretired a g
        rw [ActionServicesServer.standing_receive]
        exact h.cleared hretired a g
  | disconnected =>
      exact ⟨h.unprocessed, h.handled, h.queued, h.cleared⟩
  | polled net hlive =>
      exact h.served hlive
        (ActionServicesServer.pendingRuntimeEvents_poll hwf.server net)
  | duplicate net reject name goal hlive =>
      refine h.served hlive ?_
      rw [ActionServicesServer.pendingRuntimeEvents_call]
      exact ActionServicesServer.pendingRuntimeEvents_poll hwf.server net
  | called net name c hlive =>
      refine h.served hlive ?_
      rw [ActionServicesServer.pendingRuntimeEvents_call]
  | orphaned owners hdisconnected hunprocessed =>
      constructor
      · simp
      · simp
      · simp
      · intro hretired
        dsimp only at hretired
        rw [(h.unprocessed hunprocessed).2] at hretired
        simp at hretired
  | abandoned owners hdisconnected hunprocessed =>
      constructor
      · simp
      · simp
      · intro hne
        exact absurd rfl hne
      · intro _ a g
        exact ActionServicesServer.standing_clearAllInstances _ a g
  | reclaimed net name c horphaned =>
      exact h.reclaimed horphaned rfl ⟨rfl, rfl⟩
        (ActionServicesServer.standing_clearAllInstances _)
  | cleared horphaned =>
      exact h.reclaimed horphaned rfl ⟨rfl, rfl⟩
        (ActionServicesServer.standing_clearAllInstances _)

theorem SlotStep.id_eq {R : PduRegistry} {j : MuxStep}
    {slot slot' : ConnectionSlot} (hstep : SlotStep R j slot slot') :
    slot'.connectionId = slot.connectionId := by
  cases hstep <;> rfl

theorem SlotStep.retired {R : PduRegistry} {j : MuxStep}
    {slot slot' : ConnectionSlot} (hstep : SlotStep R j slot slot')
    (h : slot.retired = true) : slot'.retired = true := by
  cases hstep <;> first | exact h | rfl

/-- The services of a connection whose disconnect was handled get no packets,
as long as the transport delivers none after it disconnected. -/
theorem SlotStep.drained {R : PduRegistry} {j : MuxStep}
    {slot slot' : ConnectionSlot} (hstep : SlotStep R j slot slot')
    (hwf : slot.WellFormed)
    (horderly : ∀ key data,
      j = .transport (.receive slot.number key data) →
      slot.disconnected = false)
    (h : slot.disconnectProcessed = true → slot.server.Drained)
    (hprocessed : slot'.disconnectProcessed = true) :
    slot'.server.Drained := by
  cases hstep with
  | same => exact h hprocessed
  | received key data hj =>
      have hdisconnected := hwf.processed hprocessed
      rw [horderly key data hj] at hdisconnected
      simp at hdisconnected
  | disconnected => exact h hprocessed
  | polled net hlive =>
      exact (h hprocessed).step (R := R) (i := .poll net) hwf.server id
  | duplicate net reject name goal hlive =>
      have hpolled := (h hprocessed).step (R := R) (i := .poll net) hwf.server
        id
      exact hpolled.step (R := R) (i := .call reject name (.rejectGoal goal))
        (hwf.server.step (R := R) (.poll net)) id
  | called net name c hlive =>
      exact (h hprocessed).step (R := R) (i := .call net name c) hwf.server id
  | orphaned owners hdisconnected hunprocessed =>
      exact ActionServicesServer.drained_stopAllServices _
  | abandoned owners hdisconnected hunprocessed =>
      have hinv := (ActionServicesMuxServer.discardOwners_kept (R := R)
        hwf.server hwf.named owners).1
      exact (ActionServicesServer.drained_stopAllServices _).step (R := R)
        (i := .clearAllInstances) (hinv.step (R := R) .stopAllServices) id
  | reclaimed net name c horphaned =>
      have hcalled := (h hprocessed).step (R := R) (i := .call net name c)
        hwf.server id
      exact hcalled.step (R := R) (i := .clearAllInstances)
        (hwf.server.step (R := R) (.call net name c)) id
  | cleared horphaned =>
      exact (h hprocessed).step (R := R) (i := .clearAllInstances) hwf.server id

namespace ActionServicesMuxServer

variable {R : PduRegistry} {strict : Prop} {s s' : ActionServicesMuxServer}

/-- What holds of the connections in every reachable state. -/
structure Accounts (s : ActionServicesMuxServer) : Prop
    extends Invariant False s where
  accounted : ∀ {k slot}, s.slotAt k = some slot → slot.Accounted

/-- A retired connection gets no calls: its Goals are gone, and it is
disconnected. -/
theorem Accounts.live_of_call (h : s.Accounts) {slot : ConnectionSlot}
    {name : String} {g : GoalId} {state : GoalOwnerState}
    (hcall : CallReaches s slot name g state) : slot.retired = false := by
  have hfound := hcall.slotAt_eq h.toWellFormed
  by_contra hretired
  rw [Bool.not_eq_false] at hretired
  cases state with
  | active =>
      obtain ⟨first, hfirst, haccepted⟩ := h.active hcall.owner_eq
      rw [hcall.first, Option.some.injEq] at hfirst
      rw [← hfirst, (h.accounted hfound).cleared hretired] at haccepted
      simp at haccepted
  | pending =>
      have hconnected := hcall.connected rfl
      cases hprocessed : slot.disconnectProcessed with
      | true =>
          rw [(h.slots hfound).processed hprocessed] at hconnected
          simp at hconnected
      | false =>
          rw [((h.accounted hfound).unprocessed hprocessed).2] at hretired
          simp at hretired

/-! ## Steps of a connection -/

/-- The connection of the called services. -/
theorem slotAt_callServer_self {slot : ConnectionSlot}
    (hfound : s.slotAt slot.number = some slot) (net : SendOracle)
    (name : String) (c : ServerCall) :
    (callServer R s net slot name c).state.slotAt slot.number =
      some { slot with server := (slot.server.call R net name c).state } := by
  refine (slotAt_modifySlot ?_ _ _).trans ?_
  · intro slot
    rfl
  · rw [if_pos rfl, hfound]
    rfl

/-- When the first connection with an id is orphaned, it is the first orphaned
one with it. -/
theorem lookup_orphaned {slots : List ConnectionSlot} {c : UInt64}
    {slot : ConnectionSlot}
    (hfirst : lookup (·.connectionId) c slots = some slot)
    (horphaned : slot.orphaned = true) :
    lookup (fun slot => (slot.connectionId, slot.orphaned)) (c, true) slots =
      some slot := by
  induction slots with
  | nil => simp at hfirst
  | cons a l ih =>
      rw [lookup_cons] at hfirst ⊢
      split_ifs at hfirst with ha
      · obtain rfl := Option.some.inj hfirst
        rw [if_pos (Prod.ext ha horphaned)]
      · rw [if_neg fun hkey => ha (Prod.mk.inj hkey).1, ih hfirst]

/-- The connection that `reclaim_orphaned_slot_` takes. -/
def orphanedSlot (s : ActionServicesMuxServer) (c : UInt64) :
    Option ConnectionSlot :=
  lookup (fun slot => (slot.connectionId, slot.orphaned)) (c, true) s.slots

/-- When the last Goal with an id has ended, the connection that is taken is
retired, and the others stay as they are. -/
theorem slotAt_reclaimOrphanedSlot (hwf : s.WellFormed) (c : UInt64) (k : ℕ) :
    (s.reclaimOrphanedSlot c).slotAt k = (s.slotAt k).map fun slot =>
      if (s.owners.any fun owner => owner.connectionId = c) = false ∧
          (s.orphanedSlot c).map (·.number) = some k then
        { slot with
          server := slot.server.clearAllInstances
          retired := true }
      else slot := by
  unfold reclaimOrphanedSlot
  cases howned : s.owners.any fun owner => owner.connectionId = c with
  | true => simp
  | false =>
      rw [if_neg Bool.false_ne_true]
      unfold slotAt
      dsimp only
      cases hlast : s.orphanedSlot c with
      | none =>
          rw [modifyFirst_of_notMem hlast]
          simp
      | some last =>
          rw [modifyFirst_orphaned hwf.numbers hlast, lookup_modifyFirst]
          · by_cases hk : k = last.number
            · simp [hk]
            · have hk' : ¬last.number = k := fun h => hk h.symm
              simp [hk, hk']
          · intro slot hslot
            exact hslot

theorem owners_reclaimOrphanedSlot (c : UInt64) :
    (s.reclaimOrphanedSlot c).owners = s.owners := by
  unfold reclaimOrphanedSlot
  split_ifs <;> rfl

/-- The connection that is taken is orphaned. -/
theorem orphaned_of_orphanedSlot (hwf : s.WellFormed) {c : UInt64}
    {slot : ConnectionSlot} (hfound : s.slotAt slot.number = some slot)
    (hlast : (s.orphanedSlot c).map (·.number) = some slot.number) :
    slot.orphaned = true := by
  obtain ⟨last, hlast, hnumber⟩ := Option.map_eq_some_iff.mp hlast
  have hkey := lookup_key hlast
  rw [← eq_of_number hfound (hwf.slotAt_of_mem (lookup_mem hlast)) hnumber]
  exact (Prod.mk.inj hkey).2

/-- The connection that an id finds is retired when it is orphaned and has no
owners. -/
theorem slotAt_reclaimOrphanedSlot_self (hwf : s.WellFormed) {c : UInt64}
    {slot : ConnectionSlot} (hfirst : s.findSlot c = some slot) :
    (s.reclaimOrphanedSlot c).slotAt slot.number =
      if (s.owners.any fun owner => owner.connectionId = c) = false ∧
          slot.orphaned = true then
        some
          { slot with
            server := slot.server.clearAllInstances
            retired := true }
      else some slot := by
  have hfound := hwf.slotAt_of_findSlot hfirst
  have hlast : (s.orphanedSlot c).map (·.number) = some slot.number ↔
      slot.orphaned = true := by
    constructor
    · exact orphaned_of_orphanedSlot hwf hfound
    · intro horphaned
      rw [orphanedSlot, lookup_orphaned hfirst horphaned]
      rfl
  rw [slotAt_reclaimOrphanedSlot hwf, hfound]
  simp only [Option.map_some, hlast]
  split_ifs <;> rfl

/-- The connection whose disconnect is handled. -/
theorem slotAt_processSlot_self {k : ℕ} {slot : ConnectionSlot}
    (hfound : s.slotAt k = some slot)
    (hskip : ¬(¬slot.disconnected ∨ slot.disconnectProcessed)) :
    (s.processSlot R k).state.slotAt k =
      some (if s.hasActiveOwner slot.connectionId then
        { slot with
          disconnectProcessed := true
          orphaned := true
          server := (discardOwners R (s.pendingOwners slot.connectionId)
            slot.server).stopAllServices.notifyTransportDisconnected }
      else
        { slot with
          disconnectProcessed := true
          retired := true
          server := (discardOwners R (s.pendingOwners slot.connectionId)
            slot.server).stopAllServices.clearAllInstances }) := by
  have hnumber := slotAt_number hfound
  simp only [processSlot, hfound]
  rw [if_neg hskip]
  unfold slotAt at hfound ⊢
  unfold modifySlot
  dsimp only
  rw [lookup_modifyFirst]
  · rw [if_pos rfl, hfound]
    rfl
  · intro _ _
    split_ifs <;> exact hnumber

theorem slotAt_processSlot_of_ne {k k' : ℕ} (hk : k' ≠ k) :
    (s.processSlot R k).state.slotAt k' = s.slotAt k' := by
  unfold processSlot
  split
  · rfl
  · next slot hfound =>
      by_cases hskip : ¬slot.disconnected ∨ slot.disconnectProcessed
      · rw [if_pos hskip]
      · rw [if_neg hskip]
        have hnumber := slotAt_number hfound
        unfold slotAt modifySlot
        dsimp only
        rw [lookup_modifyFirst]
        · rw [if_neg hk]
        · intro _ _
          split_ifs <;> exact hnumber

/-- The connection of a call that ends a Goal. -/
theorem slotAt_complete (hwf : s.WellFormed) {slot : ConnectionSlot}
    (net : SendOracle) {name : String} {goal : ServerGoalHandle}
    (status : TerminalStatus) (pdu : PduData)
    (hslot : s.activeSlot name goal.goalId = some slot) :
    ∃ c : ServerCall, c = (if slot.disconnected then
        .completeLocally goal status pdu else .complete goal status pdu) ∧
      (s.complete R net name goal status pdu).result =
        (slot.server.call R net name c).result ∧
      (s.complete R net name goal status pdu).effects =
        (slot.server.call R net name c).effects.map (fun seen =>
          .connection slot.number seen.1 seen.2) ∧
      (s.complete R net name goal status pdu).state.slotAt slot.number =
        some (if (slot.server.call R net name c).result = true ∧
            ((s.complete R net name goal status pdu).state.owners.any fun owner =>
              owner.connectionId = slot.connectionId) = false ∧
            slot.orphaned = true then
          { slot with
            retired := true
            server := (slot.server.call R net name c).state.clearAllInstances }
        else { slot with server := (slot.server.call R net name c).state }) := by
  have hrouted := activeSlot_eq_some hslot
  have hfound := hrouted.slotAt_eq hwf
  refine ⟨_, rfl, ?_⟩
  simp only [complete, hslot]
  generalize (if slot.disconnected = true then
      ServerCall.completeLocally goal status pdu
    else .complete goal status pdu) = c
  have hself := slotAt_callServer_self (R := R) hfound net name c
  cases hok : (slot.server.call R net name c).result with
  | false =>
      simp only [callServer] at hself ⊢
      simp [hok, hself]
  | true =>
      have hupdate : SlotUpdate s
          ((callServer R s net slot name c).state.removeOwner name
            goal.goalId) slot _ :=
        callServer_update hwf hfound net name c rfl rfl
      have hreclaimed := slotAt_reclaimOrphanedSlot_self
        (hupdate.wellFormed_of hwf
          ((map_key_removeFirst_sublist _ _).nodup hwf.keys))
        (hupdate.findSlot_self hwf hrouted.first)
      have hresult : (callServer R s net slot name c).result = true := hok
      simp only [hresult, if_true]
      refine ⟨trivial, rfl, ?_⟩
      rw [hreclaimed, owners_reclaimOrphanedSlot]
      by_cases hlast : (((callServer R s net slot name c).state.removeOwner
            name goal.goalId).owners.any fun owner =>
            owner.connectionId = slot.connectionId) = false ∧
          slot.orphaned = true
      · rw [if_pos hlast, if_pos ⟨trivial, hlast⟩]
      · rw [if_neg hlast, if_neg fun h => hlast h.2]

/-- What becomes of a connection when the last Goal with an id has ended. -/
theorem reclaimOrphanedSlot_slotStep (hwf : s.WellFormed) (c : UInt64)
    {k : ℕ} {slot : ConnectionSlot} (hfound : s.slotAt k = some slot) :
    (s.reclaimOrphanedSlot c).slotAt k = some slot ∨
      slot.orphaned = true ∧ (s.reclaimOrphanedSlot c).slotAt k =
        some
          { slot with
            server := slot.server.clearAllInstances
            retired := true } := by
  have hnumber := slotAt_number hfound
  subst hnumber
  rw [slotAt_reclaimOrphanedSlot hwf, hfound, Option.map_some]
  split_ifs with hlast
  · exact Or.inr ⟨orphaned_of_orphanedSlot hwf hfound hlast.2, rfl⟩
  · exact Or.inl rfl

/-- The services of a connection are called. -/
theorem callServer_slotStep {called : ConnectionSlot}
    (hcalled : s.slotAt called.number = some called)
    (hlive : called.retired = false) (net : SendOracle) (name : String)
    (c : ServerCall) {k : ℕ} {slot : ConnectionSlot}
    (hfound : s.slotAt k = some slot) {j : MuxStep} :
    ∃ slot', (callServer R s net called name c).state.slotAt k =
        some slot' ∧ SlotStep R j slot slot' := by
  by_cases hk : k = called.number
  · rw [hk, hcalled] at hfound
    obtain rfl := Option.some.inj hfound
    rw [hk]
    exact ⟨_, slotAt_callServer_self hcalled net name c,
      .called net name c hlive⟩
  · rw [slotAt_callServer_of_ne net called name c hk]
    exact ⟨slot, hfound, .same⟩

/-- What a call of the application does to a connection. -/
theorem call_slotStep (h : s.Accounts) (net : SendOracle)
    (name : String) (call : MuxCall) {k : ℕ} {slot : ConnectionSlot}
    (hfound : s.slotAt k = some slot) {j : MuxStep} :
    ∃ slot', (s.call R net name call).state.slotAt k = some slot' ∧
      SlotStep R j slot slot' := by
  have hactive : ∀ {g called}, s.activeSlot name g = some called →
      s.slotAt called.number = some called ∧ called.retired = false := by
    intro g called hslot
    have hcall := callReaches_of_activeSlot hslot
    exact ⟨hcall.slotAt_eq h.toWellFormed, h.live_of_call hcall⟩
  have hpending : ∀ {g called}, s.pendingSlot name g = some called →
      s.slotAt called.number = some called ∧ called.retired = false := by
    intro g called hslot
    have hcall := callReaches_of_pendingSlot hslot
    exact ⟨hcall.slotAt_eq h.toWellFormed, h.live_of_call hcall⟩
  have hsame : ∃ slot', s.slotAt k = some slot' ∧ SlotStep R j slot slot' :=
    ⟨slot, hfound, .same⟩
  cases call with
  | acceptGoal goal =>
      simp only [ActionServicesMuxServer.call, acceptGoal]
      split
      · exact hsame
      · next called hslot =>
          have hstep := callServer_slotStep (R := R) (hpending hslot).1
            (hpending hslot).2 net name (.acceptGoal goal) hfound (j := j)
          dsimp only
          split_ifs <;> exact hstep
  | rejectGoal goal =>
      simp only [ActionServicesMuxServer.call, rejectGoal]
      split
      · exact hsame
      · next called hslot =>
          have hstep := callServer_slotStep (R := R) (hpending hslot).1
            (hpending hslot).2 net name (.rejectGoal goal) hfound (j := j)
          dsimp only
          split_ifs <;> exact hstep
  | acceptCancel goal =>
      simp only [ActionServicesMuxServer.call, routeActiveGoal]
      split
      · exact hsame
      · next called hslot =>
          exact callServer_slotStep (hactive hslot).1 (hactive hslot).2 net
            name _ hfound
  | rejectCancel goal =>
      simp only [ActionServicesMuxServer.call, routeActiveGoal]
      split
      · exact hsame
      · next called hslot =>
          exact callServer_slotStep (hactive hslot).1 (hactive hslot).2 net
            name _ hfound
  | sendFeedback goal pdu =>
      simp only [ActionServicesMuxServer.call, sendFeedback]
      split
      · exact hsame
      · next called hslot =>
          split_ifs
          · exact hsame
          · exact callServer_slotStep (hactive hslot).1 (hactive hslot).2 net
              name _ hfound
  | complete goal status pdu =>
      cases hslot : s.activeSlot name goal.goalId with
      | none =>
          simp only [ActionServicesMuxServer.call, complete, hslot]
          exact hsame
      | some called =>
          obtain ⟨hcalled, hlive⟩ := hactive hslot
          simp only [ActionServicesMuxServer.call, complete, hslot]
          generalize (if called.disconnected = true then
            ServerCall.completeLocally goal status pdu
            else .complete goal status pdu) = c
          have hupdate : SlotUpdate s
              ((callServer R s net called name c).state.removeOwner name
                goal.goalId) called _ :=
            callServer_update h.toWellFormed hcalled net name c rfl rfl
          have hwf := hupdate.wellFormed_of h.toWellFormed
            ((map_key_removeFirst_sublist _ _).nodup h.keys)
          split_ifs
          · by_cases hk : k = called.number
            · rw [hk, hcalled] at hfound
              obtain rfl := Option.some.inj hfound
              have hafter := slotAt_callServer_self (R := R) hcalled net name c
              rw [hk]
              obtain hsame | ⟨horphaned, hcleared⟩ :=
                reclaimOrphanedSlot_slotStep hwf called.connectionId hafter
              · exact ⟨_, hsame, .called net name c hlive⟩
              · exact ⟨_, hcleared, .reclaimed net name c horphaned⟩
            · have hafter := (slotAt_callServer_of_ne (R := R) (s := s) net
                called name c hk).trans hfound
              obtain hsame | ⟨horphaned, hcleared⟩ :=
                reclaimOrphanedSlot_slotStep hwf called.connectionId hafter
              · exact ⟨_, hsame, .same⟩
              · exact ⟨_, hcleared, .cleared horphaned⟩
          · exact callServer_slotStep hcalled hlive net name c hfound

/-- What a small step does to a connection: it stays and makes a `SlotStep`, or
the server stops. -/
theorem slotStep (h : s.Accounts) (j : MuxStep) {k : ℕ}
    {slot : ConnectionSlot} (hfound : s.slotAt k = some slot) :
    (j = .stop ∧ ((muxStepMachine R).step s j).1.slots = []) ∨
      ∃ slot', ((muxStepMachine R).step s j).1.slotAt k = some slot' ∧
        SlotStep R j slot slot' := by
  have hsame : ∀ {j}, ∃ slot', s.slotAt k = some slot' ∧
      SlotStep R j slot slot' :=
    ⟨slot, hfound, .same⟩
  cases j with
  | transport event =>
      refine Or.inr ?_
      cases event with
      | receive k' key data =>
          simp only [muxStepMachine, transport]
          rw [slotAt_modifySlot]
          · split_ifs with hk
            · rw [← hk, hfound]
              have hnumber := slotAt_number hfound
              exact ⟨_, rfl, .received key data (by rw [hnumber])⟩
            · exact hsame
          · intro slot
            rfl
      | disconnect k' =>
          simp only [muxStepMachine, transport]
          rw [slotAt_modifySlot]
          · split_ifs with hk
            · rw [← hk, hfound]
              exact ⟨_, rfl, .disconnected⟩
            · exact hsame
          · intro slot
            rfl
  | acceptConnection capacity document =>
      refine Or.inr ?_
      simp only [muxStepMachine, acceptConnection]
      split_ifs
      · exact hsame
      · cases document with
        | none => exact hsame
        | some root =>
            dsimp only
            split_ifs
            · refine ⟨slot, ?_, .same⟩
              unfold slotAt at hfound ⊢
              dsimp only
              rw [lookup_append_singleton, hfound]
              rfl
            · exact hsame
  | processSlot k' =>
      refine Or.inr ?_
      simp only [muxStepMachine]
      by_cases hk : k = k'
      · subst hk
        by_cases hskip : ¬slot.disconnected ∨ slot.disconnectProcessed
        · have hidle : (s.processSlot R k).state = s := by
            simp only [processSlot, hfound, if_pos hskip]
          rw [hidle]
          exact hsame
        · obtain ⟨hdisconnected, hunprocessed⟩ : slot.disconnected = true ∧
              slot.disconnectProcessed = false := by
            simpa [not_or] using hskip
          refine ⟨_, slotAt_processSlot_self hfound hskip, ?_⟩
          split_ifs
          · exact .orphaned _ hdisconnected hunprocessed
          · exact .abandoned _ hdisconnected hunprocessed
      · rw [slotAt_processSlot_of_ne hk]
        exact hsame
  | pollSlot k' poll reject =>
      refine Or.inr ?_
      simp only [muxStepMachine]
      by_cases hk : k = k'
      · subst hk
        cases hlive : slot.retired with
        | true =>
            rw [pollSlot, hfound]
            simp only [hlive, if_true]
            exact hsame
        | false =>
            obtain ⟨server, hafter, rfl | ⟨name, event, -, -, -, rfl⟩⟩ :=
              slotAt_pollSlot_self (R := R) hfound hlive poll reject
            · exact ⟨_, hafter, .polled poll hlive⟩
            · exact ⟨_, hafter, .duplicate poll reject name _ hlive⟩
      · rw [slotAt_pollSlot_of_ne hk]
        exact hsame
  | call net name call =>
      exact Or.inr (call_slotStep h net name call hfound)
  | opened expectedCount =>
      refine Or.inr ?_
      simp only [muxStepMachine, initializeMux]
      repeat' (first | exact hsame | split)
  | started ok =>
      refine Or.inr ?_
      simp only [muxStepMachine, startMux]
      repeat' (first | exact hsame | split)
  | stop => exact Or.inl ⟨rfl, rfl⟩

/-- A connection that is new after a small step. -/
theorem slotAt_of_new (h : s.Accounts) (j : MuxStep) {k : ℕ}
    (hnone : s.slotAt k = none) {slot : ConnectionSlot}
    (hnew : ((muxStepMachine R).step s j).1.slotAt k = some slot) :
    ∃ capacity root, j = .acceptConnection capacity (some root) ∧
      k = s.issued ∧
      slot = s.newSlot (startedServer R s.nodeId s.implType (fun _ => true)
        root) := by
  have hgone : s.slotAt k = some slot → False := by
    rw [hnone]
    simp
  cases j with
  | transport event =>
      refine (hgone ?_).elim
      cases event with
      | receive k' key data =>
          simp only [muxStepMachine, transport] at hnew
          rw [slotAt_modifySlot] at hnew
          · split_ifs at hnew with hk
            · rw [← hk, hnone] at hnew
              simp at hnew
            · exact hnew
          · intro slot
            rfl
      | disconnect k' =>
          simp only [muxStepMachine, transport] at hnew
          rw [slotAt_modifySlot] at hnew
          · split_ifs at hnew with hk
            · rw [← hk, hnone] at hnew
              simp at hnew
            · exact hnew
          · intro slot
            rfl
  | acceptConnection capacity document =>
      simp only [muxStepMachine, acceptConnection] at hnew
      split_ifs at hnew
      · exact (hgone hnew).elim
      · cases document with
        | none => exact (hgone hnew).elim
        | some root =>
            dsimp only at hnew
            split_ifs at hnew
            · unfold slotAt at hnone hnew
              dsimp only at hnew
              rw [lookup_append_singleton, hnone, Option.none_or] at hnew
              split_ifs at hnew with hk
              obtain rfl := Option.some.inj hnew
              exact ⟨capacity, root, rfl, hk.symm, rfl⟩
            · exact (hgone hnew).elim
  | processSlot k' =>
      refine (hgone ?_).elim
      simp only [muxStepMachine] at hnew
      by_cases hk : k = k'
      · subst hk
        rw [processSlot, hnone] at hnew
        exact hnew
      · rw [slotAt_processSlot_of_ne hk] at hnew
        exact hnew
  | pollSlot k' poll reject =>
      refine (hgone ?_).elim
      simp only [muxStepMachine] at hnew
      by_cases hk : k = k'
      · subst hk
        rw [pollSlot, hnone] at hnew
        exact hnew
      · rw [slotAt_pollSlot_of_ne hk] at hnew
        exact hnew
  | call net name call =>
      refine (hgone ?_).elim
      simp only [muxStepMachine] at hnew
      obtain ⟨hstate, -⟩ | ⟨called, state, hcall, hslots, -⟩ :=
        call_at_owner (R := R) (s := s) net name call
      · rw [hstate] at hnew
        exact hnew
      · rw [hslots k] at hnew
        · exact hnew
        · rintro rfl
          rw [hcall.slotAt_eq h.toWellFormed] at hnone
          simp at hnone
        · intro found hfound
          rw [hnone] at hfound
          simp at hfound
  | opened expectedCount =>
      refine (hgone ?_).elim
      simp only [muxStepMachine, initializeMux] at hnew
      revert hnew
      repeat' (first | exact fun hnew => hnew | split)
  | started ok =>
      refine (hgone ?_).elim
      simp only [muxStepMachine, startMux] at hnew
      revert hnew
      repeat' (first | exact fun hnew => hnew | split)
  | stop =>
      simp only [muxStepMachine, stop, slotAt] at hnew
      simp at hnew

/-- Every connection after a small step is new or was there before. -/
theorem slotAt_step (h : s.Accounts) (j : MuxStep) {k : ℕ}
    {slot' : ConnectionSlot}
    (hfound : ((muxStepMachine R).step s j).1.slotAt k = some slot') :
    (∃ slot, s.slotAt k = some slot ∧ SlotStep R j slot slot') ∨
      ∃ capacity root, j = .acceptConnection capacity (some root) ∧
        k = s.issued ∧
        slot' = s.newSlot (startedServer R s.nodeId s.implType
          (fun _ => true) root) := by
  cases hslot : s.slotAt k with
  | none => exact Or.inr (slotAt_of_new h j hslot hfound)
  | some slot =>
      obtain ⟨-, hslots⟩ | ⟨slot'', hfound', hstep⟩ :=
        slotStep (R := R) h j hslot
      · rw [slotAt, hslots] at hfound
        simp at hfound
      · rw [hfound', Option.some.injEq] at hfound
        exact Or.inl ⟨slot, rfl, hfound ▸ hstep⟩

theorem Accounts.step (h : s.Accounts) (j : MuxStep) :
    ((muxStepMachine R).step s j).1.Accounts where
  toInvariant := h.stepCase (step_cases h.toWellFormed j False.elim)
  accounted := by
    intro k slot' hfound
    obtain ⟨slot, hslot, hstep⟩ | ⟨capacity, root, -, -, rfl⟩ :=
      slotAt_step (R := R) h j hfound
    · exact hstep.accounted (h.slots hslot) (h.accounted hslot)
    · constructor
      · simp [newSlot]
      · simp [newSlot]
      · rw [newSlot, ActionServicesServer.pendingRuntimeEvents_started]
        simp
      · simp [newSlot]

theorem Accounts.run (h : s.Accounts) (js : List MuxStep) :
    ((muxStepMachine R).run s js).Accounts :=
  (muxStepMachine R).invariant (C := fun _ _ => True)
    (fun _ j _ hs => hs.step j) h
    ((muxStepMachine R).along_of_forall (fun _ _ _ => trivial) s)

theorem accounts_constructed
    (nodeId actionConfigPath endpointMuxConfigPath implType : String)
    (deltaTimeUsec : UInt64) :
    (constructed nodeId actionConfigPath endpointMuxConfigPath implType
      deltaTimeUsec).Accounts where
  toInvariant := invariant_constructed False nodeId actionConfigPath
    endpointMuxConfigPath implType deltaTimeUsec
  accounted := by simp [constructed, slotAt]

/-! ## Where observations come from -/

/-- The small step that makes an observation. -/
def Origin (R : PduRegistry) (s : ActionServicesMuxServer) (j : MuxStep) :
    MuxObs → Prop
  | .connected _ _ =>
      ∃ capacity document, j = .acceptConnection capacity document
  | .processed k => j = .processSlot k
  | .connection k _ _ =>
      (∃ poll reject slot, j = .pollSlot k poll reject ∧
        s.slotAt k = some slot ∧ slot.retired = false) ∨
      ∃ net name call slot state, j = .call net name call ∧
        slot.number = k ∧ CallReaches s slot name call.goal.goalId state
  | .event k name event =>
      ∃ poll reject slot, j = .pollSlot k poll reject ∧
        s.slotAt k = some slot ∧ slot.retired = false ∧
        (slot.server.poll R poll).result = some (name, event)
  | .returned name call ok =>
      ∃ net, j = .call net name call ∧ (s.call R net name call).result = ok
  | .stopped => j = .stop

theorem pollSlot_origin {k : ℕ} {poll reject : SendOracle} {o : MuxObs}
    (h : o ∈ (s.pollSlot R k poll reject).effects) :
    Origin R s (.pollSlot k poll reject) o := by
  unfold pollSlot at h
  split at h
  · simp at h
  · next slot hfound =>
      split_ifs at h with hretired
      · simp at h
      · have hlive : slot.retired = false := by simpa using hretired
        have hseen : ∀ {effects : List (String × ServerObs)},
            o ∈ effects.map (fun seen =>
              MuxObs.connection k seen.1 seen.2) →
            Origin R s (.pollSlot k poll reject) o := by
          intro effects ho
          obtain ⟨seen, -, rfl⟩ := List.mem_map.mp ho
          exact Or.inl ⟨poll, reject, slot, rfl, hfound, hlive⟩
        dsimp only at h
        split at h
        · exact hseen h
        · next name event hevent =>
            have horigin : Origin R s (.pollSlot k poll reject)
                (.event k name event) :=
              ⟨poll, reject, slot, rfl, hfound, hlive, hevent⟩
            split_ifs at h
            · rcases List.mem_append.mp h with h | h
              · exact hseen h
              · rw [List.mem_singleton.mp h]
                exact horigin
            · rcases List.mem_append.mp h with h | h
              · exact hseen h
              · exact hseen h
            · rcases List.mem_append.mp h with h | h
              · exact hseen h
              · rw [List.mem_singleton.mp h]
                exact horigin

/-- Every observation has an origin. -/
theorem step_origin {j : MuxStep} {o : MuxObs}
    (h : o ∈ ((muxStepMachine R).step s j).2) : Origin R s j o := by
  cases j with
  | transport event => simp [muxStepMachine] at h
  | acceptConnection capacity document =>
      simp only [muxStepMachine, acceptConnection] at h
      split_ifs at h
      · simp at h
      · cases document with
        | none => simp at h
        | some root =>
            dsimp only at h
            split_ifs at h
            · rw [List.mem_singleton.mp h]
              exact ⟨capacity, some root, rfl⟩
            · simp at h
  | processSlot k =>
      simp only [muxStepMachine, processSlot] at h
      split at h
      · simp at h
      · split_ifs at h
        · simp at h
        · rw [List.mem_singleton.mp h]
          rfl
        · rw [List.mem_singleton.mp h]
          rfl
  | pollSlot k poll reject => exact pollSlot_origin h
  | call net name call =>
      rcases List.mem_append.mp h with h | h
      · obtain ⟨-, heffects⟩ | ⟨slot, state, hcall, -, htagged⟩ :=
          call_at_owner (R := R) (s := s) net name call
        · rw [heffects] at h
          simp at h
        · obtain ⟨name', seen, rfl⟩ := htagged _ h
          exact Or.inr ⟨net, name, call, slot, state, rfl, rfl, hcall⟩
      · rw [List.mem_singleton.mp h]
        exact ⟨net, rfl, rfl⟩
  | opened expectedCount => simp [muxStepMachine] at h
  | started ok => simp [muxStepMachine] at h
  | stop =>
      rw [List.mem_singleton.mp h]
      rfl

/-! ## Owners and flags -/

theorem owner_of_update {name : String} {g : GoalId}
    {v : Option (UInt64 × GoalOwnerState)} (h : OwnersUpdate s s' name g v)
    {a : String} {g' : GoalId} {w : UInt64 × GoalOwnerState}
    (howner : s'.owner a g' = some w) :
    (a = name ∧ g' = g ∧ v = some w) ∨ s.owner a g' = some w := by
  rw [h.owner_eq] at howner
  split_ifs at howner with hgoal
  · exact Or.inl ⟨hgoal.1, hgoal.2, howner⟩
  · exact Or.inr howner

/-- A Goal waits for a decision when it did so before, and no disconnect of a
connection with its id is handled now, or when it is exposed now. -/
theorem StepCase.pending_of {obs : List MuxObs}
    (hcase : StepCase strict s s' obs) {a : String} {g : GoalId} {c : UInt64}
    (h : s'.owner a g = some (c, .pending)) :
    (s.owner a g = some (c, .pending) ∧
        ∀ k, .processed k ∈ obs → ticket k ≠ c) ∨
      ∃ k event, .event k a event ∈ obs ∧ event.type = .goalRequest ∧
        ticket k = c := by
  have hcalm : ∀ {obs}, Calm obs → ∀ k, .processed k ∈ obs → ticket k ≠ c :=
    fun hobs k hk => absurd hk (hobs.processed_notMem k)
  have hevent : ∀ {obs k' name event}, Quiet obs →
      ∀ k, .processed k ∈ obs ++ [.event k' name event] → ticket k ≠ c := by
    intro obs k' name event hobs k hk
    have hmem : .processed k ∈ obs := by simpa using hk
    exact absurd hmem (hobs.calm.processed_notMem k)
  have hupdate : ∀ {name g' v}, OwnersUpdate s s' name g' v →
      (∀ w, v = some w → w.2 = .active ∨ s.owner name g' = v) →
      s.owner a g = some (c, .pending) := by
    intro name g' v howners hv
    rcases owner_of_update howners h with ⟨rfl, rfl, rfl⟩ | h
    · rcases hv _ rfl with hactive | hsame
      · simp at hactive
      · exact hsame
    · exact h
  cases hcase with
  | same hslots howners hissued hquiet =>
      rw [owner_congr howners] at h
      exact Or.inl ⟨h, hcalm hquiet.calm⟩
  | touched htouched hqueue hquiet =>
      rw [owner_congr htouched.owners_eq] at h
      exact Or.inl ⟨h, hcalm hquiet.calm⟩
  | called htouched hqueue hcall hrouted hquiet =>
      rw [owner_congr htouched.owners_eq] at h
      exact Or.inl ⟨h, hcalm (hquiet.calm_returned _ _ _)⟩
  | canceled htouched hqueue htype haccepted hquiet =>
      rw [owner_congr htouched.owners_eq] at h
      exact Or.inl ⟨h, hevent hquiet⟩
  | runtimeCanceled htouched hsplit hqueue haccepted hquiet =>
      rw [owner_congr htouched.owners_eq] at h
      exact Or.inl ⟨h, hevent hquiet⟩
  | stale htouched hsplit hqueue hstanding hquiet =>
      rw [owner_congr htouched.owners_eq] at h
      exact Or.inl ⟨h, hevent hquiet⟩
  | @exposed _ slot _ _ _ event hmoved hlive hqueue htype habsent hfree hquiet =>
      rcases owner_of_update hmoved.owners h with ⟨rfl, rfl, hv⟩ | h
      · simp only [Option.some.injEq, Prod.mk.injEq, and_true] at hv
        rw [← hv]
        exact Or.inr ⟨slot.number, event, by simp, htype, slot.id_eq.symm⟩
      · exact Or.inl ⟨h, hevent hquiet⟩
  | duplicate hmoved hqueue habsent howned hv hstrict hquiet =>
      exact Or.inl ⟨hupdate hmoved.owners fun _ _ => Or.inr howned,
        hcalm hquiet.calm⟩
  | accepted hmoved hqueue hconnected hrouted hquiet =>
      refine Or.inl ⟨hupdate hmoved.owners ?_,
        hcalm (hquiet.calm_returned _ _ _)⟩
      intro w hw
      rw [← Option.some.inj hw]
      exact Or.inl rfl
  | rejected hmoved hqueue hrouted hundecided hquiet =>
      exact Or.inl ⟨hupdate hmoved.owners (by simp),
        hcalm (hquiet.calm_returned _ _ _)⟩
  | completed hmoved hqueue hrouted hquiet =>
      exact Or.inl ⟨hupdate hmoved.owners (by simp),
        hcalm (hquiet.calm_returned _ _ _)⟩
  | reclaimed hmoved hqueue hslot hretired hid hprocessed howners hlast hrouted
      hquiet =>
      rw [owner_congr howners] at h
      refine Or.inl ⟨?_, hcalm (hquiet.calm_returned _ _ _)⟩
      rcases owner_of_update hmoved.owners h with ⟨-, -, hv⟩ | h
      · simp at hv
      · exact h
  | connected hnumber hwf hunprocessed hstanding hqueue hslots howners hissued =>
      rw [owner_congr howners] at h
      exact Or.inl ⟨h, by simp⟩
  | @orphaned _ slot _ hslot hunprocessed hprocessed hretired hstanding hqueue
      howner hkeys =>
      rw [howner] at h
      split_ifs at h with hpending
      refine Or.inl ⟨h, ?_⟩
      simp only [List.mem_singleton, MuxObs.processed.injEq]
      rintro k rfl hid
      rw [slot.id_eq, hid] at hpending
      exact hpending h
  | @abandoned _ slot _ hslot hretired hunprocessed hprocessed hinactive howner
      hkeys =>
      rw [howner] at h
      split_ifs at h with hpending
      refine Or.inl ⟨h, ?_⟩
      simp only [List.mem_singleton, MuxObs.processed.injEq]
      rintro k rfl hid
      rw [slot.id_eq, hid] at hpending
      exact hpending h
  | stopped hslots howners hissued =>
      rw [owner, findOwner, howners] at h
      simp at h

/-- An accepted Goal stays until it completes or the server stops. -/
theorem StepCase.active_kept {obs : List MuxObs}
    (hcase : StepCase strict s s' obs) {a : String} {g : GoalId} {c : UInt64}
    (h : s.owner a g = some (c, .active)) :
    s'.owner a g = some (c, .active) ∨ ∃ o ∈ obs, Completes a g o := by
  have hkept : s'.owners = s.owners → s'.owner a g = some (c, .active) := by
    intro howners
    rw [owner_congr howners]
    exact h
  have hupdate : ∀ {name g' v}, OwnersUpdate s s' name g' v →
      ¬(a = name ∧ g = g') → s'.owner a g = some (c, .active) := by
    intro name g' v howners hgoal
    rw [howners.owner_eq, if_neg hgoal]
    exact h
  cases hcase with
  | same hslots howners => exact Or.inl (hkept howners)
  | touched htouched => exact Or.inl (hkept htouched.owners_eq)
  | called htouched => exact Or.inl (hkept htouched.owners_eq)
  | canceled htouched => exact Or.inl (hkept htouched.owners_eq)
  | runtimeCanceled htouched => exact Or.inl (hkept htouched.owners_eq)
  | stale htouched => exact Or.inl (hkept htouched.owners_eq)
  | exposed hmoved hlive hqueue htype habsent hfree =>
      refine Or.inl (hupdate hmoved.owners ?_)
      rintro ⟨rfl, rfl⟩
      rw [h] at hfree
      simp at hfree
  | duplicate hmoved hqueue habsent howned =>
      refine Or.inl ?_
      rw [hmoved.owners.owner_eq]
      split_ifs with hgoal
      · rw [← howned, ← hgoal.1, ← hgoal.2]
        exact h
      · exact h
  | accepted hmoved hqueue hconnected hrouted =>
      refine Or.inl (hupdate hmoved.owners ?_)
      rintro ⟨rfl, rfl⟩
      have howner := hrouted.owner_eq
      rw [h] at howner
      simp at howner
  | rejected hmoved hqueue hrouted =>
      refine Or.inl (hupdate hmoved.owners ?_)
      rintro ⟨rfl, rfl⟩
      have howner := hrouted.owner_eq
      rw [h] at howner
      simp at howner
  | @completed _ _ _ _ name goal status pdu hmoved =>
      by_cases hgoal : a = name ∧ g = goal.goalId
      · obtain ⟨rfl, rfl⟩ := hgoal
        exact Or.inr ⟨_, by simp, Or.inr ⟨goal, status, pdu, rfl, rfl⟩⟩
      · exact Or.inl (hupdate hmoved.owners hgoal)
  | @reclaimed t _ _ _ _ _ _ name goal status pdu hmoved hqueue hslot hretired
      hid hprocessed howners =>
      by_cases hgoal : a = name ∧ g = goal.goalId
      · obtain ⟨rfl, rfl⟩ := hgoal
        exact Or.inr ⟨_, by simp, Or.inr ⟨goal, status, pdu, rfl, rfl⟩⟩
      · rw [owner_congr howners, hmoved.owners.owner_eq, if_neg hgoal]
        exact Or.inl h
  | connected hnumber hwf hunprocessed hstanding hqueue hslots howners =>
      exact Or.inl (hkept howners)
  | orphaned hslot hunprocessed hprocessed hretired hstanding hqueue howner =>
      refine Or.inl ?_
      rw [howner, if_neg (by simp [h])]
      exact h
  | abandoned hslot hretired hunprocessed hprocessed hinactive howner =>
      refine Or.inl ?_
      rw [howner, if_neg (by simp [h])]
      exact h
  | stopped hslots howners hissued => exact Or.inr ⟨_, by simp, Or.inl rfl⟩

theorem SlotUpdate.map_processed {slot slot' : ConnectionSlot}
    (h : SlotUpdate s s' slot slot')
    (hprocessed : slot'.disconnectProcessed = slot.disconnectProcessed)
    (k : ℕ) :
    (s'.slotAt k).map (·.disconnectProcessed) =
      (s.slotAt k).map (·.disconnectProcessed) := by
  rw [h.slotAt_eq]
  split_ifs with hk
  · rw [hk, h.found, Option.map_some, Option.map_some, hprocessed]
  · rfl

/-- The mark of a handled disconnect is set when it is handled. -/
theorem StepCase.processed_of {obs : List MuxObs}
    (hcase : StepCase strict s s' obs) {k : ℕ} {slot slot' : ConnectionSlot}
    (hfound : s.slotAt k = some slot) (hfound' : s'.slotAt k = some slot') :
    slot'.disconnectProcessed = slot.disconnectProcessed ∨
      .processed k ∈ obs := by
  have hkept : (s'.slotAt k).map (·.disconnectProcessed) =
      (s.slotAt k).map (·.disconnectProcessed) →
      slot'.disconnectProcessed = slot.disconnectProcessed ∨
        .processed k ∈ obs := by
    intro hsame
    rw [hfound, hfound'] at hsame
    exact Or.inl (Option.some.inj hsame)
  have htouched : ∀ {old new}, SlotUpdate s s' old new →
      new.disconnectProcessed = old.disconnectProcessed →
      slot'.disconnectProcessed = slot.disconnectProcessed ∨
        .processed k ∈ obs :=
    fun hslot hprocessed => hkept (hslot.map_processed hprocessed k)
  have hnow : ∀ {old new}, SlotUpdate s s' old new →
      slot'.disconnectProcessed = slot.disconnectProcessed ∨
        k = old.number := by
    intro old new hslot
    rw [hslot.slotAt_eq] at hfound'
    split_ifs at hfound' with hk
    · exact Or.inr hk
    · rw [hfound] at hfound'
      rw [Option.some.inj hfound']
      exact Or.inl rfl
  cases hcase with
  | same hslots => exact hkept (by rw [slotAt_congr hslots])
  | touched h => exact htouched h.toSlotUpdate h.processed_eq
  | called h => exact htouched h.toSlotUpdate h.processed_eq
  | canceled h => exact htouched h.toSlotUpdate h.processed_eq
  | runtimeCanceled h => exact htouched h.toSlotUpdate h.processed_eq
  | stale h => exact htouched h.toSlotUpdate h.processed_eq
  | exposed h => exact htouched h.toSlotUpdate h.processed_eq
  | duplicate h => exact htouched h.toSlotUpdate h.processed_eq
  | accepted h => exact htouched h.toSlotUpdate h.processed_eq
  | rejected h => exact htouched h.toSlotUpdate h.processed_eq
  | completed h => exact htouched h.toSlotUpdate h.processed_eq
  | reclaimed hmoved hqueue hslot hretired hid hprocessed =>
      exact hkept ((hslot.map_processed hprocessed k).trans
        (hmoved.map_processed hmoved.processed_eq k))
  | connected hnumber hwf hunprocessed hstanding hqueue hslots =>
      unfold slotAt at hfound hfound'
      rw [hslots, lookup_append_singleton, hfound] at hfound'
      rw [Option.some_or, Option.some.injEq] at hfound'
      rw [hfound']
      exact Or.inl rfl
  | orphaned hslot =>
      rcases hnow hslot with hsame | rfl
      · exact Or.inl hsame
      · exact Or.inr (by simp)
  | abandoned hslot =>
      rcases hnow hslot with hsame | rfl
      · exact Or.inl hsame
      · exact Or.inr (by simp)
  | stopped hslots =>
      rw [slotAt, hslots] at hfound'
      simp at hfound'

/-- The transport delivers no packet of a connection after it has set its
disconnected flag. -/
def Orderly (s : ActionServicesMuxServer) : MuxStep → Prop
  | .transport (.receive k _ _) =>
      ∀ slot ∈ s.slotAt k, slot.disconnected = false
  | _ => True

instance decidableOrderly (s : ActionServicesMuxServer) :
    (j : MuxStep) → Decidable (Orderly s j)
  | .transport (.receive k _ _) =>
      inferInstanceAs (Decidable (∀ slot ∈ s.slotAt k,
        slot.disconnected = false))
  | .transport (.disconnect _) | .acceptConnection _ _ | .processSlot _
  | .pollSlot _ _ _ | .call _ _ _ | .opened _ | .started _ | .stop =>
      isTrue trivial

/-- What holds in every state that an orderly transport leads to: a connection
whose disconnect was handled has no packets.  While no id is handed out twice,
it has no undecided Goals either, and it is not retired as long as it has an
accepted one. -/
structure Settled (s : ActionServicesMuxServer) : Prop extends Accounts s where
  drained : ∀ {k slot}, s.slotAt k = some slot →
    slot.disconnectProcessed = true → slot.server.Drained
  decided : s.Unwrapped → ∀ {k slot}, s.slotAt k = some slot →
    slot.disconnectProcessed = true →
    ∀ a g, s.owner a g ≠ some (slot.connectionId, .pending)
  owning : s.Unwrapped → ∀ {k slot}, s.slotAt k = some slot →
    slot.disconnectProcessed = true → slot.retired = false →
    ∃ a g, s.owner a g = some (slot.connectionId, .active)

section Settled

variable (h : s.Settled) {j : MuxStep}

include h

theorem Settled.drained_step (hj : Orderly s j) {k : ℕ}
    {slot' : ConnectionSlot}
    (hfound : ((muxStepMachine R).step s j).1.slotAt k = some slot')
    (hprocessed : slot'.disconnectProcessed = true) :
    slot'.server.Drained := by
  obtain ⟨slot, hslot, hstep⟩ | ⟨capacity, root, -, -, rfl⟩ :=
    slotAt_step (R := R) h.toAccounts j hfound
  · refine hstep.drained (h.slots hslot) ?_ (h.drained hslot) hprocessed
    rintro key data rfl
    rw [slotAt_number hslot] at hj
    exact hj slot hslot
  · simp [newSlot] at hprocessed

/-- The connection was there before, and its disconnect was handled before or is
handled now. -/
theorem Settled.processed_before {k : ℕ} {slot' : ConnectionSlot}
    (hfound : ((muxStepMachine R).step s j).1.slotAt k = some slot')
    (hprocessed : slot'.disconnectProcessed = true) :
    ∃ slot, s.slotAt k = some slot ∧ SlotStep R j slot slot' ∧
      (slot.disconnectProcessed = true ∨
        .processed k ∈ ((muxStepMachine R).step s j).2) := by
  obtain ⟨slot, hslot, hstep⟩ | ⟨capacity, root, -, -, rfl⟩ :=
    slotAt_step (R := R) h.toAccounts j hfound
  · refine ⟨slot, hslot, hstep, ?_⟩
    rcases (step_case (R := R) h.toWellFormed j).processed_of hslot hfound with
      hsame | hnow
    · exact Or.inl (hsame ▸ hprocessed)
    · exact Or.inr hnow
  · simp [newSlot] at hprocessed

theorem Settled.decided_step
    (hu : ((muxStepMachine R).step s j).1.Unwrapped) {k : ℕ}
    {slot' : ConnectionSlot}
    (hfound : ((muxStepMachine R).step s j).1.slotAt k = some slot')
    (hprocessed : slot'.disconnectProcessed = true) (a : String) (g : GoalId) :
    ((muxStepMachine R).step s j).1.owner a g ≠
      some (slot'.connectionId, .pending) := by
  intro hpending
  have hcase := step_case (R := R) h.toWellFormed j
  have hu₀ : s.Unwrapped := hcase.issued_le.trans hu
  obtain ⟨slot, hslot, hstep, hbefore⟩ :=
    h.processed_before hfound hprocessed
  have hnumber := slotAt_number hslot
  rw [hstep.id_eq] at hpending
  rcases hcase.pending_of hpending with ⟨howner, hnow⟩ |
    ⟨k', event, hevent, htype, hid⟩
  · rcases hbefore with hbefore | hbefore
    · exact h.decided hu₀ hslot hbefore a g howner
    · apply hnow k hbefore
      rw [← hnumber, slot.id_eq]
  · -- the services report a Goal Request, so they have packets
    have horigin := step_origin hevent
    have hk : k' = k := by
      have hlt := hcase.event_lt h.toWellFormed hevent
      rw [← hnumber]
      exact ticket_inj hu₀ hlt (hnumber ▸ h.fresh hslot)
        (hid.trans slot.id_eq)
    obtain ⟨poll, reject, polled, rfl, hpolled, hlive, hresult⟩ := horigin
    rw [hk, hslot, Option.some.injEq] at hpolled
    subst hpolled
    rcases hbefore with hbefore | hbefore
    · exact (h.drained hslot hbefore).poll_ne_goalRequest
        (h.slots hslot).server (h.slots hslot).queue hresult htype
    · have horigin := step_origin hbefore
      simp [Origin] at horigin

/-- A connection whose disconnect was handled and that is not retired has an
accepted Goal after the step. -/
theorem Settled.owning_step
    (hu : ((muxStepMachine R).step s j).1.Unwrapped) {k : ℕ}
    {slot' : ConnectionSlot}
    (hfound : ((muxStepMachine R).step s j).1.slotAt k = some slot')
    (hprocessed : slot'.disconnectProcessed = true)
    (hlive : slot'.retired = false) :
    ∃ a g, ((muxStepMachine R).step s j).1.owner a g =
      some (slot'.connectionId, .active) := by
  have hcase := step_case (R := R) h.toWellFormed j
  have hu₀ : s.Unwrapped := hcase.issued_le.trans hu
  obtain ⟨slot, hslot, hstep, hbefore⟩ :=
    h.processed_before hfound hprocessed
  have hid := hstep.id_eq
  have hnumber := slotAt_number hslot
  rcases hbefore with hbefore | hbefore
  · have hlive' : slot.retired = false := by
      by_contra hretired
      rw [hstep.retired (Bool.eq_true_of_not_eq_false hretired)] at hlive
      simp at hlive
    obtain ⟨a, g, howner⟩ := h.owning hu₀ hslot hbefore hlive'
    rcases hcase.active_kept howner with hkept | ⟨o, ho, rfl | hdone⟩
    · rw [hid]
      exact ⟨a, g, hkept⟩
    · have hstop : j = .stop := step_origin ho
      subst hstop
      simp [muxStepMachine, stop, slotAt] at hfound
    · -- the last Goal retires the connection, so there is another one
      obtain ⟨goal, status, pdu, rfl, rfl⟩ := hdone
      obtain ⟨net, rfl, hok⟩ := step_origin ho
      have hrouted : Routed s slot a goal.goalId .active :=
        ⟨howner, h.findSlot_of_slotAt hu₀ hslot⟩
      obtain ⟨c, -, hresult, -, hafter⟩ := slotAt_complete (R := R)
        h.toWellFormed net status pdu hrouted.activeSlot_eq
      have horphaned : slot.orphaned = true := by
        rcases (h.accounted hslot).handled hbefore with horphaned | hretired
        · exact horphaned
        · rw [hlive'] at hretired
          simp at hretired
      have hshared : (s.complete R net a goal status pdu).state.owners.any
          (fun owner => owner.connectionId = slot.connectionId) = true := by
        by_contra hlast
        rw [← hnumber] at hfound
        have hretired := hafter.symm.trans hfound
        rw [if_pos ⟨hresult ▸ hok, Bool.eq_false_of_not_eq_true hlast,
          horphaned⟩] at hretired
        rw [← Option.some.inj hretired] at hlive
        simp at hlive
      simp only [List.any_eq_true, decide_eq_true_eq] at hshared
      obtain ⟨⟨a', g', c', state⟩, hmem, rfl⟩ := hshared
      have hkeys := (h.toInvariant.stepCase hcase).keys
      have howner' := (mem_owners_iff hkeys a' g' _ state).mp hmem
      rw [← hid] at howner'
      cases state with
      | pending =>
          exact absurd howner' (h.decided_step hu hfound hprocessed a' g')
      | active => exact ⟨a', g', howner'⟩
  · obtain rfl : j = .processSlot k := step_origin hbefore
    rw [hid]
    cases hactive : s.hasActiveOwner slot.connectionId with
    | true =>
        simp only [hasActiveOwner, List.any_eq_true, decide_eq_true_eq]
          at hactive
        obtain ⟨⟨a, g, c, state⟩, hmem, rfl, rfl⟩ := hactive
        have howner := (mem_owners_iff h.keys a g _ _).mp hmem
        rcases hcase.active_kept howner with hkept | ⟨o, ho, rfl | hdone⟩
        · exact ⟨a, g, hkept⟩
        · have hstop := step_origin ho
          simp [Origin] at hstop
        · obtain ⟨goal, status, pdu, rfl, rfl⟩ := hdone
          obtain ⟨net, hcall, -⟩ := step_origin ho
          simp at hcall
    | false =>
        have hretired : slot'.retired = true := by
          simp only [muxStepMachine] at hbefore hfound
          by_cases hskip : ¬slot.disconnected ∨ slot.disconnectProcessed
          · rw [processSlot, hslot] at hbefore
            dsimp only at hbefore
            rw [if_pos hskip] at hbefore
            simp at hbefore
          · rw [slotAt_processSlot_self hslot hskip, hactive] at hfound
            rw [← Option.some.inj hfound]
            rfl
        rw [hlive] at hretired
        simp at hretired

theorem Settled.step (hj : Orderly s j) :
    ((muxStepMachine R).step s j).1.Settled where
  toAccounts := h.toAccounts.step j
  drained := h.drained_step hj
  decided hu := h.decided_step hu
  owning hu := h.owning_step hu

end Settled

theorem settled_constructed
    (nodeId actionConfigPath endpointMuxConfigPath implType : String)
    (deltaTimeUsec : UInt64) :
    (constructed nodeId actionConfigPath endpointMuxConfigPath implType
      deltaTimeUsec).Settled where
  toAccounts := accounts_constructed nodeId actionConfigPath
    endpointMuxConfigPath implType deltaTimeUsec
  drained := by simp [constructed, slotAt]
  decided := by simp [constructed, slotAt]
  owning := by simp [constructed, slotAt]

/-! ## Capacity -/

/-- Connections are accepted for the capacity of the multiplexer. -/
def AcceptsForMux (s : ActionServicesMuxServer) : MuxStep → Prop
  | .acceptConnection capacity _ => s.mux = some capacity
  | _ => True

theorem mux_transport (event : TransportEvent) :
    (s.transport event).mux = s.mux := by
  cases event <;> rfl

theorem mux_acceptConnection (capacity : ℕ) (document : Option Json) :
    (s.acceptConnection R capacity document).state.mux = s.mux := by
  unfold acceptConnection
  split_ifs
  · rfl
  · cases document with
    | none => rfl
    | some root =>
        dsimp only
        split_ifs <;> rfl

theorem along_acceptSteps {capacity : ℕ} (hmux : s.mux = some capacity)
    (arrivals : List Arrival) :
    (muxStepMachine R).Along AcceptsForMux s
      (acceptSteps capacity arrivals) := by
  have hquiet : ∀ {s : ActionServicesMuxServer} {events : List TransportEvent},
      (muxStepMachine R).Along AcceptsForMux s (events.map .transport) := by
    intro s events
    refine (muxStepMachine R).along_of_forall ?_ s
    intro j hj s
    obtain ⟨event, -, rfl⟩ := List.mem_map.mp hj
    trivial
  have hevents : ∀ (s : ActionServicesMuxServer)
      (events : List TransportEvent), (s.transportAll events).mux = s.mux := by
    intro s events
    induction events generalizing s with
    | nil => rfl
    | cons event events ih => exact (ih _).trans (mux_transport event)
  induction arrivals generalizing s with
  | nil => trivial
  | cons arrival rest ih =>
      have hbefore := runs_transport (R := R) s arrival.before
      have hmux' : (s.transportAll arrival.before).mux = some capacity :=
        (hevents s arrival.before).trans hmux
      simp only [acceptSteps, List.flatMap_cons]
      refine Machine.Along.append _ (Machine.Along.append _ hquiet ?_) ?_
      · rw [hbefore.run_eq]
        split_ifs
        · exact ⟨hmux', trivial⟩
        · trivial
      · rw [Machine.run_append, hbefore.run_eq]
        refine ih ?_
        split_ifs
        · exact (mux_acceptConnection capacity arrival.document).trans hmux'
        · exact hmux'

/-- Every input of the server accepts connections for its multiplexer. -/
theorem stepsSatisfy_acceptsForMux (s : ActionServicesMuxServer)
    (i : MuxInput) : StepsSatisfy R AcceptsForMux s i := by
  have hpass : ∀ (t u : ActionServicesMuxServer) (events : List TransportEvent),
      (muxStepMachine R).Along AcceptsForMux t (passSteps u events) := by
    intro t u events
    refine (muxStepMachine R).along_of_forall ?_ t
    intro j hj s
    rcases List.mem_append.mp hj with hj | hj
    · obtain ⟨event, -, rfl⟩ := List.mem_map.mp hj
      trivial
    · obtain ⟨k, -, rfl⟩ := List.mem_map.mp hj
      trivial
  have hpoll : ∀ (env : ℕ → SlotEnv) (t u : ActionServicesMuxServer)
      (ids : List ℕ), (muxStepMachine R).Along AcceptsForMux t
        (pollSteps R env u ids) := by
    intro env t u ids
    induction ids generalizing t u with
    | nil => trivial
    | cons k ids ih =>
        have hhere : ∀ t, (muxStepMachine R).Along AcceptsForMux t
            ((env k).before.map .transport ++
              [.pollSlot k (env k).poll (env k).reject]) := by
          intro t
          refine (muxStepMachine R).along_of_forall ?_ t
          intro j hj s
          rcases List.mem_append.mp hj with hj | hj
          · obtain ⟨event, -, rfl⟩ := List.mem_map.mp hj
            trivial
          · rw [List.mem_singleton.mp hj]
            trivial
        rw [pollSteps]
        split
        · exact hhere t
        · exact Machine.Along.append _ (hhere t) (ih _ _)
  unfold StepsSatisfy
  cases i with
  | transport event => exact ⟨trivial, trivial⟩
  | poll env =>
      simp only [steps]
      cases hmux : s.mux with
      | none => trivial
      | some capacity =>
          dsimp only
          split_ifs
          · refine Machine.Along.append _ (Machine.Along.append _
              (Machine.Along.append _ (along_acceptSteps hmux _)
                (hpass _ _ _)) (hpoll _ _ _ _)) ?_
            split
            · trivial
            · exact hpass _ _ _
          · trivial
  | call net actionName call => exact ⟨trivial, trivial⟩
  | opened expectedCount => exact ⟨trivial, trivial⟩
  | started ok => exact ⟨trivial, trivial⟩
  | stop => exact ⟨trivial, trivial⟩

theorem connectedSlotCount_eq (hwf : s.WellFormed) :
    s.connectedSlotCount = (s.slots.map (·.number)).countP fun k =>
      (s.slotAt k).any fun slot => ¬slot.disconnected := by
  rw [connectedSlotCount, List.countP_map]
  refine List.countP_congr ?_
  intro slot hslot
  simp [hwf.slotAt_of_mem hslot]

/-- The connections of a server after a step that introduces none. -/
theorem StepCase.numbers_eq {obs : List MuxObs}
    (hcase : StepCase strict s s' obs)
    (hconnected : ∀ k id, .connected k id ∉ obs) (hstopped : .stopped ∉ obs) :
    s'.slots.map (·.number) = s.slots.map (·.number) := by
  cases hcase with
  | same hslots => rw [hslots]
  | touched h => exact h.numbers_eq
  | called h => exact h.numbers_eq
  | canceled h => exact h.numbers_eq
  | runtimeCanceled h => exact h.numbers_eq
  | stale h => exact h.numbers_eq
  | exposed h => exact h.numbers_eq
  | duplicate h => exact h.numbers_eq
  | accepted h => exact h.numbers_eq
  | rejected h => exact h.numbers_eq
  | completed h => exact h.numbers_eq
  | reclaimed hmoved hqueue hslot =>
      exact hslot.numbers_eq.trans hmoved.numbers_eq
  | connected => exact absurd List.mem_cons_self (hconnected _ _)
  | orphaned hslot => exact hslot.numbers_eq
  | abandoned hslot => exact hslot.numbers_eq
  | stopped => exact absurd (by simp) hstopped

theorem SlotStep.disconnected_mono {j : MuxStep} {slot slot' : ConnectionSlot}
    (hstep : SlotStep R j slot slot') (h : slot'.disconnected = false) :
    slot.disconnected = false := by
  cases hstep with
  | disconnected => simp at h
  | _ => exact h

/-- Live connections only become fewer, unless a connection comes. -/
theorem connectedSlotCount_step (h : s.Accounts) {j : MuxStep}
    (hj : ∀ capacity document, j ≠ .acceptConnection capacity document)
    (hstop : j ≠ .stop) :
    ((muxStepMachine R).step s j).1.slots.map (·.number) =
        s.slots.map (·.number) ∧
      ((muxStepMachine R).step s j).1.connectedSlotCount ≤
        s.connectedSlotCount := by
  have hcase := step_case (R := R) h.toWellFormed j
  have hnumbers := hcase.numbers_eq
    (fun k id hk => by
      obtain ⟨capacity, document, hcapacity⟩ := step_origin hk
      exact hj capacity document hcapacity)
    (fun hk => hstop (step_origin hk))
  refine ⟨hnumbers, ?_⟩
  rw [connectedSlotCount_eq h.toWellFormed,
    connectedSlotCount_eq (h.stepCase hcase).toWellFormed, hnumbers]
  refine List.countP_mono_left ?_
  intro k _ hlive
  cases hfound : ((muxStepMachine R).step s j).1.slotAt k with
  | none => simp [hfound] at hlive
  | some slot' =>
      have hlive' : slot'.disconnected = false := by
        simpa [hfound] using hlive
      obtain ⟨slot, hslot, hstep⟩ | ⟨capacity, root, hcapacity, -, -⟩ :=
        slotAt_step (R := R) h j hfound
      · have hbefore := SlotStep.disconnected_mono hstep hlive'
        simp [hslot, hbefore]
      · exact absurd hcapacity (hj _ _)

/-- The number of live connections is within the capacity of the
multiplexer. -/
structure Capacity (s : ActionServicesMuxServer) : Prop where
  closed : s.mux = none → s.slots = []
  bounded : ∀ {capacity}, s.mux = some capacity →
    s.connectedSlotCount ≤ capacity

theorem Capacity.accept (h : s.Capacity) {capacity : ℕ}
    (hmux : s.mux = some capacity) (document : Option Json) :
    (s.acceptConnection R capacity document).state.Capacity := by
  have hsame : s.takeConnectionId.Capacity := ⟨h.closed, h.bounded⟩
  unfold acceptConnection
  by_cases hfull : capacity ≤ s.connectedSlotCount
  · rw [if_pos hfull]
    exact h
  · rw [if_neg hfull]
    cases document with
    | none => exact hsame
    | some root =>
        dsimp only
        split_ifs
        · constructor
          · intro hclosed
            simp only [takeConnectionId] at hclosed
            rw [hmux] at hclosed
            simp at hclosed
          · intro capacity' hmux'
            simp only [takeConnectionId] at hmux'
            rw [hmux, Option.some.injEq] at hmux'
            rw [← hmux']
            have hroom := Nat.lt_of_not_le hfull
            unfold connectedSlotCount at hroom ⊢
            rw [List.countP_append]
            have hone := List.countP_le_length
              (p := fun slot : ConnectionSlot => ¬slot.disconnected)
              (l := [s.newSlot (ActionServicesServer.initializeServices R
                { nodeId := s.nodeId, implType := s.implType }
                (fun _ => true) root).state])
            rw [List.length_singleton] at hone
            omega
        · exact hsame

theorem mux_step {j : MuxStep} (hopened : ∀ count, j ≠ .opened count)
    (hstop : j ≠ .stop) : ((muxStepMachine R).step s j).1.mux = s.mux := by
  cases j with
  | transport event => exact mux_transport event
  | acceptConnection capacity document =>
      exact mux_acceptConnection capacity document
  | processSlot k =>
      simp only [muxStepMachine, processSlot]
      split
      · rfl
      · split_ifs <;> rfl
  | pollSlot k poll reject =>
      simp only [muxStepMachine, pollSlot]
      repeat' (first | rfl | split)
  | call net name call =>
      simp only [muxStepMachine]
      cases call <;>
        simp only [ActionServicesMuxServer.call, acceptGoal, rejectGoal,
          routeActiveGoal, sendFeedback, complete, reclaimOrphanedSlot] <;>
        repeat' (first | rfl | split)
  | opened expectedCount => exact absurd rfl (hopened expectedCount)
  | started ok =>
      simp only [muxStepMachine, startMux]
      repeat' (first | rfl | split)
  | stop => exact absurd rfl hstop

theorem Capacity.step (h : s.Capacity) (hinv : s.Accounts) (j : MuxStep)
    (hj : AcceptsForMux s j) : ((muxStepMachine R).step s j).1.Capacity := by
  have hkept : (∀ capacity document, j ≠ .acceptConnection capacity document) →
      (∀ count, j ≠ .opened count) → j ≠ .stop →
      ((muxStepMachine R).step s j).1.Capacity := by
    intro haccept hopened hstop
    obtain ⟨hnumbers, hcount⟩ := connectedSlotCount_step (R := R) hinv haccept
      hstop
    have hmux := mux_step (R := R) (s := s) hopened hstop
    constructor
    · intro hnone
      rw [hmux] at hnone
      rw [h.closed hnone] at hnumbers
      simpa using hnumbers
    · intro capacity hsome
      rw [hmux] at hsome
      exact hcount.trans (h.bounded hsome)
  cases j with
  | acceptConnection capacity document => exact h.accept hj document
  | opened expectedCount =>
      simp only [muxStepMachine, initializeMux]
      split_ifs with hopen
      · exact h
      · exact h
      · have hslots := h.closed (by simpa using hopen)
        split
        · exact h
        · exact h
        · constructor
          · simp
          · simp [connectedSlotCount, hslots]
  | stop => exact ⟨fun _ => rfl, by simp [muxStepMachine, stop]⟩
  | transport event => exact hkept (by simp) (by simp) (by simp)
  | processSlot k => exact hkept (by simp) (by simp) (by simp)
  | pollSlot k poll reject => exact hkept (by simp) (by simp) (by simp)
  | call net name call => exact hkept (by simp) (by simp) (by simp)
  | started ok => exact hkept (by simp) (by simp) (by simp)

/-! ## The accounts of the connections -/

/-- The accounts of the connections are in order. -/
structure SlotAccounting (s : ActionServicesMuxServer) : Prop where
  /-- A connection whose disconnect was handled is kept for its accepted
  Goals. -/
  live_iff : s.Unwrapped → ∀ slot ∈ s.slots, slot.disconnectProcessed = true →
    (slot.retired = false ↔ ∃ owner ∈ s.owners,
      owner.connectionId = slot.connectionId ∧ owner.state = .active)
  /-- A retired connection has no Goals and no bindings. -/
  retired : ∀ slot ∈ s.slots, slot.retired = true →
    ∀ name inst, slot.server.getAction name = some inst →
      inst.goals = [] ∧ ∀ g, inst.endpoint.packetBindings.find? g = none
  /-- It has no owners. -/
  unowned : s.Unwrapped → ∀ slot ∈ s.slots, slot.retired = true →
    ∀ owner ∈ s.owners, owner.connectionId ≠ slot.connectionId
  /-- The live connections are within the capacity of the multiplexer. -/
  bounded : ∀ capacity, s.mux = some capacity →
    s.connectedSlotCount ≤ capacity
  /-- Orphaned and retired connections do not count. -/
  uncounted : ∀ slot ∈ s.slots, slot.orphaned = true ∨ slot.retired = true →
    slot.disconnected = true

/-- A connection is refused, so that it does not even get an id, only when the
multiplexer has as many live ones as it expects. -/
def RefusesWhenFull (R : PduRegistry) (s : ActionServicesMuxServer) :
    MuxStep → Prop
  | .acceptConnection capacity document =>
      s.mux = some capacity ∧
        ((s.acceptConnection R capacity document).state.nextConnectionId =
            s.nextConnectionId →
          s.connectedSlotCount = capacity)
  | _ => True

/-- A counter that hands out an id changes. -/
theorem next_ne {n : UInt64} : n + 1 ≠ n := by
  intro h
  have hnat := congrArg UInt64.toNat h
  have hlt := n.toNat_lt
  rw [UInt64.toNat_add] at hnat
  have hone : (1 : UInt64).toNat = 1 := rfl
  omega

/-- The observation is made at a connection. -/
def AtConnection (k : ℕ) : MuxObs → Prop
  | .connection k' _ _ | .event k' _ _ => k' = k
  | .connected _ _ | .processed _ | .returned _ _ _ | .stopped => False

theorem standing_absent_iff {server : ActionServicesServer}
    (hinv : server.Invariant) {name : String} {inst : ServerActionInstance}
    (hget : server.getAction name = some inst) :
    (∀ g, server.standing name g = .absent) ↔
      inst.goals = [] ∧ ∀ g, inst.endpoint.packetBindings.find? g = none := by
  have hinst := hinv.actions inst (lookup_mem hget)
  have hstanding : ∀ g, server.standing name g = inst.standing g :=
    fun g => ActionServicesServer.standingIn_of_lookup hget g
  constructor
  · intro habsent
    constructor
    · cases hgoals : inst.goals with
      | nil => rfl
      | cons goal rest =>
          have haccepted : inst.standing goal.goal.goalId = .accepted := by
            rw [ServerActionInstance.standing_eq_accepted,
              ServerActionInstance.context, ServerActionInstance.getGoal,
              hgoals]
            simp [lookup_cons]
          rw [← hstanding, habsent] at haccepted
          simp at haccepted
    · intro g
      have hbinding := (ServerActionInstance.standing_eq_absent hinst
        (g := g)).mp ((hstanding g).symm.trans (habsent g))
      exact hbinding
  · rintro ⟨-, hbindings⟩ g
    rw [hstanding, ServerActionInstance.standing_eq_absent hinst]
    exact hbindings g

theorem Settled.slotAccounting (h : s.Settled) (hcapacity : s.Capacity) :
    SlotAccounting s := by
  have hfound : ∀ slot ∈ s.slots, s.slotAt slot.number = some slot :=
    fun slot hslot => h.slotAt_of_mem hslot
  -- the owners of a connection keep it from being retired
  have hkept : s.Unwrapped → ∀ slot ∈ s.slots, ∀ owner ∈ s.owners,
      owner.connectionId = slot.connectionId → slot.retired = false := by
    rintro hu slot hslot ⟨a, g, c, state⟩ hmem rfl
    have howner := (mem_owners_iff h.keys a g _ _).mp hmem
    exact (((h.agreement hu).agrees (hfound slot hslot)).owned howner).1
  constructor
  · intro hu slot hslot hprocessed
    constructor
    · intro hlive
      obtain ⟨a, g, howner⟩ := h.owning hu (hfound slot hslot) hprocessed hlive
      exact ⟨_, lookup_mem (findOwner_of_owner howner), rfl, rfl⟩
    · rintro ⟨owner, hmem, hid, -⟩
      exact hkept hu slot hslot owner hmem hid
  · intro slot hslot hretired name inst hget
    have hcleared := (h.accounted (hfound slot hslot)).cleared hretired
    exact (standing_absent_iff (h.slots (hfound slot hslot)).server hget).mp
      fun g => hcleared name g
  · intro hu slot hslot hretired owner hmem hid
    rw [hkept hu slot hslot owner hmem hid] at hretired
    simp at hretired
  · intro capacity hmux
    exact hcapacity.bounded hmux
  · intro slot hslot hmark
    have haccounted := h.accounted (hfound slot hslot)
    refine (h.slots (hfound slot hslot)).processed ?_
    by_contra hunprocessed
    obtain ⟨horphaned, hretired⟩ :=
      haccounted.unprocessed (Bool.eq_false_of_not_eq_true hunprocessed)
    rw [horphaned, hretired] at hmark
    simp at hmark

/-- A connection is done with: it is retired, or the server has stopped. -/
structure Done (s : ActionServicesMuxServer) (k : ℕ) : Prop where
  used : k < s.issued
  retired : ∀ {slot}, s.slotAt k = some slot → slot.retired = true

theorem Done.step {k : ℕ} (h : s.Done k) (hinv : s.Accounts)
    (j : MuxStep) : ((muxStepMachine R).step s j).1.Done k where
  used := lt_of_lt_of_le h.used
    (step_case (R := R) hinv.toWellFormed j).issued_le
  retired := by
    intro slot' hfound
    obtain ⟨slot, hslot, hstep⟩ | ⟨capacity, root, -, hk, -⟩ :=
      slotAt_step (R := R) hinv j hfound
    · exact hstep.retired (h.retired hslot)
    · have hused := h.used
      omega

/-- Nothing is seen any more of a connection that is done with. -/
theorem Done.silent {k : ℕ} (h : s.Done k) (hinv : s.Accounts)
    {j : MuxStep} {o : MuxObs} (ho : o ∈ ((muxStepMachine R).step s j).2) :
    ¬AtConnection k o := by
  have horigin := step_origin ho
  intro hat
  cases o with
  | connection k' name seen =>
      obtain rfl : k' = k := hat
      rcases horigin with ⟨poll, reject, slot, -, hfound, hlive⟩ |
        ⟨net, name', call, slot, state, -, hnumber, hcall⟩
      · rw [h.retired hfound] at hlive
        simp at hlive
      · have hfound := hcall.slotAt_eq hinv.toWellFormed
        have hlive := hinv.live_of_call hcall
        rw [h.retired (hnumber ▸ hfound)] at hlive
        simp at hlive
  | event k' name event =>
      obtain rfl : k' = k := hat
      obtain ⟨poll, reject, slot, -, hfound, hlive, -⟩ := horigin
      rw [h.retired hfound] at hlive
      simp at hlive
  | connected k' id => exact hat
  | processed k' => exact hat
  | returned name call ok => exact hat
  | stopped => exact hat

theorem Done.run {k : ℕ} (h : s.Done k) (hinv : s.Accounts)
    (js : List MuxStep) :
    ∀ o ∈ (muxStepMachine R).trace s js, ¬AtConnection k o := by
  have halways : (muxStepMachine R).Along (fun _ _ => True) s js :=
    (muxStepMachine R).along_of_forall (fun _ _ _ => trivial) s
  have hrun := (muxStepMachine R).trace_invariant (C := fun _ _ => True)
    (I := fun s seen => (s.Accounts ∧ s.Done k) ∧
      ∀ o ∈ seen, ¬AtConnection k o)
    (fun s seen j _ hs => by
      refine ⟨⟨hs.1.1.step j, hs.1.2.step hs.1.1 j⟩, ?_⟩
      intro o ho
      rcases List.mem_append.mp ho with ho | ho
      · exact hs.2 o ho
      · exact hs.1.2.silent hs.1.1 ho)
    ⟨⟨hinv, h⟩, by simp⟩ halways
  exact hrun.2

/-- In every run in which the transport delivers no packets of a disconnected
connection, the accounts of the connections are in order at every moment at
which at most `2 ^ 64` ids have been handed out, connections are refused only
when the multiplexer is full, and nothing is seen any more of a retired
connection. -/
theorem mux_slot_accounting (R : PduRegistry)
    (nodeId actionConfigPath endpointMuxConfigPath implType : String)
    (deltaTimeUsec : UInt64) (is : List MuxInput)
    (horderly : (muxMachine R).Along (StepsSatisfy R Orderly)
      (constructed nodeId actionConfigPath endpointMuxConfigPath implType
        deltaTimeUsec) is) :
    let start := constructed nodeId actionConfigPath endpointMuxConfigPath
      implType deltaTimeUsec
    (muxMachine R).Along (StepsSatisfy R fun s j =>
        SlotAccounting s ∧ RefusesWhenFull R s j) start is ∧
      SlotAccounting ((muxMachine R).run start is) ∧
      ∀ past later, is = past ++ later →
        ∀ slot ∈ ((muxMachine R).run start past).slots, slot.retired = true →
        ∀ o ∈ (muxMachine R).trace ((muxMachine R).run start past) later,
          ¬AtConnection slot.number o := by
  intro start
  have hadmitted : (muxMachine R).Along (StepsSatisfy R fun s j =>
      Orderly s j ∧ AcceptsForMux s j) start is := by
    have haccepts : (muxMachine R).Along
        (StepsSatisfy R AcceptsForMux) start is :=
      (muxMachine R).along_of_forall
        (fun i _ s => stepsSatisfy_acceptsForMux s i) start
    refine (Machine.Along.and _ horderly haccepts).mono _ ?_
    exact fun s i hi => Machine.Along.and _ hi.1 hi.2
  have hstep : ∀ s j, Orderly s j ∧ AcceptsForMux s j →
      s.Settled ∧ s.Capacity →
      ((muxStepMachine R).step s j).1.Settled ∧
        ((muxStepMachine R).step s j).1.Capacity :=
    fun s j hj hs => ⟨hs.1.step hj.1, hs.2.step hs.1.toAccounts j hj.2⟩
  have hstart : start.Settled ∧ start.Capacity :=
    ⟨settled_constructed nodeId actionConfigPath endpointMuxConfigPath implType
      deltaTimeUsec, ⟨fun _ => rfl, by simp [start, constructed]⟩⟩
  refine ⟨?_, ?_, ?_⟩
  · refine (stepsSatisfy_before hstep hstart hadmitted).mono _ ?_
    refine fun s i hi => Machine.Along.mono _ ?_ hi
    intro s j hj
    refine ⟨hj.1.1.slotAccounting hj.1.2, ?_⟩
    cases j with
    | acceptConnection capacity document =>
        refine ⟨hj.2.2, ?_⟩
        intro hrefused
        refine le_antisymm (hj.1.2.bounded hj.2.2) ?_
        by_contra hroom
        unfold acceptConnection at hrefused
        rw [if_neg hroom] at hrefused
        cases document with
        | none => exact next_ne hrefused
        | some root =>
            dsimp only at hrefused
            split_ifs at hrefused <;> exact next_ne hrefused
    | _ => trivial
  · obtain ⟨js, halong, hstate, -⟩ := exists_steps R hadmitted
    obtain ⟨hsettled, hcapacity⟩ :=
      (muxStepMachine R).invariant hstep hstart halong
    rw [hstate]
    exact hsettled.slotAccounting hcapacity
  · rintro past later - slot hslot hretired
    have htrivial : ∀ s is, (muxMachine R).Along
        (StepsSatisfy R fun _ _ => True) s is := fun s is =>
      (muxMachine R).along_of_forall (fun _ _ _ =>
        (muxStepMachine R).along_of_forall (fun _ _ _ => trivial) _) s
    obtain ⟨js, -, hstate, -⟩ := exists_steps R (htrivial start past)
    obtain ⟨js', -, -, htrace⟩ := exists_steps R
      (htrivial ((muxMachine R).run start past) later)
    have hinv : ((muxMachine R).run start past).Accounts := by
      rw [hstate]
      exact hstart.1.toAccounts.run js
    have hfound := hinv.slotAt_of_mem hslot
    have hdone : ((muxMachine R).run start past).Done slot.number := by
      refine ⟨hinv.fresh hfound, ?_⟩
      intro slot' hslot'
      rw [hfound, Option.some.injEq] at hslot'
      rw [← hslot']
      exact hretired
    rw [htrace]
    exact hdone.run hinv js'

/-- The application ends a Goal. -/
def sampleComplete (g : GoalId) : MuxInput :=
  .call (fun _ _ => true) "fibonacci" (.complete ⟨g⟩ .aborted samplePacket)

/-- The connection is retired when its kept Goal ends, and there is room for
another one. -/
theorem retiredConnection_accounted :
    let is := disconnectedGoals ++ [sampleComplete sampleGoalId,
      samplePoll 1 2 true]
    ((muxMachine sampleRegistry).run sampleMux is).slots.map (fun slot =>
        (slot.connectionId, slot.disconnected, slot.retired)) =
      [(1, true, true), (2, false, false)] ∧
    SlotAccounting ((muxMachine sampleRegistry).run sampleMux is) :=
  ⟨by decide +kernel,
    (mux_slot_accounting sampleRegistry "fibonacci-server" "action.json"
      "mux.json" "ActionServerEndpointImpl" 1000
      (disconnectedGoals ++ [sampleComplete sampleGoalId,
        samplePoll 1 2 true]) (by decide +kernel)).2.1⟩

/-! ### An id that is handed out again -/

/-- While a connection with a kept Goal is left, another one with its id
requests the other Goal; then the kept one ends. -/
def reusedId : List MuxInput :=
  wrapped disconnectedGoals
    [samplePoll 1 2 true,
      .transport (.receive (2 ^ 64) ⟨"fibonacci", 0⟩
        (otherRequest requestKindGoal)),
      samplePoll 0 2 true, sampleComplete sampleGoalId]

/-- Attempts to connect bring no packets. -/
theorem orderly_failToConnect (s : ActionServicesMuxServer) :
    StepsSatisfy R Orderly s failToConnect := by
  have hpoll (env : ℕ → SlotEnv) (henv : ∀ k, (env k).before = [])
      (t : ActionServicesMuxServer) (numbers : List ℕ)
      (event : TransportEvent) :
      .transport event ∉ pollSteps R env t numbers := by
    induction numbers generalizing t with
    | nil => simp [pollSteps]
    | cons k rest ih =>
        rw [pollSteps]
        split
        · simp [henv]
        · simp [henv, ih]
  have hsteps (event : TransportEvent) :
      .transport event ∉ steps R s failToConnect := by
    simp only [steps, failToConnect]
    split
    · simp
    · split_ifs
      · simp [acceptSteps, passSteps, hpoll]
        split <;> simp
      · simp
  refine (muxStepMachine R).along_of_forall ?_ s
  intro j hj t
  cases j with
  | transport event => exact absurd hj (hsteps event)
  | acceptConnection | processSlot | pollSlot | call | opened | started | stop =>
      trivial

/-- The connection is handled and not retired, and has no accepted Goal. -/
theorem reusedId_unaccounted :
    let s := (muxMachine sampleRegistry).run sampleMux reusedId
    (muxMachine sampleRegistry).Along (StepsSatisfy sampleRegistry Orderly)
        sampleMux reusedId ∧
      ¬∀ slot ∈ s.slots, slot.disconnectProcessed = true →
        (slot.retired = false ↔ ∃ owner ∈ s.owners,
          owner.connectionId = slot.connectionId ∧ owner.state = .active) := by
  have hidle : ((muxMachine sampleRegistry).run sampleMux
      disconnectedGoals).Idle :=
    ⟨by decide +kernel, by decide +kernel, by decide +kernel⟩
  intro s
  constructor
  · refine Machine.Along.append _ (by decide +kernel) (Machine.Along.append _
      ?_ ?_)
    · refine (muxMachine sampleRegistry).along_of_forall ?_ _
      intro i hi s
      rw [List.eq_of_mem_replicate hi]
      exact orderly_failToConnect s
    · rw [(hidle.run_failToConnect (wellFormed_sample _) _).1]
      decide +kernel
  · simp only [s, reusedId, (run_wrapped hidle _).1]
    decide +kernel

end ActionServicesMuxServer

end HakoPduRpc.Action
