import HakoPduRpc.Action.MuxRouting

/-!
# Disconnects

When the disconnect of a connection is handled, each of its Goals is discarded
or kept: discarded when the application has not accepted it yet, kept until it
completes otherwise.  A Runtime Cancel is queued once for a kept Goal and never
for a discarded one.

`Lawful` says when an observation can be made, and `History` relates the queues
of the connections to what was seen.
-/

namespace HakoPduRpc.Action

open KeyedList Tickets

namespace ActionServicesMuxServer

variable {R : PduRegistry} {strict : Prop} {s s' : ActionServicesMuxServer}

/-! ## When observations are made -/

/-- What an observation says of the server at which it is made. -/
def Lawful (s : ActionServicesMuxServer) : MuxObs → Prop
  | .event k name event =>
      (event.type = .goalRequest → s.owner name event.goal.goalId = none) ∧
      (event.type = .cancelRequest ∨ event.type = .runtimeCancelRequest →
        s.owner name event.goal.goalId = some (ticket k, .active))
  | .returned name (.acceptGoal goal) true
  | .returned name (.rejectGoal goal) true =>
      ∃ c, s.owner name goal.goalId = some (c, .pending)
  | .returned name call true =>
      ∃ c, s.owner name call.goal.goalId = some (c, .active)
  | .processed k =>
      ∃ slot, s.slotAt k = some slot ∧ slot.disconnectProcessed = false
  | .connected k id => k = s.issued ∧ id = s.nextConnectionId
  | .returned _ _ false | .connection _ _ _ | .stopped => True

theorem Quiet.lawful {obs : List MuxObs} (h : Quiet obs) {o : MuxObs}
    (ho : o ∈ obs) : Lawful s o := by
  rcases h o ho with ⟨k, name, seen, rfl⟩ | ⟨name, call, rfl⟩
  · trivial
  · cases call <;> trivial

/-- Before an observation of a quiet step only quiet ones are made. -/
theorem quiet_before {obs pre post : List MuxObs} {last o : MuxObs}
    (h : Quiet obs) (hsplit : obs ++ [last] = pre ++ o :: post)
    (hlast : Lawful s last) :
    Quiet pre ∧ Lawful s o := by
  rw [List.append_eq_append_iff] at hsplit
  rcases hsplit with ⟨rest, rfl, hrest⟩ | ⟨rest, rfl, hrest⟩
  · cases rest with
    | nil =>
        simp only [List.nil_append, List.cons.injEq] at hrest
        rw [List.append_nil, ← hrest.1]
        exact ⟨h, hlast⟩
    | cons o' rest => simp at hrest
  · have hpre : Quiet pre := fun o' ho' => h o' (List.mem_append_left _ ho')
    refine ⟨hpre, ?_⟩
    cases rest with
    | nil =>
        simp only [List.nil_append, List.cons.injEq] at hrest
        rw [hrest.1]
        exact hlast
    | cons o' rest =>
        simp only [List.cons_append, List.cons.injEq] at hrest
        rw [hrest.1]
        exact h.lawful (by simp)

theorem Quiet.split {obs pre post : List MuxObs} {o : MuxObs} (h : Quiet obs)
    (hsplit : obs = pre ++ o :: post) : Quiet pre ∧ Lawful s o := by
  subst hsplit
  exact ⟨fun o' ho' => h o' (List.mem_append_left _ ho'), h.lawful (by simp)⟩

/-- Every observation of a step is lawful, and follows quiet ones. -/
theorem StepCase.lawful (hinv : s.Invariant strict) {obs pre post : List MuxObs}
    {o : MuxObs} (hcase : StepCase strict s s' obs)
    (hsplit : obs = pre ++ o :: post) : Quiet pre ∧ Lawful s o := by
  cases hcase with
  | same hslots howners hissued hquiet => exact hquiet.split hsplit
  | touched htouched hqueue hquiet => exact hquiet.split hsplit
  | duplicate hmoved hqueue habsent howned hv hstrict hquiet =>
      exact hquiet.split hsplit
  | @called _ _ _ _ _ call htouched hqueue hcall hrouted hquiet =>
      refine quiet_before hquiet hsplit ?_
      cases call <;> first | exact hcall.elim | exact ⟨_, hrouted.owner_eq⟩
  | canceled htouched hqueue htype haccepted hquiet =>
      refine quiet_before hquiet hsplit ⟨by simp [htype], fun _ => ?_⟩
      rw [← ConnectionSlot.id_eq]
      exact (hinv.accepted htouched.found haccepted).owner_eq
  | @runtimeCanceled _ slot _ _ _ _ event htouched hqueued hqueue haccepted
      hquiet =>
      have htype : event.type = .runtimeCancelRequest :=
        (hinv.slots htouched.found).queue.type_eq event (by simp [hqueued])
      refine quiet_before hquiet hsplit ⟨by simp [htype], fun _ => ?_⟩
      rw [← ConnectionSlot.id_eq]
      exact (hinv.accepted htouched.found haccepted).owner_eq
  | stale htouched hqueued hqueue hstanding hquiet =>
      exact quiet_before hquiet hsplit ⟨by simp, by simp⟩
  | exposed hmoved hlive hqueue htype habsent hfree hquiet =>
      exact quiet_before hquiet hsplit ⟨fun _ => hfree, by simp [htype]⟩
  | accepted hmoved hqueue hconnected hrouted hquiet =>
      exact quiet_before hquiet hsplit ⟨_, hrouted.owner_eq⟩
  | rejected hmoved hqueue hrouted hundecided hquiet =>
      exact quiet_before hquiet hsplit ⟨_, hrouted.owner_eq⟩
  | completed hmoved hqueue hrouted hquiet =>
      exact quiet_before hquiet hsplit ⟨_, hrouted.owner_eq⟩
  | reclaimed hmoved hqueue hslot hretired hid hprocessed howners hlast hrouted
      hquiet =>
      exact quiet_before hquiet hsplit ⟨_, hrouted.owner_eq⟩
  | @connected _ slot hnumber hwf hunprocessed hstanding hqueue hslots howners
      hissued =>
      refine quiet_before quiet_nil hsplit ⟨hnumber, ?_⟩
      rw [slot.id_eq, hnumber, s.next_eq]
  | orphaned hslot hunprocessed hprocessed hretired hstanding hqueue howner
      hkeys =>
      exact quiet_before quiet_nil hsplit ⟨_, hslot.found, hunprocessed⟩
  | abandoned hslot hretired hunprocessed hprocessed hinactive howner hkeys =>
      exact quiet_before quiet_nil hsplit ⟨_, hslot.found, hunprocessed⟩
  | stopped hslots howners hissued =>
      exact quiet_before quiet_nil hsplit trivial

/-! ## Queues and what was seen -/

/-- The id of the connection that an observation introduces. -/
def connectedId : MuxObs → Option UInt64
  | .connected _ id => some id
  | _ => none

/-- The number of the connection that an observation introduces. -/
def connectedNumber : MuxObs → Option ℕ
  | .connected k _ => some k
  | _ => none

/-- The observation is a Runtime Cancel event for a Goal. -/
def isRuntimeCancel (k : ℕ) (name : String) (g : GoalId) : MuxObs → Bool
  | .event k' name' event =>
      k' = k ∧ name' = name ∧ event.goal.goalId = g ∧
        event.type = .runtimeCancelRequest
  | _ => false

/-- The Goal was accepted when the disconnect of its connection was handled. -/
def KeptBy (k : ℕ) (name : String) (g : GoalId) (seen : List MuxObs) : Prop :=
  ∃ before after, seen = before ++ .processed k :: after ∧
    ownerAfter name g before = some (ticket k, .active)

theorem KeptBy.append {k : ℕ} {name : String} {g : GoalId}
    {seen : List MuxObs} (h : KeptBy k name g seen) (obs : List MuxObs) :
    KeptBy k name g (seen ++ obs) := by
  obtain ⟨before, after, rfl, howner⟩ := h
  exact ⟨before, after ++ obs, by simp, howner⟩

theorem KeptBy.processed_mem {k : ℕ} {name : String} {g : GoalId}
    {seen : List MuxObs} (h : KeptBy k name g seen) : .processed k ∈ seen := by
  obtain ⟨before, after, rfl, -⟩ := h
  simp

/-- The observations introduce no connection, handle no disconnect and report
no Runtime Cancel. -/
def Calm (obs : List MuxObs) : Prop :=
  ∀ o ∈ obs, (∀ k id, o ≠ .connected k id) ∧ (∀ k, o ≠ .processed k) ∧
    ∀ k name g, isRuntimeCancel k name g o = false

theorem Quiet.calm {obs : List MuxObs} (h : Quiet obs) : Calm obs := by
  intro o ho
  rcases h o ho with ⟨k, name, seen, rfl⟩ | ⟨name, call, rfl⟩ <;>
    exact ⟨by simp, by simp, fun _ _ _ => rfl⟩

theorem Quiet.calm_append {obs : List MuxObs} (h : Quiet obs) {o : MuxObs}
    (ho : ∀ k id, o ≠ .connected k id) (hprocessed : ∀ k, o ≠ .processed k)
    (hcancel : ∀ k name g, isRuntimeCancel k name g o = false) :
    Calm (obs ++ [o]) := by
  intro o' ho'
  rcases List.mem_append.mp ho' with ho' | ho'
  · exact h.calm o' ho'
  · rw [List.mem_singleton.mp ho']
    exact ⟨ho, hprocessed, hcancel⟩

theorem Quiet.calm_returned {obs : List MuxObs} (h : Quiet obs) (name : String)
    (call : MuxCall) (ok : Bool) : Calm (obs ++ [.returned name call ok]) :=
  h.calm_append (by simp) (by simp) fun _ _ _ => rfl

theorem Quiet.calm_event {obs : List MuxObs} (h : Quiet obs) (k : ℕ)
    (name : String) {event : ServerEvent}
    (htype : event.type ≠ .runtimeCancelRequest) :
    Calm (obs ++ [.event k name event]) :=
  h.calm_append (by simp) (by simp) (by simp [isRuntimeCancel, htype])

theorem Calm.countP_eq {obs : List MuxObs} (h : Calm obs) (k : ℕ)
    (name : String) (g : GoalId) :
    obs.countP (isRuntimeCancel k name g) = 0 := by
  rw [List.countP_eq_zero]
  intro o ho
  rw [(h o ho).2.2]
  simp

theorem Calm.filterMap_connected {obs : List MuxObs} (h : Calm obs) :
    obs.filterMap connectedId = [] ∧ obs.filterMap connectedNumber = [] := by
  rw [List.filterMap_eq_nil_iff, List.filterMap_eq_nil_iff]
  constructor
  · intro o ho
    cases o with
    | connected k id => exact absurd rfl ((h _ ho).1 k id)
    | _ => rfl
  · intro o ho
    cases o with
    | connected k id => exact absurd rfl ((h _ ho).1 k id)
    | _ => rfl

/-- The observations that introduce connections are those of before. -/
theorem Calm.filterMap_append {obs : List MuxObs} (h : Calm obs)
    (seen : List MuxObs) :
    (seen ++ obs).filterMap connectedId = seen.filterMap connectedId ∧
      (seen ++ obs).filterMap connectedNumber =
        seen.filterMap connectedNumber := by
  simp [List.filterMap_append, h.filterMap_connected]

theorem Calm.processed_notMem {obs : List MuxObs} (h : Calm obs) (k : ℕ) :
    .processed k ∉ obs :=
  fun hk => (h _ hk).2.1 k rfl

/-- The connections and their queues only lose something. -/
structure Shrinks (s s' : ActionServicesMuxServer) : Prop where
  issued_le : s.issued ≤ s'.issued
  slots : ∀ {k slot'}, s'.slotAt k = some slot' →
    ∃ slot, s.slotAt k = some slot ∧
      slot'.disconnectProcessed = slot.disconnectProcessed ∧
      slot'.server.pendingRuntimeEvents.Sublist
        slot.server.pendingRuntimeEvents

theorem Shrinks.trans {t : ActionServicesMuxServer} (h : Shrinks s t)
    (h' : Shrinks t s') : Shrinks s s' where
  issued_le := h.issued_le.trans h'.issued_le
  slots := by
    intro k slot'' hslot''
    obtain ⟨slot', hslot', hprocessed', hqueue'⟩ := h'.slots hslot''
    obtain ⟨slot, hslot, hprocessed, hqueue⟩ := h.slots hslot'
    exact ⟨slot, hslot, hprocessed'.trans hprocessed, hqueue'.trans hqueue⟩

theorem SlotUpdate.shrinks {slot slot' : ConnectionSlot}
    (h : SlotUpdate s s' slot slot')
    (hprocessed : slot'.disconnectProcessed = slot.disconnectProcessed)
    (hqueue : slot'.server.pendingRuntimeEvents.Sublist
      slot.server.pendingRuntimeEvents) : Shrinks s s' where
  issued_le := h.issued_eq.ge
  slots := by
    intro k found hfound
    rw [h.slotAt_eq] at hfound
    split_ifs at hfound with hk
    · obtain rfl := Option.some.inj hfound
      exact ⟨slot, hk ▸ h.found, hprocessed, hqueue⟩
    · exact ⟨found, hfound, rfl, List.Sublist.refl _⟩

/-- How the queues of the connections belong to what was seen. -/
structure History (s : ActionServicesMuxServer) (seen : List MuxObs) : Prop
    extends Follows False s seen where
  connected_eq : seen.filterMap connectedId =
    (seen.filterMap connectedNumber).map ticket
  connected_nodup : (seen.filterMap connectedNumber).Nodup
  connected_lt : ∀ {k}, k ∈ seen.filterMap connectedNumber → k < s.issued
  processed_lt : ∀ {k}, .processed k ∈ seen → k < s.issued
  processed : ∀ {k slot}, .processed k ∈ seen → s.slotAt k = some slot →
    slot.disconnectProcessed = true
  queued : ∀ {k slot}, s.slotAt k = some slot →
    ∀ event ∈ slot.server.pendingRuntimeEvents,
      KeptBy k event.actionName event.goal.goalId seen
  canceled : ∀ {k name g}, 0 < seen.countP (isRuntimeCancel k name g) →
    KeptBy k name g seen
  once : ∀ k name g, seen.countP (isRuntimeCancel k name g) ≤ 1
  queued_once : ∀ {k slot}, s.slotAt k = some slot → ∀ name g,
    seen.countP (isRuntimeCancel k name g) +
      slot.server.pendingRuntimeEvents.countP
        (fun event => event.key = (name, g)) ≤ 1

/-- A step that only loses something. -/
theorem History.calm {seen obs : List MuxObs} (h : History s seen)
    (hfollows : Follows False s' (seen ++ obs)) (hcalm : Calm obs)
    (hshrinks : Shrinks s s') : History s' (seen ++ obs) where
  toFollows := hfollows
  connected_eq := by
    rw [(hcalm.filterMap_append seen).1, (hcalm.filterMap_append seen).2]
    exact h.connected_eq
  connected_nodup := by
    rw [(hcalm.filterMap_append seen).2]
    exact h.connected_nodup
  connected_lt := by
    intro k hk
    rw [(hcalm.filterMap_append seen).2] at hk
    exact lt_of_lt_of_le (h.connected_lt hk) hshrinks.issued_le
  processed_lt := by
    intro k hk
    rcases List.mem_append.mp hk with hk | hk
    · exact lt_of_lt_of_le (h.processed_lt hk) hshrinks.issued_le
    · exact absurd hk (hcalm.processed_notMem k)
  processed := by
    intro k slot' hk hslot'
    obtain ⟨slot, hslot, hprocessed, -⟩ := hshrinks.slots hslot'
    rcases List.mem_append.mp hk with hk | hk
    · exact hprocessed.trans (h.processed hk hslot)
    · exact absurd hk (hcalm.processed_notMem k)
  queued := by
    intro k slot' hslot' event hevent
    obtain ⟨slot, hslot, -, hqueue⟩ := hshrinks.slots hslot'
    exact (h.queued hslot event (hqueue.subset hevent)).append obs
  canceled := by
    intro k name g hcount
    rw [List.countP_append, hcalm.countP_eq] at hcount
    exact (h.canceled hcount).append obs
  once := by
    intro k name g
    rw [List.countP_append, hcalm.countP_eq]
    exact h.once k name g
  queued_once := by
    intro k slot' hslot' name g
    obtain ⟨slot, hslot, -, hqueue⟩ := hshrinks.slots hslot'
    have hle := hqueue.countP_le (p := fun event => event.key = (name, g))
    have hold := h.queued_once hslot name g
    rw [List.countP_append, hcalm.countP_eq]
    omega

theorem countP_key_le_one {queue : List ServerEvent}
    (h : ActionServicesServer.RuntimeQueue queue) (key : String × GoalId) :
    queue.countP (fun event => event.key = key) ≤ 1 := by
  have hcount := List.nodup_iff_count_le_one.mp h.nodup key
  rw [List.count_eq_countP, List.countP_map] at hcount
  refine le_trans (List.countP_mono_left ?_) hcount
  intro event _ hevent
  simpa using hevent

/-- The disconnect of a connection is handled: the queue is filled with events
for its accepted Goals. -/
theorem History.processedStep {seen : List MuxObs} (h : History s seen)
    {slot slot' : ConnectionSlot} (hslot : SlotUpdate s s' slot slot')
    (hfollows : Follows False s' (seen ++ [.processed slot.number]))
    (hunprocessed : slot.disconnectProcessed = false)
    (hprocessed : slot'.disconnectProcessed = true)
    (hqueue : ∀ event ∈ slot'.server.pendingRuntimeEvents,
      s.owner event.actionName event.goal.goalId =
        some (slot.connectionId, .active)) :
    History s' (seen ++ [.processed slot.number]) := by
  have hnew : .processed slot.number ∉ seen := by
    intro hmem
    rw [h.processed hmem hslot.found] at hunprocessed
    simp at hunprocessed
  have hcount : ∀ k name g,
      (seen ++ [MuxObs.processed slot.number]).countP
        (isRuntimeCancel k name g) =
      seen.countP (isRuntimeCancel k name g) := by
    intro k name g
    rw [List.countP_append]
    rfl
  have hconnected : (seen ++ [MuxObs.processed slot.number]).filterMap
      connectedNumber = seen.filterMap connectedNumber := by
    rw [List.filterMap_append]
    exact List.append_nil _
  have hzero : ∀ name g,
      seen.countP (isRuntimeCancel slot.number name g) = 0 := by
    intro name g
    by_contra hpos
    exact hnew (h.canceled (Nat.pos_of_ne_zero hpos)).processed_mem
  constructor
  · exact hfollows
  · rw [hconnected, List.filterMap_append]
    exact (List.append_nil _).trans h.connected_eq
  · rw [hconnected]
    exact h.connected_nodup
  · intro k hk
    rw [hconnected] at hk
    rw [hslot.issued_eq]
    exact h.connected_lt hk
  · intro k hk
    rw [hslot.issued_eq]
    rcases List.mem_append.mp hk with hk | hk
    · exact h.processed_lt hk
    · simp only [List.mem_singleton, MuxObs.processed.injEq] at hk
      rw [hk]
      exact h.fresh hslot.found
  · intro k found hk hfound
    rw [hslot.slotAt_eq] at hfound
    split_ifs at hfound with hid
    · rw [← Option.some.inj hfound]
      exact hprocessed
    · rcases List.mem_append.mp hk with hk | hk
      · exact h.processed hk hfound
      · simp only [List.mem_singleton, MuxObs.processed.injEq] at hk
        exact absurd hk hid
  · intro k found hfound event hevent
    rw [hslot.slotAt_eq] at hfound
    split_ifs at hfound with hid
    · rw [← Option.some.inj hfound] at hevent
      refine ⟨seen, [], by rw [hid], ?_⟩
      rw [h.follow, hid, ← slot.id_eq]
      exact hqueue event hevent
    · exact (h.queued hfound event hevent).append _
  · intro k name g hpos
    rw [hcount] at hpos
    exact (h.canceled hpos).append _
  · intro k name g
    rw [hcount]
    exact h.once k name g
  · intro k found hfound name g
    rw [hcount]
    rw [hslot.slotAt_eq] at hfound
    split_ifs at hfound with hid
    · rw [← Option.some.inj hfound, hid, hzero, Nat.zero_add]
      exact countP_key_le_one hslot.wellFormed.queue (name, g)
    · exact h.queued_once hfound name g

/-- A queued Runtime Cancel event is reported. -/
theorem History.canceledStep {seen obs : List MuxObs} (h : History s seen)
    {slot slot' : ConnectionSlot} {dropped rest : List ServerEvent}
    {event : ServerEvent} (htouched : Touched s s' slot slot')
    (hsplit : slot.server.pendingRuntimeEvents = dropped ++ event :: rest)
    (hqueue : slot'.server.pendingRuntimeEvents = rest) (hquiet : Quiet obs)
    (hfollows : Follows False s' (seen ++
      (obs ++ [.event slot.number event.actionName event]))) :
    History s' (seen ++
      (obs ++ [.event slot.number event.actionName event])) := by
  have hkept := h.queued htouched.found event (by simp [hsplit])
  have htype : event.type = .runtimeCancelRequest :=
    (h.slots htouched.found).queue.type_eq event (by simp [hsplit])
  have hcount : ∀ k name g,
      (seen ++ (obs ++ [MuxObs.event slot.number event.actionName
        event])).countP (isRuntimeCancel k name g) =
      seen.countP (isRuntimeCancel k name g) +
        if slot.number = k ∧ event.key = (name, g) then 1 else 0 := by
    intro k name g
    simp only [List.countP_append, hquiet.calm.countP_eq, Nat.zero_add,
      List.countP_singleton, isRuntimeCancel, htype, and_true,
      ServerEvent.key, Prod.mk.injEq, decide_eq_true_eq]
  have hevents : ∀ name g,
      slot.server.pendingRuntimeEvents.countP
        (fun event => event.key = (name, g)) =
      dropped.countP (fun event => event.key = (name, g)) +
        (rest.countP (fun event => event.key = (name, g)) +
          if event.key = (name, g) then 1 else 0) := by
    intro name g
    rw [hsplit, List.countP_append, List.countP_cons]
    simp only [decide_eq_true_eq]
  have hmem : ∀ k, .processed k ∈ seen ++
      (obs ++ [.event slot.number event.actionName event]) →
      .processed k ∈ seen := by
    intro k hk
    rcases List.mem_append.mp hk with hk | hk
    · exact hk
    · rcases List.mem_append.mp hk with hk | hk
      · exact absurd hk (hquiet.calm.processed_notMem k)
      · simp at hk
  have hconnected : (seen ++ (obs ++ [MuxObs.event slot.number
      event.actionName event])).filterMap connectedNumber =
      seen.filterMap connectedNumber := by
    rw [List.filterMap_append, List.filterMap_append,
      hquiet.calm.filterMap_connected.2]
    exact List.append_nil _
  constructor
  · exact hfollows
  · rw [hconnected, List.filterMap_append, List.filterMap_append,
      hquiet.calm.filterMap_connected.1]
    exact (List.append_nil _).trans h.connected_eq
  · rw [hconnected]
    exact h.connected_nodup
  · intro k hk
    rw [hconnected] at hk
    rw [htouched.issued_eq]
    exact h.connected_lt hk
  · intro k hk
    rw [htouched.issued_eq]
    exact h.processed_lt (hmem k hk)
  · intro k found hk hfound
    rw [htouched.slotAt_eq] at hfound
    split_ifs at hfound with hid
    · rw [← Option.some.inj hfound, htouched.processed_eq]
      exact h.processed (hid ▸ hmem k hk) htouched.found
    · exact h.processed (hmem k hk) hfound
  · intro k found hfound queued hqueued
    rw [htouched.slotAt_eq] at hfound
    split_ifs at hfound with hid
    · rw [← Option.some.inj hfound, hqueue] at hqueued
      rw [hid]
      exact (h.queued htouched.found queued (by simp [hsplit, hqueued])).append _
    · exact (h.queued hfound queued hqueued).append _
  · intro k name g hpos
    rw [hcount] at hpos
    split_ifs at hpos with hkey
    · simp only [ServerEvent.key, Prod.mk.injEq] at hkey
      rw [← hkey.1, ← hkey.2.1, ← hkey.2.2]
      exact hkept.append _
    · exact (h.canceled hpos).append _
  · intro k name g
    rw [hcount]
    have hold := h.queued_once htouched.found name g
    rw [hevents] at hold
    split_ifs with hkey
    · rw [← hkey.1]
      rw [if_pos hkey.2] at hold
      omega
    · exact h.once k name g
  · intro k found hfound name g
    rw [hcount]
    rw [htouched.slotAt_eq] at hfound
    split_ifs at hfound with hid
    · have hold := h.queued_once htouched.found name g
      rw [hevents] at hold
      rw [← Option.some.inj hfound, hqueue, hid]
      simp only [true_and]
      omega
    · rw [if_neg fun hkey => hid hkey.1.symm]
      exact h.queued_once hfound name g

/-- A connection comes. -/
theorem History.connectedStep {seen : List MuxObs} (h : History s seen)
    {slot : ConnectionSlot} (hnumber : slot.number = s.issued)
    (hqueue : slot.server.pendingRuntimeEvents = [])
    (hslots : s'.slots = s.slots ++ [slot])
    (hissued : s'.issued = s.issued + 1)
    (hfollows : Follows False s'
      (seen ++ [.connected slot.number slot.connectionId])) :
    History s' (seen ++ [.connected slot.number slot.connectionId]) := by
  have hfind : ∀ {k found}, s'.slotAt k = some found →
      s.slotAt k = some found ∨ k = slot.number ∧ found = slot := by
    intro k found hfound
    unfold slotAt at hfound ⊢
    rw [hslots, lookup_append_singleton, Option.or_eq_some_iff] at hfound
    rcases hfound with hfound | ⟨-, hfound⟩
    · exact Or.inl hfound
    · split_ifs at hfound with hk
      exact Or.inr ⟨hk.symm, (Option.some.inj hfound).symm⟩
  have hcount : ∀ k name g,
      (seen ++ [MuxObs.connected slot.number slot.connectionId]).countP
        (isRuntimeCancel k name g) =
      seen.countP (isRuntimeCancel k name g) := by
    intro k name g
    rw [List.countP_append]
    rfl
  have hconnected : (seen ++ [MuxObs.connected slot.number
      slot.connectionId]).filterMap connectedNumber =
      seen.filterMap connectedNumber ++ [slot.number] := by
    rw [List.filterMap_append]
    rfl
  have hmem : ∀ k, .processed k ∈
      seen ++ [.connected slot.number slot.connectionId] →
      .processed k ∈ seen := by
    intro k hk
    simpa using hk
  constructor
  · exact hfollows
  · rw [hconnected, List.filterMap_append, h.connected_eq, List.map_append,
      List.map_singleton, ← slot.id_eq]
    rfl
  · rw [hconnected, List.nodup_append]
    refine ⟨h.connected_nodup, List.nodup_singleton _, ?_⟩
    intro k hk k' hk'
    rw [List.mem_singleton.mp hk', hnumber]
    exact (h.connected_lt hk).ne
  · intro k hk
    rw [hconnected] at hk
    rw [hissued]
    rcases List.mem_append.mp hk with hk | hk
    · have hlt := h.connected_lt hk
      omega
    · rw [List.mem_singleton.mp hk, hnumber]
      omega
  · intro k hk
    have hlt := h.processed_lt (hmem k hk)
    omega
  · intro k found hk hfound
    rcases hfind hfound with hfound | ⟨rfl, -⟩
    · exact h.processed (hmem k hk) hfound
    · have hlt := h.processed_lt (hmem _ hk)
      omega
  · intro k found hfound event hevent
    rcases hfind hfound with hfound | ⟨-, rfl⟩
    · exact (h.queued hfound event hevent).append _
    · rw [hqueue] at hevent
      simp at hevent
  · intro k name g hpos
    rw [hcount] at hpos
    exact (h.canceled hpos).append _
  · intro k name g
    rw [hcount]
    exact h.once k name g
  · intro k found hfound name g
    rw [hcount]
    rcases hfind hfound with hfound | ⟨-, rfl⟩
    · exact h.queued_once hfound name g
    · rw [hqueue]
      exact h.once k name g

theorem History.step {seen obs : List MuxObs} (h : History s seen)
    (hcase : StepCase False s s' obs) : History s' (seen ++ obs) := by
  have hfollows := h.toFollows.step hcase
  cases hcase with
  | same hslots howners hissued hquiet =>
      refine h.calm hfollows hquiet.calm ⟨hissued, ?_⟩
      intro k found hfound
      rw [slotAt_congr hslots] at hfound
      exact ⟨found, hfound, rfl, List.Sublist.refl _⟩
  | touched htouched hqueue hquiet =>
      refine h.calm hfollows hquiet.calm
        (htouched.shrinks htouched.processed_eq ?_)
      rcases hqueue with hqueue | hqueue <;> rw [hqueue]
      exact List.nil_sublist _
  | called htouched hqueue hcall hrouted hquiet =>
      refine h.calm hfollows (hquiet.calm_returned _ _ _)
        (htouched.shrinks htouched.processed_eq ?_)
      rw [hqueue]
  | canceled htouched hqueue htype haccepted hquiet =>
      refine h.calm hfollows (hquiet.calm_event _ _ (by simp [htype]))
        (htouched.shrinks htouched.processed_eq ?_)
      rw [hqueue]
      exact List.nil_sublist _
  | runtimeCanceled htouched hsplit hqueue haccepted hquiet =>
      exact h.canceledStep htouched hsplit hqueue hquiet hfollows
  | stale htouched hsplit hqueue hstanding hquiet =>
      refine h.calm hfollows (hquiet.calm_event _ _ (by simp))
        (htouched.shrinks htouched.processed_eq ?_)
      rw [hqueue, hsplit]
      exact (List.sublist_cons_self _ _).trans (List.sublist_append_right _ _)
  | exposed hmoved hlive hqueue htype habsent hfree hquiet =>
      refine h.calm hfollows (hquiet.calm_event _ _ (by simp [htype]))
        (hmoved.shrinks hmoved.processed_eq ?_)
      rw [hqueue]
      exact List.nil_sublist _
  | duplicate hmoved hqueue habsent howned hv hstrict hquiet =>
      refine h.calm hfollows hquiet.calm
        (hmoved.shrinks hmoved.processed_eq ?_)
      rw [hqueue]
      exact List.nil_sublist _
  | accepted hmoved hqueue hconnected hrouted hquiet =>
      refine h.calm hfollows (hquiet.calm_returned _ _ _)
        (hmoved.shrinks hmoved.processed_eq ?_)
      rw [hqueue]
  | rejected hmoved hqueue hrouted hundecided hquiet =>
      refine h.calm hfollows (hquiet.calm_returned _ _ _)
        (hmoved.shrinks hmoved.processed_eq ?_)
      rw [hqueue]
  | completed hmoved hqueue hrouted hquiet =>
      refine h.calm hfollows (hquiet.calm_returned _ _ _)
        (hmoved.shrinks hmoved.processed_eq ?_)
      rw [hqueue]
  | reclaimed hmoved hqueue hslot hretired hid hprocessed howners hlast hrouted
      hquiet =>
      refine h.calm hfollows (hquiet.calm_returned _ _ _)
        (Shrinks.trans (hmoved.shrinks hmoved.processed_eq ?_)
          (hslot.shrinks hprocessed ?_))
      · rw [hqueue]
      · rw [hretired.queue_eq]
        exact List.nil_sublist _
  | connected hnumber hwf hunprocessed hstanding hqueue hslots howners hissued =>
      exact h.connectedStep hnumber hqueue hslots hissued hfollows
  | orphaned hslot hunprocessed hprocessed hretired hstanding hqueue howner
      hkeys =>
      refine h.processedStep hslot hfollows hunprocessed hprocessed ?_
      intro event hevent
      have haccepted := hqueue event hevent
      rw [hstanding] at haccepted
      split_ifs at haccepted
      exact (h.accepted hslot.found haccepted).owner_eq
  | abandoned hslot hretired hunprocessed hprocessed hinactive howner hkeys =>
      refine h.processedStep hslot hfollows hunprocessed hprocessed ?_
      rw [hretired.queue_eq]
      simp
  | stopped hslots howners hissued =>
      refine h.calm hfollows ?_ ⟨hissued.ge, ?_⟩
      · exact quiet_nil.calm_append (by simp) (by simp) fun _ _ _ => rfl
      · intro k found hfound
        rw [slotAt, hslots] at hfound
        simp at hfound

theorem history_constructed
    (nodeId actionConfigPath endpointMuxConfigPath implType : String)
    (deltaTimeUsec : UInt64) :
    History (constructed nodeId actionConfigPath endpointMuxConfigPath
      implType deltaTimeUsec) [] := by
  constructor
  · exact follows_constructed False nodeId actionConfigPath
      endpointMuxConfigPath implType deltaTimeUsec
  all_goals simp [constructed, slotAt]

/-- While the counter has not gone round, no id is handed out twice. -/
theorem History.connectedId_nodup {seen : List MuxObs} (h : History s seen)
    (hu : s.Unwrapped) : (seen.filterMap connectedId).Nodup := by
  rw [h.connected_eq]
  refine List.Nodup.map_on ?_ h.connected_nodup
  intro k hk k' hk' hid
  exact ticket_inj hu (h.connected_lt hk) (h.connected_lt hk') hid

theorem History.run (h : History s []) (js : List MuxStep) :
    History ((muxStepMachine R).run s js) ((muxStepMachine R).trace s js) :=
  (muxStepMachine R).trace_invariant (C := fun _ _ => True)
    (fun _ _ j _ hhistory =>
      hhistory.step (step_cases hhistory.toWellFormed j False.elim)) h
    ((muxStepMachine R).along_of_forall (fun _ _ _ => trivial) s)

/-! ## Laws of a trace -/

/-- When an observation of a run is made, it is lawful. -/
theorem History.observed (h : History s []) {js : List MuxStep}
    {before after : List MuxObs} {o : MuxObs}
    (hsplit : (muxStepMachine R).trace s js = before ++ o :: after) :
    ∃ t past pre, before = past ++ pre ∧ Quiet pre ∧ History t past ∧
      Lawful t o := by
  obtain ⟨past, j, future, pre, post, -, hobs, rfl⟩ :=
    (muxStepMachine R).exists_step_of_trace hsplit
  have hpast := h.run (R := R) past
  obtain ⟨hquiet, hlawful⟩ :=
    (step_cases (R := R) hpast.toWellFormed j False.elim).lawful
      hpast.toInvariant hobs
  exact ⟨_, _, pre, rfl, hquiet, hpast, hlawful⟩

theorem Quiet.ownerAfter_append {past pre : List MuxObs} (h : Quiet pre)
    (name : String) (g : GoalId) :
    ownerAfter name g (past ++ pre) = ownerAfter name g past := by
  rw [HakoPduRpc.Action.ownerAfter_append, h.follow]

/-- What can be read from the observations of a run. -/
structure TraceLaws (trace : List MuxObs) : Prop where
  exposed : ∀ {before after k name event},
    trace = before ++ .event k name event :: after →
    event.type = .goalRequest →
    ownerAfter name event.goal.goalId before = none
  decided : ∀ {before after name call}, (∃ goal, call = .acceptGoal goal ∨
      call = .rejectGoal goal) →
    trace = before ++ .returned name call true :: after →
    ∃ c, ownerAfter name call.goal.goalId before = some (c, .pending)
  processed : ∀ {before after k}, trace = before ++ .processed k :: after →
    .processed k ∉ before

theorem History.traceLaws (h : History s []) (js : List MuxStep) :
    TraceLaws ((muxStepMachine R).trace s js) where
  exposed := by
    intro before after k name event hsplit htype
    obtain ⟨t, past, pre, rfl, hquiet, hpast, hlawful⟩ := h.observed hsplit
    rw [hquiet.ownerAfter_append, hpast.follow]
    exact hlawful.1 htype
  decided := by
    rintro before after name call ⟨goal, hcall⟩ hsplit
    obtain ⟨t, past, pre, rfl, hquiet, hpast, hlawful⟩ := h.observed hsplit
    rw [hquiet.ownerAfter_append, hpast.follow]
    rcases hcall with rfl | rfl <;> exact hlawful
  processed := by
    intro before after k hsplit hmem
    obtain ⟨t, past, pre, rfl, hquiet, hpast, slot, hslot, hunprocessed⟩ :=
      h.observed hsplit
    rcases List.mem_append.mp hmem with hmem | hmem
    · rw [hpast.processed hmem hslot] at hunprocessed
      simp at hunprocessed
    · exact hquiet.calm.processed_notMem k hmem

/-- The disconnect of a connection is handled once. -/
theorem TraceLaws.processed_unique {trace before after before' after' :
      List MuxObs} (h : TraceLaws trace) {k : ℕ}
    (hsplit : trace = before ++ .processed k :: after)
    (hsplit' : trace = before' ++ .processed k :: after') :
    before = before' := by
  have hafter : .processed k ∉ after := by
    intro hmem
    obtain ⟨first, last, rfl⟩ := List.append_of_mem hmem
    have hlater : trace =
        (before ++ .processed k :: first) ++ .processed k :: last := by
      rw [hsplit]
      simp
    exact h.processed hlater (by simp)
  rw [hsplit] at hsplit'
  exact ((List.append_cons_inj_of_notMem (h.processed hsplit) hafter).mp
    hsplit').1

/-! ## Goals of a connection that disconnects -/

/-- The application accepts a Goal. -/
def Accepted (name : String) (g : GoalId) (obs : List MuxObs) : Prop :=
  ∃ goal, goal.goalId = g ∧ .returned name (.acceptGoal goal) true ∈ obs

/-- An observation ends a Goal: it completes, or the server stops. -/
def Completes (name : String) (g : GoalId) (o : MuxObs) : Prop :=
  o = .stopped ∨ ∃ goal status pdu, goal.goalId = g ∧
    o = .returned name (.complete goal status pdu) true

/-- An observation ends a Goal, or the application rejects it. -/
def Ends (name : String) (g : GoalId) (o : MuxObs) : Prop :=
  Completes name g o ∨ ∃ goal, goal.goalId = g ∧
    o = .returned name (.rejectGoal goal) true

instance decidableAccepted (name : String) (g : GoalId) (obs : List MuxObs) :
    Decidable (Accepted name g obs) :=
  decidable_of_iff (.returned name (.acceptGoal ⟨g⟩) true ∈ obs)
    ⟨fun h => ⟨⟨g⟩, rfl, h⟩, fun ⟨_, hgoal, h⟩ => hgoal ▸ h⟩

instance decidableEnds (name : String) (g : GoalId) :
    (o : MuxObs) → Decidable (Ends name g o)
  | .stopped => isTrue (Or.inl (Or.inl rfl))
  | .returned name' (.complete goal status pdu) ok =>
      decidable_of_iff (name' = name ∧ goal.goalId = g ∧ ok = true)
        (by
          simp only [Ends, Completes]
          constructor
          · rintro ⟨rfl, hgoal, rfl⟩
            exact Or.inl (Or.inr ⟨goal, status, pdu, hgoal, rfl⟩)
          · simp +contextual)
  | .returned name' (.rejectGoal goal) ok =>
      decidable_of_iff (name' = name ∧ goal.goalId = g ∧ ok = true)
        (by
          simp only [Ends, Completes]
          constructor
          · rintro ⟨rfl, hgoal, rfl⟩
            exact Or.inr ⟨goal, hgoal, rfl⟩
          · simp +contextual)
  | .returned _ (.acceptGoal _) _ | .returned _ (.acceptCancel _) _
  | .returned _ (.rejectCancel _) _ | .returned _ (.sendFeedback _ _) _
  | .event _ _ _ | .connected _ _ | .processed _ | .connection _ _ _ =>
      isFalse (by simp [Ends, Completes])

/-- One observation while a Goal is open. -/
theorem followOwner_open {name : String} {g : GoalId} {c : UInt64}
    {state : GoalOwnerState} {o : MuxObs} (hends : ¬Ends name g o)
    (hexposes : ∀ k, ¬o.Exposes name g k)
    (hprocessed : ∀ k, o = .processed k → ticket k = c → state = .active) :
    ∃ state', followOwner name g (some (c, state)) o = some (c, state') ∧
      (state' = .active ↔ state = .active ∨ Accepted name g [o]) := by
  cases o with
  | event k' actionName event =>
      refine ⟨state, ?_, by simp [Accepted]⟩
      rw [followOwner, if_neg]
      rintro ⟨rfl, hgoal, htype⟩
      exact hexposes k' ⟨event, rfl, hgoal, htype⟩
  | returned actionName call ok =>
      by_cases hcall : actionName = name ∧ call.goal.goalId = g ∧ ok = true
      · obtain ⟨rfl, rfl, rfl⟩ := hcall
        cases call with
        | acceptGoal goal =>
            exact ⟨.active, by simp [followOwner],
              by simp [Accepted, MuxCall.goal]⟩
        | rejectGoal goal =>
            exact absurd (Or.inr ⟨goal, rfl, rfl⟩) hends
        | complete goal status pdu =>
            exact absurd (Or.inl (Or.inr ⟨goal, status, pdu, rfl, rfl⟩)) hends
        | acceptCancel goal =>
            exact ⟨state, by simp [followOwner], by simp [Accepted]⟩
        | rejectCancel goal =>
            exact ⟨state, by simp [followOwner], by simp [Accepted]⟩
        | sendFeedback goal pdu =>
            exact ⟨state, by simp [followOwner], by simp [Accepted]⟩
      · refine ⟨state, ?_, ?_⟩
        · unfold followOwner
          exact if_neg hcall
        · constructor
          · exact Or.inl
          · rintro (hactive | ⟨goal, rfl, hmem⟩)
            · exact hactive
            · simp only [List.mem_singleton, MuxObs.returned.injEq] at hmem
              obtain ⟨rfl, rfl, rfl⟩ := hmem
              exact absurd ⟨rfl, rfl, rfl⟩ hcall
  | processed k' =>
      refine ⟨state, ?_, by simp [Accepted]⟩
      rw [followOwner, if_neg]
      simp only [Option.some.injEq, Prod.mk.injEq, not_and]
      rintro rfl rfl
      simpa using hprocessed k' rfl rfl
  | stopped => exact absurd (Or.inl (Or.inl rfl)) hends
  | connected k' id => exact ⟨state, rfl, by simp [Accepted]⟩
  | connection k' actionName obs => exact ⟨state, rfl, by simp [Accepted]⟩

/-- A Goal stays open until an observation ends it. -/
theorem TraceLaws.open_until {trace : List MuxObs} (h : TraceLaws trace)
    {name : String} {g : GoalId} {c : UInt64} {before obs after : List MuxObs}
    (hsplit : trace = before ++ (obs ++ after)) {state : GoalOwnerState}
    (howner : ownerAfter name g before = some (c, state))
    (hends : ∀ o ∈ obs, ¬Ends name g o)
    (hprocessed : ∀ k, .processed k ∈ obs → ticket k = c → state = .active) :
    ∃ state', ownerAfter name g (before ++ obs) = some (c, state') ∧
      (state' = .active ↔ state = .active ∨ Accepted name g obs) := by
  induction obs generalizing before state with
  | nil => exact ⟨state, by simpa using howner, by simp [Accepted]⟩
  | cons o obs ih =>
      have hexposes : ∀ k', ¬o.Exposes name g k' := by
        rintro k' ⟨event, rfl, rfl, htype⟩
        rw [h.exposed hsplit htype] at howner
        simp at howner
      obtain ⟨state₁, hstep, hactive₁⟩ := followOwner_open
        (hends o List.mem_cons_self) hexposes fun k ho =>
          hprocessed k (ho ▸ List.mem_cons_self)
      have howner₁ : ownerAfter name g (before ++ [o]) = some (c, state₁) := by
        rw [ownerAfter_append, howner]
        exact hstep
      have hsplit₁ : trace = (before ++ [o]) ++ (obs ++ after) := by
        simpa using hsplit
      obtain ⟨state', howner', hactive⟩ := ih hsplit₁ howner₁
        (fun o' ho' => hends o' (List.mem_cons_of_mem _ ho'))
        (fun k hmem hid => hactive₁.mpr
          (Or.inl (hprocessed k (List.mem_cons_of_mem _ hmem) hid)))
      refine ⟨state', by simpa using howner', ?_⟩
      rw [hactive, hactive₁]
      simp only [Accepted, List.mem_cons, List.not_mem_nil, or_false]
      constructor
      · rintro ((hstate | ⟨goal, hgoal, rfl⟩) | ⟨goal, hgoal, hmem⟩)
        · exact Or.inl hstate
        · exact Or.inr ⟨goal, hgoal, Or.inl rfl⟩
        · exact Or.inr ⟨goal, hgoal, Or.inr hmem⟩
      · rintro (hstate | ⟨goal, hgoal, rfl | hmem⟩)
        · exact Or.inl (Or.inl hstate)
        · exact Or.inl (Or.inr ⟨goal, hgoal, rfl⟩)
        · exact Or.inr ⟨goal, hgoal, hmem⟩

/-- An accepted Goal cannot be rejected, so it ends only when it completes. -/
theorem TraceLaws.active_until {trace : List MuxObs} (h : TraceLaws trace)
    {name : String} {g : GoalId} {c : UInt64} {before obs after : List MuxObs}
    (hsplit : trace = before ++ (obs ++ after))
    (howner : ownerAfter name g before = some (c, .active))
    (hcompletes : ∀ o ∈ obs, ¬Completes name g o) :
    ownerAfter name g (before ++ obs) = some (c, .active) := by
  induction obs generalizing before with
  | nil => simpa using howner
  | cons o obs ih =>
      have hends : ∀ o' ∈ [o], ¬Ends name g o' := by
        intro o' ho'
        rw [List.mem_singleton.mp ho']
        rintro (hdone | ⟨goal, rfl, rfl⟩)
        · exact hcompletes o List.mem_cons_self hdone
        · obtain ⟨k', hpending⟩ := h.decided ⟨goal, Or.inr rfl⟩ hsplit
          simp only [MuxCall.goal, howner, Option.some.injEq, Prod.mk.injEq,
            reduceCtorEq, and_false] at hpending
      have hsplit₁ : trace = before ++ ([o] ++ (obs ++ after)) := by
        simpa using hsplit
      obtain ⟨state, hstep, hactive⟩ :=
        h.open_until hsplit₁ howner hends fun _ _ _ => rfl
      rw [hactive.mpr (Or.inl rfl)] at hstep
      have hsplit₂ : trace = (before ++ [o]) ++ (obs ++ after) := by
        simpa using hsplit
      have hnext := ih hsplit₂ hstep
        fun o' ho' => hcompletes o' (List.mem_cons_of_mem _ ho')
      simpa using hnext

/-- A Goal without an owner has none until it is exposed. -/
theorem ownerAfter_of_unexposed {name : String} {g : GoalId}
    {before obs : List MuxObs} (howner : ownerAfter name g before = none)
    (hexposes : ∀ o ∈ obs, ∀ k, ¬o.Exposes name g k) :
    ownerAfter name g (before ++ obs) = none := by
  rw [ownerAfter_append, howner]
  induction obs with
  | nil => rfl
  | cons o obs ih =>
      have hstep : followOwner name g none o = none := by
        cases o with
        | event k actionName event =>
            rw [followOwner, if_neg]
            rintro ⟨rfl, hgoal, htype⟩
            exact hexposes _ List.mem_cons_self k ⟨event, rfl, hgoal, htype⟩
        | returned actionName call ok =>
            cases call <;> simp [followOwner]
        | processed k => rfl
        | stopped => rfl
        | connected k id => rfl
        | connection k actionName obs => rfl
      rw [List.foldl_cons, hstep]
      exact ih fun o' ho' => hexposes o' (List.mem_cons_of_mem _ ho')

/-! ## Discarded and kept Goals -/

/-- A Goal is discarded with the connection `k`; `after` is what is seen after
the disconnect was handled. -/
structure Discarded (s : ActionServicesMuxServer) (seen after : List MuxObs)
    (k : ℕ) (name : String) (g : GoalId) : Prop where
  /-- It has no owner until it is exposed anew. -/
  unowned : (∀ o ∈ after, ∀ k', ¬o.Exposes name g k') →
    s.findOwner name g = none
  /-- No connection has an instance of it until it is exposed anew. -/
  absent : (∀ o ∈ after, ∀ k', ¬o.Exposes name g k') →
    ∀ {k' slot inst}, s.slotAt k' = some slot →
      slot.server.getAction name = some inst → inst.getGoal g = none
  /-- It can neither be accepted nor rejected until it is exposed anew. -/
  refused : ∀ {later rest}, after = later ++ rest →
    (∀ o ∈ later, ∀ k', ¬o.Exposes name g k') →
    ∀ {goal call ok}, goal.goalId = g →
      call = .acceptGoal goal ∨ call = .rejectGoal goal →
      .returned name call ok ∈ later → ok = false
  /-- No Runtime Cancel is ever reported for it. -/
  uncanceled : seen.countP (isRuntimeCancel k name g) = 0

/-- A Goal outlives its connection `k`. -/
def Survives (s : ActionServicesMuxServer) (after : List MuxObs) (k : ℕ)
    (name : String) (g : GoalId) : Prop :=
  (∀ o ∈ after, ¬Completes name g o) →
    ∃ slot inst goal, s.slotAt k = some slot ∧
      slot.server.getAction name = some inst ∧ inst.getGoal g = some goal

/-- The application has not decided on the Goal when the disconnect is
handled. -/
theorem History.discarded {seen past after : List MuxObs} (h : History s seen)
    (hlaws : TraceLaws seen) {k : ℕ} {name : String} {g : GoalId}
    (hsplit : seen = past ++ .processed k :: after)
    (howner : ownerAfter name g past = some (ticket k, .pending)) :
    Discarded s seen after k name g := by
  have hgone : ownerAfter name g (past ++ [.processed k]) = none := by
    rw [ownerAfter_append, howner]
    simp [followOwner]
  have hunowned : (∀ o ∈ after, ∀ k', ¬o.Exposes name g k') →
      s.owner name g = none := by
    intro hexposes
    rw [← h.follow, hsplit, List.append_cons]
    exact ownerAfter_of_unexposed hgone hexposes
  constructor
  · intro hexposes
    exact owner_eq_none.mp (hunowned hexposes)
  · intro hexposes k' slot inst hslot hget
    by_contra hgoal
    obtain ⟨goal, hgoal⟩ := Option.ne_none_iff_exists'.mp hgoal
    have hactive := (h.accepted hslot
      ((standing_eq_accepted_iff name g).mpr
        ⟨inst, goal, hget, hgoal⟩)).owner_eq
    rw [hunowned hexposes] at hactive
    simp at hactive
  · intro later rest hlater hexposes goal call ok hgoal hcall hmem
    by_contra hok
    obtain rfl := Bool.eq_true_of_not_eq_false hok
    obtain ⟨first, last, rfl⟩ := List.append_of_mem hmem
    have hdecided : seen = (past ++ [.processed k] ++ first) ++
        .returned name call true :: (last ++ rest) := by
      rw [hsplit, hlater]
      simp
    obtain ⟨k', hpending⟩ := hlaws.decided ⟨goal, hcall⟩ hdecided
    have hcalled : call.goal.goalId = g := by
      rcases hcall with rfl | rfl <;> exact hgoal
    rw [hcalled, ownerAfter_of_unexposed hgone fun o ho =>
      hexposes o (List.mem_append_left _ ho)] at hpending
    simp at hpending
  · by_contra hcount
    obtain ⟨past', after', hsplit', hactive⟩ :=
      h.canceled (Nat.pos_of_ne_zero hcount)
    rw [← hlaws.processed_unique hsplit hsplit', howner] at hactive
    simp at hactive

/-- The application has accepted the Goal when the disconnect is handled. -/
theorem History.survives {seen past after : List MuxObs} (h : History s seen)
    (hu : s.Unwrapped) (hlaws : TraceLaws seen) {k : ℕ} {name : String}
    {g : GoalId}
    (hsplit : seen = past ++ .processed k :: after)
    (howner : ownerAfter name g past = some (ticket k, .active)) :
    Survives s after k name g := by
  intro hcompletes
  have hnext : seen = past ++ ((.processed k :: after) ++ []) := by
    simpa using hsplit
  have hactive := hlaws.active_until hnext howner (by
    intro o ho
    rcases List.mem_cons.mp ho with rfl | ho
    · simp [Completes]
    · exact hcompletes o ho)
  rw [← hsplit, h.follow] at hactive
  obtain ⟨slot, hfirst, haccepted⟩ := h.active hactive
  obtain ⟨inst, goal, hget, hgoal⟩ :=
    (standing_eq_accepted_iff name g).mp haccepted
  have hslot := h.slotAt_of_findSlot hfirst
  have hnumber : slot.number = k := by
    apply ticket_inj hu (h.fresh hslot) (h.processed_lt (by simp [hsplit]))
    rw [← slot.id_eq, findSlot_id hfirst]
  exact ⟨slot, inst, goal, hnumber ▸ hslot, hget, hgoal⟩

/-- A Goal that is open when the disconnect of its connection is handled is
kept when it was accepted, and discarded otherwise. -/
theorem History.disposed {seen before mid after : List MuxObs}
    (h : History s seen) (hu : s.Unwrapped) (hlaws : TraceLaws seen) {k : ℕ}
    {name : String} {event : ServerEvent}
    (hsplit : seen =
      before ++ .event k name event :: (mid ++ .processed k :: after))
    (htype : event.type = .goalRequest)
    (hends : ∀ o ∈ mid, ¬Ends name event.goal.goalId o) :
    Accepted name event.goal.goalId mid ∧
        Survives s after k name event.goal.goalId ∨
      ¬Accepted name event.goal.goalId mid ∧
        Discarded s seen after k name event.goal.goalId := by
  have hexposed : ownerAfter name event.goal.goalId
      (before ++ [.event k name event]) = some (ticket k, .pending) := by
    rw [ownerAfter_append]
    simp [followOwner, htype]
  have hopen : seen = (before ++ [.event k name event]) ++
      (mid ++ .processed k :: after) := by
    rw [hsplit]
    simp
  have hclosed : seen = (before ++ [.event k name event] ++ mid) ++
      .processed k :: after := by
    rw [hopen]
    simp
  have hmid : ∀ k', .processed k' ∈ mid → ticket k' ≠ ticket k := by
    intro k' hmem hid
    have hk' : k' = k := by
      apply ticket_inj hu (h.processed_lt (by simp [hsplit, hmem]))
        (h.processed_lt (by simp [hsplit])) hid
    rw [hk'] at hmem
    exact hlaws.processed hclosed (List.mem_append_right _ hmem)
  obtain ⟨state, howner, hactive⟩ := hlaws.open_until hopen hexposed hends
    fun k' hmem hid => absurd hid (hmid k' hmem)
  cases state with
  | active =>
      have haccepted : Accepted name event.goal.goalId mid := by
        simpa using hactive
      exact Or.inl ⟨haccepted, h.survives hu hlaws hclosed howner⟩
  | pending =>
      have hundecided : ¬Accepted name event.goal.goalId mid := by
        simpa using hactive
      exact Or.inr ⟨hundecided, h.discarded hlaws hclosed howner⟩

/-- In the course of every run a Runtime Cancel is reported at most once for a
Goal of a connection.  While at most `2 ^ 64` connection ids have been handed
out, each Goal that is open when the disconnect of its connection is handled is
either kept or discarded, and no connection id is used twice. -/
theorem mux_disconnect_once (R : PduRegistry)
    (nodeId actionConfigPath endpointMuxConfigPath implType : String)
    (deltaTimeUsec : UInt64) {s : ActionServicesMuxServer}
    {seen : List MuxObs}
    (hreach : Reaches R (constructed nodeId actionConfigPath
      endpointMuxConfigPath implType deltaTimeUsec) s seen) :
    (s.Unwrapped → ∀ before k name event mid after,
      seen = before ++ .event k name event :: (mid ++ .processed k :: after) →
      event.type = .goalRequest →
      (∀ o ∈ mid, ¬Ends name event.goal.goalId o) →
      Accepted name event.goal.goalId mid ∧
          Survives s after k name event.goal.goalId ∨
        ¬Accepted name event.goal.goalId mid ∧
          Discarded s seen after k name event.goal.goalId) ∧
    (∀ k name g, seen.countP (isRuntimeCancel k name g) ≤ 1) ∧
    (s.Unwrapped → (seen.filterMap connectedId).Nodup) := by
  obtain ⟨js, rfl, rfl⟩ := hreach.exists_steps
  have hstart := history_constructed nodeId actionConfigPath
    endpointMuxConfigPath implType deltaTimeUsec
  have hhistory := hstart.run (R := R) js
  have hlaws := hstart.traceLaws (R := R) js
  refine ⟨?_, hhistory.once, hhistory.connectedId_nodup⟩
  intro hunwrapped before k name event mid after hsplit htype hends
  exact hhistory.disposed hunwrapped hlaws hsplit htype hends

/-! ### Two Goals of one connection -/

def otherGoalId : GoalId := ⟨List.replicate 16 2, rfl⟩

/-- A request packet of `sampleRegistry` for `otherGoalId`. -/
def otherRequest (requestKind : UInt8) : PduData :=
  (sampleRegistry.requestHeader.write samplePacket
    { version := 1
      requestKind := requestKind
      reserved := (0, 0)
      goalId := otherGoalId }).getD []

/-- A connection requests two Goals. -/
def twoGoals : List MuxInput :=
  [.opened (some 1), .started true, samplePoll 1 2 true,
    .transport (.receive 0 ⟨"fibonacci", 0⟩ (sampleRequest requestKindGoal)),
    .transport (.receive 0 ⟨"fibonacci", 3⟩ (otherRequest requestKindGoal)),
    samplePoll 0 2 true, samplePoll 0 2 true]

/-- The application accepts a Goal. -/
def sampleAccept (g : GoalId) : MuxInput :=
  .call (fun _ _ => true) "fibonacci" (.acceptGoal ⟨g⟩)

/-- One of the two Goals is accepted when the connection disconnects. -/
def disconnectedGoals : List MuxInput :=
  twoGoals ++ [sampleAccept sampleGoalId, .transport (.disconnect 0),
    samplePoll 0 2 true, samplePoll 0 2 true]

/-- What is seen of the sample server. -/
def sampleTrace (is : List MuxInput) : List MuxObs :=
  (muxMachine sampleRegistry).trace sampleMux is

/-- The accepted Goal is kept, with one Runtime Cancel, and the other one is
discarded. -/
theorem disconnectedGoals_disposed :
    let s := (muxMachine sampleRegistry).run sampleMux disconnectedGoals
    let seen := sampleTrace disconnectedGoals
    seen.countP (isRuntimeCancel 0 "fibonacci" sampleGoalId) = 1 ∧
      Survives s (seen.drop 9) 0 "fibonacci" sampleGoalId ∧
      Discarded s seen (seen.drop 9) 0 "fibonacci" otherGoalId := by
  have hunwrapped : ((muxMachine sampleRegistry).run sampleMux
      disconnectedGoals).Unwrapped := by
    unfold Unwrapped
    decide +kernel
  have hdisposed := (mux_disconnect_once sampleRegistry "fibonacci-server"
    "action.json" "mux.json" "ActionServerEndpointImpl" 1000
    (reaches_run _ _ disconnectedGoals)).1 hunwrapped
  refine ⟨by decide +kernel, ?_, ?_⟩
  · obtain ⟨-, hsurvives⟩ | ⟨hundecided, -⟩ := hdisposed
      ((sampleTrace disconnectedGoals).take 2) 0 "fibonacci"
      ⟨.goalRequest, ⟨sampleGoalId⟩, .unspecified, "fibonacci",
        sampleRequest requestKindGoal⟩
      (((sampleTrace disconnectedGoals).drop 3).take 5)
      ((sampleTrace disconnectedGoals).drop 9) (by decide +kernel) rfl
      (by decide +kernel)
    · exact hsurvives
    · exact absurd (by decide +kernel) hundecided
  · obtain ⟨haccepted, -⟩ | ⟨-, hdiscarded⟩ := hdisposed
      ((sampleTrace disconnectedGoals).take 4) 0 "fibonacci"
      ⟨.goalRequest, ⟨otherGoalId⟩, .unspecified, "fibonacci",
        otherRequest requestKindGoal⟩
      (((sampleTrace disconnectedGoals).drop 5).take 3)
      ((sampleTrace disconnectedGoals).drop 9) (by decide +kernel) rfl
      (by decide +kernel)
    · exact absurd haccepted (by decide +kernel)
    · exact hdiscarded

/-! ### An id that is handed out again -/

/-- Two connections, with the same id. -/
def twoConnections : List MuxInput :=
  wrapped [.opened (some 2), .started true, samplePoll 1 1 true]
    [samplePoll 1 1 true]

/-- The counter of the connections goes round. -/
theorem twoConnections_repeat_id :
    ¬((sampleTrace twoConnections).filterMap connectedId).Nodup := by
  have hidle : ((muxMachine sampleRegistry).run sampleMux
      [.opened (some 2), .started true, samplePoll 1 1 true]).Idle :=
    ⟨by decide +kernel, by decide +kernel, by decide +kernel⟩
  rw [sampleTrace, twoConnections, (run_wrapped hidle _).2]
  decide +kernel

end ActionServicesMuxServer

end HakoPduRpc.Action
