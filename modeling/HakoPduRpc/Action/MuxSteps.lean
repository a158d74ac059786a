import HakoPduRpc.Action.MuxServer
import HakoPduRpc.Action.ServerStanding

/-!
# What a step of the multiplexing server does

A small step of the server changes at most one connection, and the index of
owners at most for one Goal or for the undecided Goals with the id of that
connection; only a Goal that ends may retire a second one.  `StepCase` lists what
a step does to them and what is seen of it, and `step_cases` is the inversion
lemma: every step of a well-formed server is one of these.

Ids may repeat here, so a call of the application reaches the first connection
with the id of the owner, whichever connection exposed the Goal.
-/

namespace HakoPduRpc.Action

open KeyedList Tickets

/-- The standing that an owner stands for. -/
def GoalOwnerState.standing : GoalOwnerState → GoalStanding
  | .pending => .undecided
  | .active => .accepted

/-- The calls of an accepted Goal that do not end it. -/
def MuxCall.Continues : MuxCall → Prop
  | .acceptCancel _ | .rejectCancel _ | .sendFeedback _ _ => True
  | _ => False

/-- What holds of a connection by itself. -/
structure ConnectionSlot.WellFormed (slot : ConnectionSlot) : Prop where
  server : slot.server.Invariant
  named : slot.server.Named
  queue : ActionServicesServer.RuntimeQueue slot.server.pendingRuntimeEvents
  processed : slot.disconnectProcessed = true → slot.disconnected = true

/-- The services of a connection make a step. -/
theorem ConnectionSlot.WellFormed.step (R : PduRegistry)
    {slot slot' : ConnectionSlot} (hslot : slot.WellFormed) (i : ServerInput)
    (hserver : slot'.server = ((serverMachine R).step slot.server i).1)
    (hqueue : ActionServicesServer.RuntimeQueue
      slot'.server.pendingRuntimeEvents)
    (hprocessed : slot'.disconnectProcessed = true →
      slot'.disconnected = true) : slot'.WellFormed where
  server := by
    rw [hserver]
    exact hslot.server.step i
  named := by
    rw [hserver]
    exact hslot.named.step i
  queue := hqueue
  processed := hprocessed

namespace ActionServicesMuxServer

variable {R : PduRegistry} {s s' : ActionServicesMuxServer}

/-! ## Lookups -/

/-- The id of the connection that owns a Goal, and how far it is. -/
def owner (s : ActionServicesMuxServer) (actionName : String)
    (goalId : GoalId) : Option (UInt64 × GoalOwnerState) :=
  (s.findOwner actionName goalId).map fun owner =>
    (owner.connectionId, owner.state)

/-- The owner of one Goal changes. -/
abbrev OwnersUpdate (s s' : ActionServicesMuxServer) (actionName : String)
    (goalId : GoalId) (owner : Option (UInt64 × GoalOwnerState)) : Prop :=
  Update GoalOwner.key (fun owner => (owner.connectionId, owner.state))
    s.owners s'.owners (actionName, goalId) owner

theorem OwnersUpdate.owner_eq {name : String} {g : GoalId}
    {v : Option (UInt64 × GoalOwnerState)} (h : OwnersUpdate s s' name g v)
    (a : String) (g' : GoalId) :
    s'.owner a g' = if a = name ∧ g' = g then v else s.owner a g' := by
  have hlookup := h.lookup_eq (a, g')
  simp only [Prod.mk.injEq] at hlookup
  exact hlookup

theorem owner_congr (h : s'.owners = s.owners) : s'.owner = s.owner := by
  funext a g
  unfold owner findOwner
  rw [h]

theorem findOwner_of_owner {name : String} {g : GoalId} {c : UInt64}
    {state : GoalOwnerState} (h : s.owner name g = some (c, state)) :
    s.findOwner name g = some ⟨name, g, c, state⟩ := by
  unfold owner at h
  cases hfind : s.findOwner name g with
  | none => simp [hfind] at h
  | some o =>
      obtain ⟨actionName, goalId, connectionId, ostate⟩ := o
      have hkey := lookup_key hfind
      simp only [GoalOwner.key, Prod.mk.injEq] at hkey
      simp only [hfind, Option.map_some, Option.some.injEq, Prod.mk.injEq]
        at h
      rw [hkey.1, hkey.2, h.1, h.2]

theorem owner_of_findOwner {name : String} {g : GoalId} {o : GoalOwner}
    (h : s.findOwner name g = some o) :
    s.owner name g = some (o.connectionId, o.state) := by
  rw [owner, h]
  rfl

theorem owner_eq_none {name : String} {g : GoalId} :
    s.owner name g = none ↔ s.findOwner name g = none := by
  simp [owner]

theorem mem_owners_iff (hkeys : (s.owners.map GoalOwner.key).Nodup)
    (name : String) (g : GoalId) (c : UInt64) (state : GoalOwnerState) :
    ⟨name, g, c, state⟩ ∈ s.owners ↔ s.owner name g = some (c, state) := by
  rw [mem_iff_lookup hkeys]
  constructor
  · exact owner_of_findOwner
  · exact findOwner_of_owner

theorem findSlot_id {c : UInt64} {slot : ConnectionSlot}
    (h : s.findSlot c = some slot) : slot.connectionId = c :=
  lookup_key h

theorem slotAt_number {k : ℕ} {slot : ConnectionSlot}
    (h : s.slotAt k = some slot) : slot.number = k :=
  lookup_key h

theorem slotAt_modifySlot {f : ConnectionSlot → ConnectionSlot}
    (hf : ∀ slot, (f slot).number = slot.number) (k k' : ℕ) :
    (s.modifySlot k f).slotAt k' =
      if k' = k then (s.slotAt k).map f else s.slotAt k' :=
  lookup_modifyFirst (fun slot hk => (hf slot).trans hk) k' s.slots

/-! ## Well-formed servers -/

/-- What the parts of the server satisfy by themselves. -/
structure WellFormed (s : ActionServicesMuxServer) : Prop where
  numbers : (s.slots.map (·.number)).Nodup
  fresh : ∀ {k slot}, s.slotAt k = some slot → k < s.issued
  keys : (s.owners.map GoalOwner.key).Nodup
  slots : ∀ {k slot}, s.slotAt k = some slot → slot.WellFormed

theorem WellFormed.slotAt_of_mem (h : s.WellFormed) {slot : ConnectionSlot}
    (hslot : slot ∈ s.slots) : s.slotAt slot.number = some slot :=
  (mem_iff_lookup h.numbers).mp hslot

theorem WellFormed.slotAt_of_findSlot (h : s.WellFormed) {c : UInt64}
    {slot : ConnectionSlot} (hfound : s.findSlot c = some slot) :
    s.slotAt slot.number = some slot :=
  h.slotAt_of_mem (lookup_mem hfound)

theorem eq_of_number {slot slot' : ConnectionSlot}
    (hslot : s.slotAt slot.number = some slot)
    (hslot' : s.slotAt slot'.number = some slot')
    (hnumber : slot'.number = slot.number) : slot' = slot := by
  rw [hnumber, hslot] at hslot'
  exact (Option.some.inj hslot').symm

/-- One connection changes. -/
structure SlotUpdate (s s' : ActionServicesMuxServer)
    (slot slot' : ConnectionSlot) : Prop where
  found : s.slotAt slot.number = some slot
  number_eq : slot'.number = slot.number
  slots_eq : s'.slots =
    modifyFirst (·.number) slot.number (fun _ => slot') s.slots
  issued_eq : s'.issued = s.issued
  wellFormed : slot'.WellFormed

theorem SlotUpdate.of_modifySlot {slot slot' : ConnectionSlot} {k : ℕ}
    (hfound : s.slotAt k = some slot) {f : ConnectionSlot → ConnectionSlot}
    (hslot' : f slot = slot') (hnumber : slot'.number = slot.number)
    (hwf : slot'.WellFormed)
    (hslots : s'.slots = modifyFirst (·.number) k f s.slots)
    (hissued : s'.issued = s.issued) : SlotUpdate s s' slot slot' where
  found := by
    rw [slotAt_number hfound]
    exact hfound
  number_eq := hnumber
  slots_eq := by
    rw [hslots, slotAt_number hfound, modifyFirst_of_lookup hfound, hslot']
  issued_eq := hissued
  wellFormed := hwf

section SlotUpdate

variable {slot slot' : ConnectionSlot}

theorem SlotUpdate.trans {t : ActionServicesMuxServer}
    {slot'' : ConnectionSlot} (h : SlotUpdate s t slot slot')
    (h' : SlotUpdate t s' slot' slot'') : SlotUpdate s s' slot slot'' where
  found := h.found
  number_eq := h'.number_eq.trans h.number_eq
  slots_eq := by
    rw [h'.slots_eq, h.slots_eq, h.number_eq]
    exact modifyFirst_replace h.number_eq slot'' s.slots
  issued_eq := h'.issued_eq.trans h.issued_eq
  wellFormed := h'.wellFormed

variable (h : SlotUpdate s s' slot slot')

include h

theorem SlotUpdate.id_eq : slot'.connectionId = slot.connectionId := by
  rw [slot'.id_eq, h.number_eq, slot.id_eq]

theorem SlotUpdate.slotAt_eq (k : ℕ) :
    s'.slotAt k = if k = slot.number then some slot' else s.slotAt k := by
  have hfound := h.found
  unfold slotAt at hfound ⊢
  rw [h.slots_eq, lookup_modifyFirst fun _ _ => h.number_eq, hfound]
  rfl

theorem SlotUpdate.numbers_eq :
    s'.slots.map (·.number) = s.slots.map (·.number) := by
  rw [h.slots_eq]
  exact map_key_modifyFirst (fun _ _ => h.number_eq) s.slots

/-- The first connection with an id is the same one afterwards. -/
theorem SlotUpdate.findSlot_eq (hwf : s.WellFormed) (c : UInt64) :
    s'.findSlot c = (s.findSlot c).map fun found =>
      if found.number = slot.number then slot' else found := by
  unfold findSlot
  rw [h.slots_eq, modifyFirst_eq_map hwf.numbers, lookup_map]
  intro found
  split_ifs with hnumber
  · rw [h.id_eq, slot.id_eq, found.id_eq, hnumber]
  · rfl

theorem SlotUpdate.findSlot_self (hwf : s.WellFormed) {c : UInt64}
    (hfirst : s.findSlot c = some slot) : s'.findSlot c = some slot' := by
  rw [h.findSlot_eq hwf, hfirst, Option.map_some, if_pos rfl]

theorem SlotUpdate.findSlot_other (hwf : s.WellFormed) {c : UInt64}
    {found : ConnectionSlot} (hfirst : s.findSlot c = some found)
    (hne : found.number ≠ slot.number) : s'.findSlot c = some found := by
  rw [h.findSlot_eq hwf, hfirst, Option.map_some, if_neg hne]

theorem SlotUpdate.wellFormed_of (hwf : s.WellFormed)
    (hkeys : (s'.owners.map GoalOwner.key).Nodup) : s'.WellFormed where
  numbers := by
    rw [h.numbers_eq]
    exact hwf.numbers
  fresh := by
    intro k found hfound
    rw [h.issued_eq]
    rw [h.slotAt_eq] at hfound
    split_ifs at hfound with hk
    · rw [hk]
      exact hwf.fresh h.found
    · exact hwf.fresh hfound
  keys := hkeys
  slots := by
    intro k found hfound
    rw [h.slotAt_eq] at hfound
    split_ifs at hfound with hk
    · rw [← Option.some.inj hfound]
      exact h.wellFormed
    · exact hwf.slots hfound

end SlotUpdate

/-- A call for a Goal reaches a connection: it is the first one with the id of
the owner. -/
structure Routed (s : ActionServicesMuxServer) (slot : ConnectionSlot)
    (name : String) (g : GoalId) (state : GoalOwnerState) : Prop where
  owner_eq : s.owner name g = some (slot.connectionId, state)
  first : s.findSlot slot.connectionId = some slot

/-! ## The cases -/

/-- Nothing is seen that moves a Goal: effects of connections and calls that
fail. -/
def Quiet (obs : List MuxObs) : Prop :=
  ∀ o ∈ obs, (∃ k name seen, o = .connection k name seen) ∨
    ∃ name call, o = .returned name call false

/-- The marks of a connection stay as they are. -/
structure Kept (slot slot' : ConnectionSlot) : Prop where
  processed_eq : slot'.disconnectProcessed = slot.disconnectProcessed
  retired_eq : slot'.retired = slot.retired

/-- A connection changes, but none of its Goals moves. -/
structure Touched (s s' : ActionServicesMuxServer)
    (slot slot' : ConnectionSlot) : Prop extends
    SlotUpdate s s' slot slot', Kept slot slot' where
  standing_eq : ∀ a g, slot'.server.standing a g = slot.server.standing a g
  owners_eq : s'.owners = s.owners

/-- One Goal of a connection moves, and its owner with it. -/
structure Moved (s s' : ActionServicesMuxServer)
    (slot slot' : ConnectionSlot) (name : String) (g : GoalId)
    (standing : GoalStanding) (owner : Option (UInt64 × GoalOwnerState)) :
    Prop extends SlotUpdate s s' slot slot', Kept slot slot' where
  standing_eq : ∀ a g', slot'.server.standing a g' =
    if a = name ∧ g' = g then standing else slot.server.standing a g'
  owners : OwnersUpdate s s' name g owner

/-- A connection is done with: it has no Goal and nothing to report. -/
structure Retired (slot : ConnectionSlot) : Prop where
  standing_eq : ∀ a g, slot.server.standing a g = .absent
  queue_eq : slot.server.pendingRuntimeEvents = []

/-- What a small step can do: the server after it and what is seen of it.  When
`strict` holds, automatic rejections are sent. -/
inductive StepCase (strict : Prop) (s : ActionServicesMuxServer) :
    ActionServicesMuxServer → List MuxObs → Prop
  /-- No connection and no owner changes. -/
  | same {s' : ActionServicesMuxServer} {obs : List MuxObs}
      (hslots : s'.slots = s.slots) (howners : s'.owners = s.owners)
      (hissued : s.issued ≤ s'.issued)
      (hquiet : Quiet obs) : StepCase strict s s' obs
  /-- Packets, flags and cancel decisions of one connection. -/
  | touched {s' : ActionServicesMuxServer} {slot slot' : ConnectionSlot}
      {obs : List MuxObs} (htouched : Touched s s' slot slot')
      (hqueue : slot'.server.pendingRuntimeEvents =
          slot.server.pendingRuntimeEvents ∨
        slot'.server.pendingRuntimeEvents = [])
      (hquiet : Quiet obs) : StepCase strict s s' obs
  | called {s' : ActionServicesMuxServer} {slot slot' : ConnectionSlot}
      {obs : List MuxObs} {name : String} {call : MuxCall}
      (htouched : Touched s s' slot slot')
      (hqueue : slot'.server.pendingRuntimeEvents =
        slot.server.pendingRuntimeEvents)
      (hcall : call.Continues)
      (hrouted : Routed s slot name call.goal.goalId .active)
      (hquiet : Quiet obs) :
      StepCase strict s s' (obs ++ [.returned name call true])
  | canceled {s' : ActionServicesMuxServer} {slot slot' : ConnectionSlot}
      {obs : List MuxObs} {name : String} {event : ServerEvent}
      (htouched : Touched s s' slot slot')
      (hqueue : slot'.server.pendingRuntimeEvents = [])
      (htype : event.type = .cancelRequest)
      (haccepted : slot.server.standing name event.goal.goalId = .accepted)
      (hquiet : Quiet obs) :
      StepCase strict s s' (obs ++ [.event slot.number name event])
  | runtimeCanceled {s' : ActionServicesMuxServer}
      {slot slot' : ConnectionSlot} {obs : List MuxObs}
      {dropped rest : List ServerEvent} {event : ServerEvent}
      (htouched : Touched s s' slot slot')
      (hsplit : slot.server.pendingRuntimeEvents = dropped ++ event :: rest)
      (hqueue : slot'.server.pendingRuntimeEvents = rest)
      (haccepted : slot.server.standing event.actionName event.goal.goalId =
        .accepted)
      (hquiet : Quiet obs) :
      StepCase strict s s'
        (obs ++ [.event slot.number event.actionName event])
  /-- A queued event of a Goal that is not accepted any more. -/
  | stale {s' : ActionServicesMuxServer} {slot slot' : ConnectionSlot}
      {obs : List MuxObs} {dropped rest : List ServerEvent}
      {event : ServerEvent} (htouched : Touched s s' slot slot')
      (hsplit : slot.server.pendingRuntimeEvents = dropped ++ event :: rest)
      (hqueue : slot'.server.pendingRuntimeEvents = rest)
      (hstanding : slot.server.standing event.actionName event.goal.goalId ≠
        .accepted)
      (hquiet : Quiet obs) :
      StepCase strict s s' (obs ++ [.event slot.number event.actionName
        { event with type := .error }])
  | exposed {s' : ActionServicesMuxServer} {slot slot' : ConnectionSlot}
      {obs : List MuxObs} {name : String} {event : ServerEvent}
      (hmoved : Moved s s' slot slot' name event.goal.goalId .undecided
        (some (slot.connectionId, .pending)))
      (hlive : slot.retired = false)
      (hqueue : slot'.server.pendingRuntimeEvents = [])
      (htype : event.type = .goalRequest)
      (habsent : slot.server.standing name event.goal.goalId = .absent)
      (hfree : s.owner name event.goal.goalId = none)
      (hquiet : Quiet obs) :
      StepCase strict s s' (obs ++ [.event slot.number name event])
  /-- A Goal that has an owner is requested anew; `rejected` says whether the
  automatic rejection was sent. -/
  | duplicate {s' : ActionServicesMuxServer} {slot slot' : ConnectionSlot}
      {obs : List MuxObs} {name : String} {g : GoalId} {rejected : Bool}
      {v : Option (UInt64 × GoalOwnerState)}
      (hmoved : Moved s s' slot slot' name g
        (if rejected then .absent else .undecided) v)
      (hqueue : slot'.server.pendingRuntimeEvents = [])
      (habsent : slot.server.standing name g = .absent)
      (howned : s.owner name g = v) (hv : v ≠ none)
      (hstrict : strict → rejected = true)
      (hquiet : Quiet obs) : StepCase strict s s' obs
  | accepted {s' : ActionServicesMuxServer} {slot slot' : ConnectionSlot}
      {obs : List MuxObs} {name : String} {goal : ServerGoalHandle}
      (hmoved : Moved s s' slot slot' name goal.goalId .accepted
        (some (slot.connectionId, .active)))
      (hqueue : slot'.server.pendingRuntimeEvents =
        slot.server.pendingRuntimeEvents)
      (hconnected : slot.disconnected = false)
      (hrouted : Routed s slot name goal.goalId .pending)
      (hquiet : Quiet obs) :
      StepCase strict s s' (obs ++ [.returned name (.acceptGoal goal) true])
  | rejected {s' : ActionServicesMuxServer} {slot slot' : ConnectionSlot}
      {obs : List MuxObs} {name : String} {goal : ServerGoalHandle}
      (hmoved : Moved s s' slot slot' name goal.goalId .absent none)
      (hqueue : slot'.server.pendingRuntimeEvents =
        slot.server.pendingRuntimeEvents)
      (hrouted : Routed s slot name goal.goalId .pending)
      (hundecided : slot.server.standing name goal.goalId = .undecided)
      (hquiet : Quiet obs) :
      StepCase strict s s' (obs ++ [.returned name (.rejectGoal goal) true])
  | completed {s' : ActionServicesMuxServer} {slot slot' : ConnectionSlot}
      {obs : List MuxObs} {name : String} {goal : ServerGoalHandle}
      {status : TerminalStatus} {pdu : PduData}
      (hmoved : Moved s s' slot slot' name goal.goalId .absent none)
      (hqueue : slot'.server.pendingRuntimeEvents =
        slot.server.pendingRuntimeEvents)
      (hrouted : Routed s slot name goal.goalId .active)
      (hquiet : Quiet obs) :
      StepCase strict s s'
        (obs ++ [.returned name (.complete goal status pdu) true])
  /-- The last Goal with the id of an orphaned connection ends.  The connection
  of the Goal may be another one with this id. -/
  | reclaimed {t s' : ActionServicesMuxServer}
      {slot slot' last last' : ConnectionSlot} {obs : List MuxObs}
      {name : String} {goal : ServerGoalHandle} {status : TerminalStatus}
      {pdu : PduData}
      (hmoved : Moved s t slot slot' name goal.goalId .absent none)
      (hqueue : slot'.server.pendingRuntimeEvents =
        slot.server.pendingRuntimeEvents)
      (hslot : SlotUpdate t s' last last') (hretired : Retired last')
      (hid : last.connectionId = slot.connectionId)
      (hprocessed : last'.disconnectProcessed = last.disconnectProcessed)
      (howners : s'.owners = t.owners)
      (hlast : ∀ a g v, s'.owner a g = some v → v.1 ≠ slot.connectionId)
      (hrouted : Routed s slot name goal.goalId .active)
      (hquiet : Quiet obs) :
      StepCase strict s s'
        (obs ++ [.returned name (.complete goal status pdu) true])
  | connected {s' : ActionServicesMuxServer} {slot : ConnectionSlot}
      (hnumber : slot.number = s.issued)
      (hwf : slot.WellFormed) (hunprocessed : slot.disconnectProcessed = false)
      (hstanding : ∀ a g, slot.server.standing a g = .absent)
      (hqueue : slot.server.pendingRuntimeEvents = [])
      (hslots : s'.slots = s.slots ++ [slot]) (howners : s'.owners = s.owners)
      (hissued : s'.issued = s.issued + 1) :
      StepCase strict s s' [.connected slot.number slot.connectionId]
  /-- The disconnect of a connection is handled when there is an accepted Goal
  with its id. -/
  | orphaned {s' : ActionServicesMuxServer} {slot slot' : ConnectionSlot}
      (hslot : SlotUpdate s s' slot slot')
      (hunprocessed : slot.disconnectProcessed = false)
      (hprocessed : slot'.disconnectProcessed = true)
      (hretired : slot'.retired = slot.retired)
      (hstanding : ∀ a g, slot'.server.standing a g =
        if s.owner a g = some (slot.connectionId, .pending) ∧
            slot.server.standing a g = .undecided then .absent
        else slot.server.standing a g)
      (hqueue : slot'.server.QueueAccepted slot'.server.pendingRuntimeEvents)
      (howner : ∀ a g, s'.owner a g =
        if s.owner a g = some (slot.connectionId, .pending) then none
        else s.owner a g)
      (hkeys : (s'.owners.map GoalOwner.key).Nodup) :
      StepCase strict s s' [.processed slot.number]
  /-- The disconnect of a connection is handled when there is no accepted Goal
  with its id. -/
  | abandoned {s' : ActionServicesMuxServer} {slot slot' : ConnectionSlot}
      (hslot : SlotUpdate s s' slot slot') (hretired : Retired slot')
      (hunprocessed : slot.disconnectProcessed = false)
      (hprocessed : slot'.disconnectProcessed = true)
      (hinactive : ∀ a g, s.owner a g ≠ some (slot.connectionId, .active))
      (howner : ∀ a g, s'.owner a g =
        if s.owner a g = some (slot.connectionId, .pending) then none
        else s.owner a g)
      (hkeys : (s'.owners.map GoalOwner.key).Nodup) :
      StepCase strict s s' [.processed slot.number]
  | stopped {s' : ActionServicesMuxServer} (hslots : s'.slots = [])
      (howners : s'.owners = [])
      (hissued : s'.issued = s.issued) :
      StepCase strict s s' [.stopped]

/-- The automatic rejection of a request for a Goal that has an owner is sent:
the branch of `poll()` that only logs its failure is not taken. -/
def RejectsDuplicates (R : PduRegistry) (s : ActionServicesMuxServer) :
    MuxStep → Prop
  | .pollSlot number poll reject =>
      ∀ slot ∈ s.slotAt number, slot.retired = false →
        ∀ reported ∈ (slot.server.poll R poll).result,
          reported.2.type = .goalRequest →
          (s.findOwner reported.1 reported.2.goal.goalId).isSome = true →
          ((slot.server.poll R poll).state.call R reject reported.1
            (.rejectGoal reported.2.goal)).result = true
  | .transport _ | .acceptConnection _ _ | .processSlot _ | .call _ _ _
  | .opened _ | .started _ | .stop => True

instance decidableRejectsDuplicates (R : PduRegistry)
    (s : ActionServicesMuxServer) :
    (i : MuxStep) → Decidable (RejectsDuplicates R s i)
  | .pollSlot number poll reject =>
      inferInstanceAs (Decidable (∀ slot ∈ s.slotAt number,
        slot.retired = false → ∀ reported ∈ (slot.server.poll R poll).result,
          reported.2.type = .goalRequest →
          (s.findOwner reported.1 reported.2.goal.goalId).isSome = true →
          ((slot.server.poll R poll).state.call R reject reported.1
            (.rejectGoal reported.2.goal)).result = true))
  | .transport _ | .acceptConnection _ _ | .processSlot _ | .call _ _ _
  | .opened _ | .started _ | .stop => isTrue trivial

/-! ## What is seen -/

theorem quiet_nil : Quiet [] := by
  intro o ho
  simp at ho

theorem Quiet.append {obs obs' : List MuxObs} (h : Quiet obs)
    (h' : Quiet obs') : Quiet (obs ++ obs') := by
  intro o ho
  rcases List.mem_append.mp ho with ho | ho
  · exact h o ho
  · exact h' o ho

theorem quiet_refused (name : String) (call : MuxCall) :
    Quiet [.returned name call false] := by
  intro o ho
  exact Or.inr ⟨name, call, List.mem_singleton.mp ho⟩

theorem quiet_connection (k : ℕ) (effects : List (String × ServerObs)) :
    Quiet (effects.map fun seen => .connection k seen.1 seen.2) := by
  intro o ho
  obtain ⟨seen, -, rfl⟩ := List.mem_map.mp ho
  exact Or.inl ⟨k, seen.1, seen.2, rfl⟩

/-! ## Steps of one connection -/

section Connections

variable {strict : Prop} {k : ℕ} {slot : ConnectionSlot}

variable (hwf : s.WellFormed)

include hwf

theorem transport_cases (R : PduRegistry) (event : TransportEvent) :
    StepCase strict s (s.transport event) [] := by
  cases event with
  | receive k key data =>
      cases hfound : s.slotAt k with
      | none =>
          refine .same (modifyFirst_of_notMem hfound) rfl le_rfl quiet_nil
      | some slot =>
          have hslot := hwf.slots hfound
          refine @StepCase.touched strict s _ slot
            { slot with server := slot.server.receive key data } _
            ⟨?_, ⟨rfl, rfl⟩, ?_, rfl⟩ (Or.inl rfl) quiet_nil
          · exact .of_modifySlot hfound
              (f := fun slot =>
                { slot with server := slot.server.receive key data })
              rfl rfl
              (hslot.step R (.receive key data) rfl hslot.queue
                hslot.processed) rfl rfl
          · exact slot.server.standing_receive key data
  | disconnect k =>
      cases hfound : s.slotAt k with
      | none =>
          refine .same (modifyFirst_of_notMem hfound) rfl le_rfl quiet_nil
      | some slot =>
          have hslot := hwf.slots hfound
          refine @StepCase.touched strict s _ slot
            { slot with disconnected := true } _
            ⟨?_, ⟨rfl, rfl⟩, fun _ _ => rfl, rfl⟩ (Or.inl rfl) quiet_nil
          exact .of_modifySlot hfound
            (f := fun slot => { slot with disconnected := true })
            rfl rfl
            ⟨hslot.server, hslot.named, hslot.queue, fun _ => rfl⟩ rfl rfl

/-! ### Calls -/

omit hwf in
theorem pendingSlot_eq_some {name : String} {g : GoalId}
    (h : s.pendingSlot name g = some slot) :
    Routed s slot name g .pending ∧ slot.disconnected = false := by
  unfold pendingSlot at h
  split at h
  · simp at h
  · next o ho =>
      split_ifs at h with hstate
      split at h
      · simp at h
      · next found hfound =>
          split_ifs at h with hdisconnected
          obtain rfl := Option.some.inj h
          have hid := findSlot_id hfound
          refine ⟨⟨?_, hid ▸ hfound⟩, by simpa using hdisconnected⟩
          rw [owner_of_findOwner ho, hid, not_not.mp hstate]

omit hwf in
theorem activeSlot_eq_some {name : String} {g : GoalId}
    (h : s.activeSlot name g = some slot) :
    Routed s slot name g .active := by
  unfold activeSlot findActiveOwner at h
  cases hfind : s.findOwner name g with
  | none => simp [hfind] at h
  | some o =>
      simp only [hfind] at h
      by_cases hstate : o.state = .active
      · simp only [hstate, if_true] at h
        have hid := findSlot_id h
        refine ⟨?_, hid ▸ h⟩
        rw [owner_of_findOwner hfind, hid, hstate]
      · simp [hstate] at h

omit hwf in
/-- The connection of an accepted Goal is the one that its calls reach. -/
theorem Routed.activeSlot_eq {name : String} {g : GoalId}
    (h : Routed s slot name g .active) : s.activeSlot name g = some slot := by
  rw [activeSlot, findActiveOwner, findOwner_of_owner h.owner_eq]
  simpa using h.first

/-- The connection that a call reaches. -/
theorem Routed.slotAt_eq {name : String} {g : GoalId} {state : GoalOwnerState}
    (h : Routed s slot name g state) : s.slotAt slot.number = some slot :=
  hwf.slotAt_of_findSlot h.first

/-- The services of a connection are called. -/
theorem callServer_update (hfound : s.slotAt slot.number = some slot)
    (net : SendOracle) (name : String) (c : ServerCall)
    (hslots : s'.slots = (callServer R s net slot name c).state.slots)
    (hissued : s'.issued = s.issued) :
    SlotUpdate s s' slot
      { slot with server := (slot.server.call R net name c).state } := by
  have hslot := hwf.slots hfound
  refine .of_modifySlot hfound
    (f := fun slot' =>
      { slot' with server := (slot.server.call R net name c).state })
    rfl rfl ?_ hslots hissued
  refine hslot.step R (.call net name c) rfl ?_ hslot.processed
  dsimp only
  rw [ActionServicesServer.pendingRuntimeEvents_call]
  exact hslot.queue

/-- A call of the services that does not move its Goal. -/
theorem callServer_touched (hfound : s.slotAt slot.number = some slot)
    (net : SendOracle) (name : String) (c : ServerCall)
    (hsame : (slot.server.call R net name c).result = true →
      c.standingAfter = c.standingBefore) :
    Touched s (callServer R s net slot name c).state slot
      { slot with server := (slot.server.call R net name c).state } := by
  refine ⟨callServer_update hwf hfound net name c rfl rfl, ⟨rfl, rfl⟩, ?_,
    rfl⟩
  intro a g
  obtain ⟨hafter, hbefore⟩ := ActionServicesServer.call_standing (R := R)
    (hwf.slots hfound).server net name c
  dsimp only
  rw [hafter]
  split_ifs with hmoved
  · rw [hsame hmoved.1, hmoved.2.1, hmoved.2.2]
    exact (hbefore hmoved.1).symm
  · rfl

/-- A call of the services that moves its Goal. -/
theorem callServer_moved (hfound : s.slotAt slot.number = some slot)
    (net : SendOracle) (name : String) (c : ServerCall)
    (hok : (slot.server.call R net name c).result = true)
    {v : Option (UInt64 × GoalOwnerState)}
    (hslots : s'.slots = (callServer R s net slot name c).state.slots)
    (hissued : s'.issued = s.issued)
    (howners : OwnersUpdate s s' name c.goal.goalId v) :
    Moved s s' slot
      { slot with server := (slot.server.call R net name c).state } name
      c.goal.goalId c.standingAfter v := by
  refine ⟨callServer_update hwf hfound net name c hslots hissued,
    ⟨rfl, rfl⟩, ?_, howners⟩
  intro a g
  have hafter := (ActionServicesServer.call_standing (R := R)
    (hwf.slots hfound).server net name c).1 a g
  simpa [hok] using hafter

theorem acceptGoal_cases (net : SendOracle) (name : String)
    (goal : ServerGoalHandle) :
    StepCase strict s (s.acceptGoal R net name goal).state
      ((s.acceptGoal R net name goal).effects ++
        [.returned name (.acceptGoal goal)
          (s.acceptGoal R net name goal).result]) := by
  unfold acceptGoal
  split
  · exact .same rfl rfl le_rfl (quiet_refused name _)
  · next slot hslot =>
      obtain ⟨hrouted, hconnected⟩ := pendingSlot_eq_some hslot
      have hfound := hrouted.slotAt_eq hwf
      dsimp only
      cases hok : (slot.server.call R net name (.acceptGoal goal)).result with
      | true =>
          have hmoved : Moved s
              ((callServer R s net slot name
                (.acceptGoal goal)).state.setOwnerState name goal.goalId
                  .active) slot _ name goal.goalId .accepted _ :=
            callServer_moved hwf hfound net name (.acceptGoal goal) hok rfl
              rfl (Update.modifyFirst hwf.keys
                (findOwner_of_owner hrouted.owner_eq) fun _ => rfl)
          simp only [callServer, hok, if_true]
          exact .accepted hmoved
            (ActionServicesServer.pendingRuntimeEvents_call _ _ _ _)
            hconnected hrouted (quiet_connection _ _)
      | false =>
          simp only [callServer, hok, Bool.false_eq_true, if_false]
          exact .touched (callServer_touched hwf hfound net name
            (.acceptGoal goal) (by simp [hok]))
            (Or.inl (ActionServicesServer.pendingRuntimeEvents_call _ _ _ _))
            ((quiet_connection _ _).append (quiet_refused name _))

theorem rejectGoal_cases (net : SendOracle) (name : String)
    (goal : ServerGoalHandle) :
    StepCase strict s (s.rejectGoal R net name goal).state
      ((s.rejectGoal R net name goal).effects ++
        [.returned name (.rejectGoal goal)
          (s.rejectGoal R net name goal).result]) := by
  unfold rejectGoal
  split
  · exact .same rfl rfl le_rfl (quiet_refused name _)
  · next slot hslot =>
      obtain ⟨hrouted, -⟩ := pendingSlot_eq_some hslot
      have hfound := hrouted.slotAt_eq hwf
      dsimp only
      cases hok : (slot.server.call R net name (.rejectGoal goal)).result with
      | true =>
          have hmoved : Moved s
              ((callServer R s net slot name
                (.rejectGoal goal)).state.removeOwner name goal.goalId)
                slot _ name goal.goalId .absent none :=
            callServer_moved hwf hfound net name (.rejectGoal goal) hok rfl
              rfl (Update.removeFirst hwf.keys)
          have hundecided := (ActionServicesServer.call_standing (R := R)
            (hwf.slots hfound).server net name (.rejectGoal goal)).2 hok
          simp only [callServer, hok, if_true]
          exact .rejected hmoved
            (ActionServicesServer.pendingRuntimeEvents_call _ _ _ _) hrouted
            hundecided (quiet_connection _ _)
      | false =>
          simp only [callServer, hok, Bool.false_eq_true, if_false]
          exact .touched (callServer_touched hwf hfound net name
            (.rejectGoal goal) (by simp [hok]))
            (Or.inl (ActionServicesServer.pendingRuntimeEvents_call _ _ _ _))
            ((quiet_connection _ _).append (quiet_refused name _))

/-- A call for an accepted Goal that goes on. -/
theorem continued_cases (net : SendOracle) (name : String) (call : MuxCall)
    (hcall : call.Continues)
    (hrouted : Routed s slot name call.goal.goalId .active) (c : ServerCall)
    (hsame : c.standingAfter = c.standingBefore) :
    StepCase strict s (callServer R s net slot name c).state
      ((callServer R s net slot name c).effects ++
        [.returned name call (callServer R s net slot name c).result]) := by
  have htouched := callServer_touched (R := R) hwf (hrouted.slotAt_eq hwf) net
    name c fun _ => hsame
  cases hok : (callServer R s net slot name c).result with
  | true =>
      exact .called htouched
        (ActionServicesServer.pendingRuntimeEvents_call _ _ _ _) hcall hrouted
        (quiet_connection _ _)
  | false =>
      exact .touched htouched
        (Or.inl (ActionServicesServer.pendingRuntimeEvents_call _ _ _ _))
        ((quiet_connection _ _).append (quiet_refused name _))

theorem routeActiveGoal_cases (net : SendOracle) (name : String)
    (call : MuxCall) (hcall : call.Continues) (c : ServerCall)
    (hsame : c.standingAfter = c.standingBefore) :
    StepCase strict s
      (s.routeActiveGoal R net name call.goal.goalId c).state
      ((s.routeActiveGoal R net name call.goal.goalId c).effects ++
        [.returned name call
          (s.routeActiveGoal R net name call.goal.goalId c).result]) := by
  unfold routeActiveGoal
  split
  · exact .same rfl rfl le_rfl (quiet_refused name _)
  · next slot hslot =>
      exact continued_cases hwf net name call hcall (activeSlot_eq_some hslot)
        c hsame

theorem sendFeedback_cases (net : SendOracle) (name : String)
    (goal : ServerGoalHandle) (pdu : PduData) :
    StepCase strict s (s.sendFeedback R net name goal pdu).state
      ((s.sendFeedback R net name goal pdu).effects ++
        [.returned name (.sendFeedback goal pdu)
          (s.sendFeedback R net name goal pdu).result]) := by
  unfold sendFeedback
  split
  · exact .same rfl rfl le_rfl (quiet_refused name _)
  · next slot hslot =>
      split_ifs
      · exact .same rfl rfl le_rfl (quiet_refused name _)
      · exact continued_cases hwf net name (.sendFeedback goal pdu)
          trivial (activeSlot_eq_some hslot) (.sendFeedback goal pdu) rfl

omit hwf in
/-- `reclaim_orphaned_slot_` rewrites the first orphaned slot with the id. -/
theorem modifyFirst_orphaned {slots : List ConnectionSlot} {c : UInt64}
    (hnumbers : (slots.map (·.number)).Nodup)
    (hfound : lookup (fun slot => (slot.connectionId, slot.orphaned)) (c, true)
      slots = some slot) (f : ConnectionSlot → ConnectionSlot) :
    modifyFirst (fun slot => (slot.connectionId, slot.orphaned)) (c, true) f
        slots = modifyFirst (·.number) slot.number f slots := by
  induction slots with
  | nil => simp at hfound
  | cons first rest ih =>
      simp only [List.map_cons, List.nodup_cons] at hnumbers
      rw [lookup_cons] at hfound
      rw [modifyFirst, modifyFirst]
      split_ifs at hfound with hfirst
      · obtain rfl := Option.some.inj hfound
        rw [if_pos hfirst, if_pos rfl]
      · have hne : first.number ≠ slot.number := by
          intro hnumber
          exact hnumbers.1 (hnumber ▸
            List.mem_map_of_mem (lookup_mem hfound))
        rw [if_neg hfirst, if_neg hne, ih hnumbers.2 hfound]

/-- After a Goal has ended, nothing more happens or the first orphaned connection
with its id is reclaimed. -/
theorem reclaimOrphanedSlot_cases (R : PduRegistry) (c : UInt64) :
    s.reclaimOrphanedSlot c = s ∨
      ((∀ a g v, s.owner a g = some v → v.1 ≠ c) ∧
        (s.reclaimOrphanedSlot c).owners = s.owners ∧
        ∃ last, last.connectionId = c ∧ last.orphaned = true ∧
          SlotUpdate s (s.reclaimOrphanedSlot c) last
            { last with
              server := last.server.clearAllInstances
              retired := true }) := by
  unfold reclaimOrphanedSlot
  split_ifs with howned
  · exact Or.inl rfl
  · cases hfound : lookup (fun slot : ConnectionSlot =>
        (slot.connectionId, slot.orphaned)) (c, true) s.slots with
    | none =>
        rw [modifyFirst_of_notMem hfound]
        exact Or.inl rfl
    | some last =>
        have hkey := lookup_key hfound
        simp only [Prod.mk.injEq] at hkey
        have hmem := hwf.slotAt_of_mem (lookup_mem hfound)
        have hslot := hwf.slots hmem
        refine Or.inr ⟨?_, rfl, last, hkey.1, hkey.2, .of_modifySlot hmem
          (f := fun slot =>
            { slot with
              server := slot.server.clearAllInstances
              retired := true })
          rfl rfl ?_ (modifyFirst_orphaned hwf.numbers hfound _) rfl⟩
        · intro a g v hv hid
          apply howned
          obtain ⟨c', state⟩ := v
          simp only [List.any_eq_true, decide_eq_true_eq]
          exact ⟨_, lookup_mem (findOwner_of_owner hv), hid⟩
        · exact hslot.step R .clearAllInstances rfl
            ActionServicesServer.RuntimeQueue.nil hslot.processed

theorem complete_cases (net : SendOracle) (name : String)
    (goal : ServerGoalHandle) (status : TerminalStatus) (pdu : PduData) :
    StepCase strict s (s.complete R net name goal status pdu).state
      ((s.complete R net name goal status pdu).effects ++
        [.returned name (.complete goal status pdu)
          (s.complete R net name goal status pdu).result]) := by
  unfold complete
  split
  · exact .same rfl rfl le_rfl (quiet_refused name _)
  · next slot hslot =>
      have hrouted := activeSlot_eq_some hslot
      have hfound := hrouted.slotAt_eq hwf
      generalize hc : (if slot.disconnected = true then
          ServerCall.completeLocally goal status pdu
        else .complete goal status pdu) = c
      have hgoal : c.goal = goal := by
        rw [← hc]
        split_ifs <;> rfl
      have hafter : c.standingAfter = .absent := by
        rw [← hc]
        split_ifs <;> rfl
      dsimp only
      cases hok : (slot.server.call R net name c).result with
      | true =>
          have hmoved : Moved s
              ((callServer R s net slot name c).state.removeOwner name
                goal.goalId) slot
              { slot with server := (slot.server.call R net name c).state }
              name goal.goalId .absent none := by
            rw [← hafter, ← hgoal]
            exact callServer_moved hwf hfound net name c hok rfl rfl
              (Update.removeFirst hwf.keys)
          simp only [callServer, hok, if_true]
          have hqueue :=
            ActionServicesServer.pendingRuntimeEvents_call (R := R)
              slot.server net name c
          have hwf' := hmoved.toSlotUpdate.wellFormed_of hwf hmoved.owners.nodup
          obtain hsame | ⟨hlast, howners, last, hid, -, hreclaimed⟩ :=
            reclaimOrphanedSlot_cases hwf' R slot.connectionId
          · simp only [callServer] at hsame
            rw [hsame]
            exact .completed hmoved hqueue hrouted (quiet_connection _ _)
          · simp only [callServer] at howners hlast
            refine .reclaimed hmoved hqueue hreclaimed
              ⟨last.server.standing_clearAllInstances, rfl⟩ hid rfl howners ?_
              hrouted (quiet_connection _ _)
            intro a g v hv
            rw [owner_congr howners] at hv
            exact hlast a g v hv
      | false =>
          simp only [callServer, hok, Bool.false_eq_true, if_false]
          exact .touched (callServer_touched hwf hfound net name c
            (by simp [hok]))
            (Or.inl (ActionServicesServer.pendingRuntimeEvents_call _ _ _ _))
            ((quiet_connection _ _).append (quiet_refused name _))

/-- What a call of the application does. -/
theorem call_cases (net : SendOracle) (name : String) (call : MuxCall) :
    StepCase strict s (s.call R net name call).state
      ((s.call R net name call).effects ++
        [.returned name call (s.call R net name call).result]) := by
  cases call with
  | acceptGoal goal => exact acceptGoal_cases hwf net name goal
  | rejectGoal goal => exact rejectGoal_cases hwf net name goal
  | acceptCancel goal =>
      exact routeActiveGoal_cases hwf net name (.acceptCancel goal) trivial
        (.acceptCancel goal) rfl
  | rejectCancel goal =>
      exact routeActiveGoal_cases hwf net name (.rejectCancel goal) trivial
        (.rejectCancel goal) rfl
  | sendFeedback goal pdu => exact sendFeedback_cases hwf net name goal pdu
  | complete goal status pdu =>
      exact complete_cases hwf net name goal status pdu

/-! ### Polls -/

omit hwf in
theorem withServer_update (hfound : s.slotAt k = some slot)
    {server : ActionServicesServer}
    (hslot : ({ slot with server := server } : ConnectionSlot).WellFormed)
    (hslots : s'.slots = (s.withServer k server).slots)
    (hissued : s'.issued = s.issued) :
    SlotUpdate s s' slot { slot with server := server } :=
  .of_modifySlot hfound (f := fun slot => { slot with server := server })
    rfl rfl hslot hslots hissued

/-- A Goal that has an owner is requested and rejected at once. -/
theorem duplicate_cases (hfound : s.slotAt k = some slot)
    {server : ActionServicesServer} (reject : SendOracle) {name : String}
    {event : ServerEvent} {obs : List MuxObs}
    (hslot : ({ slot with server := server } : ConnectionSlot).WellFormed)
    (hqueue : server.pendingRuntimeEvents = [])
    (habsent : slot.server.standing name event.goal.goalId = .absent)
    (hnew : ∀ a g, server.standing a g =
      if a = name ∧ g = event.goal.goalId then .undecided
      else slot.server.standing a g)
    (howned : s.owner name event.goal.goalId ≠ none)
    (hstrict : strict →
      (server.call R reject name (.rejectGoal event.goal)).result = true)
    (hquiet : Quiet obs) :
    StepCase strict s
      ((s.withServer k server).withServer k
        (server.call R reject name (.rejectGoal event.goal)).state) obs := by
  have hnumber := slotAt_number hfound
  have hupdate := withServer_update hfound hslot rfl rfl
  have hfound' : (s.withServer k server).slotAt k =
      some { slot with server := server } := by
    rw [hupdate.slotAt_eq, if_pos hnumber.symm]
  have hrejected : ({ slot with
      server := (server.call R reject name (.rejectGoal event.goal)).state } :
      ConnectionSlot).WellFormed := by
    refine hslot.step R (.call reject name (.rejectGoal event.goal)) rfl ?_
      hslot.processed
    dsimp only
    rw [ActionServicesServer.pendingRuntimeEvents_call]
    exact hslot.queue
  refine @StepCase.duplicate strict s _ slot _ obs name event.goal.goalId
    (server.call R reject name (.rejectGoal event.goal)).result _
    ⟨hupdate.trans (withServer_update hfound' hrejected rfl rfl),
      ⟨rfl, rfl⟩, ?_, Update.refl hwf.keys rfl⟩ ?_ habsent rfl howned
    hstrict hquiet
  · intro a g
    have hcall := (ActionServicesServer.call_standing (R := R) hslot.server
      reject name (.rejectGoal event.goal)).1 a g
    dsimp only at hcall ⊢
    rw [hcall, hnew]
    by_cases hgoal : a = name ∧ g = event.goal.goalId
    · simp [hgoal.1, hgoal.2, ServerCall.goal, ServerCall.standingAfter]
    · simp [hgoal, ServerCall.goal]
  · exact (ActionServicesServer.pendingRuntimeEvents_call _ _ _ _).trans hqueue

theorem pollSlot_cases (k : ℕ) (poll reject : SendOracle)
    (hstrict : strict → RejectsDuplicates R s (.pollSlot k poll reject)) :
    StepCase strict s (s.pollSlot R k poll reject).state
      (s.pollSlot R k poll reject).effects := by
  unfold pollSlot
  split
  · exact .same rfl rfl le_rfl quiet_nil
  · next slot hfound =>
      split_ifs with hretired
      · exact .same rfl rfl le_rfl quiet_nil
      · have hslot := hwf.slots hfound
        have hlive : slot.retired = false := by simpa using hretired
        have hcase := ActionServicesServer.poll_standing (R := R) hslot.server
          poll
        have hinv : (slot.server.poll R poll).state.Invariant :=
          hslot.server.step (R := R) (.poll poll)
        have hnamed : (slot.server.poll R poll).state.Named :=
          hslot.named.step (R := R) (.poll poll)
        have hreject := fun hs reported => hstrict hs slot hfound hlive reported
        generalize slot.server.poll R poll = o at hcase hinv hnamed hreject ⊢
        obtain ⟨server, result, effects⟩ := o
        dsimp only at hcase hinv hnamed hreject ⊢
        have hnumber := slotAt_number hfound
        have hquiet := quiet_connection k effects
        -- the connection after the poll, whatever became of its queue
        have hpolled : server.pendingRuntimeEvents.Sublist
              slot.server.pendingRuntimeEvents →
            ({ slot with server := server } : ConnectionSlot).WellFormed :=
          fun hsub => ⟨hinv, hnamed, hslot.queue.sublist hsub,
            hslot.processed⟩
        have htouched : server.pendingRuntimeEvents.Sublist
              slot.server.pendingRuntimeEvents →
            (∀ a g, server.standing a g = slot.server.standing a g) →
            Touched s (s.withServer k server) slot
              { slot with server := server } :=
          fun hsub hsame => ⟨withServer_update hfound (hpolled hsub) rfl rfl,
            ⟨rfl, rfl⟩, hsame, rfl⟩
        have hdrop : ∀ {dropped rest : List ServerEvent} {event : ServerEvent},
            slot.server.pendingRuntimeEvents = dropped ++ event :: rest →
            server.pendingRuntimeEvents = rest →
            server.pendingRuntimeEvents.Sublist
              slot.server.pendingRuntimeEvents := by
          intro dropped rest event hsplit hqueue
          rw [hsplit, hqueue]
          exact (List.sublist_cons_self _ _).trans
            (List.sublist_append_right _ _)
        cases hcase with
        | idle hqueue hsame =>
            exact .touched (htouched (by simp [hqueue]) hsame) (Or.inr hqueue)
              hquiet
        | cancelRequest hqueue hsame htype haccepted =>
            simp only [htype, ne_eq, reduceCtorEq, not_false_iff, if_true]
            subst hnumber
            exact .canceled (htouched (by simp [hqueue]) hsame) hqueue htype
              haccepted hquiet
        | @runtimeCancel dropped rest event hsplit hqueue hsame haccepted =>
            have htype : event.type = .runtimeCancelRequest :=
              hslot.queue.type_eq event (by simp [hsplit])
            simp only [htype, ne_eq, reduceCtorEq, not_false_iff, if_true]
            subst hnumber
            exact .runtimeCanceled (htouched (hdrop hsplit hqueue) hsame)
              hsplit hqueue haccepted hquiet
        | stale hsplit hqueue hsame hstanding =>
            simp only [ne_eq, reduceCtorEq, not_false_iff, if_true]
            subst hnumber
            exact .stale (htouched (hdrop hsplit hqueue) hsame) hsplit hqueue
              hstanding hquiet
        | @goalRequest name event hqueue htype hvalid habsent hnew =>
            have hslot' := hpolled (by simp [hqueue])
            simp only [htype, ne_eq, not_true_eq_false, if_false]
            split_ifs with howned
            · refine duplicate_cases hwf hfound reject hslot' hqueue habsent
                hnew ?_ (fun hs => hreject hs (name, event) rfl htype howned)
                (hquiet.append (quiet_connection _ _))
              rw [Ne, owner_eq_none]
              exact Option.isSome_iff_ne_none.mp howned
            · have hfree : s.findOwner name event.goal.goalId = none :=
                Option.not_isSome_iff_eq_none.mp howned
              subst hnumber
              exact .exposed
                ⟨withServer_update hfound hslot' rfl rfl, ⟨rfl, rfl⟩,
                  hnew, Update.append hwf.keys hfree rfl⟩
                hlive hqueue htype habsent (owner_eq_none.mpr hfree) hquiet

/-! ### Connections that come and go -/

omit hwf in
theorem discardOwners_kept {server : ActionServicesServer}
    (hinv : server.Invariant) (hnamed : server.Named)
    (owners : List GoalOwner) :
    (discardOwners R owners server).Invariant ∧
      (discardOwners R owners server).Named := by
  apply List.foldlRecOn (motive := fun server =>
    ActionServicesServer.Invariant server ∧ server.Named) owners _
    (And.intro hinv hnamed)
  intro server hserver o _
  exact ⟨hserver.1.step (R := R) (.call (fun _ _ => false) o.actionName
      (.discardPendingGoal ⟨o.goalId⟩)),
    hserver.2.step (R := R) (.call (fun _ _ => false) o.actionName
      (.discardPendingGoal ⟨o.goalId⟩))⟩

omit hwf in
/-- Discarding a list of owners ends those of their Goals that wait for a
decision. -/
theorem standing_discardOwners {server : ActionServicesServer}
    (hinv : server.Invariant) (hnamed : server.Named) (owners : List GoalOwner)
    (a : String) (g : GoalId) :
    (discardOwners R owners server).standing a g =
      if (a, g) ∈ owners.map GoalOwner.key ∧
          server.standing a g = .undecided then .absent
      else server.standing a g := by
  induction owners generalizing server with
  | nil => simp [discardOwners]
  | cons o rest ih =>
      obtain ⟨hafter, hbefore⟩ := ActionServicesServer.call_standing (R := R)
        hinv (fun _ _ => false) o.actionName (.discardPendingGoal ⟨o.goalId⟩)
      obtain ⟨hinv', hnamed'⟩ := discardOwners_kept (R := R) hinv hnamed [o]
      simp only [discardOwners, List.foldl_cons, List.foldl_nil]
        at hinv' hnamed' ih ⊢
      simp only [ih hinv' hnamed', hafter a g, ServerCall.goal,
        ServerCall.standingAfter, List.map_cons, List.mem_cons, GoalOwner.key,
        Prod.mk.injEq]
      by_cases hgoal : a = o.actionName ∧ g = o.goalId
      · obtain ⟨rfl, rfl⟩ := hgoal
        by_cases hundecided : server.standing o.actionName o.goalId =
            .undecided
        · simp [hundecided, ActionServicesServer.discard_of_undecided hinv
            hnamed]
        · have hfalse : (server.call R (fun _ _ => false) o.actionName
              (.discardPendingGoal ⟨o.goalId⟩)).result ≠ true :=
            fun h => hundecided (hbefore h)
          simp [hundecided, hfalse]
      · simp [hgoal]

theorem mem_pendingOwners {c : UInt64} {a : String} {g : GoalId} :
    (a, g) ∈ (s.pendingOwners c).map GoalOwner.key ↔
      s.owner a g = some (c, .pending) := by
  rw [← mem_owners_iff hwf.keys, List.mem_map]
  constructor
  · rintro ⟨o, ho, hkey⟩
    simp only [pendingOwners, List.mem_filter, decide_eq_true_eq] at ho
    obtain ⟨hmem, hid, hstate⟩ := ho
    obtain ⟨actionName, goalId, connectionId, state⟩ := o
    simp only [GoalOwner.key, Prod.mk.injEq] at hkey
    dsimp only at hid hstate
    rw [← hkey.1, ← hkey.2, ← hid, ← hstate]
    exact hmem
  · intro hmem
    refine ⟨⟨a, g, c, .pending⟩, ?_, rfl⟩
    simp [pendingOwners, hmem]

/-- The owners that are left when the disconnect of a connection is handled. -/
theorem owner_filter (t : ActionServicesMuxServer) {c : UInt64}
    (ht : t.owners = s.owners.filter fun owner =>
      ¬(owner.connectionId = c ∧ owner.state = .pending)) :
    (∀ a g, t.owner a g =
      if s.owner a g = some (c, .pending) then none else s.owner a g) ∧
      (t.owners.map GoalOwner.key).Nodup := by
  have hkeys : (t.owners.map GoalOwner.key).Nodup := by
    rw [ht]
    exact (List.filter_sublist.map _).nodup hwf.keys
  refine ⟨?_, hkeys⟩
  intro a g
  apply Option.ext
  rintro ⟨c', state⟩
  rw [← mem_owners_iff hkeys, ht, List.mem_filter, mem_owners_iff hwf.keys]
  by_cases hpending : s.owner a g = some (c, .pending)
  · simp only [hpending, if_true, Option.some.injEq, Prod.mk.injEq,
      decide_eq_true_eq, reduceCtorEq, iff_false]
    rintro ⟨⟨rfl, rfl⟩, hne⟩
    exact hne ⟨rfl, rfl⟩
  · simp only [hpending, if_false, decide_eq_true_eq]
    constructor
    · exact fun h => h.1
    · intro h
      refine ⟨h, ?_⟩
      rintro ⟨rfl, rfl⟩
      exact hpending h

omit hwf in
theorem hasActiveOwner_of_owner {c : UInt64} {a : String} {g : GoalId}
    (h : s.owner a g = some (c, .active)) : s.hasActiveOwner c = true := by
  simp only [hasActiveOwner, List.any_eq_true, decide_eq_true_eq]
  exact ⟨_, lookup_mem (findOwner_of_owner h), rfl, rfl⟩

theorem processSlot_cases (k : ℕ) :
    StepCase strict s (s.processSlot R k).state (s.processSlot R k).effects := by
  unfold processSlot
  split
  · exact .same rfl rfl le_rfl quiet_nil
  · next slot hfound =>
      by_cases hskip : ¬slot.disconnected ∨ slot.disconnectProcessed
      · rw [if_pos hskip]
        exact .same rfl rfl le_rfl quiet_nil
      · rw [if_neg hskip]
        have hslot := hwf.slots hfound
        have hnumber := slotAt_number hfound
        obtain ⟨hdisconnected, hunprocessed⟩ : slot.disconnected = true ∧
            slot.disconnectProcessed = false := by
          simpa [not_or] using hskip
        -- the services without the Goals that wait for a decision
        obtain ⟨hinv, hnamed⟩ := discardOwners_kept (R := R) hslot.server
          hslot.named (s.pendingOwners slot.connectionId)
        have hstanding := standing_discardOwners (R := R) hslot.server
          hslot.named (s.pendingOwners slot.connectionId)
        simp only [mem_pendingOwners hwf] at hstanding
        generalize discardOwners R (s.pendingOwners slot.connectionId)
          slot.server = server at hinv hnamed hstanding ⊢
        have hstop : server.stopAllServices.Invariant :=
          hinv.step (R := R) .stopAllServices
        subst hnumber
        obtain ⟨howner, hkeys⟩ := owner_filter hwf
          { s with
            owners := s.owners.filter fun owner =>
              ¬(owner.connectionId = slot.connectionId ∧
                owner.state = .pending) } rfl
        dsimp only
        cases hactive : s.hasActiveOwner slot.connectionId with
        | true =>
            refine @StepCase.orphaned strict s _ slot
              { slot with
                disconnectProcessed := true
                orphaned := true
                server := server.stopAllServices.notifyTransportDisconnected }
              (.of_modifySlot hfound (f := fun _ => _) rfl rfl ?_ rfl rfl)
              hunprocessed rfl rfl ?_ ?_ howner hkeys
            · exact ⟨hstop.step (R := R) .notifyTransportDisconnected,
                (hnamed.step (R := R) .stopAllServices).step (R := R)
                  .notifyTransportDisconnected,
                ActionServicesServer.runtimeQueue_notify .nil,
                fun _ => hdisconnected⟩
            · intro a g
              refine Eq.trans ?_ (hstanding a g)
              exact server.standing_stopAllServices a g
            · refine ActionServicesServer.queueAccepted_notify hstop ?_
              intro event hevent
              simp [ActionServicesServer.stopAllServices] at hevent
        | false =>
            refine @StepCase.abandoned strict s _ slot
              { slot with
                disconnectProcessed := true
                retired := true
                server := server.stopAllServices.clearAllInstances }
              (.of_modifySlot hfound (f := fun _ => _) rfl rfl ?_ rfl rfl)
              ⟨?_, rfl⟩ hunprocessed rfl ?_ howner hkeys
            · exact ⟨hstop.step (R := R) .clearAllInstances,
                (hnamed.step (R := R) .stopAllServices).step (R := R)
                  .clearAllInstances,
                .nil, fun _ => hdisconnected⟩
            · exact server.stopAllServices.standing_clearAllInstances
            · intro a g h
              rw [hasActiveOwner_of_owner h] at hactive
              simp at hactive

omit hwf in
theorem started_wellFormed (R : PduRegistry) (s : ActionServicesMuxServer)
    (nodeId implType : String) (endpointExists : String → Bool) (root : Json) :
    (s.newSlot (startedServer R nodeId implType endpointExists
      root)).WellFormed where
  server := ActionServicesServer.invariant_started nodeId implType
    endpointExists root
  named := ActionServicesServer.named_started R nodeId implType endpointExists
    root
  queue := by
    rw [newSlot, ActionServicesServer.pendingRuntimeEvents_started]
    exact .nil
  processed := by simp [newSlot]

omit hwf in
theorem standing_started (R : PduRegistry) (nodeId implType : String)
    (endpointExists : String → Bool) (root : Json) (a : String) (g : GoalId) :
    (startedServer R nodeId implType endpointExists root).standing a g =
      .absent := by
  have hfresh :=
    (ActionServicesServer.startedServer_ok R nodeId implType endpointExists
      root).2
  unfold ActionServicesServer.standing ActionServicesServer.standingIn
  split
  · rfl
  · next inst hinst =>
      have hinst := hfresh inst (lookup_mem hinst)
      rw [ServerActionInstance.standing_eq_absent
        (ServerActionInstance.invariant_of_fresh hinst),
        ServerActionInstance.binding, hinst.endpoint_eq]
      rfl

omit hwf in
theorem acceptConnection_cases (capacity : ℕ) (document : Option Json) :
    StepCase strict s (s.acceptConnection R capacity document).state
      (s.acceptConnection R capacity document).effects := by
  unfold acceptConnection
  split_ifs
  · exact .same rfl rfl le_rfl quiet_nil
  · cases document with
    | none => exact .same rfl rfl (Nat.le_succ _) quiet_nil
    | some root =>
        dsimp only
        split_ifs
        · exact .connected rfl
            (started_wellFormed R s s.nodeId s.implType (fun _ => true) root)
            rfl
            (standing_started R s.nodeId s.implType (fun _ => true) root)
            (ActionServicesServer.pendingRuntimeEvents_started R s.nodeId
              s.implType (fun _ => true) root) rfl rfl rfl
        · exact .same rfl rfl (Nat.le_succ _) quiet_nil

/-! ### The inversion lemma -/

/-- Every step of a well-formed server is one of the cases. -/
theorem step_cases (i : MuxStep)
    (hstrict : strict → RejectsDuplicates R s i) :
    StepCase strict s ((muxStepMachine R).step s i).1
      ((muxStepMachine R).step s i).2 := by
  cases i with
  | transport event => exact transport_cases hwf R event
  | acceptConnection capacity document =>
      exact acceptConnection_cases capacity document
  | processSlot k => exact processSlot_cases hwf k
  | pollSlot k poll reject => exact pollSlot_cases hwf k poll reject hstrict
  | call net name call => exact call_cases hwf net name call
  | opened expectedCount =>
      simp only [muxStepMachine, initializeMux]
      repeat' (first | exact .same rfl rfl le_rfl quiet_nil | split)
  | started ok =>
      simp only [muxStepMachine, startMux]
      repeat' (first | exact .same rfl rfl le_rfl quiet_nil | split)
  | stop => exact .stopped rfl rfl rfl

/-- The cases that a step has whatever the transport does. -/
theorem step_case (i : MuxStep) :
    StepCase False s ((muxStepMachine R).step s i).1
      ((muxStepMachine R).step s i).2 :=
  step_cases hwf i False.elim

end Connections

end ActionServicesMuxServer

end HakoPduRpc.Action
