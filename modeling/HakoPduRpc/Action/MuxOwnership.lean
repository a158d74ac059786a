import HakoPduRpc.Action.MuxSteps
import HakoPduRpc.Pdu.Layout

/-!
# Owners and connections

The index of owners is a copy of what the services of the connections know.
`Invariant` says how far the two agree in every reachable state: whatever the
ids, an accepted Goal has its owner, and the calls for this owner reach the
connection that accepted it.

While no id has been handed out twice they agree on more: an owner stands for a
Goal of its connection, and a Goal that waits for its decision has an owner as
long as the automatic rejections are sent; that is the parameter `strict`.
-/

namespace HakoPduRpc.Action

open KeyedList Tickets

namespace ActionServicesMuxServer

variable {R : PduRegistry} {strict : Prop} {s s' : ActionServicesMuxServer}

/-! ## Ids that were handed out once -/

/-- The counter of the ids has not gone round. -/
def Unwrapped (s : ActionServicesMuxServer) : Prop := s.issued ≤ 2 ^ 64

theorem StepCase.issued_le {obs : List MuxObs}
    (hcase : StepCase strict s s' obs) : s.issued ≤ s'.issued := by
  cases hcase with
  | same _ _ hissued => exact hissued
  | touched htouched => exact htouched.issued_eq.ge
  | called htouched => exact htouched.issued_eq.ge
  | canceled htouched => exact htouched.issued_eq.ge
  | runtimeCanceled htouched => exact htouched.issued_eq.ge
  | stale htouched => exact htouched.issued_eq.ge
  | exposed hmoved => exact hmoved.issued_eq.ge
  | duplicate hmoved => exact hmoved.issued_eq.ge
  | accepted hmoved => exact hmoved.issued_eq.ge
  | rejected hmoved => exact hmoved.issued_eq.ge
  | completed hmoved => exact hmoved.issued_eq.ge
  | reclaimed hmoved _ hslot =>
      exact (hslot.issued_eq.trans hmoved.issued_eq).ge
  | connected _ _ _ _ _ _ _ hissued => exact Nat.le.intro hissued.symm
  | orphaned hslot => exact hslot.issued_eq.ge
  | abandoned hslot => exact hslot.issued_eq.ge
  | stopped _ _ hissued => exact hissued.ge

/-- Connections with one id are the same one. -/
theorem WellFormed.number_eq (hwf : s.WellFormed) (hu : s.Unwrapped)
    {k k' : ℕ} {slot slot' : ConnectionSlot} (hslot : s.slotAt k = some slot)
    (hslot' : s.slotAt k' = some slot')
    (hid : slot'.connectionId = slot.connectionId) : k' = k := by
  have hk := slotAt_number hslot
  have hk' := slotAt_number hslot'
  apply ticket_inj hu (hwf.fresh hslot') (hwf.fresh hslot)
  rw [← hk, ← hk', ← slot.id_eq, ← slot'.id_eq, hid]

/-- Every connection is the first one with its id. -/
theorem WellFormed.findSlot_of_slotAt (hwf : s.WellFormed) (hu : s.Unwrapped)
    {k : ℕ} {slot : ConnectionSlot} (hslot : s.slotAt k = some slot) :
    s.findSlot slot.connectionId = some slot := by
  cases hfound : s.findSlot slot.connectionId with
  | none =>
      rw [findSlot, lookup_eq_none_iff] at hfound
      exact absurd (List.mem_map_of_mem (lookup_mem hslot)) hfound
  | some first =>
      have hfirst := hwf.slotAt_of_findSlot hfound
      rw [hwf.number_eq hu hslot hfirst (findSlot_id hfound), hslot] at hfirst
      exact hfirst.symm

/-! ## The invariant -/

/-- A connection and an index of owners agree. -/
structure Agrees (strict : Prop) (slot : ConnectionSlot)
    (owner : String → GoalId → Option (UInt64 × GoalOwnerState)) : Prop where
  owned : ∀ {a g state}, owner a g = some (slot.connectionId, state) →
    slot.retired = false ∧ slot.server.standing a g = state.standing
  accepted : ∀ {a g}, slot.server.standing a g = .accepted →
    owner a g = some (slot.connectionId, .active)
  undecided : strict → slot.retired = false → ∀ {a g},
    slot.server.standing a g = .undecided →
    owner a g = some (slot.connectionId, .pending)

/-- The connections and the index of owners agree. -/
structure Agreement (strict : Prop) (s : ActionServicesMuxServer) :
    Prop where
  agrees : ∀ {k slot}, s.slotAt k = some slot → Agrees strict slot s.owner
  found : ∀ {a g v}, s.owner a g = some v →
    ∃ slot, s.findSlot v.1 = some slot

/-- The owners of accepted Goals are where they should be, whatever the ids. -/
structure AcceptedOwned (s : ActionServicesMuxServer) : Prop
    extends WellFormed s where
  accepted : ∀ {k slot}, s.slotAt k = some slot → ∀ {a g},
    slot.server.standing a g = .accepted → Routed s slot a g .active
  active : ∀ {a g c}, s.owner a g = some (c, .active) →
    ∃ slot, s.findSlot c = some slot ∧ slot.server.standing a g = .accepted

/-- What holds in every reachable state. -/
structure Invariant (strict : Prop) (s : ActionServicesMuxServer) : Prop
    extends AcceptedOwned s where
  agreement : s.Unwrapped → Agreement strict s


theorem slotAt_congr (h : s'.slots = s.slots) : s'.slotAt = s.slotAt := by
  funext k
  rw [slotAt, slotAt, h]

theorem findSlot_congr (h : s'.slots = s.slots) :
    s'.findSlot = s.findSlot := by
  funext c
  rw [findSlot, findSlot, h]

theorem slotAt_connected {slot : ConnectionSlot}
    (hnew : s.slotAt slot.number = none)
    (hslots : s'.slots = s.slots ++ [slot]) (k : ℕ) :
    s'.slotAt k = if k = slot.number then some slot else s.slotAt k := by
  unfold slotAt at hnew ⊢
  rw [hslots, lookup_append_singleton]
  by_cases hk : k = slot.number
  · simp [hk, hnew]
  · simp [hk, Ne.symm hk]

/-! ## Accepted Goals -/

/-- A call reaches one connection. -/
theorem Routed.slot_eq {slot slot' : ConnectionSlot} {name : String}
    {g : GoalId} {state state' : GoalOwnerState}
    (h : Routed s slot name g state) (h' : Routed s slot' name g state') :
    slot' = slot := by
  have howner := h'.owner_eq
  rw [h.owner_eq, Option.some.injEq, Prod.mk.injEq] at howner
  have hfirst := h'.first
  rw [← howner.1, h.first] at hfirst
  exact (Option.some.inj hfirst).symm

section Updates

variable {slot slot' : ConnectionSlot}

/-- One connection changes, and no accepted Goal does. -/
theorem AcceptedOwned.update (h : s.AcceptedOwned)
    (hslot : SlotUpdate s s' slot slot')
    (hkeys : (s'.owners.map GoalOwner.key).Nodup)
    (hstanding : ∀ a g, slot'.server.standing a g = .accepted ↔
      slot.server.standing a g = .accepted)
    (howner : ∀ a g c, s'.owner a g = some (c, .active) ↔
      s.owner a g = some (c, .active)) : s'.AcceptedOwned where
  toWellFormed := hslot.wellFormed_of h.toWellFormed hkeys
  accepted := by
    intro k found hfound a g haccepted
    rw [hslot.slotAt_eq] at hfound
    split_ifs at hfound with hk
    · obtain rfl := Option.some.inj hfound
      have hrouted := h.accepted hslot.found ((hstanding a g).mp haccepted)
      constructor
      · rw [hslot.id_eq]
        exact (howner a g _).mpr hrouted.owner_eq
      · rw [hslot.id_eq]
        exact hslot.findSlot_self h.toWellFormed hrouted.first
    · have hrouted := h.accepted hfound haccepted
      refine ⟨(howner a g _).mpr hrouted.owner_eq,
        hslot.findSlot_other h.toWellFormed hrouted.first ?_⟩
      rw [slotAt_number hfound]
      exact hk
  active := by
    intro a g c hactive
    obtain ⟨found, hfirst, haccepted⟩ := h.active ((howner a g c).mp hactive)
    by_cases hnumber : found.number = slot.number
    · obtain rfl := eq_of_number hslot.found (h.slotAt_of_findSlot hfirst)
        hnumber
      exact ⟨slot', hslot.findSlot_self h.toWellFormed hfirst,
        (hstanding a g).mpr haccepted⟩
    · exact ⟨found, hslot.findSlot_other h.toWellFormed hfirst hnumber,
        haccepted⟩

/-- A Goal of the connection that its calls reach is accepted or ends. -/
theorem AcceptedOwned.moved (h : s.AcceptedOwned) {name : String} {g : GoalId}
    {standing : GoalStanding} {v : Option (UInt64 × GoalOwnerState)}
    {state : GoalOwnerState} (hmoved : Moved s s' slot slot' name g standing v)
    (hrouted : Routed s slot name g state)
    (hafter : standing = .accepted ∧ v = some (slot.connectionId, .active) ∨
      standing ≠ .accepted ∧ v = none) : s'.AcceptedOwned where
  toWellFormed := hmoved.wellFormed_of h.toWellFormed hmoved.owners.nodup
  accepted := by
    intro k found hfound a g' haccepted
    have hother : ∀ {found'}, Routed s found' a g' .active →
        ¬(a = name ∧ g' = g) →
        s'.owner a g' = some (found'.connectionId, .active) := by
      intro found' hrouted' hgoal
      rw [hmoved.owners.owner_eq, if_neg hgoal]
      exact hrouted'.owner_eq
    rw [hmoved.slotAt_eq] at hfound
    split_ifs at hfound with hk
    · obtain rfl := Option.some.inj hfound
      rw [hmoved.standing_eq] at haccepted
      constructor
      · rw [hmoved.id_eq]
        split_ifs at haccepted with hgoal
        · obtain ⟨-, hv⟩ | ⟨hne, -⟩ := hafter
          · rw [hmoved.owners.owner_eq, if_pos hgoal]
            exact hv
          · exact absurd haccepted hne
        · exact hother (h.accepted hmoved.found haccepted) hgoal
      · rw [hmoved.id_eq]
        exact hmoved.findSlot_self h.toWellFormed hrouted.first
    · have hrouted' := h.accepted hfound haccepted
      have hne : found ≠ slot := by
        rintro rfl
        exact hk (slotAt_number hfound).symm
      refine ⟨hother hrouted' ?_,
        hmoved.findSlot_other h.toWellFormed hrouted'.first ?_⟩
      · rintro ⟨rfl, rfl⟩
        exact hne (hrouted.slot_eq hrouted')
      · rw [slotAt_number hfound]
        exact hk
  active := by
    intro a g' c hactive
    rw [hmoved.owners.owner_eq] at hactive
    split_ifs at hactive with hgoal
    · obtain ⟨hstanding, hv⟩ | ⟨-, hv⟩ := hafter
      · rw [hv, Option.some.injEq, Prod.mk.injEq] at hactive
        refine ⟨slot', ?_, ?_⟩
        · rw [← hactive.1]
          exact hmoved.findSlot_self h.toWellFormed hrouted.first
        · rw [hmoved.standing_eq, if_pos hgoal]
          exact hstanding
      · rw [hv] at hactive
        simp at hactive
    · obtain ⟨found, hfirst, haccepted⟩ := h.active hactive
      by_cases hnumber : found.number = slot.number
      · obtain rfl := eq_of_number hmoved.found (h.slotAt_of_findSlot hfirst)
          hnumber
        refine ⟨slot', hmoved.findSlot_self h.toWellFormed hfirst, ?_⟩
        rw [hmoved.standing_eq, if_neg hgoal]
        exact haccepted
      · exact ⟨found, hmoved.findSlot_other h.toWellFormed hfirst hnumber,
          haccepted⟩

theorem AcceptedOwned.touched (h : s.AcceptedOwned)
    (htouched : Touched s s' slot slot') : s'.AcceptedOwned := by
  refine h.update htouched.toSlotUpdate ?_ ?_ ?_
  · rw [htouched.owners_eq]
    exact h.keys
  · intro a g
    rw [htouched.standing_eq]
  · intro a g c
    rw [owner_congr htouched.owners_eq]

/-- A Goal that is not accepted moves to a standing that is not accepted. -/
theorem AcceptedOwned.undecided (h : s.AcceptedOwned) {name : String}
    {g : GoalId} {standing : GoalStanding}
    {v : Option (UInt64 × GoalOwnerState)}
    (hmoved : Moved s s' slot slot' name g standing v)
    (hbefore : slot.server.standing name g ≠ .accepted)
    (hafter : standing ≠ .accepted)
    (howner : ∀ c, v = some (c, .active) ↔
      s.owner name g = some (c, .active)) : s'.AcceptedOwned := by
  refine h.update hmoved.toSlotUpdate hmoved.owners.nodup ?_ ?_
  · intro a g'
    rw [hmoved.standing_eq]
    split_ifs with hgoal
    · rw [hgoal.1, hgoal.2]
      exact iff_of_false hafter hbefore
    · rfl
  · intro a g' c
    rw [hmoved.owners.owner_eq]
    split_ifs with hgoal
    · rw [hgoal.1, hgoal.2]
      exact howner c
    · rfl

end Updates

/-- The owners that are left when the disconnect of a connection is handled:
the accepted ones stay. -/
theorem owner_processed_active {c : UInt64}
    (howner : ∀ a g, s'.owner a g =
      if s.owner a g = some (c, .pending) then none else s.owner a g)
    (a : String) (g : GoalId) (c' : UInt64) :
    s'.owner a g = some (c', .active) ↔ s.owner a g = some (c', .active) := by
  rw [howner]
  split_ifs with hpending
  · simp [hpending]
  · rfl

/-- A new connection has no Goals. -/
theorem AcceptedOwned.connected (h : s.AcceptedOwned) {slot : ConnectionSlot}
    (hnumber : slot.number = s.issued) (hwf : slot.WellFormed)
    (hstanding : ∀ a g, slot.server.standing a g = .absent)
    (hslots : s'.slots = s.slots ++ [slot]) (howners : s'.owners = s.owners)
    (hissued : s'.issued = s.issued + 1) : s'.AcceptedOwned := by
  have hnew : s.slotAt slot.number = none := by
    by_contra hfound
    obtain ⟨other, hother⟩ := Option.ne_none_iff_exists'.mp hfound
    have hlt := h.fresh hother
    omega
  have hslot := slotAt_connected hnew hslots
  have hfirst : ∀ {c found}, s.findSlot c = some found →
      s'.findSlot c = some found := by
    intro c found hfound
    unfold findSlot at hfound ⊢
    rw [hslots, lookup_append_singleton, hfound]
    rfl
  constructor
  · constructor
    · have happend : Update (·.number) id s.slots (s.slots ++ [slot])
          slot.number (some slot) := Update.append h.numbers hnew rfl
      rw [hslots]
      exact happend.nodup
    · intro k found hfound
      rw [hslot] at hfound
      split_ifs at hfound with hk
      · omega
      · have hlt := h.fresh hfound
        omega
    · rw [howners]
      exact h.keys
    · intro k found hfound
      rw [hslot] at hfound
      split_ifs at hfound with hk
      · rw [← Option.some.inj hfound]
        exact hwf
      · exact h.slots hfound
  · intro k found hfound a g haccepted
    rw [hslot] at hfound
    split_ifs at hfound with hk
    · rw [← Option.some.inj hfound, hstanding] at haccepted
      simp at haccepted
    · have hrouted := h.accepted hfound haccepted
      refine ⟨?_, hfirst hrouted.first⟩
      rw [owner_congr howners]
      exact hrouted.owner_eq
  · intro a g c hactive
    rw [owner_congr howners] at hactive
    obtain ⟨found, hfound, haccepted⟩ := h.active hactive
    exact ⟨found, hfirst hfound, haccepted⟩

theorem AcceptedOwned.stepCase (h : s.AcceptedOwned) {obs : List MuxObs}
    (hcase : StepCase strict s s' obs) : s'.AcceptedOwned := by
  cases hcase with
  | same hslots howners hissued =>
      constructor
      · constructor
        · rw [hslots]
          exact h.numbers
        · intro k slot hk
          rw [slotAt_congr hslots] at hk
          exact lt_of_lt_of_le (h.fresh hk) hissued
        · rw [howners]
          exact h.keys
        · intro k slot hk
          rw [slotAt_congr hslots] at hk
          exact h.slots hk
      · intro k slot hk a g haccepted
        rw [slotAt_congr hslots] at hk
        have hrouted := h.accepted hk haccepted
        constructor
        · rw [owner_congr howners]
          exact hrouted.owner_eq
        · rw [findSlot_congr hslots]
          exact hrouted.first
      · intro a g c hactive
        rw [owner_congr howners] at hactive
        rw [findSlot_congr hslots]
        exact h.active hactive
  | touched htouched => exact h.touched htouched
  | called htouched => exact h.touched htouched
  | canceled htouched => exact h.touched htouched
  | runtimeCanceled htouched => exact h.touched htouched
  | stale htouched => exact h.touched htouched
  | exposed hmoved _ _ _ habsent hfree =>
      exact h.undecided hmoved (by simp [habsent]) (by simp) (by simp [hfree])
  | @duplicate _ _ _ _ _ _ rejected _ hmoved _ habsent howned =>
      refine h.undecided hmoved (by simp [habsent]) ?_ (by simp [howned])
      cases rejected <;> simp
  | accepted hmoved _ _ hrouted =>
      exact h.moved hmoved hrouted (Or.inl ⟨rfl, rfl⟩)
  | rejected hmoved _ hrouted =>
      exact h.moved hmoved hrouted (Or.inr ⟨by simp, rfl⟩)
  | completed hmoved _ hrouted =>
      exact h.moved hmoved hrouted (Or.inr ⟨by simp, rfl⟩)
  | reclaimed hmoved _ hslot hretired hid _ howners hlast hrouted =>
      have hended := h.moved hmoved hrouted (Or.inr ⟨by simp, rfl⟩)
      refine hended.update hslot ?_ ?_ ?_
      · rw [howners]
        exact hended.keys
      · intro a g
        rw [hretired.standing_eq]
        refine iff_of_false (by simp) fun haccepted => ?_
        have howner := (hended.accepted hslot.found haccepted).owner_eq
        rw [← owner_congr howners] at howner
        exact hlast a g _ howner hid
      · intro a g c
        rw [owner_congr howners]
  | connected hnumber hwf _ hstanding _ hslots howners hissued =>
      exact h.connected hnumber hwf hstanding hslots howners hissued
  | orphaned hslot _ _ _ hstanding _ howner hkeys =>
      refine h.update hslot hkeys ?_ (owner_processed_active howner)
      intro a g
      rw [hstanding]
      split_ifs with hpending
      · simp [hpending.2]
      · rfl
  | abandoned hslot hretired _ _ hinactive howner hkeys =>
      refine h.update hslot hkeys ?_ (owner_processed_active howner)
      intro a g
      rw [hretired.standing_eq]
      refine iff_of_false (by simp) fun haccepted => ?_
      exact hinactive a g (h.accepted hslot.found haccepted).owner_eq
  | stopped hslots howners hissued =>
      have hslot : ∀ k, s'.slotAt k = none := by
        intro k
        rw [slotAt, hslots]
        rfl
      have howner : ∀ a g, s'.owner a g = none := by
        intro a g
        rw [owner, findOwner, howners]
        rfl
      constructor
      · constructor
        · simp [hslots]
        · simp [hslot]
        · simp [howners]
        · simp [hslot]
      · simp [hslot]
      · simp [howner]

/-! ## Agreement -/

section Agreements

variable {slot slot' : ConnectionSlot} (h : Agreement strict s)
  (hwf : s.WellFormed) (hu : s.Unwrapped)

include h hwf hu

/-- One connection changes, and of the owners only those of its Goals. -/
theorem Agreement.update (hslot : SlotUpdate s s' slot slot')
    (howners : ∀ a g, s'.owner a g = s.owner a g ∨
      (∀ v, s.owner a g = some v → v.1 = slot.connectionId) ∧
        ∀ v, s'.owner a g = some v → v.1 = slot.connectionId)
    (hagrees : Agrees strict slot' s'.owner) : Agreement strict s' where
  agrees := by
    intro k other hother
    rw [hslot.slotAt_eq] at hother
    split_ifs at hother with hk
    · rw [← Option.some.inj hother]
      exact hagrees
    · have hold := h.agrees hother
      have hne : other.connectionId ≠ slot.connectionId := fun hid =>
        hk (hwf.number_eq hu hslot.found hother hid)
      constructor
      · intro a g state howner
        rcases howners a g with hsame | ⟨-, hnew⟩
        · exact hold.owned (hsame ▸ howner)
        · exact absurd (hnew _ howner) hne
      · intro a g hstanding
        have howner := hold.accepted hstanding
        rcases howners a g with hsame | ⟨hbefore, -⟩
        · exact hsame.trans howner
        · exact absurd (hbefore _ howner) hne
      · intro hs hlive a g hstanding
        have howner := hold.undecided hs hlive hstanding
        rcases howners a g with hsame | ⟨hbefore, -⟩
        · exact hsame.trans howner
        · exact absurd (hbefore _ howner) hne
  found := by
    intro a g v hv
    rw [hslot.findSlot_eq hwf]
    rcases howners a g with hsame | ⟨-, hnew⟩
    · obtain ⟨found, hfound⟩ := h.found (hsame ▸ hv)
      exact ⟨_, by rw [hfound, Option.map_some]⟩
    · rw [hnew v hv, hwf.findSlot_of_slotAt hu hslot.found, Option.map_some]
      exact ⟨_, rfl⟩

theorem Agreement.touched (htouched : Touched s s' slot slot') :
    Agreement strict s' := by
  have howner := owner_congr htouched.owners_eq
  have hold := h.agrees htouched.found
  refine h.update hwf hu htouched.toSlotUpdate ?_ ?_
  · intro a g
    exact Or.inl (congrFun (congrFun howner a) g)
  · rw [howner]
    constructor
    · intro a g state hstate
      rw [htouched.id_eq] at hstate
      rw [htouched.retired_eq, htouched.standing_eq]
      exact hold.owned hstate
    · intro a g hstanding
      rw [htouched.standing_eq] at hstanding
      rw [htouched.id_eq]
      exact hold.accepted hstanding
    · intro hs hlive a g hstanding
      rw [htouched.retired_eq] at hlive
      rw [htouched.standing_eq] at hstanding
      rw [htouched.id_eq]
      exact hold.undecided hs hlive hstanding

/-- A Goal moves to a standing that its new owner stands for. -/
theorem Agreement.moved {name : String} {g : GoalId} {standing : GoalStanding}
    {v : Option (UInt64 × GoalOwnerState)}
    (hmoved : Moved s s' slot slot' name g standing v)
    (hbefore : ∀ w, s.owner name g = some w → w.1 = slot.connectionId)
    (hlive : slot.retired = false)
    (hafter : (v = none ∧ standing = .absent) ∨
      ∃ state, v = some (slot.connectionId, state) ∧
        standing = state.standing) :
    Agreement strict s' := by
  have hold := h.agrees hmoved.found
  have howner := hmoved.owners.owner_eq
  refine h.update hwf hu hmoved.toSlotUpdate ?_ ?_
  · intro a g'
    rw [howner]
    split_ifs with hgoal
    · refine Or.inr ⟨?_, ?_⟩
      · rw [hgoal.1, hgoal.2]
        exact hbefore
      · intro w hw
        rcases hafter with ⟨rfl, -⟩ | ⟨state, rfl, -⟩
        · simp at hw
        · rw [← Option.some.inj hw]
    · exact Or.inl rfl
  · constructor
    · intro a g' state hstate
      rw [howner, hmoved.id_eq] at hstate
      rw [hmoved.retired_eq, hmoved.standing_eq]
      refine ⟨hlive, ?_⟩
      split_ifs at hstate ⊢
      · rcases hafter with ⟨rfl, -⟩ | ⟨state', rfl, hstanding⟩
        · simp at hstate
        · simp only [Option.some.injEq, Prod.mk.injEq, true_and] at hstate
          rw [hstanding, hstate]
      · exact (hold.owned hstate).2
    · intro a g' hstanding
      rw [hmoved.standing_eq] at hstanding
      rw [howner, hmoved.id_eq]
      split_ifs at hstanding ⊢
      · rcases hafter with ⟨-, rfl⟩ | ⟨state, rfl, rfl⟩
        · simp at hstanding
        · cases state
          · simp [GoalOwnerState.standing] at hstanding
          · rfl
      · exact hold.accepted hstanding
    · intro hs _ a g' hstanding
      rw [hmoved.standing_eq] at hstanding
      rw [howner, hmoved.id_eq]
      split_ifs at hstanding ⊢
      · rcases hafter with ⟨-, rfl⟩ | ⟨state, rfl, rfl⟩
        · simp at hstanding
        · cases state
          · rfl
          · simp [GoalOwnerState.standing] at hstanding
      · exact hold.undecided hs hlive hstanding

/-- A Goal of the connection that its calls reach moves. -/
theorem Agreement.routed {name : String} {g : GoalId} {standing : GoalStanding}
    {v : Option (UInt64 × GoalOwnerState)} {state : GoalOwnerState}
    (hmoved : Moved s s' slot slot' name g standing v)
    (hrouted : Routed s slot name g state)
    (hafter : (v = none ∧ standing = .absent) ∨
      ∃ state, v = some (slot.connectionId, state) ∧
        standing = state.standing) :
    Agreement strict s' := by
  refine h.moved hwf hu hmoved ?_
    ((h.agrees hmoved.found).owned hrouted.owner_eq).1 hafter
  intro w hw
  rw [hrouted.owner_eq] at hw
  rw [← Option.some.inj hw]

/-- The Goals of a connection that is done with have no owner. -/
theorem Agreement.retired (hslot : SlotUpdate s s' slot slot')
    (hretired : Retired slot')
    (howners : ∀ a g, s'.owner a g = s.owner a g ∨
      (∀ v, s.owner a g = some v → v.1 = slot.connectionId) ∧
        s'.owner a g = none)
    (hlast : ∀ a g v, s'.owner a g = some v → v.1 ≠ slot.connectionId) :
    Agreement strict s' := by
  refine h.update hwf hu hslot ?_ ?_
  · intro a g
    rcases howners a g with hsame | ⟨hbefore, hnone⟩
    · exact Or.inl hsame
    · refine Or.inr ⟨hbefore, ?_⟩
      rw [hnone]
      simp
  · constructor
    · intro a g state hstate
      exact absurd hslot.id_eq (hlast a g _ hstate)
    · intro a g hstanding
      rw [hretired.standing_eq] at hstanding
      simp at hstanding
    · intro _ _ a g hstanding
      rw [hretired.standing_eq] at hstanding
      simp at hstanding

/-- A rejected duplicate belongs to another connection, so nothing that the
index knows of this connection changes. -/
theorem Agreement.duplicate {name : String} {g : GoalId} {rejected : Bool}
    {v : Option (UInt64 × GoalOwnerState)}
    (hmoved : Moved s s' slot slot' name g
      (if rejected then .absent else .undecided) v)
    (habsent : slot.server.standing name g = .absent)
    (howned : s.owner name g = v) (hstrict : strict → rejected = true) :
    Agreement strict s' := by
  have hold := h.agrees hmoved.found
  have howner : s'.owner = s.owner := by
    funext a g'
    rw [hmoved.owners.owner_eq]
    split_ifs with hgoal
    · rw [hgoal.1, hgoal.2, howned]
    · rfl
  refine h.update hwf hu hmoved.toSlotUpdate ?_ ?_
  · intro a g'
    exact Or.inl (congrFun (congrFun howner a) g')
  · rw [howner]
    constructor
    · intro a g' state hstate
      rw [hmoved.id_eq] at hstate
      obtain ⟨hlive, hstanding⟩ := hold.owned hstate
      rw [hmoved.retired_eq, hmoved.standing_eq]
      refine ⟨hlive, ?_⟩
      by_cases hgoal : a = name ∧ g' = g
      · rw [hgoal.1, hgoal.2, habsent] at hstanding
        cases state <;> simp [GoalOwnerState.standing] at hstanding
      · rw [if_neg hgoal]
        exact hstanding
    · intro a g' hstanding
      rw [hmoved.standing_eq] at hstanding
      rw [hmoved.id_eq]
      by_cases hgoal : a = name ∧ g' = g
      · cases rejected <;> simp [hgoal] at hstanding
      · rw [if_neg hgoal] at hstanding
        exact hold.accepted hstanding
    · intro hs hlive a g' hstanding
      rw [hmoved.retired_eq] at hlive
      rw [hmoved.standing_eq] at hstanding
      rw [hmoved.id_eq]
      by_cases hgoal : a = name ∧ g' = g
      · simp [hgoal, hstrict hs] at hstanding
      · rw [if_neg hgoal] at hstanding
        exact hold.undecided hs hlive hstanding

end Agreements

/-- Only owners of the connection whose disconnect is handled change. -/
theorem owner_processed {c : UInt64}
    (howner : ∀ a g, s'.owner a g =
      if s.owner a g = some (c, .pending) then none else s.owner a g)
    (a : String) (g : GoalId) :
    s'.owner a g = s.owner a g ∨
      (∀ v, s.owner a g = some v → v.1 = c) ∧ s'.owner a g = none := by
  rw [howner]
  split_ifs with hpending
  · refine Or.inr ⟨?_, rfl⟩
    intro v hv
    rw [hpending] at hv
    rw [← Option.some.inj hv]
  · exact Or.inl rfl

/-- A new connection has no Goals and its id is new. -/
theorem Agreement.connected (h : Agreement strict s) (hwf : s.WellFormed)
    (hu : s'.Unwrapped) {slot : ConnectionSlot}
    (hnumber : slot.number = s.issued)
    (hstanding : ∀ a g, slot.server.standing a g = .absent)
    (hslots : s'.slots = s.slots ++ [slot]) (howners : s'.owners = s.owners)
    (hissued : s'.issued = s.issued + 1) : Agreement strict s' := by
  have hnew : s.slotAt slot.number = none := by
    by_contra hfound
    obtain ⟨other, hother⟩ := Option.ne_none_iff_exists'.mp hfound
    have hlt := hwf.fresh hother
    omega
  have hunused : ∀ {found}, s.findSlot slot.connectionId ≠ some found := by
    intro found hfound
    have hlt := hwf.fresh (hwf.slotAt_of_findSlot hfound)
    have hid := findSlot_id hfound
    rw [found.id_eq, slot.id_eq] at hid
    have heq := ticket_inj hu (by omega) (by omega) hid
    omega
  constructor
  · intro k found hfound
    rw [owner_congr howners]
    rw [slotAt_connected hnew hslots] at hfound
    split_ifs at hfound with hk
    · obtain rfl := Option.some.inj hfound
      constructor
      · intro a g state hstate
        obtain ⟨other, hother⟩ := h.found hstate
        exact absurd hother hunused
      · intro a g haccepted
        rw [hstanding] at haccepted
        simp at haccepted
      · intro _ _ a g hundecided
        rw [hstanding] at hundecided
        simp at hundecided
    · exact h.agrees hfound
  · intro a g v hv
    rw [owner_congr howners] at hv
    obtain ⟨found, hfound⟩ := h.found hv
    refine ⟨found, ?_⟩
    unfold findSlot at hfound ⊢
    rw [hslots, lookup_append_singleton, hfound]
    rfl

/-- While no id is handed out twice, whatever a step does keeps the
agreement. -/
theorem Agreement.stepCase (h : Agreement strict s) (howned : s.AcceptedOwned)
    (hu : s'.Unwrapped) {obs : List MuxObs}
    (hcase : StepCase strict s s' obs) : Agreement strict s' := by
  have hu₀ : s.Unwrapped := hcase.issued_le.trans hu
  have hwf := howned.toWellFormed
  cases hcase with
  | same hslots howners hissued =>
      constructor
      · intro k slot hk
        rw [slotAt_congr hslots] at hk
        rw [owner_congr howners]
        exact h.agrees hk
      · intro a g v hv
        rw [owner_congr howners] at hv
        rw [findSlot_congr hslots]
        exact h.found hv
  | touched htouched => exact h.touched hwf hu₀ htouched
  | called htouched => exact h.touched hwf hu₀ htouched
  | canceled htouched => exact h.touched hwf hu₀ htouched
  | runtimeCanceled htouched => exact h.touched hwf hu₀ htouched
  | stale htouched => exact h.touched hwf hu₀ htouched
  | exposed hmoved hlive _ _ _ hfree =>
      refine h.moved hwf hu₀ hmoved ?_ hlive (Or.inr ⟨.pending, rfl, rfl⟩)
      intro w hw
      rw [hfree] at hw
      simp at hw
  | duplicate hmoved _ habsent howned _ hstrict =>
      exact h.duplicate hwf hu₀ hmoved habsent howned hstrict
  | accepted hmoved _ _ hrouted =>
      exact h.routed hwf hu₀ hmoved hrouted (Or.inr ⟨.active, rfl, rfl⟩)
  | rejected hmoved _ hrouted =>
      exact h.routed hwf hu₀ hmoved hrouted (Or.inl ⟨rfl, rfl⟩)
  | completed hmoved _ hrouted =>
      exact h.routed hwf hu₀ hmoved hrouted (Or.inl ⟨rfl, rfl⟩)
  | @reclaimed t _ _ _ _ _ _ _ _ _ _ hmoved _ hslot hretired hid _ howners
      hlast hrouted =>
      have hended : Agreement strict t :=
        h.routed hwf hu₀ hmoved hrouted (Or.inl ⟨rfl, rfl⟩)
      have ht : t.Unwrapped := hslot.issued_eq.symm.trans_le hu
      refine hended.retired
        (hmoved.wellFormed_of hwf hmoved.owners.nodup) ht hslot hretired ?_ ?_
      · intro a g
        exact Or.inl (congrFun (congrFun (owner_congr howners) a) g)
      · rw [hid]
        exact hlast
  | connected hnumber _ _ hstanding _ hslots howners hissued =>
      exact h.connected hwf hu hnumber hstanding hslots howners hissued
  | orphaned hslot _ _ hretired hstanding _ howner hkeys =>
      have hold := h.agrees hslot.found
      refine h.update hwf hu₀ hslot ?_ ?_
      · intro a g
        rcases owner_processed howner a g with hsame | ⟨hbefore, hnone⟩
        · exact Or.inl hsame
        · refine Or.inr ⟨hbefore, ?_⟩
          rw [hnone]
          simp
      · constructor
        · intro a g state hstate
          rw [howner, hslot.id_eq] at hstate
          split_ifs at hstate with hpending
          rw [hretired, hstanding, if_neg fun hp => hpending hp.1]
          exact hold.owned hstate
        · intro a g haccepted
          rw [hstanding] at haccepted
          split_ifs at haccepted
          have hactive := hold.accepted haccepted
          rw [howner, if_neg (by simp [hactive]), hactive, hslot.id_eq]
        · intro hs hlive a g hundecided
          rw [hstanding] at hundecided
          rw [hretired] at hlive
          split_ifs at hundecided with hpending
          exact absurd ⟨hold.undecided hs hlive hundecided, hundecided⟩
            hpending
  | abandoned hslot hretired _ _ hinactive howner hkeys =>
      refine h.retired hwf hu₀ hslot hretired (owner_processed howner) ?_
      rintro a g ⟨c, state⟩ hv rfl
      rw [howner] at hv
      split_ifs at hv with hpending
      cases state with
      | pending => exact hpending hv
      | active => exact hinactive a g hv
  | stopped hslots howners hissued =>
      constructor
      · intro k slot hk
        rw [slotAt, hslots] at hk
        simp at hk
      · intro a g v hv
        rw [owner, findOwner, howners] at hv
        simp at hv

/-- The invariant is kept by whatever a step does. -/
theorem Invariant.stepCase (h : s.Invariant strict) {obs : List MuxObs}
    (hcase : StepCase strict s s' obs) : s'.Invariant strict where
  toAcceptedOwned := h.toAcceptedOwned.stepCase hcase
  agreement hu :=
    (h.agreement (hcase.issued_le.trans hu)).stepCase h.toAcceptedOwned hu
      hcase

theorem invariant_constructed (strict : Prop)
    (nodeId actionConfigPath endpointMuxConfigPath implType : String)
    (deltaTimeUsec : UInt64) :
    (constructed nodeId actionConfigPath endpointMuxConfigPath implType
      deltaTimeUsec).Invariant strict := by
  constructor
  · constructor
    · constructor <;> simp [constructed, slotAt]
    · simp [constructed, slotAt]
    · simp [constructed, owner, findOwner]
  · intro _
    constructor
    · simp [constructed, slotAt]
    · simp [constructed, owner, findOwner]

/-- The invariant along a run of small steps. -/
theorem Invariant.run (h : s.Invariant strict) {js : List MuxStep}
    (hjs : (muxStepMachine R).Along
      (fun s j => strict → RejectsDuplicates R s j) s js) :
    ((muxStepMachine R).run s js).Invariant strict :=
  (muxStepMachine R).invariant
    (fun _ j hj hinv => hinv.stepCase (step_cases hinv.toWellFormed j hj)) h
    hjs

/-- What holds of every run, whatever becomes of automatic rejections. -/
theorem Invariant.run_of_false (h : s.Invariant False) (js : List MuxStep) :
    ((muxStepMachine R).run s js).Invariant False :=
  h.run ((muxStepMachine R).along_of_forall (fun _ _ _ hfalse => hfalse.elim) s)

/-! ## The index agrees with the connections -/

/-- The owners of a connection are what its endpoints and services know. -/
structure OwnersAgree (s : ActionServicesMuxServer) (slot : ConnectionSlot) :
    Prop where
  /-- A pending owner stands for a binding that waits for the decision. -/
  pending_iff : ∀ name g, ⟨name, g, slot.connectionId, .pending⟩ ∈ s.owners ↔
    ∃ inst b, slot.server.getAction name = some inst ∧
      inst.endpoint.packetBindings.find? g = some b ∧
      b.state = .awaitingGoalDecision
  /-- An active owner stands for a Goal instance. -/
  active_iff : ∀ name g, ⟨name, g, slot.connectionId, .active⟩ ∈ s.owners ↔
    ∃ inst goal, slot.server.getAction name = some inst ∧
      inst.getGoal g = some goal
  /-- A communication slot is occupied by a Goal with an owner. -/
  occupied : ∀ name inst i g, slot.server.getAction name = some inst →
    inst.endpoint.slotOwner i = some g →
    ∃ state, ⟨name, g, slot.connectionId, state⟩ ∈ s.owners

theorem standing_eq_undecided_iff {server : ActionServicesServer}
    (hinv : server.Invariant) (name : String) (g : GoalId) :
    server.standing name g = .undecided ↔
      ∃ inst b, server.getAction name = some inst ∧
        inst.endpoint.packetBindings.find? g = some b ∧
        b.state = .awaitingGoalDecision := by
  unfold ActionServicesServer.standing ActionServicesServer.standingIn
    ActionServicesServer.getAction
  cases hget : lookup (·.actionName) name server.actions with
  | none => simp
  | some inst =>
      have hundecided := ServerActionInstance.standing_eq_undecided
        (hinv.actions inst (lookup_mem hget)) (g := g)
      simpa [ServerActionInstance.binding] using hundecided

theorem standing_eq_accepted_iff {server : ActionServicesServer}
    (name : String) (g : GoalId) :
    server.standing name g = .accepted ↔
      ∃ inst goal, server.getAction name = some inst ∧
        inst.getGoal g = some goal := by
  unfold ActionServicesServer.standing ActionServicesServer.standingIn
    ActionServicesServer.getAction
  cases hget : lookup (·.actionName) name server.actions with
  | none => simp
  | some inst =>
      have haccepted : inst.standing g = .accepted ↔ _ :=
        ServerActionInstance.standing_eq_accepted
      simpa [ServerActionInstance.context, Option.ne_none_iff_exists'] using
        haccepted

theorem Invariant.ownersAgree (h : s.Invariant True) (hu : s.Unwrapped)
    {slot : ConnectionSlot} (hslot : slot ∈ s.slots)
    (hlive : slot.retired = false) : OwnersAgree s slot := by
  have hfound := h.slotAt_of_mem hslot
  have hserver := (h.slots hfound).server
  have hagrees := (h.agreement hu).agrees hfound
  constructor
  · intro name g
    rw [mem_owners_iff h.keys, ← standing_eq_undecided_iff hserver]
    constructor
    · exact fun howner => (hagrees.owned howner).2
    · exact hagrees.undecided trivial hlive
  · intro name g
    rw [mem_owners_iff h.keys, ← standing_eq_accepted_iff]
    constructor
    · exact fun howner => (hagrees.owned howner).2
    · exact hagrees.accepted
  · intro name inst i g hget hoccupied
    have hinst := hserver.actions inst (lookup_mem hget)
    obtain ⟨b, hb, -⟩ := (hinst.store.consistent i g).mp hoccupied
    have hstanding : slot.server.standing name g = inst.standing g :=
      ActionServicesServer.standingIn_of_lookup hget g
    cases hcase : inst.standing g with
    | absent =>
        have habsent := (ServerActionInstance.standing_eq_absent hinst).mp hcase
        simp [ServerActionInstance.binding, hb] at habsent
    | undecided =>
        refine ⟨.pending, (mem_owners_iff h.keys _ _ _ _).mpr ?_⟩
        exact hagrees.undecided trivial hlive (hstanding.trans hcase)
    | accepted =>
        refine ⟨.active, (mem_owners_iff h.keys _ _ _ _).mpr ?_⟩
        exact hagrees.accepted (hstanding.trans hcase)

/-- In every run in which the automatic rejections of duplicates are sent and no
connection id is handed out twice, the index of owners agrees with every live
connection. -/
theorem mux_owners_agree (R : PduRegistry)
    (nodeId actionConfigPath endpointMuxConfigPath implType : String)
    (deltaTimeUsec : UInt64) (is : List MuxInput)
    (hrejects : (muxMachine R).Along (StepsSatisfy R (RejectsDuplicates R))
      (constructed nodeId actionConfigPath endpointMuxConfigPath implType
        deltaTimeUsec) is)
    (hunwrapped : ((muxMachine R).run
      (constructed nodeId actionConfigPath endpointMuxConfigPath implType
        deltaTimeUsec) is).Unwrapped) :
    ∀ slot ∈ ((muxMachine R).run
        (constructed nodeId actionConfigPath endpointMuxConfigPath implType
          deltaTimeUsec) is).slots,
      slot.retired = false →
      OwnersAgree ((muxMachine R).run
        (constructed nodeId actionConfigPath endpointMuxConfigPath implType
          deltaTimeUsec) is) slot := by
  obtain ⟨js, halong, hstate, -⟩ := exists_steps R hrejects
  have hinv := (invariant_constructed True nodeId actionConfigPath
    endpointMuxConfigPath implType deltaTimeUsec).run
    (halong.mono _ fun _ _ hj _ => hj)
  rw [hstate] at hunwrapped ⊢
  intro slot hslot hlive
  exact hinv.ownersAgree hunwrapped hslot hlive

/-! ### A rejection that is not sent -/

/-- A server for the sample Action. -/
def sampleMux : ActionServicesMuxServer :=
  constructed "fibonacci-server" "action.json" "mux.json"
    "ActionServerEndpointImpl" 1000

/-- A `poll()` during which the transport does nothing: `arrivals` connections
come, each with `slotCount` slots, and `reject` says whether automatic
rejections are sent. -/
def samplePoll (arrivals : ℕ) (slotCount : UInt64) (reject : Bool) : MuxInput :=
  .poll
    { arrivals := List.replicate arrivals
        { document := some (fibonacciConfiguration slotCount) }
      slot := fun _ =>
        { poll := fun _ _ => true
          reject := fun _ _ => reject } }

/-- Two connections request the same Goal. -/
def duplicateGoal (reject : Bool) : List MuxInput :=
  let request : PduResolvedKey := ⟨"fibonacci", 0⟩
  [.opened (some 2), .started true, samplePoll 2 1 reject,
    .transport (.receive 0 request (sampleRequest requestKindGoal)),
    .transport (.receive 1 request (sampleRequest requestKindGoal)),
    samplePoll 0 1 reject, samplePoll 0 1 reject]

/-- What a connection knows of the sample Goal. -/
def sampleView (slot : ConnectionSlot) :
    UInt64 × Bool × Option PacketBindingState :=
  (slot.connectionId, slot.retired,
    ((slot.server.getAction "fibonacci").bind (·.binding sampleGoalId)).map
      (·.state))

/-- When the rejection of the duplicate is not sent, its connection keeps a
binding for which there is no owner. -/
theorem duplicateGoal_unowned :
    ¬∀ slot ∈ ((muxMachine sampleRegistry).run sampleMux
        (duplicateGoal false)).slots, slot.retired = false →
      OwnersAgree ((muxMachine sampleRegistry).run sampleMux
        (duplicateGoal false)) slot := by
  have hslots : ((muxMachine sampleRegistry).run sampleMux
      (duplicateGoal false)).slots.map sampleView =
      [(1, false, some .awaitingGoalDecision),
       (2, false, some .awaitingGoalDecision)] := by
    decide +kernel
  have howners : ((muxMachine sampleRegistry).run sampleMux
      (duplicateGoal false)).owners =
      [⟨"fibonacci", sampleGoalId, 1, .pending⟩] := by
    decide +kernel
  intro h
  obtain ⟨slot, hslot, hview⟩ := List.mem_map.mp
    (hslots ▸ List.mem_cons_of_mem _ (List.mem_singleton_self _))
  simp only [sampleView, Prod.mk.injEq] at hview
  obtain ⟨hid, hlive, hbinding⟩ := hview
  obtain ⟨b, hb, hstate⟩ := Option.map_eq_some_iff.mp hbinding
  obtain ⟨inst, hinst, hfind⟩ := Option.bind_eq_some_iff.mp hb
  have howned := ((h slot hslot hlive).pending_iff "fibonacci"
    sampleGoalId).mpr ⟨inst, b, hinst, hfind, hstate⟩
  rw [howners, hid] at howned
  simp at howned

/-- When it is sent, every connection agrees with the index. -/
theorem duplicateGoal_owners_agree :
    ((muxMachine sampleRegistry).run sampleMux
        (duplicateGoal true)).slots.map sampleView =
      [(1, false, some .awaitingGoalDecision), (2, false, none)] ∧
    ∀ slot ∈ ((muxMachine sampleRegistry).run sampleMux
        (duplicateGoal true)).slots, slot.retired = false →
      OwnersAgree ((muxMachine sampleRegistry).run sampleMux
        (duplicateGoal true)) slot :=
  ⟨by decide +kernel,
    mux_owners_agree sampleRegistry "fibonacci-server" "action.json"
      "mux.json" "ActionServerEndpointImpl" 1000 (duplicateGoal true)
      (by decide +kernel) (by unfold Unwrapped; decide +kernel)⟩

/-! ## Attempts to connect

An endpoint whose configuration cannot be read uses up an id.  After `2 ^ 64` of
them the counter has gone round. -/

/-- `n` ids are handed out and not used. -/
def skipConnectionIds (s : ActionServicesMuxServer) (n : ℕ) :
    ActionServicesMuxServer :=
  { s with
    nextConnectionId := s.nextConnectionId + UInt64.ofNat n
    issued := s.issued + n
    next_eq := add_eq_ticket s.next_eq n }

theorem skipConnectionIds_zero (s : ActionServicesMuxServer) :
    s.skipConnectionIds 0 = s := by
  cases s
  simp [skipConnectionIds]

theorem skipConnectionIds_succ (s : ActionServicesMuxServer) (n : ℕ) :
    s.takeConnectionId.skipConnectionIds n = s.skipConnectionIds (n + 1) := by
  simp only [skipConnectionIds, takeConnectionId, UInt64.ofNat_add,
    mk.injEq, true_and]
  constructor
  · rw [UInt64.add_assoc, UInt64.add_comm (UInt64.ofNat n)]
    rfl
  · exact Nat.add_right_comm _ _ _

/-- There is room for a connection, and nothing to do for the others. -/
structure Idle (s : ActionServicesMuxServer) : Prop where
  started : s.started = true
  room : ∃ capacity ∈ s.mux, s.connectedSlotCount < capacity
  slots : ∀ slot ∈ s.slots,
    (¬slot.disconnected ∨ slot.disconnectProcessed) ∧
      slot.server.pendingRuntimeEvents = [] ∧ slot.server.Drained

theorem Idle.takeConnectionId (h : s.Idle) : s.takeConnectionId.Idle :=
  ⟨h.started, h.room, h.slots⟩

theorem WellFormed.takeConnectionId (h : s.WellFormed) :
    s.takeConnectionId.WellFormed :=
  ⟨h.numbers, fun hfound => (h.fresh hfound).trans (Nat.lt_succ_self _),
    h.keys, h.slots⟩

theorem Idle.processSlots_eq (h : s.Idle) (numbers : List ℕ) :
    processSlots R s numbers = { state := s, result := () } := by
  have hslot (k : ℕ) : s.processSlot R k = { state := s, result := () } := by
    unfold processSlot
    split
    · rfl
    · next slot hfound => rw [if_pos (h.slots slot (lookup_mem hfound)).1]
  induction numbers with
  | nil => rfl
  | cons k rest ih => rw [processSlots, hslot, ih]; rfl

theorem Idle.pollSlots_eq (h : s.Idle) (hwf : s.WellFormed)
    {env : ℕ → SlotEnv} (henv : ∀ k, (env k).before = [])
    (numbers : List ℕ) :
    pollSlots R env s numbers = { state := s, result := none } := by
  have hslot (k : ℕ) (poll reject : SendOracle) :
      s.pollSlot R k poll reject = { state := s, result := none } := by
    unfold pollSlot
    split
    · rfl
    · next slot hfound =>
        obtain ⟨-, hqueue, hdrained⟩ := h.slots slot (lookup_mem hfound)
        have hsame : s.withServer k slot.server = s := by
          unfold withServer modifySlot
          rw [modifyFirst_of_lookup hfound, modifyFirst_eq_self hfound]
        split_ifs
        · rfl
        · rw [hdrained.poll_eq (hwf.slots hfound).server hqueue]
          simp only [hsame, List.map_nil]
  induction numbers with
  | nil => rfl
  | cons k rest ih =>
      rw [pollSlots, henv, transportAll, List.foldl_nil, hslot]
      dsimp only
      rw [ih]
      rfl

/-- A `poll()` of an endpoint whose configuration cannot be read. -/
def failToConnect : MuxInput :=
  .poll
    { arrivals := [{ document := none }]
      slot := fun _ =>
        { poll := fun _ _ => true
          reject := fun _ _ => true } }

theorem Idle.step_failToConnect (h : s.Idle) (hwf : s.WellFormed) :
    (muxMachine R).step s failToConnect = (s.takeConnectionId, []) := by
  obtain ⟨capacity, hmux, hroom⟩ := h.room
  have haccept : s.acceptConnection R capacity none =
      { state := s.takeConnectionId, result := () } := by
    rw [acceptConnection, if_neg (not_le.mpr hroom)]
  have hpolled (env : ℕ → SlotEnv) (henv : ∀ k, (env k).before = []) :=
    h.takeConnectionId.pollSlots_eq (R := R) hwf.takeConnectionId henv
      (s.takeConnectionId.slots.map (·.number))
  simp [muxMachine, failToConnect, poll, Option.mem_def.mp hmux, h.started,
    acceptNewConnections, haccept, processDisconnected, transportAll,
    h.takeConnectionId.processSlots_eq, hpolled]

/-- Each attempt uses up an id. -/
theorem Idle.run_failToConnect (h : s.Idle) (hwf : s.WellFormed) (n : ℕ) :
    (muxMachine R).run s (List.replicate n failToConnect) =
        s.skipConnectionIds n ∧
      (muxMachine R).trace s (List.replicate n failToConnect) = [] := by
  induction n generalizing s with
  | zero => exact ⟨s.skipConnectionIds_zero.symm, rfl⟩
  | succ n ih =>
      obtain ⟨hrun, htrace⟩ := ih h.takeConnectionId hwf.takeConnectionId
      rw [List.replicate_succ, Machine.run_cons, Machine.trace_cons,
        h.step_failToConnect hwf, hrun, htrace, skipConnectionIds_succ]
      exact ⟨rfl, rfl⟩

/-- `past`, then so many attempts to connect that the next id was handed out
before, then `future`. -/
def wrapped (past future : List MuxInput) : List MuxInput :=
  past ++ (List.replicate (2 ^ 64 - 1) failToConnect ++ future)

theorem wellFormed_sample (past : List MuxInput) :
    ((muxMachine sampleRegistry).run sampleMux past).WellFormed := by
  obtain ⟨js, hrun, -⟩ :=
    (reaches_run sampleRegistry sampleMux past).exists_steps
  rw [hrun]
  exact ((invariant_constructed False _ _ _ _ _).run_of_false js).toWellFormed

theorem run_wrapped {past : List MuxInput}
    (hidle : ((muxMachine sampleRegistry).run sampleMux past).Idle)
    (future : List MuxInput) :
    let s := ((muxMachine sampleRegistry).run sampleMux past).skipConnectionIds
      (2 ^ 64 - 1)
    (muxMachine sampleRegistry).run sampleMux (wrapped past future) =
        (muxMachine sampleRegistry).run s future ∧
      (muxMachine sampleRegistry).trace sampleMux (wrapped past future) =
        (muxMachine sampleRegistry).trace sampleMux past ++
          (muxMachine sampleRegistry).trace s future := by
  intro s
  obtain ⟨hrun, htrace⟩ := hidle.run_failToConnect (R := sampleRegistry)
    (wellFormed_sample past) (2 ^ 64 - 1)
  rw [wrapped, Machine.run_append, Machine.run_append, Machine.trace_append,
    Machine.trace_append, hrun, htrace, List.nil_append]
  exact ⟨rfl, rfl⟩

end ActionServicesMuxServer

end HakoPduRpc.Action
