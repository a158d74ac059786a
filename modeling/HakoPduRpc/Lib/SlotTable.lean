import HakoPduRpc.Lib.OrdMap

/-!
# Slots and their owners

A vector of slots, each with an optional owner, next to a map from owners to
records that name their slot.  `Consistent` says that both describe the same
relation; binding an owner to a free slot, rewriting a record in place and
releasing an owner keep it.
-/

namespace HakoPduRpc
namespace SlotTable

variable {κ ν : Type*}

/-- The owner of a slot. -/
def owner (owners : List (Option κ)) (slot : ℕ) : Option κ :=
  owners[slot]?.join

theorem owner_set (owners : List (Option κ)) (slot slot' : ℕ) (o : Option κ) :
    owner (owners.set slot o) slot' =
      if slot' = slot ∧ slot < owners.length then o
      else owner owners slot' := by
  rw [owner, List.getElem?_set]
  by_cases h : slot = slot'
  · subst h
    by_cases hlt : slot < owners.length
    · simp [hlt]
    · simp [owner, hlt]
  · simp [owner, h, Ne.symm h]

theorem lt_length_of_owner {owners : List (Option κ)} {slot : ℕ} {k : κ}
    (h : owner owners slot = some k) : slot < owners.length := by
  by_contra hlt
  rw [owner, List.getElem?_eq_none (by omega)] at h
  simp at h

/-- The slots of an owner. -/
def slotsOf [DecidableEq κ] (owners : List (Option κ)) (k : κ) : List ℕ :=
  (List.range owners.length).filter fun slot => owner owners slot = some k

variable [LinearOrder κ]

/-- Owners and records describe the same relation. -/
def Consistent (slotOf : ν → ℕ) (owners : List (Option κ))
    (records : OrdMap κ ν) : Prop :=
  ∀ slot k, owner owners slot = some k ↔
    ∃ v, records.find? k = some v ∧ slotOf v = slot

namespace Consistent

variable {slotOf : ν → ℕ} {owners : List (Option κ)} {records : OrdMap κ ν}

/-- Free slots and no records. -/
theorem empty (h : ∀ o ∈ owners, o = none) :
    Consistent slotOf owners (OrdMap.empty : OrdMap κ ν) := by
  intro slot k
  simp only [OrdMap.find?_empty, reduceCtorEq, false_and, exists_false,
    iff_false]
  intro howner
  have hmem := Option.join_eq_some_iff.mp howner
  cases h _ (List.mem_of_getElem? hmem)

/-- A slot has one owner. -/
theorem slot_injective (h : Consistent slotOf owners records) {k k' : κ}
    {v v' : ν} (hv : records.find? k = some v)
    (hv' : records.find? k' = some v') (hslot : slotOf v = slotOf v') :
    k = k' := by
  have howner := (h (slotOf v) k).mpr ⟨v, hv, rfl⟩
  have howner' := (h (slotOf v) k').mpr ⟨v', hv', hslot.symm⟩
  rw [howner] at howner'
  exact Option.some.inj howner'

theorem modify (h : Consistent slotOf owners records) (k : κ) {f : ν → ν}
    (hf : ∀ v, slotOf (f v) = slotOf v) :
    Consistent slotOf owners (records.modify k f) := by
  intro slot k'
  rw [h slot k', OrdMap.find?_modify]
  by_cases hk : k' = k
  · subst hk
    simp [hf]
  · simp [hk]

theorem release (h : Consistent slotOf owners records) {k : κ} {v : ν}
    (hv : records.find? k = some v) :
    Consistent slotOf (owners.set (slotOf v) none) (records.erase k) := by
  intro slot k'
  have howner := (h (slotOf v) k).mpr ⟨v, hv, rfl⟩
  rw [owner_set, OrdMap.find?_erase]
  by_cases hk : k' = k
  · subst hk
    simp only [if_true, reduceCtorEq, false_and, exists_false, iff_false]
    split_ifs with hs
    · simp
    · intro howner'
      obtain ⟨v', hv', rfl⟩ := (h slot k').mp howner'
      rw [hv] at hv'
      rw [Option.some.inj hv'] at hs howner
      exact hs ⟨rfl, lt_length_of_owner howner⟩
  · rw [if_neg hk, ← h slot k']
    split_ifs with hs
    · rw [hs.1, howner]
      simp [Ne.symm hk]
    · rfl

theorem emplace (h : Consistent slotOf owners records) {k : κ} {v : ν}
    (hlt : slotOf v < owners.length) (hfree : owner owners (slotOf v) = none)
    (hnew : records.find? k = none) :
    Consistent slotOf (owners.set (slotOf v) (some k))
      (records.emplace k v) := by
  intro slot k'
  rw [owner_set, OrdMap.find?_emplace hnew]
  by_cases hs : slot = slotOf v
  · subst hs
    simp only [hlt, and_self, if_true, Option.some.injEq]
    by_cases hk : k' = k
    · subst hk
      simp
    · simp only [hk, if_false, Ne.symm hk, false_iff]
      intro hother
      rw [← h, hfree] at hother
      simp at hother
  · simp only [hs, false_and, if_false]
    by_cases hk : k' = k
    · subst hk
      simp only [if_true, Option.some.injEq, exists_eq_left', Ne.symm hs,
        iff_false]
      intro howner
      obtain ⟨v', hv', -⟩ := (h slot k').mp howner
      simp [hnew] at hv'
    · simpa [hk] using h slot k'

/-- The slot of a record is one of the slots. -/
theorem slot_lt (h : Consistent slotOf owners records) {k : κ} {v : ν}
    (hv : records.find? k = some v) : slotOf v < owners.length :=
  lt_length_of_owner ((h (slotOf v) k).mpr ⟨v, hv, rfl⟩)

/-- An owner has the slot of its record and no other. -/
theorem slotsOf_eq (h : Consistent slotOf owners records) (k : κ) :
    slotsOf owners k = (records.find? k).toList.map slotOf := by
  unfold slotsOf
  cases hfind : records.find? k with
  | none =>
      rw [Option.toList_none, List.map_nil, List.filter_eq_nil_iff]
      intro slot _
      rw [decide_eq_true_eq, h slot k, hfind]
      simp
  | some v =>
      have howner : ∀ slot, owner owners slot = some k ↔ slot = slotOf v := by
        intro slot
        rw [h slot k, hfind]
        simp [eq_comm]
      have hmem : slotOf v ∈ List.range owners.length :=
        List.mem_range.mpr (h.slot_lt hfind)
      simp only [howner, Option.toList_some, List.map_cons, List.map_nil]
      rw [List.filter_eq, List.count_eq_one_of_mem List.nodup_range hmem]
      rfl

/-- Different slots have different owners. -/
theorem nodup_owners (h : Consistent slotOf owners records) :
    (owners.filterMap id).Nodup := by
  rw [List.Nodup, List.pairwise_filterMap, List.pairwise_iff_getElem]
  intro i j hi hj hij k hk k' hk' heq
  subst heq
  have howner : ∀ {n} (hn : n < owners.length), k ∈ id owners[n] →
      owner owners n = some k := by
    intro n hn hmem
    rw [owner, List.getElem?_eq_getElem hn]
    exact hmem
  obtain ⟨v, hv, rfl⟩ := (h i k).mp (howner hi hk)
  obtain ⟨v', hv', rfl⟩ := (h j k).mp (howner hj hk')
  rw [hv] at hv'
  rw [Option.some.inj hv'] at hij
  exact lt_irrefl _ hij

/-- The owners of the slots are the keys of the records. -/
theorem owners_perm (h : Consistent slotOf owners records) :
    (owners.filterMap id).Perm (records.entries.map Prod.fst) := by
  rw [List.perm_ext_iff_of_nodup h.nodup_owners records.nodup_keys]
  intro k
  have hkey : k ∈ records.entries.map Prod.fst ↔
      ∃ v, records.find? k = some v := by
    simp [← OrdMap.mem_entries_iff]
  have howned : k ∈ owners.filterMap id ↔ ∃ slot, owner owners slot = some k := by
    simp only [List.mem_filterMap, id_eq, owner, Option.join_eq_some_iff]
    constructor
    · rintro ⟨o, ho, rfl⟩
      obtain ⟨slot, hslot⟩ := List.mem_iff_getElem?.mp ho
      exact ⟨slot, hslot⟩
    · rintro ⟨slot, hslot⟩
      exact ⟨some k, List.mem_of_getElem? hslot, rfl⟩
  rw [hkey, howned]
  constructor
  · rintro ⟨slot, hslot⟩
    obtain ⟨v, hv, -⟩ := (h slot k).mp hslot
    exact ⟨v, hv⟩
  · rintro ⟨v, hv⟩
    exact ⟨slotOf v, (h (slotOf v) k).mpr ⟨v, hv, rfl⟩⟩

/-- There are as many records as owned slots. -/
theorem length_entries (h : Consistent slotOf owners records) :
    records.entries.length = owners.countP Option.isSome := by
  rw [← List.length_map Prod.fst, ← h.owners_perm.length_eq,
    List.length_filterMap_eq_countP]
  rfl

theorem length_entries_le (h : Consistent slotOf owners records) :
    records.entries.length ≤ owners.length :=
  h.length_entries ▸ List.countP_le_length

/-- All slots are taken exactly when there are as many records as slots. -/
theorem length_entries_eq_iff (h : Consistent slotOf owners records) :
    records.entries.length = owners.length ↔
      ∀ o ∈ owners, o.isSome = true := by
  rw [h.length_entries, List.countP_eq_length]

end Consistent

end SlotTable
end HakoPduRpc
