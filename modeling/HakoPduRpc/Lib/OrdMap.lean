import Mathlib.Order.Lattice
import HakoPduRpc.Lib.KeyedList

/-!
# Finite maps kept in key order

The finite map used for `std::map`: an association list whose keys increase
strictly from the front.  The order is part of the value, so an iteration over
`entries` visits the keys in the order in which the container would, and no two
entries share a key.

A map is read through `find?`; the lemmas of this module say what each
operation does to it.
-/

namespace HakoPduRpc

/-- An association list with strictly increasing keys. -/
structure OrdMap (κ ν : Type*) [LinearOrder κ] where
  entries : List (κ × ν)
  ordered : entries.Pairwise fun a b => a.1 < b.1

namespace OrdMap

variable {κ ν : Type*} [LinearOrder κ]

/-- Insert an entry at its place; an entry already present is kept. -/
def insertEntry (k : κ) (v : ν) : List (κ × ν) → List (κ × ν)
  | [] => [(k, v)]
  | e :: l =>
      if k < e.1 then (k, v) :: e :: l
      else if e.1 < k then e :: insertEntry k v l
      else e :: l

theorem mem_insertEntry_of_mem {k : κ} {v : ν} {l : List (κ × ν)}
    {e : κ × ν} (h : e ∈ l) : e ∈ insertEntry k v l := by
  induction l with
  | nil => simp at h
  | cons a l ih =>
      rw [insertEntry]
      split
      · exact List.mem_cons_of_mem _ h
      · split
        · rcases List.mem_cons.mp h with rfl | h
          · simp
          · exact List.mem_cons_of_mem _ (ih h)
        · exact h

theorem mem_insertEntry {k : κ} {v : ν} {l : List (κ × ν)} {e : κ × ν}
    (h : e ∈ insertEntry k v l) : e ∈ l ∨ e = (k, v) := by
  induction l with
  | nil => simpa [insertEntry] using h
  | cons a l ih =>
      rw [insertEntry] at h
      split at h
      · simpa [or_comm] using h
      · split at h
        · rcases List.mem_cons.mp h with rfl | h
          · simp
          · rcases ih h with h | h
            · simp [h]
            · simp [h]
        · exact Or.inl h

theorem key_mem_insertEntry (k : κ) (v : ν) (l : List (κ × ν)) :
    k ∈ (insertEntry k v l).map Prod.fst := by
  induction l with
  | nil => simp [insertEntry]
  | cons a l ih =>
      rw [insertEntry]
      split
      · simp
      · split
        · simpa using Or.inr ih
        · next h₁ h₂ =>
            have : k = a.1 := le_antisymm (not_lt.mp h₂) (not_lt.mp h₁)
            simp [this]

theorem pairwise_insertEntry {k : κ} {v : ν} {l : List (κ × ν)}
    (hl : l.Pairwise fun a b => a.1 < b.1) :
    (insertEntry k v l).Pairwise fun a b => a.1 < b.1 := by
  induction l with
  | nil => simp [insertEntry]
  | cons a l ih =>
      rw [List.pairwise_cons] at hl
      rw [insertEntry]
      split
      · next hk =>
          refine List.pairwise_cons.mpr ⟨?_, List.pairwise_cons.mpr hl⟩
          intro b hb
          rcases List.mem_cons.mp hb with rfl | hb
          · exact hk
          · exact hk.trans (hl.1 b hb)
      · split
        · next hk =>
            refine List.pairwise_cons.mpr ⟨?_, ih hl.2⟩
            intro b hb
            rcases mem_insertEntry hb with hb | rfl
            · exact hl.1 b hb
            · exact hk
        · exact List.pairwise_cons.mpr hl

/-- The map without entries. -/
def empty : OrdMap κ ν := ⟨[], List.Pairwise.nil⟩

/-- The value stored under `k`. -/
def find? (m : OrdMap κ ν) (k : κ) : Option ν :=
  (KeyedList.lookup Prod.fst k m.entries).map Prod.snd

/-- `std::map::emplace`: store `v` under `k` unless `k` is already present. -/
def emplace (m : OrdMap κ ν) (k : κ) (v : ν) : OrdMap κ ν :=
  ⟨insertEntry k v m.entries, pairwise_insertEntry m.ordered⟩

/-- Rewrite the value under `k`, if there is one. -/
def modify (m : OrdMap κ ν) (k : κ) (f : ν → ν) : OrdMap κ ν where
  entries := m.entries.map fun e => (e.1, if e.1 = k then f e.2 else e.2)
  ordered := by
    rw [List.pairwise_map]
    exact m.ordered

/-- `std::map::operator[]` on the left of an assignment. -/
def assign (m : OrdMap κ ν) (k : κ) (v : ν) : OrdMap κ ν :=
  (m.emplace k v).modify k fun _ => v

/-- The same keys with other values. -/
def replaceValues (m : OrdMap κ ν) (l : List (κ × ν))
    (h : l.map Prod.fst = m.entries.map Prod.fst) : OrdMap κ ν where
  entries := l
  ordered := by
    have hkeys : (l.map Prod.fst).Pairwise (· < ·) := by
      rw [h, List.pairwise_map]
      exact m.ordered
    rwa [List.pairwise_map] at hkeys

/-- Remove the entry under `k`, if there is one. -/
def erase (m : OrdMap κ ν) (k : κ) : OrdMap κ ν where
  entries := m.entries.filter fun e => e.1 ≠ k
  ordered := m.ordered.filter _

/-- Whether `k` is present. -/
def contains (m : OrdMap κ ν) (k : κ) : Bool := (m.find? k).isSome

theorem nodup_keys (m : OrdMap κ ν) : (m.entries.map Prod.fst).Nodup := by
  rw [List.Nodup, List.pairwise_map]
  exact m.ordered.imp fun h => ne_of_lt h

theorem mem_entries_iff {m : OrdMap κ ν} {k : κ} {v : ν} :
    (k, v) ∈ m.entries ↔ m.find? k = some v := by
  rw [KeyedList.mem_iff_lookup m.nodup_keys, find?]
  constructor
  · intro h
    simp [h]
  · intro h
    obtain ⟨e, he, hv⟩ := Option.map_eq_some_iff.mp h
    have hk := KeyedList.lookup_key he
    rw [he, ← hk, ← hv]

theorem find?_eq_iff {m n : OrdMap κ ν} {k k' : κ}
    (h : ∀ v, (k, v) ∈ m.entries ↔ (k', v) ∈ n.entries) :
    m.find? k = n.find? k' := by
  ext v
  rw [← mem_entries_iff, ← mem_entries_iff, h]

/-- A map is determined by its values. -/
theorem ext_find? {m n : OrdMap κ ν} (h : ∀ k, m.find? k = n.find? k) :
    m = n := by
  have hmem : ∀ e, e ∈ m.entries ↔ e ∈ n.entries := by
    rintro ⟨k, v⟩
    rw [mem_entries_iff, mem_entries_iff, h]
  have hperm : m.entries.Perm n.entries :=
    (List.perm_ext_iff_of_nodup (m.nodup_keys.of_map _)
      (n.nodup_keys.of_map _)).mpr hmem
  have hentries : m.entries = n.entries :=
    hperm.eq_of_pairwise
      (fun a b _ _ hab hba => absurd hab (not_lt_of_gt hba)) m.ordered
      n.ordered
  cases m
  cases n
  simpa using hentries

@[simp] theorem find?_empty (k : κ) :
    (empty : OrdMap κ ν).find? k = none := rfl

theorem find?_emplace_of_ne {m : OrdMap κ ν} {k k' : κ} {v : ν}
    (h : k' ≠ k) : (m.emplace k v).find? k' = m.find? k' := by
  apply find?_eq_iff
  intro w
  constructor
  · intro hw
    rcases mem_insertEntry hw with hw | hw
    · exact hw
    · exact absurd (congrArg Prod.fst hw) h
  · exact mem_insertEntry_of_mem

theorem find?_emplace_self {m : OrdMap κ ν} {k : κ} {v : ν}
    (h : m.find? k = none) : (m.emplace k v).find? k = some v := by
  obtain ⟨e, he, rfl⟩ :=
    List.mem_map.mp (key_mem_insertEntry k v m.entries)
  rcases mem_insertEntry he with hold | hnew
  · rw [mem_entries_iff.mp hold] at h
    simp at h
  · rw [← mem_entries_iff]
    rw [hnew] at he
    exact he

theorem find?_emplace {m : OrdMap κ ν} {k : κ} {v : ν}
    (h : m.find? k = none) (k' : κ) :
    (m.emplace k v).find? k' = if k' = k then some v else m.find? k' := by
  by_cases hk : k' = k
  · subst hk
    simpa using find?_emplace_self h
  · simpa [hk] using find?_emplace_of_ne hk

theorem find?_modify (m : OrdMap κ ν) (k k' : κ) (f : ν → ν) :
    (m.modify k f).find? k' =
      if k' = k then (m.find? k).map f else m.find? k' := by
  ext w
  rw [← mem_entries_iff]
  simp only [modify, List.mem_map, Prod.mk.injEq]
  by_cases hk : k' = k
  · subst hk
    rw [if_pos rfl, Option.map_eq_some_iff]
    constructor
    · rintro ⟨e, he, rfl, rfl⟩
      exact ⟨e.2, mem_entries_iff.mp he, by simp⟩
    · rintro ⟨v, hv, rfl⟩
      exact ⟨(k', v), mem_entries_iff.mpr hv, rfl, by simp⟩
  · rw [if_neg hk]
    constructor
    · rintro ⟨e, he, rfl, rfl⟩
      simpa [hk] using mem_entries_iff.mp he
    · intro hw
      exact ⟨(k', w), mem_entries_iff.mpr hw, rfl, by simp [hk]⟩

theorem find?_assign (m : OrdMap κ ν) (k k' : κ) (v : ν) :
    (m.assign k v).find? k' = if k' = k then some v else m.find? k' := by
  rw [assign, find?_modify]
  split_ifs with hk
  · obtain ⟨⟨i, w⟩, hmem, hi⟩ :=
      List.mem_map.mp (key_mem_insertEntry k v m.entries)
    have hfound : (m.emplace k v).find? i = some w := mem_entries_iff.mp hmem
    rw [show i = k from hi] at hfound
    rw [hfound]
    rfl
  · exact find?_emplace_of_ne hk

theorem find?_erase (m : OrdMap κ ν) (k k' : κ) :
    (m.erase k).find? k' = if k' = k then none else m.find? k' := by
  ext w
  rw [← mem_entries_iff]
  by_cases hk : k' = k
  · simp [erase, hk]
  · rw [if_neg hk, ← mem_entries_iff]
    simp [erase, hk]

theorem erase_emplace {m : OrdMap κ ν} {k : κ} (h : m.find? k = none)
    (v : ν) : (m.emplace k v).erase k = m := by
  apply ext_find?
  intro k'
  rw [find?_erase, find?_emplace h]
  split_ifs with hk
  · rw [hk, h]
  · rfl

theorem modify_modify_eq_self {m : OrdMap κ ν} {k : κ} {v : ν} {f g : ν → ν}
    (h : m.find? k = some v) (hv : g (f v) = v) :
    (m.modify k f).modify k g = m := by
  apply ext_find?
  intro k'
  simp only [find?_modify, if_true]
  split_ifs with hk
  · simp [hk, h, hv]
  · rfl

theorem modify_eq_self {m : OrdMap κ ν} {k : κ} {v : ν} {f : ν → ν}
    (h : m.find? k = some v) (hv : f v = v) : m.modify k f = m := by
  apply ext_find?
  intro k'
  rw [find?_modify]
  split_ifs with hk
  · rw [hk, h, Option.map_some, hv]
  · rfl

theorem contains_iff {m : OrdMap κ ν} {k : κ} :
    m.contains k = true ↔ ∃ v, m.find? k = some v :=
  Option.isSome_iff_exists

theorem not_contains_iff {m : OrdMap κ ν} {k : κ} :
    m.contains k = false ↔ m.find? k = none := by
  simp [contains]

end OrdMap

end HakoPduRpc
