import Mathlib.Data.List.Basic
import Mathlib.Data.List.Nodup

/-!
# Lists searched by key

Linear tables: a list of records with a key function, searched from the front.
`lookup` finds the first record with a key, `modifyFirst` rewrites it in place
and `removeFirst` erases it.  When the keys are pairwise distinct these are the
operations of a finite map, which is how the lemmas below state them.
-/

namespace HakoPduRpc
namespace KeyedList

variable {α κ : Type*} [DecidableEq κ] (key : α → κ)

/-- The first record with key `k`. -/
def lookup (k : κ) (l : List α) : Option α :=
  l.find? fun a => key a = k

/-- Rewrite the first record with key `k`. -/
def modifyFirst (k : κ) (f : α → α) : List α → List α
  | [] => []
  | a :: l => if key a = k then f a :: l else a :: modifyFirst k f l

/-- Erase the first record with key `k`. -/
def removeFirst (k : κ) (l : List α) : List α :=
  l.eraseP fun a => key a = k

@[simp] theorem lookup_nil (k : κ) : lookup key k [] = none := rfl

theorem lookup_cons (k : κ) (a : α) (l : List α) :
    lookup key k (a :: l) = if key a = k then some a else lookup key k l := by
  by_cases h : key a = k <;> simp [lookup, h]

theorem lookup_append_singleton (k : κ) (l : List α) (a : α) :
    lookup key k (l ++ [a]) =
      (lookup key k l).or (if key a = k then some a else none) := by
  rw [lookup, List.find?_append]
  by_cases h : key a = k <;> simp [lookup, h]

variable {key}

theorem lookup_key {k : κ} {l : List α} {a : α}
    (h : lookup key k l = some a) : key a = k := by
  simpa using List.find?_some h

theorem lookup_mem {k : κ} {l : List α} {a : α}
    (h : lookup key k l = some a) : a ∈ l :=
  List.mem_of_find?_eq_some h

theorem lookup_eq_none_iff {k : κ} {l : List α} :
    lookup key k l = none ↔ k ∉ l.map key := by
  simp [lookup]

/-- With distinct keys, membership and lookup agree. -/
theorem mem_iff_lookup {l : List α} (hl : (l.map key).Nodup) {a : α} :
    a ∈ l ↔ lookup key (key a) l = some a := by
  constructor
  · intro ha
    induction l with
    | nil => simp at ha
    | cons b l ih =>
        simp only [List.map_cons, List.nodup_cons] at hl
        rw [lookup_cons]
        rcases List.mem_cons.mp ha with rfl | ha
        · simp
        · have hne : key b ≠ key a := by
            intro heq
            exact hl.1 (heq ▸ List.mem_map_of_mem ha)
          simp [hne, ih hl.2 ha]
  · exact lookup_mem

theorem lookup_map {f : α → α} (hf : ∀ a, key (f a) = key a) (k : κ)
    (l : List α) : lookup key k (l.map f) = (lookup key k l).map f := by
  induction l with
  | nil => rfl
  | cons a l ih =>
      rw [List.map_cons, lookup_cons, lookup_cons, hf, ih]
      split <;> rfl

theorem map_key_modifyFirst {k : κ} {f : α → α}
    (hf : ∀ a, key a = k → key (f a) = k) (l : List α) :
    (modifyFirst key k f l).map key = l.map key := by
  induction l with
  | nil => rfl
  | cons a l ih =>
      by_cases h : key a = k
      · simp [modifyFirst, h, hf a h]
      · simp [modifyFirst, h, ih]

theorem lookup_modifyFirst {k : κ} {f : α → α}
    (hf : ∀ a, key a = k → key (f a) = k) (k' : κ) (l : List α) :
    lookup key k' (modifyFirst key k f l) =
      if k' = k then (lookup key k l).map f else lookup key k' l := by
  induction l with
  | nil => simp [modifyFirst]
  | cons a l ih =>
      by_cases hk : k' = k
      · subst hk
        by_cases h : key a = k'
        · simp [modifyFirst, h, lookup_cons, hf a h]
        · simpa [modifyFirst, h, lookup_cons] using ih
      · by_cases h : key a = k
        · simp [modifyFirst, h, lookup_cons, hf a h, hk, Ne.symm hk]
        · simp [modifyFirst, h, lookup_cons, ih, hk]

theorem modifyFirst_of_notMem {k : κ} {f : α → α} {l : List α}
    (h : lookup key k l = none) : modifyFirst key k f l = l := by
  induction l with
  | nil => rfl
  | cons a l ih =>
      rw [lookup_cons] at h
      rw [modifyFirst]
      split_ifs at h ⊢ with ha
      rw [ih h]

/-- Putting back what was found changes nothing. -/
theorem modifyFirst_eq_self {k : κ} {l : List α} {a : α}
    (h : lookup key k l = some a) : modifyFirst key k (fun _ => a) l = l := by
  induction l with
  | nil => rfl
  | cons b l ih =>
      rw [lookup_cons] at h
      rw [modifyFirst]
      split_ifs at h ⊢ with hb
      · rw [Option.some.inj h]
      · rw [ih h]

/-- Only what is found matters for the rewriting. -/
theorem modifyFirst_of_lookup {k : κ} {l : List α} {a : α}
    (h : lookup key k l = some a) (f : α → α) :
    modifyFirst key k f l = modifyFirst key k (fun _ => f a) l := by
  induction l with
  | nil => rfl
  | cons b l ih =>
      rw [lookup_cons] at h
      rw [modifyFirst, modifyFirst]
      split_ifs at h ⊢ with hb
      · rw [Option.some.inj h]
      · rw [ih h]

/-- The last of two replacements counts. -/
theorem modifyFirst_replace {k : κ} {a : α} (ha : key a = k) (b : α)
    (l : List α) :
    modifyFirst key k (fun _ => b) (modifyFirst key k (fun _ => a) l) =
      modifyFirst key k (fun _ => b) l := by
  induction l with
  | nil => rfl
  | cons c l ih =>
      by_cases hc : key c = k
      · simp [modifyFirst, hc, ha]
      · simp [modifyFirst, hc, ih]

/-- With distinct keys, only one record is rewritten. -/
theorem modifyFirst_eq_map {l : List α} (hl : (l.map key).Nodup) (k : κ)
    (f : α → α) :
    modifyFirst key k f l = l.map fun a => if key a = k then f a else a := by
  induction l with
  | nil => rfl
  | cons a l ih =>
      simp only [List.map_cons, List.nodup_cons] at hl
      rw [modifyFirst, List.map_cons]
      by_cases ha : key a = k
      · have hrest : l.map (fun b => if key b = k then f b else b) = l := by
          refine List.map_congr_left ?_ |>.trans (List.map_id l)
          intro b hb
          refine if_neg ?_
          rintro rfl
          exact hl.1 (ha ▸ List.mem_map_of_mem hb)
        rw [if_pos ha, if_pos ha, hrest]
      · rw [if_neg ha, if_neg ha, ih hl.2]

theorem map_key_removeFirst_sublist (k : κ) (l : List α) :
    ((removeFirst key k l).map key).Sublist (l.map key) :=
  (List.eraseP_sublist).map key

theorem perm_removeFirst {k : κ} {l : List α} {a : α}
    (h : lookup key k l = some a) : (a :: removeFirst key k l).Perm l := by
  induction l with
  | nil => simp at h
  | cons b l ih =>
      rw [lookup_cons] at h
      by_cases hb : key b = k
      · rw [if_pos hb] at h
        obtain rfl := Option.some.inj h
        simp [removeFirst, hb]
      · rw [if_neg hb] at h
        have hcons : removeFirst key k (b :: l) = b :: removeFirst key k l := by
          simp [removeFirst, hb]
        rw [hcons]
        exact (List.Perm.swap b a _).trans ((ih h).cons b)

theorem lookup_removeFirst
    {l : List α} (hl : (l.map key).Nodup) (k k' : κ) :
    lookup key k' (removeFirst key k l) =
      if k' = k then none else lookup key k' l := by
  induction l with
  | nil => simp [removeFirst]
  | cons a l ih =>
      simp only [List.map_cons, List.nodup_cons] at hl
      by_cases h : key a = k
      · have herase : removeFirst key k (a :: l) = l := by
          simp [removeFirst, h]
        rw [herase]
        by_cases hk : k' = k
        · subst hk
          simpa [lookup_eq_none_iff, h] using hl.1
        · simp [lookup_cons, hk, h, Ne.symm hk]
      · have herase :
            removeFirst key k (a :: l) = a :: removeFirst key k l := by
          simp [removeFirst, h]
        rw [herase, lookup_cons, ih hl.2, lookup_cons]
        by_cases hk : k' = k
        · subst hk
          simp [h]
        · simp [hk]

/-! ## Records at a place -/

omit [DecidableEq κ] in
theorem map_key_modify {f : α → α} (hf : ∀ a, key (f a) = key a) (i : ℕ)
    (l : List α) : (l.modify i f).map key = l.map key := by
  induction l generalizing i with
  | nil => simp
  | cons a l ih =>
      cases i with
      | zero => simp [hf]
      | succ i => simp [ih]

omit [DecidableEq κ] in
theorem map_key_set {l : List α} {i : ℕ} {a b : α} (ha : l[i]? = some a)
    (hb : key b = key a) : (l.set i b).map key = l.map key := by
  induction l generalizing i with
  | nil => rfl
  | cons c l ih =>
      cases i with
      | zero =>
          simp only [List.getElem?_cons_zero, Option.some.injEq] at ha
          simp [ha, hb]
      | succ i =>
          rw [List.getElem?_cons_succ] at ha
          simp [ih ha]

/-! ## Updates under one key -/

/-- `l'` differs from `l` in the value under one key, and its keys are pairwise
distinct. -/
structure Update {β : Type*} (key : α → κ) (value : α → β) (l l' : List α)
    (k : κ) (v : Option β) : Prop where
  lookup_eq : ∀ k', (lookup key k' l').map value =
    if k' = k then v else (lookup key k' l).map value
  nodup : (l'.map key).Nodup

namespace Update

variable {β : Type*} {value : α → β} {l : List α} {k : κ}
  (hnodup : (l.map key).Nodup)

include hnodup

theorem refl {v : Option β} (hv : (lookup key k l).map value = v) :
    Update key value l l k v where
  lookup_eq := by
    intro k'
    split_ifs with hk
    · rw [hk, hv]
    · rfl
  nodup := hnodup

theorem append (hnew : lookup key k l = none) {a : α} (ha : key a = k) :
    Update key value l (l ++ [a]) k (some (value a)) where
  lookup_eq := by
    intro k'
    rw [lookup_append_singleton, ha]
    by_cases hk : k' = k
    · simp [hk, hnew]
    · simp [hk, Ne.symm hk]
  nodup := by
    rw [lookup_eq_none_iff] at hnew
    rw [List.map_append, List.nodup_append]
    refine ⟨hnodup, by simp, ?_⟩
    intro b hb b' hb'
    simp only [List.map_cons, List.map_nil, List.mem_singleton] at hb'
    rintro rfl
    rw [hb', ha] at hb
    exact hnew hb

theorem modifyFirst {a : α} (ha : lookup key k l = some a) {f : α → α}
    (hf : ∀ a, key (f a) = key a) :
    Update key value l (modifyFirst key k f l) k (some (value (f a))) where
  lookup_eq := by
    intro k'
    rw [lookup_modifyFirst fun a hk => (hf a).trans hk]
    split_ifs with hk
    · simp [ha]
    · rfl
  nodup := by
    rw [map_key_modifyFirst fun a hk => (hf a).trans hk]
    exact hnodup

theorem removeFirst : Update key value l (removeFirst key k l) k none where
  lookup_eq := by
    intro k'
    rw [lookup_removeFirst hnodup]
    split_ifs <;> rfl
  nodup := (map_key_removeFirst_sublist k l).nodup hnodup

end Update

end KeyedList
end HakoPduRpc
