import HakoPduRpc.Lib.KeyedList
import HakoPduRpc.Lib.Machine

/-!
# Machines side by side

A list of records, each of them a machine of its own, told apart by a key.  The
list is polled from the front until one of the records has something to report.
`scan_project` says what a single record sees of that: one input, or none when a
record in front of it reported.
-/

namespace HakoPduRpc
namespace Fleet

open KeyedList

variable {κ A I O : Type*} [DecidableEq κ] {key : A → κ}

/-- What is seen of the record with a key. -/
def observe (k : κ) (o : κ × O) : List O :=
  if o.1 = k then [o.2] else []

theorem observe_tagged (k k' : κ) (l : List O) :
    (l.map (Prod.mk k')).flatMap (observe k) = if k' = k then l else [] := by
  induction l with
  | nil => simp
  | cons o l ih =>
      rw [List.map_cons, List.flatMap_cons, ih]
      by_cases h : k' = k <;> simp [observe, h]

/-- What belongs to a record of everything that the records send, when each of
them sends only what belongs to it. -/
theorem filter_sends {X : Type*} {k : κ} {l : List (κ × O)} {send : O → List X}
    {owner : X → κ} (h : ∀ o ∈ l, ∀ x ∈ send o.2, owner x = o.1) :
    (l.flatMap fun o => send o.2).filter (fun x => owner x = k) =
      (l.flatMap (observe k)).flatMap send := by
  induction l with
  | nil => rfl
  | cons o l ih =>
      have hrest := ih fun o' ho' => h o' (by simp [ho'])
      have ho := h o (by simp)
      rw [List.flatMap_cons, List.filter_append, hrest, List.flatMap_cons,
        List.flatMap_append]
      congr 1
      by_cases hk : o.1 = k
      · have hall : ∀ x ∈ send o.2, decide (owner x = k) = true := by
          intro x hx
          simp [ho x hx, hk]
        simp [observe, hk, List.filter_eq_self.mpr hall]
      · have hnone : ∀ x ∈ send o.2, ¬decide (owner x = k) = true := by
          intro x hx
          simp [ho x hx, hk]
        simp [observe, hk, List.filter_eq_nil_iff.mpr hnone]

variable (key) (M : Machine A I O) (input : A → I) (reports : A → Bool)

/-- Step the records from the front until one of them reports. -/
def scan : List A → List A × List (κ × O)
  | [] => ([], [])
  | a :: rest =>
      let next := M.step a (input a)
      let seen := next.2.map (Prod.mk (key a))
      if reports a then (next.1 :: rest, seen)
      else (next.1 :: (scan rest).1, seen ++ (scan rest).2)

/-- The inputs that the record with a key sees of a scan. -/
def scanInputs (k : κ) : List A → List I
  | [] => []
  | a :: rest =>
      if key a = k then [input a]
      else if reports a then []
      else scanInputs k rest

variable {key M input reports}

/-- A scan steps the record with a key once or not at all. -/
theorem scanInputs_cases (k : κ) (l : List A) :
    scanInputs key input reports k l = [] ∨
      ∃ a ∈ l, key a = k ∧ scanInputs key input reports k l = [input a] := by
  induction l with
  | nil => exact Or.inl rfl
  | cons a rest ih =>
      rw [scanInputs]
      split_ifs with hk
      · exact Or.inr ⟨a, List.mem_cons_self, hk, rfl⟩
      · exact Or.inl rfl
      · obtain hnil | ⟨a', ha', hk', hone⟩ := ih
        · exact Or.inl hnil
        · exact Or.inr ⟨a', List.mem_cons_of_mem a ha', hk', hone⟩

theorem mem_scanInputs {k : κ} {l : List A} {i : I}
    (h : i ∈ scanInputs key input reports k l) : ∃ a, i = input a := by
  obtain hnil | ⟨a, -, -, hone⟩ := scanInputs_cases k l
  · rw [hnil] at h
    simp at h
  · rw [hone] at h
    exact ⟨a, List.mem_singleton.mp h⟩

theorem length_scanInputs_le (k : κ) (l : List A) :
    (scanInputs key input reports k l).length ≤ 1 := by
  obtain hnil | ⟨a, -, -, hone⟩ := scanInputs_cases k l
  · rw [hnil]
    simp
  · rw [hone]
    simp

omit [DecidableEq κ] in
/-- Everything seen of a scan comes from the step of a record. -/
theorem mem_scan {l : List A} {o : κ × O}
    (h : o ∈ (scan key M input reports l).2) :
    ∃ a ∈ l, o.1 = key a ∧ o.2 ∈ (M.step a (input a)).2 := by
  induction l with
  | nil => simp [scan] at h
  | cons a rest ih =>
      rw [scan] at h
      have hseen (h : o ∈ (M.step a (input a)).2.map (Prod.mk (key a))) :
          o.1 = key a ∧ o.2 ∈ (M.step a (input a)).2 := by
        obtain ⟨o', ho', rfl⟩ := List.mem_map.mp h
        exact ⟨rfl, ho'⟩
      split at h
      · exact ⟨a, by simp, hseen h⟩
      · rcases List.mem_append.mp h with h | h
        · exact ⟨a, by simp, hseen h⟩
        · obtain ⟨b, hb, hrest⟩ := ih h
          exact ⟨b, by simp [hb], hrest⟩

section Keys

variable (hkey : ∀ a i, key (M.step a i).1 = key a)

include hkey

omit [DecidableEq κ] in
theorem map_key_scan (l : List A) :
    (scan key M input reports l).1.map key = l.map key := by
  induction l with
  | nil => rfl
  | cons a rest ih =>
      rw [scan]
      split <;> simp [hkey, ih]

omit hkey in
theorem scan_of_notMem {k : κ} {l : List A} (h : k ∉ l.map key) :
    (scan key M input reports l).2.flatMap (observe k) = [] := by
  induction l with
  | nil => rfl
  | cons a rest ih =>
      simp only [List.map_cons, List.mem_cons, not_or] at h
      rw [scan]
      split
      · simp [observe_tagged, Ne.symm h.1]
      · simp [List.flatMap_append, observe_tagged, Ne.symm h.1, ih h.2]

/-- A scan, seen from one record. -/
theorem scan_project (input : A → I) (reports : A → Bool) {k : κ}
    {l : List A} (hnodup : (l.map key).Nodup) {a : A}
    (ha : lookup key k l = some a) :
    lookup key k (scan key M input reports l).1 =
        some (M.run a (scanInputs key input reports k l)) ∧
      (scan key M input reports l).2.flatMap (observe k) =
        M.trace a (scanInputs key input reports k l) := by
  induction l with
  | nil => simp at ha
  | cons x rest ih =>
      simp only [List.map_cons, List.nodup_cons] at hnodup
      rw [lookup_cons] at ha
      by_cases hx : key x = k
      · rw [if_pos hx, Option.some.injEq] at ha
        subst ha
        have hrest : (scan key M input reports rest).2.flatMap (observe k) =
            [] := scan_of_notMem (hx ▸ hnodup.1)
        rw [scan]
        split <;>
          simp [scanInputs, hx, lookup_cons, hkey, observe_tagged,
            List.flatMap_append, hrest]
      · rw [if_neg hx] at ha
        obtain ⟨hstate, htrace⟩ := ih hnodup.2 ha
        rw [scan]
        split
        · next hreports =>
            simp [scanInputs, hx, hreports, lookup_cons, hkey, ha,
              observe_tagged]
        · next hreports =>
            simp [scanInputs, hx, hreports, lookup_cons, hkey, hstate,
              observe_tagged, List.flatMap_append, htrace]

end Keys

end Fleet
end HakoPduRpc
