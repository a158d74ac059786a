import HakoPduRpc.Lib.Machine
import Mathlib.Data.List.Range
import Mathlib.Data.Nat.Find
import Mathlib.Order.Monotone.Basic
import Mathlib.Order.WellFounded

/-!
# Infinite runs and what they lead to

A schedule is an infinite sequence of inputs.  Safety is about its finite
prefixes; whether something happens at all depends on the schedule, and `Recurs`
is the fairness that is asked of it: an action is taken again and again.

`Descent` is the rule for statements that something happens eventually.  As long
as it has not happened, every step lowers a rank or leaves alone both the rank
and the action that is due, and taking the action that is due lowers the rank.
-/

namespace HakoPduRpc
namespace Machine

variable {State Input Obs : Type*} (M : Machine State Input Obs)

/-- The state before the `n`-th input of a schedule. -/
def stateAt (s : State) (schedule : ℕ → Input) : ℕ → State
  | 0 => s
  | n + 1 => (M.step (stateAt s schedule n) (schedule n)).1

/-- What the `n`-th input of a schedule shows. -/
def obsAt (s : State) (schedule : ℕ → Input) (n : ℕ) : List Obs :=
  (M.step (M.stateAt s schedule n) (schedule n)).2

/-- What the inputs before the `n`-th show. -/
def traceAt (s : State) (schedule : ℕ → Input) (n : ℕ) : List Obs :=
  (List.range n).flatMap (M.obsAt s schedule)

/-- The schedule takes an action again and again. -/
def Recurs (s : State) (schedule : ℕ → Input)
    (A : State → Input → Prop) : Prop :=
  ∀ n, ∃ m, n ≤ m ∧ A (M.stateAt s schedule m) (schedule m)

section Prefixes

variable {s : State} {schedule : ℕ → Input}

theorem traceAt_succ (n : ℕ) :
    M.traceAt s schedule (n + 1) =
      M.traceAt s schedule n ++ M.obsAt s schedule n := by
  simp [traceAt, List.range_succ]

theorem exists_traceAt_append {n m : ℕ} (h : n ≤ m) :
    ∃ more, M.traceAt s schedule m = M.traceAt s schedule n ++ more := by
  induction m, h using Nat.le_induction with
  | base => exact ⟨[], by simp⟩
  | succ m _ ih =>
      obtain ⟨more, hmore⟩ := ih
      refine ⟨more ++ M.obsAt s schedule m, ?_⟩
      rw [traceAt_succ, hmore, List.append_assoc]

/-- A prefix of a schedule is a run. -/
theorem runs_traceAt (n : ℕ) :
    M.Runs s ((List.range n).map schedule) (M.stateAt s schedule n)
      (M.traceAt s schedule n) := by
  induction n with
  | zero => exact .nil M s
  | succ n ih =>
      rw [List.range_succ, List.map_append, traceAt_succ]
      have hlast := Runs.single M (M.stateAt s schedule n) (schedule n)
      have hall := ih.append M hlast
      simpa [obsAt, stateAt] using hall

theorem stateAt_add (s : State) (schedule : ℕ → Input) (n k : ℕ) :
    M.stateAt s schedule (n + k) =
      M.stateAt (M.stateAt s schedule n) (fun i => schedule (n + i)) k := by
  induction k with
  | zero => rfl
  | succ k ih =>
      change (M.step (M.stateAt s schedule (n + k)) (schedule (n + k))).1 = _
      rw [ih]
      rfl

theorem traceAt_add (s : State) (schedule : ℕ → Input) (n k : ℕ) :
    M.traceAt s schedule (n + k) =
      M.traceAt s schedule n ++
        M.traceAt (M.stateAt s schedule n) (fun i => schedule (n + i)) k := by
  induction k with
  | zero => simp [traceAt]
  | succ k ih =>
      rw [← Nat.add_assoc, traceAt_succ, traceAt_succ, ih, List.append_assoc,
        obsAt, obsAt, stateAt_add]

section Rounds

variable {p : ℕ} (hperiod : ∀ n, schedule (p + n) = schedule n)
  (hstate : M.stateAt s schedule p = s)

include hperiod

theorem schedule_mul_add (k n : ℕ) :
    schedule (p * k + n) = schedule n := by
  induction k with
  | zero => simp
  | succ k ih =>
      rw [Nat.mul_succ, Nat.add_comm (p * k), Nat.add_assoc, hperiod, ih]

include hstate

/-- A schedule that repeats itself and comes back to where it started shows the
same in every round. -/
theorem stateAt_mul_add (k n : ℕ) :
    M.stateAt s schedule (p * k + n) = M.stateAt s schedule n := by
  rw [stateAt_add, funext (schedule_mul_add hperiod k)]
  congr 1
  induction k with
  | zero => rfl
  | succ k ih =>
      rw [Nat.mul_succ, Nat.add_comm, stateAt_add, hstate, funext hperiod, ih]

theorem traceAt_mul_succ (k : ℕ) :
    M.traceAt s schedule (p * (k + 1)) =
      M.traceAt s schedule (p * k) ++ M.traceAt s schedule p := by
  have hround : M.stateAt s schedule (p * k) = s :=
    M.stateAt_mul_add hperiod hstate k 0
  rw [Nat.mul_succ, traceAt_add, hround,
    funext (schedule_mul_add hperiod k)]

/-- What is done in a round is done again and again. -/
theorem recurs_of_round (hp : 0 < p) {A : State → Input → Prop} {n : ℕ}
    (h : A (M.stateAt s schedule n) (schedule n)) : M.Recurs s schedule A := by
  intro k
  refine ⟨p * k + n, ?_, ?_⟩
  · have hle := Nat.le_mul_of_pos_left k hp
    omega
  · rw [stateAt_mul_add M hperiod hstate, schedule_mul_add hperiod]
    exact h

end Rounds

/-- What the admitted steps keep holds at all times. -/
theorem always {C : State → Input → Prop} {I : State → Prop}
    (hstep : ∀ s i, C s i → I s → I (M.step s i).1) (hs : I s)
    (hC : ∀ n, C (M.stateAt s schedule n) (schedule n)) (n : ℕ) :
    I (M.stateAt s schedule n) := by
  induction n with
  | zero => exact hs
  | succ n ih => exact hstep _ _ (hC n) ih

end Prefixes

/-- A reason why something happens: `busy` says that it has not happened yet and
`done` that it does. -/
structure Descent (κ ρ : Type*) [LT ρ] where
  admitted : State → Input → Prop
  busy : State → Prop
  done : List Obs → Prop
  rank : State → ρ
  /-- The action that is due. -/
  due : State → κ
  acts : κ → State → Input → Prop
  helps : ∀ s i, admitted s i → busy s → acts (due s) s i →
    done (M.step s i).2 ∨ busy (M.step s i).1 ∧ rank (M.step s i).1 < rank s
  waits : ∀ s i, admitted s i → busy s →
    done (M.step s i).2 ∨ busy (M.step s i).1 ∧
      (rank (M.step s i).1 < rank s ∨
        rank (M.step s i).1 = rank s ∧ due (M.step s i).1 = due s)

namespace Descent

variable {M} {κ ρ : Type*} [LT ρ] (d : M.Descent κ ρ) {s : State}
  {schedule : ℕ → Input}

/-- In some steps it happens, or the rank goes down, or everything waits for the
action that is due. -/
theorem wait
    (hadmitted : ∀ n, d.admitted (M.stateAt s schedule n) (schedule n))
    {n : ℕ} (hbusy : d.busy (M.stateAt s schedule n)) (steps : ℕ) :
    (∃ m, n ≤ m ∧ d.done (M.obsAt s schedule m)) ∨
      (∃ m, n ≤ m ∧ d.busy (M.stateAt s schedule m) ∧
        d.rank (M.stateAt s schedule m) < d.rank (M.stateAt s schedule n)) ∨
      (d.busy (M.stateAt s schedule (n + steps)) ∧
        d.rank (M.stateAt s schedule (n + steps)) =
          d.rank (M.stateAt s schedule n) ∧
        d.due (M.stateAt s schedule (n + steps)) =
          d.due (M.stateAt s schedule n)) := by
  induction steps with
  | zero => exact Or.inr (Or.inr ⟨hbusy, rfl, rfl⟩)
  | succ steps ih =>
      obtain hdone | hlower | ⟨hbusy', hrank, hdue⟩ := ih
      · exact Or.inl hdone
      · exact Or.inr (Or.inl hlower)
      · obtain hdone | ⟨hnext, hlower | ⟨hsame, hsame'⟩⟩ :=
          d.waits _ _ (hadmitted (n + steps)) hbusy'
        · exact Or.inl ⟨n + steps, Nat.le_add_right n steps, hdone⟩
        · rw [hrank] at hlower
          exact Or.inr (Or.inl
            ⟨n + steps + 1, by omega, hnext, hlower⟩)
        · exact Or.inr (Or.inr ⟨hnext, hsame.trans hrank, hsame'.trans hdue⟩)

/-- When every action is taken again and again, it happens. -/
theorem eventually [WellFoundedLT ρ]
    (hadmitted : ∀ n, d.admitted (M.stateAt s schedule n) (schedule n))
    (hfair : ∀ k, M.Recurs s schedule (d.acts k)) {n : ℕ}
    (hbusy : d.busy (M.stateAt s schedule n)) :
    ∃ m, n ≤ m ∧ d.done (M.obsAt s schedule m) := by
  induction hrank : d.rank (M.stateAt s schedule n) using
    WellFoundedLT.induction generalizing n with
  | ind r ih =>
      subst hrank
      have hlater {m : ℕ} (hm : n ≤ m)
          (hbusy' : d.busy (M.stateAt s schedule m))
          (hlower : d.rank (M.stateAt s schedule m) <
            d.rank (M.stateAt s schedule n)) :
          ∃ m, n ≤ m ∧ d.done (M.obsAt s schedule m) := by
        obtain ⟨m', hm', hdone⟩ := ih _ hlower hbusy' rfl
        exact ⟨m', hm.trans hm', hdone⟩
      obtain ⟨m, hm, hacts⟩ := hfair (d.due (M.stateAt s schedule n)) n
      obtain ⟨steps, rfl⟩ := Nat.exists_eq_add_of_le hm
      obtain hdone | ⟨m', hm', hbusy', hlower⟩ | ⟨hbusy', hrank, hdue⟩ :=
        d.wait hadmitted hbusy steps
      · exact hdone
      · exact hlater hm' hbusy' hlower
      · rw [← hdue] at hacts
        obtain hdone | ⟨hnext, hlower⟩ :=
          d.helps _ _ (hadmitted (n + steps)) hbusy' hacts
        · exact ⟨n + steps, hm, hdone⟩
        · rw [hrank] at hlower
          exact hlater (m := n + steps + 1) (by omega) hnext hlower

/-- What happens again and again adds up: a count that goes up whenever it
happens reaches every number below which it is still to happen. -/
theorem eventually_count [WellFoundedLT ρ]
    (hadmitted : ∀ n, d.admitted (M.stateAt s schedule n) (schedule n))
    (hfair : ∀ k, M.Recurs s schedule (d.acts k)) {count : ℕ → ℕ}
    (hmono : Monotone count)
    (hdone : ∀ n, d.done (M.obsAt s schedule n) → count n < count (n + 1))
    {n goal : ℕ} (hbusy : ∀ m, n ≤ m → count m < goal →
      d.busy (M.stateAt s schedule m)) :
    ∃ m, n ≤ m ∧ goal ≤ count m := by
  induction hleft : goal - count n using Nat.strong_induction_on
    generalizing n with
  | h left ih =>
      subst hleft
      by_cases hreached : goal ≤ count n
      · exact ⟨n, le_rfl, hreached⟩
      · obtain ⟨m, hm, hhappens⟩ := d.eventually hadmitted hfair
          (hbusy n le_rfl (by omega))
        have hup := hdone m hhappens
        have hle := hmono hm
        obtain ⟨m', hm', hgoal⟩ := ih (goal - count (m + 1)) (by omega)
          (fun k hk => hbusy k (by omega)) rfl
        exact ⟨m', by omega, hgoal⟩

/-- The same reason in a machine that is known to be equal. -/
def congr {N : Machine State Input Obs} (d : N.Descent κ ρ) (h : M = N) :
    M.Descent κ ρ where
  admitted := d.admitted
  busy := d.busy
  done := d.done
  rank := d.rank
  due := d.due
  acts := d.acts
  helps := by
    subst h
    exact d.helps
  waits := by
    subst h
    exact d.waits

/-- What happens in a machine happens in every machine that projects to it, step
by step or with pauses. -/
def pull {State' Input' Obs' : Type*} {N : Machine State' Input' Obs'}
    {C : State → Input → Prop} (d : N.Descent κ ρ) (P : Projection M N C)
    (hone : ∀ s i, (P.inputs s i).length ≤ 1) : M.Descent κ ρ where
  admitted s i := C s i ∧ P.Good s ∧
    ∀ j ∈ P.inputs s i, d.admitted (P.view s) j
  busy s := d.busy (P.view s)
  done obs := d.done (obs.flatMap P.observe)
  rank s := d.rank (P.view s)
  due s := d.due (P.view s)
  acts k s i := ∃ j ∈ P.inputs s i, d.acts k (P.view s) j
  helps := by
    rintro s i ⟨hC, hs, hadmitted⟩ hbusy ⟨j, hj, hacts⟩
    obtain ⟨j', hj'⟩ := List.length_eq_one_iff.mp
      (Nat.le_antisymm (hone s i) (List.length_pos_of_mem hj))
    rw [hj', List.mem_singleton] at hj
    subst hj
    rw [P.view_step s i hC hs, P.trace_step s i hC hs, hj']
    simpa using d.helps _ _ (hadmitted j (by simp [hj'])) hbusy hacts
  waits := by
    rintro s i ⟨hC, hs, hadmitted⟩ hbusy
    rw [P.view_step s i hC hs, P.trace_step s i hC hs]
    cases hinputs : P.inputs s i with
    | nil => exact Or.inr ⟨hbusy, Or.inr ⟨rfl, rfl⟩⟩
    | cons j rest =>
        have hrest : rest = [] := by
          have hle := hone s i
          rw [hinputs] at hle
          exact List.length_eq_zero_iff.mp (by simpa using hle)
        subst hrest
        simpa using d.waits _ _ (hadmitted j (by simp [hinputs])) hbusy

end Descent

end Machine
end HakoPduRpc
