import Mathlib.Data.List.Basic

/-!
# Deterministic machines, their runs and their traces

A machine consumes one input at a time.  Everything the environment may choose
(arguments, outcomes of external calls, clock readings) is part of the input,
so a run is determined by its start state and its list of inputs.  A step also
emits a finite list of observations; the trace of a run is their
concatenation.

The two rules of this module are used for every statement about runs: an
invariant that every admitted step preserves holds after the run, and a
machine whose steps project to runs of a second machine has runs and traces
that project to it.
-/

namespace HakoPduRpc

/-- A deterministic machine with observable steps. -/
structure Machine (State Input Obs : Type*) where
  step : State → Input → State × List Obs

namespace Machine

variable {State Input Obs : Type*} (M : Machine State Input Obs)

/-- The state after a list of inputs. -/
def run (s : State) : List Input → State
  | [] => s
  | i :: is => run (M.step s i).1 is

/-- The observations emitted along a list of inputs. -/
def trace (s : State) : List Input → List Obs
  | [] => []
  | i :: is => (M.step s i).2 ++ trace (M.step s i).1 is

/-- Every step of the run satisfies `C`, a condition on the state before the
step and on its input. -/
def Along (C : State → Input → Prop) (s : State) : List Input → Prop
  | [] => True
  | i :: is => C s i ∧ Along C (M.step s i).1 is

@[simp] theorem run_nil (s : State) : M.run s [] = s := rfl

@[simp] theorem run_cons (s : State) (i : Input) (is : List Input) :
    M.run s (i :: is) = M.run (M.step s i).1 is := rfl

@[simp] theorem trace_nil (s : State) : M.trace s [] = [] := rfl

@[simp] theorem trace_cons (s : State) (i : Input) (is : List Input) :
    M.trace s (i :: is) = (M.step s i).2 ++ M.trace (M.step s i).1 is := rfl

@[simp] theorem along_nil (C : State → Input → Prop) (s : State) :
    M.Along C s [] := trivial

@[simp] theorem along_cons
    (C : State → Input → Prop) (s : State) (i : Input) (is : List Input) :
    M.Along C s (i :: is) ↔ C s i ∧ M.Along C (M.step s i).1 is := Iff.rfl

theorem run_append (s : State) (is js : List Input) :
    M.run s (is ++ js) = M.run (M.run s is) js := by
  induction is generalizing s with
  | nil => rfl
  | cons i is ih => simp [ih]

theorem trace_append (s : State) (is js : List Input) :
    M.trace s (is ++ js) = M.trace s is ++ M.trace (M.run s is) js := by
  induction is generalizing s with
  | nil => rfl
  | cons i is ih => simp [ih]

/-- Every observation of a run is made by one of its steps. -/
theorem exists_step_of_trace {s : State} {is : List Input}
    {before after : List Obs} {o : Obs}
    (h : M.trace s is = before ++ o :: after) :
    ∃ past i future pre post, is = past ++ i :: future ∧
      (M.step (M.run s past) i).2 = pre ++ o :: post ∧
      before = M.trace s past ++ pre := by
  induction is generalizing s before with
  | nil => simp at h
  | cons i is ih =>
      rw [trace_cons, List.append_eq_append_iff] at h
      rcases h with ⟨rest, hbefore, hrest⟩ | ⟨rest, hstep, hrest⟩
      · obtain ⟨past, j, future, pre, post, rfl, hobs, rfl⟩ := ih hrest
        exact ⟨i :: past, j, future, pre, post, rfl, hobs, by
          rw [hbefore, trace_cons, List.append_assoc]⟩
      · cases rest with
        | nil =>
            obtain ⟨past, j, future, pre, post, rfl, hobs, hpre⟩ :=
              @ih (M.step s i).1 [] hrest.symm
            refine ⟨i :: past, j, future, pre, post, rfl, hobs, ?_⟩
            rw [trace_cons, List.append_assoc, ← hpre, hstep]
            simp
        | cons o' rest =>
            simp only [List.cons_append, List.cons.injEq] at hrest
            rw [← hrest.1] at hstep
            exact ⟨[], i, is, before, rest, rfl, hstep, by simp⟩

/-- The inputs lead from one state to another with the given observations. -/
structure Runs (s : State) (is : List Input) (s' : State) (obs : List Obs) :
    Prop where
  run_eq : M.run s is = s'
  trace_eq : M.trace s is = obs

theorem Runs.nil (s : State) : M.Runs s [] s [] := ⟨rfl, rfl⟩

theorem Runs.single (s : State) (i : Input) :
    M.Runs s [i] (M.step s i).1 (M.step s i).2 :=
  ⟨rfl, List.append_nil _⟩

theorem Runs.append {s s' s'' : State} {is js : List Input}
    {obs obs' : List Obs} (h : M.Runs s is s' obs)
    (h' : M.Runs s' js s'' obs') : M.Runs s (is ++ js) s'' (obs ++ obs') := by
  constructor
  · rw [run_append, h.run_eq, h'.run_eq]
  · rw [trace_append, h.run_eq, h.trace_eq, h'.trace_eq]

instance decidableAlong (C : State → Input → Prop)
    [∀ s i, Decidable (C s i)] (s : State) :
    (is : List Input) → Decidable (M.Along C s is)
  | [] => isTrue trivial
  | i :: is =>
      have := decidableAlong C (M.step s i).1 is
      inferInstanceAs (Decidable (C s i ∧ M.Along C (M.step s i).1 is))

theorem Along.append {C : State → Input → Prop} {s : State}
    {is js : List Input} (h : M.Along C s is)
    (h' : M.Along C (M.run s is) js) : M.Along C s (is ++ js) := by
  induction is generalizing s with
  | nil => exact h'
  | cons i is ih => exact ⟨h.1, ih h.2 h'⟩

theorem Along.of_append {C : State → Input → Prop} {s : State}
    {is js : List Input} (h : M.Along C s (is ++ js)) :
    M.Along C s is ∧ M.Along C (M.run s is) js := by
  induction is generalizing s with
  | nil => exact ⟨trivial, h⟩
  | cons i is ih =>
      obtain ⟨his, hjs⟩ := ih h.2
      exact ⟨⟨h.1, his⟩, hjs⟩

theorem along_of_forall
    {C : State → Input → Prop} {is : List Input}
    (h : ∀ i ∈ is, ∀ s, C s i) (s : State) : M.Along C s is := by
  induction is generalizing s with
  | nil => trivial
  | cons i is ih =>
      exact ⟨h i (by simp) s, ih (fun j hj => h j (by simp [hj])) _⟩

theorem Along.mono
    {C D : State → Input → Prop} (hCD : ∀ s i, C s i → D s i)
    {s : State} {is : List Input} (h : M.Along C s is) : M.Along D s is := by
  induction is generalizing s with
  | nil => trivial
  | cons i is ih => exact ⟨hCD _ _ h.1, ih h.2⟩

theorem Along.and {C D : State → Input → Prop} {s : State} {is : List Input}
    (h : M.Along C s is) (h' : M.Along D s is) :
    M.Along (fun s i => C s i ∧ D s i) s is := by
  induction is generalizing s with
  | nil => trivial
  | cons i is ih => exact ⟨⟨h.1, h'.1⟩, ih h.2 h'.2⟩

/-- An invariant of the admitted steps holds before each of them. -/
theorem Along.before
    {C : State → Input → Prop} {I : State → Prop}
    (hstep : ∀ s i, C s i → I s → I (M.step s i).1)
    {s : State} (hs : I s) {is : List Input} (h : M.Along C s is) :
    M.Along (fun s i => I s ∧ C s i) s is := by
  induction is generalizing s with
  | nil => trivial
  | cons i is ih => exact ⟨⟨hs, h.1⟩, ih (hstep s i h.1 hs) h.2⟩

/-- Conditions that agree wherever an invariant holds admit the same runs. -/
theorem along_congr
    {C D : State → Input → Prop} {I : State → Prop}
    (hstep : ∀ s i, I s → I (M.step s i).1)
    (hiff : ∀ s i, I s → (C s i ↔ D s i))
    {s : State} (hs : I s) {is : List Input} :
    M.Along C s is ↔ M.Along D s is := by
  induction is generalizing s with
  | nil => exact Iff.rfl
  | cons i is ih => exact and_congr (hiff s i hs) (ih (hstep s i hs))

/-- A property of all observations is a condition on the steps. -/
theorem forall_trace_iff {P : Obs → Prop} {s : State} {is : List Input} :
    (∀ o ∈ M.trace s is, P o) ↔
      M.Along (fun s i => ∀ o ∈ (M.step s i).2, P o) s is := by
  induction is generalizing s with
  | nil => simp
  | cons i is ih => simp only [trace_cons, List.forall_mem_append, along_cons, ih]

/-- The induction behind every statement about runs: a relation between the
state and the observations made so far, kept by every admitted step, holds at
the end of the run. -/
theorem history_invariant
    {C : State → Input → Prop} {I : State → List Obs → Prop}
    (hstep : ∀ s past i, C s i → I s past →
      I (M.step s i).1 (past ++ (M.step s i).2))
    {s : State} {past : List Obs} (hs : I s past)
    {is : List Input} (hrun : M.Along C s is) :
    I (M.run s is) (past ++ M.trace s is) := by
  induction is generalizing s past with
  | nil => simpa using hs
  | cons i is ih =>
      have hnext := ih (hstep s past i hrun.1 hs) hrun.2
      simpa [List.append_assoc] using hnext

/-- The same rule for a property of the state alone. -/
theorem trace_invariant
    {C : State → Input → Prop} {I : State → List Obs → Prop}
    (hstep : ∀ s past i, C s i → I s past →
      I (M.step s i).1 (past ++ (M.step s i).2))
    {s : State} (hs : I s []) {is : List Input} (hrun : M.Along C s is) :
    I (M.run s is) (M.trace s is) :=
  M.history_invariant hstep hs hrun

theorem invariant
    {C : State → Input → Prop} {I : State → Prop}
    (hstep : ∀ s i, C s i → I s → I (M.step s i).1)
    {s : State} (hs : I s) {is : List Input} (hrun : M.Along C s is) :
    I (M.run s is) :=
  M.trace_invariant (I := fun s _ => I s)
    (fun s _ i hC hI => hstep s i hC hI) hs hrun

/-! ## Projecting runs -/

variable {State' Input' Obs' : Type*} {N : Machine State' Input' Obs'}

/-- `M` projects to `N` along `view`: every step of `M` from a state satisfying
`Good` looks like a finite run of `N` and keeps `Good`. -/
structure Projection (M : Machine State Input Obs)
    (N : Machine State' Input' Obs') (C : State → Input → Prop) where
  Good : State → Prop
  view : State → State'
  inputs : State → Input → List Input'
  observe : Obs → List Obs'
  good_step : ∀ s i, C s i → Good s → Good (M.step s i).1
  view_step : ∀ s i, C s i → Good s →
    view (M.step s i).1 = N.run (view s) (inputs s i)
  trace_step : ∀ s i, C s i → Good s →
    (M.step s i).2.flatMap observe = N.trace (view s) (inputs s i)

namespace Projection

variable {M} {C : State → Input → Prop} (P : Projection M N C)

/-- The inputs that `N` sees along a run of `M`. -/
def runInputs (s : State) : List Input → List Input'
  | [] => []
  | i :: is => P.inputs s i ++ runInputs (M.step s i).1 is

/-- Runs and traces of `M` project to runs and traces of `N`. -/
theorem project
    {s : State} (hs : P.Good s) {is : List Input} (hrun : M.Along C s is) :
    P.view (M.run s is) = N.run (P.view s) (P.runInputs s is) ∧
      (M.trace s is).flatMap P.observe =
        N.trace (P.view s) (P.runInputs s is) := by
  induction is generalizing s with
  | nil => exact ⟨rfl, rfl⟩
  | cons i is ih =>
      obtain ⟨hview, htrace⟩ := ih (P.good_step s i hrun.1 hs) hrun.2
      have hv := P.view_step s i hrun.1 hs
      rw [hv] at hview htrace
      constructor
      · simpa [runInputs, N.run_append] using hview
      · simp [runInputs, N.trace_append, List.flatMap_append, htrace,
          P.trace_step s i hrun.1 hs]

/-- Inputs chosen by the projection satisfy whatever each step's choice
satisfies. -/
theorem along_runInputs
    {D : State' → Input' → Prop}
    (hD : ∀ s i, C s i → P.Good s → N.Along D (P.view s) (P.inputs s i))
    {s : State} (hs : P.Good s) {is : List Input} (hrun : M.Along C s is) :
    N.Along D (P.view s) (P.runInputs s is) := by
  induction is generalizing s with
  | nil => trivial
  | cons i is ih =>
      have hrest := ih (P.good_step s i hrun.1 hs) hrun.2
      rw [P.view_step s i hrun.1 hs] at hrest
      exact Along.append _ (hD s i hrun.1 hs) hrest

/-- A projection of fewer runs, along which more is known of the states. -/
def restrict {D : State → Input → Prop} (hD : ∀ s i, D s i → C s i)
    (J : State → Prop) (hJ : ∀ s i, D s i → J s → J (M.step s i).1) :
    Projection M N D where
  Good s := P.Good s ∧ J s
  view := P.view
  inputs := P.inputs
  observe := P.observe
  good_step s i h hs := ⟨P.good_step s i (hD s i h) hs.1, hJ s i h hs.2⟩
  view_step s i h hs := P.view_step s i (hD s i h) hs.1
  trace_step s i h hs := P.trace_step s i (hD s i h) hs.1

end Projection

end Machine

end HakoPduRpc
