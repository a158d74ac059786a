import HakoPduRpc.Lib.Machine
import Mathlib.Data.List.Destutter

/-!
# What an observer can tell of a run

A projection of a machine says what one observer sees of it: a view of the
state, the steps that concern the observer, and the observations made of them.
When every step concerns the observer at most once, two runs whose projected
steps are equal cannot be told apart: views, observations and the successive
values of the view are the same, whatever other steps are interleaved.

A history variable lets an observer remember what the machine itself does not.
-/

namespace HakoPduRpc
namespace Machine

variable {State Input Obs : Type*} (M : Machine State Input Obs)

/-- The states after each of the inputs. -/
def states (s : State) : List Input → List State
  | [] => []
  | i :: is => (M.step s i).1 :: states (M.step s i).1 is

/-- The successive values of a view along a run, without repetitions. -/
def successive {V : Type*} [DecidableEq V] (view : State → V) (s : State)
    (is : List Input) : List V :=
  ((M.states s is).map view).destutter' (· ≠ ·) (view s)

theorem successive_cons {V : Type*} [DecidableEq V] (view : State → V)
    (s : State) (i : Input) (is : List Input) :
    M.successive view s (i :: is) =
      if view s ≠ view (M.step s i).1 then
        view s :: M.successive view (M.step s i).1 is
      else M.successive view (M.step s i).1 is := by
  rw [successive, states, List.map_cons, List.destutter'_cons]
  split_ifs with hmoved
  · rfl
  · rw [successive, not_not.mp hmoved]

namespace Projection

variable {M} {State' Input' Obs' : Type*} {N : Machine State' Input' Obs'}
  {C : State → Input → Prop} (P : Projection M N C)

/-- The view changes along a run as the projected machine does. -/
theorem successive_eq [DecidableEq State']
    (hone : ∀ s i, C s i → P.Good s → (P.inputs s i).length ≤ 1)
    {s : State} (hs : P.Good s) {is : List Input} (hrun : M.Along C s is) :
    M.successive P.view s is =
      N.successive id (P.view s) (P.runInputs s is) := by
  induction is generalizing s with
  | nil => rfl
  | cons i is ih =>
      have hview := P.view_step s i hrun.1 hs
      rw [successive_cons, ih (P.good_step s i hrun.1 hs) hrun.2, runInputs]
      have hlength := hone s i hrun.1 hs
      generalize P.inputs s i = js at hview hlength
      cases js with
      | nil =>
          rw [run_nil] at hview
          rw [hview, if_neg (not_not.mpr rfl), List.nil_append]
      | cons j js =>
          obtain rfl : js = [] := by
            rw [List.length_cons] at hlength
            exact List.length_eq_zero_iff.mp (by omega)
          rw [run_cons, run_nil] at hview
          rw [List.singleton_append, successive_cons, hview]
          rfl

/-- Runs that project to the same steps from the same view cannot be told
apart. -/
theorem indistinguishable [DecidableEq State']
    (hone : ∀ s i, C s i → P.Good s → (P.inputs s i).length ≤ 1)
    {s s' : State} (hs : P.Good s) (hs' : P.Good s')
    (hview : P.view s = P.view s') {is is' : List Input}
    (hrun : M.Along C s is) (hrun' : M.Along C s' is')
    (hinputs : P.runInputs s is = P.runInputs s' is') :
    (M.trace s is).flatMap P.observe = (M.trace s' is').flatMap P.observe ∧
      M.successive P.view s is = M.successive P.view s' is' := by
  constructor
  · rw [(P.project hs hrun).2, (P.project hs' hrun').2, hview, hinputs]
  · rw [P.successive_eq hone hs hrun, P.successive_eq hone hs' hrun', hview,
      hinputs]

end Projection

/-! ## History variables -/

/-- The machine with a history variable, which records the steps and which no
step reads. -/
def recording {History : Type*} (record : State → Input → History → History) :
    Machine (State × History) Input Obs where
  step s i := (((M.step s.1 i).1, record s.1 i s.2), (M.step s.1 i).2)

end Machine
end HakoPduRpc
