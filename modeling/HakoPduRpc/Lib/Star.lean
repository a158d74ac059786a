import HakoPduRpc.Lib.Duplex
import Mathlib.Logic.Function.Basic

/-!
# Many machines around one

A star: any number of machines, each of them joined by a pair of queues to one
machine in the middle, which sees the messages of all of them in the order in
which they arrive.

`projection` is the view that one of the outer machines has of the star: a link
to the machine in the middle, at which messages of the others turn up as well.
-/

namespace HakoPduRpc

/-- The outer machines, the one in the middle and the messages under way. -/
structure Star (ι A B X : Type*) where
  outer : ι → A
  center : B
  toOuter : ι → List X
  toCenter : ι → List X

namespace Star

/-- A step of one of the machines, or the delivery of the oldest message of one
of the queues. -/
inductive Input (ι I J : Type*)
  | outer (k : ι) (i : I)
  | center (j : J)
  | deliverOuter (k : ι)
  | deliverCenter (k : ι)

variable {ι A B X I J O Q : Type*} [DecidableEq ι]
  (M : ι → Machine A I O) (N : Machine B J Q)
  (W : ι → Duplex.Wiring I J O Q X)

/-- A step of an outer machine. -/
def stepOuter (s : Star ι A B X) (k : ι) (i : I) :
    Star ι A B X × List ((ι × O) ⊕ Q) :=
  ({ s with
      outer := Function.update s.outer k ((M k).step (s.outer k) i).1
      toCenter := Function.update s.toCenter k
        (s.toCenter k ++
          ((M k).step (s.outer k) i).2.flatMap (W k).sendLeft) },
    ((M k).step (s.outer k) i).2.map fun o => Sum.inl (k, o))

/-- A step of the machine in the middle; what it shows may put messages on
several queues. -/
def stepCenter (s : Star ι A B X) (j : J) :
    Star ι A B X × List ((ι × O) ⊕ Q) :=
  ({ s with
      center := (N.step s.center j).1
      toOuter := fun k => s.toOuter k ++
        (N.step s.center j).2.flatMap (W k).sendRight },
    (N.step s.center j).2.map Sum.inr)

/-- The star as one machine. -/
def machine : Machine (Star ι A B X) (Input ι I J) ((ι × O) ⊕ Q) where
  step s
    | .outer k i => stepOuter M W s k i
    | .center j => stepCenter N W s j
    | .deliverOuter k =>
        match s.toOuter k with
        | [] => (s, [])
        | x :: rest =>
            stepOuter M W
              { s with toOuter := Function.update s.toOuter k rest } k
              ((W k).receiveLeft x)
    | .deliverCenter k =>
        match s.toCenter k with
        | [] => (s, [])
        | x :: rest =>
            stepCenter N W
              { s with toCenter := Function.update s.toCenter k rest }
              ((W k).receiveRight x)

/-- What an outer machine sees of a state. -/
def link (k : ι) (s : Star ι A B X) : Duplex A B X where
  left := s.outer k
  right := s.center
  toLeft := s.toOuter k
  toRight := s.toCenter k

/-- What it sees of a step: its own steps and deliveries, and everything that the
machine in the middle does. -/
def linkInputs (k : ι) (s : Star ι A B X) :
    Input ι I J → List (Duplex.Input I J)
  | .outer k' i => if k' = k then [.left i] else []
  | .center j => [.right j]
  | .deliverOuter k' => if k' = k then [.deliverLeft] else []
  | .deliverCenter k' =>
      if k' = k then [.deliverRight]
      else (s.toCenter k').head?.toList.map fun x =>
        .right ((W k').receiveRight x)

/-- What is seen of an outer machine and the one in the middle. -/
def linkObs (k : ι) : (ι × O) ⊕ Q → List (O ⊕ Q)
  | .inl (k', o) => if k' = k then [.inl o] else []
  | .inr q => [.inr q]

section Link

variable (k : ι) (s : Star ι A B X)

theorem flatMap_linkObs_inl (k' : ι) (l : List O) :
    (l.map fun o => (.inl (k', o) : (ι × O) ⊕ Q)).flatMap (linkObs k) =
      if k' = k then l.map Sum.inl else [] := by
  rw [List.flatMap_map]
  split_ifs with h
  · rw [List.map_eq_flatMap]
    exact List.flatMap_congr fun o _ => if_pos h
  · exact List.flatMap_eq_nil_iff.mpr fun o _ => if_neg h

theorem flatMap_linkObs_inr (l : List Q) :
    (l.map fun q => (.inr q : (ι × O) ⊕ Q)).flatMap (linkObs k) =
      l.map Sum.inr := by
  rw [List.flatMap_map, List.map_eq_flatMap]
  rfl

theorem link_stepOuter (i : I) :
    link k (stepOuter (Q := Q) M W s k i).1 =
        (Duplex.stepLeft (M k) (W k) (link k s) i).1 ∧
      (stepOuter (Q := Q) M W s k i).2.flatMap (linkObs k) =
        (Duplex.stepLeft (M k) (W k) (link k s) i).2 := by
  constructor
  · simp [link, stepOuter, Duplex.stepLeft]
  · rw [stepOuter, flatMap_linkObs_inl, if_pos rfl]
    rfl

/-- The other outer machines are out of sight. -/
theorem link_stepOuter_of_ne {k' : ι} (h : k' ≠ k) (i : I) :
    link k (stepOuter (Q := Q) M W s k' i).1 = link k s ∧
      (stepOuter (Q := Q) M W s k' i).2.flatMap (linkObs k) = [] := by
  constructor
  · simp [link, stepOuter, Function.update_of_ne h.symm]
  · rw [stepOuter, flatMap_linkObs_inl, if_neg h]

theorem link_stepCenter (j : J) :
    link k (stepCenter N W s j).1 =
        (Duplex.stepRight N (W k) (link k s) j).1 ∧
      (stepCenter (O := O) N W s j).2.flatMap (linkObs k) =
        (Duplex.stepRight N (W k) (link k s) j).2 := by
  constructor
  · rfl
  · rw [stepCenter, flatMap_linkObs_inr]
    rfl

theorem link_outer (k' : ι) (i : I) :
    link k ((machine M N W).step s (.outer k' i)).1 =
        (Duplex.machine (M k) N (W k)).run (link k s)
          (linkInputs W k s (.outer k' i)) ∧
      ((machine M N W).step s (.outer k' i)).2.flatMap (linkObs k) =
        (Duplex.machine (M k) N (W k)).trace (link k s)
          (linkInputs W k s (.outer k' i)) := by
  by_cases h : k' = k
  · subst h
    obtain ⟨hrun, htrace⟩ := link_stepOuter (Q := Q) M W k' s i
    simp only [machine, hrun, htrace]
    simp [linkInputs, Duplex.machine]
  · obtain ⟨hlink, hobs⟩ := link_stepOuter_of_ne (Q := Q) M W k s h i
    simp only [machine, hlink, hobs]
    simp [linkInputs, h]

theorem link_deliverOuter (k' : ι) :
    link k ((machine M N W).step s (.deliverOuter k')).1 =
        (Duplex.machine (M k) N (W k)).run (link k s)
          (linkInputs W k s (.deliverOuter k')) ∧
      ((machine M N W).step s (.deliverOuter k')).2.flatMap (linkObs k) =
        (Duplex.machine (M k) N (W k)).trace (link k s)
          (linkInputs W k s (.deliverOuter k')) := by
  by_cases h : k' = k
  · subst h
    cases hqueue : s.toOuter k' with
    | nil => simp [machine, Duplex.machine, linkInputs, link, hqueue]
    | cons x rest =>
        obtain ⟨hrun, htrace⟩ := link_stepOuter (Q := Q) M W k'
          { s with toOuter := Function.update s.toOuter k' rest }
          ((W k').receiveLeft x)
        simp only [machine, hqueue, hrun, htrace]
        simp [linkInputs, Duplex.machine, link, hqueue]
  · cases hqueue : s.toOuter k' with
    | nil => simp [machine, linkInputs, hqueue, h]
    | cons x rest =>
        obtain ⟨hlink, hobs⟩ := link_stepOuter_of_ne (Q := Q) M W k
          { s with toOuter := Function.update s.toOuter k' rest } h
          ((W k').receiveLeft x)
        simp only [machine, hqueue, hlink, hobs]
        simp [linkInputs, h, link, Function.update_of_ne (Ne.symm h)]

theorem link_deliverCenter (k' : ι) :
    link k ((machine M N W).step s (.deliverCenter k')).1 =
        (Duplex.machine (M k) N (W k)).run (link k s)
          (linkInputs W k s (.deliverCenter k')) ∧
      ((machine M N W).step s (.deliverCenter k')).2.flatMap (linkObs k) =
        (Duplex.machine (M k) N (W k)).trace (link k s)
          (linkInputs W k s (.deliverCenter k')) := by
  cases hqueue : s.toCenter k' with
  | nil =>
      by_cases h : k' = k
      · subst h
        simp [machine, Duplex.machine, linkInputs, link, hqueue]
      · simp [machine, linkInputs, hqueue, h]
  | cons x rest =>
      obtain ⟨hrun, htrace⟩ := link_stepCenter (O := O) N W k
        { s with toCenter := Function.update s.toCenter k' rest }
        ((W k').receiveRight x)
      simp only [machine, hqueue, hrun, htrace]
      by_cases h : k' = k
      · subst h
        simp [linkInputs, Duplex.machine, link, hqueue]
      · simp [linkInputs, Duplex.machine, link, hqueue, h,
          Function.update_of_ne (Ne.symm h)]

end Link

/-- The star, seen by one of the outer machines. -/
def projection (k : ι) :
    Machine.Projection (machine M N W) (Duplex.machine (M k) N (W k))
      (fun _ _ => True) where
  Good _ := True
  view := link k
  inputs := linkInputs W k
  observe := linkObs k
  good_step _ _ _ _ := trivial
  view_step := by
    rintro s (⟨k', i⟩ | j | k' | k') - -
    · exact (link_outer M N W k s k' i).1
    · exact (link_stepCenter (O := O) N W k s j).1
    · exact (link_deliverOuter M N W k s k').1
    · exact (link_deliverCenter M N W k s k').1
  trace_step := by
    rintro s (⟨k', i⟩ | j | k' | k') - -
    · exact (link_outer M N W k s k' i).2
    · rw [linkInputs, Machine.trace_cons, Machine.trace_nil, List.append_nil]
      exact (link_stepCenter (O := O) N W k s j).2
    · exact (link_deliverOuter M N W k s k').2
    · exact (link_deliverCenter M N W k s k').2

theorem length_linkInputs_le (k : ι) (s : Star ι A B X) (i : Input ι I J) :
    (linkInputs W k s i).length ≤ 1 := by
  cases i with
  | outer k' i =>
      rw [linkInputs]
      split_ifs <;> simp
  | center j => exact Nat.le_refl 1
  | deliverOuter k' =>
      rw [linkInputs]
      split_ifs <;> simp
  | deliverCenter k' =>
      rw [linkInputs]
      split_ifs
      · simp
      · cases (s.toCenter k') <;> simp

end Star

end HakoPduRpc
