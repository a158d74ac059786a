import HakoPduRpc.Lib.Duplex

/-!
# A link to a part of a larger machine

The right side of a link is often a part of a larger machine that serves other
partners as well.  When the larger machine projects to that part, and the part
is what receives and sends on the link, the link to the larger machine projects
to the link to the part: the partner cannot tell the two apart.  A link also projects
to each of its two sides.
-/

namespace HakoPduRpc

namespace Machine

variable {State Input Obs : Type*} (M : Machine State Input Obs)

/-- A condition on the inputs alone holds of each of them. -/
theorem forall_of_along {P : Input → Prop} {s : State} {is : List Input}
    (h : M.Along (fun _ i => P i) s is) : ∀ i ∈ is, P i := by
  induction is generalizing s with
  | nil => simp
  | cons i is ih => exact List.forall_mem_cons.mpr ⟨h.1, ih h.2⟩

/-- Every machine projects to itself. -/
def Projection.refl (C : State → Input → Prop) : Projection M M C where
  Good _ := True
  view s := s
  inputs _ i := [i]
  observe o := [o]
  good_step _ _ _ _ := trivial
  view_step _ _ _ _ := rfl
  trace_step s i _ _ := by simp

end Machine

namespace Duplex

variable {A B B' X I J J' O Q Q' : Type*} {M : Machine A I O}
  {N : Machine B J Q} {N' : Machine B' J' Q'} {D : B → J → Prop}
  (S : Machine.Projection N N' D) {W : Wiring I J O Q X}

/-- The link of the part to which the larger machine projects. -/
def Wiring.part (W : Wiring I J O Q X) (sendRight : Q' → List X)
    (receiveRight : X → J') : Wiring I J' O Q' X where
  sendLeft := W.sendLeft
  sendRight := sendRight
  receiveLeft := W.receiveLeft
  receiveRight := receiveRight

/-- A side that is its own view shares the whole link. -/
theorem share_refl (send : O → List X) (receive : X → I) :
    Share (Machine.Projection.refl M fun _ _ => True) send send receive receive
      (fun _ => true) where
  admits _ _ := trivial
  sends s i _ _ := by simp [Machine.Projection.refl]
  receives _ _ _ := rfl
  ignores _ _ _ h := by simp at h

/-- A side that hands on every message shares the whole link. -/
theorem share_all {C : A → I → Prop} {A' I' O' : Type*} {M' : Machine A' I' O'}
    (P : Machine.Projection M M' C) {send : O → List X} {send' : O' → List X}
    {receive : X → I} {receive' : X → I'} (hadmits : ∀ s x, C s (receive x))
    (hsends : ∀ o, send o = (P.observe o).flatMap send')
    (hreceives : ∀ s x, P.inputs s (receive x) = [receive' x]) :
    Share P send send' receive receive' (fun _ => true) where
  admits := hadmits
  sends s i _ _ := by
    rw [List.filter_true, List.flatMap_assoc]
    exact List.flatMap_congr fun o _ => hsends o
  receives s x _ := hreceives s x
  ignores _ _ _ h := by simp at h

/-- The link to a larger machine projects to the link to its part. -/
def hub (sendRight : Q' → List X) (receiveRight : X → J')
    (hadmits : ∀ s x, D s (W.receiveRight x))
    (hsends : ∀ q, W.sendRight q = (S.observe q).flatMap sendRight)
    (hreceives : ∀ s x, S.inputs s (W.receiveRight x) = [receiveRight x]) :
    Machine.Projection (machine M N W)
      (machine M N' (W.part sendRight receiveRight))
      (Admitted (fun _ _ => True) D) :=
  projection (Machine.Projection.refl M _) S
    (share_refl W.sendLeft W.receiveLeft)
    (share_all S hadmits hsends hreceives)

/-! ## One side of a link -/

section Sides

variable (M N W)

/-- What the left side sees of a step. -/
def leftInputs (s : Duplex A B X) : Input I J → List I
  | .left i => [i]
  | .right _ => []
  | .deliverLeft => s.toLeft.head?.toList.map W.receiveLeft
  | .deliverRight => []

/-- What the right side sees of a step. -/
def rightInputs (s : Duplex A B X) : Input I J → List J
  | .left _ => []
  | .right j => [j]
  | .deliverLeft => []
  | .deliverRight => s.toRight.head?.toList.map W.receiveRight

theorem flatMap_singleton_inl (l : List O) :
    (l.map (Sum.inl : O → O ⊕ Q)).flatMap
      (Sum.elim (fun o => [o]) fun _ => []) = l := by
  induction l with
  | nil => rfl
  | cons o l ih => simp [ih]

theorem flatMap_singleton_inr (l : List Q) :
    (l.map (Sum.inr : Q → O ⊕ Q)).flatMap
      (Sum.elim (fun _ => []) fun q => [q]) = l := by
  induction l with
  | nil => rfl
  | cons q l ih => simp [ih]

/-- A run of a link is a run of its left side. -/
def leftProjection :
    Machine.Projection (machine M N W) M (fun _ _ => True) where
  Good _ := True
  view s := s.left
  inputs := leftInputs W
  observe := Sum.elim (fun o => [o]) fun _ => []
  good_step _ _ _ _ := trivial
  view_step := by
    rintro s (i | j | _ | _) - -
    · rfl
    · rfl
    · cases hqueue : s.toLeft <;>
        simp [machine, leftInputs, hqueue, stepLeft]
    · cases hqueue : s.toRight <;>
        simp [machine, leftInputs, hqueue, stepRight]
  trace_step := by
    rintro s (i | j | _ | _) - -
    · simp [machine, leftInputs, stepLeft, flatMap_singleton_inl]
    · simp [machine, leftInputs, stepRight, List.flatMap_map]
    · cases hqueue : s.toLeft <;>
        simp [machine, leftInputs, hqueue, stepLeft, flatMap_singleton_inl]
    · cases hqueue : s.toRight <;>
        simp [machine, leftInputs, hqueue, stepRight, List.flatMap_map]

/-- A run of a link is a run of its right side. -/
def rightProjection :
    Machine.Projection (machine M N W) N (fun _ _ => True) where
  Good _ := True
  view s := s.right
  inputs := rightInputs W
  observe := Sum.elim (fun _ => []) fun q => [q]
  good_step _ _ _ _ := trivial
  view_step := by
    rintro s (i | j | _ | _) - -
    · rfl
    · rfl
    · cases hqueue : s.toLeft <;>
        simp [machine, rightInputs, hqueue, stepLeft]
    · cases hqueue : s.toRight <;>
        simp [machine, rightInputs, hqueue, stepRight]
  trace_step := by
    rintro s (i | j | _ | _) - -
    · simp [machine, rightInputs, stepLeft, List.flatMap_map]
    · simp [machine, rightInputs, stepRight, flatMap_singleton_inr]
    · cases hqueue : s.toLeft <;>
        simp [machine, rightInputs, hqueue, stepLeft, List.flatMap_map]
    · cases hqueue : s.toRight <;>
        simp [machine, rightInputs, hqueue, stepRight, flatMap_singleton_inr]

theorem flatMap_leftProjection (trace : List (O ⊕ Q)) :
    trace.flatMap (leftProjection M N W).observe = lefts trace := by
  induction trace with
  | nil => rfl
  | cons x trace ih =>
      rw [List.flatMap_cons, ih]
      cases x <;> rfl

theorem flatMap_rightProjection (trace : List (O ⊕ Q)) :
    trace.flatMap (rightProjection M N W).observe = rights trace := by
  induction trace with
  | nil => rfl
  | cons x trace ih =>
      rw [List.flatMap_cons, ih]
      cases x <;> rfl

variable {M N W}

/-- The left side of a run, with a condition that its own steps and the messages
of the other side meet. -/
theorem exists_left_run {D : Input I J → Prop} {E : I → Prop}
    (hleft : ∀ i, D (.left i) → E i) (hreceive : ∀ x, E (W.receiveLeft x))
    {s : Duplex A B X} {is : List (Input I J)} (his : ∀ i ∈ is, D i) :
    ∃ js, (∀ j ∈ js, E j) ∧
      ((machine M N W).run s is).left = M.run s.left js ∧
      lefts ((machine M N W).trace s is) = M.trace s.left js := by
  let P := (leftProjection M N W).restrict (D := fun _ i => D i)
    (fun _ _ _ => trivial) (fun _ => True) (fun _ _ _ _ => trivial)
  have hrun : (machine M N W).Along (fun _ i => D i) s is :=
    (machine M N W).along_of_forall (fun i hi _ => his i hi) _
  have hgood : P.Good s := ⟨trivial, trivial⟩
  obtain ⟨hview, htrace⟩ := P.project hgood hrun
  have hinputs := P.along_runInputs (D := fun _ j => E j) (fun s i hi _ => by
    refine M.along_of_forall (fun j hj _ => ?_) _
    cases i with
    | left i =>
        rw [List.mem_singleton.mp hj]
        exact hleft i hi
    | right i => cases hj
    | deliverLeft =>
        obtain ⟨x, -, rfl⟩ := List.mem_map.mp hj
        exact hreceive x
    | deliverRight => cases hj) hgood hrun
  refine ⟨_, M.forall_of_along hinputs, hview, ?_⟩
  rw [← flatMap_leftProjection M N W]
  exact htrace

theorem exists_right_run {D : Input I J → Prop} {E : J → Prop}
    (hright : ∀ j, D (.right j) → E j) (hreceive : ∀ x, E (W.receiveRight x))
    {s : Duplex A B X} {is : List (Input I J)} (his : ∀ i ∈ is, D i) :
    ∃ js, (∀ j ∈ js, E j) ∧
      ((machine M N W).run s is).right = N.run s.right js ∧
      rights ((machine M N W).trace s is) = N.trace s.right js := by
  let P := (rightProjection M N W).restrict (D := fun _ i => D i)
    (fun _ _ _ => trivial) (fun _ => True) (fun _ _ _ _ => trivial)
  have hrun : (machine M N W).Along (fun _ i => D i) s is :=
    (machine M N W).along_of_forall (fun i hi _ => his i hi) _
  have hgood : P.Good s := ⟨trivial, trivial⟩
  obtain ⟨hview, htrace⟩ := P.project hgood hrun
  have hinputs := P.along_runInputs (D := fun _ j => E j) (fun s i hi _ => by
    refine N.along_of_forall (fun j hj _ => ?_) _
    cases i with
    | left i => cases hj
    | right i =>
        rw [List.mem_singleton.mp hj]
        exact hright i hi
    | deliverLeft => cases hj
    | deliverRight =>
        obtain ⟨x, -, rfl⟩ := List.mem_map.mp hj
        exact hreceive x) hgood hrun
  refine ⟨_, N.forall_of_along hinputs, hview, ?_⟩
  rw [← flatMap_rightProjection M N W]
  exact htrace

end Sides

end Duplex

end HakoPduRpc
