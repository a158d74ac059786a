import HakoPduRpc.Lib.Machine

/-!
# Two machines joined by a pair of queues

A duplex link between two machines: what one of them puts on the link arrives at
the other exactly once and in order, at a time that the environment chooses.
Both directions are lists with the oldest message first.

`projection` is the rule for links that are shared: when both machines project
to smaller ones and every message belongs to one of these, the whole projects to
the smaller machines joined by their share of the link.
-/

namespace HakoPduRpc

/-- Two states and the messages under way between them. -/
structure Duplex (A B X : Type*) where
  left : A
  right : B
  toLeft : List X
  toRight : List X

namespace Duplex

/-- A step of one side, or the delivery of the oldest message. -/
inductive Input (I J : Type*)
  | left (i : I)
  | right (j : J)
  | deliverLeft
  | deliverRight

/-- Which observations put messages on the link, and which input a message is
when it arrives. -/
structure Wiring (I J O Q X : Type*) where
  sendLeft : O → List X
  sendRight : Q → List X
  receiveLeft : X → I
  receiveRight : X → J

variable {A B X I J O Q : Type*} (M : Machine A I O) (N : Machine B J Q)
  (W : Wiring I J O Q X)

/-- A step of the left side. -/
def stepLeft (s : Duplex A B X) (i : I) : Duplex A B X × List (O ⊕ Q) :=
  ({ s with
      left := (M.step s.left i).1
      toRight := s.toRight ++ (M.step s.left i).2.flatMap W.sendLeft },
    (M.step s.left i).2.map Sum.inl)

/-- A step of the right side. -/
def stepRight (s : Duplex A B X) (j : J) : Duplex A B X × List (O ⊕ Q) :=
  ({ s with
      right := (N.step s.right j).1
      toLeft := s.toLeft ++ (N.step s.right j).2.flatMap W.sendRight },
    (N.step s.right j).2.map Sum.inr)

/-- The joined machine. -/
def machine : Machine (Duplex A B X) (Input I J) (O ⊕ Q) where
  step s
    | .left i => stepLeft M W s i
    | .right j => stepRight N W s j
    | .deliverLeft =>
        match s.toLeft with
        | [] => (s, [])
        | x :: rest => stepLeft M W { s with toLeft := rest } (W.receiveLeft x)
    | .deliverRight =>
        match s.toRight with
        | [] => (s, [])
        | x :: rest =>
            stepRight N W { s with toRight := rest } (W.receiveRight x)

/-- What the left side showed. -/
def lefts (trace : List (O ⊕ Q)) : List O := trace.filterMap Sum.getLeft?

/-- What the right side showed. -/
def rights (trace : List (O ⊕ Q)) : List Q := trace.filterMap Sum.getRight?

@[simp] theorem lefts_append (l l' : List (O ⊕ Q)) :
    lefts (l ++ l') = lefts l ++ lefts l' := List.filterMap_append

@[simp] theorem rights_append (l l' : List (O ⊕ Q)) :
    rights (l ++ l') = rights l ++ rights l' := List.filterMap_append

@[simp] theorem lefts_inl (l : List O) :
    lefts (l.map (Sum.inl : O → O ⊕ Q)) = l := by
  simp [lefts, List.filterMap_map, Function.comp_def]

@[simp] theorem lefts_inr (l : List Q) :
    lefts (l.map (Sum.inr : Q → O ⊕ Q)) = [] := by
  simp [lefts, List.filterMap_map, Function.comp_def]

@[simp] theorem rights_inl (l : List O) :
    rights (l.map (Sum.inl : O → O ⊕ Q)) = [] := by
  simp [rights, List.filterMap_map, Function.comp_def]

@[simp] theorem rights_inr (l : List Q) :
    rights (l.map (Sum.inr : Q → O ⊕ Q)) = l := by
  simp [rights, List.filterMap_map, Function.comp_def]

theorem lefts_flatMap {O' Q' : Type*} (f : O → List O') (g : Q → List Q')
    (trace : List (O ⊕ Q)) :
    lefts (trace.flatMap
        (Sum.elim (fun o => (f o).map Sum.inl) fun q => (g q).map Sum.inr)) =
      (lefts trace).flatMap f := by
  induction trace with
  | nil => rfl
  | cons x trace ih =>
      rw [List.flatMap_cons, lefts_append, ih]
      cases x with
      | inl o => simp [lefts, List.filterMap_map, Function.comp_def]
      | inr q =>
          rw [Sum.elim_inr, lefts_inr]
          rfl

theorem rights_flatMap {O' Q' : Type*} (f : O → List O') (g : Q → List Q')
    (trace : List (O ⊕ Q)) :
    rights (trace.flatMap
        (Sum.elim (fun o => (f o).map Sum.inl) fun q => (g q).map Sum.inr)) =
      (rights trace).flatMap g := by
  induction trace with
  | nil => rfl
  | cons x trace ih =>
      rw [List.flatMap_cons, rights_append, ih]
      cases x with
      | inl o =>
          rw [Sum.elim_inl, rights_inl]
          rfl
      | inr q => simp [rights, List.filterMap_map, Function.comp_def]

/-- A run in which only the left side moves. -/
theorem run_left (s : Duplex A B X) (is : List I) :
    (machine M N W).run s (is.map .left) =
        { s with
          left := M.run s.left is
          toRight := s.toRight ++ (M.trace s.left is).flatMap W.sendLeft } ∧
      (machine M N W).trace s (is.map .left) =
        (M.trace s.left is).map Sum.inl := by
  induction is generalizing s with
  | nil => simp
  | cons i is ih =>
      obtain ⟨hrun, htrace⟩ := ih (stepLeft M W s i).1
      simp only [List.map_cons, Machine.run_cons, Machine.trace_cons]
      constructor
      · refine hrun.trans ?_
        simp [stepLeft, List.flatMap_append]
      · refine (congrArg _ htrace).trans ?_
        simp [machine, stepLeft]

/-- A run in which only the right side moves. -/
theorem run_right (s : Duplex A B X) (js : List J) :
    (machine M N W).run s (js.map .right) =
        { s with
          right := N.run s.right js
          toLeft := s.toLeft ++ (N.trace s.right js).flatMap W.sendRight } ∧
      (machine M N W).trace s (js.map .right) =
        (N.trace s.right js).map Sum.inr := by
  induction js generalizing s with
  | nil => simp
  | cons j js ih =>
      obtain ⟨hrun, htrace⟩ := ih (stepRight N W s j).1
      simp only [List.map_cons, Machine.run_cons, Machine.trace_cons]
      constructor
      · refine hrun.trans ?_
        simp [stepRight, List.flatMap_append]
      · refine (congrArg _ htrace).trans ?_
        simp [machine, stepRight]

/-! ## Sharing a link -/

section Sharing

variable {A' B' I' J' O' Q' : Type*} {M N} {M' : Machine A' I' O'}
  {N' : Machine B' J' Q'} {C : A → I → Prop} {D : B → J → Prop}

/-- A condition on the steps of the two sides. -/
def Admitted (C : A → I → Prop) (D : B → J → Prop) (s : Duplex A B X) :
    Input I J → Prop
  | .left i => C s.left i
  | .right j => D s.right j
  | .deliverLeft => True
  | .deliverRight => True

/-- One side of a shared link: `M` projects to `M'`, and the messages that `M'`
knows are those for which `mine` holds. -/
structure Share (P : Machine.Projection M M' C) (send : O → List X)
    (send' : O' → List X) (receive : X → I) (receive' : X → I')
    (mine : X → Bool) : Prop where
  admits : ∀ s x, C s (receive x)
  sends : ∀ s i, C s i → P.Good s →
    ((M.step s i).2.flatMap send).filter mine =
      ((M.step s i).2.flatMap P.observe).flatMap send'
  receives : ∀ s x, mine x = true → P.inputs s (receive x) = [receive' x]
  ignores : ∀ s x, P.Good s → mine x = false →
    P.view (M.step s (receive x)).1 = P.view s ∧
      (M.step s (receive x)).2.flatMap P.observe = []

variable {W} {V : Wiring I' J' O' Q' X} {mine : X → Bool}

theorem flatMap_observe_inl (f : O → List O') (g : Q → List Q') (l : List O) :
    (l.map Sum.inl).flatMap
        (Sum.elim (fun o => (f o).map Sum.inl) fun q => (g q).map Sum.inr) =
      ((l.flatMap f).map Sum.inl : List (O' ⊕ Q')) := by
  induction l with
  | nil => rfl
  | cons o l ih => simp [ih]

theorem flatMap_observe_inr (f : O → List O') (g : Q → List Q') (l : List Q) :
    (l.map Sum.inr).flatMap
        (Sum.elim (fun o => (f o).map Sum.inl) fun q => (g q).map Sum.inr) =
      ((l.flatMap g).map Sum.inr : List (O' ⊕ Q')) := by
  induction l with
  | nil => rfl
  | cons q l ih => simp [ih]

/-- What the smaller machines see of a state. -/
def share (view : A → A') (view' : B → B') (mine : X → Bool)
    (s : Duplex A B X) : Duplex A' B' X where
  left := view s.left
  right := view' s.right
  toLeft := s.toLeft.filter mine
  toRight := s.toRight.filter mine

/-- What the smaller machines see of a step. -/
def shareInputs (inputs : A → I → List I') (inputs' : B → J → List J')
    (mine : X → Bool) (s : Duplex A B X) : Input I J → List (Input I' J')
  | .left i => (inputs s.left i).map .left
  | .right j => (inputs' s.right j).map .right
  | .deliverLeft =>
      if (s.toLeft.head?.any mine) then [.deliverLeft] else []
  | .deliverRight =>
      if (s.toRight.head?.any mine) then [.deliverRight] else []

variable (P : Machine.Projection M M' C) (S : Machine.Projection N N' D)

/-- A step of the left side, seen through its share of the link. -/
theorem share_stepLeft
    (hP : Share P W.sendLeft V.sendLeft W.receiveLeft V.receiveLeft mine)
    {s : Duplex A B X} {i : I} (hi : C s.left i) (hs : P.Good s.left) :
    share P.view S.view mine (stepLeft M W s i).1 =
        (machine M' N' V).run (share P.view S.view mine s)
          ((P.inputs s.left i).map .left) ∧
      (stepLeft M W s i).2.flatMap
          (Sum.elim (fun o => (P.observe o).map Sum.inl)
            fun q => (S.observe q).map Sum.inr) =
        (machine M' N' V).trace (share P.view S.view mine s)
          ((P.inputs s.left i).map .left) := by
  obtain ⟨hrun, htrace⟩ := run_left M' N' V (share P.view S.view mine s)
    (P.inputs s.left i)
  rw [hrun, htrace]
  have hsends := hP.sends s.left i hi hs
  have htraces := P.trace_step s.left i hi hs
  constructor
  · simp [share, stepLeft, P.view_step s.left i hi hs, hsends, htraces]
  · rw [stepLeft, flatMap_observe_inl, htraces]
    rfl

theorem share_stepRight
    (hS : Share S W.sendRight V.sendRight W.receiveRight V.receiveRight mine)
    {s : Duplex A B X} {j : J} (hj : D s.right j) (hs : S.Good s.right) :
    share P.view S.view mine (stepRight N W s j).1 =
        (machine M' N' V).run (share P.view S.view mine s)
          ((S.inputs s.right j).map .right) ∧
      (stepRight N W s j).2.flatMap
          (Sum.elim (fun o => (P.observe o).map Sum.inl)
            fun q => (S.observe q).map Sum.inr) =
        (machine M' N' V).trace (share P.view S.view mine s)
          ((S.inputs s.right j).map .right) := by
  obtain ⟨hrun, htrace⟩ := run_right M' N' V (share P.view S.view mine s)
    (S.inputs s.right j)
  rw [hrun, htrace]
  have hsends := hS.sends s.right j hj hs
  have htraces := S.trace_step s.right j hj hs
  constructor
  · simp [share, stepRight, S.view_step s.right j hj hs, hsends, htraces]
  · rw [stepRight, flatMap_observe_inr, htraces]
    rfl

theorem share_deliverLeft
    (hP : Share P W.sendLeft V.sendLeft W.receiveLeft V.receiveLeft mine)
    {s : Duplex A B X} (hs : P.Good s.left) :
    share P.view S.view mine ((machine M N W).step s .deliverLeft).1 =
        (machine M' N' V).run (share P.view S.view mine s)
          (shareInputs P.inputs S.inputs mine s .deliverLeft) ∧
      ((machine M N W).step s .deliverLeft).2.flatMap
          (Sum.elim (fun o => (P.observe o).map Sum.inl)
            fun q => (S.observe q).map Sum.inr) =
        (machine M' N' V).trace (share P.view S.view mine s)
          (shareInputs P.inputs S.inputs mine s .deliverLeft) := by
  cases hqueue : s.toLeft with
  | nil => simp [machine, shareInputs, hqueue]
  | cons x rest =>
      have hC := hP.admits s.left x
      have hstep := share_stepLeft (W := W) (V := V) P S hP
        (s := { s with toLeft := rest }) hC hs
      cases hx : mine x with
      | true =>
          rw [hP.receives s.left x hx] at hstep
          simpa [machine, shareInputs, hqueue, hx, share] using hstep
      | false =>
          obtain ⟨hview, hobs⟩ := hP.ignores s.left x hs hx
          have hsends := hP.sends s.left (W.receiveLeft x) hC hs
          rw [hobs] at hsends
          simp only [machine, shareInputs, hqueue, stepLeft,
            flatMap_observe_inl, hobs]
          simp [share, hview, hsends, hqueue, hx]

theorem share_deliverRight
    (hS : Share S W.sendRight V.sendRight W.receiveRight V.receiveRight mine)
    {s : Duplex A B X} (hs : S.Good s.right) :
    share P.view S.view mine ((machine M N W).step s .deliverRight).1 =
        (machine M' N' V).run (share P.view S.view mine s)
          (shareInputs P.inputs S.inputs mine s .deliverRight) ∧
      ((machine M N W).step s .deliverRight).2.flatMap
          (Sum.elim (fun o => (P.observe o).map Sum.inl)
            fun q => (S.observe q).map Sum.inr) =
        (machine M' N' V).trace (share P.view S.view mine s)
          (shareInputs P.inputs S.inputs mine s .deliverRight) := by
  cases hqueue : s.toRight with
  | nil => simp [machine, shareInputs, hqueue]
  | cons x rest =>
      have hD := hS.admits s.right x
      have hstep := share_stepRight (W := W) (V := V) P S hS
        (s := { s with toRight := rest }) hD hs
      cases hx : mine x with
      | true =>
          rw [hS.receives s.right x hx] at hstep
          simpa [machine, shareInputs, hqueue, hx, share] using hstep
      | false =>
          obtain ⟨hview, hobs⟩ := hS.ignores s.right x hs hx
          have hsends := hS.sends s.right (W.receiveRight x) hD hs
          rw [hobs] at hsends
          simp only [machine, shareInputs, hqueue, stepRight,
            flatMap_observe_inr, hobs]
          simp [share, hview, hsends, hqueue, hx]

/-- A shared link projects to the link of each of its users. -/
def projection
    (hP : Share P W.sendLeft V.sendLeft W.receiveLeft V.receiveLeft mine)
    (hS : Share S W.sendRight V.sendRight W.receiveRight V.receiveRight
      mine) :
    Machine.Projection (machine M N W) (machine M' N' V) (Admitted C D) where
  Good s := P.Good s.left ∧ S.Good s.right
  view := share P.view S.view mine
  inputs := shareInputs P.inputs S.inputs mine
  observe := Sum.elim (fun o => (P.observe o).map Sum.inl)
    fun q => (S.observe q).map Sum.inr
  good_step := by
    rintro s (i | j | _ | _) h ⟨hleft, hright⟩
    · exact ⟨P.good_step _ _ h hleft, hright⟩
    · exact ⟨hleft, S.good_step _ _ h hright⟩
    · simp only [machine]
      split
      · exact ⟨hleft, hright⟩
      · exact ⟨P.good_step _ _ (hP.admits _ _) hleft, hright⟩
    · simp only [machine]
      split
      · exact ⟨hleft, hright⟩
      · exact ⟨hleft, S.good_step _ _ (hS.admits _ _) hright⟩
  view_step := by
    rintro s (i | j | _ | _) h ⟨hleft, hright⟩
    · exact (share_stepLeft P S hP h hleft).1
    · exact (share_stepRight P S hS h hright).1
    · exact (share_deliverLeft P S hP hleft).1
    · exact (share_deliverRight P S hS hright).1
  trace_step := by
    rintro s (i | j | _ | _) h ⟨hleft, hright⟩
    · exact (share_stepLeft P S hP h hleft).2
    · exact (share_stepRight P S hS h hright).2
    · exact (share_deliverLeft P S hP hleft).2
    · exact (share_deliverRight P S hS hright).2

end Sharing

end Duplex

end HakoPduRpc
