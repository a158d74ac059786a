import HakoPduRpc.Lib.Progress
import Mathlib.Data.Prod.Lex

/-!
# Messages in transit

A mailbox behind a transport: messages are put on the transport at its end, the
oldest of them is delivered into the mailbox, and what is in the mailbox is taken
from its front.  One kind of item is waited for.

`descent` says that an item of that kind is taken when deliveries and takings
recur.  What is due is the delivery as long as there is none in the mailbox, and
the rank is the place of the first one.
-/

namespace HakoPduRpc
namespace Machine

variable {State Input Obs X Y : Type*}

/-- What a step does to a transport and the mailbox behind it, as long as nothing
that is waited for is taken. -/
inductive Moves (arrives : X → List Y) (wanted : Y → Bool) :
    List X × List Y → List X × List Y → Prop
  | sent (transport more : List X) (mailbox : List Y) :
      Moves arrives wanted (transport, mailbox) (transport ++ more, mailbox)
  | delivered (x : X) (transport : List X) (mailbox : List Y) :
      Moves arrives wanted (x :: transport, mailbox)
        (transport, mailbox ++ arrives x)
  | taken (y : Y) (transport : List X) (mailbox : List Y)
      (hother : wanted y = false) :
      Moves arrives wanted (transport, y :: mailbox) (transport, mailbox)

theorem Moves.same (arrives : X → List Y) (wanted : Y → Bool)
    (transport : List X) (mailbox : List Y) :
    Moves arrives wanted (transport, mailbox) (transport, mailbox) := by
  have hsent : Moves arrives wanted (transport, mailbox)
      (transport ++ [], mailbox) := .sent transport [] mailbox
  rwa [List.append_nil] at hsent

/-- A mailbox behind a transport, in the states of a machine. -/
structure Transit (M : Machine State Input Obs) (X Y : Type*) where
  admitted : State → Input → Prop
  transport : State → List X
  mailbox : State → List Y
  /-- What a message is in the mailbox. -/
  arrives : X → List Y
  /-- What is waited for. -/
  wanted : Y → Bool
  delivers : State → Input → Prop
  takes : State → Input → Prop
  taken : List Obs → Prop
  moves : ∀ s i, admitted s i → taken (M.step s i).2 ∨
    Moves arrives wanted (transport s, mailbox s)
      (transport (M.step s i).1, mailbox (M.step s i).1)
  delivered : ∀ s i x rest, admitted s i → delivers s i →
    transport s = x :: rest → taken (M.step s i).2 ∨
      (transport (M.step s i).1 = rest ∧
        mailbox (M.step s i).1 = mailbox s ++ arrives x)
  took : ∀ s i y rest, admitted s i → takes s i → mailbox s = y :: rest →
    taken (M.step s i).2 ∨
      (wanted y = false ∧ transport (M.step s i).1 = transport s ∧
        mailbox (M.step s i).1 = rest)

namespace Transit

section Places

variable (arrives : X → List Y) (wanted : Y → Bool)

/-- Where the first item that is waited for is. -/
inductive Place
  | transport
  | mailbox
deriving DecidableEq

/-- An item that is waited for is under way. -/
def UnderWay (s : List X × List Y) : Prop :=
  s.2.any wanted ∨ s.1.any fun x => (arrives x).any wanted

/-- The place of the first one. -/
def place (s : List X × List Y) : Place :=
  if s.2.any wanted then .mailbox else .transport

/-- How much is in front of it: first the transport has to deliver it. -/
def ahead (s : List X × List Y) : ℕ ×ₗ ℕ :=
  if s.2.any wanted then toLex (0, s.2.findIdx wanted)
  else toLex (1, s.1.findIdx fun x => (arrives x).any wanted)

variable {arrives wanted}

theorem findIdx_append_of_any {α : Type*} {p : α → Bool} {l : List α}
    (h : l.any p) (l' : List α) : (l ++ l').findIdx p = l.findIdx p := by
  have hlt : l.findIdx p < l.length :=
    List.findIdx_lt_length_of_exists (List.any_eq_true.mp h)
  rw [List.findIdx_append, if_pos hlt]

/-- What a delivery of the oldest message does. -/
theorem deliver_lt {x : X} {transport : List X} {mailbox : List Y}
    (hmailbox : mailbox.any wanted = false)
    (hway : UnderWay arrives wanted (x :: transport, mailbox)) :
    UnderWay arrives wanted (transport, mailbox ++ arrives x) ∧
      ahead arrives wanted (transport, mailbox ++ arrives x) <
        ahead arrives wanted (x :: transport, mailbox) := by
  cases hx : (arrives x).any wanted with
  | true =>
      refine ⟨Or.inl (by simp [hx]), ?_⟩
      have hany : (mailbox ++ arrives x).any wanted = true := by simp [hx]
      simp only [ahead, hany, hmailbox, if_true, Bool.false_eq_true, if_false]
      exact Prod.Lex.toLex_lt_toLex.mpr (Or.inl Nat.zero_lt_one)
  | false =>
      have hany : (mailbox ++ arrives x).any wanted = false := by
        simp [hx, hmailbox]
      have hrest : transport.any fun x => (arrives x).any wanted := by
        simpa [UnderWay, hmailbox, hx] using hway
      refine ⟨Or.inr hrest, ?_⟩
      simp only [ahead, hany, hmailbox, Bool.false_eq_true, if_false,
        List.findIdx_cons, hx, cond_false]
      exact Prod.Lex.toLex_lt_toLex.mpr (Or.inr ⟨rfl, Nat.lt_succ_self _⟩)

/-- What taking an item from the front does that is not waited for. -/
theorem take_lt (arrives : X → List Y) {y : Y} (transport : List X)
    {mailbox : List Y} (hy : wanted y = false) (hmailbox : (y :: mailbox).any wanted = true) :
    UnderWay arrives wanted (transport, mailbox) ∧
      ahead arrives wanted (transport, mailbox) <
        ahead arrives wanted (transport, y :: mailbox) := by
  have hrest : mailbox.any wanted = true := by simpa [hy] using hmailbox
  refine ⟨Or.inl hrest, ?_⟩
  simp only [ahead, hmailbox, hrest, if_true, List.findIdx_cons, hy, cond_false]
  exact Prod.Lex.toLex_lt_toLex.mpr (Or.inr ⟨rfl, Nat.lt_succ_self _⟩)

/-- No step loses what is waited for or puts anything in front of it. -/
theorem ahead_le_of_moves {s s' : List X × List Y}
    (h : Moves arrives wanted s s') (hway : UnderWay arrives wanted s) :
    UnderWay arrives wanted s' ∧
      (ahead arrives wanted s' < ahead arrives wanted s ∨
        ahead arrives wanted s' = ahead arrives wanted s ∧
          place wanted s' = place wanted s) := by
  cases h with
  | sent transport more mailbox =>
      cases hmailbox : mailbox.any wanted with
      | true =>
          refine ⟨Or.inl hmailbox, Or.inr ⟨?_, ?_⟩⟩ <;>
            simp [ahead, place, hmailbox]
      | false =>
          have hrest : transport.any fun x => (arrives x).any wanted := by
            simpa [UnderWay, hmailbox] using hway
          refine ⟨Or.inr (by simp [hrest]), Or.inr ⟨?_, ?_⟩⟩
          · simp [ahead, hmailbox, findIdx_append_of_any hrest]
          · simp [place, hmailbox]
  | delivered x transport mailbox =>
      cases hmailbox : mailbox.any wanted with
      | true =>
          refine ⟨Or.inl (by simp [hmailbox]), Or.inr ⟨?_, ?_⟩⟩
          · simp [ahead, hmailbox, findIdx_append_of_any hmailbox]
          · simp [place, hmailbox]
      | false =>
          obtain ⟨hway', hlt⟩ := deliver_lt hmailbox hway
          exact ⟨hway', Or.inl hlt⟩
  | taken y transport mailbox hy =>
      cases hmailbox : (y :: mailbox).any wanted with
      | true =>
          obtain ⟨hway', hlt⟩ := take_lt arrives transport hy hmailbox
          exact ⟨hway', Or.inl hlt⟩
      | false =>
          have hrest : mailbox.any wanted = false := by
            simpa [hy] using hmailbox
          refine ⟨Or.inr ?_, Or.inr ⟨?_, ?_⟩⟩
          · simpa [UnderWay, hmailbox] using hway
          · simp [ahead, hmailbox, hrest]
          · simp [place, hmailbox, hrest]

end Places

variable {M : Machine State Input Obs} (T : M.Transit X Y)

/-- What is waited for is taken, when deliveries and takings recur. -/
def descent : M.Descent Place (ℕ ×ₗ ℕ) where
  admitted := T.admitted
  busy s := UnderWay T.arrives T.wanted (T.transport s, T.mailbox s)
  done := T.taken
  rank s := ahead T.arrives T.wanted (T.transport s, T.mailbox s)
  due s := place T.wanted (T.transport s, T.mailbox s)
  acts
    | .transport => T.delivers
    | .mailbox => T.takes
  helps := by
    intro s i hadmitted hbusy hacts
    cases hmailbox : (T.mailbox s).any T.wanted with
    | true =>
        have hplace : place T.wanted (T.transport s, T.mailbox s) = .mailbox := by
          simp [place, hmailbox]
        rw [hplace] at hacts
        cases hqueue : T.mailbox s with
        | nil => simp [hqueue] at hmailbox
        | cons y rest =>
            obtain htaken | ⟨hy, htransport, hrest⟩ :=
              T.took s i y rest hadmitted hacts hqueue
            · exact Or.inl htaken
            · rw [hqueue] at hmailbox
              rw [htransport, hrest]
              exact Or.inr (take_lt _ _ hy hmailbox)
    | false =>
        have hplace : place T.wanted (T.transport s, T.mailbox s) =
            .transport := by
          simp [place, hmailbox]
        rw [hplace] at hacts
        cases hqueue : T.transport s with
        | nil => simp [UnderWay, hqueue, hmailbox] at hbusy
        | cons x rest =>
            obtain htaken | ⟨htransport, hrest⟩ :=
              T.delivered s i x rest hadmitted hacts hqueue
            · exact Or.inl htaken
            · rw [hqueue] at hbusy
              rw [htransport, hrest]
              exact Or.inr (deliver_lt hmailbox hbusy)
  waits := by
    intro s i hadmitted hbusy
    obtain htaken | hmoves := T.moves s i hadmitted
    · exact Or.inl htaken
    · exact Or.inr (ahead_le_of_moves hmoves hbusy)

end Transit

end Machine
end HakoPduRpc
