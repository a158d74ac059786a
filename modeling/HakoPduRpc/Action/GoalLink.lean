import HakoPduRpc.Action.ClientSteps
import HakoPduRpc.Action.ServerSteps

/-!
# One Goal between client and server

The protocol of a single Goal: its binding on the client, its binding on the
server, the requests and the packets that are under way between them, and the
packets of every incarnation as the two sides saw them.  `LinkStep` lists what
can happen to the Goal when both directions keep the order.

`GoalLink` is the invariant.  It says what the client will be when it has taken
everything that is under way (`drain`), and which bindings of the server and
which requests under way go with that (`Expects`).
-/

namespace HakoPduRpc.Action

/-! ## The view of one Goal -/

inductive RequestKind
  | goal
  | cancel
deriving DecidableEq, Repr

/-- `request_kind` of the header. -/
def RequestKind.code : RequestKind → UInt8
  | .goal => requestKindGoal
  | .cancel => requestKindCancel

/-- A request for the Goal under way to the server. -/
structure Request where
  slot : ℕ
  kind : RequestKind
deriving DecidableEq

/-- A packet for the Goal under way to the client. -/
structure Delivery where
  slot : ℕ
  notice : Notice
  data : PduData
deriving DecidableEq

/-- The content of a delivery. -/
def Delivery.content (d : Delivery) : Notice × PduData := (d.notice, d.data)

/-- One Goal on both sides.  Incarnations are listed newest first. -/
structure GoalView where
  client : Option ClientPacketBinding
  server : Option ActionPacketBinding
  requests : List Request
  deliveries : List Delivery
  /-- The packets that the client reported, for each incarnation. -/
  reported : List (List (Notice × PduData))
  /-- The packets that the server sent, for each incarnation. -/
  sent : List (List (Notice × PduData))
  /-- All requests that the client sent. -/
  asked : List RequestKind

/-- Append to the newest incarnation. -/
def pushNewest {α : Type} (a : α) : List (List α) → List (List α)
  | [] => [[a]]
  | l :: rest => (l ++ [a]) :: rest

/-- What the server does to the binding of a Goal when it sends a packet. -/
inductive ServerSends :
    ActionPacketBinding → Notice → Option ActionPacketBinding → Prop
  | accept {x : ActionPacketBinding}
      (hstate : x.state = .awaitingGoalDecision)
      (hpending : x.cancelDecisionPending = false) :
      ServerSends x (.goalResponse .accepted)
        (some { x with state := .goalAccepted })
  | reject {x : ActionPacketBinding}
      (hstate : x.state = .awaitingGoalDecision) :
      ServerSends x (.goalResponse .rejected) none
  | acceptCancel {x : ActionPacketBinding} (hstate : x.state = .goalAccepted)
      (hpending : x.cancelDecisionPending = true) :
      ServerSends x (.cancelResponse .accepted)
        (some { x with
          state := .cancelAccepted
          cancelDecisionPending := false })
  | rejectCancel {x : ActionPacketBinding} (hstate : x.state = .goalAccepted)
      (hpending : x.cancelDecisionPending = true) :
      ServerSends x (.cancelResponse .rejected)
        (some { x with cancelDecisionPending := false })
  | feedback {x : ActionPacketBinding}
      (hstate : x.state = .goalAccepted ∨ x.state = .cancelAccepted) :
      ServerSends x (.feedback x.nextFeedbackSequence)
        (some { x with nextFeedbackSequence := x.nextFeedbackSequence + 1 })
  | result {x : ActionPacketBinding} {status : TerminalStatus}
      (hmay : ActionServerEndpointImpl.mayComplete x status = true) :
      ServerSends x (.result status) none

/-- A Cancel on the slot would be dispatched to the application. -/
def Dispatches (server : Option ActionPacketBinding) (slot : ℕ) : Prop :=
  ∃ x, server = some x ∧ x.slotIndex = slot ∧ x.state = .goalAccepted ∧
    x.cancelDecisionPending = false

/-- The steps of one Goal. -/
inductive LinkStep (v : GoalView) : GoalView → Prop
  | sendGoal {b : ClientPacketBinding} (hclient : v.client = none)
      (hstate : b.state = .awaitingGoalResponse)
      (hnext : b.nextFeedbackSequence = 0) :
      LinkStep v
        { v with
          client := some b
          requests := v.requests ++ [⟨b.slotIndex, .goal⟩]
          reported := [] :: v.reported
          asked := v.asked ++ [.goal] }
  | sendCancel {b : ClientPacketBinding} (hclient : v.client = some b)
      (hstate : b.state = .accepted) :
      LinkStep v
        { v with
          client := some { b with state := .awaitingCancelResponse }
          requests := v.requests ++ [⟨b.slotIndex, .cancel⟩]
          asked := v.asked ++ [.cancel] }
  | report {b : ClientPacketBinding} {b' : Option ClientPacketBinding}
      {d : Delivery} {ds : List Delivery} (hclient : v.client = some b)
      (hqueue : v.deliveries = d :: ds) (hslot : b.slotIndex = d.slot)
      (hadvance : b.advance d.notice = some b') :
      LinkStep v
        { v with
          client := b'
          deliveries := ds
          reported := pushNewest d.content v.reported }
  | drop {d : Delivery} {ds : List Delivery} (hqueue : v.deliveries = d :: ds)
      (hdrop : ∀ b, v.client = some b → b.slotIndex = d.slot →
        b.advance d.notice = none) :
      LinkStep v { v with deliveries := ds }
  | timeout {b : ClientPacketBinding} (hclient : v.client = some b)
      (hstate : b.state = .awaitingGoalResponse) :
      LinkStep v
        { v with client := some { b with state := .goalResponseTimedOut } }
  | takeGoal {x : ActionPacketBinding} {r : Request} {rs : List Request}
      (hqueue : v.requests = r :: rs) (hkind : r.kind = .goal)
      (hserver : v.server = none) (hslot : x.slotIndex = r.slot)
      (hstate : x.state = .awaitingGoalDecision)
      (hpending : x.cancelDecisionPending = false)
      (hnext : x.nextFeedbackSequence = 0) :
      LinkStep v
        { v with
          server := some x
          requests := rs
          sent := [] :: v.sent }
  | ignoreCancel {r : Request} {rs : List Request}
      (hqueue : v.requests = r :: rs) (hkind : r.kind = .cancel)
      (hignored : ¬Dispatches v.server r.slot) :
      LinkStep v { v with requests := rs }
  | dispatchCancel {x : ActionPacketBinding} {r : Request} {rs : List Request}
      (hqueue : v.requests = r :: rs) (hkind : r.kind = .cancel)
      (hserver : v.server = some x) (hslot : x.slotIndex = r.slot)
      (hstate : x.state = .goalAccepted)
      (hpending : x.cancelDecisionPending = false) :
      LinkStep v
        { v with
          server := some { x with cancelDecisionPending := true }
          requests := rs }
  | send {x : ActionPacketBinding} {x' : Option ActionPacketBinding}
      {n : Notice} {data : PduData} (hserver : v.server = some x)
      (hsends : ServerSends x n x') :
      LinkStep v
        { v with
          server := x'
          deliveries := v.deliveries ++ [⟨x.slotIndex, n, data⟩]
          sent := pushNewest (n, data) v.sent }
  | commit {x : ActionPacketBinding} {status : TerminalStatus}
      (hserver : v.server = some x)
      (hmay : ActionServerEndpointImpl.mayComplete x status = true) :
      LinkStep v
        { v with server := some (ActionServerEndpointImpl.committed x) }

/-! ## What the client will be -/

/-- The binding of the client after the deliveries; `none` when one of them
would be lost.  A quarantined binding absorbs everything on its slot. -/
def drain : Option ClientPacketBinding → List Delivery →
    Option (Option ClientPacketBinding)
  | b, [] => some b
  | none, _ :: _ => none
  | some b, d :: ds =>
      if b.slotIndex ≠ d.slot then none
      else if b.state = .goalResponseTimedOut then drain (some b) ds
      else (b.advance d.notice).bind fun b' => drain b' ds

@[simp] theorem drain_nil (b : Option ClientPacketBinding) :
    drain b [] = some b := by
  cases b <;> rfl

theorem drain_append (b : Option ClientPacketBinding)
    (ds ds' : List Delivery) :
    drain b (ds ++ ds') = (drain b ds).bind fun b' => drain b' ds' := by
  induction ds generalizing b with
  | nil => simp
  | cons d ds ih =>
      cases b with
      | none => rfl
      | some b =>
          simp only [List.cons_append, drain]
          split_ifs
          · rfl
          · exact ih (some b)
          · cases b.advance d.notice with
            | none => rfl
            | some b' => exact ih b'

theorem drain_none {ds : List Delivery} {fut : Option ClientPacketBinding}
    (h : drain none ds = some fut) : ds = [] ∧ fut = none := by
  cases ds with
  | nil => exact ⟨rfl, by simpa using h.symm⟩
  | cons d ds => simp [drain] at h

/-- Nothing on the way is lost: the first delivery is reported or absorbed. -/
theorem drain_cons {b : Option ClientPacketBinding} {d : Delivery}
    {ds : List Delivery} {fut : Option ClientPacketBinding}
    (h : drain b (d :: ds) = some fut) :
    ∃ x, b = some x ∧ x.slotIndex = d.slot ∧
      ((x.state = .goalResponseTimedOut ∧ drain (some x) ds = some fut) ∨
        ∃ x', x.advance d.notice = some x' ∧ drain x' ds = some fut) := by
  cases b with
  | none => simp [drain] at h
  | some x =>
      simp only [drain] at h
      split_ifs at h with hslot hstate
      · exact ⟨x, rfl, not_not.mp hslot, Or.inl ⟨hstate, h⟩⟩
      · obtain ⟨x', hadvance, hrest⟩ := Option.bind_eq_some_iff.mp h
        exact ⟨x, rfl, not_not.mp hslot, Or.inr ⟨x', hadvance, hrest⟩⟩

theorem drain_advance {b : ClientPacketBinding} {d : Delivery}
    {b' : Option ClientPacketBinding} (hslot : b.slotIndex = d.slot)
    (hstate : b.state ≠ .goalResponseTimedOut)
    (hadvance : b.advance d.notice = some b') (ds : List Delivery) :
    drain (some b) (d :: ds) = drain b' ds := by
  simp [drain, hslot, hstate, hadvance]

theorem drain_slot {b : ClientPacketBinding} {ds : List Delivery}
    {fut : Option ClientPacketBinding} (h : drain (some b) ds = some fut) :
    (∀ d ∈ ds, d.slot = b.slotIndex) ∧
      ∀ x ∈ fut, x.slotIndex = b.slotIndex := by
  induction ds generalizing b with
  | nil =>
      simp only [drain_nil, Option.some.injEq] at h
      subst h
      simp
  | cons d ds ih =>
      obtain ⟨x, hx, hslot, hrest⟩ := drain_cons h
      cases hx
      rcases hrest with ⟨-, hrest⟩ | ⟨x', hadvance, hrest⟩
      · obtain ⟨hds, hfut⟩ := ih hrest
        exact ⟨by simpa [hslot] using hds, hfut⟩
      · cases x' with
        | none =>
            obtain ⟨rfl, rfl⟩ := drain_none hrest
            simp [hslot]
        | some x' =>
            obtain ⟨hds, hfut⟩ := ih hrest
            rw [(ActionClientEndpointImpl.advance_same hadvance).1] at hds hfut
            exact ⟨by simpa [hslot] using hds, hfut⟩

theorem drain_quarantined {b : ClientPacketBinding} {ds : List Delivery}
    (hstate : b.state = .goalResponseTimedOut)
    (hslot : ∀ d ∈ ds, d.slot = b.slotIndex) :
    drain (some b) ds = some (some b) := by
  induction ds with
  | nil => simp
  | cons d ds ih =>
      simp only [List.mem_cons, forall_eq_or_imp] at hslot
      simp [drain, hslot.1, hstate, ih hslot.2]

/-- A Cancel sent from the accepted state does not disturb what is under way. -/
theorem drain_cancelSent {b : ClientPacketBinding} {ds : List Delivery}
    {fut : Option ClientPacketBinding} (hstate : b.state = .accepted)
    (h : drain (some b) ds = some fut) :
    (∀ d ∈ ds, ∀ decision, d.notice ≠ .cancelResponse decision) ∧
      drain (some { b with state := .awaitingCancelResponse }) ds =
        some (fut.map fun x => { x with state := .awaitingCancelResponse }) ∧
      ∀ x ∈ fut, x.state = .accepted := by
  induction ds generalizing b with
  | nil =>
      simp only [drain_nil, Option.some.injEq] at h
      subst h
      simp [hstate]
  | cons d ds ih =>
      obtain ⟨x, hx, hslot, hrest⟩ := drain_cons h
      cases hx
      rcases hrest with ⟨htimeout, -⟩ | ⟨x', hadvance, hrest⟩
      · simp [hstate] at htimeout
      · cases hn : d.notice with
        | goalResponse decision =>
            simp [hn, ClientPacketBinding.advance, hstate] at hadvance
        | cancelResponse decision =>
            simp [hn, ClientPacketBinding.advance, hstate] at hadvance
        | feedback sequence =>
            simp only [hn, ClientPacketBinding.advance, hstate, true_or,
              true_and] at hadvance
            split_ifs at hadvance with hsequence
            cases hadvance
            obtain ⟨hnone, hdrain, hfut⟩ := ih rfl hrest
            refine ⟨by simpa [hn] using hnone, ?_, hfut⟩
            refine (drain_advance
              (b := { b with state := .awaitingCancelResponse })
              hslot (by simp) ?_ ds).trans hdrain
            simp [hn, ClientPacketBinding.advance, hsequence]
        | result status =>
            simp only [hn, ClientPacketBinding.advance, hstate, true_and,
              reduceCtorEq, false_and, or_false] at hadvance
            split_ifs at hadvance with hstatus
            cases hadvance
            obtain ⟨rfl, rfl⟩ := drain_none hrest
            simp [drain, hslot, hn, ClientPacketBinding.advance, hstatus]

/-! ## The invariant -/

/-- Nothing, or the late Cancel of an earlier moment. -/
def AtMostCancel (rs : List Request) : Prop :=
  rs = [] ∨ ∃ slot, rs = [⟨slot, .cancel⟩]

/-- The binding of the server and the requests under way that go with what the
client will be. -/
inductive Expects : Option ClientPacketBinding → Option ActionPacketBinding →
    List Request → Prop
  | closed {rs : List Request} (hrs : AtMostCancel rs) : Expects none none rs
  | requested {b : ClientPacketBinding} {old : List Request}
      (hstate : b.state = .awaitingGoalResponse ∨
        b.state = .goalResponseTimedOut)
      (hnext : b.nextFeedbackSequence = 0) (hold : AtMostCancel old) :
      Expects (some b) none (old ++ [⟨b.slotIndex, .goal⟩])
  | undecided {b : ClientPacketBinding} {x : ActionPacketBinding}
      (hstate : b.state = .awaitingGoalResponse)
      (hserver : x.state = .awaitingGoalDecision)
      (hslot : x.slotIndex = b.slotIndex)
      (hnext : x.nextFeedbackSequence = b.nextFeedbackSequence) :
      Expects (some b) (some x) []
  | executing {b : ClientPacketBinding} {x : ActionPacketBinding}
      (hstate : b.state = .accepted)
      (hserver : x.state = .goalAccepted ∨ x.state = .resultCommitted)
      (hpending : x.cancelDecisionPending = false)
      (hslot : x.slotIndex = b.slotIndex)
      (hnext : x.nextFeedbackSequence = b.nextFeedbackSequence) :
      Expects (some b) (some x) []
  | cancelSent {b : ClientPacketBinding} {x : ActionPacketBinding}
      (hstate : b.state = .awaitingCancelResponse)
      (hserver : x.state = .goalAccepted)
      (hpending : x.cancelDecisionPending = false)
      (hslot : x.slotIndex = b.slotIndex)
      (hnext : x.nextFeedbackSequence = b.nextFeedbackSequence) :
      Expects (some b) (some x) [⟨b.slotIndex, .cancel⟩]
  | cancelPending {b : ClientPacketBinding} {x : ActionPacketBinding}
      (hstate : b.state = .awaitingCancelResponse)
      (hserver : x.state = .goalAccepted)
      (hpending : x.cancelDecisionPending = true)
      (hslot : x.slotIndex = b.slotIndex)
      (hnext : x.nextFeedbackSequence = b.nextFeedbackSequence) :
      Expects (some b) (some x) []
  | cancelLate {b : ClientPacketBinding} {x : ActionPacketBinding}
      {rs : List Request} (hstate : b.state = .awaitingCancelResponse)
      (hserver : x.state = .resultCommitted)
      (hslot : x.slotIndex = b.slotIndex) (hrs : AtMostCancel rs) :
      Expects (some b) (some x) rs
  | canceling {b : ClientPacketBinding} {x : ActionPacketBinding}
      (hstate : b.state = .canceling)
      (hserver : x.state = .cancelAccepted ∨ x.state = .resultCommitted)
      (hslot : x.slotIndex = b.slotIndex)
      (hnext : x.nextFeedbackSequence = b.nextFeedbackSequence) :
      Expects (some b) (some x) []
  | quarantined {b : ClientPacketBinding} {x : Option ActionPacketBinding}
      (hstate : b.state = .goalResponseTimedOut)
      (hslot : ∀ y ∈ x, y.slotIndex = b.slotIndex) :
      Expects (some b) x []

/-- When no request of the client can be under way. -/
def Quiet : Option ClientPacketBinding → List Delivery → List Request → Prop
  | none, _, _ => True
  | some b, ds, rs =>
      match b.state with
      | .awaitingGoalResponse => ds ≠ [] → rs = []
      | .goalResponseTimedOut => ds ≠ [] → rs = []
      | .accepted => rs = []
      | .awaitingCancelResponse =>
          (∃ d ∈ ds, ∃ decision, d.notice = .cancelResponse decision) → rs = []
      | .canceling => rs = []

/-- The incarnations of the two sides, newest first: they are the same, up to a
Goal Request under way and to what is under way of the newest one. -/
inductive Matched (v : GoalView) : Prop
  | never (hclient : v.client = none) (hreported : v.reported = [])
      (hsent : v.sent = [])
  | requested (hgoal : ∃ r ∈ v.requests, r.kind = .goal)
      (hdeliveries : v.deliveries = [])
      (hreported : v.reported = [] :: v.sent)
  | opened {c s : List (Notice × PduData)}
      {rest : List (List (Notice × PduData))}
      (hgoal : ∀ r ∈ v.requests, r.kind ≠ .goal)
      (hreported : v.reported = c :: rest) (hsent : v.sent = s :: rest)
      (hfresh : ∀ b, v.client = some b → (b.state = .awaitingGoalResponse ∨
        b.state = .goalResponseTimedOut) → c = [])
      (hall : (∀ b, v.client = some b → b.state ≠ .goalResponseTimedOut) →
        s = c ++ v.deliveries.map Delivery.content)

/-- What holds of a Goal at every moment. -/
structure GoalLink (v : GoalView) : Prop where
  expects : ∃ fut, drain v.client v.deliveries = some fut ∧
    Expects fut v.server v.requests
  quiet : Quiet v.client v.deliveries v.requests
  matched : Matched v
  /-- The requests under way are the last ones that the client sent. -/
  suffix : v.requests.map Request.kind <:+ v.asked
  /-- Every Goal Request opens an incarnation of the client. -/
  count : v.asked.count .goal = v.reported.length

theorem AtMostCancel.kind {rs : List Request} (h : AtMostCancel rs) :
    ∀ r ∈ rs, r.kind ≠ .goal := by
  rcases h with rfl | ⟨slot, rfl⟩ <;> simp

theorem AtMostCancel.tail {r : Request} {rs : List Request}
    (h : AtMostCancel (r :: rs)) : rs = [] ∧ r.kind = .cancel := by
  rcases h with h | ⟨slot, h⟩ <;> simp_all

namespace Expects

variable {fut : Option ClientPacketBinding} {server : Option ActionPacketBinding}
  {rs : List Request}

/-- The client holds a binding on the same slot as long as the server does. -/
theorem client_of_server {x : ActionPacketBinding}
    (h : Expects fut (some x) rs) :
    ∃ b, fut = some b ∧ b.slotIndex = x.slotIndex := by
  cases h with
  | undecided _ _ hslot => exact ⟨_, rfl, hslot.symm⟩
  | executing _ _ _ hslot => exact ⟨_, rfl, hslot.symm⟩
  | cancelSent _ _ _ hslot => exact ⟨_, rfl, hslot.symm⟩
  | cancelPending _ _ _ hslot => exact ⟨_, rfl, hslot.symm⟩
  | cancelLate _ _ hslot => exact ⟨_, rfl, hslot.symm⟩
  | canceling _ _ hslot => exact ⟨_, rfl, hslot.symm⟩
  | quarantined _ hslot => exact ⟨_, rfl, (hslot x rfl).symm⟩

/-- A bound Goal has no Goal Request under way. -/
theorem no_goal_of_server {x : ActionPacketBinding}
    (h : Expects fut (some x) rs) : ∀ r ∈ rs, r.kind ≠ .goal := by
  cases h with
  | cancelSent => simp
  | cancelLate _ _ _ hrs => exact hrs.kind
  | undecided | executing | cancelPending | canceling | quarantined => simp

/-- At most one Goal Request is under way. -/
theorem count_goal (h : Expects fut server rs)
    (hgoal : ∃ r ∈ rs, r.kind = .goal) :
    (rs.map Request.kind).count .goal = 1 := by
  obtain ⟨r, hr, hkind⟩ := hgoal
  cases h with
  | closed hrs => exact absurd hkind (hrs.kind r hr)
  | requested _ _ hold =>
      rcases hold with rfl | ⟨slot, rfl⟩ <;> simp
  | cancelLate _ _ _ hrs => exact absurd hkind (hrs.kind r hr)
  | cancelSent => simp_all
  | undecided | executing | cancelPending | canceling | quarantined =>
      simp at hr

/-- A Goal Request that arrives finds no binding of its Goal, and it is on the
slot of the client. -/
theorem goal_head {r : Request} (h : Expects fut server (r :: rs))
    (hkind : r.kind = .goal) :
    server = none ∧ rs = [] ∧ ∃ b, fut = some b ∧ b.slotIndex = r.slot ∧
      (b.state = .awaitingGoalResponse ∨ b.state = .goalResponseTimedOut) ∧
      b.nextFeedbackSequence = 0 := by
  generalize hq : r :: rs = q at h
  cases h with
  | closed hrs =>
      subst hq
      simp [hrs.tail.2] at hkind
  | @requested b old hstate hnext hold =>
      rcases hold with rfl | ⟨slot, rfl⟩
      · simp only [List.nil_append, List.cons.injEq] at hq
        obtain ⟨rfl, rfl⟩ := hq
        exact ⟨rfl, rfl, b, rfl, rfl, hstate, hnext⟩
      · simp only [List.cons_append, List.nil_append, List.cons.injEq] at hq
        obtain ⟨rfl, -⟩ := hq
        simp at hkind
  | cancelSent =>
      simp only [List.cons.injEq] at hq
      obtain ⟨rfl, -⟩ := hq
      simp at hkind
  | cancelLate _ _ _ hrs =>
      subst hq
      simp [hrs.tail.2] at hkind
  | undecided | executing | cancelPending | canceling | quarantined =>
      simp at hq

/-- A Cancel that is not dispatched leaves everything else as it is. -/
theorem ignore {r : Request} (h : Expects fut server (r :: rs))
    (hkind : r.kind = .cancel) (hignored : ¬Dispatches server r.slot) :
    Expects fut server rs := by
  generalize hq : r :: rs = q at h
  cases h with
  | closed hrs =>
      subst hq
      exact .closed (Or.inl hrs.tail.1)
  | requested hstate hnext hold =>
      rcases hold with rfl | ⟨slot, rfl⟩
      · simp only [List.nil_append, List.cons.injEq] at hq
        obtain ⟨rfl, -⟩ := hq
        simp at hkind
      · simp only [List.cons_append, List.nil_append, List.cons.injEq] at hq
        obtain ⟨-, rfl⟩ := hq
        exact .requested hstate hnext (Or.inl rfl)
  | cancelSent hstate hserver hpending hslot hnext =>
      simp only [List.cons.injEq] at hq
      obtain ⟨rfl, -⟩ := hq
      exact absurd ⟨_, rfl, hslot, hserver, hpending⟩ hignored
  | cancelLate hstate hserver hslot hrs =>
      subst hq
      exact .cancelLate hstate hserver hslot (Or.inl hrs.tail.1)
  | undecided | executing | cancelPending | canceling | quarantined =>
      simp at hq

theorem dispatch {x : ActionPacketBinding} {r : Request}
    (h : Expects fut (some x) (r :: rs)) (hserver : x.state = .goalAccepted) :
    rs = [] ∧ Expects fut (some { x with cancelDecisionPending := true }) [] := by
  generalize hq : r :: rs = q at h
  cases h with
  | cancelSent hstate _ _ hslot hnext =>
      simp only [List.cons.injEq] at hq
      exact ⟨hq.2, .cancelPending hstate hserver rfl hslot hnext⟩
  | cancelLate _ hcommitted => simp [hserver] at hcommitted
  | undecided | executing | cancelPending | canceling | quarantined =>
      simp at hq

/-- The client sends a Cancel for an accepted Goal. -/
theorem cancel {b : ClientPacketBinding} (h : Expects (some b) server rs)
    (hstate : b.state = .accepted) :
    Expects (some { b with state := .awaitingCancelResponse }) server
      [⟨b.slotIndex, .cancel⟩] := by
  cases h with
  | requested hnot => simp [hstate] at hnot
  | undecided hnot => simp [hstate] at hnot
  | executing _ hserver hpending hslot hnext =>
      rcases hserver with hserver | hserver
      · exact .cancelSent rfl hserver hpending hslot hnext
      · exact .cancelLate rfl hserver hslot (Or.inr ⟨_, rfl⟩)
  | cancelSent hnot => simp [hstate] at hnot
  | cancelPending hnot => simp [hstate] at hnot
  | cancelLate hnot => simp [hstate] at hnot
  | canceling hnot => simp [hstate] at hnot
  | quarantined hnot => simp [hstate] at hnot

/-- While the client waits for the Goal Response of a bound Goal, no request is
under way. -/
theorem requests_of_waiting {b : ClientPacketBinding} {x : ActionPacketBinding}
    (h : Expects (some b) (some x) rs)
    (hstate : b.state = .awaitingGoalResponse ∨
      b.state = .goalResponseTimedOut) : rs = [] := by
  cases h with
  | cancelSent hcancel => simp [hcancel] at hstate
  | cancelLate hcancel => simp [hcancel] at hstate
  | undecided | executing | cancelPending | canceling | quarantined => rfl

/-- A pending Cancel was the last request of the client. -/
theorem requests_of_pending {x : ActionPacketBinding}
    (h : Expects fut (some x) rs) (hserver : x.state = .goalAccepted)
    (hpending : x.cancelDecisionPending = true) : rs = [] := by
  cases h with
  | cancelSent _ _ hnot => simp [hpending] at hnot
  | cancelLate _ hcommitted => simp [hserver] at hcommitted
  | undecided | executing | cancelPending | canceling | quarantined => rfl

section Sends

variable {b : ClientPacketBinding} {x : ActionPacketBinding}
  (h : Expects (some b) (some x) rs)
  (htimeout : b.state ≠ .goalResponseTimedOut)

include h htimeout

theorem undecided_inv (hserver : x.state = .awaitingGoalDecision) :
    b.state = .awaitingGoalResponse ∧ x.slotIndex = b.slotIndex ∧
      x.nextFeedbackSequence = b.nextFeedbackSequence := by
  cases h with
  | undecided hstate _ hslot hnext => exact ⟨hstate, hslot, hnext⟩
  | executing _ hnot => simp [hserver] at hnot
  | cancelSent _ hnot => simp [hserver] at hnot
  | cancelPending _ hnot => simp [hserver] at hnot
  | cancelLate _ hnot => simp [hserver] at hnot
  | canceling _ hnot => simp [hserver] at hnot
  | quarantined hnot => exact absurd hnot htimeout

theorem pending_inv (hserver : x.state = .goalAccepted)
    (hpending : x.cancelDecisionPending = true) :
    b.state = .awaitingCancelResponse ∧ x.slotIndex = b.slotIndex ∧
      x.nextFeedbackSequence = b.nextFeedbackSequence := by
  cases h with
  | undecided _ hnot => simp [hserver] at hnot
  | executing _ _ hnot => simp [hpending] at hnot
  | cancelSent _ _ hnot => simp [hpending] at hnot
  | cancelPending hstate _ _ hslot hnext => exact ⟨hstate, hslot, hnext⟩
  | cancelLate _ hnot => simp [hserver] at hnot
  | canceling _ hnot => simp [hserver] at hnot
  | quarantined hnot => exact absurd hnot htimeout

/-- A Feedback carries the number that the client waits for. -/
theorem send_feedback
    (hserver : x.state = .goalAccepted ∨ x.state = .cancelAccepted) :
    ∃ fut', b.advance (.feedback x.nextFeedbackSequence) = some fut' ∧
      Expects fut'
        (some { x with nextFeedbackSequence := x.nextFeedbackSequence + 1 })
        rs := by
  have counted (hnext : x.nextFeedbackSequence = b.nextFeedbackSequence)
      (hstate : b.state = .accepted ∨ b.state = .awaitingCancelResponse ∨
        b.state = .canceling) :
      b.advance (.feedback x.nextFeedbackSequence) =
        some (some { b with
          nextFeedbackSequence := b.nextFeedbackSequence + 1 }) := by
    simp [ClientPacketBinding.advance, hstate, hnext]
  cases h with
  | undecided _ hnot => simp [hnot] at hserver
  | executing hstate hexec hpending hslot hnext =>
      exact ⟨_, counted hnext (Or.inl hstate),
        .executing hstate hexec hpending hslot (by simp [hnext])⟩
  | cancelSent hstate hexec hpending hslot hnext =>
      exact ⟨_, counted hnext (Or.inr (Or.inl hstate)),
        .cancelSent hstate hexec hpending hslot (by simp [hnext])⟩
  | cancelPending hstate hexec hpending hslot hnext =>
      exact ⟨_, counted hnext (Or.inr (Or.inl hstate)),
        .cancelPending hstate hexec hpending hslot (by simp [hnext])⟩
  | cancelLate _ hnot => simp [hnot] at hserver
  | canceling hstate hexec hslot hnext =>
      exact ⟨_, counted hnext (Or.inr (Or.inr hstate)),
        .canceling hstate hexec hslot (by simp [hnext])⟩
  | quarantined hnot => exact absurd hnot htimeout

/-- A Result has a status that the client accepts. -/
theorem send_result {status : TerminalStatus}
    (hmay : ActionServerEndpointImpl.mayComplete x status = true) :
    b.advance (.result status) = some none ∧ Expects none none rs := by
  simp only [ActionServerEndpointImpl.mayComplete, terminalAllowed,
    decide_eq_true_eq] at hmay
  cases h with
  | undecided _ hnot => simp [hnot] at hmay
  | executing hstate hexec =>
      refine ⟨?_, .closed (Or.inl rfl)⟩
      rcases hexec with hexec | hexec <;>
        simp_all [ClientPacketBinding.advance]
  | cancelSent hstate hexec =>
      refine ⟨?_, .closed (Or.inr ⟨_, rfl⟩)⟩
      simp_all [ClientPacketBinding.advance]
  | cancelPending hstate hexec =>
      refine ⟨?_, .closed (Or.inl rfl)⟩
      simp_all [ClientPacketBinding.advance]
  | cancelLate _ hnot => simp [hnot] at hmay
  | canceling hstate hexec =>
      refine ⟨?_, .closed (Or.inl rfl)⟩
      rcases hexec with hexec | hexec <;>
        simp_all [ClientPacketBinding.advance]
  | quarantined hnot => exact absurd hnot htimeout

/-- A packet of the server means something to the client. -/
theorem send_advance {x' : Option ActionPacketBinding} {n : Notice}
    (hsends : ServerSends x n x') :
    ∃ fut', b.advance n = some fut' ∧ Expects fut' x' rs := by
  cases hsends with
  | accept hserver hpending =>
      obtain ⟨hstate, hslot, hnext⟩ := h.undecided_inv htimeout hserver
      obtain rfl := h.requests_of_waiting (Or.inl hstate)
      refine ⟨some { b with state := .accepted }, ?_,
        .executing rfl (Or.inl rfl) hpending hslot hnext⟩
      simp [ClientPacketBinding.advance, hstate]
  | reject hserver =>
      obtain ⟨hstate, -⟩ := h.undecided_inv htimeout hserver
      obtain rfl := h.requests_of_waiting (Or.inl hstate)
      refine ⟨none, ?_, .closed (Or.inl rfl)⟩
      simp [ClientPacketBinding.advance, hstate]
  | acceptCancel hserver hpending =>
      obtain ⟨hstate, hslot, hnext⟩ := h.pending_inv htimeout hserver hpending
      obtain rfl := h.requests_of_pending hserver hpending
      refine ⟨some { b with state := .canceling }, ?_,
        .canceling rfl (Or.inl rfl) hslot hnext⟩
      simp [ClientPacketBinding.advance, hstate]
  | rejectCancel hserver hpending =>
      obtain ⟨hstate, hslot, hnext⟩ := h.pending_inv htimeout hserver hpending
      obtain rfl := h.requests_of_pending hserver hpending
      refine ⟨some { b with state := .accepted }, ?_,
        .executing rfl (Or.inl hserver) rfl hslot hnext⟩
      simp [ClientPacketBinding.advance, hstate]
  | feedback hserver => exact h.send_feedback htimeout hserver
  | result hmay => exact ⟨none, h.send_result htimeout hmay⟩

end Sends

/-- A packet of the server is one that the client will take. -/
theorem send {x : ActionPacketBinding} {x' : Option ActionPacketBinding}
    {n : Notice} (h : Expects fut (some x) rs) (hsends : ServerSends x n x')
    (data : PduData) :
    ∃ fut', drain fut [⟨x.slotIndex, n, data⟩] = some fut' ∧
      Expects fut' x' rs := by
  obtain ⟨b, rfl, hbslot⟩ := h.client_of_server
  by_cases htimeout : b.state = .goalResponseTimedOut
  · -- a quarantined Goal absorbs the packet
    refine ⟨some b, drain_quarantined htimeout (by simp [hbslot]), ?_⟩
    obtain rfl := h.requests_of_waiting (Or.inr htimeout)
    refine .quarantined htimeout ?_
    cases hsends <;> simp [hbslot]
  · obtain ⟨fut', hadvance, hexpects⟩ := h.send_advance htimeout hsends
    refine ⟨fut', ?_, hexpects⟩
    rw [drain_advance hbslot htimeout hadvance, drain_nil]

/-- A Result that is committed and not sent. -/
theorem commit {x : ActionPacketBinding} {status : TerminalStatus}
    (h : Expects fut (some x) rs)
    (hmay : ActionServerEndpointImpl.mayComplete x status = true) :
    Expects fut (some (ActionServerEndpointImpl.committed x)) rs := by
  cases h with
  | undecided _ hnot =>
      simp [ActionServerEndpointImpl.mayComplete, terminalAllowed, hnot] at hmay
  | executing hstate hexec hpending hslot hnext =>
      exact .executing hstate (Or.inr rfl) rfl hslot hnext
  | cancelSent hstate hexec hpending hslot hnext =>
      exact .cancelLate hstate rfl hslot (Or.inr ⟨_, rfl⟩)
  | cancelPending hstate hexec hpending hslot hnext =>
      exact .cancelLate hstate rfl hslot (Or.inl rfl)
  | cancelLate hstate hserver hslot hrs =>
      exact .cancelLate hstate rfl hslot hrs
  | canceling hstate hexec hslot hnext =>
      exact .canceling hstate (Or.inr rfl) hslot hnext
  | quarantined hstate hslot =>
      refine .quarantined hstate ?_
      simp [ActionServerEndpointImpl.committed, hslot x rfl]

end Expects

/-! ## The invariant is kept -/

namespace GoalLink

variable {v : GoalView}

/-- A Goal that nobody has heard of. -/
theorem initial : GoalLink ⟨none, none, [], [], [], [], []⟩ where
  expects := ⟨none, rfl, .closed (Or.inl rfl)⟩
  quiet := trivial
  matched := .never rfl rfl rfl
  suffix := List.suffix_rfl
  count := rfl

/-- Whatever the server knows of a Goal is on the slot of the client. -/
theorem client_of_server (h : GoalLink v) {x : ActionPacketBinding}
    (hserver : v.server = some x) :
    ∃ b, v.client = some b ∧ b.slotIndex = x.slotIndex := by
  obtain ⟨fut, hdrain, hexpects⟩ := h.expects
  rw [hserver] at hexpects
  obtain ⟨b, rfl, hslot⟩ := hexpects.client_of_server
  cases hclient : v.client with
  | none =>
      rw [hclient] at hdrain
      exact absurd (drain_none hdrain).2 (by simp)
  | some b₀ =>
      rw [hclient] at hdrain
      exact ⟨b₀, rfl, ((drain_slot hdrain).2 b rfl).symm.trans hslot⟩

/-- A Goal Request that arrives finds its Goal unbound, on the slot of the
client. -/
theorem goal_head (h : GoalLink v) {r : Request} {rs : List Request}
    (hqueue : v.requests = r :: rs) (hkind : r.kind = .goal) :
    v.server = none ∧ ∃ b, v.client = some b ∧ b.slotIndex = r.slot := by
  obtain ⟨fut, hdrain, hexpects⟩ := h.expects
  rw [hqueue] at hexpects
  obtain ⟨hserver, -, b, rfl, hslot, -⟩ := hexpects.goal_head hkind
  refine ⟨hserver, ?_⟩
  cases hclient : v.client with
  | none =>
      rw [hclient] at hdrain
      exact absurd (drain_none hdrain).2 (by simp)
  | some b₀ =>
      rw [hclient] at hdrain
      exact ⟨b₀, rfl, ((drain_slot hdrain).2 b rfl).symm.trans hslot⟩

/-- A Goal without a binding on the client: nothing is under way but a late
Cancel, and the incarnations of both sides are the same. -/
theorem of_unbound (h : GoalLink v) (hclient : v.client = none) :
    v.deliveries = [] ∧ v.server = none ∧ AtMostCancel v.requests ∧
      v.reported = v.sent := by
  obtain ⟨fut, hdrain, hexpects⟩ := h.expects
  rw [hclient] at hdrain
  obtain ⟨hempty, rfl⟩ := drain_none hdrain
  generalize v.server = server at hexpects
  cases hrs : hexpects with
  | closed hlate =>
      refine ⟨hempty, rfl, hlate, ?_⟩
      cases h.matched with
      | never _ hreported hsent => rw [hreported, hsent]
      | requested hgoal =>
          obtain ⟨r, hr, hkind⟩ := hgoal
          exact absurd hkind (hlate.kind r hr)
      | opened _ hreported hsent _ hall =>
          have hsame := hall (by simp [hclient])
          rw [hreported, hsent, hsame, hempty]
          simp

theorem sendGoal (h : GoalLink v) {b : ClientPacketBinding}
    (hclient : v.client = none) (hstate : b.state = .awaitingGoalResponse)
    (hnext : b.nextFeedbackSequence = 0) :
    GoalLink
      { v with
        client := some b
        requests := v.requests ++ [⟨b.slotIndex, .goal⟩]
        reported := [] :: v.reported
        asked := v.asked ++ [.goal] } := by
  obtain ⟨hempty, hserver, hlate, hsame⟩ := h.of_unbound hclient
  refine ⟨⟨some b, ?_, ?_⟩, ?_, ?_, ?_, ?_⟩
  · simp [hempty]
  · simp only [hserver]
    exact .requested (Or.inl hstate) hnext hlate
  · simp [Quiet, hstate, hempty]
  · exact .requested ⟨⟨b.slotIndex, .goal⟩, by simp, rfl⟩ hempty
      (by simp [hsame])
  · obtain ⟨t, ht⟩ := h.suffix
    exact ⟨t, by simp [← ht]⟩
  · simp [h.count]

theorem sendCancel (h : GoalLink v) {b : ClientPacketBinding}
    (hclient : v.client = some b) (hstate : b.state = .accepted) :
    GoalLink
      { v with
        client := some { b with state := .awaitingCancelResponse }
        requests := v.requests ++ [⟨b.slotIndex, .cancel⟩]
        asked := v.asked ++ [.cancel] } := by
  obtain ⟨fut, hdrain, hexpects⟩ := h.expects
  have hquiet := h.quiet
  simp only [hclient, Quiet, hstate] at hquiet
  rw [hclient] at hdrain
  obtain ⟨hnone, hdrain', hfut⟩ := drain_cancelSent hstate hdrain
  have hslot := (drain_slot hdrain).2
  refine ⟨⟨_, hdrain', ?_⟩, ?_, ?_, ?_, ?_⟩
  · rw [hquiet] at hexpects ⊢
    cases fut with
    | none =>
        generalize v.server = server at hexpects ⊢
        cases hexpects with
        | closed => exact .closed (Or.inr ⟨_, rfl⟩)
    | some x =>
        rw [← hslot x rfl]
        exact hexpects.cancel (hfut x rfl)
  · simp only [Quiet]
    rintro ⟨d, hd, decision, hnotice⟩
    exact absurd hnotice (hnone d hd decision)
  · cases h.matched with
    | never hnot => simp [hclient] at hnot
    | requested hgoal => simp [hquiet] at hgoal
    | opened _ hreported hsent _ hall =>
        refine .opened (by simp [hquiet]) hreported hsent (by simp) ?_
        intro _
        exact hall (by simp [hclient, hstate])
  · obtain ⟨t, ht⟩ := h.suffix
    exact ⟨t, by simp [← ht]⟩
  · simp [h.count]

/-- Requests taken from the front leave a suffix. -/
theorem suffix_tail (h : GoalLink v) {r : Request} {rs : List Request}
    (hqueue : v.requests = r :: rs) : rs.map Request.kind <:+ v.asked := by
  have hsuffix := h.suffix
  rw [hqueue] at hsuffix
  exact (List.suffix_cons _ _).trans hsuffix

theorem quiet_tail {client : Option ClientPacketBinding} {ds : List Delivery}
    {r : Request} {rs : List Request} (h : Quiet client ds (r :: rs))
    : Quiet client ds rs := by
  cases client with
  | none => trivial
  | some b =>
      unfold Quiet at h ⊢
      cases hstate : b.state <;> simp_all

theorem takeGoal (h : GoalLink v) {x : ActionPacketBinding} {r : Request}
    {rs : List Request} (hqueue : v.requests = r :: rs)
    (hkind : r.kind = .goal) (hslot : x.slotIndex = r.slot)
    (hstate : x.state = .awaitingGoalDecision)
    (hnext : x.nextFeedbackSequence = 0) :
    GoalLink
      { v with
        server := some x
        requests := rs
        sent := [] :: v.sent } := by
  obtain ⟨fut, hdrain, hexpects⟩ := h.expects
  have hquiet := h.quiet
  rw [hqueue] at hexpects hquiet
  obtain ⟨-, rfl, b, rfl, hb, hwait, hzero⟩ := hexpects.goal_head hkind
  refine ⟨⟨some b, hdrain, ?_⟩, quiet_tail hquiet, ?_, h.suffix_tail hqueue,
    h.count⟩
  · rcases hwait with hwait | hwait
    · exact .undecided hwait hstate (hslot.trans hb.symm)
        (hnext.trans hzero.symm)
    · exact .quarantined hwait (by simp [hslot, hb])
  · cases h.matched with
    | never hnone =>
        rw [hnone] at hdrain
        exact absurd (drain_none hdrain).2 (by simp)
    | requested _ hempty hreported =>
        exact .opened (by simp) hreported rfl (by simp) (by simp [hempty])
    | opened hgoal => exact absurd hkind (hgoal r (by simp [hqueue]))

theorem ignoreCancel (h : GoalLink v) {r : Request} {rs : List Request}
    (hqueue : v.requests = r :: rs) (hkind : r.kind = .cancel)
    (hignored : ¬Dispatches v.server r.slot) :
    GoalLink { v with requests := rs } := by
  obtain ⟨fut, hdrain, hexpects⟩ := h.expects
  have hquiet := h.quiet
  rw [hqueue] at hexpects hquiet
  refine ⟨⟨fut, hdrain, hexpects.ignore hkind hignored⟩, quiet_tail hquiet, ?_,
    h.suffix_tail hqueue, h.count⟩
  cases h.matched with
  | never hclient hreported hsent => exact .never hclient hreported hsent
  | requested hgoal hempty hreported =>
      refine .requested ?_ hempty hreported
      obtain ⟨r', hr', hgoal⟩ := hgoal
      rw [hqueue] at hr'
      rcases List.mem_cons.mp hr' with rfl | hr'
      · simp [hkind] at hgoal
      · exact ⟨r', hr', hgoal⟩
  | opened hgoal hreported hsent hfresh hall =>
      refine .opened ?_ hreported hsent hfresh hall
      intro r' hr'
      exact hgoal r' (by simp [hqueue, hr'])

theorem dispatchCancel (h : GoalLink v) {x : ActionPacketBinding}
    {r : Request} {rs : List Request} (hqueue : v.requests = r :: rs)
    (hserver : v.server = some x) (hstate : x.state = .goalAccepted) :
    GoalLink
      { v with
        server := some { x with cancelDecisionPending := true }
        requests := rs } := by
  obtain ⟨fut, hdrain, hexpects⟩ := h.expects
  have hquiet := h.quiet
  rw [hqueue] at hquiet
  rw [hqueue, hserver] at hexpects
  obtain ⟨rfl, hexpects'⟩ := hexpects.dispatch hstate
  have hnogoal := hexpects.no_goal_of_server
  refine ⟨⟨fut, hdrain, hexpects'⟩, quiet_tail hquiet, ?_,
    h.suffix_tail hqueue, h.count⟩
  cases h.matched with
  | never hclient hreported hsent => exact .never hclient hreported hsent
  | requested hgoal =>
      obtain ⟨r', hr', hgoal⟩ := hgoal
      rw [hqueue] at hr'
      exact absurd hgoal (hnogoal r' hr')
  | opened _ hreported hsent hfresh hall =>
      exact .opened (by simp) hreported hsent hfresh hall

theorem commit (h : GoalLink v) {x : ActionPacketBinding}
    {status : TerminalStatus} (hserver : v.server = some x)
    (hmay : ActionServerEndpointImpl.mayComplete x status = true) :
    GoalLink { v with server := some (ActionServerEndpointImpl.committed x) } := by
  obtain ⟨fut, hdrain, hexpects⟩ := h.expects
  rw [hserver] at hexpects
  refine ⟨⟨fut, hdrain, hexpects.commit hmay⟩, h.quiet, ?_, h.suffix, h.count⟩
  cases h.matched with
  | never hclient hreported hsent => exact .never hclient hreported hsent
  | requested hgoal hempty hreported =>
      exact .requested hgoal hempty hreported
  | opened hgoal hreported hsent hfresh hall =>
      exact .opened hgoal hreported hsent hfresh hall

theorem timeout (h : GoalLink v) {b : ClientPacketBinding}
    (hclient : v.client = some b) (hstate : b.state = .awaitingGoalResponse) :
    GoalLink
      { v with client := some { b with state := .goalResponseTimedOut } } := by
  obtain ⟨fut, hdrain, hexpects⟩ := h.expects
  have hquiet := h.quiet
  simp only [hclient, Quiet, hstate] at hquiet
  rw [hclient] at hdrain
  obtain ⟨hds, hfut⟩ := drain_slot hdrain
  have hserver : ∀ y ∈ v.server, y.slotIndex = b.slotIndex := by
    intro y hy
    obtain ⟨b', hb', hslot⟩ := h.client_of_server hy
    rw [hclient, Option.some.injEq] at hb'
    rw [← hslot, hb']
  refine ⟨⟨_, drain_quarantined rfl hds, ?_⟩, ?_, ?_, h.suffix, h.count⟩
  · by_cases hempty : v.deliveries = []
    · -- nothing was under way: the client still waits
      rw [hempty, drain_nil, Option.some.injEq] at hdrain
      subst hdrain
      generalize v.requests = rs at hexpects ⊢
      generalize v.server = server at hexpects hserver ⊢
      cases hexpects with
      | requested _ hnext hold =>
          exact .requested (b := { b with state := .goalResponseTimedOut })
            (Or.inr rfl) hnext hold
      | cancelSent hnot => simp [hstate] at hnot
      | cancelLate hnot => simp [hstate] at hnot
      | undecided | executing | cancelPending | canceling | quarantined =>
          exact .quarantined rfl hserver
    · rw [hquiet hempty]
      exact .quarantined rfl hserver
  · exact hquiet
  · cases h.matched with
    | never hnot => simp [hclient] at hnot
    | requested hgoal hempty hreported =>
        exact .requested hgoal hempty hreported
    | opened hgoal hreported hsent hfresh hall =>
        refine .opened hgoal hreported hsent ?_ (by simp)
        intro _ _ _
        exact hfresh b hclient (Or.inl hstate)

theorem drop (h : GoalLink v) {d : Delivery} {ds : List Delivery}
    (hqueue : v.deliveries = d :: ds)
    (hdrop : ∀ b, v.client = some b → b.slotIndex = d.slot →
      b.advance d.notice = none) :
    GoalLink { v with deliveries := ds } := by
  obtain ⟨fut, hdrain, hexpects⟩ := h.expects
  have hquiet := h.quiet
  rw [hqueue] at hdrain hquiet
  obtain ⟨b, hclient, hslot, ⟨hstate, hrest⟩ | ⟨b', hadvance, -⟩⟩ :=
    drain_cons hdrain
  · rw [hclient] at hquiet
    simp only [Quiet, hstate] at hquiet
    have hrequests := hquiet (by simp)
    refine ⟨⟨fut, by rw [hclient]; exact hrest, hexpects⟩, ?_, ?_, h.suffix,
      h.count⟩
    · simp [Quiet, hclient, hstate, hrequests]
    · cases h.matched with
      | never hnot => simp [hclient] at hnot
      | requested _ hempty => simp [hqueue] at hempty
      | opened hgoal hreported hsent hfresh hall =>
          refine .opened hgoal hreported hsent hfresh ?_
          intro hnot
          exact absurd hstate (hnot b hclient)
  · simp [hdrop b hclient hslot] at hadvance

/-- What a reported packet leaves of the silence of the client. -/
theorem quiet_report {b : ClientPacketBinding}
    {b' : Option ClientPacketBinding} {d : Delivery} {ds : List Delivery}
    {rs : List Request} (h : Quiet (some b) (d :: ds) rs)
    (hadvance : b.advance d.notice = some b') : Quiet b' ds rs := by
  cases hn : d.notice with
  | goalResponse decision =>
      simp only [hn, ClientPacketBinding.advance] at hadvance
      split_ifs at hadvance with hstate <;> cases hadvance
      · simpa [Quiet, hstate] using h
      · trivial
  | feedback sequence =>
      simp only [hn, ClientPacketBinding.advance] at hadvance
      split_ifs at hadvance with hstate
      cases hadvance
      obtain ⟨hstate | hstate | hstate, -⟩ := hstate
      · simpa [Quiet, hstate] using h
      · simp only [Quiet, hstate] at h ⊢
        rintro ⟨d', hd', hresponse⟩
        exact h ⟨d', by simp [hd'], hresponse⟩
      · simpa [Quiet, hstate] using h
  | cancelResponse decision =>
      simp only [hn, ClientPacketBinding.advance] at hadvance
      split_ifs at hadvance with hstate <;> cases hadvance <;>
        simp only [Quiet, hstate] at h ⊢ <;>
        exact h ⟨d, by simp, decision, hn⟩
  | result status =>
      simp only [hn, ClientPacketBinding.advance] at hadvance
      split_ifs at hadvance
      cases hadvance
      trivial

theorem report (h : GoalLink v) {b : ClientPacketBinding}
    {b' : Option ClientPacketBinding} {d : Delivery} {ds : List Delivery}
    (hclient : v.client = some b) (hqueue : v.deliveries = d :: ds)
    (hadvance : b.advance d.notice = some b') :
    GoalLink
      { v with
        client := b'
        deliveries := ds
        reported := pushNewest d.content v.reported } := by
  obtain ⟨fut, hdrain, hexpects⟩ := h.expects
  have hquiet := h.quiet
  rw [hqueue, hclient] at hdrain hquiet
  have hnotTimedOut : b.state ≠ .goalResponseTimedOut := by
    intro hstate
    cases hn : d.notice <;>
      simp [hn, ClientPacketBinding.advance, hstate] at hadvance
  obtain ⟨_, hb, hslot, ⟨hstate, -⟩ | ⟨b'', hadvance', hrest⟩⟩ :=
    drain_cons hdrain
  · cases hb
    exact absurd hstate hnotTimedOut
  · cases hb
    rw [hadvance, Option.some.injEq] at hadvance'
    subst hadvance'
    refine ⟨⟨fut, hrest, hexpects⟩, quiet_report hquiet hadvance, ?_, h.suffix,
      ?_⟩
    · cases h.matched with
      | never hnot => simp [hclient] at hnot
      | requested _ hempty => simp [hqueue] at hempty
      | @opened c s rest hgoal hreported hsent hfresh hall =>
          have hall := hall (by simpa [hclient] using hnotTimedOut)
          have hreported' : pushNewest d.content v.reported =
              (c ++ [d.content]) :: rest := by
            simp [hreported, pushNewest]
          refine .opened hgoal hreported' hsent ?_ ?_
          · rintro x rfl hwait
            obtain ⟨hne, hne'⟩ :=
              ClientPacketBinding.state_of_advance hadvance
            rcases hwait with hwait | hwait
            · exact absurd hwait hne
            · exact absurd hwait hne'
          · intro _
            simp [hall, hqueue]
    · cases h.matched with
      | never hnot => simp [hclient] at hnot
      | requested _ hempty => simp [hqueue] at hempty
      | opened hgoal hreported =>
          simp [h.count, hreported, pushNewest]

theorem send (h : GoalLink v) {x : ActionPacketBinding}
    {x' : Option ActionPacketBinding} {n : Notice} {data : PduData}
    (hserver : v.server = some x) (hsends : ServerSends x n x') :
    GoalLink
      { v with
        server := x'
        deliveries := v.deliveries ++ [⟨x.slotIndex, n, data⟩]
        sent := pushNewest (n, data) v.sent } := by
  obtain ⟨fut, hdrain, hexpects⟩ := h.expects
  rw [hserver] at hexpects
  have hnogoal := hexpects.no_goal_of_server
  obtain ⟨b, hclient, -⟩ := h.client_of_server hserver
  obtain ⟨fut', hlast, hexpects'⟩ := hexpects.send hsends data
  refine ⟨⟨fut', ?_, hexpects'⟩, ?_, ?_, h.suffix, h.count⟩
  · rw [drain_append, hdrain, Option.bind_some, hlast]
  · -- while the client waits, the server has answered its last request
    have hquiet := h.quiet
    have hwaiting (hstate : b.state = .awaitingGoalResponse ∨
        b.state = .goalResponseTimedOut)
        (hq : v.deliveries ≠ [] → v.requests = []) : v.requests = [] := by
      by_cases hempty : v.deliveries = []
      · rw [hempty, hclient, drain_nil, Option.some.injEq] at hdrain
        rw [← hdrain] at hexpects
        exact hexpects.requests_of_waiting hstate
      · exact hq hempty
    simp only [hclient, Quiet] at hquiet ⊢
    cases hstate : b.state <;> simp only [hstate] at hquiet ⊢
    · exact fun _ => hwaiting (Or.inl hstate) hquiet
    · exact fun _ => hwaiting (Or.inr hstate) hquiet
    · exact hquiet
    · rintro ⟨d, hd, decision, hdecision⟩
      rcases List.mem_append.mp hd with hd | hd
      · exact hquiet ⟨d, hd, decision, hdecision⟩
      · rw [List.mem_singleton.mp hd] at hdecision
        cases hsends <;> cases hdecision
        · exact hexpects.requests_of_pending ‹_› ‹_›
        · exact hexpects.requests_of_pending ‹_› ‹_›
    · exact hquiet
  · cases h.matched with
    | never hnot => simp [hclient] at hnot
    | requested hgoal =>
        obtain ⟨r, hr, hkind⟩ := hgoal
        exact absurd hkind (hnogoal r hr)
    | @opened c s rest hgoal hreported hsent hfresh hall =>
        have hsent' : pushNewest (n, data) v.sent =
            (s ++ [(n, data)]) :: rest := by
          simp [hsent, pushNewest]
        refine .opened hgoal hreported hsent' hfresh ?_
        intro hnot
        simp [hall hnot, Delivery.content]

/-- Every step of a Goal keeps the invariant. -/
theorem step {v' : GoalView} (h : GoalLink v) (hstep : LinkStep v v') :
    GoalLink v' := by
  cases hstep with
  | sendGoal hclient hstate hnext => exact h.sendGoal hclient hstate hnext
  | sendCancel hclient hstate => exact h.sendCancel hclient hstate
  | report hclient hqueue _ hadvance => exact h.report hclient hqueue hadvance
  | drop hqueue hdrop => exact h.drop hqueue hdrop
  | timeout hclient hstate => exact h.timeout hclient hstate
  | takeGoal hqueue hkind _ hslot hstate _ hnext =>
      exact h.takeGoal hqueue hkind hslot hstate hnext
  | ignoreCancel hqueue hkind hignored =>
      exact h.ignoreCancel hqueue hkind hignored
  | dispatchCancel hqueue _ hserver _ hstate _ =>
      exact h.dispatchCancel hqueue hserver hstate
  | send hserver hsends => exact h.send hserver hsends
  | commit hserver hmay => exact h.commit hserver hmay

/-! ## What the invariant says about the incarnations -/

/-- At every moment the client reported an initial part of what the server
sent; the incarnations are counted from the oldest. -/
theorem reported_prefix (h : GoalLink v) {k : ℕ} {c : List (Notice × PduData)}
    (hc : v.reported.reverse[k]? = some c) :
    (v.sent.reverse[k]? = none ∧ c = []) ∨
      ∃ s, v.sent.reverse[k]? = some s ∧ c <+: s := by
  cases h.matched with
  | never _ hreported => simp [hreported] at hc
  | requested _ _ hreported =>
      rw [hreported, List.reverse_cons, List.getElem?_append] at hc
      split_ifs at hc with hlt
      · exact Or.inr ⟨c, hc, List.prefix_rfl⟩
      · refine Or.inl ⟨List.getElem?_eq_none (by omega), ?_⟩
        have hmem := List.mem_of_getElem? hc
        exact List.mem_singleton.mp hmem
  | @opened c₀ s₀ rest _ hreported hsent hfresh hall =>
      rw [hreported, List.reverse_cons, List.getElem?_append] at hc
      rw [hsent, List.reverse_cons, List.getElem?_append]
      split_ifs at hc ⊢ with hlt
      · exact Or.inr ⟨c, hc, List.prefix_rfl⟩
      · have hk : k - rest.reverse.length = 0 := by
          have hk' := (List.getElem?_eq_some_iff.mp hc).1
          simpa using hk'
        rw [hk] at hc ⊢
        obtain rfl : c₀ = c := by simpa using hc
        refine Or.inr ⟨s₀, rfl, ?_⟩
        by_cases hstate : ∀ b, v.client = some b →
            b.state ≠ .goalResponseTimedOut
        · rw [hall hstate]
          exact List.prefix_append _ _
        · push Not at hstate
          obtain ⟨b, hb, htimeout⟩ := hstate
          rw [hfresh b hb (Or.inr htimeout)]
          exact List.nil_prefix

/-- With nothing under way the client reported everything, unless the Goal is
quarantined. -/
theorem reported_all (h : GoalLink v) (hempty : v.deliveries = [])
    (hstate : ∀ b, v.client = some b → b.state ≠ .goalResponseTimedOut)
    (k : ℕ) : v.reported.reverse[k]?.getD [] = v.sent.reverse[k]?.getD [] := by
  cases h.matched with
  | never _ hreported hsent => rw [hreported, hsent]
  | requested _ _ hreported =>
      rw [hreported, List.reverse_cons, List.getElem?_append]
      split_ifs with hlt
      · rfl
      · rw [List.getElem?_eq_none (l := v.sent.reverse) (by omega)]
        cases k - v.sent.reverse.length <;> rfl
  | opened _ hreported hsent _ hall =>
      rw [hreported, hsent, hall hstate, hempty, List.map_nil, List.append_nil]

theorem length_sent_le (h : GoalLink v) : v.sent.length ≤ v.reported.length := by
  cases h.matched with
  | never _ hreported hsent => simp [hreported, hsent]
  | requested _ _ hreported => simp [hreported]
  | opened _ hreported hsent => simp [hreported, hsent]

/-- The requests that the server took contain one Goal Request for each of its
incarnations. -/
theorem taken_count (h : GoalLink v) :
    ∃ taken, v.asked = taken ++ v.requests.map Request.kind ∧
      taken.count .goal = v.sent.length := by
  obtain ⟨taken, htaken⟩ := h.suffix
  refine ⟨taken, htaken.symm, ?_⟩
  have hcount := h.count
  rw [← htaken, List.count_append] at hcount
  cases h.matched with
  | never _ hreported hsent =>
      simp only [hreported, hsent, List.length_nil] at hcount ⊢
      omega
  | requested hgoal _ hreported =>
      obtain ⟨fut, -, hexpects⟩ := h.expects
      have hone := hexpects.count_goal hgoal
      rw [hreported, List.length_cons] at hcount
      omega
  | opened hgoal hreported hsent =>
      have hnone : (v.requests.map Request.kind).count .goal = 0 := by
        rw [List.count_eq_zero]
        intro hmem
        obtain ⟨r, hr, hkind⟩ := List.mem_map.mp hmem
        exact hgoal r hr hkind
      rw [hreported, List.length_cons] at hcount
      rw [hsent, List.length_cons]
      omega

end GoalLink

end HakoPduRpc.Action
