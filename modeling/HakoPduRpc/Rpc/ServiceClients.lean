import HakoPduRpc.Lib.Progress
import HakoPduRpc.Lib.Star
import HakoPduRpc.Rpc.Crowd

/-!
# All clients of a service

Any number of RPC client endpoints and the static server endpoint that serves
them, every client with its own transport to the shared queue of the server.

Each client sees of this a client in a crowd.  So what the protocol guarantees
one client it guarantees all of them, and under a fair schedule the calls of
every client end, however busy the others keep the server.
-/

namespace HakoPduRpc
namespace Rpc

namespace RpcDeployment

variable (D : RpcDeployment)

/-! ## A client does not starve in a crowd -/

/-- What the server does before the client's turn, when the client waits for
it. -/
def ahead (p : Pair) : ℕ :=
  match due (D.narrow p) with
  | .serverPoll => p.right.endpoint.pendingRequests.findIdx D.mine
  | .answer => p.right.unanswered.findIdx D.asks
  | .deliverRight | .deliverLeft | .clientPoll => 0

/-- What is left to do for the call, and then what stands in front of it. -/
def crowdRank (p : Pair) : ℕ ×ₗ ℕ :=
  toLex (work (D.narrow p), D.ahead p)

section Descent

variable {D} {p p' : Pair} {past : List (ClientObs ⊕ ServerObs)}
  {requestId : UInt32}

theorem crowdRank_lt_of_work (h : work (D.narrow p') < work (D.narrow p)) :
    D.crowdRank p' < D.crowdRank p :=
  Prod.Lex.toLex_lt_toLex.mpr (Or.inl h)

theorem crowdRank_lt_of_ahead (hwork : work (D.narrow p') = work (D.narrow p))
    (hahead : D.ahead p' < D.ahead p) : D.crowdRank p' < D.crowdRank p :=
  Prod.Lex.toLex_lt_toLex.mpr (Or.inr ⟨hwork, hahead⟩)

theorem due_serverPoll (h : due p = .serverPoll) :
    p.right.endpoint.pendingRequests ≠ [] := by
  unfold due at h
  split_ifs at h with htoRight hqueue
  exact hqueue

theorem due_answer (h : due p = .answer) : p.right.unanswered ≠ [] := by
  unfold due at h
  split_ifs at h with htoRight hqueue hunanswered
  exact hunanswered

theorem Closer.ahead_le (h : D.Closer p p')
    (hdue : due (D.narrow p') = due (D.narrow p)) : D.ahead p' ≤ D.ahead p := by
  unfold ahead
  rw [hdue]
  cases hcase : due (D.narrow p) with
  | serverPoll => exact h.queue (due_serverPoll hcase)
  | answer => exact h.unanswered (due_answer hcase)
  | deliverRight | deliverLeft | clientPoll => exact le_rfl

theorem due_congr (htoRight : p'.toRight = p.toRight)
    (hqueue : p'.right.endpoint.pendingRequests =
      p.right.endpoint.pendingRequests)
    (hunanswered : p'.right.unanswered = p.right.unanswered)
    (htoLeft : p'.toLeft = p.toLeft) : due p' = due p := by
  simp only [due, htoRight, hqueue, hunanswered, htoLeft]

/-- An unnoticed step leaves the client with the same work to wait for. -/
theorem Unnoticed.work_eq {obs : List (ClientObs ⊕ ServerObs)}
    (h : D.Unnoticed p p' obs) :
    work (D.narrow p') = work (D.narrow p) ∧
      due (D.narrow p') = due (D.narrow p) := by
  constructor
  · simp only [work, narrow, RpcServerEndpointImpl.queued, h.left_eq,
      h.toLeft_eq, h.toRight_eq, h.mine_eq, h.asks_eq]
  · exact due_congr h.toRight_eq h.mine_eq h.asks_eq h.toLeft_eq

theorem ahead_congr (hright : p'.right = p.right)
    (hdue : due (D.narrow p') = due (D.narrow p)) : D.ahead p' = D.ahead p := by
  unfold ahead
  rw [hdue, hright]

/-- Until the call ends, a step brings it nearer to its end or leaves it waiting
for the same action. -/
theorem InCrowd.waits (h : D.InCrowd p past) (hbusy : InFlight requestId p)
    {i : D.PairInput} (hi : D.Crowded i) :
    Ends requestId (D.machine.step p i).2 ∨
      InFlight requestId (D.machine.step p i).1 ∧
        (D.crowdRank (D.machine.step p i).1 < D.crowdRank p ∨
          D.crowdRank (D.machine.step p i).1 = D.crowdRank p ∧
            due (D.narrow (D.machine.step p i).1) = due (D.narrow p)) := by
  obtain ⟨i', hi', hstep, hmoved⟩ | ⟨hnotice, hcloser⟩ := h.step_cases hi
  · have hadvances := h.linked.advances hbusy hi'
    rw [hstep] at hadvances
    obtain hends | ⟨hnext, hlower | ⟨hsame, hdue⟩⟩ := hadvances
    · exact Or.inl hends
    · exact Or.inr ⟨hnext, Or.inl (crowdRank_lt_of_work hlower)⟩
    · obtain hright | hlower := hmoved
      · refine Or.inr ⟨hnext, Or.inr ⟨?_, hdue⟩⟩
        rw [crowdRank, crowdRank, hsame, ahead_congr hright hdue]
      · exact Or.inr ⟨hnext, Or.inl (crowdRank_lt_of_work hlower)⟩
  · obtain ⟨hsame, hdue⟩ := hnotice.work_eq
    have hnext : InFlight requestId (D.machine.step p i).1 := by
      rw [InFlight, hnotice.left_eq]
      exact hbusy
    refine Or.inr ⟨hnext, ?_⟩
    obtain hlower | heq := (hcloser.ahead_le hdue).lt_or_eq
    · exact Or.inl (crowdRank_lt_of_ahead hsame hlower)
    · refine Or.inr ⟨?_, hdue⟩
      rw [crowdRank, crowdRank, hsame, heq]

theorem acts_narrow (k : Due) (i : D.PairInput) :
    D.Acts k (D.narrow p) i = D.Acts k p i := by
  rcases i with (i | j | _ | _)
  · cases k <;> cases i <;> rfl
  · cases k <;> cases j <;> rfl
  · cases k <;> rfl
  · cases k <;> rfl

/-- The server takes an action only when it polls or answers the oldest
request. -/
theorem acts_right {k : Due} {j : ServerStep D.C}
    (h : D.Acts k p (.right j)) :
    (k = .serverPoll ∧ ∃ request, j = .poll request) ∨
      (k = .answer ∧ ∃ status resultCode initial body,
        j = .answer .reply 0 status resultCode initial body) := by
  cases j with
  | receive pdu => cases k <;> exact h.elim
  | poll request =>
      cases k with
      | serverPoll => exact Or.inl ⟨rfl, request, rfl⟩
      | deliverRight | answer | deliverLeft | clientPoll => exact h.elim
  | answer kind index status resultCode initial body =>
      cases k with
      | answer =>
          obtain ⟨rfl, rfl⟩ := h
          exact Or.inr ⟨rfl, status, resultCode, initial, body, rfl⟩
      | deliverRight | serverPoll | deliverLeft | clientPoll => exact h.elim

/-- The action that is due brings the call nearer to its end, or the client's
packet or request nearer to its turn. -/
theorem InCrowd.helps (h : D.InCrowd p past) (hbusy : InFlight requestId p)
    {i : D.PairInput} (hi : D.Acts (due (D.narrow p)) p i) :
    Ends requestId (D.machine.step p i).2 ∨
      InFlight requestId (D.machine.step p i).1 ∧
        D.crowdRank (D.machine.step p i).1 < D.crowdRank p := by
  have hnoticed {i' : D.PairInput}
      (hstep : D.machine.step (D.narrow p) i' =
        (D.narrow (D.machine.step p i).1, (D.machine.step p i).2))
      (hi' : D.Acts (due (D.narrow p)) (D.narrow p) i') :
      Ends requestId (D.machine.step p i).2 ∨
        InFlight requestId (D.machine.step p i).1 ∧
          D.crowdRank (D.machine.step p i).1 < D.crowdRank p := by
    have hhelps := h.linked.helps hbusy hi'
    rw [hstep] at hhelps
    exact hhelps.imp_right fun ⟨hnext, hlower⟩ =>
      ⟨hnext, crowdRank_lt_of_work hlower⟩
  have hunnoticed
      (hnotice : D.Unnoticed p (D.machine.step p i).1 (D.machine.step p i).2)
      (hahead : due (D.narrow (D.machine.step p i).1) = due (D.narrow p) →
        D.ahead (D.machine.step p i).1 < D.ahead p) :
      InFlight requestId (D.machine.step p i).1 ∧
        D.crowdRank (D.machine.step p i).1 < D.crowdRank p := by
    obtain ⟨hsame, hdue⟩ := hnotice.work_eq
    refine ⟨?_, crowdRank_lt_of_ahead hsame (hahead hdue)⟩
    rw [InFlight, hnotice.left_eq]
    exact hbusy
  cases i with
  | left i => exact hnoticed (narrow_left i) ((acts_narrow _ _).mpr hi)
  | deliverLeft => exact hnoticed narrow_deliverLeft ((acts_narrow _ _).mpr hi)
  | deliverRight =>
      exact hnoticed h.narrow_deliverRight ((acts_narrow _ _).mpr hi)
  | right j =>
      obtain ⟨hdue, request, rfl⟩ |
        ⟨hdue, status, resultCode, initial, body, rfl⟩ := acts_right hi
      · cases hqueue : p.right.endpoint.pendingRequests with
        | nil =>
            have hne := due_serverPoll hdue
            simp [narrow, RpcServerEndpointImpl.queued, hqueue] at hne
        | cons pdu rest =>
            obtain hmine | hforeign := h.clear pdu (by
              rw [hqueue]
              exact List.mem_cons_self)
            · exact hnoticed (h.narrow_poll request hqueue hmine)
                ((acts_narrow _ _).mpr hi)
            · obtain ⟨hnotice, hrest, -⟩ :=
                h.foreign_poll request hqueue hforeign
              refine Or.inr (hunnoticed hnotice fun hsame => ?_)
              unfold ahead
              rw [hsame, hdue]
              simp only [hrest, hqueue, List.findIdx_cons, hforeign.mine]
              exact Nat.lt_succ_self _
      · cases hunanswered : p.right.unanswered with
        | nil =>
            have hne := due_answer hdue
            simp [narrow, hunanswered] at hne
        | cons header rest =>
            have hheader : p.right.unanswered[0]? = some header := by
              rw [hunanswered]
              rfl
            have hmay : mayAnswer p.right header .reply = true := rfl
            cases hasks : D.asks header with
            | true =>
                obtain ⟨j, hj, hstep⟩ := narrow_answer status resultCode initial
                  body hheader hasks hmay
                obtain ⟨hlt, hleft⟩ :=
                  work_answer status resultCode initial body hj
                    ((mayAnswer_narrow p header .reply).trans hmay)
                rw [hstep] at hlt hleft
                refine Or.inr ⟨?_, crowdRank_lt_of_work hlt⟩
                rw [InFlight, show (D.machine.step p (.right (.answer .reply 0
                  status resultCode initial body))).1.left = p.left from hleft]
                exact hbusy
            | false =>
                obtain ⟨hnotice, -, herase⟩ := foreign_answer status resultCode
                  initial body hheader hasks hmay
                refine Or.inr (hunnoticed hnotice fun hsame => ?_)
                unfold ahead
                rw [hsame, hdue]
                simp only [herase, hunanswered, List.eraseIdx_cons_zero,
                  List.findIdx_cons, hasks]
                exact Nat.lt_succ_self _

end Descent

/-- Why the call with this id ends in a crowd. -/
def crowdDescent (requestId : UInt32) : D.machine.Descent Due (ℕ ×ₗ ℕ) where
  admitted p i := D.Crowded i ∧ ∃ past, D.InCrowd p past
  busy := InFlight requestId
  done := Ends requestId
  rank := D.crowdRank
  due p := due (D.narrow p)
  acts := D.Acts
  helps := fun _ _ ⟨_, _, hcrowd⟩ hbusy hi => hcrowd.helps hbusy hi
  waits := fun _ _ ⟨hi, _, hcrowd⟩ hbusy => hcrowd.waits hbusy hi

end RpcDeployment

/-! ## A service and its clients -/

/-- What `RpcDeployment` says of one client holds for every client that the
service was configured with. -/
structure ServiceDeployment extends RpcDeployment where
  readsRequests : ∀ header : ServiceRequestHeader,
    header.serviceName = serviceName →
    (∃ client ∈ config.clients, client.name = header.clientName) →
    C.request.ReadsBack
      (net.getPduSize ⟨serviceName, header.clientName ++ "Req"⟩) header
  readsResponses : ∀ header : ServiceResponseHeader,
    header.serviceName = serviceName →
    (∃ client ∈ config.clients, client.name = header.clientName) →
    C.response.ReadsBack
      (net.getPduSize ⟨serviceName, header.clientName ++ "Res"⟩) header

namespace ServiceDeployment

open RpcDeployment

variable (S : ServiceDeployment)

/-- The clients that the server endpoint registers. -/
def Client : Type :=
  {name : String // ∃ client ∈ S.config.clients, client.name = name ∧
    S.clientNodeId.all (client.nodeId = ·)}

instance : DecidableEq S.Client := inferInstanceAs (DecidableEq {_name // _})

/-- The same service, seen by one of its clients. -/
abbrev deployment (k : S.Client) : RpcDeployment where
  C := S.C
  net := S.net
  serviceName := S.serviceName
  clientName := k.1
  config := S.config
  clientNodeId := S.clientNodeId
  static := S.static
  registered := k.2
  sends := S.sends
  readsRequest header hservice hclient := by
    obtain ⟨client, hmem, hname, -⟩ := k.2
    rw [← hclient]
    exact S.readsRequests header hservice ⟨client, hmem, hname.trans hclient.symm⟩
  readsResponse header hservice hclient := by
    obtain ⟨client, hmem, hname, -⟩ := k.2
    rw [← hclient]
    exact S.readsResponses header hservice
      ⟨client, hmem, hname.trans hclient.symm⟩

/-- The clients, the server, and what is under way between them. -/
abbrev State := Star S.Client RpcClientEndpointImpl RpcServer PduData

abbrev Input := Star.Input S.Client (ClientStep S.C) (ServerStep S.C)

abbrev Obs := (S.Client × ClientObs) ⊕ ServerObs

/-- The client endpoints. -/
def clientMachines (k : S.Client) :
    Machine RpcClientEndpointImpl (ClientStep S.C) ClientObs :=
  (S.deployment k).clientMachine

/-- Their transports to the server. -/
def wirings (k : S.Client) :
    Duplex.Wiring (ClientStep S.C) (ServerStep S.C) ClientObs ServerObs
      PduData :=
  (S.deployment k).wiring

def machine : Machine S.State S.Input S.Obs :=
  Star.machine S.clientMachines S.serverMachine S.wirings

/-- Everything as it starts. -/
def start : S.State where
  outer k := .create S.serviceName k.1
  center := S.toRpcDeployment.start.right
  toOuter _ := []
  toCenter _ := []

/-- Packets come from the links only. -/
def Regular : S.Input → Prop
  | .outer _ (.receive _) => False
  | .center (.receive _) => False
  | _ => True

/-- The server does not depend on which of its clients looks at it. -/
theorem serverMachine_eq (k : S.Client) :
    S.serverMachine = (S.deployment k).serverMachine := by
  have hstep : S.serverMachine.step = (S.deployment k).serverMachine.step := by
    funext s j
    cases j with
    | receive | poll => rfl
    | answer kind index status resultCode initial body => cases kind <;> rfl
  exact congrArg Machine.mk hstep

/-- A client and the server, as the client sees them. -/
def linkMachine (k : S.Client) :
    Machine Pair (Duplex.Input (ClientStep S.C) (ServerStep S.C))
      (ClientObs ⊕ ServerObs) :=
  Duplex.machine (S.clientMachines k) S.serverMachine (S.wirings k)

theorem linkMachine_eq (k : S.Client) :
    S.linkMachine k = (S.deployment k).machine :=
  congrArg (fun N => Duplex.machine (S.clientMachines k) N (S.wirings k))
    (S.serverMachine_eq k)

/-- The client's view of the service. -/
def clientProjection (k : S.Client) :
    Machine.Projection S.machine (S.linkMachine k) fun _ _ => True :=
  Star.projection S.clientMachines S.serverMachine S.wirings k

/-- What is seen of one client and of the server. -/
def seen (k : S.Client) (trace : List S.Obs) : List (ClientObs ⊕ ServerObs) :=
  trace.flatMap (Star.linkObs k)

/-- A step of the service, seen by a client. -/
theorem link_step (k : S.Client) (s : S.State) (i : S.Input) :
    Star.link k (S.machine.step s i).1 =
        (S.deployment k).machine.run (Star.link k s)
          (Star.linkInputs S.wirings k s i) ∧
      S.seen k (S.machine.step s i).2 =
        (S.deployment k).machine.trace (Star.link k s)
          (Star.linkInputs S.wirings k s i) := by
  rw [← linkMachine_eq]
  exact ⟨(S.clientProjection k).view_step s i trivial trivial,
    (S.clientProjection k).trace_step s i trivial trivial⟩

/-- Every client is in a crowd, and every packet in the queue of the server is a
client's. -/
structure Together (s : S.State) (past : List S.Obs) : Prop where
  inCrowd : ∀ k, (S.deployment k).InCrowd (Star.link k s) (S.seen k past)
  owned : ∀ pdu ∈ s.center.endpoint.pendingRequests,
    ∃ k, (S.deployment k).Mine pdu

section Steps

variable {S} {s : S.State} {past : List S.Obs}

/-- A packet of one client is foreign to the others. -/
theorem foreign_of_mine {k k' : S.Client} {pdu : PduData} (hne : k' ≠ k)
    (h : (S.deployment k').Mine pdu) : (S.deployment k).Foreign pdu := by
  intro old hname
  exact hne (Subtype.ext ((h old).symm.trans hname))

theorem Together.mine_of_head (h : S.Together s past) {k : S.Client}
    {pdu : PduData} {rest : List PduData} (hqueue : s.toCenter k = pdu :: rest) :
    (S.deployment k).Mine pdu :=
  (h.inCrowd k).mine_of_toRight (by
    change pdu ∈ s.toCenter k
    rw [hqueue]
    exact List.mem_cons_self)

/-- What a client sees of a step are steps in a crowd. -/
theorem Together.crowded (h : S.Together s past) {i : S.Input}
    (hi : S.Regular i) (k : S.Client) :
    ∀ j ∈ Star.linkInputs S.wirings k s i, (S.deployment k).Crowded j := by
  intro j hj
  cases i with
  | outer k' i =>
      rw [Star.linkInputs] at hj
      split_ifs at hj
      · rw [List.mem_singleton.mp hj]
        cases i with
        | receive pdu => exact hi.elim
        | create | request | cancel | poll => trivial
      · cases hj
  | center j' =>
      rw [List.mem_singleton.mp hj]
      cases j' with
      | receive pdu => exact hi.elim
      | poll | answer => trivial
  | deliverOuter k' =>
      rw [Star.linkInputs] at hj
      split_ifs at hj
      · rw [List.mem_singleton.mp hj]
        trivial
      · cases hj
  | deliverCenter k' =>
      rw [Star.linkInputs] at hj
      split_ifs at hj with hk
      · rw [List.mem_singleton.mp hj]
        trivial
      · cases hqueue : s.toCenter k' with
        | nil => simp [hqueue] at hj
        | cons pdu rest =>
            rw [hqueue] at hj
            rw [List.mem_singleton.mp hj]
            exact foreign_of_mine hk (h.mine_of_head hqueue)

theorem Together.inCrowd_step (h : S.Together s past) {i : S.Input}
    (hi : S.Regular i) (k : S.Client) :
    (S.deployment k).InCrowd (Star.link k (S.machine.step s i).1)
      (S.seen k (past ++ (S.machine.step s i).2)) := by
  obtain ⟨hview, htrace⟩ := S.link_step k s i
  have happend : S.seen k (past ++ (S.machine.step s i).2) =
      S.seen k past ++ S.seen k (S.machine.step s i).2 := List.flatMap_append
  rw [happend, hview, htrace]
  exact (S.deployment k).machine.history_invariant
    (C := fun _ j => (S.deployment k).Crowded j)
    (fun _ _ _ hj hcrowd => hcrowd.step hj) (h.inCrowd k)
    ((S.deployment k).machine.along_of_forall
      (fun j hj _ => h.crowded hi k j hj) _)

theorem Together.owned_step (h : S.Together s past) {i : S.Input}
    (hi : S.Regular i) :
    ∀ pdu ∈ (S.machine.step s i).1.center.endpoint.pendingRequests,
      ∃ k, (S.deployment k).Mine pdu := by
  have hstatic : s.center.endpoint.dynamicClient = false := by
    obtain ⟨client, hmem, hname, hnode⟩ := S.registered
    exact (h.inCrowd ⟨client.name, client, hmem, rfl, hnode⟩).serves.static
  intro pdu hpdu
  cases i with
  | outer k i => exact h.owned pdu hpdu
  | center j =>
      obtain hpdu | rfl := S.mem_pendingRequests_step hstatic hpdu
      · exact h.owned pdu hpdu
      · exact hi.elim
  | deliverOuter k =>
      simp only [machine, Star.machine] at hpdu
      split at hpdu <;> exact h.owned pdu hpdu
  | deliverCenter k =>
      cases hqueue : s.toCenter k with
      | nil =>
          simp only [machine, Star.machine, hqueue] at hpdu
          exact h.owned pdu hpdu
      | cons x rest =>
          simp only [machine, Star.machine, hqueue] at hpdu
          obtain hpdu | hreceived := mem_pendingRequests_step hstatic hpdu
          · exact h.owned pdu hpdu
          · obtain rfl : x = pdu := ServerStep.receive.inj hreceived
            exact ⟨k, h.mine_of_head hqueue⟩

theorem Together.step (h : S.Together s past) {i : S.Input}
    (hi : S.Regular i) :
    S.Together (S.machine.step s i).1 (past ++ (S.machine.step s i).2) :=
  ⟨h.inCrowd_step hi, h.owned_step hi⟩

end Steps

theorem together_start : S.Together S.start [] where
  inCrowd k := (S.deployment k).inCrowd_start
  owned := by
    have hqueue : S.start.center.endpoint.pendingRequests = [] :=
      RpcServerEndpointImpl.pendingRequests_initializeService _ _ _
    rw [hqueue]
    simp

theorem together_run {is : List S.Input} (his : ∀ i ∈ is, S.Regular i) :
    S.Together (S.machine.run S.start is) (S.machine.trace S.start is) :=
  S.machine.trace_invariant (C := fun _ i => S.Regular i)
    (fun _ _ _ hi h => h.step hi) S.together_start
    (S.machine.along_of_forall (fun i hi _ => his i hi) _)

/-! ## Fair schedules -/

/-- The step takes an action for a client. -/
def Acts (k : S.Client) (action : Due) (s : S.State) (i : S.Input) : Prop :=
  ∃ j ∈ Star.linkInputs S.wirings k s i,
    (S.deployment k).Acts action (Star.link k s) j

/-- A schedule that keeps every client, every link and the server going. -/
structure Fair (schedule : ℕ → S.Input) : Prop where
  regular : ∀ n, S.Regular (schedule n)
  recurs : ∀ k action, S.machine.Recurs S.start schedule (S.Acts k action)

/-- Why the call of a client with this id ends. -/
def callDescent (k : S.Client) (requestId : UInt32) :
    S.machine.Descent Due (ℕ ×ₗ ℕ) :=
  (((S.deployment k).crowdDescent requestId).congr (S.linkMachine_eq k)).pull
    (S.clientProjection k) (Star.length_linkInputs_le S.wirings k)

variable {S}

theorem together_stateAt {schedule : ℕ → S.Input}
    (hregular : ∀ n, S.Regular (schedule n)) (n : ℕ) :
    ∃ past, S.Together (S.machine.stateAt S.start schedule n) past :=
  S.machine.always (C := fun _ i => S.Regular i)
    (I := fun s => ∃ past, S.Together s past)
    (fun _ _ hi ⟨_, h⟩ => ⟨_, h.step hi⟩) ⟨[], S.together_start⟩ hregular n

theorem Fair.admitted {schedule : ℕ → S.Input} (h : S.Fair schedule)
    (k : S.Client) (requestId : UInt32) (n : ℕ) :
    (S.callDescent k requestId).admitted
      (S.machine.stateAt S.start schedule n) (schedule n) := by
  obtain ⟨past, htogether⟩ := together_stateAt h.regular n
  exact ⟨trivial, trivial, fun j hj =>
    ⟨htogether.crowded (h.regular n) k j hj, _, htogether.inCrowd k⟩⟩

end ServiceDeployment

open RpcDeployment ServiceDeployment in
/-- All clients of a service and their server, in any interleaving: every packet
that the server has to take is one of a client, and what `poll` does with it is
what the protocol asks for; and for each client the successful calls and their
terminal events take turns, each event with the id of its call. -/
theorem rpc_service_safety (S : ServiceDeployment) (is : List S.Input)
    (his : ∀ i ∈ is, S.Regular i) :
    let s := S.machine.run S.start is
    let trace := S.machine.trace S.start is
    (∀ request pdu rest, s.center.endpoint.pendingRequests = pdu :: rest →
        ∃ k, (S.deployment k).Mine pdu ∧
          (S.deployment k).SafePoll (Star.link k s) request pdu) ∧
      ∀ k, CallHistory (s.outer k).clientState
        (callLog (Duplex.lefts (S.seen k trace))) := by
  intro s trace
  have h := S.together_run his
  constructor
  · intro request pdu rest hqueue
    obtain ⟨k, hmine⟩ := h.owned pdu (by
      change pdu ∈ s.center.endpoint.pendingRequests
      rw [hqueue]
      exact List.mem_cons_self)
    exact ⟨k, hmine, (h.inCrowd k).safePoll request hqueue hmine⟩
  · intro k
    exact (h.inCrowd k).linked.calls

section Sample

open RpcDeployment ServiceDeployment ServiceLayout

theorem name_sharedClient {name : String}
    (h : ∃ client ∈ sharedConfig.clients, client.name = name) :
    name = "Client" ∨ name = "Other" := by
  simpa [sharedConfig, eq_comm] using h

theorem reads_sharedRequests (header : ServiceRequestHeader)
    (hservice : header.serviceName = "Add")
    (hclient : ∃ client ∈ sharedConfig.clients,
      client.name = header.clientName) :
    layoutConvertors.request.ReadsBack
      (sampleNet.getPduSize ⟨"Add", header.clientName ++ "Req"⟩) header := by
  refine requestConvertor_readsBack (show 289 ≤ 300 by decide)
    (by rw [hservice]; unfold Representable; decide +kernel) ?_
  obtain hname | hname := name_sharedClient hclient
  · rw [hname]
    unfold Representable
    decide +kernel
  · rw [hname]
    unfold Representable
    decide +kernel

theorem reads_sharedResponses (header : ServiceResponseHeader)
    (hservice : header.serviceName = "Add")
    (hclient : ∃ client ∈ sharedConfig.clients,
      client.name = header.clientName) :
    layoutConvertors.response.ReadsBack
      (sampleNet.getPduSize ⟨"Add", header.clientName ++ "Res"⟩) header := by
  refine responseConvertor_readsBack (show 290 ≤ 300 by decide)
    (by rw [hservice]; unfold Representable; decide +kernel) ?_
  obtain hname | hname := name_sharedClient hclient
  · rw [hname]
    unfold Representable
    decide +kernel
  · rw [hname]
    unfold Representable
    decide +kernel

/-- The service with two clients. -/
def sharedService : ServiceDeployment where
  C := layoutConvertors
  net := sampleNet
  serviceName := "Add"
  clientName := "Client"
  config := sharedConfig
  clientNodeId := none
  static := rfl
  registered := ⟨⟨"Client", "node"⟩, by simp [sharedConfig], rfl, rfl⟩
  sends := sampleService.sends
  readsRequest := sampleService.readsRequest
  readsResponse := sampleService.readsResponse
  readsRequests := reads_sharedRequests
  readsResponses := reads_sharedResponses

/-- The client `"Client"`. -/
def firstClient : sharedService.Client :=
  ⟨"Client", ⟨"Client", "node"⟩, by simp [sharedService, sharedConfig], rfl,
    rfl⟩

/-- The client `"Other"`. -/
def otherClient : sharedService.Client :=
  ⟨"Other", ⟨"Other", "node"⟩, by simp [sharedService, sharedConfig], rfl, rfl⟩

/-- Both clients call, and the server has taken neither request yet. -/
def bothCall : List sharedService.Input :=
  [.outer otherClient (.request [] (noBody _) 0 0),
    .outer firstClient (.request [] (noBody _) 0 0),
    .deliverCenter firstClient, .deliverCenter otherClient,
    .outer firstClient .cancel]

theorem bothCall_regular : ∀ i ∈ bothCall, sharedService.Regular i := by
  simp [bothCall, ServiceDeployment.Regular]

theorem bothCall_safe :
    let s := sharedService.machine.run sharedService.start bothCall
    let trace := sharedService.machine.trace sharedService.start bothCall
    s.center.endpoint.pendingRequests.length = 2 ∧
      (∀ request pdu rest, s.center.endpoint.pendingRequests = pdu :: rest →
        ∃ k, (sharedService.deployment k).Mine pdu ∧
          (sharedService.deployment k).SafePoll (Star.link k s) request pdu) ∧
      ∀ k, CallHistory (s.outer k).clientState
        (callLog (Duplex.lefts (sharedService.seen k trace))) :=
  ⟨by decide +kernel,
    rpc_service_safety sharedService bothCall bothCall_regular⟩

/-- A step that starts no call with a timeout. -/
def Untimed {C : RpcConvertors} : ClientStep C → Prop
  | .request _ _ _ timeoutUsec => timeoutUsec = 0
  | _ => True

theorem untimed_clientStep (D : RpcDeployment) {s : RpcClientEndpointImpl}
    (hs : s.currentTimeoutUsec = 0) {i : ClientStep D.C} (hi : Untimed i) :
    (D.clientMachine.step s i).1.currentTimeoutUsec = 0 := by
  cases i with
  | receive pdu => exact hs
  | create opcode isCancelRequest pdu => cases isCancelRequest <;> exact hs
  | request initial body now timeoutUsec =>
      obtain rfl : timeoutUsec = 0 := hi
      generalize hcreated : s.createRequestBuffer D.C D.net operationRequest
        false initial = created
      have huntimed : created.1.currentTimeoutUsec = 0 := by
        rw [← hcreated]
        exact hs
      have hstep : (D.clientMachine.step s (.request initial body now 0)).1 =
          (created.1.call D.net now (body.fill created.2) 0).state := by
        rw [← hcreated]
        rfl
      rw [hstep]
      rcases RpcClientEndpointImpl.call_cases D.net created.1 now
          (body.fill created.2) 0 with
        ⟨-, hcall⟩ | ⟨-, -, hcall⟩ | ⟨-, -, hcall⟩
      · rw [hcall]
        exact huntimed
      · rw [hcall]
        rfl
      · rw [hcall]
        rfl
  | cancel =>
      simp only [clientMachine]
      rcases RpcClientEndpointImpl.sendCancelRequest_cases D.C D.net s with
        ⟨-, hsend⟩ | ⟨-, -, hsend⟩ | ⟨-, -, hsend⟩
      · rw [hsend]
        exact hs
      · rw [hsend]
        exact hs
      · rw [hsend]
        exact hs
  | poll now response =>
      simp only [clientMachine]
      rcases RpcClientEndpointImpl.poll_cases D.C now s response with
        ⟨-, hstate, -⟩ | ⟨pdu, -, -, -, hpoll⟩
      · rw [hstate]
        exact hs
      · rw [hpoll]
        exact hs

theorem untimed_step {s : sharedService.State}
    (hs : ∀ k, (s.outer k).currentTimeoutUsec = 0) (i : sharedService.Input)
    (hi : ∀ k j, i = .outer k j → Untimed j) (k : sharedService.Client) :
    ((sharedService.machine.step s i).1.outer k).currentTimeoutUsec = 0 := by
  have hupdate {k' : sharedService.Client} (j : ClientStep sharedService.C)
      (hj : Untimed j) :
      (Function.update s.outer k' ((sharedService.clientMachines k').step
        (s.outer k') j).1 k).currentTimeoutUsec = 0 := by
    by_cases hk : k = k'
    · rw [hk, Function.update_self]
      exact untimed_clientStep (sharedService.deployment k') (hs k') hj
    · rw [Function.update_of_ne hk]
      exact hs k
  cases i with
  | outer k' j => exact hupdate j (hi k' j rfl)
  | center j => exact hs k
  | deliverOuter k' =>
      cases hqueue : s.toOuter k' with
      | nil =>
          simp only [ServiceDeployment.machine, Star.machine, hqueue]
          exact hs k
      | cons x rest =>
          simp only [ServiceDeployment.machine, Star.machine, hqueue]
          exact hupdate (.receive x) trivial
  | deliverCenter k' =>
      simp only [ServiceDeployment.machine, Star.machine]
      split <;> exact hs k

end Sample

end Rpc
end HakoPduRpc
