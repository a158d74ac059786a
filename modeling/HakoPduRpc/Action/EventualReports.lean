import HakoPduRpc.Action.LinkedAgreement
import HakoPduRpc.Lib.Transit

/-!
# Packets of the server are reported

What the server has sent is reported in the end, when the transport delivers to
the client and the client polls the Action again and again.  A poll of the
services ends at the first Action that has something to report, so a poll counts
for an Action only when it gets to it (`ClientPolls`).

Behind a packet of a Goal are the packets that are delivered or taken before it.
A packet that is taken and not reported is of another Goal or cannot be read:
`Linked.client_poll` says that the client drops no packet of a Goal that it waits
for without a timeout.
-/

namespace HakoPduRpc.Action

/-! ## One Goal -/

namespace GoalLink

variable {v : GoalView} (h : GoalLink v)
  (hstate : ∀ b, v.client = some b → b.state ≠ .goalResponseTimedOut)

include h hstate

/-- As long as the client has reported less than the server sent, there is a
packet under way. -/
theorem deliveries_ne_nil
    (hless : v.reported.flatten.length < v.sent.flatten.length) :
    v.deliveries ≠ [] := by
  rintro hnil
  cases h.matched with
  | never _ hreported hsent => simp [hreported, hsent] at hless
  | requested _ _ hreported => simp [hreported] at hless
  | opened _ hreported hsent _ hall =>
      rw [hreported, hsent, hall hstate, hnil] at hless
      simp at hless

/-- A client that has reported as much as the server had sent at some moment has
reported just that. -/
theorem continues_reported {earlier : List (List (Notice × PduData))}
    (hsent : Continues earlier v.sent)
    (hlength : earlier.flatten.length ≤ v.reported.flatten.length) :
    Continues earlier v.reported := by
  cases h.matched with
  | never _ hreported hsent' =>
      rw [hreported, ← hsent']
      exact hsent
  | requested _ _ hreported =>
      rw [hreported]
      exact hsent.opened []
  | opened _ hreported hsent' _ hall =>
      rw [hreported] at hlength ⊢
      rw [hsent', hall hstate] at hsent
      exact hsent.of_prefix (List.prefix_append _ _) hlength

end GoalLink

theorem continues_pushNewest {α : Type} {l l' : List (List α)}
    (h : Continues l l') (a : α) : Continues l (pushNewest a l') := by
  cases l' with
  | nil =>
      obtain rfl | ⟨s, rest, more, newer, rfl, hlater⟩ := h
      · exact .nil _
      · simp at hlater
  | cons s rest => exact h.pushed [a]

/-- What the server has sent stays the same when it sends more. -/
theorem continues_sentPackets (R : PduRegistry) (routing : List SlotRouting)
    (g : GoalId) (past obs : List ServerObs) :
    Continues (sentPackets R routing g past)
      (sentPackets R routing g (past ++ obs)) := by
  rw [sentPackets_append]
  generalize sentPackets R routing g past = l
  have hfold (es : List ServerEntry) (l' : List (List (Notice × PduData)))
      (h : Continues l l') : Continues l (es.foldl recordSent l') := by
    induction es generalizing l' with
    | nil => exact h
    | cons e es ih =>
        refine ih _ ?_
        have hother : Continues l (if l' = [] then [[]] else l') := by
          split_ifs with hnil
          · rw [hnil] at h
            exact h.opened []
          · exact h
        cases e with
        | requested slot => exact h.opened []
        | sent slot notice data => exact continues_pushNewest h (notice, data)
        | _ => exact hother
  exact hfold _ l (.refl l)

theorem length_flatten_pushNewest {α : Type} (a : α) (l : List (List α)) :
    (pushNewest a l).flatten.length = l.flatten.length + 1 := by
  cases l with
  | nil => rfl
  | cons s rest =>
      simp only [pushNewest, List.flatten_cons, List.length_append,
        List.length_cons, List.length_nil]
      omega

/-- The packets that the client has reported add up. -/
theorem length_reportedPackets_append (g : GoalId)
    (past obs : List ClientObs) :
    (reportedPackets g (past ++ obs)).flatten.length =
      (reportedPackets g past).flatten.length +
        (reports (clientLog g obs)).length := by
  rw [reportedPackets_append]
  generalize reportedPackets g past = l
  induction clientLog g obs generalizing l with
  | nil => rfl
  | cons e es ih =>
      have hother : (if l = [] then [[]] else l).flatten.length =
          l.flatten.length := by
        split_ifs with hnil
        · simp [hnil]
        · rfl
      rw [List.foldl_cons, ih]
      cases e with
      | reported notice data =>
          simp only [recordReport, length_flatten_pushNewest, reports,
            List.filterMap_cons, List.length_cons]
          omega
      | sent => simp [recordReport, reports]
      | cancelSent | timedOut =>
          simpa [recordReport, reports] using hother

theorem clientTrace_append (name : String)
    (l l' : List ((String × ClientObs) ⊕ (String × ServerObs))) :
    clientTrace name (l ++ l') = clientTrace name l ++ clientTrace name l' := by
  simp [clientTrace]

theorem serverTrace_append (name : String)
    (l l' : List ((String × ClientObs) ⊕ (String × ServerObs))) :
    serverTrace name (l ++ l') = serverTrace name l ++ serverTrace name l' := by
  simp [serverTrace]

/-! ## One Action -/

namespace Linked

variable {R : PduRegistry} {p : ActionPair}
  {past : List (ClientObs ⊕ ServerObs)}

open ClientActionInstance

/-- The client drops no packet of a Goal. -/
theorem not_dropped (h : Linked R p past) (huntimed : p.left.Untimed)
    {packet : ClientPendingPacket} {rest : List ClientPendingPacket}
    (hqueue : p.left.endpoint.pendingPackets = packet :: rest)
    (hdropped : Dropped R p.left packet) (g : GoalId) :
    deliveryIn R p.left.endpoint.slotRouting g packet = none := by
  cases hin : deliveryIn R p.left.endpoint.slotRouting g packet with
  | none => rfl
  | some d =>
      have hsplit := ActionPair.deliveriesFrom_cons (R := R) (p := p) g packet
        rest
      rw [← hqueue, ← ActionPair.deliveries_eq, hin, Option.toList_some,
        List.singleton_append] at hsplit
      obtain ⟨fut, hdrain, -⟩ := (h.goals g).expects
      dsimp only [goalView] at hdrain
      rw [hsplit] at hdrain
      obtain ⟨b, hb, hslot, hadvance⟩ := drain_cons hdrain
      obtain ⟨q, hdecode, hq⟩ := Option.bind_eq_some_iff.mp hin
      split_ifs at hq with hgoal
      cases hq
      subst hgoal
      have hnone := hdropped q b hdecode hb hslot
      obtain ⟨htimeout, -⟩ | ⟨b', hsome, -⟩ := hadvance
      · exact absurd htimeout (huntimed q.goalId b hb).2
      · dsimp only at hsome
        rw [hnone] at hsome
        cases hsome

/-- A poll takes the packet in front of the queue.  It reports a packet of the
Goal, or the packet it took is none. -/
theorem client_poll (h : Linked R p past) (huntimed : p.left.Untimed)
    (now : UInt64) (g : GoalId) :
    let next := (clientInstanceMachine R).step p.left (.poll now)
    reports (clientLog g next.2) ≠ [] ∨
      (p.left.endpoint.pendingPackets = [] ∧
        next.1.endpoint.pendingPackets = []) ∨
      ∃ packet, p.left.endpoint.pendingPackets =
          packet :: next.1.endpoint.pendingPackets ∧
        deliveryIn R p.left.endpoint.slotRouting g packet = none := by
  intro next
  have hskips {rest : List ClientPendingPacket}
      (hskip : Skips R p.left rest)
      (hrest : next.1.endpoint.pendingPackets = rest) :
      (p.left.endpoint.pendingPackets = [] ∧
          next.1.endpoint.pendingPackets = []) ∨
        ∃ packet, p.left.endpoint.pendingPackets =
            packet :: next.1.endpoint.pendingPackets ∧
          deliveryIn R p.left.endpoint.slotRouting g packet = none := by
    rw [hrest]
    obtain ⟨hempty, rfl⟩ | ⟨packet, hqueue, hdropped⟩ := hskip
    · exact Or.inl ⟨hempty, rfl⟩
    · exact Or.inr ⟨packet, hqueue, h.not_dropped huntimed hqueue hdropped g⟩
  have hcase := poll_cases (R := R) h.client now
  have hnext : next = ((p.left.pollEndpoint R now).1,
      (p.left.pollEndpoint R now).2.toList.map .event) := rfl
  generalize hleft : (p.left.pollEndpoint R now).1 = left at hcase hnext
  generalize hresult : (p.left.pollEndpoint R now).2 = result at hcase hnext
  cases hcase with
  | @reported packet rest q b b' hqueue hdecode hb hslot hadvance hupdate =>
      have hrest : next.1.endpoint.pendingPackets = rest := by
        rw [hnext]
        exact hupdate.endpoint.pendingPackets_eq
      by_cases hg : q.goalId = g
      · refine Or.inl ?_
        rw [hnext]
        simp [clientLog, clientEntry_noticeEvent, hg, reports]
      · refine Or.inr (Or.inr ⟨packet, by rw [hrest, hqueue], ?_⟩)
        simp [deliveryIn, hdecode, hg]
  | idle hskip hinst =>
      refine Or.inr (hskips hskip ?_)
      rw [hnext, hinst]
      rfl
  | timedOut hskip hb htimeout hupdate =>
      refine Or.inr (hskips hskip ?_)
      rw [hnext]
      exact hupdate.endpoint.pendingPackets_eq

/-- A call of the client application leaves the queue alone. -/
theorem client_call (h : Linked R p past) {j : ClientInstanceInput}
    (hj : RegularPairInput (.left j)) (hcall : ∀ now, j ≠ .poll now) :
    ((clientInstanceMachine R).step p.left j).1.endpoint.pendingPackets =
      p.left.endpoint.pendingPackets := by
  cases j with
  | poll now => exact absurd rfl (hcall now)
  | sendGoal net now pdu g timeoutUsec =>
      simp only [clientInstanceMachine]
      split_ifs
      · generalize hsend :
          p.left.sendGoalWithResult R net now pdu g timeoutUsec = o
        obtain ⟨-, hstate, -⟩ | ⟨_, _, _, -, -, -, -, hupdate⟩ :=
          sendGoalWithResult_cases h.client hsend
        · rw [hstate]
        · exact hupdate.endpoint.pendingPackets_eq
      · rfl
  | sendCancel net goal =>
      simp only [clientInstanceMachine]
      split_ifs
      · generalize hsend : p.left.sendCancel R net goal = o
        obtain ⟨-, hstate, -⟩ | ⟨_, _, _, -, -, -, -, -, hupdate⟩ :=
          sendCancel_cases h.client hsend
        · rw [hstate]
        · exact hupdate.endpoint.pendingPackets_eq
      · rfl
  | receive | stop | clear => exact hj.elim

end Linked

/-! ## The services -/

/-- A poll of the client that gets to the Action: no Action before it has
something to report. -/
def ClientPolls (R : PduRegistry) (name : String) (s : ActionSystem) :
    SystemInput → Prop
  | .left (.poll clock) =>
      ActionServicesClient.instanceInputs R name s.left (.poll clock) ≠ []
  | _ => False

/-- What holds of an Action at all times of a regular run. -/
structure Running (R : PduRegistry) (name : String)
    (routing : List SlotRouting) (s : ActionSystem) : Prop where
  good : (ActionSystem.projection R name).Good s
  linked : ∃ past, Linked R (s.action name) past
  slotRouting_eq : (s.action name).right.endpoint.slotRouting = routing

namespace ActionSystem

variable {R : PduRegistry} {name : String}

/-- A step of the client services is, for an Action, a step of that Action or no
step at all. -/
theorem left_step {s : ActionSystem} (hs : (projection R name).Good s)
    (i : ClientInput) :
    let inputs := ActionServicesClient.instanceInputs R name s.left i
    let next := (clientMachine R).step s.left i
    ActionServicesClient.viewAction name next.1 =
        (clientInstanceMachine R).run (s.action name).left inputs ∧
      next.2.flatMap (Fleet.observe name) =
        (clientInstanceMachine R).trace (s.action name).left inputs := by
  intro inputs next
  let P := ActionServicesClient.projection R name
  exact ⟨P.view_step s.left i trivial hs.1.1.1,
    P.trace_step s.left i trivial hs.1.1.1⟩

/-- A delivery puts its packets behind those that the client has. -/
theorem receive_pendingPackets {s : ActionSystem}
    (hs : (projection R name).Good s) (m : Transmission) :
    let next := (clientMachine R).step s.left (.receive m.1 m.2)
    (ActionServicesClient.viewAction name next.1).endpoint.pendingPackets =
      (s.action name).left.endpoint.pendingPackets ++
        clientArrivals (s.action name).left.endpoint.slotRouting m := by
  intro next
  rw [(left_step hs (.receive m.1 m.2)).1]
  rfl

theorem deliverLeft_nil {s : ActionSystem} (hqueue : s.toLeft = []) :
    (systemMachine R).step s .deliverLeft = (s, []) := by
  simp [systemMachine, Duplex.machine, hqueue]

theorem deliverLeft_eq {s : ActionSystem} {m : Transmission}
    {rest : List Transmission} (hqueue : s.toLeft = m :: rest) :
    (systemMachine R).step s .deliverLeft =
      Duplex.stepLeft (clientMachine R) systemWiring { s with toLeft := rest }
        (.receive m.1 m.2) := by
  simp [systemMachine, Duplex.machine, hqueue, systemWiring]

theorem deliverLeft_cons {s : ActionSystem} (hs : (projection R name).Good s)
    {m : Transmission} {rest : List Transmission}
    (hqueue : s.toLeft = m :: rest) :
    let next := ((systemMachine R).step s .deliverLeft).1
    next.toLeft = rest ∧
      (next.action name).left.endpoint.pendingPackets =
        (s.action name).left.endpoint.pendingPackets ++
          clientArrivals (s.action name).left.endpoint.slotRouting m := by
  rw [deliverLeft_eq hqueue]
  exact ⟨rfl, receive_pendingPackets hs m⟩

/-- A delivery to the server leaves the client alone. -/
theorem deliverRight_left (s : ActionSystem) :
    let next := ((systemMachine R).step s .deliverRight).1
    next.left = s.left ∧ ∃ more, next.toLeft = s.toLeft ++ more := by
  cases hqueue : s.toRight with
  | nil =>
      have hstep : (systemMachine R).step s .deliverRight = (s, []) := by
        simp [systemMachine, Duplex.machine, hqueue]
      rw [hstep]
      exact ⟨rfl, [], by simp⟩
  | cons m rest =>
      have hstep : (systemMachine R).step s .deliverRight =
          Duplex.stepRight (serverMachine R) systemWiring
            { s with toRight := rest } (.receive m.1 m.2) := by
        simp [systemMachine, Duplex.machine, hqueue, systemWiring]
      rw [hstep]
      exact ⟨rfl, _, rfl⟩

end ActionSystem

namespace Running

variable {R : PduRegistry} {name : String} {routing : List SlotRouting}
  {s : ActionSystem}

theorem clientRouting_eq (h : Running R name routing s) :
    (s.action name).left.endpoint.slotRouting = routing := by
  obtain ⟨past, hlinked⟩ := h.linked
  exact hlinked.slotRouting_eq.trans h.slotRouting_eq

/-- What a step of the client services does to the queue of an Action. -/
theorem left_cases (h : Running R name routing s)
    (huntimed : (s.action name).left.Untimed) {i : ClientInput}
    (hi : RegularInput (.left i)) (g : GoalId) :
    let next := (systemMachine R).step s (.left i)
    reports (clientLog g (clientTrace name next.2)) ≠ [] ∨
      (¬ClientPolls R name s (.left i) ∨
          (s.action name).left.endpoint.pendingPackets = []) ∧
        (next.1.action name).left.endpoint.pendingPackets =
          (s.action name).left.endpoint.pendingPackets ∨
      ∃ packet, (s.action name).left.endpoint.pendingPackets =
          packet :: (next.1.action name).left.endpoint.pendingPackets ∧
        deliveryIn R routing g packet = none := by
  intro next
  obtain ⟨past, hlinked⟩ := h.linked
  obtain ⟨hview, htrace⟩ := ActionSystem.left_step h.good i
  have hleft : (next.1.action name).left =
      ActionServicesClient.viewAction name ((clientMachine R).step s.left i).1 :=
    rfl
  have hobs : clientTrace name next.2 =
      ((clientMachine R).step s.left i).2.flatMap (Fleet.observe name) :=
    congrArg (List.flatMap (Fleet.observe name)) (Duplex.lefts_inl _)
  rw [hleft, hview, hobs, htrace, ← h.clientRouting_eq]
  have hpolls : ClientPolls R name s (.left i) →
      ActionServicesClient.instanceInputs R name s.left i ≠ [] := by
    cases i with
    | poll clock => exact id
    | _ => exact False.elim
  have hone : (ActionServicesClient.instanceInputs R name s.left i).length ≤
      1 := by
    have hlength := ActionSystem.length_inputs_le (R := R) hi h.good
    have hinputs : (ActionSystem.projection R name).inputs s (.left i) =
        (ActionServicesClient.instanceInputs R name s.left i).map
          Duplex.Input.left := rfl
    rwa [hinputs, List.length_map] at hlength
  cases hinputs : ActionServicesClient.instanceInputs R name s.left i with
  | nil =>
      exact Or.inr (Or.inl ⟨Or.inl fun hpoll => hpolls hpoll hinputs, rfl⟩)
  | cons j rest =>
      obtain rfl : rest = [] := by
        rw [hinputs] at hone
        exact List.length_eq_zero_iff.mp (by simpa using hone)
      have hj : ActionServicesClient.ForAction name i j :=
        ActionServicesClient.ForAction.of_mem (R := R) (s := s.left)
          (by rw [hinputs]; exact List.mem_singleton_self j)
      rw [Machine.run_cons, Machine.run_nil, Machine.trace_cons,
        Machine.trace_nil, List.append_nil]
      cases hj with
      | poll clock now =>
          obtain htaken | ⟨hempty, hempty'⟩ | hpopped :=
            hlinked.client_poll huntimed now g
          · exact Or.inl htaken
          · exact Or.inr (Or.inl ⟨Or.inr hempty, hempty'.trans hempty.symm⟩)
          · exact Or.inr (Or.inr hpopped)
      | sendGoal | sendCancel =>
          exact Or.inr (Or.inl ⟨Or.inl id,
            hlinked.client_call (by trivial) (by simp)⟩)
      | receive | stop | clear => exact hi.elim

end Running

/-- The packets of a Goal on their way to the client: behind the transport is the
queue of the Action. -/
def clientTransit (R : PduRegistry) (name : String)
    (routing : List SlotRouting) (g : GoalId) :
    (systemMachine R).Transit Transmission ClientPendingPacket where
  admitted s i := RegularInput i ∧ Running R name routing s ∧
    (s.action name).left.Untimed
  transport s := s.toLeft
  mailbox s := (s.action name).left.endpoint.pendingPackets
  arrives := clientArrivals routing
  wanted packet := (deliveryIn R routing g packet).isSome
  delivers _ i := i = .deliverLeft
  takes := ClientPolls R name
  taken obs := reports (clientLog g (clientTrace name obs)) ≠ []
  moves := by
    rintro s i ⟨hi, hs, huntimed⟩
    cases i with
    | left i =>
        obtain htaken | ⟨-, hsame⟩ | ⟨packet, hqueue, hother⟩ :=
          hs.left_cases huntimed hi g
        · exact Or.inl htaken
        · rw [hsame]
          exact Or.inr (.same _ _ _ _)
        · rw [hqueue]
          exact Or.inr (.taken packet _ _ (by simp [hother]))
    | right i => exact Or.inr (.sent _ _ _)
    | deliverLeft =>
        refine Or.inr ?_
        cases hqueue : s.toLeft with
        | nil =>
            rw [ActionSystem.deliverLeft_nil hqueue, hqueue]
            exact .same _ _ _ _
        | cons m rest =>
            obtain ⟨htransport, hmailbox⟩ :=
              ActionSystem.deliverLeft_cons (R := R) hs.good hqueue
            rw [htransport, hmailbox, hs.clientRouting_eq]
            exact .delivered m rest _
    | deliverRight =>
        obtain ⟨hleft, more, htransport⟩ :=
          ActionSystem.deliverRight_left (R := R) s
        have hsame : (((systemMachine R).step s .deliverRight).1.action
            name).left = (s.action name).left :=
          congrArg (ActionServicesClient.viewAction name) hleft
        rw [hsame, htransport]
        exact Or.inr (.sent _ _ _)
  delivered := by
    rintro s i m rest ⟨hi, hs, huntimed⟩ rfl hqueue
    rw [← hs.clientRouting_eq]
    exact Or.inr (ActionSystem.deliverLeft_cons hs.good hqueue)
  took := by
    rintro s i packet rest ⟨hi, hs, huntimed⟩ hpolls hqueue
    cases i with
    | left i =>
        obtain htaken | ⟨hnot | hempty, -⟩ | ⟨packet', hqueue', hother⟩ :=
          hs.left_cases huntimed hi g
        · exact Or.inl htaken
        · exact absurd hpolls hnot
        · rw [hempty] at hqueue
          cases hqueue
        · rw [hqueue'] at hqueue
          obtain ⟨rfl, hrest⟩ := List.cons.inj hqueue
          exact Or.inr ⟨by simp [hother], rfl, hrest⟩
    | right | deliverLeft | deliverRight => exact hpolls.elim

/-- A packet of the Goal that is under way is on the transport or in the queue of
the Action. -/
theorem Running.underWay {R : PduRegistry} {name : String}
    {routing : List SlotRouting} {s : ActionSystem}
    (h : Running R name routing s) {g : GoalId}
    (hbehind : ActionPair.deliveries R (s.action name) g ≠ []) :
    (clientTransit R name routing g).descent.busy s := by
  obtain ⟨d, hd⟩ := List.exists_mem_of_ne_nil _ hbehind
  obtain ⟨packet, hpacket, hin⟩ := List.mem_filterMap.mp hd
  rw [h.clientRouting_eq] at hin
  have hwanted : (deliveryIn R routing g packet).isSome = true := by
    rw [hin]
    rfl
  rcases List.mem_append.mp hpacket with hpacket | hpacket
  · exact Or.inl (List.any_eq_true.mpr ⟨packet, hpacket, hwanted⟩)
  · obtain ⟨m, hm, harrives⟩ := List.mem_flatMap.mp hpacket
    rw [h.clientRouting_eq] at harrives
    exact Or.inr (List.any_eq_true.mpr ⟨m, (List.mem_filter.mp hm).1,
      List.any_eq_true.mpr ⟨packet, harrives, hwanted⟩⟩)

/-! ## Fair runs -/

/-- The transport delivers to the client and the client polls the Action, again
and again. -/
structure ClientFair (R : PduRegistry) (d : Deployment) (name : String)
    (schedule : ℕ → SystemInput) : Prop where
  delivers : (systemMachine R).Recurs (startedSystem R d) schedule
    fun _ i => i = .deliverLeft
  polls : (systemMachine R).Recurs (startedSystem R d) schedule
    (ClientPolls R name)

namespace ActionSystem

variable {R : PduRegistry} (hR : R.Lawful) {d : Deployment}
  {client : ClientActionInstance}
  (hclient : client ∈ (startedSystem R d).left.actions)
  {server : ServerActionInstance}
  (hserver : server ∈ (startedSystem R d).right.actions)
  (hname : client.actionName = server.actionName)
  {schedule : ℕ → SystemInput} (hregular : ∀ n, RegularInput (schedule n))

include hR hclient hserver hname hregular

theorem linked_at (n : ℕ) :
    Linked R
        (((systemMachine R).stateAt (startedSystem R d) schedule n).action
          server.actionName)
        (((systemMachine R).traceAt (startedSystem R d) schedule n).flatMap
          (projection R server.actionName).observe) ∧
      (((systemMachine R).stateAt (startedSystem R d) schedule n).action
        server.actionName).right.endpoint.slotRouting =
        server.endpoint.slotRouting := by
  have hruns : (systemMachine R).Runs (startedSystem R d)
      ((List.range n).map schedule) _ _ := (systemMachine R).runs_traceAt n
  rw [← hruns.1, ← hruns.2]
  refine linked_run hclient hserver hname hR fun i hi => ?_
  obtain ⟨k, -, rfl⟩ := List.mem_map.mp hi
  exact hregular k

theorem running_at (n : ℕ) :
    Running R server.actionName server.endpoint.slotRouting
      ((systemMachine R).stateAt (startedSystem R d) schedule n) := by
  obtain ⟨hlinked, hrouting⟩ :=
    linked_at hR hclient hserver hname hregular n
  exact
    { good := (systemMachine R).always (C := fun _ i => RegularInput i)
        (fun s i hi hs => (projection R server.actionName).good_step s i hi hs)
        (good_started hclient hserver hname) hregular n
      linked := ⟨_, hlinked⟩
      slotRouting_eq := hrouting }

theorem untimed_at (huntimed : ∀ n, UntimedInput (schedule n)) (n : ℕ) :
    (((systemMachine R).stateAt (startedSystem R d) schedule n).action
      server.actionName).left.Untimed := by
  have hruns : (systemMachine R).Runs (startedSystem R d)
      ((List.range n).map schedule) _ _ := (systemMachine R).runs_traceAt n
  rw [← hruns.1]
  refine untimed_run hR hclient hserver hname fun i hi => ?_
  obtain ⟨k, -, rfl⟩ := List.mem_map.mp hi
  exact ⟨hregular k, huntimed k⟩

/-- Everything that the server has sent is reported. -/
theorem continues_reports (huntimed : ∀ n, UntimedInput (schedule n))
    (hfair : ClientFair R d server.actionName schedule) (g : GoalId) (n : ℕ) :
    ∃ m, n ≤ m ∧ Continues
      (sentPackets R server.endpoint.slotRouting g (serverTrace
        server.actionName
        ((systemMachine R).traceAt (startedSystem R d) schedule n)))
      (reportedPackets g (clientTrace server.actionName
        ((systemMachine R).traceAt (startedSystem R d) schedule m))) := by
  let name := server.actionName
  let routing := server.endpoint.slotRouting
  let M := systemMachine R
  let start := startedSystem R d
  let sent := fun m => sentPackets R routing g
    (serverTrace name (M.traceAt start schedule m))
  let reported := fun m => reportedPackets g
    (clientTrace name (M.traceAt start schedule m))
  have hwaits (m : ℕ) (b : ClientPacketBinding)
      (hb : ((M.stateAt start schedule m).action name).left.binding g =
        some b) : b.state ≠ .goalResponseTimedOut :=
    (untimed_at hR hclient hserver hname hregular huntimed m g b hb).2
  have hlink (m : ℕ) := by
    obtain ⟨hlinked, hrouting⟩ := linked_at hR hclient hserver hname hregular m
    have hgoal := hlinked.goals g
    rwa [goalView_observe, hrouting] at hgoal
  have hsent {m m' : ℕ} (hm : m ≤ m') : Continues (sent m) (sent m') := by
    obtain ⟨more, hmore⟩ : ∃ more, M.traceAt start schedule m' =
        M.traceAt start schedule m ++ more := M.exists_traceAt_append hm
    dsimp only [sent]
    rw [hmore, serverTrace_append]
    exact continues_sentPackets R routing g _ _
  have hreported (m : ℕ) : (reported (m + 1)).flatten.length =
      (reported m).flatten.length + (reports (clientLog g (clientTrace name
        (M.obsAt start schedule m)))).length := by
    dsimp only [reported]
    rw [M.traceAt_succ, clientTrace_append]
    exact length_reportedPackets_append g _ _
  have hadmitted (m : ℕ) : (clientTransit R name routing g).descent.admitted
      (M.stateAt start schedule m) (schedule m) :=
    ⟨hregular m, running_at hR hclient hserver hname hregular m,
      untimed_at hR hclient hserver hname hregular huntimed m⟩
  have hrecurs (place : Machine.Transit.Place) : M.Recurs start schedule
      ((clientTransit R name routing g).descent.acts place) := by
    cases place with
    | transport => exact hfair.delivers
    | mailbox => exact hfair.polls
  have hmono : Monotone fun m => (reported m).flatten.length :=
    monotone_nat_of_le_succ fun m => by
      rw [hreported]
      exact Nat.le_add_right _ _
  have htaken (m : ℕ) (h : (clientTransit R name routing g).descent.done
      (M.obsAt start schedule m)) :
      (reported m).flatten.length < (reported (m + 1)).flatten.length := by
    rw [hreported]
    exact Nat.lt_add_of_pos_right (List.length_pos_iff.mpr h)
  have hbusy (m : ℕ) (hm : n ≤ m)
      (hless : (reported m).flatten.length < (sent n).flatten.length) :
      (clientTransit R name routing g).descent.busy
        (M.stateAt start schedule m) := by
    have hle := (hsent hm).length_flatten_le
    exact (running_at hR hclient hserver hname hregular m).underWay
      ((hlink m).deliveries_ne_nil (hwaits m) (hless.trans_le hle))
  obtain ⟨m, hm, hreached⟩ :=
    (clientTransit R name routing g).descent.eventually_count hadmitted hrecurs
      hmono htaken hbusy
  exact ⟨m, hm, (hlink m).continues_reported (hwaits m) (hsent hm) hreached⟩

end ActionSystem

/-- Without timeouts and under every fair schedule, the client reports every
packet that the server sends for a Goal: at some later moment, what it has
reported of each incarnation includes what the server had sent for it, in the
order of the sends. -/
theorem fair_run_reports_all (R : PduRegistry) (hR : R.Lawful) (d : Deployment)
    (client : ClientActionInstance)
    (hclient : client ∈ (startedSystem R d).left.actions)
    (server : ServerActionInstance)
    (hserver : server ∈ (startedSystem R d).right.actions)
    (hname : client.actionName = server.actionName)
    (schedule : ℕ → SystemInput)
    (hschedule : ∀ n, RegularInput (schedule n) ∧ UntimedInput (schedule n))
    (hfair : ClientFair R d server.actionName schedule) (g : GoalId) (n : ℕ) :
    let seen := (systemMachine R).traceAt (startedSystem R d) schedule
    let sent := fun n => sentPackets R server.endpoint.slotRouting g
      (serverTrace server.actionName (seen n))
    let reported := fun n => reportedPackets g
      (clientTrace server.actionName (seen n))
    ∃ m, n ≤ m ∧ ∀ k : ℕ,
      (sent n).reverse[k]?.getD [] <+: (reported m).reverse[k]?.getD [] := by
  intro seen sent reported
  obtain ⟨m, hm, hall⟩ := ActionSystem.continues_reports hR hclient hserver
    hname (fun n => (hschedule n).1) (fun n => (hschedule n).2) hfair g n
  exact ⟨m, hm, hall.getElem_prefix⟩

section Sample

/-- One Goal after the other, with the same id, again and again. -/
def endlessGoals (n : ℕ) : SystemInput :=
  let net : SendOracle := fun _ _ => true
  match n % 9 with
  | 0 => .left (.sendGoal net 0 "fibonacci" samplePacket sampleGoalId 0)
  | 1 => .deliverRight
  | 2 => .right (.poll net)
  | 3 => .right (.call net "fibonacci" (.acceptGoal ⟨sampleGoalId⟩))
  | 4 => .deliverLeft
  | 5 => .left (.poll fun _ => 0)
  | 6 => .right (.call net "fibonacci"
      (.complete ⟨sampleGoalId⟩ .succeeded samplePacket))
  | 7 => .deliverLeft
  | _ => .left (.poll fun _ => 0)

theorem endlessGoals_regular (n : ℕ) :
    RegularInput (endlessGoals n) ∧ UntimedInput (endlessGoals n) := by
  unfold endlessGoals
  dsimp only
  split <;> exact ⟨trivial, by trivial⟩

theorem endlessGoals_period (n : ℕ) :
    endlessGoals (9 + n) = endlessGoals n := by
  have hat : (9 + n) % 9 = n % 9 := by omega
  rw [endlessGoals, hat, endlessGoals]

/-- After each Goal everything is as it was at the start. -/
theorem endlessGoals_round :
    (systemMachine sampleRegistry).stateAt
        (startedSystem sampleRegistry sampleDeployment) endlessGoals 9 =
      startedSystem sampleRegistry sampleDeployment := by
  rfl

theorem endlessGoals_clientFair :
    ClientFair sampleRegistry sampleDeployment sampleServerAction.actionName
      endlessGoals where
  delivers := (systemMachine sampleRegistry).recurs_of_round
    endlessGoals_period endlessGoals_round (by decide) (n := 4) rfl
  polls := (systemMachine sampleRegistry).recurs_of_round
    endlessGoals_period endlessGoals_round (by decide) (n := 5)
      (List.ne_nil_of_length_pos (by decide +kernel))

/-- The client reports both packets that the server sent for the first Goal of
`endlessGoals`. -/
theorem endlessGoals_reports :
    let seen := (systemMachine sampleRegistry).traceAt
      (startedSystem sampleRegistry sampleDeployment) endlessGoals
    let sent := fun n => sentPackets sampleRegistry
      sampleServerAction.endpoint.slotRouting sampleGoalId
      (serverTrace sampleServerAction.actionName (seen n))
    let reported := fun n => reportedPackets sampleGoalId
      (clientTrace sampleServerAction.actionName (seen n))
    (sent 7).map List.length = [2] ∧
      ∃ m, 7 ≤ m ∧ ∀ k : ℕ,
        (sent 7).reverse[k]?.getD [] <+: (reported m).reverse[k]?.getD [] :=
  ⟨by decide +kernel,
    fair_run_reports_all sampleRegistry (layoutRegistry_lawful _)
      sampleDeployment sampleClientAction (List.head_mem _) sampleServerAction
      (List.head_mem _) (by decide +kernel) endlessGoals endlessGoals_regular
      endlessGoals_clientFair sampleGoalId 7⟩

end Sample

end HakoPduRpc.Action
