import HakoPduRpc.Action.EventualReports

/-!
# Goals reach the server and come to an end

Every Goal Request that the client has sent is given to the server application,
when the transport delivers to the server and the server polls the Action again
and again; timeouts of the client do no harm to that.  When the application in
turn ends every Goal that it was given, the client is told of the end of every
Goal that it has sent.
-/

namespace HakoPduRpc.Action

/-! ## One Goal -/

/-- As long as the server was given fewer incarnations than the client has sent,
a Goal Request is under way. -/
theorem GoalLink.exists_goal {v : GoalView} (h : GoalLink v)
    (hless : v.sent.length < v.reported.length) :
    ∃ r ∈ v.requests, r.kind = .goal := by
  cases h.matched with
  | never _ hreported hsent => simp [hreported, hsent] at hless
  | requested hgoal => exact hgoal
  | opened _ hreported hsent => simp [hreported, hsent] at hless

theorem length_pushNewest_ge {α : Type} (a : α) (l : List (List α)) :
    l.length ≤ (pushNewest a l).length := by
  cases l <;> simp [pushNewest]

theorem length_ite_nil_ge {α : Type} (l : List (List α)) :
    l.length ≤ (if l = [] then [[]] else l).length := by
  split_ifs with hnil
  · simp [hnil]
  · exact le_rfl

/-- Every `GOAL_REQUEST` counts. -/
theorem length_sentPackets_append (R : PduRegistry)
    (routing : List SlotRouting) (g : GoalId) (past obs : List ServerObs) :
    (sentPackets R routing g past).length +
        ((serverLog R routing g obs).filterMap ServerEntry.start).length ≤
      (sentPackets R routing g (past ++ obs)).length := by
  rw [sentPackets_append]
  generalize sentPackets R routing g past = l
  induction serverLog R routing g obs generalizing l with
  | nil => exact le_rfl
  | cons e es ih =>
      refine le_trans ?_ (ih (recordSent l e))
      cases e with
      | requested slot =>
          simp only [List.filterMap_cons, ServerEntry.start, recordSent,
            List.length_cons]
          omega
      | sent slot notice data =>
          have hle := length_pushNewest_ge (notice, data) l
          simp only [List.filterMap_cons, ServerEntry.start, recordSent]
          omega
      | _ =>
          have hle := length_ite_nil_ge l
          simp only [List.filterMap_cons, ServerEntry.start, recordSent]
          omega

theorem length_reportedPackets_mono (g : GoalId) (past obs : List ClientObs) :
    (reportedPackets g past).length ≤
      (reportedPackets g (past ++ obs)).length := by
  rw [reportedPackets_append]
  generalize reportedPackets g past = l
  induction clientLog g obs generalizing l with
  | nil => exact le_rfl
  | cons e es ih =>
      refine le_trans ?_ (ih (recordReport l e))
      cases e with
      | sent => exact Nat.le_succ _
      | reported notice data => exact length_pushNewest_ge _ l
      | _ => exact length_ite_nil_ge l

/-! ## One Action -/

namespace Linked

variable {R : PduRegistry} {p : ActionPair}
  {past : List (ClientObs ⊕ ServerObs)}

open ServerActionInstance

/-- A poll takes the packet in front of the queue.  It gives the application a
Goal Request for the Goal, or the packet it took is none. -/
theorem server_poll (h : Linked R p past) (net : SendOracle) (g : GoalId) :
    let next := (instanceMachine R).step p.right (.poll net)
    (serverLog R p.right.endpoint.slotRouting g next.2).filterMap
        ServerEntry.start ≠ [] ∨
      (p.right.endpoint.pendingPackets = [] ∧
        next.1.endpoint.pendingPackets = []) ∨
      ∃ packet, p.right.endpoint.pendingPackets =
          packet :: next.1.endpoint.pendingPackets ∧
        ∀ r, requestIn R p.right.endpoint g packet = some r →
          r.kind = .cancel := by
  intro next
  have hcase := poll_cases (R := R) h.server.invariant net
  have hnext : next = ((p.right.pollEndpoint R net).state,
      p.right.pollObs R net) := rfl
  generalize (p.right.pollEndpoint R net).state = right at hcase hnext
  generalize (p.right.pollEndpoint R net).result = result at hcase
  generalize p.right.pollObs R net = obs at hcase hnext
  have hcancel {packet : ServerPendingPacket} {header : ActionRequestHeader}
      (hread : p.right.endpoint.readRequest R packet = some header)
      (hkind : header.requestKind = requestKindCancel) :
      ∀ r, requestIn R p.right.endpoint g packet = some r →
        r.kind = .cancel := by
    intro r hr
    rw [requestIn_of_read hread, if_pos hkind] at hr
    split_ifs at hr
    cases hr
    rfl
  rw [hnext]
  cases hcase with
  | idle hempty => exact Or.inr (Or.inl ⟨hempty, hempty⟩)
  | invalid hqueue hread =>
      refine Or.inr (Or.inr ⟨_, hqueue, fun r hr => ?_⟩)
      simp [requestIn, hread] at hr
  | cancelIgnored hqueue hread hkind =>
      exact Or.inr (Or.inr ⟨_, hqueue, hcancel hread hkind⟩)
  | goalError hqueue hread hkind hreason =>
      have hnone := h.goalErrorReason_eq_none hqueue hread hkind
      simp [hnone] at hreason
  | @goalRequest packet rest header _ hqueue hread hkind hreason hrest
      hupdate =>
      by_cases hg : header.goalId = g
      · refine Or.inl ?_
        simp [serverLog, serverEntry, packetEvent, hg, ServerEntry.start]
      · refine Or.inr (Or.inr ⟨packet, by rw [hrest, hqueue], fun r hr => ?_⟩)
        rw [requestIn_of_read hread, if_neg hg] at hr
        cases hr
  | @cancelRequest packet rest header b _ hqueue hread hkind hb hslot hstate
      hpending hcontext hrest hupdate =>
      exact Or.inr (Or.inr
        ⟨packet, by rw [hrest, hqueue], hcancel hread hkind⟩)
  | @cancelSwallowed packet rest header b _ hqueue hread hkind hb hslot hstate
      hpending hcontext hrest hupdate =>
      exact Or.inr (Or.inr
        ⟨packet, by rw [hrest, hqueue], hcancel hread hkind⟩)

/-- A call of the server application leaves the queue alone. -/
theorem server_call (h : Linked R p past) (net : SendOracle)
    (call : ServerCall) :
    ((instanceMachine R).step p.right
        (.call net call)).1.endpoint.pendingPackets =
      p.right.endpoint.pendingPackets := by
  simp only [instanceMachine]
  split_ifs
  · obtain ⟨hstate, -⟩ | ⟨-, hqueue⟩ :=
      call_cases (R := R) h.server.invariant net call
    · rw [hstate]
    · exact hqueue
  · rfl

end Linked

/-! ## The services -/

/-- A poll of the server that gets to the Action: no Action before it has
something to report. -/
def ServerPolls (R : PduRegistry) (name : String) (s : ActionSystem) :
    SystemInput → Prop
  | .right (.poll net) =>
      ActionServicesServer.instanceInputs R name s.right (.poll net) ≠ []
  | _ => False

namespace ActionSystem

variable {R : PduRegistry} {name : String}

/-- A step of the server services is, for an Action, a step of that Action or no
step at all. -/
theorem right_step {s : ActionSystem} (hs : (projection R name).Good s)
    {i : ServerInput} (hi : ActionServicesServer.ClientOnly s.right i) :
    let inputs := ActionServicesServer.instanceInputs R name s.right i
    let next := (serverMachine R).step s.right i
    ActionServicesServer.viewAction name next.1 =
        (instanceMachine R).run (s.action name).right inputs ∧
      next.2.flatMap (Fleet.observe name) =
        (instanceMachine R).trace (s.action name).right inputs := by
  intro inputs next
  let P := ActionServicesServer.clientProjection R name
  exact ⟨P.view_step s.right i hi hs.1.2.1, P.trace_step s.right i hi hs.1.2.1⟩

theorem deliverRight_nil {s : ActionSystem} (hqueue : s.toRight = []) :
    (systemMachine R).step s .deliverRight = (s, []) := by
  simp [systemMachine, Duplex.machine, hqueue]

theorem deliverRight_eq {s : ActionSystem} {m : Transmission}
    {rest : List Transmission} (hqueue : s.toRight = m :: rest) :
    (systemMachine R).step s .deliverRight =
      Duplex.stepRight (serverMachine R) systemWiring { s with toRight := rest }
        (.receive m.1 m.2) := by
  simp [systemMachine, Duplex.machine, hqueue, systemWiring]

/-- A delivery puts its requests behind those that the server has. -/
theorem deliverRight_cons {s : ActionSystem} (hs : (projection R name).Good s)
    {m : Transmission} {rest : List Transmission}
    (hqueue : s.toRight = m :: rest) :
    let next := ((systemMachine R).step s .deliverRight).1
    next.toRight = rest ∧
      (next.action name).right.endpoint.pendingPackets =
        (s.action name).right.endpoint.pendingPackets ++
          serverArrivals (s.action name).right.endpoint.slotRouting m := by
  have hstep := right_step hs (i := .receive m.1 m.2) ⟨by simp, by simp⟩
  rw [deliverRight_eq hqueue]
  refine ⟨rfl, ?_⟩
  change (ActionServicesServer.viewAction name
    ((serverMachine R).step s.right (.receive m.1 m.2)).1).endpoint.pendingPackets
      = _
  rw [hstep.1]
  rfl

/-- A delivery to the client leaves the server alone. -/
theorem deliverLeft_right (s : ActionSystem) :
    let next := ((systemMachine R).step s .deliverLeft).1
    next.right = s.right ∧ ∃ more, next.toRight = s.toRight ++ more := by
  cases hqueue : s.toLeft with
  | nil =>
      rw [deliverLeft_nil hqueue]
      exact ⟨rfl, [], by simp⟩
  | cons m rest =>
      rw [deliverLeft_eq hqueue]
      exact ⟨rfl, _, rfl⟩

end ActionSystem

namespace Running

variable {R : PduRegistry} {name : String} {routing : List SlotRouting}
  {s : ActionSystem}

/-- What a step of the server services does to the queue of an Action. -/
theorem right_cases (h : Running R name routing s) {i : ServerInput}
    (hi : RegularInput (.right i)) (g : GoalId) :
    let next := (systemMachine R).step s (.right i)
    (serverLog R routing g (serverTrace name next.2)).filterMap
        ServerEntry.start ≠ [] ∨
      (¬ServerPolls R name s (.right i) ∨
          (s.action name).right.endpoint.pendingPackets = []) ∧
        (next.1.action name).right.endpoint.pendingPackets =
          (s.action name).right.endpoint.pendingPackets ∨
      ∃ packet, (s.action name).right.endpoint.pendingPackets =
          packet :: (next.1.action name).right.endpoint.pendingPackets ∧
        ∀ r, requestIn R (s.action name).right.endpoint g packet = some r →
          r.kind = .cancel := by
  intro next
  obtain ⟨past, hlinked⟩ := h.linked
  obtain ⟨hview, htrace⟩ := ActionSystem.right_step h.good
    (admitted_of_regular (s := s) hi)
  have hright : (next.1.action name).right =
      ActionServicesServer.viewAction name
        ((serverMachine R).step s.right i).1 := rfl
  have hobs : serverTrace name next.2 =
      ((serverMachine R).step s.right i).2.flatMap (Fleet.observe name) :=
    congrArg (List.flatMap (Fleet.observe name)) (Duplex.rights_inr _)
  rw [hright, hview, hobs, htrace, ← h.slotRouting_eq]
  have hpolls : ServerPolls R name s (.right i) →
      ActionServicesServer.instanceInputs R name s.right i ≠ [] := by
    cases i with
    | poll net => exact id
    | _ => exact False.elim
  have hinputs_eq : (ActionSystem.projection R name).inputs s (.right i) =
      (ActionServicesServer.instanceInputs R name s.right i).map
        Duplex.Input.right := rfl
  have hone : (ActionServicesServer.instanceInputs R name s.right i).length ≤
      1 := by
    have hlength := ActionSystem.length_inputs_le (R := R) hi h.good
    rwa [hinputs_eq, List.length_map] at hlength
  have hregular := ActionSystem.regular_inputs (R := R) hi h.good
  rw [hinputs_eq] at hregular
  cases hinputs : ActionServicesServer.instanceInputs R name s.right i with
  | nil =>
      exact Or.inr (Or.inl ⟨Or.inl fun hpoll => hpolls hpoll hinputs, rfl⟩)
  | cons j rest =>
      obtain rfl : rest = [] := by
        rw [hinputs] at hone
        exact List.length_eq_zero_iff.mp (by simpa using hone)
      have hmem : j ∈ ActionServicesServer.instanceInputs R name s.right i := by
        rw [hinputs]
        exact List.mem_singleton_self j
      have hj : RegularPairInput (.right j) :=
        hregular _ (List.mem_map_of_mem hmem)
      rw [Machine.run_cons, Machine.run_nil, Machine.trace_cons,
        Machine.trace_nil, List.append_nil]
      cases ActionServicesServer.ForAction.of_mem hmem with
      | poll net =>
          obtain htaken | ⟨hempty, hempty'⟩ | hpopped :=
            hlinked.server_poll net g
          · exact Or.inl htaken
          · exact Or.inr (Or.inl ⟨Or.inr hempty, hempty'.trans hempty.symm⟩)
          · exact Or.inr (Or.inr hpopped)
      | call net call =>
          exact Or.inr (Or.inl ⟨Or.inl id, hlinked.server_call net call⟩)
      | runtimeCancel => exact hj.elim
      | receive | stop | clear => exact hi.elim

theorem not_wanted {ep : ActionServerEndpointImpl}
    (h : Running R name ep.slotRouting s) {g : GoalId}
    {packet : ServerPendingPacket}
    (hother : ∀ r, requestIn R (s.action name).right.endpoint g packet =
      some r → r.kind = .cancel) :
    ((requestIn R ep g packet).any fun r => r.kind = .goal) = false := by
  rw [requestIn_congr R h.slotRouting_eq] at hother
  cases hin : requestIn R ep g packet with
  | none => rfl
  | some r => simp [hother r hin]

end Running

/-- The Goal Requests for a Goal on their way to the server: behind the transport
is the queue of the Action. -/
def serverTransit (R : PduRegistry) (name : String)
    (ep : ActionServerEndpointImpl) (g : GoalId) :
    (systemMachine R).Transit Transmission ServerPendingPacket where
  admitted s i := RegularInput i ∧ Running R name ep.slotRouting s
  transport s := s.toRight
  mailbox s := (s.action name).right.endpoint.pendingPackets
  arrives := serverArrivals ep.slotRouting
  wanted packet := (requestIn R ep g packet).any fun r => r.kind = .goal
  delivers _ i := i = .deliverRight
  takes := ServerPolls R name
  taken obs := (serverLog R ep.slotRouting g (serverTrace name obs)).filterMap
    ServerEntry.start ≠ []
  moves := by
    rintro s i ⟨hi, hs⟩
    cases i with
    | left i => exact Or.inr (.sent _ _ _)
    | right i =>
        obtain htaken | ⟨-, hsame⟩ | ⟨packet, hqueue, hother⟩ :=
          hs.right_cases hi g
        · exact Or.inl htaken
        · rw [hsame]
          exact Or.inr (.same _ _ _ _)
        · rw [hqueue]
          exact Or.inr (.taken packet _ _ (hs.not_wanted hother))
    | deliverLeft =>
        obtain ⟨hright, more, htransport⟩ :=
          ActionSystem.deliverLeft_right (R := R) s
        have hsame : (((systemMachine R).step s .deliverLeft).1.action
            name).right = (s.action name).right :=
          congrArg (ActionServicesServer.viewAction name) hright
        rw [hsame, htransport]
        exact Or.inr (.sent _ _ _)
    | deliverRight =>
        refine Or.inr ?_
        cases hqueue : s.toRight with
        | nil =>
            rw [ActionSystem.deliverRight_nil hqueue, hqueue]
            exact .same _ _ _ _
        | cons m rest =>
            obtain ⟨htransport, hmailbox⟩ :=
              ActionSystem.deliverRight_cons (R := R) hs.good hqueue
            rw [htransport, hmailbox, hs.slotRouting_eq]
            exact .delivered m rest _
  delivered := by
    rintro s i m rest ⟨hi, hs⟩ rfl hqueue
    rw [← hs.slotRouting_eq]
    exact Or.inr (ActionSystem.deliverRight_cons hs.good hqueue)
  took := by
    rintro s i packet rest ⟨hi, hs⟩ hpolls hqueue
    cases i with
    | right i =>
        obtain htaken | ⟨hnot | hempty, -⟩ | ⟨packet', hqueue', hother⟩ :=
          hs.right_cases hi g
        · exact Or.inl htaken
        · exact absurd hpolls hnot
        · rw [hempty] at hqueue
          cases hqueue
        · rw [hqueue'] at hqueue
          obtain ⟨rfl, hrest⟩ := List.cons.inj hqueue
          exact Or.inr ⟨hs.not_wanted hother, rfl, hrest⟩
    | left | deliverLeft | deliverRight => exact hpolls.elim

/-- A Goal Request that is under way is on the transport or in the queue of the
Action. -/
theorem Running.goal_underWay {R : PduRegistry} {name : String}
    {ep : ActionServerEndpointImpl} {s : ActionSystem}
    (h : Running R name ep.slotRouting s) {g : GoalId}
    (hgoal : ∃ r ∈ ActionPair.requests R (s.action name) g, r.kind = .goal) :
    (serverTransit R name ep g).descent.busy s := by
  obtain ⟨r, hr, hkind⟩ := hgoal
  obtain ⟨packet, hpacket, hin⟩ := List.mem_filterMap.mp hr
  have hwanted : (serverTransit R name ep g).wanted packet = true := by
    change (requestIn R ep g packet).any _ = true
    rw [← requestIn_congr R h.slotRouting_eq, hin]
    simp [hkind]
  rcases List.mem_append.mp hpacket with hpacket | hpacket
  · exact Or.inl (List.any_eq_true.mpr ⟨packet, hpacket, hwanted⟩)
  · obtain ⟨m, hm, harrives⟩ := List.mem_flatMap.mp hpacket
    rw [h.slotRouting_eq] at harrives
    exact Or.inr (List.any_eq_true.mpr ⟨m, (List.mem_filter.mp hm).1,
      List.any_eq_true.mpr ⟨packet, harrives, hwanted⟩⟩)

/-! ## Fair runs -/

/-- The transport delivers to the server and the server polls the Action, again
and again. -/
structure ServerFair (R : PduRegistry) (d : Deployment) (name : String)
    (schedule : ℕ → SystemInput) : Prop where
  delivers : (systemMachine R).Recurs (startedSystem R d) schedule
    fun _ i => i = .deliverRight
  polls : (systemMachine R).Recurs (startedSystem R d) schedule
    (ServerPolls R name)

theorem length_sentPackets_mono (R : PduRegistry) (name : String)
    (routing : List SlotRouting) (g : GoalId) (s : ActionSystem)
    (schedule : ℕ → SystemInput) :
    Monotone fun n => (sentPackets R routing g (serverTrace name
      ((systemMachine R).traceAt s schedule n))).length := by
  refine monotone_nat_of_le_succ fun n => ?_
  rw [(systemMachine R).traceAt_succ, serverTrace_append]
  exact le_trans (Nat.le_add_right _ _) (length_sentPackets_append R routing g _ _)

/-- Every Goal that the client has sent is given to the server application. -/
theorem ActionSystem.goals_given {R : PduRegistry} (hR : R.Lawful)
    {d : Deployment} {client : ClientActionInstance}
    (hclient : client ∈ (startedSystem R d).left.actions)
    {server : ServerActionInstance}
    (hserver : server ∈ (startedSystem R d).right.actions)
    (hname : client.actionName = server.actionName)
    {schedule : ℕ → SystemInput} (hregular : ∀ n, RegularInput (schedule n))
    (hfair : ServerFair R d server.actionName schedule) (g : GoalId) (n : ℕ) :
    ∃ m, n ≤ m ∧
      (reportedPackets g (clientTrace server.actionName
        ((systemMachine R).traceAt (startedSystem R d) schedule n))).length ≤
      (sentPackets R server.endpoint.slotRouting g (serverTrace
        server.actionName ((systemMachine R).traceAt (startedSystem R d)
          schedule m))).length := by
  let name := server.actionName
  let routing := server.endpoint.slotRouting
  let M := systemMachine R
  let start := startedSystem R d
  let sent := fun m => sentPackets R routing g
    (serverTrace name (M.traceAt start schedule m))
  let reported := fun m => reportedPackets g
    (clientTrace name (M.traceAt start schedule m))
  let descent := (serverTransit R name server.endpoint g).descent
  have hlink (m : ℕ) := by
    obtain ⟨hlinked, hrouting⟩ := linked_at hR hclient hserver hname hregular m
    have hgoal := hlinked.goals g
    rwa [goalView_observe, hrouting] at hgoal
  have hrunning := running_at hR hclient hserver hname hregular
  have hreported {m m' : ℕ} (hm : m ≤ m') :
      (reported m).length ≤ (reported m').length := by
    obtain ⟨more, hmore⟩ : ∃ more, M.traceAt start schedule m' =
        M.traceAt start schedule m ++ more := M.exists_traceAt_append hm
    dsimp only [reported]
    rw [hmore, clientTrace_append]
    exact length_reportedPackets_mono g _ _
  have hsent (m : ℕ) : (sent m).length + ((serverLog R routing g (serverTrace
      name (M.obsAt start schedule m))).filterMap ServerEntry.start).length ≤
        (sent (m + 1)).length := by
    dsimp only [sent]
    rw [M.traceAt_succ, serverTrace_append]
    exact length_sentPackets_append R routing g _ _
  have hadmitted (m : ℕ) :
      descent.admitted (M.stateAt start schedule m) (schedule m) :=
    ⟨hregular m, hrunning m⟩
  have hrecurs (place : Machine.Transit.Place) :
      M.Recurs start schedule (descent.acts place) := by
    cases place with
    | transport => exact hfair.delivers
    | mailbox => exact hfair.polls
  have hmono : Monotone fun m => (sent m).length :=
    length_sentPackets_mono R name routing g start schedule
  have htaken (m : ℕ) (h : descent.done (M.obsAt start schedule m)) :
      (sent m).length < (sent (m + 1)).length :=
    lt_of_lt_of_le (Nat.lt_add_of_pos_right (List.length_pos_iff.mpr h))
      (hsent m)
  have hbusy (m : ℕ) (hm : n ≤ m)
      (hless : (sent m).length < (reported n).length) :
      descent.busy (M.stateAt start schedule m) :=
    (hrunning m).goal_underWay
      ((hlink m).exists_goal (hless.trans_le (hreported hm)))
  exact descent.eventually_count hadmitted hrecurs hmono htaken hbusy

/-- Under every fair schedule, with any timeouts, every Goal Request that the
client sends for a Goal becomes an incarnation of it on the server: in the end
the server application was given as many `GOAL_REQUEST` events as the client had
sent requests. -/
theorem fair_run_gives_goals (R : PduRegistry) (hR : R.Lawful) (d : Deployment)
    (client : ClientActionInstance)
    (hclient : client ∈ (startedSystem R d).left.actions)
    (server : ServerActionInstance)
    (hserver : server ∈ (startedSystem R d).right.actions)
    (hname : client.actionName = server.actionName)
    (schedule : ℕ → SystemInput) (hschedule : ∀ n, RegularInput (schedule n))
    (hfair : ServerFair R d server.actionName schedule) (g : GoalId) (n : ℕ) :
    let seen := (systemMachine R).traceAt (startedSystem R d) schedule
    ∃ m, n ≤ m ∧
      (clientIncarnations g (clientTrace server.actionName (seen n))).length ≤
        (incarnations R server.endpoint.slotRouting g
          (serverTrace server.actionName (seen m))).length := by
  intro seen
  obtain ⟨m, hm, hgiven⟩ := ActionSystem.goals_given hR hclient hserver hname
    hschedule hfair g n
  refine ⟨m, hm, ?_⟩
  simpa only [reportedPackets, sentPackets, List.length_map] using hgiven

/-- The notice that ends a Goal. -/
def Notice.Ends : Notice → Prop
  | .goalResponse .rejected => True
  | .result _ => True
  | _ => False

/-- The packets of an incarnation tell of its end. -/
def TellsEnd (packets : List (Notice × PduData)) : Prop :=
  ∃ packet ∈ packets, packet.1.Ends

theorem TellsEnd.mono {packets packets' : List (Notice × PduData)}
    (h : TellsEnd packets) (hpre : packets <+: packets') :
    TellsEnd packets' := by
  obtain ⟨packet, hmem, hends⟩ := h
  exact ⟨packet, hpre.subset hmem, hends⟩

/-- The server application ends every Goal that it was given: sooner or later
it sends a rejection or a Result for it. -/
def EndsGoals (R : PduRegistry) (d : Deployment) (name : String)
    (routing : List SlotRouting) (schedule : ℕ → SystemInput) (g : GoalId) :
    Prop :=
  let sent := fun n => sentPackets R routing g (serverTrace name
    ((systemMachine R).traceAt (startedSystem R d) schedule n))
  ∀ n k, k < (sent n).length →
    ∃ m, n ≤ m ∧ TellsEnd ((sent m).reverse[k]?.getD [])

/-- Without timeouts and under every schedule that is fair to both sides: when
the server application ends every Goal that it is given, every Goal that the
client sends comes to an end for the client, with a rejection or a Result. -/
theorem fair_run_ends_goals (R : PduRegistry) (hR : R.Lawful) (d : Deployment)
    (client : ClientActionInstance)
    (hclient : client ∈ (startedSystem R d).left.actions)
    (server : ServerActionInstance)
    (hserver : server ∈ (startedSystem R d).right.actions)
    (hname : client.actionName = server.actionName)
    (schedule : ℕ → SystemInput)
    (hschedule : ∀ n, RegularInput (schedule n) ∧ UntimedInput (schedule n))
    (hserverFair : ServerFair R d server.actionName schedule)
    (hclientFair : ClientFair R d server.actionName schedule) (g : GoalId)
    (hends : EndsGoals R d server.actionName server.endpoint.slotRouting
      schedule g) (n k : ℕ) :
    let seen := (systemMachine R).traceAt (startedSystem R d) schedule
    let reported := fun n => reportedPackets g
      (clientTrace server.actionName (seen n))
    k < (reported n).length →
      ∃ m, n ≤ m ∧ TellsEnd ((reported m).reverse[k]?.getD []) := by
  intro seen reported hk
  obtain ⟨given, hgiven, hcount⟩ := ActionSystem.goals_given hR hclient hserver
    hname (fun n => (hschedule n).1) hserverFair g n
  obtain ⟨ended, hended, htells⟩ := hends given k (hk.trans_le hcount)
  obtain ⟨m, hm, hall⟩ := ActionSystem.continues_reports hR hclient hserver
    hname (fun n => (hschedule n).1) (fun n => (hschedule n).2) hclientFair g
    ended
  exact ⟨m, (hgiven.trans hended).trans hm,
    htells.mono (hall.getElem_prefix k)⟩

section Sample

theorem endlessGoals_serverFair :
    ServerFair sampleRegistry sampleDeployment sampleServerAction.actionName
      endlessGoals where
  delivers := (systemMachine sampleRegistry).recurs_of_round
    endlessGoals_period endlessGoals_round (by decide) (n := 1) rfl
  polls := (systemMachine sampleRegistry).recurs_of_round
    endlessGoals_period endlessGoals_round (by decide) (n := 2)
      (List.ne_nil_of_length_pos (by decide +kernel))

/-- Both Goals that the client has sent in the first ten steps of `endlessGoals`
are given to the server. -/
theorem endlessGoals_given :
    let seen := (systemMachine sampleRegistry).traceAt
      (startedSystem sampleRegistry sampleDeployment) endlessGoals
    let name := sampleServerAction.actionName
    (clientIncarnations sampleGoalId (clientTrace name (seen 10))).length = 2 ∧
      ∃ m, 10 ≤ m ∧
        (clientIncarnations sampleGoalId (clientTrace name (seen 10))).length ≤
          (incarnations sampleRegistry sampleServerAction.endpoint.slotRouting
            sampleGoalId (serverTrace name (seen m))).length :=
  ⟨by decide +kernel,
    fair_run_gives_goals sampleRegistry (layoutRegistry_lawful _)
      sampleDeployment sampleClientAction (List.head_mem _) sampleServerAction
      (List.head_mem _) (by decide +kernel) endlessGoals
      (fun n => (endlessGoals_regular n).1) endlessGoals_serverFair
      sampleGoalId 10⟩

/-- What the server logs of one Goal of `endlessGoals`. -/
theorem endlessGoals_log : ∃ accepted result,
    serverLog sampleRegistry sampleServerAction.endpoint.slotRouting
        sampleGoalId (serverTrace sampleServerAction.actionName
          ((systemMachine sampleRegistry).traceAt
            (startedSystem sampleRegistry sampleDeployment) endlessGoals 9)) =
      [.requested 0, .sent 0 (.goalResponse .accepted) accepted,
        .committed .succeeded, .sent 0 (.result .succeeded) result,
        .released] :=
  ⟨_, _, rfl⟩

/-- In `endlessGoals` the server completes every Goal. -/
theorem endlessGoals_endsGoals :
    EndsGoals sampleRegistry sampleDeployment sampleServerAction.actionName
      sampleServerAction.endpoint.slotRouting endlessGoals sampleGoalId := by
  unfold EndsGoals
  intro sent n k hk
  obtain ⟨accepted, result, hlog⟩ := endlessGoals_log
  let packets : List (Notice × PduData) :=
    [(.goalResponse .accepted, accepted), (.result .succeeded, result)]
  have hrounds (j : ℕ) : sent (9 * j) = List.replicate j packets := by
    induction j with
    | zero => rfl
    | succ j ih =>
        dsimp only [sent] at ih ⊢
        rw [(systemMachine sampleRegistry).traceAt_mul_succ
          endlessGoals_period endlessGoals_round, serverTrace_append,
          sentPackets_append, ih, hlog, List.replicate_succ]
        rfl
  have hle : (sent n).length ≤ (sent (9 * (n + 1))).length :=
    length_sentPackets_mono sampleRegistry _ _ _ _ endlessGoals (by omega)
  refine ⟨9 * (n + 1), by omega, ?_⟩
  rw [hrounds, List.length_replicate] at hle
  rw [hrounds, List.reverse_replicate,
    List.getElem?_replicate_of_lt (by omega)]
  exact ⟨(.result .succeeded, result), by simp [packets], trivial⟩

/-- The second Goal of `endlessGoals` comes to its end for the client. -/
theorem endlessGoals_ended :
    let seen := (systemMachine sampleRegistry).traceAt
      (startedSystem sampleRegistry sampleDeployment) endlessGoals
    let reported := fun n => reportedPackets sampleGoalId
      (clientTrace sampleServerAction.actionName (seen n))
    1 < (reported 10).length ∧
      ∃ m, 10 ≤ m ∧ TellsEnd ((reported m).reverse[1]?.getD []) :=
  ⟨by decide +kernel,
    fair_run_ends_goals sampleRegistry (layoutRegistry_lawful _)
      sampleDeployment sampleClientAction (List.head_mem _) sampleServerAction
      (List.head_mem _) (by decide +kernel) endlessGoals endlessGoals_regular
      endlessGoals_serverFair endlessGoals_clientFair sampleGoalId
      endlessGoals_endsGoals 10 1 (by decide +kernel)⟩

end Sample

end HakoPduRpc.Action
