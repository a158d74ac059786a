import HakoPduRpc.Action.LinkedRuns

/-!
# What client and server agree on

Two services started with the same configuration document, joined by a transport
that keeps the order.  In every run of calls, polls and deliveries:

* the Result of a Goal is the one that the server committed, also when a Cancel
  crosses it on the way (`cancel_result_race`);
* the client reports exactly what the server sent, as long as no Goal Response is
  waited for with a timeout (`no_server_packet_lost`);
* the server never rejects a Goal Request on its own, and a late Cancel does not
  reach a later Goal with the same id (`slots_and_goal_ids_agree`).
-/

namespace HakoPduRpc.Action

/-! ## The system after its start -/

/-- What the two services are started with. -/
structure Deployment where
  clientNodeId : String
  clientImplType : String
  clientEndpointExists : String → Bool
  serverNodeId : String
  serverImplType : String
  serverEndpointExists : String → Bool
  /-- The configuration document, read by both sides. -/
  root : Json

/-- The two services after `initialize_services`, with nothing under way. -/
def startedSystem (R : PduRegistry) (d : Deployment) : ActionSystem where
  left := startedClient R d.clientNodeId d.clientImplType
    d.clientEndpointExists d.root
  right := startedServer R d.serverNodeId d.serverImplType
    d.serverEndpointExists d.root
  toLeft := []
  toRight := []

/-- What the client showed of an Action. -/
def clientTrace (name : String)
    (trace : List ((String × ClientObs) ⊕ (String × ServerObs))) :
    List ClientObs :=
  (Duplex.lefts trace).flatMap (Fleet.observe name)

/-- What the server showed of an Action. -/
def serverTrace (name : String)
    (trace : List ((String × ClientObs) ⊕ (String × ServerObs))) :
    List ServerObs :=
  (Duplex.rights trace).flatMap (Fleet.observe name)

/-- The two sides of an Action and its share of the transport. -/
def ActionSystem.action (name : String) (s : ActionSystem) : ActionPair :=
  Duplex.share (ActionServicesClient.viewAction name)
    (ActionServicesServer.viewAction name) (belongsTo name) s

namespace ActionSystem

variable {R : PduRegistry}

theorem lefts_observe (name : String)
    (trace : List ((String × ClientObs) ⊕ (String × ServerObs))) :
    Duplex.lefts (trace.flatMap (projection R name).observe) =
      clientTrace name trace :=
  Duplex.lefts_flatMap _ _ _

theorem rights_observe (name : String)
    (trace : List ((String × ClientObs) ⊕ (String × ServerObs))) :
    Duplex.rights (trace.flatMap (projection R name).observe) =
      serverTrace name trace :=
  Duplex.rights_flatMap _ _ _

/-- The view of a Goal, with the traces of the services. -/
theorem goalView_observe (name : String) (p : ActionPair)
    (trace : List ((String × ClientObs) ⊕ (String × ServerObs))) (g : GoalId) :
    goalView R p (trace.flatMap (projection R name).observe) g =
      { client := p.left.binding g
        server := p.right.binding g
        requests := ActionPair.requests R p g
        deliveries := ActionPair.deliveries R p g
        reported := reportedPackets g (clientTrace name trace)
        sent := sentPackets R p.right.endpoint.slotRouting g
          (serverTrace name trace)
        asked := requestKinds (clientLog g (clientTrace name trace)) } := by
  rw [goalView, lefts_observe, rights_observe]

section Started

variable {d : Deployment} {client : ClientActionInstance}
  (hclient : client ∈ (startedSystem R d).left.actions)
  {server : ServerActionInstance}
  (hserver : server ∈ (startedSystem R d).right.actions)
  (hname : client.actionName = server.actionName)

include hclient hserver hname

theorem good_started :
    (projection R server.actionName).Good (startedSystem R d) := by
  obtain ⟨hnodup, hfresh⟩ := ActionServicesClient.startedClient_ok R
    d.clientNodeId d.clientImplType d.clientEndpointExists d.root
  obtain ⟨hnodup', hfresh'⟩ := ActionServicesServer.startedServer_ok R
    d.serverNodeId d.serverImplType d.serverEndpointExists d.root
  have hpending := ActionServicesServer.pendingRuntimeEvents_started R
    d.serverNodeId d.serverImplType d.serverEndpointExists d.root
  have hget := ActionServicesClient.getAction_of_mem hnodup hclient
  rw [hname] at hget
  have hget' := ActionServicesServer.getAction_of_mem hnodup' hserver
  refine ⟨⟨⟨⟨hnodup, client, hget⟩, ?_⟩, ⟨⟨hnodup', server, hget'⟩, hpending⟩,
    ?_⟩, trivial⟩
  · exact ActionServicesClient.invariant_started ..
  · exact ActionServicesServer.invariant_started ..

/-- The view of an Action at the start. -/
theorem action_started :
    action server.actionName (startedSystem R d) =
      { left := client
        right := server
        toLeft := []
        toRight := [] } := by
  obtain ⟨⟨⟨⟨hnodup, -⟩, -⟩, ⟨⟨hnodup', -⟩, -⟩, -⟩, -⟩ :=
    good_started hclient hserver hname
  have hget := ActionServicesClient.getAction_of_mem hnodup hclient
  rw [hname] at hget
  have hget' := ActionServicesServer.getAction_of_mem hnodup' hserver
  simp only [action, Duplex.share, ActionServicesClient.viewAction, hget,
    ActionServicesServer.viewAction, hget', Option.getD_some]
  rfl

/-- The run of the system as a run of the Action. -/
theorem run_action {D : SystemInput → Prop} {E : PairInput → Prop}
    (hD : ∀ i, D i → RegularInput i)
    (hE : ∀ s i, D i → (projection R server.actionName).Good s →
      ∀ j ∈ (projection R server.actionName).inputs s i, E j)
    {is : List SystemInput} (his : ∀ i ∈ is, D i) :
    ∃ js, (actionMachine R).Along (fun _ j => E j)
        { left := client, right := server, toLeft := [], toRight := [] } js ∧
      action server.actionName ((systemMachine R).run (startedSystem R d) is) =
        (actionMachine R).run
          { left := client, right := server, toLeft := [], toRight := [] } js ∧
      ((systemMachine R).trace (startedSystem R d) is).flatMap
          (projection R server.actionName).observe =
        (actionMachine R).trace
          { left := client, right := server, toLeft := [], toRight := [] }
          js := by
  let P := (projection R server.actionName).restrict (D := fun _ i => D i)
    (fun _ i hi => hD i hi) (fun _ => True) (fun _ _ _ _ => trivial)
  have hgood : P.Good (startedSystem R d) :=
    ⟨good_started hclient hserver hname, trivial⟩
  have hrun : (systemMachine R).Along (fun _ i => D i) (startedSystem R d) is :=
    (systemMachine R).along_of_forall (fun i hi _ => his i hi) _
  obtain ⟨hview, htrace⟩ := P.project hgood hrun
  have hinputs := P.along_runInputs (D := fun _ j => E j)
    (fun s i hi hs => (actionMachine R).along_of_forall
      (fun j hj _ => hE s i hi hs.1 j hj) _) hgood hrun
  have hstart : P.view (startedSystem R d) =
      { left := client, right := server, toLeft := [], toRight := [] } :=
    action_started hclient hserver hname
  rw [hstart] at hview htrace hinputs
  exact ⟨_, hinputs, hview, htrace⟩

theorem linked_started :
    Linked R
      { left := client, right := server, toLeft := [], toRight := [] } [] := by
  obtain ⟨-, hclients⟩ := ActionServicesClient.startedClient_configured R
    d.clientNodeId d.clientImplType d.clientEndpointExists d.root
  obtain ⟨-, hservers⟩ := ActionServicesServer.startedServer_configured R
    d.serverNodeId d.serverImplType d.serverEndpointExists d.root
  obtain ⟨hfresh, hrouting⟩ := hclients client hclient
  obtain ⟨hfresh', hrouting'⟩ := hservers server hserver
  rw [hname, hrouting', Option.some.injEq] at hrouting
  exact Linked.of_fresh hfresh hfresh' hrouting.symm

/-- Every Action of the system stays linked. -/
theorem linked_run (hR : R.Lawful) {is : List SystemInput}
    (his : ∀ i ∈ is, RegularInput i) :
    Linked R
        (action server.actionName ((systemMachine R).run (startedSystem R d) is))
        (((systemMachine R).trace (startedSystem R d) is).flatMap
          (projection R server.actionName).observe) ∧
      (action server.actionName ((systemMachine R).run (startedSystem R d)
        is)).right.endpoint.slotRouting = server.endpoint.slotRouting := by
  obtain ⟨js, hjs, hrun, htrace⟩ := run_action (E := RegularPairInput) hclient
    hserver hname (fun _ hi => hi) (fun _ _ hi hs => regular_inputs hi hs) his
  rw [hrun, htrace]
  exact (linked_started hclient hserver hname).run hR hjs

end Started

end ActionSystem

/-! ## Cancel and Result -/

/-- A Result ends the packets of its incarnation. -/
theorem WireGrammar.of_result {l : List Notice} (h : WireGrammar l)
    {status : TerminalStatus} (hmem : .result status ∈ l) :
    ∃ before, l = before ++ [.result status] ∧
      ((ExecutingOrder before ∧ (status = .succeeded ∨ status = .aborted)) ∨
        (CancelingOrder before ∧
          (status = .canceled ∨ status = .aborted))) := by
  obtain rfl | ⟨full, ⟨before, status', rfl, horder⟩, hpre⟩ := h
  · simp at hmem
  · rcases List.prefix_concat_iff.mp hpre with rfl | hpre
    · have hbefore : .result status ∉ before := by
        rcases horder with ⟨horder, -⟩ | ⟨horder, -⟩
        · exact horder.notMem.1 status
        · exact horder.mem.1 status
      have hsame : status = status' := by
        simpa [hbefore] using hmem
      subst hsame
      exact ⟨before, rfl, horder⟩
    · have hbefore := hpre.subset hmem
      rcases horder with ⟨horder, -⟩ | ⟨horder, -⟩
      · exact absurd hbefore (horder.notMem.1 status)
      · exact absurd hbefore (horder.mem.1 status)

/-- What client and server agree on about one incarnation of a Goal: `reported`
is what the client reported of it, `entries` the log of the server. -/
structure RaceAgreement (reported : List Notice) (entries : List ServerEntry) :
    Prop where
  /-- The client reports at most one Result, and nothing after it. -/
  result_last : ∀ before status after,
    reported = before ++ .result status :: after →
      after = [] ∧ ∀ status', .result status' ∉ before
  /-- Its status is the one that the server committed. -/
  committed : ∀ status, .result status ∈ reported →
    ∀ status', .committed status' ∈ entries ↔ status' = status
  /-- An accepted Cancel is reported before the Result of a canceled Goal. -/
  accepted : .cancelAccepted ∈ entries → ∀ before status after,
    reported = before ++ .result status :: after →
      .cancelResponse .accepted ∈ before ∧
        (status = .canceled ∨ status = .aborted)
  /-- Without an accepted Cancel the Goal ends as if there had been none. -/
  notAccepted : .cancelAccepted ∉ entries →
    .cancelResponse .accepted ∉ reported ∧
      ∀ status, .result status ∈ reported →
        status = .succeeded ∨ status = .aborted

/-- What the client reports of an incarnation announces. -/
def reportedNotices (entries : List ClientEntry) : List Notice :=
  (reports entries).map Prod.fst

theorem Settled.agreement {s : Section ℕ ServerEntry} (h : Settled s)
    {reported : List Notice} (hpre : reported <+: notices s.entries) :
    RaceAgreement reported s.entries := by
  -- a reported Result is the last packet of the server
  have hresult : ∀ status, .result status ∈ reported → ∃ before,
      reported = before ++ [.result status] ∧
        ((ExecutingOrder before ∧ .cancelAccepted ∉ s.entries ∧
            (status = .succeeded ∨ status = .aborted)) ∨
          (CancelingOrder before ∧ .cancelAccepted ∈ s.entries ∧
            (status = .canceled ∨ status = .aborted))) := by
    intro status hmem
    obtain ⟨before, heq, horder⟩ :=
      h.grammar.of_result (hpre.subset hmem)
    have hall : reported = before ++ [.result status] := by
      rw [heq] at hpre
      rcases List.prefix_concat_iff.mp hpre with hall | hpre
      · exact hall
      · have hbefore := hpre.subset hmem
        rcases horder with ⟨horder, -⟩ | ⟨horder, -⟩
        · exact absurd hbefore (horder.notMem.1 status)
        · exact absurd hbefore (horder.mem.1 status)
    refine ⟨before, hall, ?_⟩
    rw [h.cancelAccepted, heq]
    rcases horder with ⟨horder, hstatus⟩ | ⟨horder, hstatus⟩
    · exact Or.inl ⟨horder, by simpa using horder.notMem.2, hstatus⟩
    · exact Or.inr ⟨horder, by simpa using horder.mem.2, hstatus⟩
  have hsplit : ∀ before status after,
      reported = before ++ .result status :: after →
        after = [] ∧ reported = before ++ [.result status] ∧
          ∀ status', .result status' ∉ before := by
    intro before status after heq
    obtain ⟨before', heq', horder⟩ := hresult status (by simp [heq])
    have hnone : ∀ status', .result status' ∉ before' := by
      rcases horder with ⟨horder, -⟩ | ⟨horder, -⟩
      · exact horder.notMem.1
      · exact horder.mem.1
    have hafter : after = [] := by
      by_contra hne
      have hinit : before ++ .result status :: after.dropLast = before' := by
        have hdrop := congrArg List.dropLast (heq.symm.trans heq')
        rw [List.dropLast_concat, List.dropLast_append_of_ne_nil (by simp),
          List.dropLast_cons_of_ne_nil hne] at hdrop
        exact hdrop
      exact hnone status (by simp [← hinit])
    subst hafter
    have hbefore : before = before' :=
      (List.append_left_inj _).mp (heq.symm.trans heq')
    exact ⟨rfl, heq, hbefore ▸ hnone⟩
  refine ⟨fun before status after heq => ?_, fun status hmem status' => ?_,
    fun haccepted before status after heq => ?_, fun haccepted => ⟨?_, ?_⟩⟩
  · obtain ⟨hafter, -, hnone⟩ := hsplit before status after heq
    exact ⟨hafter, hnone⟩
  · have hcommitted := h.committed status (hpre.subset hmem)
    exact ⟨fun hmem' => h.committed_unique status' status hmem' hcommitted,
      fun heq => heq ▸ hcommitted⟩
  · obtain ⟨-, heq', -⟩ := hsplit before status after heq
    obtain ⟨before', heq'', horder⟩ := hresult status (by simp [heq])
    obtain rfl : before = before' :=
      (List.append_left_inj _).mp (heq'.symm.trans heq'')
    rcases horder with ⟨-, hnot, -⟩ | ⟨horder, -, hstatus⟩
    · exact absurd haccepted hnot
    · exact ⟨horder.mem.2, hstatus⟩
  · rw [h.cancelAccepted] at haccepted
    exact fun hmem => haccepted (hpre.subset hmem)
  · intro status hmem
    obtain ⟨before, -, horder⟩ := hresult status hmem
    rcases horder with ⟨-, -, hstatus⟩ | ⟨-, hyes, -⟩
    · exact hstatus
    · exact absurd hyes haccepted

/-- The incarnations of a Goal on the two sides, counted from the oldest: what
the client and the server have of each of them is in agreement. -/
def RaceAgreements (R : PduRegistry) (routing : List SlotRouting) (g : GoalId)
    (client : List ClientObs) (server : List ServerObs) : Prop :=
  (incarnations R routing g server).length ≤
      (clientIncarnations g client).length ∧
    ∀ (k : ℕ) (c : Section Unit ClientEntry),
      (clientIncarnations g client).reverse[k]? = some c →
      ((incarnations R routing g server).reverse[k]? = none ∧
        reportedNotices c.entries = []) ∨
      ∃ s : Section ℕ ServerEntry,
        (incarnations R routing g server).reverse[k]? = some s ∧
        RaceAgreement (reportedNotices c.entries) s.entries

/-- In every run, the Result that the client reports for a Goal is the one that
the server committed, and the two sides agree on whether the Goal was
canceled. -/
theorem cancel_result_race (R : PduRegistry) (hR : R.Lawful) (d : Deployment)
    (is : List SystemInput) (his : ∀ i ∈ is, RegularInput i)
    (client : ClientActionInstance)
    (hclient : client ∈ (startedSystem R d).left.actions)
    (server : ServerActionInstance)
    (hserver : server ∈ (startedSystem R d).right.actions)
    (hname : client.actionName = server.actionName) (g : GoalId) :
    let trace := (systemMachine R).trace (startedSystem R d) is
    RaceAgreements R server.endpoint.slotRouting g
      (clientTrace server.actionName trace)
      (serverTrace server.actionName trace) := by
  intro trace
  obtain ⟨hlinked, hrouting⟩ :=
    ActionSystem.linked_run hclient hserver hname hR his
  have hsettled := (hlinked.server.history g).settled
  rw [ActionSystem.rights_observe, hrouting] at hsettled
  have hlink := hlinked.goals g
  rw [ActionSystem.goalView_observe, hrouting] at hlink
  constructor
  · simpa [reportedPackets, sentPackets] using hlink.length_sent_le
  · intro k c hc
    have hpre := hlink.reported_prefix (k := k) (c := reports c.entries) (by
      dsimp only
      rw [reportedPackets, ← List.map_reverse, List.getElem?_map, hc]
      rfl)
    dsimp only at hpre
    rw [sentPackets, ← List.map_reverse, List.getElem?_map] at hpre
    rcases hpre with ⟨hnone, hempty⟩ | ⟨l, hl, hpre⟩
    · exact Or.inl ⟨Option.map_eq_none_iff.mp hnone, by
        rw [reportedNotices, hempty, List.map_nil]⟩
    · obtain ⟨s, hs, rfl⟩ := Option.map_eq_some_iff.mp hl
      refine Or.inr ⟨s, hs, (hsettled s ?_).agreement (hpre.map Prod.fst)⟩
      exact List.mem_reverse.mp (List.mem_of_getElem? hs)

/-- The sample configuration with one slot. -/
def sampleDeployment : Deployment where
  clientNodeId := "fibonacci-client"
  clientImplType := "ActionClientEndpointImpl"
  clientEndpointExists := fun _ => true
  serverNodeId := "fibonacci-server"
  serverImplType := "ActionServerEndpointImpl"
  serverEndpointExists := fun _ => true
  root := fibonacciConfiguration 1

theorem sampleDeployment_client_ne_nil :
    (startedSystem sampleRegistry sampleDeployment).left.actions ≠ [] :=
  List.ne_nil_of_length_pos (by decide +kernel)

theorem sampleDeployment_server_ne_nil :
    (startedSystem sampleRegistry sampleDeployment).right.actions ≠ [] :=
  List.ne_nil_of_length_pos (by decide +kernel)

/-- The client side of the sample Action. -/
def sampleClientAction : ClientActionInstance :=
  (startedSystem sampleRegistry sampleDeployment).left.actions.head
    sampleDeployment_client_ne_nil

/-- The server side of the sample Action. -/
def sampleServerAction : ServerActionInstance :=
  (startedSystem sampleRegistry sampleDeployment).right.actions.head
    sampleDeployment_server_ne_nil

/-- A Cancel crosses the Result of its Goal; the next Goal with the same id is
canceled, after a first acceptance that could not be sent. -/
def crossingCancel : List SystemInput :=
  let net : SendOracle := fun _ _ => true
  let lost : SendOracle := fun _ _ => false
  let send : SystemInput :=
    .left (.sendGoal net 0 "fibonacci" samplePacket sampleGoalId 0)
  let cancel : SystemInput :=
    .left (.sendCancel net "fibonacci" ⟨sampleGoalId⟩)
  let clientPoll : SystemInput := .left (.poll fun _ => 0)
  let serverPoll : SystemInput := .right (.poll net)
  let call (call : ServerCall) : SystemInput :=
    .right (.call net "fibonacci" call)
  [send, .deliverRight, serverPoll, call (.acceptGoal ⟨sampleGoalId⟩),
    .deliverLeft, clientPoll, cancel,
    call (.complete ⟨sampleGoalId⟩ .succeeded samplePacket),
    .deliverLeft, clientPoll, send, .deliverRight, serverPoll, .deliverRight, serverPoll,
    call (.acceptGoal ⟨sampleGoalId⟩), .deliverLeft, clientPoll, cancel,
    .deliverRight, serverPoll,
    .right (.call lost "fibonacci" (.acceptCancel ⟨sampleGoalId⟩)),
    call (.acceptCancel ⟨sampleGoalId⟩),
    call (.complete ⟨sampleGoalId⟩ .canceled samplePacket),
    .deliverLeft, .deliverLeft, clientPoll, clientPoll]

theorem crossingCancel_regular : ∀ i ∈ crossingCancel, RegularInput i := by
  simp only [crossingCancel, List.forall_mem_cons, RegularInput,
    ServerCall.Remote, List.not_mem_nil, false_imp_iff, implies_true, and_self]

/-- What the client reports of `crossingCancel`, and that the two sides agree on
it. -/
theorem crossingCancel_agreement :
    let trace := (systemMachine sampleRegistry).trace
      (startedSystem sampleRegistry sampleDeployment) crossingCancel
    ((clientIncarnations sampleGoalId
        (clientTrace sampleServerAction.actionName trace)).map
          fun c => reportedNotices c.entries) =
      [[.goalResponse .accepted, .cancelResponse .accepted, .result .canceled],
        [.goalResponse .accepted, .result .succeeded]] ∧
    RaceAgreements sampleRegistry sampleServerAction.endpoint.slotRouting
      sampleGoalId (clientTrace sampleServerAction.actionName trace)
      (serverTrace sampleServerAction.actionName trace) :=
  ⟨by decide +kernel,
    cancel_result_race sampleRegistry (layoutRegistry_lawful _)
      sampleDeployment crossingCancel crossingCancel_regular
      sampleClientAction (List.head_mem _) sampleServerAction (List.head_mem _)
      (by decide +kernel) sampleGoalId⟩

/-! ## Nothing that the server sent is lost -/

/-- Goal Requests are sent without a timeout. -/
def UntimedInput : SystemInput → Prop
  | .left (.sendGoal _ _ _ _ _ timeoutUsec) => timeoutUsec = 0
  | _ => True

/-- The same, seen by one Action. -/
def UntimedPairInput : PairInput → Prop
  | .left (.sendGoal _ _ _ _ timeoutUsec) => timeoutUsec = 0
  | _ => True

/-- No Goal of the Action is waited for with a timeout. -/
def ClientActionInstance.Untimed (inst : ClientActionInstance) : Prop :=
  ∀ g b, inst.binding g = some b →
    b.timeoutUsec = 0 ∧ b.state ≠ .goalResponseTimedOut

theorem ActionSystem.untimed_inputs {R : PduRegistry} {name : String}
    {s : ActionSystem} {i : SystemInput} (hi : RegularInput i)
    (huntimed : UntimedInput i) :
    ∀ j ∈ (projection R name).inputs s i, UntimedPairInput j := by
  cases i with
  | left i =>
      intro j hj
      obtain ⟨k, hk, rfl⟩ := List.mem_map.mp hj
      change k ∈ ActionServicesClient.instanceInputs R name s.left i at hk
      cases ActionServicesClient.ForAction.of_mem hk with
      | sendGoal => exact huntimed
      | poll | sendCancel => trivial
      | receive | stop | clear => exact hi.elim
  | right i =>
      intro j hj
      obtain ⟨k, -, rfl⟩ := List.mem_map.mp hj
      trivial
  | deliverLeft | deliverRight =>
      intro j hj
      simp only [projection, Machine.Projection.restrict, Duplex.projection,
        Duplex.shareInputs] at hj
      split_ifs at hj
      · rw [List.mem_singleton.mp hj]
        trivial
      · simp at hj

namespace ClientActionInstance

variable {R : PduRegistry} {inst inst' : ClientActionInstance}

theorem Untimed.update (h : inst.Untimed) {g : GoalId}
    {b : Option ClientPacketBinding} (hupdate : GoalUpdate inst inst' g b)
    (hb : ∀ x ∈ b, x.timeoutUsec = 0 ∧ x.state ≠ .goalResponseTimedOut) :
    inst'.Untimed := by
  intro g' b' hb'
  rw [hupdate.binding_eq] at hb'
  split_ifs at hb'
  · exact hb b' hb'
  · exact h g' b' hb'

theorem timeoutUsec_of_advance {b b' : ClientPacketBinding} {n : Notice}
    (h : b.advance n = some (some b')) : b'.timeoutUsec = b.timeoutUsec := by
  cases n <;> simp only [ClientPacketBinding.advance] at h <;>
    split_ifs at h <;> cases h <;> rfl

/-- Without timeouts no Goal is ever given up. -/
theorem Untimed.step (h : inst.Untimed) (hinv : inst.Invariant)
    {i : ClientInstanceInput}
    (hi : RegularPairInput (.left i) ∨ ∃ key data, i = .receive key data)
    (huntimed : UntimedPairInput (.left i)) :
    ((clientInstanceMachine R).step inst i).1.Untimed := by
  cases i with
  | receive key data => exact h
  | poll now =>
      have hcase := poll_cases (R := R) hinv now
      change (inst.pollEndpoint R now).1.Untimed
      generalize (inst.pollEndpoint R now).1 = inst' at hcase ⊢
      generalize (inst.pollEndpoint R now).2 = result at hcase
      cases hcase with
      | @reported packet rest p b b' hqueue hdecode hb hslot hadvance
          hupdate =>
          have hpopped : (inst.popped rest).Untimed := h
          refine hpopped.update hupdate ?_
          rintro b' rfl
          exact ⟨(timeoutUsec_of_advance hadvance).trans (h _ _ hb).1,
            (ClientPacketBinding.state_of_advance hadvance).2⟩
      | idle hskip hinst =>
          rw [hinst]
          exact h
      | timedOut hskip hb htimeout hupdate =>
          have hne :=
            (ActionClientEndpointImpl.responseTimedOut_iff.mp htimeout).2.1
          exact absurd (h _ _ hb).1 hne
  | sendGoal net now pdu g timeoutUsec =>
      simp only [clientInstanceMachine]
      split_ifs
      · generalize hsend :
          inst.sendGoalWithResult R net now pdu g timeoutUsec = o
        obtain ⟨-, hstate, -⟩ | ⟨slot, key, data, -, -, -, -, hupdate⟩ :=
          sendGoalWithResult_cases hinv hsend
        · rw [hstate]
          exact h
        · refine h.update hupdate ?_
          rintro x ⟨⟩
          exact ⟨huntimed, by simp [ActionClientEndpointImpl.sentBinding]⟩
      · exact h
  | sendCancel net goal =>
      simp only [clientInstanceMachine]
      split_ifs
      · generalize hsend : inst.sendCancel R net goal = o
        obtain ⟨-, hstate, -⟩ | ⟨b, key, data, -, -, hb, -, -, hupdate⟩ :=
          sendCancel_cases hinv hsend
        · rw [hstate]
          exact h
        · refine h.update hupdate ?_
          rintro x ⟨⟩
          exact ⟨(h _ _ hb).1, by simp⟩
      · exact h
  | stop | clear =>
      rcases hi with hi | ⟨_, _, hi⟩
      · exact hi.elim
      · cases hi

end ClientActionInstance

theorem Linked.untimed_step {R : PduRegistry} {p : ActionPair}
    {past : List (ClientObs ⊕ ServerObs)} (h : Linked R p past)
    (huntimed : p.left.Untimed) {i : PairInput} (hi : RegularPairInput i)
    (hi' : UntimedPairInput i) :
    ((actionMachine R).step p i).1.left.Untimed := by
  cases i with
  | left i => exact huntimed.step h.client (Or.inl hi) hi'
  | right i => exact huntimed
  | deliverLeft =>
      simp only [actionMachine, Duplex.machine]
      split
      · exact huntimed
      · exact huntimed.step h.client (Or.inr ⟨_, _, rfl⟩) trivial
  | deliverRight =>
      simp only [actionMachine, Duplex.machine]
      split <;> exact huntimed

/-- What the client reported of the incarnations of a Goal, counted from the
oldest, is an initial part of what the server sent for them, packet by packet;
it is all of it when `arrived` says that nothing is under way. -/
def ReportsWhatIsSent (R : PduRegistry) (routing : List SlotRouting)
    (g : GoalId) (client : List ClientObs) (server : List ServerObs)
    (arrived : Prop) : Prop :=
  ∀ k : ℕ,
    ((reportedPackets g client).reverse[k]?.getD [] <+:
      (sentPackets R routing g server).reverse[k]?.getD []) ∧
    (arrived → (reportedPackets g client).reverse[k]?.getD [] =
      (sentPackets R routing g server).reverse[k]?.getD [])

/-- In every run in which Goals are sent without a timeout, the client reports
the packets of the server one by one and in order, and it has reported all of
them when none is under way.  Every packet of the server counts. -/
theorem no_server_packet_lost (R : PduRegistry) (hR : R.Lawful) (d : Deployment)
    (is : List SystemInput) (his : ∀ i ∈ is, RegularInput i ∧ UntimedInput i)
    (client : ClientActionInstance)
    (hclient : client ∈ (startedSystem R d).left.actions)
    (server : ServerActionInstance)
    (hserver : server ∈ (startedSystem R d).right.actions)
    (hname : client.actionName = server.actionName) :
    let s := (systemMachine R).run (startedSystem R d) is
    let trace := (systemMachine R).trace (startedSystem R d) is
    (∀ errorReply key data,
      .effect (.send errorReply key data true) ∈
          serverTrace server.actionName trace →
        errorReply = false ∧ ∃ packet,
          decodePacket R server.endpoint.slotRouting key data = some packet) ∧
    ∀ g, ReportsWhatIsSent R server.endpoint.slotRouting g
      (clientTrace server.actionName trace)
      (serverTrace server.actionName trace)
      (s.toLeft = [] ∧ (ActionServicesClient.viewAction server.actionName
        s.left).endpoint.pendingPackets = []) := by
  intro s trace
  obtain ⟨hlinked, hrouting⟩ := ActionSystem.linked_run hclient hserver hname hR
    fun i hi => (his i hi).1
  have huntimed : (ActionSystem.action server.actionName s).left.Untimed := by
    obtain ⟨js, hjs, hrun, -⟩ := ActionSystem.run_action
      (D := fun i => RegularInput i ∧ UntimedInput i)
      (E := fun j => RegularPairInput j ∧ UntimedPairInput j) hclient hserver
      hname (fun _ hi => hi.1) (fun s i hi hs j hj =>
        ⟨ActionSystem.regular_inputs hi.1 hs j hj,
          ActionSystem.untimed_inputs hi.1 hi.2 j hj⟩) his
    have hstart := ActionSystem.linked_started hclient hserver hname
    have hfresh : client.Untimed := by
      intro g b hb
      obtain ⟨hnodup, hfresh⟩ := ActionServicesClient.startedClient_ok R
        d.clientNodeId d.clientImplType d.clientEndpointExists d.root
      rw [ClientActionInstance.binding, (hfresh client hclient).endpoint_eq]
        at hb
      cases hb
    have hinvariant := (actionMachine R).trace_invariant
      (I := fun q past => Linked R q past ∧ q.left.Untimed)
      (fun _ _ _ hi hI => ⟨hI.1.step hR hi.1,
        hI.1.untimed_step hI.2 hi.1 hi.2⟩) ⟨hstart, hfresh⟩ hjs
    rw [hrun]
    exact hinvariant.2
  constructor
  · intro errorReply key data hmem
    have hno := hlinked.noErrorReply
    have hdecodes := hlinked.server.decodes
    rw [ActionSystem.rights_observe] at hno hdecodes
    obtain rfl : errorReply = false := hno _ hmem
    rw [← hrouting]
    exact ⟨rfl, hdecodes key data hmem⟩
  · intro g k
    have hlink := hlinked.goals g
    rw [ActionSystem.goalView_observe, hrouting] at hlink
    constructor
    · cases hc : (reportedPackets g
          (clientTrace server.actionName trace)).reverse[k]? with
      | none => exact List.nil_prefix
      | some c =>
          obtain ⟨-, rfl⟩ | ⟨l, hl, hpre⟩ := hlink.reported_prefix hc
          · exact List.nil_prefix
          · dsimp only at hl
            rw [hl]
            exact hpre
    · rintro ⟨htransport, hpending⟩
      refine hlink.reported_all ?_ (fun b hb => (huntimed g b hb).2) k
      have hqueue : ActionPair.clientQueue
          (ActionSystem.action server.actionName s) = [] := by
        simp only [ActionPair.clientQueue, ActionSystem.action, Duplex.share,
          htransport, hpending, List.filter_nil, List.flatMap_nil,
          List.append_nil]
      dsimp only
      rw [ActionPair.deliveries, hqueue, List.filterMap_nil]

theorem crossingCancel_untimed : ∀ i ∈ crossingCancel, UntimedInput i := by
  simp only [crossingCancel, List.forall_mem_cons, UntimedInput,
    List.not_mem_nil, false_imp_iff, implies_true, and_self]

/-- At the end of `crossingCancel` nothing is under way, and the client reported
all five packets of the server. -/
theorem crossingCancel_reported :
    let s := (systemMachine sampleRegistry).run
      (startedSystem sampleRegistry sampleDeployment) crossingCancel
    let trace := (systemMachine sampleRegistry).trace
      (startedSystem sampleRegistry sampleDeployment) crossingCancel
    let arrived := s.toLeft = [] ∧ (ActionServicesClient.viewAction
      sampleServerAction.actionName s.left).endpoint.pendingPackets = []
    (arrived ∧
      (sentPackets sampleRegistry sampleServerAction.endpoint.slotRouting
        sampleGoalId (serverTrace sampleServerAction.actionName trace)).map
          List.length = [3, 2]) ∧
    ReportsWhatIsSent sampleRegistry sampleServerAction.endpoint.slotRouting
      sampleGoalId (clientTrace sampleServerAction.actionName trace)
      (serverTrace sampleServerAction.actionName trace) arrived :=
  ⟨by decide +kernel,
    (no_server_packet_lost sampleRegistry (layoutRegistry_lawful _)
      sampleDeployment crossingCancel
      (fun i hi => ⟨crossingCancel_regular i hi, crossingCancel_untimed i hi⟩)
      sampleClientAction (List.head_mem _) sampleServerAction (List.head_mem _)
      (by decide +kernel)).2 sampleGoalId⟩

/-! ## Slots and Goal ids -/

/-- A step of the server dispatches a Cancel Request for a Goal: it makes the
Cancel decision pending, or it reports the event. -/
def CancelDispatched (before after : ServerActionInstance)
    (obs : List ServerObs) (g : GoalId) : Prop :=
  ((∃ x, after.binding g = some x ∧ x.cancelDecisionPending = true) ∧
      ∀ x, before.binding g = some x → x.cancelDecisionPending = false) ∨
    ∃ slot event, .event slot event ∈ obs ∧ event.type = .cancelRequest ∧
      event.goal.goalId = g

theorem not_cancelDispatched {before after : ServerActionInstance}
    {obs : List ServerObs} {g : GoalId}
    (hbinding : ∀ y, after.binding g = some y →
      y.cancelDecisionPending = true →
        ∃ x, before.binding g = some x ∧ x.cancelDecisionPending = true)
    (hobs : ∀ slot event, .event slot event ∈ obs →
      event.type = .cancelRequest → event.goal.goalId ≠ g) :
    ¬CancelDispatched before after obs g := by
  rintro (⟨⟨y, hy, hpending⟩, hnot⟩ | ⟨slot, event, hmem, htype, hgoal⟩)
  · obtain ⟨x, hx, hset⟩ := hbinding y hy hpending
    simp [hnot x hx] at hset
  · exact hobs slot event hmem htype hgoal

/-- A step that keeps the binding of the Goal and shows no event. -/
theorem not_cancelDispatched_of_eq {before after : ServerActionInstance}
    {obs : List ServerObs} {g : GoalId}
    (hbinding : after.binding g = before.binding g)
    (hobs : ∀ slot event, .event slot event ∉ obs) :
    ¬CancelDispatched before after obs g :=
  not_cancelDispatched
    (fun y hy hpending => ⟨y, hbinding.symm.trans hy, hpending⟩)
    (fun slot event hmem => absurd hmem (hobs slot event))

/-- A call of the server application dispatches no Cancel Request. -/
theorem ServerGoalStep.not_dispatched {R : PduRegistry}
    {routing : List SlotRouting} {g : GoalId}
    {b b' : Option ActionPacketBinding} {c c' : Option ServerGoalContext}
    {obs : List ServerObs} {es : List ServerEntry}
    (h : ServerGoalStep R routing g b c obs es b' c') {call : ServerCall}
    {result : Bool} (hobs : obs.getLast? = some (.returned call result)) :
    (∀ y, b' = some y → y.cancelDecisionPending = true →
      ∃ x, b = some x ∧ x.cancelDecisionPending = true) ∧
    ∀ slot event, .event slot event ∉ obs := by
  cases h with
  | commitOnly _ hfailed =>
      refine ⟨by simp [ActionServerEndpointImpl.committed], ?_⟩
      obtain rfl | ⟨key, data, rfl⟩ := hfailed <;> simp
  | request | cancelRequest | runtimeCancel | runtimeReclassify
  | cancelSwallowed => simp at hobs
  | _ => simp

namespace Linked

variable {R : PduRegistry} {p : ActionPair}
  {past : List (ClientObs ⊕ ServerObs)}

open ActionPair in
/-- A poll that dispatches a Cancel Request takes it from the front of the
queue. -/
theorem cancel_head_poll (h : Linked R p past) (net : SendOracle) {g : GoalId}
    (hdispatch : CancelDispatched p.right (p.right.pollEndpoint R net).state
      (p.right.pollObs R net) g) :
    ∃ r rest, requests R p g = r :: rest ∧ r.kind = .cancel ∧
      requests R (p.movedRight (p.right.pollEndpoint R net).state
        (p.right.pollObs R net)) g = rest := by
  have hcase := ServerActionInstance.poll_cases (R := R)
    h.server.invariant net
  generalize (p.right.pollEndpoint R net).state = right at hcase hdispatch ⊢
  generalize (p.right.pollEndpoint R net).result = result at hcase
  generalize p.right.pollObs R net = obs at hcase hdispatch ⊢
  cases hcase with
  | idle =>
      exact absurd hdispatch (not_cancelDispatched_of_eq rfl (by simp))
  | invalid =>
      exact absurd hdispatch (not_cancelDispatched_of_eq rfl (by simp))
  | cancelIgnored =>
      exact absurd hdispatch (not_cancelDispatched_of_eq rfl (by simp))
  | goalError hqueue hread hkind hreason =>
      have hnone := h.goalErrorReason_eq_none hqueue hread hkind
      simp [hnone] at hreason
  | goalRequest hqueue hread hkind hreason hrest hupdate =>
      refine absurd hdispatch (not_cancelDispatched ?_ ?_)
      · intro y hy hpending
        rw [hupdate.binding_eq] at hy
        split_ifs at hy
        · cases hy
          simp at hpending
        · exact ⟨y, hy, hpending⟩
      · simp [ServerActionInstance.packetEvent]
  | @cancelRequest packet rest header b _ hqueue hread hkind hb hslot hstate
      hpending hcontext hrest hupdate =>
      by_cases hg : header.goalId = g
      · have hhead := requests_of_read hqueue hread g
        rw [if_pos hg, if_pos hkind, List.singleton_append] at hhead
        have hafter := congrArg GoalView.requests
          (goalView_movedRight (R := R) [] _ [.event (some packet.slotIndex)
              (p.right.packetEvent .cancelRequest header.goalId packet)]
            hupdate.endpoint.slotRouting_eq g)
        dsimp only at hafter
        rw [hrest] at hafter
        exact ⟨_, _, hhead, rfl, hafter⟩
      · refine absurd hdispatch (not_cancelDispatched ?_ ?_)
        · intro y hy hset
          rw [hupdate.binding_eq, if_neg (Ne.symm hg)] at hy
          exact ⟨y, hy, hset⟩
        · simp [ServerActionInstance.packetEvent, hg]
  | cancelSwallowed hqueue hread hkind hb hslot hstate hpending hcontext =>
      exact absurd hcontext (h.server.client _)

theorem not_cancelDispatched_call (h : Linked R p past) (net : SendOracle)
    (call : ServerCall) (g : GoalId) :
    ¬CancelDispatched p.right
      ((instanceMachine R).step p.right (.call net call)).1
      ((instanceMachine R).step p.right (.call net call)).2 g := by
  simp only [instanceMachine]
  split_ifs
  · obtain ⟨hstate, hquiet⟩ | ⟨⟨es, b, c, hgoal, hupdate⟩, -⟩ :=
      ServerActionInstance.call_cases (R := R) h.server.invariant net call
    · rw [hstate]
      refine not_cancelDispatched_of_eq rfl ?_
      intro slot event hmem
      obtain ⟨_, heq⟩ | ⟨_, _, heq⟩ := hquiet _ hmem <;> cases heq
    · obtain ⟨hbinding, hobs⟩ := hgoal.not_dispatched List.getLast?_concat
      refine not_cancelDispatched ?_
        (fun slot event hmem => absurd hmem (hobs slot event))
      intro y hy hpending
      rw [hupdate.binding_eq] at hy
      split_ifs at hy with hg
      · rw [hg]
        exact hbinding y hy hpending
      · exact ⟨y, hy, hpending⟩
  · exact not_cancelDispatched_of_eq rfl (by simp)

/-- A dispatched Cancel Request is the first request for its Goal under way. -/
theorem cancel_head (h : Linked R p past) {i : PairInput}
    (hi : RegularPairInput i) {g : GoalId}
    (hdispatch : CancelDispatched p.right ((actionMachine R).step p i).1.right
      (Duplex.rights ((actionMachine R).step p i).2) g) :
    ∃ r rest, ActionPair.requests R p g = r :: rest ∧ r.kind = .cancel ∧
      ActionPair.requests R ((actionMachine R).step p i).1 g = rest := by
  have hunmoved {q : ActionPair} {trace : List (ClientObs ⊕ ServerObs)}
      (hright : q.right.binding = p.right.binding)
      (htrace : Duplex.rights trace = []) :
      ¬CancelDispatched p.right q.right (Duplex.rights trace) g :=
    not_cancelDispatched_of_eq (congrFun hright g) (by simp [htrace])
  cases i with
  | left i => exact absurd hdispatch (hunmoved rfl (Duplex.rights_inl _))
  | deliverLeft =>
      refine absurd hdispatch (hunmoved ?_ ?_)
      · simp only [actionMachine, Duplex.machine]
        split <;> rfl
      · simp only [actionMachine, Duplex.machine]
        split
        · rfl
        · exact Duplex.rights_inl _
  | deliverRight =>
      refine absurd hdispatch (hunmoved ?_ ?_)
      · simp only [actionMachine, Duplex.machine]
        split <;> rfl
      · simp only [actionMachine, Duplex.machine]
        split <;> rfl
  | right i =>
      have hobs : Duplex.rights ((actionMachine R).step p (.right i)).2 =
          ((instanceMachine R).step p.right i).2 := Duplex.rights_inr _
      rw [hobs] at hdispatch
      cases i with
      | poll net => exact h.cancel_head_poll net hdispatch
      | call net call =>
          exact absurd hdispatch (h.not_cancelDispatched_call net call g)
      | receive | runtimeCancel | stop | clear => exact hi.elim

end Linked

/-- An Action takes part in a step of the system at most once. -/
theorem ActionSystem.length_inputs_le {R : PduRegistry} {name : String}
    {s : ActionSystem} {i : SystemInput} (hi : RegularInput i)
    (hs : (projection R name).Good s) :
    ((projection R name).inputs s i).length ≤ 1 := by
  cases i with
  | left i =>
      change ((ActionServicesClient.instanceInputs R name s.left i).map
        Duplex.Input.left).length ≤ 1
      rw [List.length_map]
      cases i with
      | poll clock => exact Fleet.length_scanInputs_le _ _
      | sendGoal | sendCancel =>
          simp only [ActionServicesClient.instanceInputs]
          split_ifs <;> simp
      | receive | stopAllServices | clearAllInstances => exact hi.elim
  | right i =>
      change ((ActionServicesServer.instanceInputs R name s.right i).map
        Duplex.Input.right).length ≤ 1
      rw [List.length_map]
      cases i with
      | poll net =>
          have hempty : s.right.pendingRuntimeEvents = [] := hs.1.2.1.2
          simp only [ActionServicesServer.instanceInputs, hempty,
            ActionServicesServer.runtimeInputs,
            ActionServicesServer.pollRuntimeEvents, Option.isSome_none,
            Bool.false_eq_true, if_false, List.nil_append]
          exact Fleet.length_scanInputs_le _ _
      | call =>
          simp only [ActionServicesServer.instanceInputs]
          split_ifs <;> simp
      | receive | stopAllServices | clearAllInstances
      | notifyTransportDisconnected => exact hi.elim
  | deliverLeft | deliverRight =>
      simp only [projection, Machine.Projection.restrict, Duplex.projection,
        Duplex.shareInputs]
      split_ifs <;> simp

/-- The Cancel Request that a step dispatches is the next request for the Goal
under way.  The client sent it after as many Goal Requests as the server has
taken: for the incarnation that is open on the server. -/
def CancelsOpenIncarnation (R : PduRegistry) (name : String) (g : GoalId)
    (before after : ActionSystem) (client : List ClientObs)
    (server : List ServerObs) : Prop :=
  ∃ taken rest,
    (ActionPair.requests R (before.action name) g).map Request.kind =
      .cancel :: rest ∧
    (ActionPair.requests R (after.action name) g).map Request.kind = rest ∧
    requestKinds (clientLog g client) = taken ++ .cancel :: rest ∧
    taken.count .goal = (incarnations R
      (before.action name).right.endpoint.slotRouting g server).length

/-- In every run, with any timeouts and any reuse of Goal ids, the server never
rejects a Goal Request of the client on its own, and every Cancel Request that it
dispatches was sent for the incarnation of the Goal that is open. -/
theorem slots_and_goal_ids_agree (R : PduRegistry) (hR : R.Lawful)
    (d : Deployment) (is : List SystemInput) (his : ∀ i ∈ is, RegularInput i)
    (client : ClientActionInstance)
    (hclient : client ∈ (startedSystem R d).left.actions)
    (server : ServerActionInstance)
    (hserver : server ∈ (startedSystem R d).right.actions)
    (hname : client.actionName = server.actionName) :
    let name := server.actionName
    let s := (systemMachine R).run (startedSystem R d) is
    let trace := (systemMachine R).trace (startedSystem R d) is
    (∀ o ∈ serverTrace name trace, o.errorReply = false) ∧
    ∀ i, RegularInput i → ∀ g,
      let next := (systemMachine R).step s i
      CancelDispatched (s.action name).right (next.1.action name).right
        (serverTrace name next.2) g →
      CancelsOpenIncarnation R name g s next.1 (clientTrace name trace)
        (serverTrace name trace) := by
  intro name s trace
  obtain ⟨hlinked, -⟩ := ActionSystem.linked_run hclient hserver hname hR his
  refine ⟨?_, ?_⟩
  · have hno := hlinked.noErrorReply
    rw [ActionSystem.rights_observe] at hno
    exact hno
  · intro i hi g next hdispatch
    let P := ActionSystem.projection R name
    have hgood : P.Good s :=
      (systemMachine R).invariant (C := fun _ i => RegularInput i)
        (fun s i hi hs => P.good_step s i hi hs)
        (ActionSystem.good_started hclient hserver hname)
        ((systemMachine R).along_of_forall (fun i hi _ => his i hi) _)
    have hview : next.1.action name =
        (actionMachine R).run (s.action name) (P.inputs s i) :=
      P.view_step s i hi hgood
    have hobs : serverTrace name next.2 =
        Duplex.rights ((actionMachine R).trace (s.action name)
          (P.inputs s i)) := by
      rw [← ActionSystem.rights_observe (R := R)]
      exact congrArg Duplex.rights (P.trace_step s i hi hgood)
    have hregular := ActionSystem.regular_inputs hi hgood
    have hlength := ActionSystem.length_inputs_le hi hgood
    change ((P.inputs s i).length ≤ 1) at hlength
    change ∀ j ∈ P.inputs s i, RegularPairInput j at hregular
    rw [CancelsOpenIncarnation, hview]
    rw [hview, hobs] at hdispatch
    generalize P.inputs s i = js at hdispatch hregular hlength
    rcases js with - | ⟨j, - | ⟨_, _⟩⟩
    · exact absurd hdispatch
        (not_cancelDispatched_of_eq rfl (by simp [Duplex.rights]))
    · simp only [Machine.run_cons, Machine.run_nil, Machine.trace_cons,
        Machine.trace_nil, List.append_nil] at hdispatch ⊢
      obtain ⟨r, rest, hhead, hkind, hafter⟩ :=
        hlinked.cancel_head (hregular j (by simp)) hdispatch
      have hlink := hlinked.goals g
      rw [ActionSystem.goalView_observe] at hlink
      obtain ⟨taken, hasked, hcount⟩ := hlink.taken_count
      dsimp only at hasked hcount
      rw [hhead, List.map_cons, hkind] at hasked
      refine ⟨taken, rest.map Request.kind, ?_, ?_, hasked, ?_⟩
      · rw [hhead, List.map_cons, hkind]
      · rw [hafter]
      · rw [hcount, sentPackets, List.length_map]
    · simp at hlength

/-- The poll of `crossingCancel` that dispatches the Cancel Request of the second
Goal.  The late Cancel of the first one was taken before. -/
theorem crossingCancel_cancels_open :
    let name := sampleServerAction.actionName
    let is := crossingCancel.take 20
    let s := (systemMachine sampleRegistry).run
      (startedSystem sampleRegistry sampleDeployment) is
    let trace := (systemMachine sampleRegistry).trace
      (startedSystem sampleRegistry sampleDeployment) is
    let next := (systemMachine sampleRegistry).step s
      (.right (.poll fun _ _ => true))
    CancelDispatched (s.action name).right (next.1.action name).right
      (serverTrace name next.2) sampleGoalId ∧
    CancelsOpenIncarnation sampleRegistry name sampleGoalId s next.1
      (clientTrace name trace) (serverTrace name trace) := by
  intro name is s trace next
  have hbefore : (s.action name).right.binding sampleGoalId =
      some { goalId := sampleGoalId, slotIndex := 0, state := .goalAccepted } :=
    by decide +kernel
  have hafter : (next.1.action name).right.binding sampleGoalId =
      some
        { goalId := sampleGoalId
          slotIndex := 0
          state := .goalAccepted
          cancelDecisionPending := true } := by
    decide +kernel
  have hdispatch : CancelDispatched (s.action name).right
      (next.1.action name).right (serverTrace name next.2) sampleGoalId := by
    refine Or.inl ⟨⟨_, hafter, rfl⟩, fun x hx => ?_⟩
    rw [hbefore] at hx
    cases hx
    rfl
  exact ⟨hdispatch,
    (slots_and_goal_ids_agree sampleRegistry (layoutRegistry_lawful _)
      sampleDeployment is
      (fun i hi => crossingCancel_regular i (List.mem_of_mem_take hi))
      sampleClientAction (List.head_mem _) sampleServerAction (List.head_mem _)
      (by decide +kernel)).2 (.right (.poll fun _ _ => true)) trivial
      sampleGoalId hdispatch⟩

end HakoPduRpc.Action
