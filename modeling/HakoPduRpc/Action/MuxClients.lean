import HakoPduRpc.Action.MuxConnections
import HakoPduRpc.Action.LinkedAgreement
import HakoPduRpc.Lib.Hub

/-!
# Clients of the multiplexing server

A client and the connection of the multiplexing server that it talks to.  The
environment does everything else: it delivers packets of other clients, connects
and disconnects them, and the application calls the server for any Goal of any
client.

`connectionProjection` says that a connection of which no disconnect is seen is a
server by itself, so that the client and its connection are the two services of
`systemMachine`: what these two agree on, the client and the multiplexing server
agree on, whatever the other clients do.
-/

namespace HakoPduRpc.Action

open KeyedList

/-! ## The wire of a connection -/

namespace ActionServicesServer

variable {R : PduRegistry}

theorem map_actionName_run (s : ActionServicesServer) (is : List ServerInput) :
    ((serverMachine R).run s is).actions.map (·.actionName) =
      s.actions.map (·.actionName) := by
  induction is generalizing s with
  | nil => rfl
  | cons i is ih => exact (ih _).trans (map_actionName_step s i)

/-- The history of an Action of services that were started and then only
served. -/
theorem history_serving (hR : R.Lawful) {nodeId implType : String}
    {endpointExists : String → Bool} {root : Json} {is : List ServerInput}
    (his : ∀ i ∈ is, i.Serving) {inst : ServerActionInstance}
    (hinst : inst ∈ ((serverMachine R).run
      (startedServer R nodeId implType endpointExists root) is).actions) :
    ServerActionInstance.History R inst.endpoint.slotRouting inst
      (((serverMachine R).trace
          (startedServer R nodeId implType endpointExists root) is).flatMap
        (Fleet.observe inst.actionName)) := by
  obtain ⟨hnodup, hfresh⟩ :=
    startedServer_ok R nodeId implType endpointExists root
  have hpending := pendingRuntimeEvents_started R nodeId implType
    endpointExists root
  generalize startedServer R nodeId implType endpointExists root = start
    at hnodup hfresh hpending hinst ⊢
  have hnames := map_actionName_run (R := R) start is
  obtain ⟨fresh, hmem, hname⟩ : ∃ fresh ∈ start.actions,
      fresh.actionName = inst.actionName :=
    List.mem_map.mp (hnames ▸ List.mem_map_of_mem hinst)
  have hclient : (serverMachine R).Along ClientOnly start is :=
    (serverMachine R).along_of_forall (fun i hi _ => by
      have hi' := his i hi
      constructor
      · rintro rfl
        exact hi'
      · rintro rfl
        exact hi') start
  have hhistory := history_run hR hnodup hpending hmem (hfresh fresh hmem)
    hclient
  have hview : viewAction inst.actionName ((serverMachine R).run start is) =
      inst := by
    have hget := getAction_of_mem (hnames ▸ hnodup) hinst
    simp [viewAction, hget]
  rw [hname, hview] at hhistory
  rw [hhistory.slotRouting_eq]
  exact hhistory

end ActionServicesServer

/-- In every run, the packets that the server sends on a connection are in wire
order for each incarnation of a Goal, as long as a disconnect of the connection
has not been handled: what happens on the other connections does not matter. -/
theorem mux_wire_order (R : PduRegistry) (hR : R.Lawful)
    (nodeId actionConfigPath endpointMuxConfigPath implType : String)
    (deltaTimeUsec : UInt64) (is : List MuxInput) (slot : ConnectionSlot)
    (hslot : slot ∈ ((muxMachine R).run
      (ActionServicesMuxServer.constructed nodeId actionConfigPath
        endpointMuxConfigPath implType deltaTimeUsec) is).slots)
    (hunprocessed : slot.disconnectProcessed = false)
    (inst : ServerActionInstance) (hinst : inst ∈ slot.server.actions) :
    ActionWireOrder R inst.endpoint.slotRouting
      ((connectionTrace slot.number ((muxMachine R).trace
        (ActionServicesMuxServer.constructed nodeId actionConfigPath
          endpointMuxConfigPath implType deltaTimeUsec) is)).flatMap
        (Fleet.observe inst.actionName)) := by
  have hrun := ActionServicesMuxServer.connections_run R nodeId actionConfigPath
    endpointMuxConfigPath implType deltaTimeUsec is
  have hfound := hrun.slotAt_of_mem hslot
  obtain ⟨hnone, -⟩ | ⟨root, js, -, hserved⟩ := hrun.connection slot.number
  · rw [hfound] at hnone
    cases hnone
  · have hserving := hserved.serving slot hfound hunprocessed
    rw [hserved.trace_eq, ActionServicesServer.filter_told _
      fun i hi => (hserving i hi).told]
    rw [hserved.server_eq slot hfound] at hinst
    have hhistory := ActionServicesServer.history_serving hR hserving hinst
    exact ⟨hhistory.decodes,
      fun g s hs => ((hhistory.history g).settled s hs).toWireOrder⟩

/-- Two connections request the same Goal, and the first one is served. -/
def servedGoal : List MuxInput :=
  let net : SendOracle := fun _ _ => true
  ActionServicesMuxServer.duplicateGoal true ++
    [.call net "fibonacci" (.acceptGoal ⟨sampleGoalId⟩),
      .call net "fibonacci" (.sendFeedback ⟨sampleGoalId⟩ samplePacket),
      .call net "fibonacci" (.complete ⟨sampleGoalId⟩ .succeeded samplePacket)]

theorem servedGoal_slots_ne_nil :
    ((muxMachine sampleRegistry).run ActionServicesMuxServer.sampleMux
      servedGoal).slots ≠ [] :=
  List.ne_nil_of_length_pos (by decide +kernel)

/-- The first connection of `servedGoal`. -/
def servedConnection : ConnectionSlot :=
  ((muxMachine sampleRegistry).run ActionServicesMuxServer.sampleMux
    servedGoal).slots.head servedGoal_slots_ne_nil

theorem servedConnection_actions_ne_nil :
    servedConnection.server.actions ≠ [] :=
  List.ne_nil_of_length_pos (by decide +kernel)

/-- The packets of the first connection of `servedGoal`, and that they are in
wire order. -/
theorem servedConnection_wire_order :
    let inst := servedConnection.server.actions.head
      servedConnection_actions_ne_nil
    let trace := (connectionTrace servedConnection.number
      ((muxMachine sampleRegistry).trace ActionServicesMuxServer.sampleMux
        servedGoal)).flatMap (Fleet.observe inst.actionName)
    (incarnations sampleRegistry inst.endpoint.slotRouting sampleGoalId
        trace).map (fun s => notices s.entries) =
      [[.goalResponse .accepted, .feedback 0, .result .succeeded]] ∧
    ActionWireOrder sampleRegistry inst.endpoint.slotRouting trace :=
  ⟨by decide +kernel,
    mux_wire_order sampleRegistry (layoutRegistry_lawful _) "fibonacci-server"
      "action.json" "mux.json" "ActionServerEndpointImpl" 1000 servedGoal
      servedConnection (List.head_mem _) (by decide +kernel) _
      (List.head_mem _)⟩

/-! ## A client and its connection -/

/-- The transport between a client and a connection of the server. -/
def connectionWiring (k : ℕ) : Duplex.Wiring ClientInput MuxStep
    (String × ClientObs) MuxObs Transmission where
  sendLeft o := clientSends o.2
  sendRight o := (connectionObs k o).flatMap fun seen => serverSends seen.2
  receiveLeft m := .receive m.1 m.2
  receiveRight m := .transport (.receive k m.1 m.2)

/-- A client and the multiplexing server. -/
abbrev ConnectedClient :=
  Duplex ActionServicesClient ActionServicesMuxServer Transmission

abbrev ConnectedInput := Duplex.Input ClientInput MuxStep

/-- A client and the multiplexing server over the transport of connection `k`;
everything that the server does otherwise is chosen by the environment. -/
def connectionMachine (R : PduRegistry) (k : ℕ) :
    Machine ConnectedClient ConnectedInput
      ((String × ClientObs) ⊕ MuxObs) :=
  Duplex.machine (clientMachine R) (muxStepMachine R) (connectionWiring k)

namespace ActionServicesMuxServer

variable {R : PduRegistry} {s : ActionServicesMuxServer} {k : ℕ}

/-- The slot of a connection. -/
def viewSlot (k : ℕ) (s : ActionServicesMuxServer) : ConnectionSlot :=
  (s.slotAt k).getD
    { number := k
      connectionId := Tickets.ticket k
      id_eq := rfl
      server := { nodeId := s.nodeId, implType := s.implType } }

theorem viewSlot_number (k : ℕ) (s : ActionServicesMuxServer) :
    (viewSlot k s).number = k := by
  unfold viewSlot
  cases hfound : s.slotAt k with
  | none => rfl
  | some slot => exact slotAt_number hfound

/-- The steps that keep a connection: neither it is disconnected nor the server
stopped. -/
def KeepsConnection (k : ℕ) (_ : ActionServicesMuxServer) (j : MuxStep) :
    Prop :=
  j ≠ .stop ∧ j ≠ .transport (.disconnect k)

/-- A connection is there and no disconnect of it has been seen. -/
structure Connected (k : ℕ) (s : ActionServicesMuxServer) : Prop extends
    Accounts s where
  connected : ∃ slot, s.slotAt k = some slot ∧ slot.disconnected = false

theorem Connected.unprocessed (h : Connected k s) {slot : ConnectionSlot}
    (hfound : s.slotAt k = some slot) :
    slot.disconnected = false ∧ slot.disconnectProcessed = false := by
  obtain ⟨slot', hslot', hconnected⟩ := h.connected
  rw [hfound, Option.some.injEq] at hslot'
  subst hslot'
  refine ⟨hconnected, ?_⟩
  by_contra hprocessed
  rw [Bool.not_eq_false] at hprocessed
  rw [(h.slots hfound).processed hprocessed] at hconnected
  cases hconnected

/-- A step that keeps a connection, seen from its services. -/
theorem Connected.step (h : Connected k s) {j : MuxStep}
    (hj : KeepsConnection k s j) :
    Connected k ((muxStepMachine R).step s j).1 ∧
      (viewSlot k ((muxStepMachine R).step s j).1).server =
        (serverMachine R).run (viewSlot k s).server
          (s.connectionInputs R (viewSlot k s) j) ∧
      connectionTrace k ((muxStepMachine R).step s j).2 =
        (serverMachine R).trace (viewSlot k s).server
          (s.connectionInputs R (viewSlot k s) j) := by
  obtain ⟨slot, hfound, hconnected⟩ := h.connected
  have hnumber := slotAt_number hfound
  have hview : viewSlot k s = slot := by
    rw [viewSlot, hfound]
    rfl
  obtain ⟨-, hunprocessed⟩ := h.unprocessed hfound
  subst hnumber
  obtain ⟨⟨slot', hfound', hserver, hkept⟩, htrace⟩ :=
    step_connection (R := R) h.toWellFormed hfound hj.1
  have hserving := serving_inputs (R := R) (j := j) h.toAccounts hfound
    hunprocessed (Or.inr hconnected)
  rw [ActionServicesServer.filter_told _ fun i hi => (hserving i hi).told]
    at htrace
  rw [hview]
  refine ⟨⟨h.toAccounts.step j, slot', hfound', ?_⟩, ?_, htrace⟩
  · rw [hkept hj.2, hconnected]
  · rw [viewSlot, hfound']
    exact hserver

/-- A connection of which no disconnect is seen is a server by itself. -/
def connectionProjection (R : PduRegistry) (k : ℕ) :
    Machine.Projection (muxStepMachine R) (serverMachine R)
      (KeepsConnection k) where
  Good := Connected k
  view s := (viewSlot k s).server
  inputs s j := s.connectionInputs R (viewSlot k s) j
  observe := connectionObs k
  good_step _ _ hj hs := (hs.step hj).1
  view_step _ _ hj hs := (hs.step hj).2.1
  trace_step _ _ hj hs := (hs.step hj).2.2

end ActionServicesMuxServer

/-- The steps of a client and of a server that keeps its connection; packets of
the connection only come from the client. -/
def ConnectionInput (k : ℕ) : ConnectedInput → Prop
  | .left (.poll _) => True
  | .left (.sendGoal ..) => True
  | .left (.sendCancel ..) => True
  | .left _ => False
  | .right .stop => False
  | .right (.transport (.disconnect k')) => k' ≠ k
  | .right (.transport (.receive k' _ _)) => k' ≠ k
  | .right _ => True
  | .deliverLeft => True
  | .deliverRight => True

/-- A client and its connection are the two services over a transport. -/
def ConnectedClient.projection (R : PduRegistry) (k : ℕ) :
    Machine.Projection (connectionMachine R k) (systemMachine R)
      (fun _ i => ConnectionInput k i) :=
  (Duplex.hub (ActionServicesMuxServer.connectionProjection R k)
    (W := connectionWiring k) systemWiring.sendRight
    systemWiring.receiveRight
    (by
      intro s x
      constructor <;> simp [connectionWiring])
    (fun _ => rfl)
    (by
      intro s x
      simp [connectionWiring, ActionServicesMuxServer.connectionProjection,
        ActionServicesMuxServer.connectionInputs,
        ActionServicesMuxServer.viewSlot_number, systemWiring])).restrict
    (by
      rintro s (i | j | _ | _) h
      · trivial
      · constructor
        · rintro rfl
          exact h
        · rintro rfl
          exact h rfl
      · trivial
      · trivial) (fun _ => True) (fun _ _ _ _ => trivial)

namespace ActionServicesMuxServer

/-- The services of a connection of which no disconnect is seen are polled and
called. -/
theorem regular_connectionInputs {R : PduRegistry} {s : ActionServicesMuxServer}
    (hs : s.Accounts) {slot : ConnectionSlot}
    (hfound : s.slotAt slot.number = some slot)
    (hunprocessed : slot.disconnectProcessed = false)
    (hconnected : slot.disconnected = false) {j : MuxStep}
    (hj : ∀ key data, j ≠ .transport (.receive slot.number key data)) :
    ∀ i ∈ s.connectionInputs R slot j, RegularInput (.right i) := by
  intro i hi
  have horphaned := ((hs.accounted hfound).unprocessed hunprocessed).1
  cases j with
  | transport event =>
      cases event with
      | receive k key data =>
          simp only [connectionInputs] at hi
          split_ifs at hi with hk
          · exact absurd (by rw [hk]) (hj key data)
          · simp at hi
      | disconnect k => simp [connectionInputs] at hi
  | processSlot k => simp [connectionInputs, processInputs, hconnected] at hi
  | pollSlot k poll reject =>
      simp only [connectionInputs, pollSlotInputs] at hi
      split_ifs at hi
      · simp at hi
      · rcases List.mem_cons.mp hi with rfl | hi
        · trivial
        · split at hi
          · simp at hi
          · split_ifs at hi
            · rw [List.mem_singleton.mp hi]
              trivial
            · simp at hi
      · simp at hi
  | call net name call =>
      rw [mem_callInputs_live hs.toWellFormed hfound horphaned hi, hconnected]
      cases call <;> trivial
  | acceptConnection | opened | started | stop =>
      simp [connectionInputs] at hi

end ActionServicesMuxServer

/-- The two services see only regular steps. -/
theorem ConnectedClient.regular_inputs {R : PduRegistry} {k : ℕ}
    {s : ConnectedClient} {i : ConnectedInput} (hi : ConnectionInput k i)
    (hs : (projection R k).Good s) :
    ∀ j ∈ (projection R k).inputs s i, RegularInput j := by
  intro j hj
  cases i with
  | left i =>
      obtain ⟨i', hi', rfl⟩ := List.mem_map.mp hj
      obtain rfl : i' = i := List.mem_singleton.mp hi'
      cases i' <;> trivial
  | right i =>
      obtain ⟨i', hi', rfl⟩ := List.mem_map.mp hj
      have hconnected := hs.1.2
      obtain ⟨slot, hfound, -⟩ := hconnected.connected
      obtain ⟨hlive, hunprocessed⟩ := hconnected.unprocessed hfound
      have hview : ActionServicesMuxServer.viewSlot k s.right = slot := by
        rw [ActionServicesMuxServer.viewSlot, hfound]
        rfl
      change i' ∈ s.right.connectionInputs R
        (ActionServicesMuxServer.viewSlot k s.right) i at hi'
      rw [hview] at hi'
      have hnumber := ActionServicesMuxServer.slotAt_number hfound
      refine ActionServicesMuxServer.regular_connectionInputs
        hconnected.toAccounts (hnumber ▸ hfound) hunprocessed hlive ?_ i' hi'
      rintro key data rfl
      exact hi hnumber
  | deliverLeft =>
      change j ∈ (if s.toLeft.head?.any (fun _ => true) then
        [Duplex.Input.deliverLeft] else []) at hj
      split_ifs at hj
      · rw [List.mem_singleton.mp hj]
        trivial
      · simp at hj
  | deliverRight =>
      change j ∈ (if s.toRight.head?.any (fun _ => true) then
        [Duplex.Input.deliverRight] else []) at hj
      split_ifs at hj
      · rw [List.mem_singleton.mp hj]
        trivial
      · simp at hj

/-! ## What a client and the server agree on -/

/-- What a client and the multiplexing server are started with. -/
structure MuxDeployment where
  clientNodeId : String
  clientImplType : String
  clientEndpointExists : String → Bool
  nodeId : String
  actionConfigPath : String
  endpointMuxConfigPath : String
  implType : String
  deltaTimeUsec : UInt64
  /-- The configuration document, read by the client and for its connection. -/
  root : Json

namespace MuxDeployment

/-- The server after construction. -/
def server (d : MuxDeployment) : ActionServicesMuxServer :=
  .constructed d.nodeId d.actionConfigPath d.endpointMuxConfigPath d.implType
    d.deltaTimeUsec

/-- The client and the services of its connection. -/
def pair (d : MuxDeployment) : Deployment where
  clientNodeId := d.clientNodeId
  clientImplType := d.clientImplType
  clientEndpointExists := d.clientEndpointExists
  serverNodeId := d.nodeId
  serverImplType := d.implType
  serverEndpointExists := fun _ => true
  root := d.root

/-- The step that accepts a connection after a run of the server. -/
def accept (R : PduRegistry) (d : MuxDeployment) (past : List MuxStep)
    (capacity : ℕ) : ActionServicesMuxServer × List MuxObs :=
  (muxStepMachine R).step ((muxStepMachine R).run d.server past)
    (.acceptConnection capacity (some d.root))

/-- The client and the server whose last step accepted its connection.  A client
that had been polled or called before is in a state that a run from here leads
to, too. -/
def start (R : PduRegistry) (d : MuxDeployment) (past : List MuxStep)
    (capacity : ℕ) : ConnectedClient where
  left := startedClient R d.clientNodeId d.clientImplType
    d.clientEndpointExists d.root
  right := (d.accept R past capacity).1
  toLeft := []
  toRight := []

variable {R : PduRegistry} {d : MuxDeployment} {past : List MuxStep}
  {capacity k : ℕ}

/-- The connection that was accepted is served by fresh services. -/
theorem connected_accept {c : UInt64}
    (h : .connected k c ∈ (d.accept R past capacity).2) :
    (d.accept R past capacity).1.Connected k ∧
      (ActionServicesMuxServer.viewSlot k
        (d.accept R past capacity).1).server =
        startedServer R d.nodeId d.implType (fun _ => true) d.root := by
  have hrun : ActionServicesMuxServer.Connections R (fun _ => True) d.server
      ((muxStepMachine R).run d.server past)
      ((muxStepMachine R).trace d.server past) :=
    (ActionServicesMuxServer.connections_constructed R _ _ _ _ _ _).run
      ((muxStepMachine R).along_of_forall
        (fun _ _ _ _ _ _ => trivial) d.server)
  have hafter : (d.accept R past capacity).1.Accounts :=
    hrun.toAccounts.step _
  simp only [accept] at h hafter ⊢
  generalize (muxStepMachine R).run d.server past = s at h hrun hafter ⊢
  simp only [muxStepMachine, ActionServicesMuxServer.acceptConnection] at h
  by_cases hfull : capacity ≤ s.connectedSlotCount
  · simp [hfull] at h
  · rw [if_neg hfull] at h
    split_ifs at h with hinitialized
    · rw [List.mem_singleton, MuxObs.connected.injEq] at h
      obtain ⟨rfl, rfl⟩ := h
      have hnone : s.slotAt s.issued = none := by
        by_contra hne
        obtain ⟨slot, hslot⟩ := Option.ne_none_iff_exists'.mp hne
        exact lt_irrefl _ (hrun.fresh hslot)
      have hfound : ((muxStepMachine R).step s (.acceptConnection capacity
          (some d.root))).1.slotAt s.issued =
          some (s.newSlot (startedServer R d.nodeId d.implType
            (fun _ => true) d.root)) := by
        have hnode : s.nodeId = d.nodeId := hrun.nodeId_eq
        have himpl : s.implType = d.implType := hrun.implType_eq
        simp only [muxStepMachine, ActionServicesMuxServer.acceptConnection]
        rw [if_neg hfull, if_pos hinitialized]
        unfold ActionServicesMuxServer.slotAt at hnone ⊢
        dsimp only
        rw [lookup_append_singleton, hnone, Option.none_or,
          if_pos (show (s.newSlot _).number = s.issued from rfl), hnode, himpl]
        rfl
      refine ⟨⟨hafter, _, hfound, rfl⟩, ?_⟩
      rw [ActionServicesMuxServer.viewSlot, hfound]
      rfl
    · simp at h

/-- A run of a client and its connection is a run of the two services. -/
theorem exists_system_run {c : UInt64}
    (h : .connected k c ∈ (d.accept R past capacity).2)
    {C : ConnectedInput → Prop} {E : SystemInput → Prop}
    (hC : ∀ i, C i → ConnectionInput k i)
    (hE : ∀ s i, C i → (ConnectedClient.projection R k).Good s →
      ∀ j ∈ (ConnectedClient.projection R k).inputs s i, E j)
    {is : List ConnectedInput} (his : ∀ i ∈ is, C i) :
    ∃ js, (∀ j ∈ js, E j) ∧
      ((systemMachine R).run (startedSystem R d.pair) js).left =
        ((connectionMachine R k).run (d.start R past capacity) is).left ∧
      ((systemMachine R).run (startedSystem R d.pair) js).toLeft =
        ((connectionMachine R k).run (d.start R past capacity) is).toLeft ∧
      Duplex.lefts ((systemMachine R).trace (startedSystem R d.pair) js) =
        Duplex.lefts ((connectionMachine R k).trace
          (d.start R past capacity) is) ∧
      Duplex.rights ((systemMachine R).trace (startedSystem R d.pair) js) =
        connectionTrace k (Duplex.rights ((connectionMachine R k).trace
          (d.start R past capacity) is)) := by
  obtain ⟨hconnected, hserver⟩ := connected_accept h
  let P := (ConnectedClient.projection R k).restrict (D := fun _ i => C i)
    (fun _ i hi => hC i hi) (fun _ => True) (fun _ _ _ _ => trivial)
  have hgood : P.Good (d.start R past capacity) :=
    ⟨⟨⟨trivial, hconnected⟩, trivial⟩, trivial⟩
  have hview : P.view (d.start R past capacity) = startedSystem R d.pair := by
    change Duplex.share id (fun s =>
      (ActionServicesMuxServer.viewSlot k s).server) (fun _ => true) _ = _
    simp only [Duplex.share, start, hserver, List.filter_nil]
    rfl
  have hrun : (connectionMachine R k).Along (fun _ i => C i)
      (d.start R past capacity) is :=
    (connectionMachine R k).along_of_forall (fun i hi _ => his i hi) _
  obtain ⟨hstate, htrace⟩ := P.project hgood hrun
  have hinputs := P.along_runInputs (D := fun _ j => E j)
    (fun s i hi hs => (systemMachine R).along_of_forall
      (fun j hj _ => hE s i hi hs.1 j hj) _) hgood hrun
  rw [hview] at hstate htrace hinputs
  refine ⟨_, (systemMachine R).forall_of_along hinputs, ?_, ?_, ?_, ?_⟩
  · rw [← hstate]
    rfl
  · rw [← hstate]
    exact List.filter_true _
  · rw [← htrace]
    refine (Duplex.lefts_flatMap _ _ _).trans ?_
    exact List.flatMap_singleton' _
  · rw [← htrace]
    exact Duplex.rights_flatMap _ _ _

end MuxDeployment

/-- What the client showed of an Action. -/
def connectedClientTrace (name : String)
    (trace : List ((String × ClientObs) ⊕ MuxObs)) : List ClientObs :=
  (Duplex.lefts trace).flatMap (Fleet.observe name)

/-- What the services of a connection showed of an Action. -/
def connectedServerTrace (k : ℕ) (name : String)
    (trace : List ((String × ClientObs) ⊕ MuxObs)) : List ServerObs :=
  (connectionTrace k (Duplex.rights trace)).flatMap (Fleet.observe name)

/-- In every run of a client over a connection that is not disconnected, the
Result that the client reports for a Goal is the one that was committed on its
connection, and the two sides agree on whether the Goal was canceled: whatever
the other connections are sent, and whichever Goals the application serves on
them. -/
theorem mux_cancel_result_race (R : PduRegistry) (hR : R.Lawful)
    (d : MuxDeployment) (past : List MuxStep) (capacity k : ℕ)
    {c : UInt64} (haccepted : .connected k c ∈ (d.accept R past capacity).2)
    (is : List ConnectedInput) (his : ∀ i ∈ is, ConnectionInput k i)
    (client : ClientActionInstance)
    (hclient : client ∈ (startedSystem R d.pair).left.actions)
    (server : ServerActionInstance)
    (hserver : server ∈ (startedSystem R d.pair).right.actions)
    (hname : client.actionName = server.actionName) (g : GoalId) :
    let trace := (connectionMachine R k).trace (d.start R past capacity) is
    RaceAgreements R server.endpoint.slotRouting g
      (connectedClientTrace server.actionName trace)
      (connectedServerTrace k server.actionName trace) := by
  intro trace
  obtain ⟨js, hjs, -, -, hlefts, hrights⟩ := MuxDeployment.exists_system_run
    haccepted (fun _ hi => hi)
    (fun _ _ hi hs => ConnectedClient.regular_inputs hi hs) his
  obtain ⟨hlinked, hrouting⟩ :=
    ActionSystem.linked_run hclient hserver hname hR hjs
  have hagree := hlinked.raceAgreements g
  rw [ActionSystem.lefts_observe, ActionSystem.rights_observe, hrouting,
    clientTrace, serverTrace, hlefts, hrights] at hagree
  exact hagree

/-- A server with another connection, and the client that connects next. -/
def sampleMuxDeployment : MuxDeployment where
  clientNodeId := "fibonacci-client"
  clientImplType := "ActionClientEndpointImpl"
  clientEndpointExists := fun _ => true
  nodeId := "fibonacci-server"
  actionConfigPath := "action.json"
  endpointMuxConfigPath := "mux.json"
  implType := "ActionServerEndpointImpl"
  deltaTimeUsec := 1000
  root := fibonacciConfiguration 1

/-- The server before the client connects. -/
def otherConnection : List MuxStep :=
  [.opened (some 2), .started true,
    .acceptConnection 2 (some (fibonacciConfiguration 1))]

/-- A Goal of the second client is canceled; meanwhile the first one requests a
Goal with the same id, is refused and goes away. -/
def secondClient : List ConnectedInput :=
  let net : SendOracle := fun _ _ => true
  let poll (k : ℕ) : ConnectedInput := .right (.pollSlot k net net)
  let call (call : MuxCall) : ConnectedInput :=
    .right (.call net "fibonacci" call)
  let clientPoll : ConnectedInput := .left (.poll fun _ => 0)
  [.left (.sendGoal net 0 "fibonacci" samplePacket sampleGoalId 0),
    .deliverRight, poll 1, call (.acceptGoal ⟨sampleGoalId⟩),
    .right (.transport (.receive 0 ⟨"fibonacci", 0⟩
      (sampleRequest requestKindGoal))), poll 0,
    .deliverLeft, clientPoll,
    .left (.sendCancel net "fibonacci" ⟨sampleGoalId⟩),
    .right (.transport (.disconnect 0)), .right (.processSlot 0),
    .deliverRight, poll 1, call (.acceptCancel ⟨sampleGoalId⟩),
    call (.complete ⟨sampleGoalId⟩ .canceled samplePacket),
    .deliverLeft, .deliverLeft, clientPoll, clientPoll]

theorem secondClient_connected :
    ∀ i ∈ secondClient, ConnectionInput 1 i := by
  simp [secondClient, ConnectionInput]

/-- What the client reports of `secondClient`, and that the two sides agree on
it. -/
theorem secondClient_agreement :
    let trace := (connectionMachine sampleRegistry 1).trace
      (sampleMuxDeployment.start sampleRegistry otherConnection 2) secondClient
    ((clientIncarnations sampleGoalId
        (connectedClientTrace sampleServerAction.actionName trace)).map
          fun c => reportedNotices c.entries) =
      [[.goalResponse .accepted, .cancelResponse .accepted,
        .result .canceled]] ∧
    RaceAgreements sampleRegistry sampleServerAction.endpoint.slotRouting
      sampleGoalId (connectedClientTrace sampleServerAction.actionName trace)
      (connectedServerTrace 1 sampleServerAction.actionName trace) :=
  ⟨by decide +kernel,
    mux_cancel_result_race sampleRegistry (layoutRegistry_lawful _)
      sampleMuxDeployment otherConnection 2 1 (c := 2) (by decide +kernel)
      secondClient secondClient_connected sampleClientAction (List.head_mem _)
      sampleServerAction (List.head_mem _) (by decide +kernel) sampleGoalId⟩

/-! ## Nothing that the server sent is lost -/

/-- Goal Requests are sent without a timeout. -/
def UntimedConnectedInput : ConnectedInput → Prop
  | .left (.sendGoal _ _ _ _ _ timeoutUsec) => timeoutUsec = 0
  | _ => True

theorem ConnectedClient.untimed_inputs {R : PduRegistry} {k : ℕ}
    {s : ConnectedClient} {i : ConnectedInput} (hi : UntimedConnectedInput i) :
    ∀ j ∈ (projection R k).inputs s i, UntimedInput j := by
  intro j hj
  cases i with
  | left i =>
      obtain ⟨i', hi', rfl⟩ := List.mem_map.mp hj
      obtain rfl : i' = i := List.mem_singleton.mp hi'
      cases i' with
      | sendGoal => exact hi
      | poll | sendCancel | receive | stopAllServices | clearAllInstances =>
          trivial
  | right i =>
      obtain ⟨i', -, rfl⟩ := List.mem_map.mp hj
      trivial
  | deliverLeft =>
      change j ∈ (if s.toLeft.head?.any (fun _ => true) then
        [Duplex.Input.deliverLeft] else []) at hj
      split_ifs at hj
      · rw [List.mem_singleton.mp hj]
        trivial
      · simp at hj
  | deliverRight =>
      change j ∈ (if s.toRight.head?.any (fun _ => true) then
        [Duplex.Input.deliverRight] else []) at hj
      split_ifs at hj
      · rw [List.mem_singleton.mp hj]
        trivial
      · simp at hj

/-- In every run of a client that sends its Goals without a timeout, over a
connection that is not disconnected, the client reports the packets of its
connection one by one and in order, and all of them when none is under way: the
traffic of the other connections takes none away and adds none. -/
theorem mux_no_packet_lost (R : PduRegistry) (hR : R.Lawful)
    (d : MuxDeployment) (past : List MuxStep) (capacity k : ℕ)
    {c : UInt64} (haccepted : .connected k c ∈ (d.accept R past capacity).2)
    (is : List ConnectedInput)
    (his : ∀ i ∈ is, ConnectionInput k i ∧ UntimedConnectedInput i)
    (client : ClientActionInstance)
    (hclient : client ∈ (startedSystem R d.pair).left.actions)
    (server : ServerActionInstance)
    (hserver : server ∈ (startedSystem R d.pair).right.actions)
    (hname : client.actionName = server.actionName) (g : GoalId) :
    let s := (connectionMachine R k).run (d.start R past capacity) is
    let trace := (connectionMachine R k).trace (d.start R past capacity) is
    ReportsWhatIsSent R server.endpoint.slotRouting g
      (connectedClientTrace server.actionName trace)
      (connectedServerTrace k server.actionName trace)
      (s.toLeft = [] ∧ (ActionServicesClient.viewAction server.actionName
        s.left).endpoint.pendingPackets = []) := by
  intro s trace
  obtain ⟨js, hjs, hleft, htoLeft, hlefts, hrights⟩ :=
    MuxDeployment.exists_system_run
      (E := fun j => RegularInput j ∧ UntimedInput j) haccepted
      (fun _ hi => hi.1) (fun _ _ hi hs j hj =>
        ⟨ConnectedClient.regular_inputs hi.1 hs j hj,
          ConnectedClient.untimed_inputs hi.2 j hj⟩) his
  obtain ⟨hlinked, hrouting⟩ := ActionSystem.linked_run hclient hserver hname hR
    fun j hj => (hjs j hj).1
  have huntimed := ActionSystem.untimed_run hR hclient hserver hname hjs
  have hreports := hlinked.reportsWhatIsSent huntimed g
  rw [ActionSystem.lefts_observe, ActionSystem.rights_observe, hrouting,
    clientTrace, serverTrace, hlefts, hrights] at hreports
  intro n
  obtain ⟨hpre, hall⟩ := hreports n
  refine ⟨hpre, fun ⟨htransport, hpending⟩ => hall ⟨?_, ?_⟩⟩
  · have hqueue : ((systemMachine R).run (startedSystem R d.pair) js).toLeft =
        [] := htoLeft.trans htransport
    simp [ActionSystem.action, Duplex.share, hqueue]
  · change (ActionServicesClient.viewAction server.actionName
      ((systemMachine R).run (startedSystem R d.pair)
        js).left).endpoint.pendingPackets = []
    rw [hleft]
    exact hpending

theorem secondClient_untimed :
    ∀ i ∈ secondClient, UntimedConnectedInput i := by
  simp [secondClient, UntimedConnectedInput]

/-- At the end of `secondClient` nothing is under way, and the client reported
all three packets of its connection. -/
theorem secondClient_reported :
    let s := (connectionMachine sampleRegistry 1).run
      (sampleMuxDeployment.start sampleRegistry otherConnection 2) secondClient
    let trace := (connectionMachine sampleRegistry 1).trace
      (sampleMuxDeployment.start sampleRegistry otherConnection 2) secondClient
    let arrived := s.toLeft = [] ∧ (ActionServicesClient.viewAction
      sampleServerAction.actionName s.left).endpoint.pendingPackets = []
    (arrived ∧
      (sentPackets sampleRegistry sampleServerAction.endpoint.slotRouting
        sampleGoalId (connectedServerTrace 1 sampleServerAction.actionName
          trace)).map List.length = [3]) ∧
    ReportsWhatIsSent sampleRegistry sampleServerAction.endpoint.slotRouting
      sampleGoalId (connectedClientTrace sampleServerAction.actionName trace)
      (connectedServerTrace 1 sampleServerAction.actionName trace) arrived :=
  ⟨by decide +kernel,
    mux_no_packet_lost sampleRegistry (layoutRegistry_lawful _)
      sampleMuxDeployment otherConnection 2 1 (c := 2) (by decide +kernel)
      secondClient (fun i hi =>
        ⟨secondClient_connected i hi, secondClient_untimed i hi⟩)
      sampleClientAction (List.head_mem _) sampleServerAction (List.head_mem _)
      (by decide +kernel) sampleGoalId⟩

end HakoPduRpc.Action
