import HakoPduRpc.Action.LinkedAgreement
import HakoPduRpc.Action.ClientPrograms
import HakoPduRpc.Action.ServerPrograms
import HakoPduRpc.Lib.Hub

/-!
# Two programs over the C interface

A program over the client handle and one over the server handle, joined by the
transport.  A run of them is a run of the two services, so what client and server
agree on holds of what the two programs see.
-/

namespace HakoPduRpc
namespace Action

open CInterface

/-! ## The two programs -/

abbrev ClientProgramInput :=
  ProgramInput Transmission (String → UInt64) (SendOracle × UInt64)
    ClientFunction

abbrev ServerProgramInput :=
  ProgramInput Transmission SendOracle SendOracle ServerFunction

abbrev ClientProgramObs :=
  ProgramObs (String × ClientObs) ClientFunction
    (Polled ClientEventType ClientEventInfo)

abbrev ServerProgramObs :=
  ProgramObs (String × ServerObs) ServerFunction
    (Polled ServerEventType ServerEventInfo)

/-- Two handles and the packets under way between their services. -/
abbrev ProgramPair :=
  Duplex (Handle ActionServicesClient ClientEvent)
    (Handle ActionServicesServer ServerEvent) Transmission

/-- The transport between two programs. -/
def programWiring : Duplex.Wiring ClientProgramInput ServerProgramInput
    ClientProgramObs ServerProgramObs Transmission where
  sendLeft o := (Program.servicesObs o).flatMap systemWiring.sendLeft
  sendRight o := (Program.servicesObs o).flatMap systemWiring.sendRight
  receiveLeft := .receive
  receiveRight := .receive

/-- The two programs over the transport. -/
abbrev programMachine (R : PduRegistry) :
    Machine ProgramPair (Duplex.Input ClientProgramInput ServerProgramInput)
      (ClientProgramObs ⊕ ServerProgramObs) :=
  Duplex.machine (clientProgram R).machine (serverProgram R).machine
    programWiring

/-- The two handles as they are created. -/
def createdPrograms (R : PduRegistry) (d : Deployment) : ProgramPair where
  left := { services := (startedSystem R d).left }
  right := { services := (startedSystem R d).right }
  toLeft := []
  toRight := []

/-- The steps of two programs that do not stop their handles; packets come only
from the other side. -/
def ProgramStep : Duplex.Input ClientProgramInput ServerProgramInput → Prop
  | .left (.receive _) => False
  | .left .stop => False
  | .right (.receive _) => False
  | .right .stop => False
  | _ => True

/-- What the services of both programs show. -/
def servicesTrace (trace : List (ClientProgramObs ⊕ ServerProgramObs)) :
    List ((String × ClientObs) ⊕ (String × ServerObs)) :=
  trace.flatMap (Sum.elim (fun o => (Program.servicesObs o).map Sum.inl)
    fun q => (Program.servicesObs q).map Sum.inr)

namespace ProgramPair

/-- Two programs over the transport are the two services over it. -/
def projection (R : PduRegistry) :
    Machine.Projection (programMachine R) (systemMachine R)
      (fun _ i => ProgramStep i) :=
  (Duplex.projection (clientRunsOn R).projection (serverRunsOn R).projection
    (W := programWiring) (V := systemWiring)
    (Duplex.share_all _ (fun _ _ => by simp [programWiring]) (fun _ => rfl)
      fun _ _ => rfl)
    (Duplex.share_all _ (fun _ _ => by simp [programWiring]) (fun _ => rfl)
      fun _ _ => rfl)).restrict
    (by
      rintro s (i | j | _ | _) h
      · rintro rfl
        exact h
      · rintro rfl
        exact h
      · trivial
      · trivial) (fun _ => True) (fun _ _ _ _ => trivial)

/-- The calls of the client program are regular steps. -/
theorem regular_clientInputs {env : SendOracle × UInt64}
    {h : Handle ActionServicesClient ClientEvent} {f : ClientFunction} :
    ∀ j ∈ clientCallInputs env h f, RegularInput (.left j) := by
  intro j hj
  cases f with
  | sendGoal | cancelGoal =>
      obtain ⟨x, -, rfl⟩ := List.mem_map.mp hj
      trivial
  | createGoalBuffer => cases hj

/-- So are those of the server program: the C interface has neither
`discard_pending_goal` nor `complete_locally`. -/
theorem regular_serverInputs {net : SendOracle}
    {h : Handle ActionServicesServer ServerEvent} {f : ServerFunction} :
    ∀ j ∈ serverCallInputs net h f, RegularInput (.right j) := by
  intro j hj
  unfold serverCallInputs at hj
  cases f with
  | acceptGoal | rejectGoal | acceptCancel | rejectCancel | sendFeedback
  | complete =>
      obtain ⟨x, -, rfl⟩ := List.mem_map.mp hj
      trivial
  | createFeedbackBuffer | createResultBuffer => cases hj

theorem regular_inputs {R : PduRegistry} {s : ProgramPair}
    {i : Duplex.Input ClientProgramInput ServerProgramInput}
    (hi : ProgramStep i) :
    ∀ j ∈ (projection R).inputs s i, RegularInput j := by
  cases i with
  | left i =>
      intro j hj
      obtain ⟨k, hk, rfl⟩ := List.mem_map.mp hj
      change k ∈ (clientRunsOn R).inputs s.left i at hk
      cases i with
      | receive packet => exact hi.elim
      | start ok => cases hk
      | stop => exact hi.elim
      | poll env delivery =>
          rw [Program.RunsOn.inputs_poll] at hk
          split_ifs at hk
          · rw [List.mem_singleton.mp hk]
            trivial
          · cases hk
      | call env f => exact regular_clientInputs k hk
  | right i =>
      intro j hj
      obtain ⟨k, hk, rfl⟩ := List.mem_map.mp hj
      change k ∈ (serverRunsOn R).inputs s.right i at hk
      cases i with
      | receive packet => exact hi.elim
      | start ok => cases hk
      | stop => exact hi.elim
      | poll env delivery =>
          rw [Program.RunsOn.inputs_poll] at hk
          split_ifs at hk
          · rw [List.mem_singleton.mp hk]
            trivial
          · cases hk
      | call env f => exact regular_serverInputs k hk
  | deliverLeft =>
      intro j hj
      have hj' : j ∈ if s.toLeft.head?.any fun _ => true then
          [Duplex.Input.deliverLeft] else [] := hj
      split_ifs at hj'
      · rw [List.mem_singleton.mp hj']
        trivial
      · cases hj'
  | deliverRight =>
      intro j hj
      have hj' : j ∈ if s.toRight.head?.any fun _ => true then
          [Duplex.Input.deliverRight] else [] := hj
      split_ifs at hj'
      · rw [List.mem_singleton.mp hj']
        trivial
      · cases hj'

/-- A run of two programs is a regular run of the services. -/
theorem run_services {R : PduRegistry} {d : Deployment}
    {is : List (Duplex.Input ClientProgramInput ServerProgramInput)}
    (his : ∀ i ∈ is, ProgramStep i) :
    ∃ js, (∀ j ∈ js, RegularInput j) ∧
      servicesTrace ((programMachine R).trace (createdPrograms R d) is) =
        (systemMachine R).trace (startedSystem R d) js := by
  have hrun : (programMachine R).Along (fun _ i => ProgramStep i)
      (createdPrograms R d) is :=
    (programMachine R).along_of_forall (fun i hi _ => his i hi) _
  have hgood : (projection R).Good (createdPrograms R d) :=
    ⟨⟨trivial, trivial⟩, trivial⟩
  obtain ⟨-, htrace⟩ := (projection R).project hgood hrun
  have hregular := (projection R).along_runInputs
    (D := fun _ j => RegularInput j)
    (fun s i hi _ => (systemMachine R).along_of_forall
      (fun j hj _ => regular_inputs hi j hj) _) hgood hrun
  exact ⟨_, (systemMachine R).forall_of_along hregular, htrace⟩

end ProgramPair

/-! ## What two programs see -/

/-- What two programs see of an Action: `last` is their state after `trace`, and
`shown` is what the services show meanwhile. -/
structure ProgramsAgree (R : PduRegistry) (routing : List SlotRouting)
    (name : String) (trace : List (ClientProgramObs ⊕ ServerProgramObs))
    (shown : List ((String × ClientObs) ⊕ (String × ServerObs)))
    (last : ProgramPair) : Prop where
  /-- The services agree on every Goal. -/
  agreement : ∀ g, RaceAgreements R routing g (clientTrace name shown)
    (serverTrace name shown)
  /-- The client program is given the events of the services in order; the
  event that it could not take yet is the next one. -/
  clientGiven :
    ((Duplex.lefts shown).filterMap (clientProgram R).event).map
        (clientServices R).returned =
      Program.given (Duplex.lefts trace) ++
        last.left.pendingEvent.toList.map (clientServices R).returned
  serverGiven :
    ((Duplex.rights shown).filterMap (serverProgram R).event).map
        (serverServices R).returned =
      Program.given (Duplex.rights trace) ++
        last.right.pendingEvent.toList.map (serverServices R).returned
  /-- The functions of the client return what the services made of the calls on
  the Action. -/
  clientTold :
    (Duplex.lefts shown).filterMap (clientShown name) =
      (Duplex.lefts trace).filterMap (clientAnswers R name).toldObs
  serverTold :
    (Duplex.rights shown).filterMap (serverShown name) =
      (Duplex.rights trace).filterMap (serverAnswers R name).toldObs

namespace ProgramPair

theorem lefts_servicesTrace
    (trace : List (ClientProgramObs ⊕ ServerProgramObs)) :
    Duplex.lefts (servicesTrace trace) =
      (Duplex.lefts trace).flatMap Program.servicesObs :=
  Duplex.lefts_flatMap _ _ _

theorem rights_servicesTrace
    (trace : List (ClientProgramObs ⊕ ServerProgramObs)) :
    Duplex.rights (servicesTrace trace) =
      (Duplex.rights trace).flatMap Program.servicesObs :=
  Duplex.rights_flatMap _ _ _

/-- The run of the client program in a run of both. -/
theorem exists_client_run {R : PduRegistry} {s : ProgramPair}
    {is : List (Duplex.Input ClientProgramInput ServerProgramInput)}
    (his : ∀ i ∈ is, ProgramStep i) :
    ∃ js, (∀ j ∈ js, j ≠ ProgramInput.stop) ∧
      ((programMachine R).run s is).left =
        (clientProgram R).machine.run s.left js ∧
      Duplex.lefts ((programMachine R).trace s is) =
        (clientProgram R).machine.trace s.left js :=
  Duplex.exists_left_run
    (by
      rintro i hi rfl
      exact hi)
    (by simp [programWiring]) his

theorem exists_server_run {R : PduRegistry} {s : ProgramPair}
    {is : List (Duplex.Input ClientProgramInput ServerProgramInput)}
    (his : ∀ i ∈ is, ProgramStep i) :
    ∃ js, (∀ j ∈ js, j ≠ ProgramInput.stop) ∧
      ((programMachine R).run s is).right =
        (serverProgram R).machine.run s.right js ∧
      Duplex.rights ((programMachine R).trace s is) =
        (serverProgram R).machine.trace s.right js :=
  Duplex.exists_right_run
    (by
      rintro i hi rfl
      exact hi)
    (by simp [programWiring]) his

/-- The services of two programs stay linked. -/
theorem raceAgreements_run {R : PduRegistry} (hR : R.Lawful) {d : Deployment}
    {client : ClientActionInstance}
    (hclient : client ∈ (startedSystem R d).left.actions)
    {server : ServerActionInstance}
    (hserver : server ∈ (startedSystem R d).right.actions)
    (hname : client.actionName = server.actionName)
    {is : List (Duplex.Input ClientProgramInput ServerProgramInput)}
    (his : ∀ i ∈ is, ProgramStep i) (g : GoalId) :
    let shown := servicesTrace
      ((programMachine R).trace (createdPrograms R d) is)
    RaceAgreements R server.endpoint.slotRouting g
      (clientTrace server.actionName shown)
      (serverTrace server.actionName shown) := by
  obtain ⟨js, hjs, htrace⟩ := run_services (R := R) (d := d) his
  obtain ⟨hlinked, hrouting⟩ :=
    ActionSystem.linked_run hclient hserver hname hR hjs
  have hagree := hlinked.raceAgreements g
  rw [hrouting, ActionSystem.lefts_observe, ActionSystem.rights_observe]
    at hagree
  intro shown
  rwa [show shown = _ from htrace]

end ProgramPair

/-- Two programs over the C interface, from the creation of their handles until
one of them stops, whatever they call in whatever order and with whatever
arguments: the services behind them agree on the outcome of every Goal, the
programs are given the events of the services in order and none twice, and what
their calls return is what the services made of them. -/
theorem c_programs_agree (R : PduRegistry) (hR : R.Lawful) (d : Deployment)
    (is : List (Duplex.Input ClientProgramInput ServerProgramInput))
    (his : ∀ i ∈ is, ProgramStep i) (client : ClientActionInstance)
    (hclient : client ∈ (startedSystem R d).left.actions)
    (server : ServerActionInstance)
    (hserver : server ∈ (startedSystem R d).right.actions)
    (hname : client.actionName = server.actionName) :
    let trace := (programMachine R).trace (createdPrograms R d) is
    ProgramsAgree R server.endpoint.slotRouting server.actionName trace
      (servicesTrace trace) ((programMachine R).run (createdPrograms R d) is) := by
  intro trace
  obtain ⟨js, hjs, hclientRun, hclientTrace⟩ :=
    ProgramPair.exists_client_run (R := R) (s := createdPrograms R d) his
  obtain ⟨ks, hks, hserverRun, hserverTrace⟩ :=
    ProgramPair.exists_server_run (R := R) (s := createdPrograms R d) his
  have hjs' := (clientProgram R).machine.along_of_forall
    (C := fun _ j => j ≠ .stop) (fun j hj _ => hjs j hj)
    (createdPrograms R d).left
  have hks' := (serverProgram R).machine.along_of_forall
    (C := fun _ j => j ≠ .stop) (fun j hj _ => hks j hj)
    (createdPrograms R d).right
  constructor
  · exact ProgramPair.raceAgreements_run hR hclient hserver hname his
  · rw [ProgramPair.lefts_servicesTrace, hclientTrace, hclientRun]
    exact (clientRunsOn R).given_run rfl hjs'
  · rw [ProgramPair.rights_servicesTrace, hserverTrace, hserverRun]
    exact (serverRunsOn R).given_run rfl hks'
  · rw [ProgramPair.lefts_servicesTrace, hclientTrace]
    exact (clientAnswers R server.actionName).told_run (clientRunsOn R)
      (List.mem_map.mpr ⟨client, hclient, hname⟩) hjs'
  · rw [ProgramPair.rights_servicesTrace, hserverTrace]
    exact (serverAnswers R server.actionName).told_run (serverRunsOn R)
      (List.mem_map.mpr ⟨server, hserver, rfl⟩) hks'

/-- A program that is called before its handle is started, a Cancel of a Goal
with the id zero, a Result with a status that does not exist, and a client that
first polls with too small a buffer. -/
def carelessPrograms :
    List (Duplex.Input ClientProgramInput ServerProgramInput) :=
  let net : SendOracle := fun _ _ => true
  -- what `out_goal` holds after a call that failed
  let zero : GoalId :=
    (ActionClientEndpointImpl.goalHandleOut .invalidArgument sampleGoalId).goalId
  let name := some "fibonacci"
  let client (f : ClientFunction) :
      Duplex.Input ClientProgramInput ServerProgramInput := .left (.call (net, 0) f)
  let server (f : ServerFunction) :
      Duplex.Input ClientProgramInput ServerProgramInput := .right (.call net f)
  let send := client (.sendGoal name (some samplePacket) (some sampleGoalId)
    true 0)
  let clientPoll (capacity : ℕ) :
      Duplex.Input ClientProgramInput ServerProgramInput :=
    .left (.poll (fun _ => 0) (.buffer (some capacity)))
  let serverPoll : Duplex.Input ClientProgramInput ServerProgramInput :=
    .right (.poll net (.allocate true))
  [send, .left (.start true), .right (.start true), send, .deliverRight,
    serverPoll, client (.cancelGoal name (some zero)),
    server (.acceptGoal name (some sampleGoalId)),
    server (.complete name (some sampleGoalId) 7 (some samplePacket)),
    server (.complete name (some sampleGoalId) 1 (some samplePacket)),
    .deliverLeft, clientPoll 0, .deliverLeft, clientPoll 4096,
    clientPoll 4096]

theorem carelessPrograms_steps : ∀ i ∈ carelessPrograms, ProgramStep i := by
  simp only [carelessPrograms, List.forall_mem_cons, ProgramStep,
    List.not_mem_nil, false_imp_iff, implies_true, and_self]

/-- The client is told of one Goal, is given its acceptance and its Result, and
the two programs agree. -/
theorem carelessPrograms_agree :
    let trace := (programMachine sampleRegistry).trace
      (createdPrograms sampleRegistry sampleDeployment) carelessPrograms
    ((Duplex.lefts trace).filterMap
        (clientAnswers sampleRegistry "fibonacci").toldObs =
      [.goal sampleGoalId 0 .ok]) ∧
    ((Program.given (Duplex.lefts trace)).map fun polled => polled.event) =
      [some .goalResponse, some .result] ∧
    ProgramsAgree sampleRegistry sampleServerAction.endpoint.slotRouting
      sampleServerAction.actionName trace (servicesTrace trace)
      ((programMachine sampleRegistry).run
        (createdPrograms sampleRegistry sampleDeployment) carelessPrograms) :=
  ⟨by decide +kernel, by decide +kernel,
    c_programs_agree sampleRegistry (layoutRegistry_lawful _) sampleDeployment
      carelessPrograms carelessPrograms_steps sampleClientAction
      (List.head_mem _) sampleServerAction (List.head_mem _)
      (by decide +kernel)⟩

end Action
end HakoPduRpc
