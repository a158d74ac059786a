import HakoPduRpc.Action.CFunctions

/-!
# Programs over the C interface

An application in C sees the services through a handle.  A step of it is at most
one step of the services: a call that does not pass the checks is none, and
neither is a polling function that finds an event in `pending_event`.  So a run of
the program is a run of the services, its calls return what the services made of
them, and the events come in the order in which the services report them, except
for the one that is held.

This is stated once, for any services; what it takes of the functions of a handle
is `RunsOn` and `Answers`.
-/

namespace HakoPduRpc
namespace Action
namespace CInterface

/-! ## A program -/

/-- What can happen to a program: a packet arrives, it starts or stops its
handle, it polls, or it calls another function. -/
inductive ProgramInput (X π ν φ : Type)
  | receive (packet : X)
  | start (ok : Bool)
  | stop
  | poll (env : π) (delivery : Delivery)
  | call (env : ν) (function : φ)

/-- What is seen of a program: what the services do for it, what a function
returned, and what polling gave. -/
inductive ProgramObs (ω φ υ : Type)
  | services (o : ω)
  | returned (function : φ) (result : Returned)
  | polled (given : υ)

/-- The functions of a handle. -/
structure Program (σ π κ ε τ ι X ν φ ω : Type) where
  services : Services σ π κ ε τ ι
  /-- What the services show while they are polled. -/
  shown : σ → π → List ω
  receive : σ → X → σ
  call : ν → Handle σ ε → φ → Outcome (Handle σ ε) ω Returned
  /-- The event that the services report, if this is one. -/
  event : ω → Option (String × ε)

namespace Program

variable {σ π κ ε τ ι X ν φ ω I : Type} (P : Program σ π κ ε τ ι X ν φ ω)

/-- The polling function reaches the services. -/
def Asks (h : Handle σ ε) (delivery : Delivery) : Bool :=
  match delivery with
  | .invalid => false
  | _ => h.started && h.pendingEvent.isNone

/-- A program with its handle. -/
def machine :
    Machine (Handle σ ε) (ProgramInput X π ν φ)
      (ProgramObs ω φ (Polled τ ι)) where
  step h
    | .receive packet => ({ h with services := P.receive h.services packet }, [])
    | .start ok => (P.services.startHandle h ok, [])
    | .stop => (P.services.stopHandle h, [])
    | .poll env delivery =>
        let polled := P.services.pollHandle h env delivery
        let shown := if Asks h delivery then P.shown h.services env else []
        (polled.state, shown.map .services ++ [.polled polled.result])
    | .call env function =>
        let done := P.call env h function
        (done.state,
          done.effects.map .services ++ [.returned function done.result])

/-- What the services show. -/
def servicesObs : ProgramObs ω φ (Polled τ ι) → List ω
  | .services o => [o]
  | _ => []

/-- The program runs on the services `M`. -/
structure RunsOn (M : Machine σ I ω) where
  receiveInput : X → I
  pollInput : π → I
  callInputs : ν → Handle σ ε → φ → List I
  receive_eq : ∀ s packet,
    M.step s (receiveInput packet) = (P.receive s packet, [])
  poll_eq : ∀ s env,
    M.step s (pollInput env) = ((P.services.poll s env).1, P.shown s env)
  start_eq : ∀ s ok, (P.services.start s ok).1 = s
  call_state : ∀ env h f, (P.call env h f).state =
    { h with services := M.run h.services (callInputs env h f) }
  call_effects : ∀ env h f,
    (P.call env h f).effects = M.trace h.services (callInputs env h f)
  shown_events : ∀ s env,
    (P.shown s env).filterMap P.event = (P.services.poll s env).2.toList
  call_events : ∀ env h f, (P.call env h f).effects.filterMap P.event = []

namespace RunsOn

variable {P} {M : Machine σ I ω} (T : P.RunsOn M)

/-- The steps of the services in a step of the program. -/
def inputs (h : Handle σ ε) : ProgramInput X π ν φ → List I
  | .receive packet => [T.receiveInput packet]
  | .start _ => []
  | .stop => []
  | .poll env delivery => if Asks h delivery then [T.pollInput env] else []
  | .call env function => T.callInputs env h function

@[simp] theorem inputs_poll (h : Handle σ ε) (env : π) (delivery : Delivery) :
    T.inputs h (.poll env delivery) =
      if Asks h delivery then [T.pollInput env] else [] := rfl

theorem servicesObs_map (l : List ω) :
    (l.map (ProgramObs.services (φ := φ) (υ := Polled τ ι))).flatMap
      servicesObs = l := by
  induction l with
  | nil => rfl
  | cons o l ih =>
      rw [List.map_cons, List.flatMap_cons, ih]
      rfl

theorem asks_of_ne {h : Handle σ ε} {delivery : Delivery}
    (hvalid : delivery ≠ .invalid) :
    Asks h delivery = (h.started && h.pendingEvent.isNone) := by
  cases delivery with
  | buffer capacity => rfl
  | allocate ok => rfl
  | invalid => exact absurd rfl hvalid

/-- A polling function takes at most one step of the services. -/
theorem services_pollHandle (h : Handle σ ε) (env : π) (delivery : Delivery) :
    (P.services.pollHandle h env delivery).state.services =
      if Asks h delivery then (P.services.poll h.services env).1
      else h.services := by
  by_cases hvalid : delivery = .invalid
  · subst hvalid
    rfl
  · rw [asks_of_ne hvalid]
    cases hstarted : h.started with
    | false =>
        have hcall : (P.services.pollHandle h env delivery).state = h := by
          cases delivery <;> simp_all [Services.pollHandle]
        rw [hcall]
        rfl
    | true =>
        rw [Services.pollHandle_due hstarted hvalid, Bool.true_and]
        have hafter : P.services.servicesAfter h env =
            if h.pendingEvent.isNone then (P.services.poll h.services env).1
            else h.services := by
          unfold Services.servicesAfter
          cases h.pendingEvent <;> rfl
        rw [← hafter]
        dsimp only
        cases P.services.due h env with
        | none => rfl
        | some reported =>
            unfold Services.offer
            dsimp only
            split_ifs <;> rfl

include T in
theorem services_startHandle (h : Handle σ ε) (ok : Bool) :
    (P.services.startHandle h ok).services = h.services := by
  unfold Services.startHandle
  split_ifs
  · rfl
  · exact T.start_eq h.services ok

/-- A run of the program is a run of the services, until it stops them. -/
def projection :
    Machine.Projection P.machine M (fun _ i => i ≠ .stop) where
  Good _ := True
  view := Handle.services
  inputs := T.inputs
  observe := servicesObs
  good_step _ _ _ _ := trivial
  view_step := by
    rintro h i hi -
    cases i with
    | receive packet =>
        change P.receive h.services packet =
          (M.step h.services (T.receiveInput packet)).1
        rw [T.receive_eq]
    | start ok => exact T.services_startHandle h ok
    | stop => exact absurd rfl hi
    | poll env delivery =>
        refine (services_pollHandle h env delivery).trans ?_
        rw [T.inputs_poll]
        split_ifs
        · rw [Machine.run_cons, Machine.run_nil, T.poll_eq]
        · rfl
    | call env function =>
        change (P.call env h function).state.services = _
        rw [T.call_state]
        rfl
  trace_step := by
    rintro h i hi -
    cases i with
    | receive packet =>
        change [] = M.trace h.services [T.receiveInput packet]
        rw [Machine.trace_cons, T.receive_eq]
        rfl
    | start ok => rfl
    | stop => exact absurd rfl hi
    | poll env delivery =>
        simp only [machine, List.flatMap_append, servicesObs_map]
        rw [T.inputs_poll]
        split_ifs
        · rw [Machine.trace_cons, T.poll_eq]
          simp [servicesObs]
        · rfl
    | call env function =>
        simp only [machine, List.flatMap_append, servicesObs_map]
        rw [T.call_effects]
        simp [servicesObs, inputs]

end RunsOn

/-! ### Events -/

/-- What polling handed over. -/
def handover :
    ProgramObs ω φ (Polled τ ι) →
      List (Handover.Obs (String × ε) (Polled τ ι))
  | .services o => (P.event o).toList.map .produced
  | .returned _ _ => []
  | .polled given => Services.observe given

/-- The events that the services report. -/
def events (trace : List (ProgramObs ω φ (Polled τ ι))) : List (String × ε) :=
  (trace.flatMap servicesObs).filterMap P.event

/-- The events that the program was given. -/
def given (trace : List (ProgramObs ω φ (Polled τ ι))) : List (Polled τ ι) :=
  trace.filterMap fun
    | .polled given => if given.event.isSome then some given else none
    | _ => none

namespace RunsOn

variable {P} {M : Machine σ I ω} (T : P.RunsOn M)

theorem handover_services (l : List ω) :
    (l.map (ProgramObs.services (φ := φ) (υ := Polled τ ι))).flatMap
      (handover P) = (l.filterMap P.event).map .produced := by
  induction l with
  | nil => rfl
  | cons o l ih =>
      rw [List.map_cons, List.flatMap_cons, ih]
      cases hevent : P.event o with
      | none => simp [handover, hevent]
      | some event => simp [handover, hevent]

include T in
theorem shown_effects (h : Handle σ ε) (env : π) (delivery : Delivery) :
    (if Asks h delivery then P.shown h.services env else []).filterMap P.event =
      (P.services.pollHandle h env delivery).effects := by
  by_cases hvalid : delivery = .invalid
  · subst hvalid
    rfl
  · rw [asks_of_ne hvalid]
    cases hstarted : h.started with
    | false =>
        cases delivery <;> simp_all [Services.pollHandle]
    | true =>
        rw [(Services.pollSpec hstarted hvalid env).asked_eq, Bool.true_and]
        unfold Services.asked
        cases h.pendingEvent with
        | none => exact T.shown_events h.services env
        | some reported => rfl

include T in
/-- A step hands the events over faithfully. -/
theorem follows_step {h : Handle σ ε} {i : ProgramInput X π ν φ}
    (hi : i ≠ .stop) :
    Handover.Follows P.services.returned h.pendingEvent
      ((P.machine.step h i).2.flatMap (handover P))
      (P.machine.step h i).1.pendingEvent := by
  cases i with
  | receive packet => exact .nil _
  | start ok =>
      exact Services.follows_step (S := P.services) (i := .start ok) (by simp)
  | stop => exact absurd rfl hi
  | poll env delivery =>
      have hpoll := Services.follows_poll (S := P.services) (h := h) env delivery
      simp only [machine, List.flatMap_append, handover_services,
        T.shown_effects]
      simpa [Services.pollStep, handover] using hpoll
  | call env function =>
      simp only [machine, List.flatMap_append, handover_services,
        T.call_events, T.call_state]
      exact .nil _

theorem produced_handover (trace : List (ProgramObs ω φ (Polled τ ι))) :
    Handover.produced (trace.flatMap (handover P)) = P.events trace := by
  induction trace with
  | nil => rfl
  | cons o trace ih =>
      rw [List.flatMap_cons, Handover.produced_append, ih]
      cases o with
      | services o =>
          cases hevent : P.event o <;>
            simp [Handover.produced, handover, events, servicesObs, hevent]
      | returned function result => rfl
      | polled given =>
          rcases given with ⟨_ | event, info, pdu, outSize, error⟩
          · cases error <;> rfl
          · rfl

theorem taken_handover (trace : List (ProgramObs ω φ (Polled τ ι))) :
    Handover.taken (trace.flatMap (handover P)) = given trace := by
  induction trace with
  | nil => rfl
  | cons o trace ih =>
      rw [List.flatMap_cons, Handover.taken_append, ih]
      cases o with
      | services o =>
          cases hevent : P.event o <;>
            simp [Handover.taken, handover, given, hevent]
      | returned function result => rfl
      | polled polled =>
          rcases polled with ⟨_ | event, info, pdu, outSize, error⟩
          · cases error <;> rfl
          · rfl

include T in
/-- The program is given the events in the order in which the services report
them, except for the one that is held. -/
theorem given_run {h : Handle σ ε} (hfresh : h.pendingEvent = none)
    {is : List (ProgramInput X π ν φ)}
    (his : P.machine.Along (fun _ i => i ≠ .stop) h is) :
    (P.events (P.machine.trace h is)).map P.services.returned =
      given (P.machine.trace h is) ++
        (P.machine.run h is).pendingEvent.toList.map P.services.returned := by
  have hfollows : Handover.Follows P.services.returned none
      ((P.machine.trace h is).flatMap (handover P))
      (P.machine.run h is).pendingEvent := by
    apply P.machine.trace_invariant
      (I := fun h past => Handover.Follows P.services.returned none
        (past.flatMap (handover P)) h.pendingEvent)
      (fun h past i hi hpast => ?_) (hfresh ▸ .nil _) his
    rw [List.flatMap_append]
    exact hpast.append (T.follows_step hi)
  have haccounted := hfollows.accounted
  rwa [Option.toList_none, List.nil_append, produced_handover,
    taken_handover] at haccounted

end RunsOn

/-! ### Calls -/

/-- What a call comes to: what the services show of it, and what the program is
told, are the same for the programs whose services are `Known`. -/
structure Answers (M : Machine σ I ω) (χ : Type) where
  Known : σ → Prop
  shown : ω → Option χ
  told : φ → Returned → Option χ
  known_step : ∀ s i, Known s → Known (M.step s i).1
  shown_poll : ∀ s env, (P.shown s env).filterMap shown = []
  shown_call : ∀ env h f, Known h.services →
    (P.call env h f).effects.filterMap shown =
      (told f (P.call env h f).result).toList

namespace Answers

variable {P} {M : Machine σ I ω} {χ : Type} (A : P.Answers M χ)

/-- What the program is told of its calls. -/
def toldObs : ProgramObs ω φ (Polled τ ι) → Option χ
  | .returned function result => A.told function result
  | _ => none

theorem toldObs_services (l : List ω) :
    (l.map (ProgramObs.services (φ := φ) (υ := Polled τ ι))).filterMap
      A.toldObs = [] := by
  simp [List.filterMap_map, Function.comp_def, toldObs]

/-- The calls of a program return what the services made of them. -/
theorem told_run (T : P.RunsOn M) {h : Handle σ ε} (hknown : A.Known h.services)
    {is : List (ProgramInput X π ν φ)}
    (his : P.machine.Along (fun _ i => i ≠ .stop) h is) :
    ((P.machine.trace h is).flatMap servicesObs).filterMap A.shown =
      (P.machine.trace h is).filterMap A.toldObs := by
  have hrun : A.Known (P.machine.run h is).services ∧
      ((P.machine.trace h is).flatMap servicesObs).filterMap A.shown =
        (P.machine.trace h is).filterMap A.toldObs := by
    apply P.machine.trace_invariant
      (I := fun h past => A.Known h.services ∧
        (past.flatMap servicesObs).filterMap A.shown =
          past.filterMap A.toldObs)
      (fun h past i hi hpast => ?_) ⟨hknown, rfl⟩ his
    obtain ⟨hknown, hpast⟩ := hpast
    constructor
    · have hview := T.projection.view_step h i hi trivial
      change A.Known (T.projection.view (P.machine.step h i).1)
      rw [hview]
      exact M.invariant (fun s i _ hs => A.known_step s i hs) hknown
        (M.along_of_forall (fun _ _ _ => trivial) _)
    · rw [List.flatMap_append, List.filterMap_append, List.filterMap_append,
        hpast]
      congr 1
      cases i with
      | receive packet => rfl
      | start ok => rfl
      | stop => exact absurd rfl hi
      | poll env delivery =>
          simp only [machine, List.flatMap_append, List.filterMap_append,
            RunsOn.servicesObs_map, toldObs_services]
          split_ifs
          · rw [A.shown_poll]
            rfl
          · rfl
      | call env function =>
          simp only [machine, List.flatMap_append, List.filterMap_append,
            RunsOn.servicesObs_map, toldObs_services, A.shown_call env h
            function hknown]
          cases htold : A.told function (P.call env h function).result <;>
            simp [servicesObs, toldObs, htold]
  exact hrun.2

end Answers

end Program

/-! ## What passes the checks -/

section Passes

variable {σ ε ω I : Type} {h : Handle σ ε} {actionName : Option String}
  {goal : Option GoalId} {arguments : Bool}
  {call : String → GoalId → Outcome σ ω Returned}

/-- The Action and the Goal of a call that passes the checks. -/
def passes (h : Handle σ ε) (actionName : Option String) (goal : Option GoalId)
    (arguments : Bool) : Option (String × GoalId) :=
  match actionName, goal with
  | some actionName, some goalId =>
      if actionName ≠ "" ∧ arguments ∧ h.started ∧ isValidGoalId goalId then
        some (actionName, goalId)
      else none
  | _, _ => none

/-- The codes of the checks. -/
def ErrorCode.Refuses (code : ErrorCode) : Prop :=
  code = .invalidArgument ∨ code = .notRunning

instance (code : ErrorCode) : Decidable code.Refuses :=
  inferInstanceAs (Decidable (_ ∨ _))

theorem goalFunction_refused (call : String → GoalId → Outcome σ ω Returned)
    (hpasses : passes h actionName goal arguments = none) :
    ∃ code : ErrorCode, code.Refuses ∧
      goalFunction h actionName goal arguments call =
        { state := h, result := { code := code } } := by
  cases actionName with
  | none => exact ⟨.invalidArgument, .inl rfl, rfl⟩
  | some actionName =>
      cases goal with
      | none => exact ⟨.invalidArgument, .inl rfl, rfl⟩
      | some goalId =>
          by_cases harguments : actionName ≠ "" ∧ arguments = true
          · by_cases hstarted : h.started = true
            · have hvalid : isValidGoalId goalId = false := by
                simp_all [passes]
              exact ⟨.invalidArgument, .inl rfl, by
                simp [goalFunction, validText, harguments, hstarted, hvalid]⟩
            · exact ⟨.notRunning, .inr rfl, by
                simp [goalFunction, validText, harguments, hstarted]⟩
          · exact ⟨.invalidArgument, .inl rfl, by
              simp_all [goalFunction, validText]⟩

theorem goalFunction_passed (call : String → GoalId → Outcome σ ω Returned)
    {name : String} {goalId : GoalId}
    (hpasses : passes h actionName goal arguments = some (name, goalId)) :
    actionName = some name ∧ goal = some goalId ∧ name ≠ "" ∧
      arguments = true ∧ isValidGoalId goalId = true ∧
      goalFunction h actionName goal arguments call =
        (call name goalId).embed fun services =>
          { h with services := services } := by
  cases actionName with
  | none => cases hpasses
  | some actionName =>
      cases goal with
      | none => cases hpasses
      | some goalId' =>
          unfold passes at hpasses
          dsimp only at hpasses
          split_ifs at hpasses with hchecks
          obtain ⟨rfl, rfl⟩ := Prod.mk.inj (Option.some.inj hpasses)
          obtain ⟨hname, harguments, hstarted, hvalid⟩ := hchecks
          refine ⟨rfl, rfl, hname, harguments, hvalid, ?_⟩
          simp [goalFunction, validText, hname, harguments, hstarted, hvalid]

/-- A function that names a Goal is a step of the services, or none. -/
theorem goalFunction_steps (M : Machine σ I ω) (input : String → GoalId → I)
    (hcall : ∀ name goalId, M.step h.services (input name goalId) =
      ((call name goalId).state, (call name goalId).effects)) :
    (goalFunction h actionName goal arguments call).state =
        { h with
          services := M.run h.services
            ((passes h actionName goal arguments).toList.map fun x =>
              input x.1 x.2) } ∧
      (goalFunction h actionName goal arguments call).effects =
        M.trace h.services
          ((passes h actionName goal arguments).toList.map fun x =>
            input x.1 x.2) := by
  cases hpasses : passes h actionName goal arguments with
  | none =>
      obtain ⟨code, -, heq⟩ := goalFunction_refused call hpasses
      rw [heq]
      exact ⟨rfl, rfl⟩
  | some x =>
      obtain ⟨-, -, -, -, -, heq⟩ := goalFunction_passed call hpasses
      rw [heq]
      simp [hcall]

/-- The functions that create a packet leave the handle as it is. -/
theorem bufferFunction_quiet (h : Handle σ ε) (actionName : Option String)
    (delivery : Delivery) (create : String → Option PduData) :
    (bufferFunction (ω := ω) h actionName delivery create).state = h ∧
      (bufferFunction (ω := ω) h actionName delivery create).effects = [] := by
  cases actionName with
  | none => exact ⟨rfl, rfl⟩
  | some actionName =>
      cases delivery with
      | invalid => exact ⟨rfl, rfl⟩
      | buffer capacity | allocate ok =>
          unfold bufferFunction
          dsimp only
          split_ifs
          · cases create actionName <;> exact ⟨rfl, rfl⟩
          · exact ⟨rfl, rfl⟩
          · exact ⟨rfl, rfl⟩

end Passes

end CInterface
end Action
end HakoPduRpc
