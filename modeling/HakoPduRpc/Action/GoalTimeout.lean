import HakoPduRpc.Action.ClientHistory

/-!
# Timeouts of Goals whose answer waits in the queue

`poll()` takes one packet from the queue and looks for a timeout when this
packet reports nothing.  A packet that is ignored therefore gives way to the
timeout scan, also when the Goal Response that the Goal waits for stands right
behind it.
-/

namespace HakoPduRpc.Action

open Layout

namespace ActionClientEndpointImpl

variable {R : PduRegistry} {ep : ActionClientEndpointImpl}

/-- A valid Goal Response for a Goal, on the slot of its binding. -/
def IsAnswer (R : PduRegistry) (ep : ActionClientEndpointImpl) (g : GoalId)
    (packet : ClientPendingPacket) : Prop :=
  ∃ b decision, ep.packetBindings.find? g = some b ∧
    packet.decode R ep.slotRouting =
      some { slot := b.slotIndex, goalId := g, notice := .goalResponse decision }

/-- A packet that means nothing to the binding of its Goal: it cannot be read,
its Goal is not known or has another slot, or does not wait for it. -/
def Ignores (R : PduRegistry) (ep : ActionClientEndpointImpl)
    (packet : ClientPendingPacket) : Prop :=
  ∀ p b, packet.decode R ep.slotRouting = some p →
    ep.packetBindings.find? p.goalId = some b → b.slotIndex = p.slot →
      b.advance p.notice = none

/-- The first Goal, in the order of the ids, that waits too long. -/
def firstExpired (ep : ActionClientEndpointImpl) (now : UInt64) :
    Option GoalId :=
  if ep.initialized then
    (ep.packetBindings.entries.find? fun entry =>
      responseTimedOut now entry.2).map Prod.fst
  else none

/-- `poll()` gives up no Goal whose answer waits in the queue. -/
def AnswersFirst (R : PduRegistry) (ep : ActionClientEndpointImpl)
    (now : UInt64) : Prop :=
  ∀ event, (ep.poll R now).2 = some event → event.type = .timeout →
    ∀ packet ∈ ep.pendingPackets, ¬IsAnswer R ep event.goal.goalId packet

theorem handlePacket_eq_none_iff (packet : ClientPendingPacket) :
    handlePacket R ep packet = none ↔ Ignores R ep packet := by
  rw [handlePacket_eq]
  unfold Ignores applyPacket
  cases packet.decode R ep.slotRouting with
  | none => simp
  | some p =>
      simp only [Option.bind_some, Option.bind_eq_none_iff,
        Option.some.injEq]
      constructor
      · rintro h p' b rfl hb hslot
        simpa [hslot] using h b hb
      · intro h b hb
        split_ifs with hslot
        · rw [h p b rfl hb hslot, Option.map_none]
        · rfl

theorem pollTimeout_eq (now : UInt64) :
    (ep.pollTimeout now).2 =
      (ep.firstExpired now).map (timeoutEvent ep.actionName) := by
  unfold pollTimeout firstExpired
  cases ep.initialized with
  | false => rfl
  | true =>
      simp only [not_true_eq_false, if_false, if_true]
      split
      · next h => simp [h]
      · next h => simp [h, timeoutEvent]

theorem firstExpired_awaits {now : UInt64} {g : GoalId}
    (hexpired : ep.firstExpired now = some g) :
    ∃ b, ep.packetBindings.find? g = some b ∧
      b.state = .awaitingGoalResponse := by
  unfold firstExpired at hexpired
  split_ifs at hexpired
  obtain ⟨entry, hfind, rfl⟩ := Option.map_eq_some_iff.mp hexpired
  have hmem := List.mem_of_find?_eq_some hfind
  have hlate := List.find?_some hfind
  exact ⟨entry.2, OrdMap.mem_entries_iff.mp hmem,
    (responseTimedOut_iff.mp hlate).1⟩

/-- The Goal that is given up waits for its answer, so an answer at the head of
the queue would have been reported. -/
theorem not_isAnswer_of_ignores {now : UInt64} {g : GoalId}
    (hexpired : ep.firstExpired now = some g) {packet : ClientPendingPacket}
    (hignores : Ignores R ep packet) : ¬IsAnswer R ep g packet := by
  rintro ⟨b, decision, hb, hdecode⟩
  obtain ⟨b', hb', hstate⟩ := firstExpired_awaits hexpired
  obtain rfl : b' = b := Option.some.inj (hb'.symm.trans hb)
  have hadvance := hignores _ b' hdecode hb rfl
  have hdecision := (ClientPendingPacket.decode_wellFormed hdecode).2
  cases decision with
  | unspecified => exact hdecision rfl
  | accepted => simp [ClientPacketBinding.advance, hstate] at hadvance
  | rejected => simp [ClientPacketBinding.advance, hstate] at hadvance

theorem handlePacket_type {packet : ClientPendingPacket}
    {ep' : ActionClientEndpointImpl} {event : ClientEvent}
    (h : handlePacket R ep packet = some (ep', event)) :
    event.type ≠ .timeout := by
  rw [handlePacket_eq] at h
  obtain ⟨p, -, happly⟩ := Option.bind_eq_some_iff.mp h
  unfold applyPacket at happly
  obtain ⟨b, -, happly⟩ := Option.bind_eq_some_iff.mp happly
  split_ifs at happly
  obtain ⟨b', -, hevent⟩ := Option.map_eq_some_iff.mp happly
  have htype := congrArg Prod.snd hevent
  simp only at htype
  rw [← htype]
  cases p.notice <;> nofun

end ActionClientEndpointImpl

open ActionClientEndpointImpl in
/-- `poll()` gives up no Goal whose answer waits in the queue if and only if it
does not come to a timeout through an ignored packet that stands in front of the
answer. -/
theorem answers_first_iff (R : PduRegistry) (ep : ActionClientEndpointImpl)
    (now : UInt64) :
    AnswersFirst R ep now ↔
      ∀ head rest, ep.pendingPackets = head :: rest → Ignores R ep head →
        ∀ g, ep.firstExpired now = some g →
          ∀ packet ∈ rest, ¬IsAnswer R ep g packet := by
  unfold AnswersFirst
  cases hqueue : ep.pendingPackets with
  | nil => simp
  | cons head rest =>
      cases hhandled : handlePacket R { ep with pendingPackets := rest } head with
      | none =>
          have hignores : Ignores R ep head :=
            (@handlePacket_eq_none_iff R { ep with pendingPackets := rest }
              head).mp hhandled
          have hpoll : (ep.poll R now).2 =
              (ep.firstExpired now).map (timeoutEvent ep.actionName) := by
            simp only [ActionClientEndpointImpl.poll, hqueue, hhandled]
            exact pollTimeout_eq now
          rw [hpoll]
          constructor
          · rintro h head' rest' ⟨⟩ - g hexpired packet hpacket
            exact h (timeoutEvent ep.actionName g) (by simp [hexpired]) rfl
              packet (List.mem_cons_of_mem _ hpacket)
          · intro h event hevent htype packet hpacket
            obtain ⟨g, hexpired, rfl⟩ := Option.map_eq_some_iff.mp hevent
            rcases List.mem_cons.mp hpacket with rfl | hpacket
            · exact not_isAnswer_of_ignores hexpired hignores
            · exact h head rest rfl hignores g hexpired packet hpacket
      | some handled =>
          have hpoll : (ep.poll R now).2 = some handled.2 := by
            simp only [ActionClientEndpointImpl.poll, hqueue, hhandled]
          rw [hpoll]
          constructor
          · rintro - head' rest' ⟨⟩ hignores
            have hnone := (@handlePacket_eq_none_iff R
              { ep with pendingPackets := rest } head).mpr hignores
            rw [hnone] at hhandled
            cases hhandled
          · rintro - event ⟨⟩ htype
            exact absurd htype (handlePacket_type hhandled)

/-- A Goal is sent with a timeout, a packet that cannot be read arrives, and
then the answer. -/
def lateAnswer : List ClientInput :=
  [.sendGoal (fun _ _ => true) 0 "fibonacci" samplePacket sampleGoalId 5,
    .receive ⟨"fibonacci", 1⟩ [],
    .receive ⟨"fibonacci", 1⟩
      (sampleResponse responseKindGoal Decision.accepted.code)]

theorem lateAnswer_actions_ne_nil :
    ((clientMachine sampleRegistry).run sampleClient lateAnswer).actions ≠ [] :=
  List.ne_nil_of_length_pos (by decide +kernel)

/-- The endpoint after these packets arrived. -/
def lateAnswerEndpoint : ActionClientEndpointImpl :=
  (((clientMachine sampleRegistry).run sampleClient lateAnswer).actions.head
    lateAnswer_actions_ne_nil).endpoint

open ActionClientEndpointImpl in
/-- The Goal is given up although its answer waits. -/
theorem lateAnswer_times_out :
    ¬AnswersFirst sampleRegistry lateAnswerEndpoint 5 := by
  intro hfirst
  have hpoll : (lateAnswerEndpoint.poll sampleRegistry 5).2 =
      some (timeoutEvent "fibonacci" sampleGoalId) := by decide +kernel
  have hslot : (lateAnswerEndpoint.packetBindings.find? sampleGoalId).map
      (·.slotIndex) = some 0 := by decide +kernel
  have hanswer : ∃ packet ∈ lateAnswerEndpoint.pendingPackets,
      packet.decode sampleRegistry lateAnswerEndpoint.slotRouting =
        some { slot := 0
               goalId := sampleGoalId
               notice := .goalResponse .accepted } := by decide +kernel
  obtain ⟨b, hb, hslot⟩ := Option.map_eq_some_iff.mp hslot
  obtain ⟨packet, hpacket, hdecode⟩ := hanswer
  rw [← hslot] at hdecode
  exact hfirst _ hpoll rfl packet hpacket ⟨b, .accepted, hb, hdecode⟩

end HakoPduRpc.Action
