import HakoPduRpc.Action.Agreement

/-!
# What linked sides agree on

Whatever keeps the two sides of an Action `Linked` keeps what they agree on: the
outcome of every incarnation of a Goal and, without timeouts, the packets that
the client reports.
-/

namespace HakoPduRpc.Action

namespace Linked

variable {R : PduRegistry} {p : ActionPair}
  {past : List (ClientObs ⊕ ServerObs)}

/-- The two sides of an Action agree on the outcome of every incarnation. -/
theorem raceAgreements (h : Linked R p past) (g : GoalId) :
    RaceAgreements R p.right.endpoint.slotRouting g (Duplex.lefts past)
      (Duplex.rights past) := by
  have hlink := h.goals g
  refine ⟨?_, fun k c hc => ?_⟩
  · have hlength := hlink.length_sent_le
    simpa only [goalView, reportedPackets, sentPackets, List.length_map]
      using hlength
  · have hreported : (goalView R p past g).reported.reverse[k]? =
        some (reports c.entries) := by
      simp only [goalView, reportedPackets]
      rw [← List.map_reverse, List.getElem?_map, hc, Option.map_some]
    obtain ⟨hnone, hempty⟩ | ⟨sent, hsent, hpre⟩ :=
      hlink.reported_prefix hreported
    all_goals simp only [goalView, sentPackets] at *
    · rw [← List.map_reverse, List.getElem?_map, Option.map_eq_none_iff]
        at hnone
      exact Or.inl ⟨hnone, by rw [reportedNotices, hempty, List.map_nil]⟩
    · rw [← List.map_reverse, List.getElem?_map, Option.map_eq_some_iff]
        at hsent
      obtain ⟨s, hs, rfl⟩ := hsent
      have hmem := List.mem_reverse.mp (List.mem_of_getElem? hs)
      have hsettled := (h.server.history g).settled s hmem
      exact Or.inr ⟨s, hs, hsettled.agreement (hpre.map Prod.fst)⟩

/-- The client reports an initial part of what the server sent, and all of it
when nothing is under way and no Goal was given up. -/
theorem reportsWhatIsSent (h : Linked R p past) (huntimed : p.left.Untimed)
    (g : GoalId) :
    ReportsWhatIsSent R p.right.endpoint.slotRouting g (Duplex.lefts past)
      (Duplex.rights past)
      (p.toLeft = [] ∧ p.left.endpoint.pendingPackets = []) := by
  have hlink := h.goals g
  refine fun k => ⟨?_, fun ⟨htransport, hpending⟩ => ?_⟩
  · cases hc : (reportedPackets g (Duplex.lefts past)).reverse[k]? with
    | none => exact List.nil_prefix
    | some c =>
        obtain ⟨-, rfl⟩ | ⟨sent, hsent, hpre⟩ := hlink.reported_prefix hc
        · exact List.nil_prefix
        · exact (congrArg (Option.getD · []) hsent).symm ▸ hpre
  · refine hlink.reported_all ?_ (fun b hb => (huntimed g b hb).2) k
    simp [goalView, ActionPair.deliveries, ActionPair.clientQueue, htransport,
      hpending]

end Linked

/-- Without timeouts an Action waits for nothing with a timeout. -/
theorem ActionSystem.untimed_run {R : PduRegistry} (hR : R.Lawful)
    {d : Deployment} {client : ClientActionInstance}
    (hclient : client ∈ (startedSystem R d).left.actions)
    {server : ServerActionInstance}
    (hserver : server ∈ (startedSystem R d).right.actions)
    (hname : client.actionName = server.actionName) {is : List SystemInput}
    (his : ∀ i ∈ is, RegularInput i ∧ UntimedInput i) :
    (action server.actionName
      ((systemMachine R).run (startedSystem R d) is)).left.Untimed := by
  obtain ⟨js, hjs, hrun, -⟩ := run_action
    (E := fun j => RegularPairInput j ∧ UntimedPairInput j) hclient hserver
    hname (fun _ hi => hi.1) (fun s i hi hs j hj =>
      ⟨regular_inputs hi.1 hs j hj, untimed_inputs hi.1 hi.2 j hj⟩) his
  have hfresh : client.Untimed := by
    intro g b hb
    have hclients := (ActionServicesClient.startedClient_ok R d.clientNodeId
      d.clientImplType d.clientEndpointExists d.root).2
    rw [ClientActionInstance.binding, (hclients client hclient).endpoint_eq]
      at hb
    cases hb
  rw [hrun]
  exact ((actionMachine R).trace_invariant
    (I := fun q past => Linked R q past ∧ q.left.Untimed)
    (fun _ _ _ hi hI => ⟨hI.1.step hR hi.1,
      hI.1.untimed_step hI.2 hi.1 hi.2⟩)
    ⟨linked_started hclient hserver hname, hfresh⟩ hjs).2

end HakoPduRpc.Action
