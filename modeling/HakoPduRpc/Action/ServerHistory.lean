import Mathlib.Algebra.Group.Nat.Defs
import HakoPduRpc.Action.ServerCancelFlags
import HakoPduRpc.Lib.Sections

/-!
# The history of a Goal on the server

`serverEntry` reads off the trace of an Action what concerns one Goal; a
`GOAL_REQUEST` event opens a new incarnation, so the log of a Goal is divided
into one section for each incarnation.

`Open` relates the section of the current incarnation to the packet binding, and
`Settled` is what every section satisfies.  The step lemma says that every step
of the server, Runtime Cancels and resets apart, keeps the two.
-/

namespace HakoPduRpc.Action

/-! ## The log of a Goal -/

/-- A Goal Request opens an incarnation. -/
def ServerEntry.start : ServerEntry → Option ℕ
  | .requested slot => some slot
  | _ => none

/-- The call ends the incarnation of its Goal when it returns `true`. -/
def ServerCall.releases : ServerCall → Bool
  | .rejectGoal _ | .discardPendingGoal _ | .complete _ _ _
  | .completeLocally _ _ _ => true
  | _ => false

/-- The call accepts a Cancel when it returns `true`. -/
def ServerCall.acceptsCancel : ServerCall → Bool
  | .acceptCancel _ => true
  | _ => false

/-- The entries that an observation adds to the log of a Goal.  Packets count
when their send succeeded; automatic rejections are left out. -/
def serverEntry (R : PduRegistry) (routing : List SlotRouting) (g : GoalId) :
    ServerObs → List ServerEntry
  | .event (some slot) event =>
      if event.goal.goalId = g then
        match event.type with
        | .goalRequest => [.requested slot]
        | .cancelRequest => [.cancelRequested]
        | _ => []
      else []
  | .event none _ => []
  | .effect (.send false key data true) =>
      match decodePacket R routing key data with
      | none => []
      | some packet =>
          if packet.goalId = g then [.sent packet.slot packet.notice data]
          else []
  | .effect (.commit g' status) => if g' = g then [.committed status] else []
  | .effect _ => []
  | .returned call result =>
      if call.goal.goalId = g ∧ result = true then
        (if call.acceptsCancel then [.cancelAccepted] else []) ++
          (if call.releases then [.released] else [])
      else []

/-- The log of a Goal. -/
def serverLog (R : PduRegistry) (routing : List SlotRouting) (g : GoalId)
    (trace : List ServerObs) : List ServerEntry :=
  trace.flatMap (serverEntry R routing g)

/-- The incarnations of a Goal, newest first. -/
def incarnations (R : PduRegistry) (routing : List SlotRouting) (g : GoalId)
    (trace : List ServerObs) : List (Section ℕ ServerEntry) :=
  Section.divide ServerEntry.start (serverLog R routing g trace)

/-! ## The order on the wire -/

/-- The packets of a log. -/
def packets (entries : List ServerEntry) : List (Notice × PduData) :=
  entries.filterMap fun
    | .sent _ notice data => some (notice, data)
    | _ => none

/-- What the packets of a log announce. -/
def notices (entries : List ServerEntry) : List Notice :=
  (packets entries).map Prod.fst

/-- The sequence numbers of the Feedback packets. -/
def feedbackNumbers (l : List Notice) : List UInt32 :=
  l.filterMap fun
    | .feedback sequence => some sequence
    | _ => none

/-- Dispatched Cancel Requests (`true`) and Cancel Responses (`false`). -/
def cancels (entries : List ServerEntry) : List Bool :=
  entries.filterMap fun
    | .cancelRequested => some true
    | .sent _ (.cancelResponse _) _ => some false
    | _ => none

/-- The packets between acceptance and Cancel acceptance. -/
def Notice.Middle : Notice → Prop
  | .feedback _ => True
  | .cancelResponse decision => decision = .rejected
  | _ => False

/-- The packets of a Goal that was accepted and not canceled. -/
def ExecutingOrder (l : List Notice) : Prop :=
  ∃ body, (∀ n ∈ body, n.Middle) ∧ l = .goalResponse .accepted :: body

/-- The packets of a Goal whose Cancel was accepted. -/
def CancelingOrder (l : List Notice) : Prop :=
  ∃ body after, (∀ n ∈ body, n.Middle) ∧
    (∀ n ∈ after, ∃ sequence, n = .feedback sequence) ∧
    l = .goalResponse .accepted :: body ++ .cancelResponse .accepted :: after

/-- The packets of a completed Goal. -/
def CompleteOrder (l : List Notice) : Prop :=
  ∃ before status, l = before ++ [.result status] ∧
    ((ExecutingOrder before ∧ (status = .succeeded ∨ status = .aborted)) ∨
      (CancelingOrder before ∧ (status = .canceled ∨ status = .aborted)))

/-- The wire order of one incarnation: a rejection, or a prefix of what is sent
for a completed Goal. -/
def WireGrammar (l : List Notice) : Prop :=
  l = [.goalResponse .rejected] ∨ ∃ full, CompleteOrder full ∧ l <+: full

/-- Lists numbered from zero, modulo `2 ^ 32`. -/
def Numbered (l : List UInt32) : Prop :=
  ∀ k sequence, l[k]? = some sequence → sequence.toNat = k % 2 ^ 32

/-- Lists that take turns, starting with `true`. -/
def Alternating (l : List Bool) : Prop :=
  ∀ k request, l[k]? = some request → (request = true ↔ k % 2 = 0)

/-- What the server promises about the packets of one incarnation. -/
structure WireOrder (s : Section ℕ ServerEntry) : Prop where
  grammar : WireGrammar (notices s.entries)
  /-- The `k`-th Feedback carries `k` modulo `2 ^ 32`. -/
  numbered : Numbered (feedbackNumbers (notices s.entries))
  /-- Dispatched Cancel Requests and Cancel Responses take turns, so that every
  response answers a request of its own. -/
  answers : Alternating (cancels s.entries)
  /-- Every packet is sent on the slot of the Goal Request. -/
  slot : ∃ slot, s.marker = some slot ∧ ∀ slot' notice data,
    .sent slot' notice data ∈ s.entries → slot' = slot
  /-- Nothing happens after the release of the binding. -/
  released : .released ∉ s.entries.dropLast

/-- What every incarnation satisfies: the wire order, and the agreement of the
packets with what the application decided. -/
structure Settled (s : Section ℕ ServerEntry) : Prop extends WireOrder s where
  committed : ∀ status, .result status ∈ notices s.entries →
    .committed status ∈ s.entries
  committed_unique : ∀ status status', .committed status ∈ s.entries →
    .committed status' ∈ s.entries → status = status'
  cancelAccepted : .cancelAccepted ∈ s.entries ↔
    .cancelResponse .accepted ∈ notices s.entries

section Logs

variable (l l' : List ServerEntry) (n n' : List Notice)

@[simp] theorem packets_nil : packets [] = [] := rfl

@[simp] theorem packets_append :
    packets (l ++ l') = packets l ++ packets l' := by
  simp [packets]

@[simp] theorem notices_nil : notices [] = [] := rfl

@[simp] theorem notices_append :
    notices (l ++ l') = notices l ++ notices l' := by
  simp [notices]

@[simp] theorem feedbackNumbers_append :
    feedbackNumbers (n ++ n') = feedbackNumbers n ++ feedbackNumbers n' := by
  simp [feedbackNumbers]

@[simp] theorem cancels_append :
    cancels (l ++ l') = cancels l ++ cancels l' := by
  simp [cancels]

end Logs

/-! ## Orders -/

theorem ExecutingOrder.append {l : List Notice} {n : Notice}
    (h : ExecutingOrder l) (hn : n.Middle) : ExecutingOrder (l ++ [n]) := by
  obtain ⟨body, hbody, rfl⟩ := h
  refine ⟨body ++ [n], ?_, rfl⟩
  intro m hm
  rcases List.mem_append.mp hm with hm | hm
  · exact hbody m hm
  · rw [List.mem_singleton.mp hm]
    exact hn

theorem ExecutingOrder.cancel {l : List Notice} (h : ExecutingOrder l) :
    CancelingOrder (l ++ [.cancelResponse .accepted]) := by
  obtain ⟨body, hbody, rfl⟩ := h
  exact ⟨body, [], hbody, by simp, by simp⟩

theorem CancelingOrder.append {l : List Notice} (h : CancelingOrder l)
    (sequence : UInt32) : CancelingOrder (l ++ [.feedback sequence]) := by
  obtain ⟨body, after, hbody, hafter, rfl⟩ := h
  refine ⟨body, after ++ [.feedback sequence], hbody, ?_, by simp⟩
  intro m hm
  rcases List.mem_append.mp hm with hm | hm
  · exact hafter m hm
  · exact ⟨sequence, List.mem_singleton.mp hm⟩

theorem ExecutingOrder.notMem {l : List Notice} (h : ExecutingOrder l) :
    (∀ status, .result status ∉ l) ∧ .cancelResponse .accepted ∉ l := by
  obtain ⟨body, hbody, rfl⟩ := h
  refine ⟨?_, ?_⟩
  · intro status hmem
    simp only [List.mem_cons, reduceCtorEq, false_or] at hmem
    exact hbody _ hmem
  · intro hmem
    simp only [List.mem_cons, reduceCtorEq, false_or] at hmem
    have := hbody _ hmem
    simp [Notice.Middle] at this

theorem CancelingOrder.mem {l : List Notice} (h : CancelingOrder l) :
    (∀ status, .result status ∉ l) ∧ .cancelResponse .accepted ∈ l := by
  obtain ⟨body, after, hbody, hafter, rfl⟩ := h
  refine ⟨?_, by simp⟩
  intro status hmem
  simp only [List.cons_append, List.mem_cons, List.mem_append, reduceCtorEq,
    false_or] at hmem
  rcases hmem with hmem | hmem
  · exact hbody _ hmem
  · obtain ⟨sequence, hsequence⟩ := hafter _ hmem
    cases hsequence

theorem ExecutingOrder.grammar {l : List Notice} (h : ExecutingOrder l) :
    WireGrammar l :=
  Or.inr ⟨l ++ [.result .succeeded],
    ⟨l, .succeeded, rfl, Or.inl ⟨h, Or.inl rfl⟩⟩, List.prefix_append _ _⟩

theorem CancelingOrder.grammar {l : List Notice} (h : CancelingOrder l) :
    WireGrammar l :=
  Or.inr ⟨l ++ [.result .canceled],
    ⟨l, .canceled, rfl, Or.inr ⟨h, Or.inl rfl⟩⟩, List.prefix_append _ _⟩

theorem CompleteOrder.grammar {l : List Notice} (h : CompleteOrder l) :
    WireGrammar l :=
  Or.inr ⟨l, h, List.prefix_rfl⟩

theorem wireGrammar_nil : WireGrammar [] := by
  have h : ExecutingOrder [.goalResponse .accepted] := ⟨[], by simp, rfl⟩
  exact Or.inr ⟨_, ⟨_, .succeeded, rfl, Or.inl ⟨h, Or.inl rfl⟩⟩,
    List.nil_prefix⟩

theorem Numbered.append {l : List UInt32} (h : Numbered l) {q : UInt32}
    (hq : q = UInt32.ofNat l.length) : Numbered (l ++ [q]) := by
  intro k sequence hk
  rw [List.getElem?_append] at hk
  split_ifs at hk with hlt
  · exact h k sequence hk
  · obtain ⟨hlt', heq⟩ := List.getElem?_eq_some_iff.mp hk
    have hk' : k = l.length := by
      simp only [List.length_singleton] at hlt'
      omega
    subst hk'
    rw [← heq]
    simp [hq, UInt32.toNat_ofNat']

theorem Alternating.append {l : List Bool} (h : Alternating l) {request : Bool}
    (hrequest : request = true ↔ l.length % 2 = 0) :
    Alternating (l ++ [request]) := by
  intro k r hk
  rw [List.getElem?_append] at hk
  split_ifs at hk with hlt
  · exact h k r hk
  · obtain ⟨hlt', heq⟩ := List.getElem?_eq_some_iff.mp hk
    have hk' : k = l.length := by
      simp only [List.length_singleton] at hlt'
      omega
    subst hk'
    rw [← heq]
    simpa using hrequest

/-! ## The open incarnation -/

/-- What the state of a binding says about the log of its incarnation. -/
def PhaseOpen (b : ActionPacketBinding) (entries : List ServerEntry) : Prop :=
  match b.state with
  | .awaitingGoalDecision => entries = []
  | .goalAccepted =>
      ExecutingOrder (notices entries) ∧ .cancelAccepted ∉ entries ∧
        (∀ status, .committed status ∉ entries) ∧
        ((cancels entries).length % 2 = 1 ↔ b.cancelDecisionPending = true)
  | .cancelAccepted =>
      CancelingOrder (notices entries) ∧ .cancelAccepted ∈ entries ∧
        ∀ status, .committed status ∉ entries
  | .resultCommitted =>
      ((ExecutingOrder (notices entries) ∧ .cancelAccepted ∉ entries) ∨
        (CancelingOrder (notices entries) ∧ .cancelAccepted ∈ entries)) ∧
        ∀ status status', .committed status ∈ entries →
          .committed status' ∈ entries → status = status'

/-- The section of the current incarnation. -/
structure Open (b : ActionPacketBinding) (s : Section ℕ ServerEntry) :
    Prop where
  marker : s.marker = some b.slotIndex
  slot : ∀ slot' notice data,
    .sent slot' notice data ∈ s.entries → slot' = b.slotIndex
  released : .released ∉ s.entries
  numbered : Numbered (feedbackNumbers (notices s.entries))
  next : b.nextFeedbackSequence =
    UInt32.ofNat (feedbackNumbers (notices s.entries)).length
  answers : Alternating (cancels s.entries)
  phase : PhaseOpen b s.entries

theorem Open.settled {b : ActionPacketBinding} {s : Section ℕ ServerEntry}
    (h : Open b s) : Settled s := by
  have hphase := h.phase
  unfold PhaseOpen at hphase
  have hslot : ∃ slot, s.marker = some slot ∧ ∀ slot' notice data,
      .sent slot' notice data ∈ s.entries → slot' = slot :=
    ⟨_, h.marker, h.slot⟩
  have hreleased : .released ∉ s.entries.dropLast :=
    fun hmem => h.released (List.dropLast_subset _ hmem)
  have executing (horder : ExecutingOrder (notices s.entries))
      (haccepted : .cancelAccepted ∉ s.entries)
      (hunique : ∀ status status', .committed status ∈ s.entries →
        .committed status' ∈ s.entries → status = status') : Settled s :=
    { grammar := horder.grammar
      numbered := h.numbered
      answers := h.answers
      slot := hslot
      released := hreleased
      committed := fun status hmem => absurd hmem (horder.notMem.1 status)
      committed_unique := hunique
      cancelAccepted := iff_of_false haccepted horder.notMem.2 }
  have canceling (horder : CancelingOrder (notices s.entries))
      (haccepted : .cancelAccepted ∈ s.entries)
      (hunique : ∀ status status', .committed status ∈ s.entries →
        .committed status' ∈ s.entries → status = status') : Settled s :=
    { grammar := horder.grammar
      numbered := h.numbered
      answers := h.answers
      slot := hslot
      released := hreleased
      committed := fun status hmem => absurd hmem (horder.mem.1 status)
      committed_unique := hunique
      cancelAccepted := iff_of_true haccepted horder.mem.2 }
  split at hphase
  · exact
      { grammar := by rw [hphase]; exact wireGrammar_nil
        numbered := h.numbered
        answers := h.answers
        slot := hslot
        released := hreleased
        committed := by simp [hphase]
        committed_unique := by simp [hphase]
        cancelAccepted := by simp [hphase] }
  · exact executing hphase.1 hphase.2.1
      fun status _ hmem => absurd hmem (hphase.2.2.1 status)
  · exact canceling hphase.1 hphase.2.1
      fun status _ hmem => absurd hmem (hphase.2.2 status)
  · obtain ⟨horder, haccepted⟩ | ⟨horder, haccepted⟩ := hphase.1
    · exact executing horder haccepted hphase.2
    · exact canceling horder haccepted hphase.2

/-- The incarnations of a Goal, newest first, and its binding. -/
inductive GoalHistory :
    Option ActionPacketBinding → List (Section ℕ ServerEntry) → Prop
  | closed {ss : List (Section ℕ ServerEntry)} (h : ∀ s ∈ ss, Settled s) :
      GoalHistory none ss
  | active {b : ActionPacketBinding} {s : Section ℕ ServerEntry}
      {rest : List (Section ℕ ServerEntry)} (hopen : Open b s)
      (hrest : ∀ s ∈ rest, Settled s) : GoalHistory (some b) (s :: rest)

theorem GoalHistory.settled {b : Option ActionPacketBinding}
    {ss : List (Section ℕ ServerEntry)} (h : GoalHistory b ss) :
    ∀ s ∈ ss, Settled s := by
  cases h with
  | closed h => exact h
  | active hopen hrest =>
      intro s hs
      rcases List.mem_cons.mp hs with rfl | hs
      · exact hopen.settled
      · exact hrest s hs

/-! ## Steps of the open incarnation -/

namespace Open

variable {b : ActionPacketBinding} {s : Section ℕ ServerEntry}

/-- A fresh incarnation. -/
theorem fresh (g : GoalId) (slot : ℕ) :
    Open { goalId := g, slotIndex := slot }
      { marker := some slot, entries := [] } where
  marker := rfl
  slot := by simp
  released := by simp
  numbered := by simp [Numbered, feedbackNumbers]
  next := rfl
  answers := by simp [Alternating, cancels]
  phase := rfl

theorem phase_undecided (h : Open b s)
    (hstate : b.state = .awaitingGoalDecision) : s.entries = [] := by
  have hphase := h.phase
  simpa only [PhaseOpen, hstate] using hphase

theorem phase_executing (h : Open b s) (hstate : b.state = .goalAccepted) :
    ExecutingOrder (notices s.entries) ∧ .cancelAccepted ∉ s.entries ∧
      (∀ status, .committed status ∉ s.entries) ∧
      ((cancels s.entries).length % 2 = 1 ↔
        b.cancelDecisionPending = true) := by
  have hphase := h.phase
  simpa only [PhaseOpen, hstate] using hphase

theorem phase_canceling (h : Open b s) (hstate : b.state = .cancelAccepted) :
    CancelingOrder (notices s.entries) ∧ .cancelAccepted ∈ s.entries ∧
      ∀ status, .committed status ∉ s.entries := by
  have hphase := h.phase
  simpa only [PhaseOpen, hstate] using hphase

theorem accepted (h : Open b s) (hstate : b.state = .awaitingGoalDecision)
    (hpending : b.cancelDecisionPending = false) (data : PduData) :
    Open { b with state := .goalAccepted }
      (s.push [.sent b.slotIndex (.goalResponse .accepted) data]) where
  marker := h.marker
  slot := by simp +contextual [h.phase_undecided hstate]
  released := by simp [h.phase_undecided hstate]
  numbered := by
    simp [h.phase_undecided hstate, notices, packets, feedbackNumbers,
      Numbered]
  next := by
    have hnext := h.next
    simpa [h.phase_undecided hstate, notices, packets, feedbackNumbers] using
      hnext
  answers := by simp [h.phase_undecided hstate, cancels, Alternating]
  phase := by
    simp only [PhaseOpen, h.phase_undecided hstate, Section.entries_push,
      List.nil_append]
    exact ⟨⟨[], by simp, rfl⟩, by simp, by simp, by simp [cancels, hpending]⟩

theorem cancelRequested (h : Open b s) (hstate : b.state = .goalAccepted)
    (hpending : b.cancelDecisionPending = false) :
    Open { b with cancelDecisionPending := true }
      (s.push [.cancelRequested]) := by
  obtain ⟨horder, haccepted, hcommitted, hparity⟩ := h.phase_executing hstate
  have hnone : notices [.cancelRequested] = [] := rfl
  have hcancel : cancels [.cancelRequested] = [true] := rfl
  have heven : (cancels s.entries).length % 2 = 0 := by
    rw [hpending] at hparity
    simpa using hparity
  exact
    { marker := h.marker
      slot := by simpa using h.slot
      released := by simpa using h.released
      numbered := by simpa [hnone] using h.numbered
      next := by simpa [hnone] using h.next
      answers := by simpa [hcancel] using h.answers.append (by simp [heven])
      phase := by
        simp only [PhaseOpen, hstate, Section.entries_push, notices_append,
          cancels_append, hnone, hcancel, List.append_nil]
        refine ⟨horder, by simpa using haccepted, by simpa using hcommitted, ?_⟩
        simp only [List.length_append, List.length_singleton, iff_true]
        omega }

/-- What is sent for the Goal goes to its slot. -/
theorem slot_push (h : Open b s) {entries : List ServerEntry}
    (hentries : ∀ slot' notice data,
      .sent slot' notice data ∈ entries → slot' = b.slotIndex) :
    ∀ slot' notice data, .sent slot' notice data ∈ (s.push entries).entries →
      slot' = b.slotIndex := by
  intro slot' notice data hmem
  rcases List.mem_append.mp hmem with hmem | hmem
  · exact h.slot _ _ _ hmem
  · exact hentries _ _ _ hmem

/-- An answered Cancel. -/
theorem cancelAnswered (h : Open b s) (hstate : b.state = .goalAccepted)
    (hpending : b.cancelDecisionPending = true) (decision : Decision)
    (data : PduData) :
    Alternating (cancels (s.entries ++
        [.sent b.slotIndex (.cancelResponse decision) data])) ∧
      (cancels (s.entries ++
        [.sent b.slotIndex (.cancelResponse decision) data])).length % 2 =
        0 := by
  obtain ⟨-, -, -, hparity⟩ := h.phase_executing hstate
  have hodd := hparity.mpr hpending
  have hcancel : cancels [.sent b.slotIndex (.cancelResponse decision) data] =
      [false] := rfl
  rw [cancels_append, hcancel]
  refine ⟨h.answers.append (by simp [hodd]), ?_⟩
  simp only [List.length_append, List.length_singleton]
  omega

theorem cancelRejected (h : Open b s) (hstate : b.state = .goalAccepted)
    (hpending : b.cancelDecisionPending = true) (data : PduData) :
    Open { b with cancelDecisionPending := false }
      (s.push [.sent b.slotIndex (.cancelResponse .rejected) data]) := by
  obtain ⟨horder, haccepted, hcommitted, -⟩ := h.phase_executing hstate
  obtain ⟨halternating, heven⟩ :=
    h.cancelAnswered hstate hpending .rejected data
  have hnotice : notices [.sent b.slotIndex (.cancelResponse .rejected) data] =
      [.cancelResponse .rejected] := rfl
  have hnone : feedbackNumbers [.cancelResponse .rejected] = [] := rfl
  exact
    { marker := h.marker
      slot := h.slot_push (by simp +contextual)
      released := by simpa using h.released
      numbered := by simpa [hnotice, hnone] using h.numbered
      next := by simpa [hnotice, hnone] using h.next
      answers := halternating
      phase := by
        simp only [PhaseOpen, hstate, Section.entries_push, notices_append,
          hnotice]
        refine ⟨horder.append rfl, by simpa using haccepted,
          by simpa using hcommitted, ?_⟩
        rw [heven]
        simp }

theorem cancelAccepted (h : Open b s) (hstate : b.state = .goalAccepted)
    (hpending : b.cancelDecisionPending = true) (data : PduData) :
    Open { b with state := .cancelAccepted, cancelDecisionPending := false }
      (s.push [.sent b.slotIndex (.cancelResponse .accepted) data,
        .cancelAccepted]) := by
  obtain ⟨horder, haccepted, hcommitted, -⟩ := h.phase_executing hstate
  obtain ⟨halternating, -⟩ := h.cancelAnswered hstate hpending .accepted data
  have hnotice : notices [.sent b.slotIndex (.cancelResponse .accepted) data,
      .cancelAccepted] = [.cancelResponse .accepted] := rfl
  have hnone : feedbackNumbers [.cancelResponse .accepted] = [] := rfl
  exact
    { marker := h.marker
      slot := h.slot_push (by simp +contextual)
      released := by simpa using h.released
      numbered := by simpa [hnotice, hnone] using h.numbered
      next := by simpa [hnotice, hnone] using h.next
      answers := by
        rw [cancels_append] at halternating
        rw [Section.entries_push, cancels_append]
        exact halternating
      phase := by
        simp only [PhaseOpen, Section.entries_push, notices_append, hnotice]
        exact ⟨horder.cancel, by simp, by simpa using hcommitted⟩ }

theorem feedback (h : Open b s)
    (hstate : b.state = .goalAccepted ∨ b.state = .cancelAccepted)
    (data : PduData) :
    Open { b with nextFeedbackSequence := b.nextFeedbackSequence + 1 }
      (s.push [.sent b.slotIndex (.feedback b.nextFeedbackSequence) data]) := by
  have hnotice : notices [.sent b.slotIndex (.feedback b.nextFeedbackSequence)
      data] = [.feedback b.nextFeedbackSequence] := rfl
  have hnumber : feedbackNumbers [.feedback b.nextFeedbackSequence] =
      [b.nextFeedbackSequence] := rfl
  have hcancel : cancels [.sent b.slotIndex (.feedback b.nextFeedbackSequence)
      data] = [] := rfl
  exact
    { marker := h.marker
      slot := h.slot_push (by simp +contextual)
      released := by simpa using h.released
      numbered := by
        simpa [hnotice, hnumber] using h.numbered.append h.next
      next := by
        simp only [Section.entries_push, notices_append,
          feedbackNumbers_append, List.length_append, UInt32.ofNat_add]
        rw [← h.next]
        rfl
      answers := by simpa [hcancel] using h.answers
      phase := by
        rcases hstate with hstate | hstate
        · obtain ⟨horder, haccepted, hcommitted, hparity⟩ :=
            h.phase_executing hstate
          simp only [PhaseOpen, hstate, Section.entries_push, notices_append,
            hnotice, cancels_append, hcancel, List.append_nil]
          exact ⟨horder.append trivial, by simpa using haccepted,
            by simpa using hcommitted, hparity⟩
        · obtain ⟨horder, haccepted, hcommitted⟩ := h.phase_canceling hstate
          simp only [PhaseOpen, hstate, Section.entries_push, notices_append,
            hnotice]
          exact ⟨horder.append _, by simpa using haccepted,
            by simpa using hcommitted⟩ }

/-- A committed terminal status. -/
theorem committed (h : Open b s) {status : TerminalStatus}
    (hmay : ActionServerEndpointImpl.mayComplete b status = true) :
    Open (ActionServerEndpointImpl.committed b)
      (s.push [.committed status]) ∧
      ((ExecutingOrder (notices s.entries) ∧ .cancelAccepted ∉ s.entries ∧
          (status = .succeeded ∨ status = .aborted)) ∨
        (CancelingOrder (notices s.entries) ∧ .cancelAccepted ∈ s.entries ∧
          (status = .canceled ∨ status = .aborted))) ∧
      ∀ status', .committed status' ∉ s.entries := by
  have hnotice : notices [.committed status] = [] := rfl
  have hcancel : cancels [.committed status] = [] := rfl
  have hphase : ((ExecutingOrder (notices s.entries) ∧
        .cancelAccepted ∉ s.entries ∧
          (status = .succeeded ∨ status = .aborted)) ∨
      (CancelingOrder (notices s.entries) ∧ .cancelAccepted ∈ s.entries ∧
          (status = .canceled ∨ status = .aborted))) ∧
      ∀ status', .committed status' ∉ s.entries := by
    simp only [ActionServerEndpointImpl.mayComplete, terminalAllowed,
      decide_eq_true_eq] at hmay
    rcases hmay with ⟨hstate, hstatus⟩ | ⟨hstate, hstatus⟩
    · obtain ⟨horder, haccepted, hcommitted, -⟩ := h.phase_executing hstate
      exact ⟨Or.inl ⟨horder, haccepted, hstatus⟩, hcommitted⟩
    · obtain ⟨horder, haccepted, hcommitted⟩ := h.phase_canceling hstate
      exact ⟨Or.inr ⟨horder, haccepted, hstatus⟩, hcommitted⟩
  refine ⟨?_, hphase⟩
  exact
    { marker := h.marker
      slot := by
        simpa [ActionServerEndpointImpl.committed] using h.slot
      released := by simpa using h.released
      numbered := by simpa [hnotice] using h.numbered
      next := by
        simpa [hnotice, ActionServerEndpointImpl.committed] using h.next
      answers := by simpa [hcancel] using h.answers
      phase := by
        simp only [PhaseOpen, ActionServerEndpointImpl.committed,
          Section.entries_push, notices_append, hnotice, List.append_nil]
        refine ⟨?_, ?_⟩
        · rcases hphase.1 with ⟨horder, haccepted, -⟩ | ⟨horder, haccepted, -⟩
          · exact Or.inl ⟨horder, by simpa using haccepted⟩
          · exact Or.inr ⟨horder, by simp [haccepted]⟩
        · intro status₁ status₂ h₁ h₂
          simp only [List.mem_append, hphase.2, List.mem_singleton,
            ServerEntry.committed.injEq, false_or] at h₁ h₂
          rw [h₁, h₂] }

end Open

/-- A settled section stays settled when its binding is released. -/
theorem Settled.released_push {s : Section ℕ ServerEntry} (h : Settled s)
    (hreleased : .released ∉ s.entries) : Settled (s.push [.released]) := by
  have hnotice : notices [.released] = [] := rfl
  have hcancel : cancels [.released] = [] := rfl
  exact
    { grammar := by simpa [hnotice] using h.grammar
      numbered := by simpa [hnotice] using h.numbered
      answers := by simpa [hcancel] using h.answers
      slot := by simpa using h.slot
      released := by simpa using hreleased
      committed := by simpa [hnotice] using h.committed
      committed_unique := by simpa using h.committed_unique
      cancelAccepted := by simpa [hnotice] using h.cancelAccepted }

/-- A rejected Goal. -/
theorem Open.rejected {b : ActionPacketBinding} {s : Section ℕ ServerEntry}
    (h : Open b s) (hstate : b.state = .awaitingGoalDecision)
    (data : PduData) :
    Settled (s.push
      [.sent b.slotIndex (.goalResponse .rejected) data, .released]) := by
  have hempty := h.phase_undecided hstate
  exact
    { grammar := by
        rw [Section.entries_push, hempty]
        exact Or.inl rfl
      numbered := by
        simp [hempty, notices, packets, feedbackNumbers, Numbered]
      answers := by simp [hempty, cancels, Alternating]
      slot := ⟨_, h.marker, by simp +contextual [hempty]⟩
      released := by simp [hempty]
      committed := by simp [hempty, notices, packets]
      committed_unique := by simp [hempty]
      cancelAccepted := by simp [hempty, notices, packets] }

/-- A completed Goal whose Result was sent. -/
theorem Open.completed {b : ActionPacketBinding} {s : Section ℕ ServerEntry}
    (h : Open b s) {status : TerminalStatus}
    (hmay : ActionServerEndpointImpl.mayComplete b status = true)
    (data : PduData) :
    Settled (s.push [.committed status, .sent b.slotIndex (.result status) data,
      .released]) := by
  obtain ⟨-, hphase, hcommitted⟩ := h.committed hmay
  have hnotice : notices [.committed status,
      .sent b.slotIndex (.result status) data, .released] =
        [.result status] := rfl
  have hnone : feedbackNumbers [.result status] = [] := rfl
  have hcancel : cancels [.committed status,
      .sent b.slotIndex (.result status) data, .released] = [] := rfl
  exact
    { grammar := by
        rw [Section.entries_push, notices_append, hnotice]
        refine CompleteOrder.grammar ⟨_, status, rfl, ?_⟩
        rcases hphase with ⟨horder, -, hstatus⟩ | ⟨horder, -, hstatus⟩
        · exact Or.inl ⟨horder, hstatus⟩
        · exact Or.inr ⟨horder, hstatus⟩
      numbered := by simpa [hnotice, hnone] using h.numbered
      answers := by simpa [hcancel] using h.answers
      slot := ⟨_, h.marker, h.slot_push (by simp +contextual)⟩
      released := by
        rw [Section.entries_push, List.dropLast_append_of_ne_nil (by simp)]
        simpa using h.released
      committed := by
        intro status' hmem
        simp only [Section.entries_push, notices_append, hnotice,
          List.mem_append, List.mem_singleton, Notice.result.injEq] at hmem
        rcases hmem with hmem | rfl
        · rcases hphase with ⟨horder, -⟩ | ⟨horder, -⟩
          · exact absurd hmem (horder.notMem.1 _)
          · exact absurd hmem (horder.mem.1 _)
        · simp
      committed_unique := by
        intro status₁ status₂ h₁ h₂
        simp [hcommitted] at h₁ h₂
        rw [h₁, h₂]
      cancelAccepted := by
        simp only [Section.entries_push, List.mem_append, notices_append,
          hnotice, List.mem_cons, reduceCtorEq, List.not_mem_nil, or_false]
        rcases hphase with ⟨horder, haccepted, -⟩ | ⟨horder, haccepted, -⟩
        · exact iff_of_false haccepted horder.notMem.2
        · exact iff_of_true haccepted horder.mem.2 }

/-! ## Steps of a Goal and its log -/

section Steps

variable {R : PduRegistry} (hR : R.Lawful) {actionName : String}
  {routing : List SlotRouting} (hwf : RoutingWellFormed actionName routing)
  {g : GoalId} (hg : isValidGoalId g = true)

include hR hwf hg

/-- What the logs record of a step of a Goal. -/
theorem ServerGoalStep.serverLog_eq {b b' : Option ActionPacketBinding}
    {c c' : Option ServerGoalContext} {obs : List ServerObs}
    {es : List ServerEntry}
    (h : ServerGoalStep R routing g b c obs es b' c') (g' : GoalId) :
    serverLog R routing g' obs = if g = g' then es else [] := by
  cases h with
  | request hslot htype hgoal => simp [serverLog, serverEntry, hgoal, htype]
  | acceptGoal hstate hsent =>
      have hdecode := decodePacket_of_carries hR hwf hg
        (by simp [Notice.WellFormed]) hsent
      simp [serverLog, serverEntry, hdecode, ServerCall.goal,
        ServerCall.acceptsCancel, ServerCall.releases]
  | rejectGoal hstate hsent =>
      have hdecode := decodePacket_of_carries hR hwf hg
        (by simp [Notice.WellFormed]) hsent
      by_cases hne : g = g' <;>
        simp [serverLog, serverEntry, hdecode, ServerCall.goal,
          ServerCall.acceptsCancel, ServerCall.releases, hne]
  | discard =>
      simp [serverLog, serverEntry, ServerCall.goal, ServerCall.acceptsCancel,
        ServerCall.releases]
  | cancelRequest hstate hpending htype hgoal =>
      simp [serverLog, serverEntry, hgoal, htype]
  | cancelSwallowed => simp [serverLog]
  | runtimeCancel => simp [serverLog, serverEntry]
  | runtimeReclassify => simp [serverLog, serverEntry]
  | acceptCancel hstate hpending hsent =>
      have hdecode := decodePacket_of_carries hR hwf hg
        (by simp [Notice.WellFormed]) hsent
      by_cases hne : g = g' <;>
        simp [serverLog, serverEntry, hdecode, ServerCall.goal,
          ServerCall.acceptsCancel, ServerCall.releases, hne]
  | acceptCancelLocally =>
      simp [serverLog, serverEntry, ServerCall.goal, ServerCall.acceptsCancel,
        ServerCall.releases]
  | rejectCancel hstate hpending hsent =>
      have hdecode := decodePacket_of_carries hR hwf hg
        (by simp [Notice.WellFormed]) hsent
      simp [serverLog, serverEntry, hdecode, ServerCall.goal,
        ServerCall.acceptsCancel, ServerCall.releases]
  | rejectRuntimeCancel =>
      simp [serverLog, serverEntry, ServerCall.goal, ServerCall.acceptsCancel,
        ServerCall.releases]
  | feedback hstate hsent =>
      have hdecode := decodePacket_of_carries hR hwf hg
        (by simp [Notice.WellFormed]) hsent
      simp [serverLog, serverEntry, hdecode, ServerCall.goal,
        ServerCall.acceptsCancel, ServerCall.releases]
  | @complete _ _ status _ _ _ hmay hsent =>
      have hwell : (Notice.result status).WellFormed :=
        mayComplete_ne_unspecified hmay
      have hdecode := decodePacket_of_carries hR hwf hg hwell hsent
      by_cases hne : g = g' <;>
        simp [serverLog, serverEntry, hdecode, ServerCall.goal,
          ServerCall.acceptsCancel, ServerCall.releases, hne]
  | commitOnly hmay hfailed =>
      obtain rfl | ⟨key, data, rfl⟩ := hfailed <;>
        simp [serverLog, serverEntry]
  | completeLocally =>
      by_cases hne : g = g' <;>
        simp [serverLog, serverEntry, ServerCall.goal,
          ServerCall.acceptsCancel, ServerCall.releases, hne]

/-- What a step of a Goal sends can be read back. -/
theorem ServerGoalStep.decodes {b b' : Option ActionPacketBinding}
    {c c' : Option ServerGoalContext} {obs : List ServerObs}
    {es : List ServerEntry}
    (h : ServerGoalStep R routing g b c obs es b' c') {key : PduResolvedKey}
    {data : PduData}
    (hmem : ServerObs.effect (.send false key data true) ∈ obs) :
    ∃ packet, decodePacket R routing key data = some packet := by
  have hread {slot : ℕ} {notice : Notice} {key' : PduResolvedKey}
      {data' : PduData} (hnotice : notice.WellFormed)
      (hsent : Carries R routing slot g notice key' data')
      (hkey : key = key' ∧ data = data') :
      ∃ packet, decodePacket R routing key data = some packet := by
    rw [hkey.1, hkey.2]
    exact ⟨_, decodePacket_of_carries hR hwf hg hnotice hsent⟩
  cases h with
  | acceptGoal hstate hsent =>
      exact hread (by simp [Notice.WellFormed]) hsent (by simpa using hmem)
  | rejectGoal hstate hsent =>
      exact hread (by simp [Notice.WellFormed]) hsent (by simpa using hmem)
  | acceptCancel hstate hpending hsent =>
      exact hread (by simp [Notice.WellFormed]) hsent (by simpa using hmem)
  | rejectCancel hstate hpending hsent =>
      exact hread (by simp [Notice.WellFormed]) hsent (by simpa using hmem)
  | feedback hstate hsent =>
      exact hread (by simp [Notice.WellFormed]) hsent (by simpa using hmem)
  | @complete _ _ status _ _ _ hmay hsent =>
      have hwell : (Notice.result status).WellFormed :=
        mayComplete_ne_unspecified hmay
      exact hread hwell hsent (by simpa using hmem)
  | commitOnly hmay hfailed =>
      obtain rfl | ⟨key, data, rfl⟩ := hfailed <;> simp at hmem
  | _ => simp at hmem

omit hR hwf hg in
/-- A step of a Goal keeps its history in order, as long as no Runtime Cancel is
pending. -/
theorem GoalHistory.step {b b' : Option ActionPacketBinding}
    {c c' : Option ServerGoalContext} {obs : List ServerObs}
    {es : List ServerEntry}
    (h : ServerGoalStep R routing g b c obs es b' c') (hcorr : GoalCorr b c)
    (hclient : c ≠ some runtimePending)
    {ss : List (Section ℕ ServerEntry)} (hist : GoalHistory b ss) :
    GoalHistory b' (es.foldl (Section.enter ServerEntry.start) ss) := by
  cases hist with
  | closed hss =>
      cases h with
      | request => exact .active (Open.fresh g _) hss
  | @active b s rest hopen hrest =>
      have hsettled {s' : Section ℕ ServerEntry} (hs' : Settled s') :
          ∀ t ∈ s' :: rest, Settled t := by
        simpa using ⟨hs', hrest⟩
      cases h with
      | acceptGoal hstate =>
          cases hcorr with
          | undecided _ hpending =>
              exact .active (hopen.accepted hstate hpending _) hrest
      | rejectGoal hstate =>
          rw [Section.foldl_enter (by simp [ServerEntry.start])]
          exact .closed (hsettled (hopen.rejected hstate _))
      | discard hstate =>
          exact .closed (hsettled (hopen.settled.released_push hopen.released))
      | cancelRequest hstate hpending =>
          exact .active (hopen.cancelRequested hstate hpending) hrest
      | cancelSwallowed => exact absurd rfl hclient
      | runtimeCancel => exact .active hopen hrest
      | runtimeReclassify => exact .active hopen hrest
      | acceptCancel hstate hpending =>
          rw [Section.foldl_enter (by simp [ServerEntry.start])]
          exact .active (hopen.cancelAccepted hstate hpending _) hrest
      | acceptCancelLocally => exact absurd rfl hclient
      | rejectCancel hstate hpending =>
          exact .active (hopen.cancelRejected hstate hpending _) hrest
      | rejectRuntimeCancel => exact absurd rfl hclient
      | feedback hstate => exact .active (hopen.feedback hstate _) hrest
      | complete hmay =>
          rw [Section.foldl_enter (by simp [ServerEntry.start])]
          exact .closed (hsettled (hopen.completed hmay _))
      | commitOnly hmay => exact .active (hopen.committed hmay).1 hrest
      | completeLocally hmay =>
          rw [Section.foldl_enter (by simp [ServerEntry.start])]
          have hdone := (hopen.committed hmay).1
          have := hdone.settled.released_push hdone.released
          rw [Section.push_push] at this
          exact .closed (hsettled this)

end Steps

/-- A step seen through the return of a call makes no Runtime decision
pending. -/
theorem ServerGoalStep.client_of_returned {R : PduRegistry}
    {routing : List SlotRouting} {g : GoalId}
    {b b' : Option ActionPacketBinding} {c c' : Option ServerGoalContext}
    {obs : List ServerObs} {es : List ServerEntry}
    (h : ServerGoalStep R routing g b c obs es b' c')
    (hc : c ≠ some runtimePending) {call : ServerCall} {result : Bool}
    (hobs : ServerObs.returned call result ∈ obs) :
    c' ≠ some runtimePending := by
  cases h with
  | runtimeCancel => simp at hobs
  | runtimeReclassify => simp at hobs
  | cancelSwallowed => exact hc
  | feedback => exact hc
  | @commitOnly _ _ status => cases status <;> decide
  | _ => decide

/-! ## Steps of an Action and its logs -/

/-- The inputs of an Action on which no Runtime Cancel arrives and which reset
nothing. -/
def InstanceInput.ClientOnly : InstanceInput → Prop
  | .runtimeCancel _ | .clear => False
  | _ => True

namespace ServerActionInstance

/-- What holds of an Action and of everything that was seen of it. -/
structure History (R : PduRegistry) (routing : List SlotRouting)
    (inst : ServerActionInstance) (past : List ServerObs) : Prop where
  slotRouting_eq : inst.endpoint.slotRouting = routing
  invariant : inst.Invariant
  client : ∀ g, inst.context g ≠ some runtimePending
  history : ∀ g, GoalHistory (inst.binding g) (incarnations R routing g past)
  decodes : ∀ key data, .effect (.send false key data true) ∈ past →
    ∃ packet, decodePacket R routing key data = some packet

theorem Silent.serverLog_eq {obs : List ServerObs} (h : Silent obs)
    (R : PduRegistry) (routing : List SlotRouting) (g : GoalId) :
    serverLog R routing g obs = [] := by
  rw [serverLog, List.flatMap_eq_nil_iff]
  intro o ho
  obtain ⟨c, rfl⟩ | ⟨errorReply, key, data, ok, rfl, hfailed⟩ |
      ⟨g', slot, reason, rfl⟩ | ⟨event, rfl, htype⟩ := h o ho
  · simp [serverEntry]
  · rcases hfailed with rfl | rfl
    · rfl
    · cases errorReply <;> rfl
  · rfl
  · rfl

section Runs

variable {R : PduRegistry} {routing : List SlotRouting}
  {inst : ServerActionInstance} {past : List ServerObs}

theorem incarnations_append (g : GoalId) (past obs : List ServerObs) :
    incarnations R routing g (past ++ obs) =
      (serverLog R routing g obs).foldl (Section.enter ServerEntry.start)
        (incarnations R routing g past) := by
  rw [incarnations, serverLog, List.flatMap_append, Section.divide_append]
  rfl

theorem context_ne_runtimePending (hinv : inst.Invariant)
    (hclient : ∀ g, inst.context g ≠ some runtimePending)
    {i : InstanceInput} (hi : i.ClientOnly) (g : GoalId) :
    ((instanceMachine R).step inst i).1.context g ≠ some runtimePending := by
  cases i with
  | receive key data => exact hclient g
  | poll net =>
      have hcase := poll_cases (R := R) hinv net
      change (inst.pollEndpoint R net).state.context g ≠ _
      generalize (inst.pollEndpoint R net).state = inst' at hcase ⊢
      generalize (inst.pollEndpoint R net).result = result at hcase
      generalize inst.pollObs R net = obs at hcase
      cases hcase with
      | idle => exact hclient g
      | invalid => exact hclient g
      | cancelIgnored => exact hclient g
      | goalError => exact hclient g
      | goalRequest _ _ _ _ _ hupdate =>
          rw [hupdate.context_eq]
          split_ifs
          · decide
          · exact hclient g
      | cancelRequest _ _ _ _ _ _ _ _ _ hupdate =>
          rw [hupdate.context_eq]
          split_ifs
          · decide
          · exact hclient g
      | cancelSwallowed _ _ _ _ _ _ _ hcontext =>
          exact absurd hcontext (hclient _)
  | runtimeCancel event => exact hi.elim
  | call net c =>
      simp only [instanceMachine]
      split_ifs with hc
      · obtain ⟨hsame, -⟩ | ⟨⟨es, b, c', hstep, hupdate⟩, -⟩ :=
          call_cases (R := R) hinv net c
        · rw [hsame]
          exact hclient g
        · rw [hupdate.context_eq]
          split_ifs
          · exact hstep.client_of_returned (hclient _) (mem_callObs _ _)
          · exact hclient g
      · exact hclient g
  | stop => exact hclient g
  | clear => exact hi.elim

/-- Every step keeps the histories of all Goals in order. -/
theorem History.step (hR : R.Lawful) (h : History R routing inst past)
    {i : InstanceInput} (hi : i.ClientOnly) :
    History R routing ((instanceMachine R).step inst i).1
      (past ++ ((instanceMachine R).step inst i).2) := by
  have hinv' := h.invariant.step (R := R) i
  have hclient' := context_ne_runtimePending (R := R) h.invariant h.client hi
  have hclear : i ≠ .clear := by
    rintro rfl
    exact hi
  obtain ⟨hunmoved, hsilent⟩ | ⟨g, hg, es, b, c, hstep, hupdate⟩ :=
    step_cases (R := R) h.invariant hclear
  · refine ⟨hunmoved.slotRouting_eq.trans h.slotRouting_eq, hinv', hclient',
      ?_, ?_⟩
    · intro g
      rw [incarnations_append, hsilent.serverLog_eq, hunmoved.binding_eq]
      exact h.history g
    · intro key data hmem
      rcases List.mem_append.mp hmem with hmem | hmem
      · exact h.decodes key data hmem
      · rcases hsilent _ hmem with ⟨c, hc⟩ | ⟨_, _, _, _, heq, hfailed⟩ |
          ⟨_, _, _, heq⟩ | ⟨_, heq, _⟩
        · cases hc
        · cases heq
          simp at hfailed
        · cases heq
        · cases heq
  · rw [h.slotRouting_eq] at hstep
    have hwf := h.invariant.routing
    rw [h.slotRouting_eq] at hwf
    refine ⟨hupdate.endpoint.slotRouting_eq.trans h.slotRouting_eq, hinv',
      hclient', ?_, ?_⟩
    · intro g'
      rw [incarnations_append, hstep.serverLog_eq hR hwf hg,
        hupdate.binding_eq]
      by_cases hgg : g' = g
      · subst hgg
        rw [if_pos rfl, if_pos rfl]
        exact (h.history g').step hstep (h.invariant.corr g') (h.client g')
      · rw [if_neg hgg, if_neg (Ne.symm hgg)]
        exact h.history g'
    · intro key data hmem
      rcases List.mem_append.mp hmem with hmem | hmem
      · exact h.decodes key data hmem
      · exact hstep.decodes hR hwf hg hmem

/-- The history of a fresh Action. -/
theorem History.of_fresh (h : ActionServicesServer.Fresh inst) :
    History R inst.endpoint.slotRouting inst [] where
  slotRouting_eq := rfl
  invariant := invariant_of_fresh h
  client := by
    intro g
    simp [context, getGoal, h.goals_eq]
  history := by
    intro g
    have hbinding : inst.binding g = none := by
      rw [binding, h.endpoint_eq]
      rfl
    rw [hbinding]
    exact .closed (by simp [incarnations, serverLog])
  decodes := by simp

theorem History.run (hR : R.Lawful) {is : List InstanceInput}
    (h : History R routing inst [])
    (his : (instanceMachine R).Along (fun _ i => i.ClientOnly) inst is) :
    History R routing ((instanceMachine R).run inst is)
      ((instanceMachine R).trace inst is) :=
  (instanceMachine R).trace_invariant
    (I := fun inst past => History R routing inst past)
    (fun _ _ _ hi hI => hI.step hR hi) h his

end Runs

end ServerActionInstance

/-! ## Runs of the services -/

namespace ActionServicesServer

/-- Steps without a transport disconnect and without a reset. -/
def ClientOnly (_ : ActionServicesServer) (i : ServerInput) : Prop :=
  i ≠ .notifyTransportDisconnected ∧ i ≠ .clearAllInstances

/-- Along runs without a transport disconnect the queue of Runtime Cancels stays
empty. -/
def clientProjection (R : PduRegistry) (name : String) :
    Machine.Projection (serverMachine R) (instanceMachine R) ClientOnly :=
  (projection R name).restrict (fun _ _ _ => trivial)
    (fun s => s.pendingRuntimeEvents = [])
    (fun _ _ hi hs => pendingRuntimeEvents_step hi.1 hs)

theorem instanceInputs_clientOnly {R : PduRegistry} {name : String}
    {s : ActionServicesServer} {i : ServerInput} (hi : ClientOnly s i)
    (hs : s.pendingRuntimeEvents = []) :
    ∀ j ∈ instanceInputs R name s i, j.ClientOnly := by
  cases i with
  | receive key data => simp [instanceInputs, InstanceInput.ClientOnly]
  | poll net =>
      simp only [instanceInputs, hs, runtimeInputs, pollRuntimeEvents,
        Option.isSome_none, Bool.false_eq_true, if_false, List.nil_append]
      intro j hj
      obtain ⟨_, rfl⟩ := Fleet.mem_scanInputs hj
      trivial
  | call net actionName call =>
      simp only [instanceInputs]
      split_ifs <;> simp [InstanceInput.ClientOnly]
  | stopAllServices => simp [instanceInputs, InstanceInput.ClientOnly]
  | clearAllInstances => exact absurd rfl hi.2
  | notifyTransportDisconnected => exact absurd rfl hi.1

/-- The history of every Action along a run of the services. -/
theorem history_run {R : PduRegistry} (hR : R.Lawful)
    {s : ActionServicesServer} (hnodup : (s.actions.map (·.actionName)).Nodup)
    (hs : s.pendingRuntimeEvents = []) {inst : ServerActionInstance}
    (hinst : inst ∈ s.actions) (hfresh : Fresh inst) {is : List ServerInput}
    (his : (serverMachine R).Along ClientOnly s is) :
    ServerActionInstance.History R inst.endpoint.slotRouting
      (viewAction inst.actionName ((serverMachine R).run s is))
      (((serverMachine R).trace s is).flatMap
        (Fleet.observe inst.actionName)) := by
  have hget := getAction_of_mem hnodup hinst
  have hview : viewAction inst.actionName s = inst := by
    simp [viewAction, hget]
  let P := clientProjection R inst.actionName
  have hgood : P.Good s := ⟨⟨hnodup, inst, hget⟩, hs⟩
  obtain ⟨hrun, htrace⟩ := P.project hgood his
  have hinputs : (instanceMachine R).Along (fun _ i => i.ClientOnly) inst
      (P.runInputs s is) := by
    have := P.along_runInputs (D := fun _ i => i.ClientOnly)
      (fun s i hi hs => (instanceMachine R).along_of_forall
        (fun j hj _ => instanceInputs_clientOnly hi hs.2 j hj) _) hgood his
    change (instanceMachine R).Along _ (viewAction inst.actionName s) _ at this
    rwa [hview] at this
  have hhistory := (ServerActionInstance.History.of_fresh hfresh).run hR hinputs
  change viewAction inst.actionName _ =
    (instanceMachine R).run (viewAction inst.actionName s) _ at hrun
  change (((serverMachine R).trace s is).flatMap
      (Fleet.observe inst.actionName)) =
    (instanceMachine R).trace (viewAction inst.actionName s) _ at htrace
  rw [hview] at hrun htrace
  rw [hrun, htrace]
  exact hhistory

end ActionServicesServer

/-- What the packets of every Goal of an Action satisfy along a run: each of
them can be read, and in each incarnation of a Goal they are in order. -/
def ActionWireOrder (R : PduRegistry) (routing : List SlotRouting)
    (trace : List ServerObs) : Prop :=
  (∀ key data, .effect (.send false key data true) ∈ trace →
    ∃ packet, decodePacket R routing key data = some packet) ∧
  ∀ g, ∀ s ∈ incarnations R routing g trace, WireOrder s

/-- In every run without a transport disconnect and without a reset, the packets
that the server sends for each incarnation of a Goal are in wire order. -/
theorem server_wire_order (R : PduRegistry) (hR : R.Lawful)
    (nodeId implType : String) (endpointExists : String → Bool) (root : Json)
    (is : List ServerInput)
    (his : ∀ i ∈ is,
      i ≠ .notifyTransportDisconnected ∧ i ≠ .clearAllInstances)
    (inst : ServerActionInstance)
    (hinst : inst ∈
      (startedServer R nodeId implType endpointExists root).actions) :
    ActionWireOrder R inst.endpoint.slotRouting
      (((serverMachine R).trace
          (startedServer R nodeId implType endpointExists root) is).flatMap
        (Fleet.observe inst.actionName)) := by
  obtain ⟨hnodup, hfresh⟩ :=
    ActionServicesServer.startedServer_ok R nodeId implType endpointExists root
  have hpending := ActionServicesServer.pendingRuntimeEvents_started R nodeId
    implType endpointExists root
  have hclient : (serverMachine R).Along ActionServicesServer.ClientOnly
      (startedServer R nodeId implType endpointExists root) is :=
    (serverMachine R).along_of_forall (fun i hi _ => his i hi) _
  have hhistory := ActionServicesServer.history_run hR hnodup hpending hinst
    (hfresh inst hinst) hclient
  exact ⟨hhistory.decodes,
    fun g s hs => ((hhistory.history g).settled s hs).toWireOrder⟩

/-- The services with one Action and one slot. -/
def sampleServer : ActionServicesServer :=
  startedServer sampleRegistry "fibonacci-server" "ActionServerEndpointImpl"
    (fun _ => true) (fibonacciConfiguration 1)

theorem sampleServer_actions_ne_nil : sampleServer.actions ≠ [] :=
  List.ne_nil_of_length_pos (by decide +kernel)

/-- A Goal whose first Cancel is rejected and whose second one is accepted. -/
def canceledGoal : List ServerInput :=
  let net : SendOracle := fun _ _ => true
  let request : PduResolvedKey := ⟨"fibonacci", 0⟩
  let call (call : ServerCall) : ServerInput := .call net "fibonacci" call
  [.receive request (sampleRequest requestKindGoal), .poll net,
    call (.acceptGoal ⟨sampleGoalId⟩),
    call (.sendFeedback ⟨sampleGoalId⟩ samplePacket),
    .receive request (sampleRequest requestKindCancel), .poll net,
    call (.rejectCancel ⟨sampleGoalId⟩),
    .receive request (sampleRequest requestKindCancel), .poll net,
    call (.acceptCancel ⟨sampleGoalId⟩),
    call (.sendFeedback ⟨sampleGoalId⟩ samplePacket),
    call (.complete ⟨sampleGoalId⟩ .canceled samplePacket)]

/-- The packets of `canceledGoal`, and that they are in wire order. -/
theorem canceledGoal_wire_order :
    let inst := sampleServer.actions.head sampleServer_actions_ne_nil
    let trace := ((serverMachine sampleRegistry).trace sampleServer
      canceledGoal).flatMap
        (Fleet.observe inst.actionName)
    (incarnations sampleRegistry inst.endpoint.slotRouting sampleGoalId
        trace).map (fun s => notices s.entries) =
      [[.goalResponse .accepted, .feedback 0, .cancelResponse .rejected,
        .cancelResponse .accepted, .feedback 1, .result .canceled]] ∧
    ActionWireOrder sampleRegistry inst.endpoint.slotRouting trace :=
  ⟨by decide +kernel,
    server_wire_order sampleRegistry (layoutRegistry_lawful _)
      "fibonacci-server" "ActionServerEndpointImpl" (fun _ => true)
      (fibonacciConfiguration 1) canceledGoal
      (by simp [canceledGoal])
      (sampleServer.actions.head sampleServer_actions_ne_nil)
      (List.head_mem _)⟩

end HakoPduRpc.Action
